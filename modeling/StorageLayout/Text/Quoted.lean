import StorageLayout.Text.Codes
import StorageLayout.Text.Graphic

namespace StorageLayout.Text

/-- The lower-case hexadecimal digits of a number, filled up with zeros to at least `width`. -/
def hexadecimal (width number : Nat) : List Char :=
  let digits := Nat.toDigits 16 number
  List.replicate (width - digits.length) '0' ++ digits

def singleQuote : Char := '\x27'

def doubleQuote : Char := '\x22'

def backslash : Char := '\x5c'

/-- The quote around a text: the double one only where it saves escaping a single one. -/
def quoteFor (codes : Codes) : Char :=
  if codes.contains (.char singleQuote) && !codes.contains (.char doubleQuote) then doubleQuote
  else singleQuote

/-- A code point by its number, in as many digits as its size asks for. -/
def escapeNumber (number : Nat) : List Char :=
  if number < 0x100 then backslash :: 'x' :: hexadecimal 2 number
  else if number < 0x10000 then backslash :: 'u' :: hexadecimal 4 number
  else backslash :: 'U' :: hexadecimal 8 number

/-- One character inside the given quote. -/
def escapeIn (quote c : Char) : List Char :=
  if c = quote || c = backslash then [backslash, c]
  else if c = '\n' then [backslash, 'n']
  else if c = '\r' then [backslash, 'r']
  else if c = '\t' then [backslash, 't']
  else if isGraphic c then [c]
  else escapeNumber c.toNat

/-- One code point inside the given quote; half of a surrogate pair never shows. -/
def escapeCode (quote : Char) : Code → List Char
  | .char c => escapeIn quote c
  | code => escapeNumber code.number

/-- A text between quotes, with everything escaped that would end it or not show. -/
def quoted (codes : Codes) : String :=
  let quote := quoteFor codes
  String.ofList (quote :: codes.flatMap (escapeCode quote) ++ [quote])

def asciiOnly (text : String) : String :=
  String.ofList (text.toList.flatMap fun c =>
    if c.toNat < 0x80 then [c] else escapeNumber c.toNat)

/-- Raw data between quotes, byte by byte; only printable ASCII shows as itself. -/
def quotedBytes (data : List UInt8) : String :=
  let cs := data.map fun byte => Char.ofNat byte.toNat
  let quote := quoteFor (cs.map .char)
  let escape (c : Char) : List Char :=
    if c.toNat < 0x7F then escapeIn quote c else escapeNumber c.toNat
  String.ofList ('b' :: quote :: cs.flatMap escape ++ [quote])

end StorageLayout.Text
