import StorageLayout.Number.Binary64
import StorageLayout.Number.IntegerText
import StorageLayout.Text.Blank
import StorageLayout.Text.Codes
import StorageLayout.Text.Identifier
import StorageLayout.Text.Quoted

namespace StorageLayout.Json5

open StorageLayout.Text

/-- What is left of a text after something was read from it. -/
abbrev Rest := List Char

/-- A line end ends a line comment, and is left out of quoted text if a backslash stands before
it. -/
def isLineEnd (c : Char) : Bool :=
  c = '\n' || c = '\r' || c.toNat = 0x2028 || c.toNat = 0x2029

/-- The ranges of the space characters of Unicode, tabs and the byte order mark. -/
def spaceRanges : List (Nat × Nat) :=
  [(0x09, 0x09), (0x0B, 0x0C), (0x20, 0x20), (0xA0, 0xA0), (0x1680, 0x1680), (0x2000, 0x200A),
   (0x202F, 0x202F), (0x205F, 0x205F), (0x3000, 0x3000), (0xFEFF, 0xFEFF)]

/-- A line break may not stand in quoted text on its own; the separators of Unicode may. -/
def isLineBreak (c : Char) : Bool := c = '\n' || c = '\r'

def isSpace (c : Char) : Bool := isLineEnd c || inRanges spaceRanges c.toNat

/-- Where a reader stands between words. -/
inductive Gap where
  | space
  | lineComment
  | blockComment

/-- Skips white space and comments; a block comment has to be closed. -/
def skipFrom : Gap → List Char → Option Rest
  | .space, '/' :: '/' :: rest => skipFrom .lineComment rest
  | .space, '/' :: '*' :: rest => skipFrom .blockComment rest
  | .space, c :: rest => if isSpace c then skipFrom .space rest else some (c :: rest)
  | .lineComment, c :: rest => skipFrom (if isLineEnd c then .space else .lineComment) rest
  | .blockComment, '*' :: '/' :: rest => skipFrom .space rest
  | .blockComment, _ :: rest => skipFrom .blockComment rest
  | .blockComment, [] => none
  | _, [] => some []

def skip (cs : List Char) : Option Rest := skipFrom .space cs

/-- The value of a hexadecimal digit. -/
def hexValue? (c : Char) : Option Nat :=
  if '0' ≤ c && c ≤ '9' then some (c.toNat - '0'.toNat)
  else if 'a' ≤ c && c ≤ 'f' then some (c.toNat - 'a'.toNat + 10)
  else if 'A' ≤ c && c ≤ 'F' then some (c.toNat - 'A'.toNat + 10)
  else none

/-- The number that hexadecimal digits stand for, all of which have to be such digits. -/
def hexNumber? : Nat → List Char → Option Nat
  | value, [] => some value
  | value, c :: rest =>
    match hexValue? c with
    | some digit => hexNumber? (16 * value + digit) rest
    | none => none

/-- The code point that four hexadecimal digits stand for. -/
def unicodeEscape : List Char → Option (Code × Rest)
  | a :: b :: c :: d :: rest =>
    (hexNumber? 0 [a, b, c, d]).map fun number => (.ofNumber number, rest)
  | _ => none

/-- The characters that a letter after a backslash stands for. -/
def letterEscapes : List (Char × Char) :=
  [('b', '\x08'), ('f', '\x0c'), ('n', '\n'), ('r', '\r'), ('t', '\t'), ('v', '\x0b')]

/-- Reads the code points of quoted text up to its closing quote; `fuel` bounds them. -/
def quotedText (quote : Char) : Nat → List Char → Option (Codes × Rest)
  | 0, _ => none
  | _, [] => none
  | fuel + 1, c :: rest =>
    let add (code : Code) (rest : List Char) : Option (Codes × Rest) :=
      (quotedText quote fuel rest).map fun (codes, left) => (code :: codes, left)
    if c = quote then some ([], rest)
    else if isLineBreak c then none
    else if c = backslash then
      match rest with
      | [] => none
      | '\r' :: '\n' :: rest => quotedText quote fuel rest
      | 'x' :: a :: b :: rest =>
        (hexNumber? 0 [a, b]).bind fun number => add (.ofNumber number) rest
      | 'u' :: rest => (unicodeEscape rest).bind fun (code, rest) => add code rest
      | '0' :: rest =>
        match rest with
        | next :: _ => if next.isDigit then none else add (.char '\x00') rest
        | [] => none
      | letter :: rest =>
        if isLineEnd letter then quotedText quote fuel rest
        else if letter.isDigit || letter = 'x' then none
        else add (.char ((letterEscapes.lookup letter).getD letter)) rest
    else add (.char c) rest

/-- Reads one code point of an identifier: a character of a class as it stands, or any code point at
all as an escape. -/
def identifierCode (belongs : Char → Bool) : List Char → Option (Code × Rest)
  | [] => none
  | c :: rest =>
    if belongs c then some (.char c, rest)
    else if c = backslash then
      match rest with
      | 'u' :: rest => unicodeEscape rest
      | _ => none
    else none

/-- Reads the code points of an identifier after the first one; `fuel` bounds them. -/
def identifierTail : Nat → List Char → Codes × Rest
  | 0, cs => ([], cs)
  | fuel + 1, cs =>
    match identifierCode continuesIdentifier cs with
    | none => ([], cs)
    | some (code, rest) =>
      let (codes, left) := identifierTail fuel rest
      (code :: codes, left)

/-- Reads the code points of an identifier. -/
def identifier (cs : List Char) : Option (Codes × Rest) :=
  (identifierCode startsIdentifier cs).map fun (first, rest) =>
    let (codes, left) := identifierTail rest.length rest
    (first :: codes, left)

/-- A number as it is written: digits before the point, behind it, and the exponent. -/
structure DecimalText where
  whole : List Char
  fraction : Option (List Char)
  exponent : Option (Bool × List Char)

def digits (cs : List Char) : List Char × Rest := cs.span Char.isDigit

/-- Splits an exponent off, if there is one. -/
def exponentText (cs : List Char) : Option (Bool × List Char) × Rest :=
  let signed : List Char → Option (Bool × List Char) × Rest
    | '-' :: rest => (some (true, (digits rest).1), (digits rest).2)
    | '+' :: rest => (some (false, (digits rest).1), (digits rest).2)
    | rest => (some (false, (digits rest).1), (digits rest).2)
  match cs with
  | 'e' :: rest => signed rest
  | 'E' :: rest => signed rest
  | _ => (none, cs)

/-- Splits a decimal number off. -/
def decimalText (cs : List Char) : DecimalText × Rest :=
  let (whole, rest) := digits cs
  let (fraction, rest) :=
    match rest with
    | '.' :: rest => (some (digits rest).1, (digits rest).2)
    | _ => (none, rest)
  let (exponent, rest) := exponentText rest
  (⟨whole, fraction, exponent⟩, rest)

/-- A number that a text can hold. -/
inductive Literal where
  | integer (value : Int)
  | float (value : Binary64)

namespace DecimalText

/-- No other digit may follow a leading zero. -/
def hasLeadingZero (text : DecimalText) : Bool :=
  match text.whole with
  | '0' :: _ :: _ => true
  | _ => false

/-- The number that a decimal stands for: an integer unless a point or an exponent is written. There
has to be a digit around the point, and one in the exponent. -/
def number? (negative : Bool) (text : DecimalText) : Option Literal :=
  if text.hasLeadingZero then none
  else
    match text.fraction, text.exponent with
    | none, none =>
      if text.whole.isEmpty || Number.maxDigits < text.whole.length then none
      else
        let value : Int := Number.ofDigits text.whole
        some (.integer (if negative then -value else value))
    | fraction, exponent =>
      let behind := fraction.getD []
      let power : Option Int :=
        match exponent with
        | none => some 0
        | some (_, []) => none
        | some (below, written) =>
          let size : Int := Number.ofDigits written
          some (if below then -size else size)
      if text.whole.isEmpty && behind.isEmpty then none
      else power.map fun power =>
        .float (Binary64.ofDecimal negative (Number.ofDigits (text.whole ++ behind))
          (power - behind.length))

end DecimalText

def dropWord (word : String) (cs : List Char) : Option Rest :=
  if word.toList.isPrefixOf cs then some (cs.drop word.length) else none

/-- Reads a number behind its sign. A hexadecimal one is an integer. -/
def unsigned (negative : Bool) (cs : List Char) : Option (Literal × Rest) :=
  match dropWord "Infinity" cs, dropWord "NaN" cs with
  | some rest, _ => some (.float (.infinite negative), rest)
  | none, some rest => some (.float .nan, rest)
  | none, none =>
    match dropWord "0x" cs, dropWord "0X" cs with
    | none, none =>
      let (text, rest) := decimalText cs
      (text.number? negative).map fun value => (value, rest)
    | some rest, _ => hexadecimalAfter rest
    | none, some rest => hexadecimalAfter rest
where
  /-- Reads hexadecimal digits, of which there has to be one. -/
  hexadecimalAfter (cs : List Char) : Option (Literal × Rest) :=
    let (written, rest) := cs.span fun c => (hexValue? c).isSome
    if written.isEmpty then none
    else (hexNumber? 0 written).map fun value =>
      (.integer (if negative then -(value : Int) else value), rest)

/-- Reads a number, which may have one sign. -/
def number : List Char → Option (Literal × Rest)
  | '+' :: rest => unsigned false rest
  | '-' :: rest => unsigned true rest
  | cs => unsigned false cs

end StorageLayout.Json5
