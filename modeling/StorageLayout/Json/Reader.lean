import StorageLayout.Json.Writer
import StorageLayout.Json5.Lexical

/-! Reading a JSON text. The whole text has to be one value with white space around it; nothing that
JSON itself does not have is taken. Of members with the same name the last one counts, and numbers
without a point and an exponent are integers. -/

namespace StorageLayout.Json

open StorageLayout.Text

/-- What is left of a text after something was read from it. -/
abbrev Rest := Codes

def isSpace (code : Code) : Bool :=
  code = .char ' ' || code = .char '\n' || code = .char '\r' || code = .char '\t'

def skip (codes : Codes) : Rest := codes.dropWhile isSpace

/-- The characters that may stand behind a backslash, and what each of them stands for. -/
def escapes : List (Char × Char) :=
  [(doubleQuote, doubleQuote), (backslash, backslash), ('/', '/'), ('b', '\x08'), ('f', '\x0c'),
   ('n', '\n'), ('r', '\r'), ('t', '\t')]

/-- A piece of a text: a code point, or the number that four digits behind a backslash stand for. -/
inductive Piece where
  | code (code : Code)
  | number (number : Nat)

/-- Reads the pieces of a text up to its closing quote. Control characters may not stand in a text
as they are. -/
def textPieces : Codes → Option (List Piece × Rest)
  | [] => none
  | .char '\x22' :: rest => some ([], rest)
  | .char '\x5c' :: .char 'u' ::
      .char first :: .char second :: .char third :: .char fourth :: rest =>
    (Json5.hexNumber? 0 [first, second, third, fourth]).bind fun number =>
      (textPieces rest).map fun (pieces, left) => (.number number :: pieces, left)
  | .char '\x5c' :: .char letter :: rest =>
    (escapes.lookup letter).bind fun meant =>
      (textPieces rest).map fun (pieces, left) => (.code (.char meant) :: pieces, left)
  | code :: rest =>
    if code = .char backslash || code.number < 0x20 then none
    else (textPieces rest).map fun (pieces, left) => (.code code :: pieces, left)
termination_by structural codes => codes

def isHighHalf (number : Nat) : Bool := 0xD800 ≤ number && number ≤ 0xDBFF

def isLowHalf (number : Nat) : Bool := 0xDC00 ≤ number && number ≤ 0xDFFF

/-- The code points of pieces: two numbers that are the halves of a surrogate pair make one. -/
def joinPieces : List Piece → Codes
  | .number high :: .number low :: rest =>
    if isHighHalf high && isLowHalf low then
      .ofNumber (0x10000 + (high - 0xD800) * 0x400 + (low - 0xDC00)) :: joinPieces rest
    else .ofNumber high :: joinPieces (.number low :: rest)
  | .number number :: rest => .ofNumber number :: joinPieces rest
  | .code code :: rest => code :: joinPieces rest
  | [] => []

/-- Reads a text behind its opening quote. -/
def textCodes (codes : Codes) : Option (Codes × Rest) :=
  (textPieces codes).map fun (pieces, rest) => (joinPieces pieces, rest)

/-- The power of ten that an exponent stands for, which has to have a digit. -/
def power? : Option (Bool × List Char) → Option Int
  | none => some 0
  | some (_, []) => none
  | some (below, written) =>
    let size : Int := Number.ofDigits written
    some (if below then -size else size)

/-- The number that a decimal stands for. A point has to have a digit on each side, no other digit
may follow a leading zero, and an integer may not be too long. -/
def numberOf (negative : Bool) (decimal : Json5.DecimalText) : Option Json :=
  if decimal.whole.isEmpty || decimal.hasLeadingZero || decimal.fraction = some [] then none
  else
    match decimal.fraction, decimal.exponent with
    | none, none =>
      if Number.maxDigits < decimal.whole.length then none
      else
        let size : Int := Number.ofDigits decimal.whole
        some (.int (if negative then -size else size))
    | fraction, exponent =>
      let behind := fraction.getD []
      (power? exponent).map fun power =>
        .float (Binary64.ofDecimal negative (Number.ofDigits (decimal.whole ++ behind))
          (power - behind.length))

def number (cs : List Char) : Option (Json × List Char) :=
  let (negative, body) := Number.splitMinus cs
  let (decimal, rest) := Json5.decimalText body
  (numberOf negative decimal).map fun value => (value, rest)

def words : List (String × Json) := [("null", null), ("true", bool true), ("false", bool false)]

/-- Reads a value that is a word or a number. -/
def plainValue (cs : List Char) : Option (Json × List Char) :=
  match words.findSome? fun (word, value) =>
    (Json5.dropWord word cs).map fun rest => (value, rest) with
  | some read => some read
  | none => number cs

/-- Splits the characters in front of the first half of a surrogate pair off. -/
def leading : Codes → List Char × Rest
  | .char c :: rest => (c :: (leading rest).1, (leading rest).2)
  | rest => ([], rest)

/-- The members of an object: a name stays at its first place, with its last value. -/
def ofMembers : List (Codes × Json) → List (Codes × Json)
  | [] => []
  | (name, value) :: rest =>
    let others := ofMembers rest
    (name, (others.lookup name).getD value) :: others.filter fun member => member.1 ≠ name

mutual

/-- Reads a value; `fuel` bounds the readings. -/
def value? : Nat → Codes → Option (Json × Rest)
  | 0, _ => none
  | _ + 1, .char '\x22' :: rest => (textCodes rest).map fun (codes, rest) => (.text codes, rest)
  | fuel + 1, .char '[' :: rest =>
    match skip rest with
    | .char ']' :: rest => some (.list [], rest)
    | rest => (items? fuel rest).map fun (items, rest) => (.list items, rest)
  | fuel + 1, .char '\x7b' :: rest =>
    match skip rest with
    | .char '\x7d' :: rest => some (.object [], rest)
    | rest => (members? fuel rest).map fun (members, rest) => (.object (ofMembers members), rest)
  | _ + 1, codes =>
    (plainValue (leading codes).1).map fun (value, rest) =>
      (value, rest.map .char ++ (leading codes).2)

/-- Reads the items of a list, of which there is one at least, up to its closing bracket. -/
def items? : Nat → Codes → Option (List Json × Rest)
  | 0, _ => none
  | fuel + 1, codes => do
    let (item, rest) ← value? fuel codes
    match skip rest with
    | .char ',' :: rest =>
      let (items, rest) ← items? fuel (skip rest)
      return (item :: items, rest)
    | .char ']' :: rest => return ([item], rest)
    | _ => none

/-- Reads the members of an object, of which there is one at least, up to its closing bracket. -/
def members? : Nat → Codes → Option (List (Codes × Json) × Rest)
  | fuel + 1, .char '\x22' :: rest => do
    let (name, rest) ← textCodes rest
    match skip rest with
    | .char ':' :: rest =>
      let (value, rest) ← value? fuel (skip rest)
      match skip rest with
      | .char ',' :: rest =>
        let (members, rest) ← members? fuel (skip rest)
        return ((name, value) :: members, rest)
      | .char '\x7d' :: rest => return ([(name, value)], rest)
      | _ => none
    | _ => none
  | _, _ => none

end

/-- The value of a text. Two readings at most start at the same code point, so twice the length of
the text bounds them. -/
def read? (text : Codes) : Option Json := do
  let codes := skip text
  let (value, rest) ← value? (2 * codes.length) codes
  match skip rest with
  | [] => return value
  | _ => none

end StorageLayout.Json
