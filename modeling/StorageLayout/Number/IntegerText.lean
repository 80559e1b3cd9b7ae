import StorageLayout.Text.Blank

/-! Integers written in text, with single underscores between digits. There are two readers: the
strict one takes digits of every script and nothing but an integer; the lenient one takes ASCII
digits, skips leading zeros however they are spaced, and allows a fraction of zeros. -/

namespace StorageLayout.Number

open StorageLayout.Text

/-- The code points of the digit zero in every script with decimal digits; nine digits follow
each. -/
def zeroDigits : List Nat :=
  [0x30, 0x660, 0x6F0, 0x7C0, 0x966, 0x9E6, 0xA66, 0xAE6, 0xB66, 0xBE6, 0xC66, 0xCE6, 0xD66,
   0xDE6, 0xE50, 0xED0, 0xF20, 0x1040, 0x1090, 0x17E0, 0x1810, 0x1946, 0x19D0, 0x1A80, 0x1A90,
   0x1B50, 0x1BB0, 0x1C40, 0x1C50, 0xA620, 0xA8D0, 0xA900, 0xA9D0, 0xA9F0, 0xAA50, 0xABF0,
   0xFF10, 0x104A0, 0x10D30, 0x11066, 0x110F0, 0x11136, 0x111D0, 0x112F0, 0x11450, 0x114D0,
   0x11650, 0x116C0, 0x11730, 0x118E0, 0x11950, 0x11C50, 0x11D50, 0x11DA0, 0x16A60, 0x16AC0,
   0x16B50, 0x1D7CE, 0x1D7D8, 0x1D7E2, 0x1D7EC, 0x1D7F6, 0x1E140, 0x1E2F0, 0x1E950, 0x1FBF0]

def digitValue? (c : Char) : Option Nat :=
  (zeroDigits.find? fun start => start ≤ c.toNat && c.toNat < start + 10).map (c.toNat - ·)

def asciiDigitValue? (c : Char) : Option Nat :=
  if '0' ≤ c && c ≤ '9' then some (c.toNat - '0'.toNat) else none

/-- The number that ASCII digits stand for. -/
def ofDigits (digits : List Char) : Nat :=
  digits.foldl (fun value c => 10 * value + (c.toNat - '0'.toNat)) 0

/-- Drops single underscores that stand between other characters; there may be no other ones. -/
def dropUnderscores : List Char → Option (List Char)
  | [] => some []
  | ['_'] => none
  | '_' :: '_' :: _ => none
  | '_' :: rest => dropUnderscores rest
  | c :: rest => (dropUnderscores rest).map (c :: ·)

/-- Drops single underscores between characters; none may stand at the start. -/
def unspaced : List Char → Option (List Char)
  | '_' :: _ => none
  | cs => dropUnderscores cs

/-- Why a text is no integer. -/
inductive IntegerTextProblem where
  | unread
  | tooLong (digits : Nat)
  deriving DecidableEq, Repr

def maxDigits : Nat := 4300

/-- Splits a sign off; `true` is a minus. -/
def splitSign : List Char → Bool × List Char
  | '-' :: rest => (true, rest)
  | '+' :: rest => (false, rest)
  | cs => (false, cs)

/-- The integer that digits stand for. -/
def ofDigitValues (negative : Bool) (digits : List Nat) : Int :=
  let value : Int := (digits.foldl (fun value digit => 10 * value + digit) 0 : Nat)
  if negative then -value else value

/-- Reads an integer, with white space around it ignored. Too many digits are found before anything
that stands behind them. -/
def integer (cs : List Char) : Except IntegerTextProblem Int :=
  let (negative, body) := splitSign (trimChars isWhite cs)
  let (run, rest) := body.span fun c => c = '_' || (digitValue? c).isSome
  match unspaced run with
  | none => .error .unread
  | some digits =>
    if maxDigits < digits.length then .error (.tooLong digits.length)
    else if digits.isEmpty || !rest.isEmpty then .error .unread
    else .ok (ofDigitValues negative (digits.filterMap digitValue?))

/-- Whether a character can follow the leading zeros of an integer. -/
def startsInteger (c : Char) : Bool := '1' ≤ c && c ≤ '9'

/-- Drops zeros and underscores after a leading zero. If nothing follows, the last one of them
stays; a minus may follow. -/
def dropZeros (last : Char) : List Char → Option (List Char)
  | [] => some [last]
  | c :: rest =>
    if c = '0' || c = '_' then dropZeros c rest
    else if c = '-' || startsInteger c then some (c :: rest)
    else none

/-- Drops the leading zeros of an integer. -/
def withoutLeadingZeros : List Char → Option (List Char)
  | [] => none
  | c :: rest =>
    if c = '0' then dropZeros c rest
    else if startsInteger c then some (c :: rest)
    else none

/-- Drops the leading zeros behind a sign, and the sign itself if it is a plus. -/
def withoutZeros : List Char → Option (List Char)
  | '-' :: rest => (withoutLeadingZeros rest).map ('-' :: ·)
  | '+' :: rest => withoutLeadingZeros rest
  | cs => withoutLeadingZeros cs

/-- Drops a decimal point with zeros behind it, of which there has to be one. -/
def withoutZeroFraction (cs : List Char) : List Char :=
  match cs.dropWhile (· ≠ '.') with
  | '.' :: '0' :: zeros => if zeros.all (· = '0') then cs.takeWhile (· ≠ '.') else cs
  | _ => cs

def splitMinus : List Char → Bool × List Char
  | '-' :: rest => (true, rest)
  | cs => (false, cs)

/-- Reads digits behind an optional minus. There is no zero in front of other digits, and the minus
counts as a digit. Too many of them are found before anything that stands behind them. -/
def plainInteger (cs : List Char) : Except IntegerTextProblem Int :=
  let (negative, body) := splitMinus cs
  let (digits, rest) := body.span Char.isDigit
  let count := cs.length - rest.length
  match digits with
  | [] => .error .unread
  | '0' :: _ :: _ => .error .unread
  | _ =>
    if maxDigits < count then .error (.tooLong count)
    else if !rest.isEmpty then .error .unread
    else .ok (ofDigitValues negative (digits.filterMap asciiDigitValue?))

def plainForm (cs : List Char) : Option (List Char) :=
  (withoutZeros (withoutZeroFraction (trimChars isWhite cs))).bind unspaced

/-- Reads an integer leniently, with white space around it ignored. What is left out does not count
as digits. A text has too many digits only if it is in plain form. -/
def wholeNumber (cs : List Char) : Except IntegerTextProblem Int :=
  match plainInteger cs with
  | .ok number => .ok number
  | .error (.tooLong digits) => .error (.tooLong digits)
  | .error .unread =>
    match (plainForm cs).map plainInteger with
    | some (.ok number) => .ok number
    | _ => .error .unread

end StorageLayout.Number
