import StorageLayout.Config.Display
import StorageLayout.Number.IntegerText

namespace StorageLayout

/-- Why a value cannot be turned into an integer, or an integer into what it is needed as. -/
inductive NumberProblem where
  | nan
  | infinite
  | notDigits (shown : String)
  | tooLong (digits : Nat)
  | notNumber (typeName : String)
  | tooLarge
  | tooLongToShow
  deriving DecidableEq, Repr

def NumberProblem.shownLength : Nat := 200

def NumberProblem.message : NumberProblem → String
  | nan => "cannot convert float NaN to integer"
  | infinite => "cannot convert float infinity to integer"
  | notDigits shown =>
    "invalid literal for int() with base 10: " ++ String.ofList (shown.toList.take shownLength)
  | tooLong digits =>
    "Exceeds the limit (4300 digits) for integer string conversion: value has " ++
      toString digits ++ " digits; use sys.set_int_max_str_digits() to increase the limit"
  | notNumber typeName =>
    "int() argument must be a string, a bytes-like object or a real number, not '" ++ typeName ++
      "'"
  | tooLarge => "int too large to convert to float"
  | tooLongToShow =>
    "Exceeds the limit (4300 digits) for integer string conversion; " ++
      "use sys.set_int_max_str_digits() to increase the limit"

namespace Value

/-- Reads an integer from characters; `shown` is how a diagnostic shows them. -/
def integerOfText (cs : List Char) (shown : String) : Except NumberProblem Int :=
  match Number.integer cs with
  | .ok number => .ok number
  | .error .unread => .error (.notDigits shown)
  | .error (.tooLong digits) => .error (.tooLong digits)

/-- The character that a byte stands for in a number; those beyond ASCII stand for nothing. -/
def byteChar (byte : UInt8) : Char :=
  if byte < 0x80 then Char.ofNat byte.toNat else '\ufffd'

/-- As much of raw data as is shown if it cannot be read. -/
def shownData (data : List UInt8) : String :=
  Text.quotedBytes (data.take NumberProblem.shownLength)

/-- The integer part of a number. -/
def integerOfFloat (number : Binary64) : Except NumberProblem Int :=
  match number, number.truncate? with
  | .nan, _ => .error .nan
  | _, some value => .ok value
  | _, none => .error .infinite

/-- The integer that a value stands for: fractions are dropped, and texts are read, as are bytes
that are ASCII text. -/
def toInteger : Value → Except NumberProblem Int
  | bool truth => .ok (if truth then 1 else 0)
  | int value => .ok value
  | float value => integerOfFloat value
  | text value => integerOfText value.toList (Text.quoted value)
  | brokenText broken => .error (.notDigits (Text.quoted broken.codes))
  | bytes data => integerOfText (data.map byteChar) (shownData data)
  | value => .error (.notNumber value.typeName)

end Value

end StorageLayout
