import StorageLayout.Config.Display
import StorageLayout.Number.IntegerText

namespace StorageLayout

/-- What a JSON text holds. -/
inductive Json where
  | null
  | bool (truth : Bool)
  | int (value : Int)
  | float (value : Binary64)
  | text (codes : Codes)
  | list (items : List Json)
  | object (members : List (Codes × Json))
  deriving Inhabited

namespace Json

open StorageLayout.Text

/-- The control characters with a short escape, and its letter. -/
def shortEscapes : List (Char × Char) :=
  [('\n', 'n'), ('\r', 'r'), ('\t', 't'), ('\x08', 'b'), ('\x0c', 'f')]

/-- One character inside a JSON string. -/
def escapeChar (c : Char) : List Char :=
  if c = doubleQuote || c = backslash then [backslash, c]
  else
    match shortEscapes.lookup c with
    | some letter => [backslash, letter]
    | none => if c.toNat < 0x20 then backslash :: 'u' :: hexadecimal 4 c.toNat else [c]

/-- One code point inside a JSON string. -/
def escapeCode : Code → Codes
  | .char c => (escapeChar c).map .char
  | half => [half]

def encodeText (codes : Codes) : Codes :=
  .char doubleQuote :: codes.flatMap escapeCode ++ [.char doubleQuote]

/-- A number as it is written; what is no finite number has a name. -/
def floatText : Binary64 → String
  | .nan => "NaN"
  | .infinite negative => if negative then "-Infinity" else "Infinity"
  | number => number.text

mutual

/-- The JSON text of a value. -/
def encode : Json → Codes
  | null => "null"
  | bool truth => if truth then "true" else "false"
  | int value => toString value
  | float value => floatText value
  | text codes => encodeText codes
  | list items => .char '[' :: encodeItems items ++ [.char ']']
  | object members => .char '\x7b' :: encodeMembers members ++ [.char '\x7d']

def encodeItems : List Json → Codes
  | [] => []
  | item :: items =>
    if items.isEmpty then encode item else encode item ++ .char ',' :: encodeItems items

def encodeMembers : List (Codes × Json) → Codes
  | [] => []
  | (name, value) :: members =>
    let member := encodeText name ++ .char ':' :: encode value
    if members.isEmpty then member else member ++ .char ',' :: encodeMembers members

end

/-- Whether an integer has so many digits that it cannot be written. -/
def isLong (value : Int) : Bool := Nat.pow 10 Number.maxDigits ≤ value.natAbs

mutual

/-- Whether there is an integer in a value that cannot be written. -/
def hasLong : Json → Bool
  | int value => isLong value
  | list items => hasLongItem items
  | object members => hasLongMember members
  | _ => false

def hasLongItem : List Json → Bool
  | [] => false
  | item :: items => hasLong item || hasLongItem items

def hasLongMember : List (Codes × Json) → Bool
  | [] => false
  | (_, value) :: members => hasLong value || hasLongMember members

end

end Json

namespace Value

mutual

/-- A value as JSON can hold it: paths and other values that JSON does not know are text. -/
def toJson : Value → Json
  | null => .null
  | bool truth => .bool truth
  | int value => .int value
  | float value => .float value
  | list items => .list (itemsToJson items)
  | mapping access entries =>
    if access.isWritable then .object (entriesToJson entries)
    else .text (mapping access entries).plainCodes
  | value => .text value.plainCodes

def itemsToJson : List Value → List Json
  | [] => []
  | item :: items => toJson item :: itemsToJson items

def entriesToJson : List (String × Value) → List (Codes × Json)
  | [] => []
  | (name, value) :: entries => (nameCodes (name, value), toJson value) :: entriesToJson entries

end

end Value

end StorageLayout
