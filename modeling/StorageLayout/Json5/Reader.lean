import StorageLayout.Config.Value
import StorageLayout.Json5.Lexical

namespace StorageLayout.Json5

open StorageLayout.Text

def Literal.value : Literal → Value
  | integer value => .int value
  | float value => .float value

/-- Reads the code points of a text in quotes of either kind. -/
def string? : List Char → Option (Codes × Rest)
  | [] => none
  | quote :: rest =>
    if quote = singleQuote || quote = doubleQuote then quotedText quote (rest.length + 1) rest
    else none

/-- Reads the code points of the name of a member: a quoted text or an identifier. -/
def memberName (cs : List Char) : Option (Codes × Rest) :=
  match string? cs with
  | some read => some read
  | none => identifier cs

def words : List (String × Value) :=
  [("null", .null), ("true", .bool true), ("false", .bool false)]

/-- Reads a value that has no values inside. -/
def scalar (cs : List Char) : Option (Value × Rest) :=
  match string? cs with
  | some (codes, rest) => some (.ofCodes codes, rest)
  | none =>
    match words.findSome? fun (word, value) => (dropWord word cs).map fun rest => (value, rest) with
    | some read => some read
    | none => (number cs).map fun (literal, rest) => (literal.value, rest)

/-- The room for nested values, and what a list and a mapping take of it. Texts in which values are
nested deeper are not read. -/
structure Room where
  left : Nat
  list : Nat
  mapping : Nat

namespace Room

/-- Values may be nested as deep as they like. -/
def unlimited : Room := ⟨0, 0, 0⟩

/-- The room inside a value that takes some of it, if there is so much. -/
def enter (room : Room) (taken : Nat) : Option Room :=
  if room.left < taken then none else some { room with left := room.left - taken }

end Room

mutual

/-- Reads a value; `fuel` bounds the readings. -/
def value? (room : Room) : Nat → List Char → Option (Value × Rest)
  | 0, _ => none
  | fuel + 1, '[' :: rest =>
    do
      let inside ← room.enter room.list
      let rest ← skip rest
      let (items, rest) ← items? inside fuel rest
      return (.list items, rest)
  | fuel + 1, '\x7b' :: rest =>
    do
      let inside ← room.enter room.mapping
      let rest ← skip rest
      let (members, rest) ← members? inside fuel rest
      return (.object (Table.ofPairs members), rest)
  | _ + 1, cs => scalar cs

/-- Reads the items of a list up to its closing bracket; a comma may follow the last one. -/
def items? (room : Room) : Nat → List Char → Option (List Value × Rest)
  | 0, _ => none
  | _ + 1, ']' :: rest => some ([], rest)
  | fuel + 1, cs => do
    let (item, rest) ← value? room fuel cs
    let rest ← skip rest
    match rest with
    | ',' :: rest =>
      let rest ← skip rest
      let (items, rest) ← items? room fuel rest
      return (item :: items, rest)
    | ']' :: rest => return ([item], rest)
    | _ => none

/-- Reads the members of a mapping up to its closing bracket; a comma may follow the last one. -/
def members? (room : Room) : Nat → List Char → Option (List (String × Value) × Rest)
  | 0, _ => none
  | _ + 1, '\x7d' :: rest => some ([], rest)
  | fuel + 1, cs => do
    let (name, rest) ← memberName cs
    match ← skip rest with
    | ':' :: rest =>
      let (value, rest) ← value? room fuel (← skip rest)
      let rest ← skip rest
      match rest with
      | ',' :: rest =>
        let (members, rest) ← members? room fuel (← skip rest)
        return (Value.entryOfCodes name value :: members, rest)
      | '\x7d' :: rest => return ([Value.entryOfCodes name value], rest)
      | _ => none
    | _ => none

end

/-- The value of a text. Two readings of values never start at the same character, so twice the
length of the text bounds them. -/
def read? (room : Room) (text : String) : Option Value := do
  let cs ← skip text.toList
  let (value, rest) ← value? room (2 * cs.length + 2) cs
  match ← skip rest with
  | [] => return value
  | _ => none

end StorageLayout.Json5
