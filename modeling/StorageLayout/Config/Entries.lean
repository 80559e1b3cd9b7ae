import StorageLayout.Config.Document
import StorageLayout.Failure

namespace StorageLayout.Value

/-- The key that a value is. Lists and mappings are no keys. -/
def entryKey : Value → Except Failure EntryKey
  | list items => .error (.unusableKey (list items).typeName)
  | mapping access entries => .error (.unusableKey (mapping access entries).typeName)
  | text name => .ok (.name name)
  | key => .ok (.other key)

/-- A key and a value out of the two elements of a pair. -/
def pairOf (index : Nat) (item : Value) : Except Failure (EntryKey × Value) :=
  match item.elements? with
  | none => .error (.notPair index)
  | some [key, value] => (entryKey key).map (·, value)
  | some elements => .error (.wrongLength index elements.length)

/-- The pairs among items, counted from `index`. -/
def pairsFrom (index : Nat) : List Value → Except Failure (List (EntryKey × Value))
  | [] => .ok []
  | item :: items =>
    match pairOf index item with
    | .error failure => .error failure
    | .ok pair => (pairsFrom (index + 1) items).map (pair :: ·)

/-- The document that a value stands for: the entries of a mapping, or the pairs of a list. -/
def toDocument : Value → Except Failure Document
  | mapping _ entries => .ok (.ofTable entries)
  | value =>
    match value.elements? with
    | none => .error (.notWalkable value.typeName)
    | some items => (pairsFrom 0 items).map .ofPairs

end StorageLayout.Value
