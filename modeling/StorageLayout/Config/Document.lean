import StorageLayout.Config.Access
import StorageLayout.Config.Agreement
import StorageLayout.Config.Display

/-! Documents: entries under keys. A key is nearly always a name, but a document that is given as a
list of pairs may use other values as keys, and these are found by their value only. Merging goes
entry by entry where both sides are mappings, and anything else above wins. What is below keeps its
place, and what only the upper mapping has follows in the order it has there. -/

namespace StorageLayout

namespace Value

mutual

/-- Lays a value over another one. -/
def merge : Value → Value → Value
  | mapping _ below, mapping _ above =>
    object (mergeEntries below above ++ above.filter fun entry => !Table.has below entry.1)
  | _, above => above

/-- The lower entries of two tables, each with the upper one of its name laid over it. -/
def mergeEntries : List (String × Value) → List (String × Value) → List (String × Value)
  | [], _ => []
  | (key, old) :: below, above =>
    (key,
      match Table.get? above key with
      | some value => merge old value
      | none => old) :: mergeEntries below above

end

end Value

/-- What an entry of a document is found by. -/
inductive EntryKey where
  | name (text : String)
  | other (value : Value)

namespace EntryKey

def same : EntryKey → EntryKey → Bool
  | name left, name right => left = right
  | other left, other right => left.agrees right
  | _, _ => false

def shown : EntryKey → String
  | name text => text
  | other value => value.plain

end EntryKey

/-- Entries in insertion order; a key stays as it was first given. -/
structure Document where
  entries : List (EntryKey × Value)

namespace Document

def empty : Document := ⟨[]⟩

def find? : List (EntryKey × Value) → EntryKey → Option Value
  | [], _ => none
  | (known, value) :: rest, key => if known.same key then some value else find? rest key

/-- Replaces the value under a key in place, or adds an entry at the end. -/
def put : List (EntryKey × Value) → EntryKey → Value → List (EntryKey × Value)
  | [], key, value => [(key, value)]
  | (known, old) :: rest, key, value =>
    if known.same key then (known, value) :: rest else (known, old) :: put rest key value

def get? (document : Document) (key : EntryKey) : Option Value := find? document.entries key

def set (document : Document) (key : EntryKey) (value : Value) : Document :=
  ⟨put document.entries key value⟩

def ofPairs (pairs : List (EntryKey × Value)) : Document :=
  pairs.foldl (fun document pair => document.set pair.1 pair.2) empty

def ofTable (entries : Table Value) : Document :=
  ⟨entries.map fun entry => (.name entry.1, entry.2)⟩

/-- The entries under names. -/
def named (document : Document) : Table Value :=
  document.entries.filterMap fun entry =>
    match entry.1 with
    | .name text => some (text, entry.2)
    | .other _ => none

/-- The keys that are no names. -/
def otherKeys (document : Document) : List Value :=
  document.entries.filterMap fun entry =>
    match entry.1 with
    | .name _ => none
    | .other value => some value

/-- All entries under the names by which they are shown. Where two keys look alike the later entry
is shown. -/
def shown (document : Document) : Table Value :=
  Table.ofPairs (document.entries.map fun entry => (entry.1.shown, entry.2))

/-- Whether a document can be copied. -/
def isCopyable (document : Document) : Bool :=
  document.entries.all fun entry => entry.2.isCopyable

def overlaid (above : Document) (entry : EntryKey × Value) : EntryKey × Value :=
  (entry.1, (above.get? entry.1).elim entry.2 entry.2.merge)

/-- Lays one document over another: mappings under the same key are merged, anything else above
wins. Entries below keep their places, and new ones follow in the order they have above. -/
def merge (below above : Document) : Document :=
  ⟨below.entries.map above.overlaid ++
    above.entries.filter fun entry => (below.get? entry.1).isNone⟩

@[simp] theorem named_ofTable (entries : Table Value) : (ofTable entries).named = entries := by
  rw [named, ofTable, List.filterMap_map]
  exact List.filterMap_some

@[simp] theorem otherKeys_ofTable (entries : Table Value) : (ofTable entries).otherKeys = [] := by
  simp [otherKeys, ofTable]

end Document

end StorageLayout
