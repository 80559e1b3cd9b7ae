import StorageLayout.Failure

/-! Editing documents in place. A write goes down from mapping to mapping and creates missing ones
as it comes to them; a removal goes down to the mapping that holds the last segment, and back up for
as long as mappings are left empty. An edit tells how it ended and what the document is then, also
where it failed. -/

namespace StorageLayout

/-- How an edit of a document ended, and the document after it. -/
structure Edit (α : Type) where
  outcome : Except Failure α
  document : Value

def Edit.under {α : Type} (edit : Edit α) (holder : Value) (segment : String) : Edit α :=
  ⟨edit.outcome, holder.withEntry segment edit.document⟩

namespace Value

/-- Writes at a place. What a walk did before it failed stays done. -/
def writeAt (value : Value) (segment : String) (rest : List String) (new : Value) (create : Bool) :
    Edit Unit :=
  match rest with
  | [] =>
    if value.isWritable then ⟨.ok (), value.withEntry segment new⟩
    else ⟨.error (.write (.readOnly segment value.typeName)), value⟩
  | next :: later =>
    if value.isMapping then
      match value.child? segment with
      | some child => (child.writeAt next later new create).under value segment
      | none =>
        if create && value.isWritable then
          -- The new mapping is in its holder before the walk goes on in it.
          ((object []).writeAt next later new create).under
            (value.withEntry segment (object [])) segment
        else ⟨.error (.write (.missing segment)), value⟩
    else ⟨.error (.write (.unreachable segment value.typeName)), value⟩

/-- Writes at a key. -/
def write (value name new : Value) (create : Bool) : Edit Unit :=
  match Key.ofValue name with
  | .ok key => value.writeAt key.first key.rest new create
  | .error problem => ⟨.error (.key problem), value⟩

/-- A mapping on the way to a place, with the segment of the way that it holds. -/
structure Hop where
  holder : Value
  segment : String

/-- The way to a place through writable mappings: its last hop, and those before it, the nearest
first, added to the hops made so far. -/
def descend (value : Value) (segment : String) (rest : List String) (before : List Hop) :
    Option (Hop × List Hop) :=
  if value.isWritable then
    match value.child? segment, rest with
    | none, _ => none
    | some _, [] => some (⟨value, segment⟩, before)
    | some child, next :: later => child.descend next later (⟨value, segment⟩ :: before)
  else none

/-- The document around what is left of a mapping. Under `prune` an empty mapping goes from its
holder, and the first one that is not empty puts an end to this. -/
def ascend (prune : Bool) (left : Value) : List Hop → Value
  | [] => left
  | hop :: before =>
    if prune && left.isHollow then ascend prune (hop.holder.withoutEntry hop.segment) before
    else ascend false (hop.holder.withEntry hop.segment left) before

/-- Removes what is at a place, and tells whether there was anything that could be removed. -/
def removeAt (value : Value) (segment : String) (rest : List String) (prune : Bool) : Edit Bool :=
  match value.descend segment rest [] with
  | some (last, before) =>
    ⟨.ok true, ascend prune (last.holder.withoutEntry last.segment) before⟩
  | none => ⟨.ok false, value⟩

/-- Removes what is at a key. -/
def remove (value name : Value) (prune : Bool) : Edit Bool :=
  match Key.ofValue name with
  | .ok key => value.removeAt key.first key.rest prune
  | .error problem => ⟨.error (.key problem), value⟩

end Value

end StorageLayout
