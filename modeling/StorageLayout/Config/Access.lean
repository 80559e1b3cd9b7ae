import StorageLayout.Config.Key

namespace StorageLayout

/-- Why a value cannot be written at a place. -/
inductive WriteProblem where
  | missing (segment : String)
  | unreachable (segment holder : String)
  | readOnly (segment holder : String)
  deriving DecidableEq, Repr

def WriteProblem.message : WriteProblem → String
  | missing segment => "path segment '" ++ segment ++ "' not found in mapping"
  | unreachable segment holder =>
    "path segment '" ++ segment ++ "' is not reachable through " ++ holder
  | readOnly segment holder => "Cannot write to '" ++ segment ++ "' on read-only " ++ holder

namespace Value

def child? : Value → String → Option Value
  | mapping _ entries, segment => Table.get? entries segment
  | _, _ => none

/-- The value at a place; every hop on the way has to be a mapping. -/
def at? (value : Value) : List String → Option Value
  | [] => some value
  | segment :: rest =>
    match value.child? segment with
    | some child => child.at? rest
    | none => none

def get? (value : Value) (key : Key) : Option Value := value.at? key.segments

def withEntry (value : Value) (segment : String) (child : Value) : Value :=
  match value with
  | mapping access entries => mapping access (Table.set entries segment child)
  | other => other

def withoutEntry (value : Value) (segment : String) : Value :=
  match value with
  | mapping access entries => mapping access (Table.erase entries segment)
  | other => other

/-- Writes at a place. Missing mappings on the way are created if `create` is set; the mapping that
holds the last segment has to be writable, those on the way need not be. -/
def setAt (value : Value) (segment : String) (rest : List String) (new : Value) (create : Bool) :
    Except WriteProblem Value :=
  match rest with
  | [] =>
    if value.isWritable then .ok (value.withEntry segment new)
    else .error (.readOnly segment value.typeName)
  | next :: later =>
    if value.isMapping then
      match value.child? segment with
      | some child => (child.setAt next later new create).map (value.withEntry segment)
      | none =>
        if create && value.isWritable then
          ((object []).setAt next later new create).map (value.withEntry segment)
        else .error (.missing segment)
    else .error (.unreachable segment value.typeName)

def set (value : Value) (key : Key) (new : Value) (create : Bool) : Except WriteProblem Value :=
  value.setAt key.first key.rest new create

/-- Whether a value is a writable mapping without entries. -/
def isHollow : Value → Bool
  | mapping access entries => access.isWritable && entries.isEmpty
  | _ => false

/-- The document without the value at a place, or nothing if there is none that can be removed.
With `prune`, mappings left empty by this go too, except the outermost one. -/
def deleteAt (value : Value) (segment : String) (rest : List String) (prune : Bool) :
    Option Value :=
  if value.isWritable then
    match value.child? segment, rest with
    | none, _ => none
    | some _, [] => some (value.withoutEntry segment)
    | some child, next :: later =>
      match child.deleteAt next later prune with
      | none => none
      | some left =>
        some (if prune && left.isHollow then value.withoutEntry segment
          else value.withEntry segment left)
  else none

def delete? (value : Value) (key : Key) (prune : Bool) : Option Value :=
  value.deleteAt key.first key.rest prune

/-- The value that a read of a key in any form gives; a text that is no key names nothing. -/
def read? (value : Value) (name : Value) : Option Value :=
  match Key.ofValue name with
  | .ok key => value.get? key
  | .error _ => none

/-- Whether there is anything at a key, be it null. -/
def has (value : Value) (name : Value) : Bool := (value.read? name).isSome

def readOr (value : Value) (name fallback : Value) : Value := (value.read? name).getD fallback

end Value

end StorageLayout
