import StorageLayout.Failure
import StorageLayout.Path.Build
import StorageLayout.Config.Display

namespace StorageLayout

/-- A volume: how diagnostics show it, and what it answers when asked for its path. -/
structure Volume where
  shown : String
  pathFile : Except Failure Value

namespace Volume

/-- A volume that is known beforehand; one that is not mounted has no path. -/
def known (path : Option Codes) (description : String) : Volume where
  shown :=
    "StaticStorageVolume(path=" ++ ((path.map Text.quoted).getD "None") ++ ", description=" ++
      Text.quoted description ++ ")"
  pathFile := .ok ((path.map Value.ofCodes).getD .null)

def pathMethod : String := "getPathFile"

/-- Something of a given type that cannot be asked for a path. -/
def withoutPath (shown typeName : String) : Volume where
  shown := shown
  pathFile := .error (.missingMethod typeName pathMethod)

end Volume

/-- What a host answers to a volume query: volumes, some other value, or a failure. -/
inductive VolumeReport where
  | volumes (list : List Volume)
  | value (value : Value)
  | failed (failure : Failure)

namespace VolumeReport

/-- How diagnostics show what was reported. -/
def shown : VolumeReport → String
  | .volumes list => "[" ++ ", ".intercalate (list.map Volume.shown) ++ "]"
  | .value answer => answer.inspect
  | .failed _ => ""

/-- The volumes of a report. The elements of any other value are no volumes. -/
def toVolumes : VolumeReport → Except Failure (List Volume)
  | .volumes list => .ok list
  | .failed failure => .error failure
  | .value answer =>
    match answer.elements? with
    | some elements =>
      .ok (elements.map fun element => Volume.withoutPath element.inspect element.typeName)
    | none => .error (.notWalkable answer.typeName)

end VolumeReport

/-- The part of a host that lists volumes: it may lack the query, fail when looked at, or answer the
query for a user. -/
inductive VolumeEnumerator where
  | withoutQuery (failure : Failure)
  | answering (report : Nat → VolumeReport)

namespace VolumeEnumerator

/-- Volumes by user; users that are not in the table have none. -/
def ofTable (table : List (Nat × List Volume)) : VolumeEnumerator :=
  answering fun user => .volumes ((table.lookup user).getD [])

end VolumeEnumerator

/-- What a system offers to a process. Without a version it is never asked for volumes. -/
structure HostCapabilities where
  version : Option Int
  enumerator : Option VolumeEnumerator

namespace HostCapabilities

def none : HostCapabilities := ⟨Option.none, Option.none⟩

def firstVersionWithVolumes : Int := 24

def supportsVolumeQuery (host : HostCapabilities) : Bool :=
  host.enumerator.isSome && host.version.any fun version => firstVersionWithVolumes ≤ version

end HostCapabilities

end StorageLayout
