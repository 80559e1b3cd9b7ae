import StorageLayout.Failure
import StorageLayout.Machine

namespace StorageLayout

/-- A part of the system with a root of its own. -/
inductive Partition where
  | root
  | data
  | expand
  | storage
  | downloadCache
  | oem
  | odm
  | vendor
  | product
  | systemExt
  | apex
  deriving DecidableEq, Repr

namespace Partition

def all : List Partition :=
  [root, data, expand, storage, downloadCache, oem, odm, vendor, product, systemExt, apex]

def name : Partition → String
  | root => "root"
  | data => "data"
  | expand => "expand"
  | storage => "storage"
  | downloadCache => "downloadCache"
  | oem => "oem"
  | odm => "odm"
  | vendor => "vendor"
  | product => "product"
  | systemExt => "systemExt"
  | apex => "apex"

/-- The variable that overrides the place of a partition. -/
def overrideVariable : Partition → String
  | root => "ANDROID_ROOT"
  | data => "ANDROID_DATA"
  | expand => "ANDROID_EXPAND"
  | storage => "ANDROID_STORAGE"
  | downloadCache => "DOWNLOAD_CACHE"
  | oem => "OEM_ROOT"
  | odm => "ODM_ROOT"
  | vendor => "VENDOR_ROOT"
  | product => "PRODUCT_ROOT"
  | systemExt => "SYSTEM_EXT_ROOT"
  | apex => "APEX_ROOT"

/-- The place of a partition unless a variable overrides it. -/
def standardPath : Partition → String
  | root => "/system"
  | data => "/data"
  | expand => "/mnt/expand"
  | storage => "/storage"
  | downloadCache => "/cache"
  | oem => "/oem"
  | odm => "/odm"
  | vendor => "/vendor"
  | product => "/product"
  | systemExt => "/system_ext"
  | apex => "/apex"

def ofName? (name : String) : Option Partition := all.find? fun partition => partition.name = name

end Partition

/-- The directory that a variable names, or else a standard one; neither is made absolute. -/
def resolveDirectory (environment : Environment) (variableName standardPath : String) : Pathname :=
  Pathname.parse ((environment.lookup? variableName).getD standardPath)

/-- A partition and the directory where it is. -/
structure PartitionRoot where
  partition : Partition
  path : Pathname
  deriving DecidableEq, Repr

/-- The roots of all partitions at one time. -/
structure PartitionRegistry where
  roots : List PartitionRoot

namespace PartitionRegistry

def read (environment : Environment) : PartitionRegistry where
  roots := Partition.all.map fun partition =>
    ⟨partition, resolveDirectory environment partition.overrideVariable partition.standardPath⟩

def path (registry : PartitionRegistry) (partition : Partition) : Pathname :=
  ((registry.roots.find? fun root => root.partition = partition).map PartitionRoot.path).getD
    (Pathname.parse partition.standardPath)

def knownNames : String := ", ".intercalate (Partition.all.map Partition.name)

/-- The root with a name. Lists and mappings cannot even be looked up. -/
def find (registry : PartitionRegistry) (name : Value) : Except Failure PartitionRoot :=
  match name with
  | .list _ => .error (.unusableKey name.typeName)
  | .mapping _ _ => .error (.unusableKey name.typeName)
  | .text text =>
    match registry.roots.find? fun root => root.partition.name = text with
    | some root => .ok root
    | none => .error (.unknownPartition text knownNames)
  | other => .error (.unknownPartition other.plain knownNames)

end PartitionRegistry

/-- The directories that have an accessor of their own: partition roots and places below the data
partition. -/
structure SystemDirectory where
  partition : Partition
  below : List String
  deriving DecidableEq, Repr

namespace SystemDirectory

/-- The accessors by name. -/
def accessors : List (String × SystemDirectory) :=
  [("getRootDirectory", ⟨.root, []⟩), ("getDataDirectory", ⟨.data, []⟩),
   ("getDataSystemDirectory", ⟨.data, ["system"]⟩), ("getDataAppDirectory", ⟨.data, ["app"]⟩),
   ("getDataDataDirectory", ⟨.data, ["data"]⟩), ("getExpandDirectory", ⟨.expand, []⟩),
   ("getStorageDirectory", ⟨.storage, []⟩),
   ("getDownloadCacheDirectory", ⟨.downloadCache, []⟩), ("getOemDirectory", ⟨.oem, []⟩),
   ("getOdmDirectory", ⟨.odm, []⟩), ("getVendorDirectory", ⟨.vendor, []⟩),
   ("getProductDirectory", ⟨.product, []⟩), ("getSystemExtDirectory", ⟨.systemExt, []⟩),
   ("getApexDirectory", ⟨.apex, []⟩)]

/-- Where a directory is; only places below a partition are made absolute. -/
def path (machine : Machine) (registry : PartitionRegistry) (directory : SystemDirectory) :
    Pathname :=
  let root := registry.path directory.partition
  if directory.below.isEmpty then root
  else (machine.absolute root).append (directory.below.map Text.codes)

end SystemDirectory

end StorageLayout
