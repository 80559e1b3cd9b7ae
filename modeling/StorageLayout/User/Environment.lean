import StorageLayout.Storage.Discovery

/-! The external storage of one user. The strategy is chosen once; the roots are found anew at every
lookup. Every application path is a root, `Android`, an area, and the name of the application. -/

namespace StorageLayout

/-- A user and how the user's volume roots are found. -/
structure UserEnvironment where
  handle : Nat
  source : EnvironmentSource
  strategy : DiscoveryStrategy

/-- The parts of external storage that have an accessor. -/
inductive StorageArea where
  | publicFiles
  | androidData
  | androidObb
  | appData
  | appMedia
  | appObb
  | appFiles
  | appCache
  deriving DecidableEq, Repr

namespace StorageArea

def all : List StorageArea :=
  [publicFiles, androidData, androidObb, appData, appMedia, appObb, appFiles, appCache]

/-- The name of the accessor of an area. -/
def accessor : StorageArea → String
  | publicFiles => "buildExternalStoragePublicDirs"
  | androidData => "buildExternalStorageAndroidDataDirs"
  | androidObb => "buildExternalStorageAndroidObbDirs"
  | appData => "buildExternalStorageAppDataDirs"
  | appMedia => "buildExternalStorageAppMediaDirs"
  | appObb => "buildExternalStorageAppObbDirs"
  | appFiles => "buildExternalStorageAppFilesDirs"
  | appCache => "buildExternalStorageAppCacheDirs"

def ofAccessor? (name : String) : Option StorageArea := all.find? fun area => area.accessor = name

/-- The segments of an area below a root. The name is a kind of public files or an application; the
areas of all applications take none. -/
def segments (area : StorageArea) (name : Value) : List Value :=
  match area with
  | publicFiles => [name]
  | androidData => [.text "Android", .text "data"]
  | androidObb => [.text "Android", .text "obb"]
  | appData => [.text "Android", .text "data", name]
  | appMedia => [.text "Android", .text "media", name]
  | appObb => [.text "Android", .text "obb", name]
  | appFiles => [.text "Android", .text "data", name, .text "files"]
  | appCache => [.text "Android", .text "data", name, .text "cache"]

end StorageArea

namespace UserEnvironment

def logger : String := "droidenv.environment.user_storage"

/-- The storage of the user with a handle. A strategy may be given; otherwise the host decides. -/
def create (handle : Value) (host : Option HostCapabilities) (source : EnvironmentSource)
    (strategy : Option DiscoveryStrategy) : Except Failure UserEnvironment :=
  match User.checkHandle handle with
  | .ok user => .ok ⟨user, source, strategy.getD (DiscoveryStrategy.select host source)⟩
  | .error problem => .error (.handle problem)

/-- How diagnostics show the storage of a user. -/
def shown (user : UserEnvironment) : String :=
  "UserEnvironment(userHandle=" ++ toString user.handle ++ ", strategy=" ++
    user.strategy.name ++ ")"

/-- What is logged while roots are found is marked with this. -/
def marks (user : UserEnvironment) : List (String × Value) :=
  [("userHandle", .int user.handle), ("strategy", .text user.strategy.name)]

/-- The record of a strategy that found nothing. -/
def foundNothing (context : LogContext) (user : UserEnvironment) : LogRecord where
  level := .warning
  logger := logger
  message := user.strategy.name ++ " found no volumes; using environment"
  context := context

/-- Finds the volume roots of a user; if the strategy finds none, the environment gives one. -/
def findRoots (machine : Machine) (context : LogContext) (user : UserEnvironment) :
    Traced (List Pathname) :=
  (user.strategy.discover machine context user.handle).andThen fun found =>
    if found.isEmpty then
      (machine.log (user.foundNothing context)).andThen fun _ =>
        DiscoveryStrategy.environmentRoots machine context user.source user.handle
    else .done found

/-- The volume roots of a user, the primary one first. There is always one. -/
def externalDirs (machine : Machine) (context : LogContext) (user : UserEnvironment) :
    Scoped (List Pathname) :=
  context.within user.marks fun inner => (inner, user.findRoots machine inner)

/-- The directories of an area on every volume of a user. -/
def areaDirs (machine : Machine) (context : LogContext) (user : UserEnvironment)
    (area : StorageArea) (name : Value) : Scoped (List Pathname) :=
  Scoped.andThen (user.externalDirs machine context) fun context roots =>
    match Pathname.extendAll machine.workingDirectory roots (area.segments name) with
    | .ok paths => (context, .done paths)
    | .error problem => (context, .fail (.path problem))

/-- The warning about an accessor that sees only the primary volume. -/
def deprecated (accessor replacement : String) : Emission :=
  .deprecation (accessor ++ "() is deprecated; use " ++ replacement ++ "()")

/-- The first of several directories. -/
def primary (paths : List Pathname) : Traced Pathname :=
  match paths with
  | path :: _ => .done path
  | [] => .fail (.raised .index "list index out of range")

/-- Answers for the primary volume alone, with a warning that there may be others. -/
def primaryOf (accessor replacement : String) (found : Scoped (List Pathname)) :
    Scoped Pathname :=
  (found.1, Traced.after [deprecated accessor replacement] (found.2.andThen primary))

/-- The root of the primary volume. -/
def externalStorageDirectory (machine : Machine) (context : LogContext) (user : UserEnvironment) :
    Scoped Pathname :=
  primaryOf "getExternalStorageDirectory" "getExternalDirs" (user.externalDirs machine context)

def externalStoragePublicDirectory (machine : Machine) (context : LogContext)
    (user : UserEnvironment) (name : Value) : Scoped Pathname :=
  primaryOf "getExternalStoragePublicDirectory" StorageArea.publicFiles.accessor
    (user.areaDirs machine context .publicFiles name)

end UserEnvironment

end StorageLayout
