import StorageLayout.Machine
import StorageLayout.Storage.Volume
import StorageLayout.Trace

/-! Finding the volume roots of a user. The environment always gives one root. A host may be asked
for all volumes; its answer counts only as a whole, and if anything about it is wrong another
strategy answers instead, which is the environment unless somebody chose otherwise. -/

namespace StorageLayout

/-- How the volume roots of a user are found: from an environment, by asking a host with another
strategy to fall back on, or in a way of its own. -/
inductive DiscoveryStrategy where
  | environment (source : EnvironmentSource)
  | volumes (enumerator : VolumeEnumerator) (fallback : DiscoveryStrategy)
  | custom (name : String) (roots : Nat → Except Failure (List Pathname))

namespace DiscoveryStrategy

def logger : String := "droidenv.environment.discovery"

def environmentName : String := "environment"

def name : DiscoveryStrategy → String
  | environment _ => environmentName
  | volumes _ _ => "volumeManager"
  | custom name _ => name

def sharedVariable : String := "EMULATED_STORAGE_TARGET"

/-- The variable for a root that users do not share out. -/
def externalVariable : String := "EXTERNAL_STORAGE"

def standardRoot : String := "/storage/sdcard0"

/-- The absolute form of a base that is known to be usable. -/
def rootAt (machine : Machine) (name : Codes) : Pathname := machine.absolute (Pathname.parse name)

/-- The record of an environment without a root. -/
def rootUndefined (context : LogContext) : LogRecord where
  level := .warning
  logger := logger
  message := externalVariable ++ " undefined; falling back to default"
  context := context

/-- The root that an environment gives: below the parent of all users' roots, or one for all. -/
def environmentRoots (machine : Machine) (context : LogContext) (source : EnvironmentSource)
    (user : Nat) : Traced (List Pathname) :=
  let environment := source.resolve machine.environment
  match environment.lookup? sharedVariable with
  | some target => .done [(rootAt machine target).join (toString user)]
  | none =>
    match environment.lookup? externalVariable with
    | some root => .done [rootAt machine root]
    | none =>
      (machine.log (rootUndefined context)).map fun _ => [rootAt machine standardRoot]

/-- Asks only for volumes that the user can write to. -/
def writableFlag : Nat := 256

/-- The path of a volume, made absolute; nothing if it has none. -/
def volumePath (machine : Machine) (volume : Volume) : Except Failure (Option Pathname) :=
  match volume.pathFile with
  | .error failure => .error failure
  | .ok .null => .ok none
  | .ok (.bytes _) => .error .rawPath
  | .ok value =>
    match value.fileName? with
    | some name => .ok (if name = [] then none else some (rootAt machine name))
    | none => .error (.notPath value.typeName)

/-- The paths of volumes in order, up to the first failure. -/
def volumePaths (machine : Machine) : List Volume → Except Failure (List Pathname)
  | [] => .ok []
  | volume :: rest =>
    match volumePath machine volume with
    | .error failure => .error failure
    | .ok path => (volumePaths machine rest).map (path.toList ++ ·)

/-- What a failure of a host means for a query. A host may also say so itself. -/
def refusal (failure : Failure) : Failure :=
  match failure with
  | .unavailable reason message => .unavailable reason message
  | _ =>
    if failure.kind.isA .missingMember || failure.kind.isA .notImplemented then
      .unavailable .notFound ("volume query not implemented: " ++ failure.text)
    else if failure.kind.isA .permission then
      .unavailable .accessDenied ("volume query denied: " ++ failure.text)
    else .unavailable .invocationFailed ("volume query failed: " ++ failure.text)

/-- The record of what a host reported. -/
def reported (context : LogContext) (user : Nat) (report : VolumeReport) : LogRecord where
  level := .debug
  logger := logger
  message := "Volumes reported for user " ++ toString user ++ ": " ++ report.shown
  context := context

/-- A failed query, and whether another failure caused it. -/
structure QueryFailure where
  failure : Failure
  hasCause : Bool

/-- Asks a host for the volumes of a user, once. A host that fails while it is looked at, other
than by lacking the query, gives no answer at all: this is the outer failure. -/
def askHost (machine : Machine) (context : LogContext) (enumerator : VolumeEnumerator)
    (user : Nat) : Traced (Except QueryFailure (List Pathname)) :=
  match enumerator with
  | .withoutQuery failure =>
    if failure.kind.isA .missingMember then
      .done (.error ⟨.unavailable .notFound "host has no getVolumeList()", true⟩)
    else if failure.reason?.isSome then .done (.error ⟨failure, false⟩)
    else .fail failure
  | .answering report =>
    let asked : Emission := .query user writableFlag
    let answer := report user
    match answer with
    | .failed failure =>
      ⟨.ok (.error ⟨refusal failure, failure.reason?.isNone⟩), [asked]⟩
    | .value .null =>
      ⟨.ok (.error ⟨.unavailable .invocationFailed "getVolumeList() returned None", false⟩),
        [asked]⟩
    | answer =>
      -- That the report cannot be logged counts as a failure of the query like any other.
      let logged := machine.log (reported context user answer)
      let trail := asked :: logged.trail
      match logged.outcome.bind fun _ => answer.toVolumes.bind (volumePaths machine) with
      | .error failure => ⟨.ok (.error ⟨refusal failure, failure.reason?.isNone⟩), trail⟩
      | .ok [] =>
        ⟨.ok (.error ⟨.unavailable .noPaths "no reported volume has a path", false⟩), trail⟩
      | .ok paths => ⟨.ok (.ok paths), trail⟩

/-- The paths of all volumes of a user. -/
def queryVolumes (machine : Machine) (context : LogContext) (enumerator : VolumeEnumerator)
    (user : Nat) : Traced (List Pathname) :=
  (askHost machine context enumerator user).andThen fun answer =>
    match answer with
    | .ok paths => .done paths
    | .error refused => .fail refused.failure

/-- The record of a query that gave nothing, so that a strategy with a given name is used. -/
def fellBack (context : LogContext) (user : Nat) (fallbackName : String)
    (refused : QueryFailure) : LogRecord :=
  match refused.failure.reason? with
  | some .noPaths =>
    { level := .info
      logger := logger
      message := "Volume query for user " ++ toString user ++ " gave no paths; using " ++
        fallbackName
      context := context }
  | reason =>
    { level := .warning
      logger := logger
      message := "Volume query for user " ++ toString user ++ " unavailable (" ++
        (reason.map Reason.text).getD "" ++ "): " ++ refused.failure.text ++ "; using " ++
        fallbackName
      context := context
      failure := if refused.hasCause then some refused.failure else none }

/-- The volume roots of a user. -/
def discover (machine : Machine) (context : LogContext) (strategy : DiscoveryStrategy)
    (user : Nat) : Traced (List Pathname) :=
  match strategy with
  | environment source => environmentRoots machine context source user
  | custom _ roots => .ofExcept (roots user)
  | volumes enumerator fallback =>
    (askHost machine context enumerator user).andThen fun answer =>
      match answer with
      | .ok paths => .done paths
      | .error refused =>
        (machine.log (fellBack context user fallback.name refused)).andThen fun _ =>
          discover machine context fallback user

/-- The strategy for what a host offers. -/
def select (host : Option HostCapabilities) (source : EnvironmentSource) : DiscoveryStrategy :=
  match host with
  | none => environment source
  | some host =>
    match host.enumerator with
    | none => environment source
    | some enumerator =>
      if host.supportsVolumeQuery then volumes enumerator (environment source)
      else environment source

end DiscoveryStrategy

end StorageLayout
