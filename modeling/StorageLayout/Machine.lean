import StorageLayout.Config.Environment
import StorageLayout.Json5.Reader
import StorageLayout.Path.FileTree
import StorageLayout.Trace

namespace StorageLayout

namespace Pathname

/-- Builds a path below every base of a value. The segments are checked first, and a value without
elements is refused after them. -/
def buildFamily (working : Pathname) (bases : Value) (segments : List Value) :
    Except Failure (List Pathname) :=
  match bases.elements? with
  | some elements => (buildAll working elements segments).mapError .path
  | none =>
    match checkSegments segments with
    | .ok _ => .error (.notWalkable bases.typeName)
    | .error problem => .error (.path problem)

/-- A home directory as it is used in front of other components: without slashes at its end. -/
def homeText (home : Codes) : Codes :=
  let kept := (home.reverse.dropWhile (· = slash)).reverse
  if kept.isEmpty then [slash] else kept

/-- Replaces a leading tilde, and the name of a user behind it, by the home directory of that user
or of the present one, whose name is empty. A home that starts with a tilde itself is none. -/
def expandHome (homes : Codes → Except Failure String) (path : Pathname) :
    Except Failure Pathname :=
  match path.anchor, path.components with
  | .working, (.char '~' :: user) :: rest =>
    (homes user).bind fun home =>
      let base := homeText home
      if base.head? = some (.char '~') then .error .noHome
      else .ok ((parse base).append rest)
  | _, _ => .ok path

end Pathname

/-- A user whom the system knows. -/
structure Account where
  name : String
  userId : Int
  home : String
  deriving DecidableEq, Repr

/-- The environment, the working directory, the user id where there are user ids, the files, and the
users whom the system knows. `refusal` says what fails if a record cannot be logged at present, and
`depth` how deep writes of settings may be nested in a write, and `room` how deep values in a settings
file. -/
structure Machine where
  environment : Environment
  workingDirectory : Pathname
  userId : Option Int
  files : FileTree
  accounts : List Account := []
  refusal : LogRecord → Option Failure := fun _ => none
  depth : Nat := 0
  room : Json5.Room := .unlimited

namespace Machine

/-- The home directory of the first account of a kind. -/
def accountHome (machine : Machine) (isMeant : Account → Bool) : Except Failure String :=
  match machine.accounts.find? isMeant with
  | some account => .ok account.home
  | none => .error .noHome

/-- The home directory: what a variable says, or else that of the user who owns the process. -/
def home (machine : Machine) : Except Failure String :=
  match machine.environment.get? "HOME", machine.userId with
  | some home, _ => .ok home
  | none, none => .error .noUserIds
  | none, some userId => machine.accountHome fun account => account.userId = userId

/-- The home directory of a user; the present user has no name. -/
def homeOf (machine : Machine) (user : Codes) : Except Failure String :=
  if user = [] then machine.home
  else if (Text.nameBytes? user).isNone then .error .unnameable
  else if user.contains Pathname.nul then .error .embeddedNul
  else machine.accountHome fun account => account.name = user

/-- Sets a variable. The system itself refuses one without a name. -/
def setVariable (machine : Machine) (name value : String) : Except Failure Machine :=
  if (name ++ value).contains '\x00' then .error (.assignment .embeddedNul)
  else if name.contains '=' then .error (.assignment .illegalName)
  else if name = "" then .error (.system .system)
  else .ok { machine with environment := machine.environment.set name value }

/-- Logs a record: it is sent out in any case, and if it is refused nothing comes after it. -/
def log (machine : Machine) (record : LogRecord) : Traced Unit where
  outcome :=
    match machine.refusal record with
    | none => .ok ()
    | some failure => .error failure
  trail := [.record record]

theorem log_of_none {machine : Machine} {record : LogRecord}
    (logged : machine.refusal record = none) : machine.log record = ⟨.ok (), [.record record]⟩ := by
  simp [log, logged]

theorem log_of_some {machine : Machine} {record : LogRecord} {failure : Failure}
    (refused : machine.refusal record = some failure) :
    machine.log record = ⟨.error failure, [.record record]⟩ := by
  simp [log, refused]

/-- Whether every record can be logged. -/
def LogsAll (machine : Machine) : Prop := ∀ record, machine.refusal record = none

theorem LogsAll.outcome_log {machine : Machine} (logs : machine.LogsAll) (record : LogRecord) :
    (machine.log record).outcome = .ok () := by
  rw [log_of_none (logs record)]

theorem LogsAll.outcome_map_log {α : Type} {machine : Machine} (logs : machine.LogsAll)
    (record : LogRecord) (change : Unit → α) :
    ((machine.log record).map change).outcome = .ok (change ()) := by
  rw [log_of_none (logs record)]
  rfl

def unsetVariable (machine : Machine) (name : String) : Machine :=
  { machine with environment := machine.environment.erase name }

def absolute (machine : Machine) (path : Pathname) : Pathname :=
  Pathname.absolute machine.workingDirectory path

def build (machine : Machine) (base : Value) (segments : List Value) : Except Failure Pathname :=
  (Pathname.build machine.workingDirectory base segments).mapError .path

/-- Builds a path below every base of a value. -/
def buildFamily (machine : Machine) (bases : Value) (segments : List Value) :
    Except Failure (List Pathname) :=
  Pathname.buildFamily machine.workingDirectory bases segments

end Machine

end StorageLayout
