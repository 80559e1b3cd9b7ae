import StorageLayout.Config.Access
import StorageLayout.Config.Display
import StorageLayout.Config.Environment
import StorageLayout.Config.LayerKind
import StorageLayout.Failure.Kind
import StorageLayout.Log.Template
import StorageLayout.Path.Build
import StorageLayout.Settings.Issue
import StorageLayout.Text.Quoted
import StorageLayout.User.Handle

namespace StorageLayout

/-- Why a volume query gives no paths. A host may report reasons of its own. -/
inductive Reason where
  | notFound
  | accessDenied
  | invocationFailed
  | noPaths
  | other (text : String)
  deriving DecidableEq, Repr

namespace Reason

def text : Reason → String
  | notFound => "notFound"
  | accessDenied => "accessDenied"
  | invocationFailed => "invocationFailed"
  | noPaths => "noPaths"
  | other text => text

def ofText (text : String) : Reason :=
  match text with
  | "notFound" => notFound
  | "accessDenied" => accessDenied
  | "invocationFailed" => invocationFailed
  | "noPaths" => noPaths
  | _ => other text

/-- What a query failed with, in words: its message, or else its reason. -/
def describe (reason message : Value) : String :=
  if message.truthy then message.plain else reason.plain

end Reason

/-- Why a service cannot be registered or handed out. -/
inductive RegistryProblem where
  | taken (name : String)
  | missing (name : String)
  | wrongType (name typeName : String)
  deriving DecidableEq, Repr

def RegistryProblem.message : RegistryProblem → String
  | taken name => "Service '" ++ name ++ "' already registered"
  | missing name => "Required service '" ++ name ++ "' not found"
  | wrongType name typeName =>
    "Service '" ++ name ++ "' is not of expected type " ++ typeName

/-- A failure by its cause. `raised` is a failure of a host or a listener, with its text. What ends a
whole process, such as an interrupt, is no failure. -/
inductive Failure where
  | path (problem : PathProblem)
  | handle (problem : HandleProblem)
  | key (problem : KeyProblem)
  | write (problem : WriteProblem)
  | number (problem : NumberProblem)
  | template (problem : TemplateProblem)
  | registry (problem : RegistryProblem)
  | document (problem : DocumentProblem)
  | readOnlyLayer (kind : LayerKind)
  | noOverrides (space : String)
  | uncopyable
  | notWalkable (typeName : String)
  | notPair (index : Nat)
  | wrongLength (index length : Nat)
  | issues (list : List Settings.Issue)
  | invalidDocument (space : String) (cause : Failure)
  | unavailable (reason : Reason) (message : String)
  | noUserContext
  | unknownPartition (name known : String)
  | unusableKey (typeName : String)
  | noHome
  | noUserIds
  | embeddedNul
  | assignment (problem : VariableProblem)
  | notSubscribed (client : String)
  | loggerNotText
  | missingMethod (typeName method : String)
  | notPath (typeName : String)
  | rawPath
  | nestingTooDeep
  | system (kind : FailureKind)
  | raised (kind : FailureKind) (text : String)
  deriving Repr

namespace Failure

/-- The kind of a write problem: only a missing segment is a failed look-up. -/
def writeKind : WriteProblem → FailureKind
  | .missing _ => .key
  | .unreachable _ _ => .type
  | .readOnly _ _ => .type

def numberKind : NumberProblem → FailureKind
  | .nan => .value
  | .infinite => .overflow
  | .notDigits _ => .value
  | .tooLong _ => .value
  | .notNumber _ => .type
  | .tooLarge => .overflow
  | .tooLongToShow => .value

def templateKind : TemplateProblem → FailureKind
  | .tooFewArguments => .type
  | .tooManyArguments => .type
  | .incomplete => .value
  | .incompleteKey => .value
  | .notMapping => .type
  | .missingKey _ => .key
  | .unknownLetter _ _ => .value
  | .notNumber _ _ => .type
  | .notInteger _ _ => .type
  | .notReal _ => .type
  | .notCharacter => .type
  | .characterRange => .overflow
  | .measureNotInteger => .type
  | .widthRange => .overflow
  | .precisionRange => .overflow
  | .widthTooBig => .value
  | .precisionTooBig => .value
  | .tooManyDigits => .overflow
  | .noMemory => .memory
  | .number problem => numberKind problem

def registryKind : RegistryProblem → FailureKind
  | .taken _ => .value
  | .missing _ => .runtime
  | .wrongType _ _ => .type

def documentKind : DocumentProblem → FailureKind
  | .twoSources => .value
  | .noSource => .value
  | .dataNotMapping _ => .type
  | .missingFile _ => .fileNotFound
  | .notFile _ => .fileNotFound
  | .unreadable _ => .type
  | .contentNotMapping _ => .type

/-- The kind of a failure. -/
def kind : Failure → FailureKind
  | path _ => .invalidArgument
  | handle _ => .invalidArgument
  | key _ => .value
  | write problem => writeKind problem
  | number problem => numberKind problem
  | template problem => templateKind problem
  | registry problem => registryKind problem
  | document problem => documentKind problem
  | readOnlyLayer _ => .runtime
  | noOverrides _ => .key
  | uncopyable => .type
  | notWalkable _ => .type
  | notPair _ => .type
  | wrongLength _ _ => .value
  | issues _ => .validation
  | invalidDocument _ _ => .configValidation
  | unavailable _ _ => .capabilityUnavailable
  | noUserContext => .userContext
  | unknownPartition _ _ => .key
  | unusableKey _ => .type
  | noHome => .runtime
  | noUserIds => .missingMember
  | embeddedNul => .value
  | assignment _ => .value
  | notSubscribed _ => .key
  | loggerNotText => .type
  | missingMethod _ _ => .missingMember
  | notPath _ => .type
  | rawPath => .type
  | nestingTooDeep => .nesting
  | system kind => kind
  | raised kind _ => kind

/-- A text as other messages embed it: that of a failed look-up is quoted. -/
def embedded (kind : FailureKind) (message : String) : String :=
  if kind.isA .key then Text.quoted message else message

/-- What a failure says. A failure of the system itself and a list of issues say nothing here. -/
def message : Failure → String
  | path problem => problem.message
  | handle problem => problem.message
  | key problem => problem.message
  | write problem => problem.message
  | number problem => problem.message
  | template problem => problem.message
  | registry problem => problem.message
  | document problem => problem.message
  | readOnlyLayer kind => kind.refusal
  | noOverrides space => "No writable override layer in " ++ space
  | uncopyable => "cannot pickle 'mappingproxy' object"
  | notWalkable typeName => "'" ++ typeName ++ "' object is not iterable"
  | notPair index =>
    "cannot convert dictionary update sequence element #" ++ toString index ++ " to a sequence"
  | wrongLength index length =>
    "dictionary update sequence element #" ++ toString index ++ " has length " ++
      toString length ++ "; 2 is required"
  | issues _ => ""
  | invalidDocument space cause =>
    space ++ ": invalid configuration" ++
      match cause with
      | issues _ => ""
      | _ => ": " ++ embedded cause.kind cause.message
  | unavailable reason message => Reason.describe (.text reason.text) (.text message)
  | noUserContext =>
    "No user context registered. Call bootstrapUserContext() " ++
      "before resolving per-user storage paths."
  | unknownPartition name known => "Unknown partition '" ++ name ++ "'. Known: " ++ known
  | unusableKey typeName => "unhashable type: '" ++ typeName ++ "'"
  | noHome => "Could not determine home directory."
  | noUserIds => "module 'os' has no attribute 'getuid'"
  | embeddedNul => "embedded null byte"
  | assignment problem => problem.message
  | notSubscribed client => client
  | loggerNotText => "A logger name must be a string"
  | missingMethod typeName method =>
    "'" ++ typeName ++ "' object has no attribute '" ++ method ++ "'"
  | notPath typeName => "expected str, bytes or os.PathLike object, not " ++ typeName
  | rawPath =>
    "argument should be a str object or an os.PathLike object returning str, not <class 'bytes'>"
  | nestingTooDeep => "maximum recursion depth exceeded"
  | system _ => ""
  | raised _ text => text

def unnameable : Failure := system (.named "UnicodeEncodeError" .value)

def text (failure : Failure) : String := embedded failure.kind failure.message

/-- The reason of a failed volume query. -/
def reason? : Failure → Option Reason
  | unavailable reason _ => some reason
  | _ => none

/-- The issues with a settings document, reported directly or as the cause of its refusal. -/
def issues? : Failure → Option (List Settings.Issue)
  | issues list => some list
  | invalidDocument _ (issues list) => some list
  | _ => none

end Failure

end StorageLayout
