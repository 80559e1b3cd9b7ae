namespace StorageLayout

/-- How callers tell failures apart. `named` is a kind of a host's own, which counts as the kind
`above` it. -/
inductive FailureKind where
  | general
  | layout
  | invalidArgument
  | capabilityUnavailable
  | userContext
  | configValidation
  | validation
  | value
  | type
  | lookup
  | key
  | index
  | missingMember
  | runtime
  | notImplemented
  | nesting
  | system
  | permission
  | fileNotFound
  | arithmetic
  | overflow
  | memory
  | named (name : String) (above : FailureKind)
  deriving DecidableEq, Repr

namespace FailureKind

/-- The name under which a kind is reported. -/
def name : FailureKind → String
  | general => "Exception"
  | layout => "DroidEnvError"
  | invalidArgument => "InvalidArgumentError"
  | capabilityUnavailable => "CapabilityUnavailableError"
  | userContext => "UserContextError"
  | configValidation => "ConfigValidationError"
  | validation => "ValidationError"
  | value => "ValueError"
  | type => "TypeError"
  | lookup => "LookupError"
  | key => "KeyError"
  | index => "IndexError"
  | missingMember => "AttributeError"
  | runtime => "RuntimeError"
  | notImplemented => "NotImplementedError"
  | nesting => "RecursionError"
  | system => "OSError"
  | permission => "PermissionError"
  | fileNotFound => "FileNotFoundError"
  | arithmetic => "ArithmeticError"
  | overflow => "OverflowError"
  | memory => "MemoryError"
  | named name _ => name

/-- The kinds with a name of their own. -/
def known : List FailureKind :=
  [general, layout, invalidArgument, capabilityUnavailable, userContext, configValidation,
   validation, value, type, lookup, key, index, missingMember, runtime, notImplemented, nesting,
   system, permission, fileNotFound, arithmetic, overflow, memory]

def ofName (name : String) : FailureKind :=
  (known.find? fun kind => kind.name = name).getD (named name general)

/-- A kind, the library's own kinds first, and every kind it counts as. -/
def lineage : FailureKind → List FailureKind
  | general => [general]
  | layout => [layout, general]
  | invalidArgument => [invalidArgument, layout, value, general]
  | capabilityUnavailable => [capabilityUnavailable, layout, general]
  | userContext => [userContext, layout, runtime, general]
  | configValidation => [configValidation, layout, value, general]
  | validation => [validation, value, general]
  | lookup => [lookup, general]
  | key => [key, lookup, general]
  | index => [index, lookup, general]
  | notImplemented => [notImplemented, runtime, general]
  | nesting => [nesting, runtime, general]
  | permission => [permission, system, general]
  | fileNotFound => [fileNotFound, system, general]
  | overflow => [overflow, arithmetic, general]
  | value => [value, general]
  | type => [type, general]
  | missingMember => [missingMember, general]
  | runtime => [runtime, general]
  | system => [system, general]
  | arithmetic => [arithmetic, general]
  | memory => [memory, general]
  | named name above => named name above :: above.lineage

def isA (kind other : FailureKind) : Bool := kind.lineage.contains other

/-- The name of what failures have in common with interruptions, which nobody handles here. -/
def rootName : String := "BaseException"

def names (kind : FailureKind) : List String := kind.lineage.map name ++ [rootName]

def isOwn (kind : FailureKind) : Bool := kind.isA layout

end FailureKind

end StorageLayout
