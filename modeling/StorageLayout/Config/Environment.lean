import StorageLayout.Config.Table
import StorageLayout.Text.Blank

namespace StorageLayout

abbrev Environment := Table String

/-- The environment that a component reads: one of its own, or that of the process. -/
abbrev EnvironmentSource := Option Environment

/-- Why a variable cannot be set. -/
inductive VariableProblem where
  | embeddedNul
  | illegalName
  deriving DecidableEq, Repr

def VariableProblem.message : VariableProblem → String
  | embeddedNul => "embedded null byte"
  | illegalName => "illegal environment variable name"

namespace Environment

/-- The value of a variable unless it is not set or empty. -/
def lookup? (environment : Environment) (name : String) : Option String :=
  match environment.get? name with
  | some value => if value = "" then none else some value
  | none => none

end Environment

def EnvironmentSource.resolve (source : EnvironmentSource) (process : Environment) : Environment :=
  Option.getD source process

namespace Text

/-- The words for truth values in variables, in lower case. -/
def truthWords : List (String × Bool) :=
  [("1", true), ("true", true), ("yes", true), ("on", true),
   ("0", false), ("false", false), ("no", false), ("off", false)]

/-- The truth value that a text spells, in any case and with blanks around it. -/
def truth? (text : String) : Option Bool := Table.get? truthWords (lower (trim text))

end Text

end StorageLayout
