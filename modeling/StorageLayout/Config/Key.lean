import StorageLayout.Config.Value
import StorageLayout.Text.Split

namespace StorageLayout

/-- The segments of a settings key, of which there is at least one. -/
structure Key where
  first : String
  rest : List String
  deriving DecidableEq, Repr

/-- Why a value is no settings key. -/
inductive KeyProblem where
  | notText
  | emptySegment (text : String)
  deriving DecidableEq, Repr

namespace Key

def segments (key : Key) : List String := key.first :: key.rest

def dotted (key : Key) : String := ".".intercalate key.segments

/-- Reads a key from a text; no segment may be empty. -/
def parse (text : String) : Except KeyProblem Key :=
  if text = "" then .error .notText
  else
    match Text.splitAt '.' text with
    | [] => .error .notText
    | first :: rest =>
      if (first :: rest).contains "" then .error (.emptySegment text) else .ok ⟨first, rest⟩

def ofValue (value : Value) : Except KeyProblem Key :=
  match value with
  | .text text => parse text
  | _ => .error .notText

def isAtOrAbove (key other : Key) : Bool := key.segments.isPrefixOf other.segments

/-- The key that leads on from one place to another place below it. -/
def below? (key other : Key) : Option Key :=
  if key.isAtOrAbove other then
    match other.segments.drop key.segments.length with
    | [] => none
    | first :: rest => some ⟨first, rest⟩
  else none

end Key

def KeyProblem.message : KeyProblem → String
  | notText => "Path must be a non-empty string"
  | emptySegment text => "Path '" ++ text ++ "' contains empty segment(s)"

end StorageLayout
