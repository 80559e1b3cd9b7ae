namespace StorageLayout.Settings

/-- The kinds of issues that the settings schema can find. -/
inductive IssueKind where
  | unusableKey
  | unknownSetting
  | notSection
  | notTruthValue
  | unreadTruthValue
  | notInteger
  | unreadInteger
  | oversizedInteger
  | fractional
  | notFinite
  | tooSmall
  | notText
  | undecodedText
  | notListed
  deriving DecidableEq, Repr

/-- The name under which a kind of issue is reported. -/
def IssueKind.name : IssueKind → String
  | unusableKey => "invalid_key"
  | unknownSetting => "extra_forbidden"
  | notSection => "model_type"
  | notTruthValue => "bool_type"
  | unreadTruthValue => "bool_parsing"
  | notInteger => "int_type"
  | unreadInteger => "int_parsing"
  | oversizedInteger => "int_parsing_size"
  | fractional => "int_from_float"
  | notFinite => "finite_number"
  | tooSmall => "greater_than_equal"
  | notText => "string_type"
  | undecodedText => "string_unicode"
  | notListed => "literal_error"

/-- An issue and the setting it concerns, by the names that lead to it. -/
structure Issue where
  location : List String
  kind : IssueKind
  deriving DecidableEq, Repr

def Issue.entry (issue : Issue) : String × String :=
  (".".intercalate issue.location, issue.kind.name)

def entryBefore (left right : String × String) : Bool :=
  left.1 < right.1 || (left.1 = right.1 && left.2 ≤ right.2)

/-- All issues as texts, by place and then by kind. -/
def report (issues : List Issue) : List (String × String) :=
  (issues.map Issue.entry).mergeSort entryBefore

def below (name : String) (issues : List Issue) : List Issue :=
  issues.map fun issue => { issue with location := name :: issue.location }

/-- What a check gives: a setting, or all issues found. -/
abbrev Checked (α : Type) := Except (List Issue) α

namespace Checked

/-- Combines two checks; the issues of both are kept. -/
def both {α β : Type} : Checked α → Checked β → Checked (α × β)
  | .ok left, .ok right => .ok (left, right)
  | .ok _, .error issues => .error issues
  | .error issues, .ok _ => .error issues
  | .error left, .error right => .error (left ++ right)

/-- Adds issues that were found beside a check. -/
def withIssues {α : Type} (issues : List Issue) (checked : Checked α) : Checked α :=
  match checked, issues with
  | .ok value, [] => .ok value
  | .ok _, issues => .error issues
  | .error others, issues => .error (others ++ issues)

end Checked

end StorageLayout.Settings
