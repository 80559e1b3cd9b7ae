namespace StorageLayout

/-- What a layer holds: values set while running, constants, a settings document, or variables of an
environment. Only the first kind can be written. -/
inductive LayerKind where
  | overrides
  | constants
  | document
  | environment
  deriving DecidableEq, Repr

namespace LayerKind

/-- The name under which a layer is listed. -/
def name : LayerKind → String
  | overrides => "OverrideProvider"
  | constants => "DictProvider"
  | document => "DefaultsProvider"
  | environment => "EnvironmentProvider"

def refusal : LayerKind → String
  | document => document.name ++ ": is read-only"
  | kind => kind.name ++ " is read-only"

end LayerKind

/-- Why no layer can be made of a settings document. -/
inductive DocumentProblem where
  | twoSources
  | noSource
  | dataNotMapping (typeName : String)
  | missingFile (path : String)
  | notFile (path : String)
  | unreadable (path : String)
  | contentNotMapping (typeName : String)
  deriving DecidableEq, Repr

def DocumentProblem.message (problem : DocumentProblem) : String :=
  LayerKind.document.name ++ ": " ++
    match problem with
    | twoSources => "provide either 'data' or 'path', not both"
    | noSource => "either 'data' or 'path' must be provided"
    | dataNotMapping typeName => "'data' must be a Mapping, not '" ++ typeName ++ "'"
    | missingFile path => "settings file '" ++ path ++ "' not found"
    | notFile path => "'" ++ path ++ "' is not a file"
    | unreadable path => "failed to parse '" ++ path ++ "'"
    | contentNotMapping typeName =>
      "file content must be a JSON object, not '" ++ typeName ++ "'"

end StorageLayout
