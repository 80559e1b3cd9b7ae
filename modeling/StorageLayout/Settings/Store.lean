import StorageLayout.Config.Store
import StorageLayout.Settings.Schema

namespace StorageLayout.Settings

/-- The settings that a document stands for; all issues make one failure. -/
def accept (document : Document) : Except Failure Settings :=
  match check document with
  | .ok settings => .ok settings
  | .error issues => .error (.issues issues)

def acceptValue (document : Value) : Except Failure Settings := document.toDocument.bind accept

def fileVariable : String := "DROIDENV_SETTINGS"

/-- The settings file that is read if no other one is named. -/
def standardFile : String := "~/.droidenv/droidenv.json5"

/-- The settings that can be given by variables. -/
def bindings : Table String :=
  [("debug.devModeEnabled", "DROIDENV_DEV_MODE"), ("logging.file", "DROIDENV_LOG_FILE"),
   ("user.strictMode", "DROIDENV_STRICT_USER")]

def strictModeKey : String := "user.strictMode"

/-- The name of the store. -/
def space : String := "config:global"

/-- The settings file to read and whether it has to exist: the one given, the one that a variable
names, or else the standard one, which alone may be missing. -/
def chooseFile (environment : Environment) (path : Option String) : String × Bool :=
  match path with
  | some path => (path, true)
  | none =>
    match environment.lookup? fileVariable with
    | some path => (path, true)
    | none => (standardFile, false)

/-- The store over a layer read from a settings file. -/
def storeOver (source : EnvironmentSource) (file : Layer) : Store where
  space := space
  validator := some fun document => (accept document).map fun _ => ()
  layers :=
    [.constants (.object standard.document), file, .environment source bindings, .overrides []]
  listeners := []

/-- Builds the store of settings; its effective document has to pass the schema. -/
def buildStore (machine : Machine) (context : LogContext) (source : EnvironmentSource)
    (path : Option String) : Traced Store := do
  let (name, strict) := chooseFile (source.resolve machine.environment) path
  let file ← Layer.ofPath machine context name strict
  let store := storeOver source file
  Traced.ofExcept (store.validate machine.environment)
  return store

end StorageLayout.Settings
