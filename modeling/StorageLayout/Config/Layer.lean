import StorageLayout.Config.Entries
import StorageLayout.Config.Environment
import StorageLayout.Json5.Reader
import StorageLayout.Machine

/-! Layers of a configuration store. A layer reads keys one by one and also lays out all it holds as
a document; only overrides can be written. -/

namespace StorageLayout

namespace Value

/-- What a key in text form reads as; null if there is nothing or the text is no key. -/
def read (value : Value) (key : String) : Value := (value.read? (.text key)).getD .null

end Value

/-- A layer. Constants and documents may hold mappings of any kind; `path` is the file that a document
was read from. An environment layer binds keys to variables and reads them when asked. -/
inductive Layer where
  | overrides (entries : Table Value)
  | constants (data : Value)
  | document (path : Option Pathname) (data : Value)
  | environment (source : EnvironmentSource) (bindings : Table String)

namespace Layer

def kind : Layer → LayerKind
  | overrides _ => .overrides
  | constants _ => .constants
  | document _ _ => .document
  | environment _ _ => .environment

def isOverrides (layer : Layer) : Bool := layer.kind = .overrides

/-- What a bound variable stands for: the truth value that it spells, or its text. -/
def variableValue (text : String) : Value :=
  match Text.truth? text with
  | some truth => .bool truth
  | none => .text text

/-- What a bound key reads as. -/
def boundValue (environment : Environment) (bindings : Table String) (key : String) : Value :=
  match bindings.get? key with
  | none => .null
  | some name =>
    match environment.lookup? name with
    | none => .null
    | some text => variableValue text

/-- What a key reads as in a layer; null if it is not there. -/
def get (process : Environment) (layer : Layer) (key : String) : Value :=
  match layer with
  | overrides entries => (Value.object entries).read key
  | constants data => data.read key
  | document _ data => data.read key
  | environment source bindings => boundValue (source.resolve process) bindings key

/-- Writes a value into a document by its key, creating mappings on the way. -/
def assign (entries : Table Value) (key : String) (value : Value) :
    Except Failure (Table Value) :=
  match Key.parse key with
  | .error problem => .error (.key problem)
  | .ok key =>
    match (Value.object entries).set key value true with
    | .ok (.mapping _ written) => .ok written
    | .ok _ => .ok entries
    | .error problem => .error (.write problem)

/-- Removes what is at a key, and mappings left empty by this. -/
def discard (entries : Table Value) (key : String) : Except Failure (Table Value) :=
  match Key.parse key with
  | .error problem => .error (.key problem)
  | .ok key =>
    match (Value.object entries).delete? key true with
    | some (.mapping _ left) => .ok left
    | _ => .ok entries

/-- The overrides after a write. Null removes what was there; other values are copied. -/
def writeOverride (entries : Table Value) (key : String) (value : Value) :
    Except Failure (Table Value) :=
  if value.isNull then discard entries key
  else if value.isCopyable then assign entries key value
  else .error .uncopyable

def set (layer : Layer) (key : String) (value : Value) : Except Failure Layer :=
  match layer with
  | overrides entries => (writeOverride entries key value).map overrides
  | other => .error (.readOnlyLayer other.kind)

/-- A copy of the document that a value stands for. -/
def copied (data : Value) : Except Failure Document :=
  match data.toDocument with
  | .error failure => .error failure
  | .ok laidOut => if laidOut.isCopyable then .ok laidOut else .error .uncopyable

/-- Lays out the bound keys that have a value, in the order of the bindings. -/
def boundEntries (environment : Environment) (bindings : Table String) :
    List String → Table Value → Except Failure (Table Value)
  | [], entries => .ok entries
  | key :: keys, entries =>
    let value := boundValue environment bindings key
    if value.isNull then boundEntries environment bindings keys entries
    else
      match assign entries key value with
      | .ok written => boundEntries environment bindings keys written
      | .error failure => .error failure

/-- Everything that a layer holds, as a document. -/
def toDocument (process : Environment) : Layer → Except Failure Document
  | overrides entries => .ok (.ofTable entries)
  | constants data => copied data
  | document _ data => copied data
  | environment source bindings =>
    (boundEntries (source.resolve process) bindings bindings.keys []).map .ofTable

def logger : String := "droidenv.config.providers"

/-- Reads a settings file. Null counts as an empty document. -/
def readFile (room : Json5.Room) (path : Pathname) (data : List UInt8) : Except Failure Layer :=
  match (FileTree.readText? data).bind (Json5.read? room) with
  | none => .error (.document (.unreadable path.shown))
  | some .null => .ok (document (some path) (.object []))
  | some value =>
    if value.isMapping then .ok (document (some path) value)
    else .error (.document (.contentNotMapping value.typeName))

/-- The record of a settings file that is missing. -/
def fileMissing (context : LogContext) (path : Pathname) : LogRecord where
  level := .debug
  logger := logger
  message := LayerKind.document.name ++ ": '" ++ path.shown ++
    "' is missing, starting as empty dict"
  context := context

/-- The layer of a settings file. Unless `strict` is set, a missing file is an empty document. -/
def ofPath (machine : Machine) (context : LogContext) (name : String) (strict : Bool) :
    Traced Layer :=
  match (Pathname.parse name).expandHome machine.homeOf with
  | .error failure => .fail failure
  | .ok path =>
    match machine.files.find path with
    | .ok .directory | .ok .locked => .fail (.document (.notFile path.shown))
    | .ok (.file data) => .ofExcept (readFile machine.room path data)
    | .error .nameTooLong => .fail (.system .system)
    | .error .denied => .fail (.system .permission)
    | .error _ =>
      if strict then .fail (.document (.missingFile path.shown))
      else (machine.log (fileMissing context path)).map fun _ => document (some path) (.object [])

/-- The layer of a document given as a value, a file, or neither. -/
def ofSources (machine : Machine) (context : LogContext) (data : Value) (name : Option String)
    (strict : Bool) : Traced Layer :=
  match name with
  | some name =>
    if data.isNull then ofPath machine context name strict
    else .fail (.document .twoSources)
  | none =>
    if data.isNull then .fail (.document .noSource)
    else if data.isMapping then .done (document none data)
    else .fail (.document (.dataNotMapping data.typeName))

end Layer

end StorageLayout
