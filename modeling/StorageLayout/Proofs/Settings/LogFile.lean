import StorageLayout.Proofs.Config.Merge
import StorageLayout.Proofs.Config.Overrides
import StorageLayout.Proofs.Settings.Layers
import StorageLayout.Proofs.SharedState.Independence

/-! A log file that is named by a variable. What a variable says is decoded before it is known which
setting it is for: a name that spells a truth value becomes one, and a truth value is no log file.
Main statement: any other name reaches the store, the effective document and the settings as it is;
a name that spells a truth value keeps the store from being built. -/

namespace StorageLayout

namespace Layer

section

variable {environment : Environment} {bindings : Table String} {key : String}

/-- What a bound key reads as, by its variable. -/
theorem boundValue_of_bound {variableName : String}
    (bound : bindings.get? key = some variableName) :
    boundValue environment bindings key =
      (environment.lookup? variableName).elim .null variableValue := by
  rw [boundValue, bound]
  dsimp only
  cases environment.lookup? variableName with
  | none => rw [Option.elim_none]
  | some text => rw [Option.elim_some]

theorem isNull_variableValue (text : String) : (variableValue text).isNull = false := by
  rw [variableValue]
  split <;> rfl

variable {keys : List String} {entries : Table Value}

theorem boundEntries_of_null (unset : boundValue environment bindings key = .null) :
    boundEntries environment bindings (key :: keys) entries =
      boundEntries environment bindings keys entries := by
  rw [boundEntries, unset]
  rfl

theorem boundEntries_of_assign {value : Value} {written : Table Value}
    (bound : boundValue environment bindings key = value) (present : value.isNull = false)
    (assigned : assign entries key value = .ok written) :
    boundEntries environment bindings (key :: keys) entries =
      boundEntries environment bindings keys written := by
  simp [boundEntries, bound, present, assigned]

end

end Layer

namespace Settings

def logFileVariable : String := "DROIDENV_LOG_FILE"

def logFileKey : String := "logging.file"

/-- An environment whose only variable of settings names a log file. -/
structure NamesLogFile (environment : Environment) (name : String) : Prop where
  given : environment.get? logFileVariable = some name
  nonempty : name ≠ ""
  noFile : environment.lookup? fileVariable = none
  noDevMode : environment.lookup? "DROIDENV_DEV_MODE" = none
  noStrictMode : environment.lookup? "DROIDENV_STRICT_USER" = none

/-- Whether the standard settings file can be looked for and is not there, which can be logged. -/
def LacksStandardFile (machine : Machine) (context : LogContext) : Prop :=
  ∃ path absence, (Pathname.parse standardFile).expandHome machine.homeOf = .ok path ∧
    machine.files.find path = .error absence ∧ (absence = .missing ∨ absence = .notDirectory) ∧
      machine.refusal (Layer.fileMissing context path) = none

def logFileEntries (file : Value) : Table Value := [("logging", .object [("file", file)])]

section

variable {environment : Environment} {name : String} (names : NamesLogFile environment name)

include names

theorem boundValue_logFile :
    Layer.boundValue environment bindings logFileKey = Layer.variableValue name := by
  have lookup : environment.lookup? logFileVariable = some name := by
    rw [Environment.lookup?, names.given]
    exact if_neg names.nonempty
  have bound : bindings.get? logFileKey = some logFileVariable := rfl
  rw [Layer.boundValue_of_bound bound, lookup, Option.elim_some]

theorem boundEntries_logFile :
    Layer.boundEntries environment bindings bindings.keys [] =
      .ok (logFileEntries (Layer.variableValue name)) := by
  have devMode : Layer.boundValue environment bindings "debug.devModeEnabled" = .null := by
    rw [Layer.boundValue_of_bound rfl, names.noDevMode, Option.elim_none]
  have strictMode : Layer.boundValue environment bindings strictModeKey = .null := by
    rw [Layer.boundValue_of_bound rfl, names.noStrictMode, Option.elim_none]
  have keys : bindings.keys = ["debug.devModeEnabled", logFileKey, strictModeKey] := rfl
  have parsed : Key.parse logFileKey = .ok ⟨"logging", ["file"]⟩ := rfl
  have assigned : Layer.assign [] logFileKey (Layer.variableValue name) =
      .ok (logFileEntries (Layer.variableValue name)) :=
    (Layer.assign_eq_ok_of_parse parsed).mpr rfl
  rw [keys, Layer.boundEntries_of_null devMode, Layer.boundEntries_of_assign
    (boundValue_logFile names) (Layer.isNull_variableValue name) assigned,
    Layer.boundEntries_of_null strictMode, Layer.boundEntries]

end

def standardWithFile (file : Value) : Document :=
  (Document.ofTable standard.document).merge (.ofTable (logFileEntries file))

theorem file_standardWithFile (file : Value) :
    (standardWithFile file).root.get? ⟨"logging", ["file"]⟩ = some file := rfl

theorem check_text (name : String) :
    check (standardWithFile (.text name)) = .ok { standard with logFile := some name } := rfl

theorem check_truth (truth : Bool) :
    check (standardWithFile (.bool truth)) = .error [⟨["logging", "file"], .notText⟩] := rfl

theorem merge_standardWithFile (file : Value) :
    (((Document.empty.merge (.ofTable standard.document)).merge (.ofTable [])).merge
      (.ofTable (logFileEntries file))).merge (.ofTable []) = standardWithFile file := rfl

def storeWithoutFile (source : EnvironmentSource) (path : Pathname) : Store :=
  storeOver source (.document (some path) (.object []))

section

variable {process : Environment} {source : EnvironmentSource} {name : String}
  (names : NamesLogFile (source.resolve process) name) (path : Pathname)

include names

theorem get_logFile :
    (storeWithoutFile source path).get process logFileKey = Layer.variableValue name := by
  have overrides : (Layer.overrides []).get process logFileKey = .null := rfl
  have bound : (Layer.environment source bindings).get process logFileKey =
      Layer.variableValue name := boundValue_logFile names
  have absent : Value.null.isNull = true := rfl
  simp [storeWithoutFile, storeOver, Store.get, Store.find?, overrides, bound, absent,
    Layer.isNull_variableValue]

theorem merged_logFile :
    (storeWithoutFile source path).merged process =
      .ok (standardWithFile (Layer.variableValue name)) := by
  have bound : (Layer.environment source bindings).toDocument process =
      .ok (.ofTable (logFileEntries (Layer.variableValue name))) := by
    rw [Layer.toDocument, boundEntries_logFile names]
    rfl
  have constants : (Layer.constants (.object standard.document)).toDocument process =
      .ok (.ofTable standard.document) := rfl
  have file : (Layer.document (some path) (.object [])).toDocument process = .ok (.ofTable []) :=
    rfl
  have overrides : (Layer.overrides []).toDocument process = .ok (.ofTable []) := rfl
  simp only [storeWithoutFile, storeOver, Store.merged, Store.mergeOver, constants, file, bound,
    overrides, merge_standardWithFile]

theorem validate_logFile :
    (storeWithoutFile source path).validate process =
      ((accept (standardWithFile (Layer.variableValue name))).map fun _ => ()).mapError
        (.invalidDocument space) := by
  have merged := merged_logFile names path
  have checks : (storeWithoutFile source path).validator =
      some fun document => (accept document).map fun _ => () := rfl
  rw [Store.validate, checks]
  dsimp only
  rw [merged]
  dsimp only [Except.bind]
  cases accept (standardWithFile (Layer.variableValue name)) <;> rfl

end

/-- Without a settings file, building the store comes down to checking it. -/
theorem buildStore_of_lacksStandardFile {machine : Machine} {context : LogContext}
    (missing : LacksStandardFile machine context) {source : EnvironmentSource}
    (noFile : (source.resolve machine.environment).lookup? fileVariable = none) :
    ∃ path, (buildStore machine context source none).outcome =
      ((storeWithoutFile source path).validate machine.environment).map
        fun _ => storeWithoutFile source path := by
  obtain ⟨path, absence, found, absent, plainly, logged⟩ := missing
  have chosen : chooseFile (source.resolve machine.environment) none = (standardFile, false) := by
    rw [chooseFile, noFile]
  have noted : ((machine.log (Layer.fileMissing context path)).map fun _ =>
      Layer.document (some path) (.object [])).outcome = .ok (.document (some path) (.object [])) := by
    rw [Machine.log_of_none logged]
    rfl
  have opened : (Layer.ofPath machine context standardFile false).outcome =
      .ok (.document (some path) (.object [])) := by
    unfold Layer.ofPath
    simp only [found, absent]
    rcases plainly with rfl | rfl
    · exact noted
    · exact noted
  exact ⟨path, buildStore_of_read chosen opened⟩

/-- A log file can be named by a variable unless the name spells a truth value: the key, the
effective document and the settings have the name as it is. Otherwise the store is not built, as
what stands for the log file in the document is no text. -/
theorem logFile_from_variable_unless_truth {machine : Machine} {context : LogContext}
    (missing : LacksStandardFile machine context) {source : EnvironmentSource} {name : String}
    (names : NamesLogFile (source.resolve machine.environment) name) :
    (Text.truth? name = none →
      ∃ store document, (buildStore machine context source none).outcome = .ok store ∧
        store.get machine.environment logFileKey = .text name ∧
        store.merged machine.environment = .ok document ∧
        document.root.get? ⟨"logging", ["file"]⟩ = some (.text name) ∧
        accept document = .ok { standard with logFile := some name }) ∧
    ∀ truth, Text.truth? name = some truth →
      (buildStore machine context source none).outcome =
        .error (.invalidDocument space (.issues [⟨["logging", "file"], .notText⟩])) := by
  obtain ⟨path, built⟩ := buildStore_of_lacksStandardFile missing names.noFile
  have merged := merged_logFile names path
  have read := get_logFile names path
  have validated := validate_logFile names path
  constructor
  · intro word
    have value : Layer.variableValue name = .text name := by rw [Layer.variableValue, word]
    rw [value] at merged read validated
    have accepted : accept (standardWithFile (.text name)) =
        .ok { standard with logFile := some name } := by rw [accept, check_text]
    rw [validated, accepted] at built
    exact ⟨_, _, built, read, merged, file_standardWithFile _, accepted⟩
  · intro truth word
    have value : Layer.variableValue name = .bool truth := by rw [Layer.variableValue, word]
    have refused : accept (standardWithFile (.bool truth)) =
        .error (.issues [⟨["logging", "file"], .notText⟩]) := by rw [accept, check_truth]
    rw [built, validated, value, refused]
    rfl

/-- One name that reaches the store, and one that spells a truth value with blanks and capitals. -/
theorem logFile_from_variable_trace :
    (∃ store,
      (buildStore SharedState.plainMachine none (some [(logFileVariable, "trace.log")])
        none).outcome = .ok store ∧
      store.get SharedState.plainMachine.environment logFileKey = .text "trace.log") ∧
    (buildStore SharedState.plainMachine none (some [(logFileVariable, " On")]) none).outcome =
      .error (.invalidDocument space (.issues [⟨["logging", "file"], .notText⟩])) := by
  have missing : LacksStandardFile SharedState.plainMachine none :=
    ⟨SharedState.plainFile, .missing, SharedState.expandHome_plain, SharedState.find_plain,
      .inl rfl, rfl⟩
  have names (name : String) (nonempty : name ≠ "") :
      NamesLogFile (EnvironmentSource.resolve (some [(logFileVariable, name)])
        SharedState.plainMachine.environment) name :=
    ⟨rfl, nonempty, rfl, rfl, rfl⟩
  obtain ⟨store, document, built, read, -⟩ :=
    (logFile_from_variable_unless_truth missing (names "trace.log" (by decide))).1 (by decide)
  have refused := (logFile_from_variable_unless_truth missing (names " On" (by decide))).2
  exact ⟨⟨store, built, read⟩, refused true (by decide)⟩

end Settings

end StorageLayout
