import StorageLayout.Log.Output
import StorageLayout.SharedState

/-! Processes that log. What a process logs goes to its output, which the settings configure; a
record that the output cannot deliver makes fail what logs it. -/

namespace StorageLayout

namespace LogOutput

/-- The level of summaries that a setting names; any other text means the standard one. -/
def summaryLevelOf (value : Value) : Level :=
  match Settings.SummaryLevel.ofName? (Text.upper value.plain) with
  | some .debug => Level.debug
  | some .info => Level.info
  | some .warning => Level.warning
  | some .error => Level.error
  | none => Level.info

/-- The place of the settings about repeated messages. -/
def suppressionKey (name : String) : Value := .text ("debug.suppressRecurringMessages." ++ name)

/-- The filter for repeated messages that the settings ask for. -/
def filterOf (context : LogContext) (state : SharedState) :
    SharedState.Step (Option RepeatFilter) :=
  .andThen (state.configTruth context (suppressionKey "enabled") (.bool false))
    fun state enabled =>
  if !enabled.truthy then (state, .done none)
  else
    .andThen (state.config context (suppressionKey "summaryLevel") (.text "INFO"))
      fun state level =>
    .andThen (state.config context (suppressionKey "windowSeconds") (.int 60))
      fun state windowSeconds =>
    .andThen (state.config context (suppressionKey "maxPerWindow") (.int 5))
      fun state maxPerWindow =>
    .andThen (state.config context (suppressionKey "maxKeys") (.int 1024))
      fun state maxKeys =>
    (state, .ofExcept do
      let limits ← RepeatLimits.ofValues windowSeconds maxPerWindow
        (.int (summaryLevelOf level)) maxKeys
      return some (RepeatFilter.ofLimits limits))

/-- The failure of opening a log file. -/
def openFailure : FileTree.OpenProblem → Failure
  | .missingDirectory => .system .fileNotFound
  | .notDirectory => .system (.named "NotADirectoryError" .system)
  | .isDirectory => .system (.named "IsADirectoryError" .system)
  | .nameTooLong => .system .system
  | .denied => .system .permission
  | .embeddedNul => .embeddedNul
  | .unnameable => .unnameable

/-- Opens the log file that the settings name, if they name one. -/
def openLogFile (context : LogContext) (state : SharedState) : SharedState.Step (Option Pathname) :=
  .andThen (state.config context (.text "logging.file") .null) fun state name =>
  if !name.truthy then (state, .done none)
  else
    let path := (Pathname.parse name.plainCodes).collapse
    match state.machine.files.openFile path with
    | .error problem => (state, .fail (openFailure problem))
    | .ok files =>
      ({ state with machine := { state.machine with files := files } }, .done (some path))

/-- The output while it is being configured: there is no handler. -/
def bareAt (level : Level) : LogOutput := ⟨false, level, [], none⟩

/-- The output that the settings ask for. -/
def ofSettings (level : Level) (context : LogContext) (state : SharedState) :
    SharedState.Step LogOutput :=
  .andThen (openLogFile context state) fun state file =>
  .andThen (filterOf context state) fun state filter =>
    let targets := .console :: (file.map LogTarget.file).toList
    (state, .done
      { collecting := false
        level := level
        handlers := targets.map fun target => ⟨target, level⟩
        filter := filter })

end LogOutput

/-- A process, where its records go, and the log context in which it runs. -/
structure LoggingProcess where
  process : SharedState
  output : LogOutput
  context : LogContext

/-- What comes of a call: the process after it, its outcome, and what became of its records. -/
abbrev LoggingProcess.Call (α : Type) := LoggingProcess × Except Failure α × List Delivery

namespace LoggingProcess

/-- The process as a call finds it: records are refused as the output refuses them. -/
def current (logging : LoggingProcess) : SharedState :=
  { logging.process with
    machine := { logging.process.machine with refusal := logging.output.refusal } }

/-- Makes a call in a process. Its records reach the output, also those that make it fail. -/
def call {α : Type} (clocks : Nat → LogOutput.Clock)
    (step : LogContext → SharedState → SharedState.Step α) (logging : LoggingProcess) : Call α :=
  let done := step logging.context logging.current
  let delivered := logging.output.deliverTrail clocks done.2.trail
  ({ logging with process := done.1, output := delivered.1 }, done.2.outcome, delivered.2)

/-- Configures logging from the settings. If the settings cannot be read nothing changes; any other
failure leaves the level set and no handler at all. -/
def configure (clocks : Nat → LogOutput.Clock) (logging : LoggingProcess) : Call Unit :=
  let mode := logging.call clocks fun context state =>
    state.configTruth context (.text "debug.devModeEnabled") (.bool false)
  match mode.2.1 with
  | .error failure => (mode.1, .error failure, mode.2.2)
  | .ok devMode =>
    let level := if devMode.truthy then Level.debug else Level.info
    let made := call clocks (LogOutput.ofSettings level) { mode.1 with output := .bareAt level }
    let deliveries := mode.2.2 ++ made.2.2
    match made.2.1 with
    | .error failure => (made.1, .error failure, deliveries)
    | .ok output => ({ made.1 with output := output }, .ok (), deliveries)

end LoggingProcess

end StorageLayout
