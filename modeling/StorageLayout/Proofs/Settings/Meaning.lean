import StorageLayout.Log.Setup
import StorageLayout.Proofs.Settings.Readers
import StorageLayout.Proofs.Settings.Reading

/-! What settings mean when they are used. The checked settings are not kept; those who need one read
the effective document again. What they find is what the check found, except that a setting which is
switched off by a word counts as on, and that not every number which the check takes can be read. -/

namespace StorageLayout

namespace Settings

/-- Whether there is something true at a place. -/
def truthAt (root : Value) (place : List String) : Bool :=
  ((root.at? place).map Value.truthy).getD false

def valueAt (root : Value) (place : List String) (standard : Value) : Value :=
  if ((root.at? place).getD .null).isNull then standard else (root.at? place).getD .null

def OffByWord (root : Value) (place : List String) (truth : Bool) : Prop :=
  truth = false ∧ ∃ raw, root.at? place = some raw ∧ raw.isSpelled = true

def ReadableAt (root : Value) (place : List String) : Prop :=
  ∀ raw, root.at? place = some raw → ∃ number, raw.toInteger = .ok number

section

variable {root : Value} {place : List String}

theorem truthAt_eq {truth : Bool} (means : Means root place checkTruth false truth) :
    truthAt root place = (truth || ((root.at? place).map Value.isSpelled).getD false) := by
  rcases means with ⟨absent, rfl⟩ | ⟨raw, found, checked⟩
  · rw [truthAt, absent]
    rfl
  · rw [truthAt, found]
    exact truthy_of_checkTruth checked

theorem offByWord_iff {truth : Bool} :
    OffByWord root place truth ↔
      truth = false ∧ ((root.at? place).map Value.isSpelled).getD false = true := by
  rw [OffByWord]
  cases root.at? place <;> simp

theorem truthAt_eq_iff {truth : Bool} (means : Means root place checkTruth false truth) :
    truthAt root place = truth ↔ ¬ OffByWord root place truth := by
  rw [truthAt_eq means, offByWord_iff]
  cases truth <;> simp

theorem truthAt_eq_true_iff {truth : Bool} (means : Means root place checkTruth false truth) :
    truthAt root place = true ↔ truth = true ∨ OffByWord root place truth := by
  rw [truthAt_eq means, offByWord_iff]
  cases truth <;> simp

/-- Strict mode, read layer by layer, is true exactly if the effective document has something true
for it. -/
theorem truthy_get_strictMode {source : EnvironmentSource} {content : Value}
    {entries : Table Value} {store : Store} (layered : IsLayered source content entries store)
    {process : Environment} {document : Document} (merged : store.merged process = .ok document)
    (user : ∀ value, document.root.at? ["user"] = some value → value.isMapping = true)
    {truth : Bool}
    (means : Means document.root strictModeAt.segments checkTruth false truth) :
    (store.get process strictModeKey).truthy = truthAt document.root strictModeAt.segments := by
  rcases means with ⟨absent, -⟩ | ⟨raw, found, checked⟩
  · rw [get_strictMode_of_absent layered merged user absent, truthAt, absent]
    rfl
  · rw [Store.get_of_leaf layered.declared parse_strictModeKey merged
      (isLeaf_of_checkTruth checked) found, truthAt, found]
    rfl

theorem isNull_of_checkCount {raw : Value} {count : Int} (checked : checkCount raw = .ok count) :
    raw.isNull = false := by
  cases raw <;> first | rfl | cases checked

end

end Settings

namespace RepeatLimits

theorem countOf_eq_ok {raw : Value} {count : Int} {read : Nat}
    (checked : Settings.checkCount raw = .ok count) (counted : countOf raw = .ok read) :
    (read : Int) = count := by
  obtain ⟨lenient, positive⟩ := Settings.checkCount_eq_ok checked
  unfold countOf at counted
  split at counted
  · next number strict =>
    obtain rfl := Settings.toInteger_eq_checkInteger lenient strict
    obtain rfl := Except.ok.inj counted
    omega
  · cases counted

theorem countOf_isOk_iff {raw : Value} :
    (∃ count, countOf raw = .ok count) ↔ ∃ number, raw.toInteger = .ok number := by
  unfold countOf
  cases raw.toInteger <;> simp

theorem ofValues_eq_ok {windowSeconds maxPerWindow maxKeys : Value} {level : Int}
    {limits : RepeatLimits} :
    ofValues windowSeconds maxPerWindow (.int level) maxKeys = .ok limits ↔
      ∃ window perWindow keys, countOf windowSeconds = .ok window ∧
        countOf maxPerWindow = .ok perWindow ∧ countOf maxKeys = .ok keys ∧
        limits = ⟨window, perWindow, keys, level⟩ := by
  unfold ofValues
  cases countOf windowSeconds with
  | error failure => simp [bind, Except.bind]
  | ok window =>
    cases countOf maxPerWindow with
    | error failure => simp [bind, Except.bind]
    | ok perWindow =>
      cases countOf maxKeys with
      | error failure => simp [bind, Except.bind, levelOf, Value.toInteger]
      | ok keys => simp [bind, Except.bind, levelOf, Value.toInteger, pure, Except.pure, eq_comm]

theorem exists_ofValues_iff {windowSeconds maxPerWindow maxKeys : Value} {level : Int} :
    (∃ limits, ofValues windowSeconds maxPerWindow (.int level) maxKeys = .ok limits) ↔
      (∃ count, countOf windowSeconds = .ok count) ∧ (∃ count, countOf maxPerWindow = .ok count) ∧
        ∃ count, countOf maxKeys = .ok count := by
  constructor
  · rintro ⟨limits, made⟩
    obtain ⟨window, perWindow, keys, windowRead, perWindowRead, keysRead, -⟩ :=
      ofValues_eq_ok.mp made
    exact ⟨⟨window, windowRead⟩, ⟨perWindow, perWindowRead⟩, ⟨keys, keysRead⟩⟩
  · rintro ⟨⟨window, windowRead⟩, ⟨perWindow, perWindowRead⟩, ⟨keys, keysRead⟩⟩
    refine ⟨⟨window, perWindow, keys, level⟩, ?_⟩
    apply ofValues_eq_ok.mpr
    exact ⟨window, perWindow, keys, windowRead, perWindowRead, keysRead, rfl⟩

end RepeatLimits

namespace SharedState

@[simp] theorem Step.done_andThen {α β : Type} (state : SharedState) (value : α)
    (next : SharedState → α → Step β) :
    Step.andThen (state, .done value) next = next state value := rfl

/-- Whether a document is the effective one of the global settings. -/
structure HasSettings (state : SharedState) (document : Document) : Prop where
  found : ∃ index, state.globalStore = some index ∧ state.documentAt index = .ok document

section

variable {state : SharedState} {document : Document} (has : state.HasSettings document)
  (context : LogContext)

include has

theorem setting_eq {text : String} {key : Key} (parsed : Key.parse text = .ok key) :
    state.setting context (.text text) =
      (state, .done ((document.root.at? key.segments).getD .null)) := by
  obtain ⟨index, global, documentAt⟩ := has.found
  simp [setting, globalConfig, initConfig, global, Step.andThen, documentAt, Traced.after,
    Traced.done, Value.read?, Key.ofValue, parsed, Value.get?, Document.root]

theorem config_eq {text : String} {key : Key} (parsed : Key.parse text = .ok key)
    (standard : Value) :
    state.config context (.text text) standard =
      (state, .done (Settings.valueAt document.root key.segments standard)) := by
  rw [config, setting_eq has context parsed, Step.done_andThen]
  rfl

theorem configTruth_eq {text : String} {key : Key} (parsed : Key.parse text = .ok key)
    {truth : Bool}
    (means : Settings.Means document.root key.segments Settings.checkTruth false truth) :
    state.configTruth context (.text text) (.bool false) =
      (state, .done (.bool (Settings.truthAt document.root key.segments))) := by
  have value : (if ((document.root.at? key.segments).getD .null).isNull then Value.bool false
      else .bool ((document.root.at? key.segments).getD .null).truthy) =
      .bool (Settings.truthAt document.root key.segments) := by
    rw [Settings.truthAt]
    rcases means with ⟨absent, -⟩ | ⟨raw, found, checked⟩
    · rw [absent]
      rfl
    · rw [found]
      simp [(Settings.isLeaf_of_checkTruth checked).1]
  simp [configTruth, setting_eq has context parsed, Step.andThen, Traced.after, Traced.done, value]

/-- What a reader of a count finds passes the check of counts, and can be read exactly if what is in
the document can. -/
theorem config_count {text : String} {key : Key} (parsed : Key.parse text = .ok key)
    {standard count : Int} (positive : 1 ≤ standard)
    (means : Settings.Means document.root key.segments Settings.checkCount standard count) :
    ∃ raw, state.config context (.text text) (.int standard) = (state, .done raw) ∧
      Settings.checkCount raw = .ok count ∧
      ((∃ read, RepeatLimits.countOf raw = .ok read) ↔
        Settings.ReadableAt document.root key.segments) := by
  rw [config_eq has context parsed]
  refine ⟨_, rfl, ?_⟩
  rw [RepeatLimits.countOf_isOk_iff, Settings.ReadableAt, Settings.valueAt]
  rcases means with ⟨absent, rfl⟩ | ⟨raw, found, checked⟩
  · rw [absent]
    have small : ¬ count < 1 := by omega
    refine ⟨?_, iff_of_true ⟨count, rfl⟩ (by simp)⟩
    simp [Value.isNull, Settings.checkCount, Settings.checkInteger, small]
  · rw [found]
    simp [Settings.isNull_of_checkCount checked, checked]

end

end SharedState

namespace LogOutput

section

variable {state : SharedState} {document : Document} {settings : Settings}

/-- The place of the settings about repeated messages. -/
def suppressionAt (name : String) : List String := ["debug", "suppressRecurringMessages", name]

/-- Whether the three limits of the filter can be read as numbers. -/
def LimitsReadable (root : Value) : Prop :=
  Settings.ReadableAt root (suppressionAt "windowSeconds") ∧
    Settings.ReadableAt root (suppressionAt "maxPerWindow") ∧
      Settings.ReadableAt root (suppressionAt "maxKeys")

/-- Whether a filter has the limits that settings about repeated messages name. -/
structure HasLimits (filter : RepeatFilter) (suppression : Settings.Suppression) : Prop where
  windowSeconds : (filter.limits.windowSeconds : Int) = suppression.windowSeconds
  maxPerWindow : (filter.limits.maxPerWindow : Int) = suppression.maxPerWindow
  maxKeys : (filter.limits.maxKeys : Int) = suppression.maxKeys

/-- A filter is made exactly if repeated messages count as suppressed and the limits can be read. It
has the limits that the settings name. -/
theorem filterOf_spec (has : state.HasSettings document) (meant : settings.MeantBy document.root)
    (context : LogContext) :
    (filterOf context state).1 = state ∧
      (∀ filter, (filterOf context state).2.outcome = .ok (some filter) →
        HasLimits filter settings.suppression) ∧
      ((∃ filter, (filterOf context state).2.outcome = .ok (some filter)) ↔
        Settings.truthAt document.root (suppressionAt "enabled") = true ∧
          LimitsReadable document.root) := by
  have parsed : ∀ name ∈ ["enabled", "windowSeconds", "maxPerWindow", "maxKeys", "summaryLevel"],
      Key.parse ("debug.suppressRecurringMessages." ++ name) =
        .ok ⟨"debug", ["suppressRecurringMessages", name]⟩ := by
    simp only [List.forall_mem_cons]
    exact ⟨rfl, rfl, rfl, rfl, rfl, by simp⟩
  have enabled := SharedState.configTruth_eq has context (parsed "enabled" (by simp))
    meant.suppression.enabled
  have level := SharedState.config_eq has context (parsed "summaryLevel" (by simp)) (.text "INFO")
  obtain ⟨window, windowRead, windowChecked, windowReadable⟩ := SharedState.config_count has context
    (parsed "windowSeconds" (by simp)) (by decide) meant.suppression.windowSeconds
  obtain ⟨perWindow, perWindowRead, perWindowChecked, perWindowReadable⟩ :=
    SharedState.config_count has context (parsed "maxPerWindow" (by simp)) (by decide)
      meant.suppression.maxPerWindow
  obtain ⟨keys, keysRead, keysChecked, keysReadable⟩ := SharedState.config_count has context
    (parsed "maxKeys" (by simp)) (by decide) meant.suppression.maxKeys
  have place : Key.segments ⟨"debug", ["suppressRecurringMessages", "enabled"]⟩ =
      suppressionAt "enabled" := rfl
  rw [place] at enabled
  unfold filterOf suppressionKey
  rw [enabled, SharedState.Step.done_andThen]
  cases Settings.truthAt document.root (suppressionAt "enabled") with
  | false => simp [Value.truthy, Traced.done]
  | true =>
    simp only [Value.truthy, Bool.not_true, Bool.false_eq_true, if_false]
    rw [level, SharedState.Step.done_andThen, windowRead, SharedState.Step.done_andThen,
      perWindowRead, SharedState.Step.done_andThen, keysRead, SharedState.Step.done_andThen]
    have made (filter : RepeatFilter) (level : Level) :
        ((RepeatLimits.ofValues window perWindow (.int level) keys).bind fun limits =>
            .ok (some (RepeatFilter.ofLimits limits))) = .ok (some filter) ↔
          ∃ limits, RepeatLimits.ofValues window perWindow (.int level) keys = .ok limits ∧
            RepeatFilter.ofLimits limits = filter := by
      cases RepeatLimits.ofValues window perWindow (.int level) keys <;> simp [Except.bind]
    refine ⟨rfl, ?_, ?_⟩
    · intro filter outcome
      obtain ⟨limits, limitsRead, rfl⟩ := (made filter _).mp outcome
      obtain ⟨windowCount, perWindowCount, keysCount, windowOk, perWindowOk, keysOk, rfl⟩ :=
        RepeatLimits.ofValues_eq_ok.mp limitsRead
      constructor
      · exact RepeatLimits.countOf_eq_ok windowChecked windowOk
      · exact RepeatLimits.countOf_eq_ok perWindowChecked perWindowOk
      · exact RepeatLimits.countOf_eq_ok keysChecked keysOk
    · constructor
      · rintro ⟨filter, outcome⟩
        obtain ⟨limits, limitsRead, -⟩ := (made filter _).mp outcome
        obtain ⟨windowIs, perWindowIs, keysIs⟩ :=
          RepeatLimits.exists_ofValues_iff.mp ⟨limits, limitsRead⟩
        exact ⟨trivial, windowReadable.mp windowIs, perWindowReadable.mp perWindowIs,
          keysReadable.mp keysIs⟩
      · rintro ⟨-, windowIs, perWindowIs, keysIs⟩
        obtain ⟨limits, limitsRead⟩ := RepeatLimits.exists_ofValues_iff.mpr
          ⟨windowReadable.mpr windowIs, perWindowReadable.mpr perWindowIs, keysReadable.mpr keysIs⟩
        exact ⟨RepeatFilter.ofLimits limits, (made _ _).mpr ⟨limits, limitsRead, rfl⟩⟩

/-- The log file that is opened depends on the settings and the files alone, and nothing is said
about it. -/
theorem openLogFile_eq (has : state.HasSettings document) (context : LogContext) :
    let name := Settings.valueAt document.root ["logging", "file"] .null
    let path := (Pathname.parse name.plainCodes).collapse
    openLogFile context state =
      if !name.truthy then (state, .done none)
      else
        match state.machine.files.openFile path with
        | .error problem => (state, .fail (openFailure problem))
        | .ok files =>
          ({ state with machine := { state.machine with files := files } }, .done (some path)) := by
  have parsed : Key.parse "logging.file" = .ok ⟨"logging", ["file"]⟩ := rfl
  rw [openLogFile, SharedState.config_eq has context parsed .null, SharedState.Step.done_andThen]
  rfl

theorem hasSettings_openLogFile (has : state.HasSettings document) (context : LogContext) :
    (openLogFile context state).1.HasSettings document := by
  rw [openLogFile_eq has]
  split
  · exact has
  · split
    · exact has
    · exact ⟨has.found⟩

theorem openLogFile_outcome_congr {other : SharedState} (has : state.HasSettings document)
    (hasToo : other.HasSettings document) (files : state.machine.files = other.machine.files)
    (context : LogContext) :
    (openLogFile context state).2.outcome = (openLogFile context other).2.outcome := by
  rw [openLogFile_eq has, openLogFile_eq hasToo, files]
  split
  · rfl
  · split <;> rfl

/-- The output that the settings ask for has a filter exactly if repeated messages count as
suppressed; it is made exactly if the log file can be opened, and the limits be read if they are
needed. -/
theorem ofSettings_filter (has : state.HasSettings document)
    (meant : settings.MeantBy document.root) (context : LogContext) (level : Level) :
    (∀ output filter, (ofSettings level context state).2.outcome = .ok output →
        output.filter = some filter → HasLimits filter settings.suppression) ∧
      ((∃ output, (ofSettings level context state).2.outcome = .ok output ∧
          output.filter.isSome = true) ↔
        Settings.truthAt document.root (suppressionAt "enabled") = true ∧
          (∃ file, (openLogFile context state).2.outcome = .ok file) ∧
          LimitsReadable document.root) := by
  have hasOpened := hasSettings_openLogFile has context
  obtain ⟨-, limits, exists_iff⟩ := filterOf_spec hasOpened meant context
  unfold ofSettings
  cases opened : (openLogFile context state).2.outcome with
  | error failure => simp [SharedState.Step.andThen, opened]
  | ok file =>
    cases made : (filterOf context (openLogFile context state).1).2.outcome with
    | error failure =>
      rw [made] at exists_iff
      simp only [SharedState.Step.andThen, opened, Traced.after, made]
      refine ⟨by simp, iff_of_false (by simp) ?_⟩
      rintro ⟨on, -, readable⟩
      obtain ⟨filter, impossible⟩ := exists_iff.mpr ⟨on, readable⟩
      cases impossible
    | ok filter =>
      simp only [SharedState.Step.andThen, opened, Traced.after, made]
      constructor
      · intro output other done same
        obtain rfl := Except.ok.inj done
        exact limits other (by rw [made, ← same])
      · constructor
        · rintro ⟨output, done, some_⟩
          obtain rfl := Except.ok.inj done
          obtain ⟨other, rfl⟩ := Option.isSome_iff_exists.mp some_
          obtain ⟨on, readable⟩ := exists_iff.mp ⟨other, made⟩
          exact ⟨on, ⟨file, rfl⟩, readable⟩
        · rintro ⟨on, -, readable⟩
          obtain ⟨other, outcome⟩ := exists_iff.mpr ⟨on, readable⟩
          rw [made] at outcome
          exact ⟨_, rfl, by rw [Except.ok.inj outcome]; rfl⟩

theorem deliverTrail_of_unfiltered {output : LogOutput} (unfiltered : output.filter = none)
    (clocks : Nat → Clock) (trail : List Emission) :
    (output.deliverTrail clocks trail).1 = output := by
  have kept (clock : Clock) (record : LogRecord) : (output.deliver clock record).1 = output := by
    simp only [deliver, unfiltered]
    repeat' split
    all_goals rfl
  induction trail generalizing clocks with
  | nil => rfl
  | cons emission rest ih =>
    cases emission with
    | record record =>
      rw [deliverTrail]
      dsimp only
      rw [kept]
      exact ih _
    | _ => exact ih clocks

end

end LogOutput

namespace LoggingProcess

variable {logging : LoggingProcess} {document : Document} {settings : Settings}

/-- Where the settings can be read, the configured output is the one that they ask for, or bare if
that cannot be had. -/
theorem configure_output (has : logging.process.HasSettings document)
    (meant : settings.MeantBy document.root) (clocks : Nat → LogOutput.Clock) :
    ∃ level, (logging.configure clocks).1.output =
      ((LogOutput.ofSettings level logging.context
        { logging with output := .bareAt level }.current).2.outcome.toOption).getD
          (.bareAt level) := by
  have parsed : Key.parse "debug.devModeEnabled" = .ok ⟨"debug", ["devModeEnabled"]⟩ := rfl
  have hasNow : logging.current.HasSettings document := ⟨has.found⟩
  have mode := SharedState.configTruth_eq hasNow logging.context parsed meant.devMode
  have called : logging.call clocks (fun context state =>
        state.configTruth context (.text "debug.devModeEnabled") (.bool false)) =
      ({ logging with process := logging.current },
        .ok (.bool (Settings.truthAt document.root ["debug", "devModeEnabled"])), []) := by
    rw [call, mode]
    rfl
  unfold configure
  rw [called]
  dsimp only
  generalize (if (Value.bool (Settings.truthAt document.root ["debug", "devModeEnabled"])).truthy =
    true then Level.debug else Level.info) = level
  refine ⟨level, ?_⟩
  unfold call
  dsimp only [current]
  cases (LogOutput.ofSettings level logging.context
      { logging.process with
        machine := { logging.process.machine with
          refusal := (LogOutput.bareAt level).refusal } }).2.outcome with
  | error failure => exact LogOutput.deliverTrail_of_unfiltered rfl clocks _
  | ok output => rfl

/-- Configured logging has a filter exactly if repeated messages count as suppressed, the log file
can be opened, and the limits can be read. It has the limits that the settings name. -/
theorem configure_filter (has : logging.process.HasSettings document)
    (meant : settings.MeantBy document.root) (clocks : Nat → LogOutput.Clock) :
    (∀ filter, (logging.configure clocks).1.output.filter = some filter →
        LogOutput.HasLimits filter settings.suppression) ∧
      ((logging.configure clocks).1.output.filter.isSome = true ↔
        Settings.truthAt document.root (LogOutput.suppressionAt "enabled") = true ∧
          (∃ file, (LogOutput.openLogFile logging.context logging.process).2.outcome = .ok file) ∧
          LogOutput.LimitsReadable document.root) := by
  obtain ⟨level, shape⟩ := configure_output has meant clocks
  have hasBare : { logging with output := .bareAt level }.current.HasSettings document :=
    ⟨has.found⟩
  obtain ⟨limits, exists_iff⟩ := LogOutput.ofSettings_filter hasBare meant logging.context level
  rw [LogOutput.openLogFile_outcome_congr hasBare has rfl] at exists_iff
  rw [shape, ← exists_iff]
  cases made : (LogOutput.ofSettings level logging.context
      { logging with output := .bareAt level }.current).2.outcome with
  | error failure => exact ⟨nofun, iff_of_false nofun fun ⟨_, impossible, _⟩ => nomatch impossible⟩
  | ok output =>
    refine ⟨fun filter => limits output filter made, fun some_ => ⟨output, rfl, some_⟩, ?_⟩
    rintro ⟨other, same, some_⟩
    obtain rfl := Except.ok.inj same
    exact some_

end LoggingProcess

namespace SharedState

theorem follow_users (index : Nat) (state : SharedState) :
    (state.follow index).users = state.users := by
  unfold follow
  split <;> rfl

/-- The holder of the current user is made as strict as the setting, read layer by layer, is true. It
is shared before anything is logged of it. -/
theorem bootstrap_outcome {state : SharedState} {index : Nat} {store : Store}
    (global : state.globalStore = some index) (here : state.stores[index]? = some store)
    (context : LogContext) {setup : UserSetup} (unset : setup.strict = none) :
    let made := CurrentUser.create state.machine setup.source setup.host setup.environment
      (store.get state.machine.environment Settings.strictModeKey).truthy
    (∀ users, made = .ok users → (state.bootstrap context setup).1.users = some users) ∧
      (state.bootstrap context setup).2.outcome = made.bind fun users =>
        (state.machine.log (ready context users)).outcome.map fun _ => users := by
  intro made
  have available : state.availableConfig context = (state, .done (some index)) := by
    simp [availableConfig, globalConfig, initConfig, global, Traced.done]
  have strict : state.strictModeOf (some index) =
      (store.get state.machine.environment Settings.strictModeKey).truthy := by
    simp [strictModeOf, storeAt?, here]
  unfold bootstrap
  rw [available, Step.done_andThen, unset, Option.getD_none, strict]
  dsimp only [made]
  cases CurrentUser.create state.machine setup.source setup.host setup.environment
      (store.get state.machine.environment Settings.strictModeKey).truthy with
  | error failure =>
    refine ⟨fun users same => ?_, rfl⟩
    cases same
  | ok users =>
    refine ⟨fun other same => ?_, rfl⟩
    obtain rfl := Except.ok.inj same
    exact follow_users index _

end SharedState

namespace Settings

def truths (settings : Settings) : List (String × Bool) :=
  [("debug.devModeEnabled", settings.devMode),
   ("debug.suppressRecurringMessages.enabled", settings.suppression.enabled),
   (strictModeKey, settings.strictMode)]

theorem means_of_mem_truths {root : Value} {settings : Settings} (meant : settings.MeantBy root)
    {entry : String × Bool} (member : entry ∈ settings.truths) {key : Key}
    (parsed : Key.parse entry.1 = .ok key) : Means root key.segments checkTruth false entry.2 := by
  have devMode : Key.parse "debug.devModeEnabled" = .ok ⟨"debug", ["devModeEnabled"]⟩ := rfl
  have enabled : Key.parse "debug.suppressRecurringMessages.enabled" =
      .ok ⟨"debug", ["suppressRecurringMessages", "enabled"]⟩ := rfl
  simp only [truths, List.mem_cons, List.not_mem_nil, or_false] at member
  rcases member with rfl | rfl | rfl
  · obtain rfl := Except.ok.inj (devMode.symm.trans parsed)
    exact meant.devMode
  · obtain rfl := Except.ok.inj (enabled.symm.trans parsed)
    exact meant.suppression.enabled
  · obtain rfl := Except.ok.inj (parse_strictModeKey.symm.trans parsed)
    exact meant.strictMode

/-- What the check of the effective document says that settings mean, and what they mean when they
are used. The holder of the current user is made, and shared, with the strict mode that was checked, and
the settings that are truth values are what was checked, unless they are off by a word; what comes
of a holder that is made is decided by what can be logged of it alone. Configured logging has a
filter for repeated messages exactly if these are suppressed, or not suppressed by a word, and the
log file can be opened and the limits be read; then it has the limits that the settings name. -/
theorem settings_in_use {machine : Machine} {context : LogContext} {source : EnvironmentSource}
    {file : Option String} {built : Store}
    (accepted : (buildStore machine context source file).outcome = .ok built) {start : Stores}
    {index : Nat} (origin : start[index]? = some built) {state : SharedState}
    (reached : Stores.Reached start state.stores) (global : state.globalStore = some index)
    {store : Store} (here : state.stores[index]? = some store) {document : Document}
    (merged : store.merged state.machine.environment = .ok document) {settings : Settings}
    (checked : check document = .ok settings) :
    (∀ setup, setup.strict = none →
        ∃ strict,
          let made := CurrentUser.create state.machine setup.source setup.host setup.environment
            strict
          (∀ users, made = .ok users → (state.bootstrap context setup).1.users = some users) ∧
            (state.bootstrap context setup).2.outcome = (made.bind fun users =>
              (state.machine.log (SharedState.ready context users)).outcome.map fun _ => users) ∧
            (strict = settings.strictMode ↔
              ¬ OffByWord document.root strictModeAt.segments settings.strictMode)) ∧
      (∀ entry ∈ settings.truths, ∀ key, Key.parse entry.1 = .ok key →
        ∃ on, (state.configTruth context (.text entry.1) (.bool false)).2.outcome = .ok (.bool on) ∧
          (on = entry.2 ↔ ¬ OffByWord document.root key.segments entry.2)) ∧
      ∀ output clocks,
        let configured := (LoggingProcess.mk state output context).configure clocks
        (∀ filter, configured.1.output.filter = some filter →
          LogOutput.HasLimits filter settings.suppression) ∧
        (configured.1.output.filter.isSome = true ↔
          (settings.suppression.enabled = true ∨
            OffByWord document.root (LogOutput.suppressionAt "enabled")
              settings.suppression.enabled) ∧
          (∃ path, (LogOutput.openLogFile context state).2.outcome = .ok path) ∧
          LogOutput.LimitsReadable document.root) := by
  obtain ⟨content, layeredBuilt, -⟩ := buildStore_eq_ok accepted
  obtain ⟨entries, layered⟩ := reached.isLayered origin here layeredBuilt
  have meant := meantBy_of_check checked
  have has : state.HasSettings document := by
    refine ⟨index, global, ?_⟩
    simp [SharedState.documentAt, SharedState.storeAt?, here, merged]
  refine ⟨?_, ?_, ?_⟩
  · intro setup unset
    have means : Means document.root strictModeAt.segments checkTruth false settings.strictMode :=
      meant.strictMode
    obtain ⟨shares, outcome⟩ := SharedState.bootstrap_outcome global here context unset
    refine ⟨_, shares, outcome, ?_⟩
    rw [truthy_get_strictMode layered merged meant.user means]
    exact truthAt_eq_iff means
  · intro entry member key parsed
    have means := means_of_mem_truths meant member parsed
    refine ⟨truthAt document.root key.segments, ?_, truthAt_eq_iff means⟩
    rw [SharedState.configTruth_eq has context parsed means]
    rfl
  · intro output clocks configured
    obtain ⟨limits, exists_iff⟩ :=
      @LoggingProcess.configure_filter ⟨state, output, context⟩ _ _ has meant clocks
    refine ⟨limits, exists_iff.trans (and_congr_left' ?_)⟩
    exact truthAt_eq_true_iff meant.suppression.enabled

def offByWordState : SharedState :=
  ((SharedState.start (variableMachine "n")).initConfig none none (some "settings")).1

/-- Strict mode that is off by a word counts as on. -/
theorem settings_in_use_off_by_word :
    ∃ document settings, emptyFileStore.merged (variableMachine "n").environment = .ok document ∧
      check document = .ok settings ∧ settings.strictMode = false ∧
      (offByWordState.configTruth none (.text strictModeKey) (.bool false)).2.outcome =
        .ok (.bool true) := by
  have built := emptyFileStore_built "n" (by decide +kernel)
  have state : offByWordState = { SharedState.start (variableMachine "n") with
      stores := [emptyFileStore], globalStore := some 0, registeredStore := some 0 } := by
    simp [offByWordState, SharedState.initConfig, SharedState.start, SharedState.addStore, built]
  have facts : ((emptyFileStore.merged (variableMachine "n").environment).toOption.bind
      fun document => (check document).toOption.map fun settings =>
        (settings.strictMode, (document.root.at? strictModeAt.segments).map Value.isSpelled)) =
      some (false, some true) := by decide +kernel
  obtain ⟨document, merged, facts⟩ := Option.bind_eq_some_iff.mp facts
  obtain ⟨settings, checked, facts⟩ := Option.map_eq_some_iff.mp facts
  obtain ⟨isOff, spelled⟩ := Prod.mk.inj facts
  have offByWord : OffByWord document.root strictModeAt.segments settings.strictMode :=
    offByWord_iff.mpr ⟨isOff, by rw [spelled]; rfl⟩
  have origin : [emptyFileStore][0]? = some emptyFileStore := rfl
  have reached : Stores.Reached [emptyFileStore] offByWordState.stores := state ▸ .start
  have global : offByWordState.globalStore = some 0 := by rw [state]
  have here : offByWordState.stores[0]? = some emptyFileStore := by
    rw [state]
    rfl
  have mergedNow : emptyFileStore.merged offByWordState.machine.environment = .ok document := by
    rw [state]
    exact eq_ok_of_toOption merged
  have inUse :=
    settings_in_use built origin reached global here mergedNow (eq_ok_of_toOption checked)
  obtain ⟨on, outcome, same⟩ := inUse.2.1 (strictModeKey, settings.strictMode)
    (by simp [truths]) strictModeAt parse_strictModeKey
  dsimp only at outcome
  have isOn : on = true := by
    cases on with
    | true => rfl
    | false => exact absurd offByWord (same.mp isOff.symm)
  rw [isOn] at outcome
  exact ⟨document, settings, eq_ok_of_toOption merged, eq_ok_of_toOption checked, isOff, outcome⟩

end Settings

end StorageLayout
