import StorageLayout.Proofs.Config.Announcement
import StorageLayout.Proofs.Config.Effect
import StorageLayout.Proofs.Settings.Reading
import StorageLayout.Proofs.SharedState.Runs

/-! How the current user follows the strict mode setting. A holder of the current user follows the
settings that were read when it was made; settings that are read again after they were forgotten are
not followed before another holder is made. Main statement: a write that changes the setting makes
the holder as strict as it says if the global store is still the one that is followed, and leaves
the holder as it is if not. -/

namespace StorageLayout.SharedState

def Follows (state : SharedState) : Prop :=
  ∃ place id, state.following = some (place, id) ∧ state.globalStore = some place

/-- What makes a holder of the current user, if something does; setting strict mode does if there is
none. -/
def Act.setup? (state : SharedState) : Act → Option (LogContext × UserSetup)
  | .bootstrap context setup => some (context, setup)
  | .requireUser context _ => if state.users.isNone then some (context, .standard) else none
  | _ => none

/-- Whether something makes and shares a holder of the current user while settings can be read. -/
def Act.Connects (state : SharedState) (act : Act) : Prop :=
  ∃ context setup place users, act.setup? state = some (context, setup) ∧
    (state.globalConfig context).2.outcome = .ok place ∧ state.made? context setup = some users

/-- Whether a holder of the current user was shared while settings could be read, and these were not
forgotten since. -/
def Connected (machine : Machine) (acts : List Act) : Prop :=
  ∃ before act since, acts = before ++ act :: since ∧ act.Connects (run machine before) ∧
    Act.resetConfig ∉ since

section

variable {state : SharedState}

theorem not_follows_of_reset (state : SharedState) : ¬ state.resetConfig.Follows := by
  rintro ⟨place, id, -, global⟩
  cases global

theorem follows_initConfig (wired : state.Wired) (context : LogContext) (source : EnvironmentSource)
    (path : Option String) : (state.initConfig context source path).1.Follows ↔ state.Follows := by
  rcases initConfig_cases context source path state with
    ⟨place, -, same⟩ | ⟨failure, trail, -, same⟩ | ⟨store, trail, none, -, fresh⟩
  · rw [same]
  · rw [same]
  · rw [fresh]
    constructor
    · rintro ⟨place, id, followed, global⟩
      obtain ⟨inside, -⟩ := wired.followed place id followed
      obtain rfl := Option.some.inj global
      exact absurd inside (Nat.lt_irrefl _)
    · rintro ⟨place, id, -, global⟩
      rw [none] at global
      cases global

theorem follows_writeAt (context : LogContext) (place : Nat) (key : String) (value : Value)
    (actor : String) :
    (state.writeAt context place key value actor).1.Follows ↔ state.Follows := by
  obtain ⟨users, same⟩ := writeAt_eq state context place key value actor
  rw [same]
  rfl

theorem follows_follow (place : Nat) (global : state.globalStore = some place) :
    (state.follow place).Follows := by
  refine ⟨place, .strictMode state.serial, rfl, ?_⟩
  unfold follow
  split <;> exact global

/-- A holder that is shared while settings can be read follows them; otherwise what is followed
stays. -/
theorem follows_bootstrap (wired : state.Wired) (context : LogContext) (setup : UserSetup) :
    (state.bootstrap context setup).1.Follows ↔
      (∃ place users, (state.globalConfig context).2.outcome = .ok place ∧
        state.made? context setup = some users) ∨ state.Follows := by
  have opened : (state.globalConfig context).1.Follows ↔ state.Follows :=
    follows_initConfig wired context none none
  rcases bootstrap_cases context setup state with
    ⟨failure, -, same, nobody⟩ |
      ⟨users, made, -, ⟨failure, failed, same⟩ | ⟨place, found, same⟩⟩
  · rw [same, opened, nobody]
    simp
  · rw [same, failed]
    show (state.globalConfig context).1.Follows ↔ _
    rw [opened]
    simp
  · rw [same]
    exact iff_of_true (follows_follow place (globalConfig_ok found))
      (.inl ⟨place, users, found, made⟩)

/-- The global store is followed after something happens if this connects them, or else if it was
followed before and is not forgotten. -/
theorem follows_perform (wired : state.Wired) (act : Act) :
    (state.perform act).Follows ↔
      act.Connects state ∨ act ≠ .resetConfig ∧ state.Follows := by
  cases act with
  | readSettings context source path =>
    simpa [Act.Connects, Act.setup?, perform] using
      follows_initConfig wired context source path
  | setSetting context key value actor =>
    have opened : (state.globalConfig context).1.Follows ↔ state.Follows :=
      follows_initConfig wired context none none
    have kept : (state.setSetting context key value actor).1.Follows ↔ state.Follows := by
      unfold setSetting
      cases outcome : (state.globalConfig context).2.outcome with
      | ok place =>
        rw [Step.andThen_of_ok outcome]
        exact (follows_writeAt context place key value actor).trans opened
      | error failure =>
        rw [Step.andThen_of_error outcome]
        exact opened
    simpa [Act.Connects, Act.setup?, perform] using kept
  | resetConfig =>
    simpa [Act.Connects, Act.setup?, perform] using not_follows_of_reset state
  | bootstrap context setup =>
    have made := follows_bootstrap wired context setup
    simpa [Act.Connects, Act.setup?, perform] using made
  | requireUser context strict =>
    have kept : (state.requireUser context strict).1.Follows ↔
        (state.ensureUsers context).1.Follows := by
      unfold requireUser
      cases outcome : (state.ensureUsers context).2.outcome with
      | ok users =>
        rw [Step.andThen_of_ok outcome]
        rfl
      | error failure => rw [Step.andThen_of_error outcome]
    have made := follows_bootstrap wired context .standard
    show (state.requireUser context strict).1.Follows ↔ _
    rw [kept]
    unfold ensureUsers
    cases shared : state.users with
    | some users => simp [Act.Connects, Act.setup?, shared]
    | none => simpa [Act.Connects, Act.setup?, shared] using made
  | changeMachine machine =>
    simp [Act.Connects, Act.setup?, perform, Follows]

end

theorem connected_append {machine : Machine} {acts : List Act} {act : Act} :
    Connected machine (acts ++ [act]) ↔
      act.Connects (run machine acts) ∨ act ≠ .resetConfig ∧ Connected machine acts := by
  constructor
  · rintro ⟨before, first, since, split, connects, kept⟩
    rcases List.eq_nil_or_concat since with rfl | ⟨earlier, last, rfl⟩
    · obtain ⟨rfl, rfl⟩ := List.append_singleton_inj.mp split
      exact .inl connects
    · rw [List.concat_eq_append, ← List.cons_append, ← List.append_assoc] at split
      obtain ⟨rfl, rfl⟩ := List.append_singleton_inj.mp split
      rw [List.concat_eq_append, List.mem_append, List.mem_singleton, not_or] at kept
      exact .inr ⟨Ne.symm kept.2, before, first, earlier, rfl, connects, kept.1⟩
  · rintro (connects | ⟨other, before, first, since, rfl, connects, kept⟩)
    · exact ⟨acts, act, [], rfl, connects, List.not_mem_nil⟩
    · refine ⟨before, first, since ++ [act], by simp, connects, ?_⟩
      rw [List.mem_append, List.mem_singleton, not_or]
      exact ⟨kept, Ne.symm other⟩

/-- The global store is followed exactly if it has been since a holder of the current user was
made. -/
theorem follows_run_iff (machine : Machine) (acts : List Act) :
    (run machine acts).Follows ↔ Connected machine acts := by
  induction acts using List.reverseRecOn with
  | nil =>
    refine iff_of_false ?_ ?_
    · rintro ⟨place, id, followed, -⟩
      cases followed
    · rintro ⟨before, act, since, split, -⟩
      exact absurd split.symm (by simp)
  | append_singleton earlier act ih =>
    rw [run_append, follows_perform (wired_run machine earlier), connected_append, ih]

section

variable {occasion : Occasion} {stores : Stores} {place : Nat} {store : Store} {lower : List Layer}
  {entries written : Table Value} {on : Bool} {actor : String}

theorem get_strictMode_written (layers : store.layers = lower ++ [.overrides entries])
    (wrote : Layer.writeOverride entries Settings.strictModeKey (.bool on) = .ok written)
    (process : Environment) :
    (store.withLayer lower.length (.overrides written)).get process Settings.strictModeKey =
      .bool on := by
  have held : (Value.object written).get? Settings.strictModeAt = some (.bool on) :=
    Layer.get?_writeOverride Settings.parse_strictModeKey rfl wrote
  exact (Store.shows_of_held (Store.layers_withLayer_append layers _) Settings.parse_strictModeKey
    held rfl process).1

/-- A write of strict mode that counts as no change has found it as it is. -/
theorem agrees_of_unchanged (layers : store.layers = lower ++ [.overrides entries])
    (wrote : Layer.writeOverride entries Settings.strictModeKey (.bool on) = .ok written)
    {process : Environment}
    (unchanged : Store.readChanged lower.length true
      (Store.find? process Settings.strictModeKey 0 store.layers)
      (Store.find? process Settings.strictModeKey 0
        (store.withLayer lower.length (.overrides written)).layers) = false) :
    (store.get process Settings.strictModeKey).agrees (.bool on) = true := by
  have after := get_strictMode_written layers wrote process
  have top : (Layer.overrides written).get process Settings.strictModeKey = .bool on := by
    show (Value.object written).read Settings.strictModeKey = _
    rw [Value.read_eq _ Settings.parse_strictModeKey,
      Layer.get?_writeOverride Settings.parse_strictModeKey rfl wrote, Option.getD_some]
  rw [Store.get_eq_valueIn, Store.layers_withLayer_append layers] at after
  rw [Store.layers_withLayer_append layers, layers] at unchanged
  rw [Store.get_eq_valueIn, layers, ← after]
  rcases Store.readChanged_eq_false (fun impossible => by cases impossible) unchanged with
    ⟨-, null⟩ | agrees
  · rw [top] at null
    cases null
  · exact agrees

/-- A write of strict mode that changes it sends out nothing else where nobody listens, and is
reported where the one listener is the follower of strict mode. -/
theorem trail_write_strictMode (here : stores[place]? = some store)
    (layers : store.layers = lower ++ [.overrides entries])
    (ok : (Stores.write occasion stores place Settings.strictModeKey (.bool on) actor).2.outcome =
      .ok ())
    (changed : (store.get occasion.environment Settings.strictModeKey).agrees (.bool on) = false) :
    (store.listeners = [] →
      (Stores.write occasion stores place Settings.strictModeKey (.bool on) actor).2.trail =
        [.written place Settings.strictModeKey (.bool on)]) ∧
      ∀ serial, store.listeners = [follower place serial] → ∃ change,
        (Stores.write occasion stores place Settings.strictModeKey (.bool on) actor).2.trail =
          [.written place Settings.strictModeKey (.bool on),
            .notified (.strictMode serial) change, .strictMode on] := by
  obtain ⟨written, wrote, ⟨depth, notice, last, told, key, notified, put⟩ | ⟨unchanged, put⟩⟩ :=
    Stores.write_cases here (store.overrideLayer?_append layers) ok
  · rw [put]
    constructor
    · intro silent
      rw [silent, Stores.notify] at notified
      obtain ⟨-, rfl⟩ := Prod.mk.inj notified
      rfl
    · intro serial heard
      have inside : place < stores.length := (List.getElem?_eq_some_iff.mp here).1
      have reads : Stores.read occasion.environment
          (stores.set place (store.withLayer lower.length (.overrides written))) place
          Settings.strictModeKey = .bool on := by
        rw [Stores.read, List.getElem?_set_self inside]
        exact get_strictMode_written layers wrote occasion.environment
      have concerned : (follower place serial).react notice.change =
          [.report Settings.strictModeKey] := by
        simp [follower, key, concernsStrictMode]
      have home : (follower place serial).home = place := rfl
      rw [heard, Stores.notify, concerned] at notified
      simp only [Stores.perform, home, reads] at notified
      obtain ⟨-, rfl⟩ := Prod.mk.inj notified
      exact ⟨notice.change, rfl⟩
  · rw [agrees_of_unchanged layers wrote unchanged] at changed
    cases changed

end

/-- What the global store reads a key as; null if there is no global store. -/
def globalRead (state : SharedState) (key : String) : Value :=
  (state.globalStore.map fun place =>
    Stores.read state.machine.environment state.stores place key).getD .null

section

variable {state : SharedState} {context : LogContext} {on : Bool} {actor : String}

/-- In a wired state the global store has overrides on top. -/
theorem Wired.exists_global (wired : state.Wired) {place : Nat}
    (global : state.globalStore = some place) :
    ∃ store lower entries, state.stores[place]? = some store ∧
      store.layers = lower ++ [.overrides entries] := by
  have here := List.getElem?_eq_getElem (wired.global place global)
  obtain ⟨source, content, entries, layered⟩ := wired.layered place _ here
  obtain ⟨path, layers⟩ := layered.layers
  exact ⟨_, _, entries, here, layers⟩

/-- Strict mode that was written reads as it was written. -/
theorem globalRead_writeAt (wired : state.Wired) {place : Nat}
    (global : state.globalStore = some place)
    (ok : (state.writeAt context place Settings.strictModeKey (.bool on) actor).2.outcome =
      .ok ()) :
    (state.writeAt context place Settings.strictModeKey (.bool on) actor).1.globalRead
      Settings.strictModeKey = .bool on := by
  obtain ⟨store, lower, entries, here, layers⟩ := wired.exists_global global
  have reports : ∀ listener ∈ store.listeners, listener.OnlyReports :=
    wired.heard place store here ▸ onlyReports_followersAt
  obtain ⟨written, wrote, stores⟩ :=
    Stores.write_reports_ok here (store.overrideLayer?_append layers) reports ok
  obtain ⟨users, later⟩ :=
    writeAt_eq state context place Settings.strictModeKey (.bool on) actor
  rw [later, stores]
  simp only [globalRead, global, Option.map_some, Option.getD_some, Stores.read,
    List.getElem?_set_self (wired.global place global)]
  exact get_strictMode_written layers wrote state.machine.environment

/-- A write in the global store that changes strict mode is passed on to the holder of the current
user if the store is followed, and to nobody otherwise. -/
theorem users_writeAt (wired : state.Wired) {place : Nat} (global : state.globalStore = some place)
    (ok : (state.writeAt context place Settings.strictModeKey (.bool on) actor).2.outcome =
      .ok ())
    (changed : (state.globalRead Settings.strictModeKey).agrees (.bool on) = false) :
    (state.Follows →
      (state.writeAt context place Settings.strictModeKey (.bool on) actor).1.users =
        state.users.map fun holder => holder.requireUser on) ∧
      (¬ state.Follows →
        (state.writeAt context place Settings.strictModeKey (.bool on) actor).1.users =
          state.users) := by
  obtain ⟨store, lower, entries, here, layers⟩ := wired.exists_global global
  have listeners := wired.heard place store here
  have reads : state.globalRead Settings.strictModeKey =
      store.get state.machine.environment Settings.strictModeKey := by
    simp [globalRead, global, Stores.read, here]
  rw [reads] at changed
  obtain ⟨silent, reported⟩ := trail_write_strictMode here layers ok changed
  unfold writeAt
  dsimp only
  constructor
  · rintro ⟨home, id, followed, isGlobal⟩
    obtain rfl := Option.some.inj (global.symm.trans isGlobal)
    obtain ⟨-, serial, rfl⟩ := wired.followed place id followed
    rw [followed, followersAt, if_pos rfl] at listeners
    obtain ⟨change, trail⟩ := reported serial listeners
    rw [trail]
    rfl
  · intro apart
    have none : store.listeners = [] := by
      rw [listeners]
      unfold followersAt
      split
      · next home serial followed =>
        rw [if_neg]
        rintro rfl
        exact apart ⟨home, _, followed, global⟩
      · rfl
    rw [silent none]
    rfl

/-- So it is with a write through the global store, which is built if need be. -/
theorem users_setSetting (wired : state.Wired)
    (ok : (state.setSetting context Settings.strictModeKey (.bool on) actor).2.outcome =
      .ok ())
    (changed : ((state.globalConfig context).1.globalRead Settings.strictModeKey).agrees
      ((state.setSetting context Settings.strictModeKey (.bool on) actor).1.globalRead
        Settings.strictModeKey) = false) :
    (state.Follows →
      (state.setSetting context Settings.strictModeKey (.bool on) actor).1.users =
        state.users.map fun holder => holder.requireUser on) ∧
      (¬ state.Follows →
        (state.setSetting context Settings.strictModeKey (.bool on) actor).1.users =
          state.users) := by
  obtain ⟨place, opened, okAt⟩ := Step.andThen_eq_ok ok
  have wiredOpened : (state.globalConfig context).1.Wired :=
    wired_initConfig wired context none none
  have follows : (state.globalConfig context).1.Follows ↔ state.Follows :=
    follows_initConfig wired context none none
  have global := globalConfig_ok opened
  rw [setSetting, Step.andThen_of_ok opened] at changed ⊢
  dsimp only at changed
  rw [globalRead_writeAt wiredOpened global okAt] at changed
  rw [← follows, ← (globalConfig_keeps context state).2]
  exact users_writeAt wiredOpened global okAt changed

end

/-- A write through the global store that changes the strict mode setting, after anything that may
happen to a process. The holder of the current user becomes as strict as the setting if a holder was
shared while settings could be read, and these were not forgotten since; if not, the holder stays as
it is. -/
theorem strictMode_follows_until_reset (machine : Machine) (acts : List Act) {context : LogContext}
    {on : Bool} {actor : String}
    (ok : ((run machine acts).setSetting context Settings.strictModeKey (.bool on)
      actor).2.outcome = .ok ())
    (changed : (((run machine acts).globalConfig context).1.globalRead
        Settings.strictModeKey).agrees
      (((run machine acts).setSetting context Settings.strictModeKey (.bool on)
        actor).1.globalRead Settings.strictModeKey) = false) :
    (Connected machine acts →
      ((run machine acts).setSetting context Settings.strictModeKey (.bool on)
          actor).1.users =
        (run machine acts).users.map fun holder => holder.requireUser on) ∧
      (¬ Connected machine acts →
        ((run machine acts).setSetting context Settings.strictModeKey (.bool on)
            actor).1.users =
          (run machine acts).users) := by
  rw [← follows_run_iff]
  exact users_setSetting (wired_run machine acts) ok changed

/-- A process that has just read its settings. -/
def freshState : SharedState :=
  { start (Settings.variableMachine "false") with
    stores := [Settings.emptyFileStore]
    globalStore := some 0
    registeredStore := some 0 }

def freshOn (refusal : LogRecord → Option Failure) : SharedState :=
  { freshState with machine := { Settings.variableMachine "false" with refusal := refusal } }

/-- Settings are read and a holder of the current user is made. -/
def followingActs : List Act :=
  [.readSettings none none (some "settings"), .bootstrap none .standard]

def reloadingActs : List Act := [.resetConfig, .readSettings none none (some "settings")]

theorem initConfig_emptyFileStore {state : SharedState}
    (machine : state.machine = Settings.variableMachine "false")
    (global : state.globalStore = none) :
    (state.initConfig none none (some "settings")).1 =
      { state with
        stores := state.stores ++ [Settings.emptyFileStore]
        globalStore := some state.stores.length
        registeredStore := some state.stores.length } := by
  have built := Settings.emptyFileStore_built "false" (by decide +kernel)
  rw [← machine] at built
  simp only [initConfig, global, built]
  rfl

theorem globalConfig_freshOn (refusal : LogRecord → Option Failure) :
    (freshOn refusal).globalConfig none = (freshOn refusal, .done 0) := rfl

/-- The owner of the process is made its current user, and then this is logged. -/
theorem bootstrap_freshOn (refusal : LogRecord → Option Failure) :
    ∃ owner, owner.strict = false ∧ (freshOn refusal).made? none .standard = some owner ∧
      (freshOn refusal).bootstrap none .standard =
        (follow 0 { freshOn refusal with users := some owner },
          ((freshOn refusal).machine.log (ready none owner)).map fun _ => owner) := by
  have strict : (freshOn refusal).strictModeOf (some 0) = false := by
    show freshState.strictModeOf (some 0) = false
    decide +kernel
  obtain ⟨owner, made, relaxed⟩ : ∃ owner, CurrentUser.create (freshOn refusal).machine
      .processOwner none none false = .ok owner ∧ owner.strict = false := ⟨_, rfl, rfl⟩
  have available : (freshOn refusal).availableConfig none = (freshOn refusal, .done (some 0)) := rfl
  refine ⟨owner, relaxed, ?_, ?_⟩
  · simp [made?, available, globalConfig_freshOn, Traced.done, UserSetup.standard, strict, made,
      Except.toOption]
  · simp [bootstrap, available, Step.andThen, Traced.done, Traced.after, UserSetup.standard, strict,
      made]

/-- What comes of these acts: the store that is followed, and later another one beside it. -/
theorem run_followingActs :
    ∃ owner : CurrentUser, owner.strict = false ∧
      run (Settings.variableMachine "false") followingActs =
        follow 0 { freshState with users := some owner } ∧
      run (Settings.variableMachine "false") (followingActs ++ reloadingActs) =
        { follow 0 { freshState with users := some owner } with
          stores := [Settings.emptyFileStore.subscribe (follower 0 0), Settings.emptyFileStore]
          globalStore := some 1
          registeredStore := some 1 } := by
  obtain ⟨owner, relaxed, -, made⟩ := bootstrap_freshOn fun _ => none
  have fresh : run (Settings.variableMachine "false")
      [.readSettings none none (some "settings")] = freshState :=
    initConfig_emptyFileStore rfl rfl
  have following : run (Settings.variableMachine "false") followingActs =
      follow 0 { freshState with users := some owner } := by
    have split : followingActs =
      [.readSettings none none (some "settings")] ++ [.bootstrap none .standard] := rfl
    rw [split, run_append, fresh]
    show ((freshOn fun _ => none).bootstrap none .standard).1 = _
    rw [made]
    rfl
  refine ⟨owner, relaxed, following, ?_⟩
  rw [run, List.foldl_append, ← run, following]
  exact initConfig_emptyFileStore rfl rfl

/-- What surrounds a write where strict mode is off. -/
def relaxedOccasion : Occasion :=
  ⟨(Settings.variableMachine "false").environment, none, [], fun _ => none, 0⟩

/-- Strict mode is switched on in a global store that reads it as off. -/
theorem switchesOn {state : SharedState} (wired : state.Wired) {place : Nat}
    (global : state.globalStore = some place)
    (machine : state.machine = Settings.variableMachine "false") (clients : state.clients = [])
    {stores : Stores} (same : state.stores = stores)
    (ok : (Stores.write relaxedOccasion stores place Settings.strictModeKey (.bool true)
      Store.systemActor).2.outcome.toOption = some ())
    (off : (Stores.read (Settings.variableMachine "false").environment stores place
      Settings.strictModeKey).agrees (.bool true) = false) :
    (state.setSetting none Settings.strictModeKey (.bool true)
        Store.systemActor).2.outcome = .ok () ∧
      ((state.globalConfig none).1.globalRead Settings.strictModeKey).agrees
        ((state.setSetting none Settings.strictModeKey (.bool true)
          Store.systemActor).1.globalRead Settings.strictModeKey) = false := by
  rw [← same] at ok off
  rw [← machine] at off
  have surrounded : state.occasion none = relaxedOccasion := by
    rw [occasion, clients, machine]
    rfl
  have opened : state.globalConfig none = (state, .done place) := by
    simp only [globalConfig, initConfig, global]
  have okAt : (state.writeAt none place Settings.strictModeKey (.bool true)
      Store.systemActor).2.outcome = .ok () := by
    unfold writeAt
    rw [surrounded]
    exact eq_ok_of_toOption ok
  rw [setSetting, opened, Step.andThen_of_ok (Traced.outcome_done _)]
  refine ⟨okAt, ?_⟩
  rw [globalRead_writeAt wired global okAt, globalRead, global]
  exact off

/-- The holder follows a write, but not after the settings were read again: then it stays as it is
although the setting is on. -/
theorem strictMode_follows_once :
    ∃ owner : CurrentUser, owner.strict = false ∧
      (((run (Settings.variableMachine "false") followingActs).setSetting none
        Settings.strictModeKey (.bool true) Store.systemActor).1.users =
          some (owner.requireUser true)) ∧
      ((run (Settings.variableMachine "false") (followingActs ++ reloadingActs)).setSetting none
        Settings.strictModeKey (.bool true) Store.systemActor).1.users =
          some owner := by
  obtain ⟨owner, relaxed, following, reloaded⟩ := run_followingActs
  refine ⟨owner, relaxed, ?_, ?_⟩
  · have connected : Connected (Settings.variableMachine "false") followingActs := by
      rw [← follows_run_iff, following]
      exact ⟨0, .strictMode 0, rfl, rfl⟩
    have global : (run (Settings.variableMachine "false") followingActs).globalStore = some 0 := by
      rw [following]
      rfl
    have okAt : (Stores.write relaxedOccasion [Settings.emptyFileStore.subscribe (follower 0 0)] 0
        Settings.strictModeKey (.bool true) Store.systemActor).2.outcome.toOption = some () := by decide +kernel
    have off : (Stores.read (Settings.variableMachine "false").environment
        [Settings.emptyFileStore.subscribe (follower 0 0)] 0 Settings.strictModeKey).agrees
        (.bool true) = false := by decide +kernel
    obtain ⟨ok, changed⟩ := switchesOn (wired_run _ _) global (by rw [following]; rfl)
      (by rw [following]; rfl) (by rw [following]; rfl) okAt off
    rw [(strictMode_follows_until_reset _ _ ok changed).1 connected, following]
    rfl
  · have apart : ¬ Connected (Settings.variableMachine "false")
        (followingActs ++ reloadingActs) := by
      rw [← follows_run_iff, reloaded]
      rintro ⟨place, id, followed, global⟩
      obtain ⟨rfl, -⟩ := Prod.mk.inj (Option.some.inj followed)
      cases global
    have global : (run (Settings.variableMachine "false")
        (followingActs ++ reloadingActs)).globalStore = some 1 := by
      rw [reloaded]
    have okAt : (Stores.write relaxedOccasion
        [Settings.emptyFileStore.subscribe (follower 0 0), Settings.emptyFileStore] 1
        Settings.strictModeKey (.bool true) Store.systemActor).2.outcome.toOption = some () := by
      decide +kernel
    have off : (Stores.read (Settings.variableMachine "false").environment
        [Settings.emptyFileStore.subscribe (follower 0 0), Settings.emptyFileStore] 1
        Settings.strictModeKey).agrees (.bool true) = false := by decide +kernel
    obtain ⟨ok, changed⟩ := switchesOn (wired_run _ _) global (by rw [reloaded]; rfl)
      (by rw [reloaded]; rfl) (by rw [reloaded]) okAt off
    rw [(strictMode_follows_until_reset _ _ ok changed).2 apart, reloaded]
    rfl

end StorageLayout.SharedState
