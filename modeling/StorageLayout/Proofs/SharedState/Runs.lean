import Mathlib.Data.List.Induction
import StorageLayout.Proofs.Config.Reading
import StorageLayout.Proofs.Config.Reporting
import StorageLayout.Proofs.Settings.Layers
import StorageLayout.SharedState

namespace StorageLayout.SharedState

/-- Writes a setting in the global store, which is built if need be. -/
def setSetting (context : LogContext) (key : String) (value : Value) (actor : String)
    (state : SharedState) : Step Unit :=
  Step.andThen (state.globalConfig context) fun state place =>
    state.writeAt context place key value actor

/-- What happens to a process. -/
inductive Act where
  | readSettings (context : LogContext) (source : EnvironmentSource) (path : Option String)
  | setSetting (context : LogContext) (key : String) (value : Value) (actor : String)
  | resetConfig
  | bootstrap (context : LogContext) (setup : UserSetup)
  | requireUser (context : LogContext) (strict : Bool)
  | changeMachine (machine : Machine)

/-- The state after something happens, whether it goes well or fails. -/
def perform (state : SharedState) : Act → SharedState
  | .readSettings context source path => (state.initConfig context source path).1
  | .setSetting context key value actor => (state.setSetting context key value actor).1
  | .resetConfig => state.resetConfig
  | .bootstrap context setup => (state.bootstrap context setup).1
  | .requireUser context strict => (state.requireUser context strict).1
  | .changeMachine machine => { state with machine := machine }

def run (machine : Machine) (acts : List Act) : SharedState := acts.foldl perform (start machine)

theorem run_append (machine : Machine) (acts : List Act) (act : Act) :
    run machine (acts ++ [act]) = (run machine acts).perform act := by
  rw [run, List.foldl_append]
  rfl

/-- The listeners that the store at a place should have. -/
def followersAt (following : Option (Nat × ListenerId)) (place : Nat) : List Listener :=
  match following with
  | some (home, .strictMode serial) => if home = place then [follower home serial] else []
  | _ => []

def IsOfSettings (store : Store) : Prop :=
  ∃ source content entries, Settings.IsLayered source content entries store

theorem IsOfSettings.with_listeners {store : Store} (settings : IsOfSettings store)
    (listeners : List Listener) : IsOfSettings { store with listeners := listeners } := by
  obtain ⟨source, content, entries, mapping, copyable, layers⟩ := settings
  exact ⟨source, content, entries, mapping, copyable, layers⟩

/-- What holds in all runs: every store is one of settings, and its listeners are the follower of
strict mode if it is the one that is followed. -/
structure Wired (state : SharedState) : Prop where
  layered : ∀ (place : Nat) (store : Store), state.stores[place]? = some store →
    IsOfSettings store
  heard : ∀ (place : Nat) (store : Store), state.stores[place]? = some store →
    store.listeners = followersAt state.following place
  global : ∀ place, state.globalStore = some place → place < state.stores.length
  followed : ∀ place id, state.following = some (place, id) →
    place < state.stores.length ∧ ∃ serial, id = .strictMode serial

theorem wired_start (machine : Machine) : (start machine).Wired where
  layered _ _ here := by cases here
  heard _ _ here := by cases here
  global _ here := by cases here
  followed _ _ here := by cases here

theorem onlyReports_follower (place serial : Nat) : (follower place serial).OnlyReports := by
  intro change reaction member
  simp only [follower] at member
  split at member
  · exact ⟨_, List.mem_singleton.mp member⟩
  · cases member

theorem onlyReports_followersAt {following : Option (Nat × ListenerId)} {place : Nat} :
    ∀ listener ∈ followersAt following place, listener.OnlyReports := by
  intro listener member
  unfold followersAt at member
  split at member
  · split at member
    · rw [List.mem_singleton.mp member]
      exact onlyReports_follower _ _
    · cases member
  · cases member

section

variable {state : SharedState}

/-- Reading settings gives the global store, or fails and changes nothing, or builds a store that
nobody listens to and then logs this. -/
theorem initConfig_cases (context : LogContext) (source : EnvironmentSource) (path : Option String)
    (state : SharedState) :
    (∃ place, state.globalStore = some place ∧
        state.initConfig context source path = (state, .done place)) ∨
      (∃ failure trail, state.globalStore = none ∧
        state.initConfig context source path = (state, ⟨.error failure, trail⟩)) ∨
      ∃ store trail, state.globalStore = none ∧
        (Settings.buildStore state.machine context source path).outcome = .ok store ∧
        state.initConfig context source path =
          ({ state with
              stores := state.stores ++ [store]
              globalStore := some state.stores.length
              registeredStore := some state.stores.length },
            .after trail
              ((state.machine.log (configured context store)).map fun _ => state.stores.length)) := by
  unfold initConfig
  cases global : state.globalStore with
  | some place => exact .inl ⟨place, rfl, rfl⟩
  | none =>
    right
    dsimp only
    split
    · next failure failed => exact .inl ⟨failure, _, rfl, rfl⟩
    · next store built => exact .inr ⟨store, _, rfl, built, rfl⟩

theorem wired_initConfig (wired : state.Wired) (context : LogContext) (source : EnvironmentSource)
    (path : Option String) : (state.initConfig context source path).1.Wired := by
  rcases initConfig_cases context source path state with
    ⟨place, -, same⟩ | ⟨failure, trail, -, same⟩ | ⟨store, trail, -, built, fresh⟩
  · rw [same]
    exact wired
  · rw [same]
    exact wired
  · obtain ⟨found, content, mapping, rfl, -⟩ := Settings.buildStore_eq_storeOver built
    obtain ⟨content, layered, -⟩ := Settings.buildStore_eq_ok built
    rw [fresh]
    refine ⟨?_, ?_, ?_, ?_⟩
    · intro place other here
      rcases Nat.lt_or_ge place state.stores.length with inside | outside
      · rw [List.getElem?_append_left inside] at here
        exact wired.layered place other here
      · rw [List.getElem?_append_right outside] at here
        rw [List.mem_singleton.mp (List.mem_of_getElem? here)]
        exact ⟨_, _, _, layered⟩
    · intro place other here
      rcases Nat.lt_or_ge place state.stores.length with inside | outside
      · rw [List.getElem?_append_left inside] at here
        exact wired.heard place other here
      · rw [List.getElem?_append_right outside] at here
        rw [List.mem_singleton.mp (List.mem_of_getElem? here)]
        unfold followersAt
        split
        · next home serial followed =>
          have inside := (wired.followed _ _ followed).1
          rw [if_neg (by omega)]
          rfl
        · rfl
    · intro place global
      obtain rfl := Option.some.inj global
      simp
    · intro place id followed
      obtain ⟨inside, strict⟩ := wired.followed place id followed
      exact ⟨by simp; omega, strict⟩

theorem applyTrail_eq (state : SharedState) (trail : List Emission) :
    ∃ users, applyTrail state trail = { state with users := users } := by
  induction trail generalizing state with
  | nil => exact ⟨state.users, rfl⟩
  | cons emission rest ih =>
    cases emission with
    | strictMode on =>
      obtain ⟨users, same⟩ := ih { state with
        users := state.users.map fun users => users.requireUser on }
      exact ⟨users, same⟩
    | _ => exact ih state

/-- A write changes the stores and the holder of the current user. -/
theorem writeAt_eq (state : SharedState) (context : LogContext) (place : Nat)
    (key : String) (value : Value) (actor : String) :
    ∃ users, (state.writeAt context place key value actor).1 =
      { state with
        stores := (Stores.write (state.occasion context) state.stores place key value actor).1
        users := users } :=
  applyTrail_eq _ _

/-- A store may be replaced by another one of settings that the same listeners follow. -/
theorem Wired.with_store (wired : state.Wired) {place : Nat} {store after : Store}
    (here : state.stores[place]? = some store) (layered : IsOfSettings after)
    (listeners : after.listeners = store.listeners) (users : Option CurrentUser) :
    Wired { state with stores := state.stores.set place after, users := users } := by
  have inside := (List.getElem?_eq_some_iff.mp here).1
  have found (home : Nat) (other : Store)
      (there : (state.stores.set place after)[home]? = some other) :
      IsOfSettings other ∧ other.listeners = followersAt state.following home := by
    by_cases same : place = home
    · subst same
      rw [List.getElem?_set_self inside] at there
      obtain rfl := Option.some.inj there
      exact ⟨layered, listeners.trans (wired.heard place store here)⟩
    · rw [List.getElem?_set_ne same] at there
      exact ⟨wired.layered home other there, wired.heard home other there⟩
  refine ⟨fun home other there => (found home other there).1,
    fun home other there => (found home other there).2, ?_, ?_⟩
  · intro home global
    rw [List.length_set]
    exact wired.global home global
  · intro home id followed
    rw [List.length_set]
    exact wired.followed home id followed

theorem wired_writeAt (wired : state.Wired) (context : LogContext) (place : Nat) (key : String)
    (value : Value) (actor : String) : (state.writeAt context place key value actor).1.Wired := by
  obtain ⟨users, same⟩ := writeAt_eq state context place key value actor
  rw [same]
  cases here : state.stores[place]? with
  | none =>
    have nothing : (Stores.write (state.occasion context) state.stores place key value actor).1 =
        state.stores := by
      rw [Stores.write, Stores.writeNested]
      simp only [here]
    rw [nothing]
    exact ⟨wired.layered, wired.heard, wired.global, wired.followed⟩
  | some store =>
    obtain ⟨source, content, entries, layered⟩ := wired.layered place store here
    obtain ⟨path, layers⟩ := layered.layers
    have top := store.overrideLayer?_append layers
    have listeners := wired.heard place store here
    rw [Stores.write_reports here top (listeners ▸ onlyReports_followersAt)]
    have layeredAfter := layered.rewritten
      (Store.rewritten_writeLayer (state.occasion context).environment
        (Store.overrideLayer?_eq_some top).1 key value)
    exact wired.with_store here ⟨source, content, layeredAfter⟩ (Store.listeners_writeLayer ..)
      users

variable (state) in
/-- Following a store to whose state no store has a listener, a process follows no other. -/
private theorem wired_subscribed {stores : Stores}
    (quiet : ∀ (home : Nat) (store : Store), stores[home]? = some store →
      IsOfSettings store ∧ store.listeners = [])
    (global : ∀ home, state.globalStore = some home → home < stores.length) {place : Nat}
    (inside : place < stores.length) (serial next : Nat) :
    Wired { state with
      stores := stores.modify place fun store => store.subscribe (follower place serial)
      following := some (place, .strictMode serial)
      serial := next } := by
  have found (home : Nat) (store : Store)
      (here : (stores.modify place fun store => store.subscribe (follower place serial))[home]? =
        some store) :
      IsOfSettings store ∧
        store.listeners = followersAt (some (place, .strictMode serial)) home := by
    rw [List.getElem?_modify] at here
    obtain ⟨before, there, rfl⟩ := Option.map_eq_some_iff.mp here
    obtain ⟨layered, none⟩ := quiet home before there
    by_cases same : place = home
    · subst same
      have subscribed := layered.with_listeners (before.listeners ++ [follower place serial])
      exact ⟨by simpa [Store.subscribe] using subscribed,
        by simp [Store.subscribe, followersAt, none]⟩
    · exact ⟨by simpa [same] using layered, by simp [followersAt, same, none]⟩
  refine ⟨fun home store here => (found home store here).1,
    fun home store here => (found home store here).2, ?_, ?_⟩
  · intro home isGlobal
    simpa using global home isGlobal
  · intro home id followed
    obtain ⟨rfl, rfl⟩ := Prod.mk.inj (Option.some.inj followed)
    exact ⟨by simpa using inside, serial, rfl⟩

theorem wired_follow (wired : state.Wired) {place : Nat} (inside : place < state.stores.length) :
    (state.follow place).Wired := by
  unfold follow
  cases followed : state.following with
  | none =>
    apply wired_subscribed state _ wired.global inside
    intro home store here
    refine ⟨wired.layered home store here, ?_⟩
    rw [wired.heard home store here, followed]
    rfl
  | some entry =>
    obtain ⟨old, id⟩ := entry
    obtain ⟨-, serial, rfl⟩ := wired.followed old id followed
    apply wired_subscribed
      (state.modifyStore old fun store => store.unsubscribe (.strictMode serial))
    · intro home store here
      simp only [modifyStore, List.getElem?_modify] at here
      obtain ⟨before, there, rfl⟩ := Option.map_eq_some_iff.mp here
      have layered := wired.layered home before there
      have heard := wired.heard home before there
      rw [followed] at heard
      by_cases same : old = home
      · subst same
        have unsubscribed := layered.with_listeners
          (before.listeners.eraseP fun listener => listener.id = .strictMode serial)
        exact ⟨by simpa [Store.unsubscribe] using unsubscribed,
          by simp [Store.unsubscribe, heard, followersAt, follower]⟩
      · exact ⟨by simpa [same] using layered, by simp [heard, followersAt, same]⟩
    · intro home isGlobal
      simpa [modifyStore] using wired.global home isGlobal
    · simpa [modifyStore] using inside

theorem globalConfig_keeps (context : LogContext) (state : SharedState) :
    (state.globalConfig context).1.machine = state.machine ∧
      (state.globalConfig context).1.users = state.users := by
  unfold globalConfig
  rcases initConfig_cases context none none state with
    ⟨place, -, same⟩ | ⟨failure, trail, -, same⟩ | ⟨store, trail, -, -, fresh⟩
  · rw [same]
    exact ⟨rfl, rfl⟩
  · rw [same]
    exact ⟨rfl, rfl⟩
  · rw [fresh]
    exact ⟨rfl, rfl⟩

theorem globalConfig_ok {context : LogContext} {place : Nat}
    (opened : (state.globalConfig context).2.outcome = .ok place) :
    (state.globalConfig context).1.globalStore = some place := by
  unfold globalConfig at opened ⊢
  rcases initConfig_cases context none none state with
    ⟨home, global, same⟩ | ⟨failure, trail, -, same⟩ | ⟨store, trail, -, -, fresh⟩
  · rw [same] at opened ⊢
    rw [global, Except.ok.inj opened]
  · rw [same] at opened
    cases opened
  · rw [fresh] at opened ⊢
    obtain ⟨-, -, rfl⟩ := Traced.map_eq_ok opened
    rfl

theorem availableConfig_fst (context : LogContext) (state : SharedState) :
    (state.availableConfig context).1 = (state.globalConfig context).1 := by
  unfold availableConfig
  dsimp only
  split
  · rfl
  · split <;> rfl

/-- The settings are there if they can be read. -/
theorem availableConfig_cases {context : LogContext} {index : Option Nat}
    (available : (state.availableConfig context).2.outcome = .ok index) :
    (∃ failure, (state.globalConfig context).2.outcome = .error failure ∧ index = none) ∨
      ∃ place, (state.globalConfig context).2.outcome = .ok place ∧ index = some place := by
  unfold availableConfig at available
  dsimp only at available
  split at available
  · next place opened => exact .inr ⟨place, opened, (Except.ok.inj available).symm⟩
  · next failure failed =>
    split at available
    · obtain ⟨-, -, rfl⟩ := Traced.map_eq_ok available
      exact .inl ⟨failure, failed, rfl⟩
    · cases available

variable (state) in
/-- The holder of the current user that is made and shared, if nothing fails before. -/
def made? (context : LogContext) (setup : UserSetup) : Option CurrentUser :=
  match (state.availableConfig context).2.outcome with
  | .error _ => none
  | .ok index =>
    let after := (state.globalConfig context).1
    (CurrentUser.create after.machine setup.source setup.host setup.environment
      (setup.strict.getD (after.strictModeOf index))).toOption

/-- Making the holder of the current user fails, or a holder is shared, without settings or following
those that could be read; then it is logged that it is ready. In any case global settings are read
first. -/
theorem bootstrap_cases (context : LogContext) (setup : UserSetup) (state : SharedState) :
    (∃ failure, (state.bootstrap context setup).2.outcome = .error failure ∧
        (state.bootstrap context setup).1 = (state.globalConfig context).1 ∧
        state.made? context setup = none) ∨
      ∃ users, state.made? context setup = some users ∧
        (state.bootstrap context setup).2.outcome =
          ((state.globalConfig context).1.machine.log (ready context users)).outcome.map
            (fun _ => users) ∧
        ((∃ failure, (state.globalConfig context).2.outcome = .error failure ∧
            (state.bootstrap context setup).1 =
              { (state.globalConfig context).1 with users := some users }) ∨
          ∃ place, (state.globalConfig context).2.outcome = .ok place ∧
            (state.bootstrap context setup).1 =
              follow place { (state.globalConfig context).1 with users := some users }) := by
  unfold bootstrap made?
  cases available : (state.availableConfig context).2.outcome with
  | error failure =>
    rw [Step.andThen_of_error available, availableConfig_fst]
    exact .inl ⟨_, rfl, rfl, rfl⟩
  | ok index =>
    rw [Step.andThen_of_ok available, availableConfig_fst]
    dsimp only
    split
    · next failure failed =>
      rw [failed]
      exact .inl ⟨_, rfl, rfl, rfl⟩
    · next users made =>
      rw [made]
      refine .inr ⟨users, rfl, rfl, ?_⟩
      rcases availableConfig_cases available with ⟨failure, failed, rfl⟩ | ⟨place, opened, rfl⟩
      · exact .inl ⟨failure, failed, rfl⟩
      · exact .inr ⟨place, opened, rfl⟩

theorem Wired.with_users (wired : state.Wired) (users : Option CurrentUser) :
    Wired { state with users := users } :=
  ⟨wired.layered, wired.heard, wired.global, wired.followed⟩

theorem wired_bootstrap (wired : state.Wired) (context : LogContext) (setup : UserSetup) :
    (state.bootstrap context setup).1.Wired := by
  have opened : (state.globalConfig context).1.Wired := wired_initConfig wired context none none
  rcases bootstrap_cases context setup state with
    ⟨failure, -, same, -⟩ | ⟨users, -, -, ⟨failure, -, same⟩ | ⟨place, found, same⟩⟩
  · rw [same]
    exact opened
  · rw [same]
    exact opened.with_users _
  · rw [same]
    exact wired_follow (opened.with_users _) (opened.global place (globalConfig_ok found))

theorem wired_perform (wired : state.Wired) (act : Act) : (state.perform act).Wired := by
  cases act with
  | readSettings context source path => exact wired_initConfig wired context source path
  | setSetting context key value actor =>
    have opened : (state.globalConfig context).1.Wired := wired_initConfig wired context none none
    show (state.setSetting context key value actor).1.Wired
    unfold setSetting
    cases outcome : (state.globalConfig context).2.outcome with
    | ok place =>
      rw [Step.andThen_of_ok outcome]
      exact wired_writeAt opened context place key value actor
    | error failure =>
      rw [Step.andThen_of_error outcome]
      exact opened
  | resetConfig =>
    refine ⟨wired.layered, wired.heard, ?_, wired.followed⟩
    intro place global
    cases global
  | bootstrap context setup => exact wired_bootstrap wired context setup
  | requireUser context strict =>
    have held : (state.ensureUsers context).1.Wired := by
      unfold ensureUsers
      split
      · exact wired
      · exact wired_bootstrap wired context .standard
    show (state.requireUser context strict).1.Wired
    unfold requireUser
    cases outcome : (state.ensureUsers context).2.outcome with
    | ok users =>
      rw [Step.andThen_of_ok outcome]
      exact held.with_users _
    | error failure =>
      rw [Step.andThen_of_error outcome]
      exact held
  | changeMachine machine => exact ⟨wired.layered, wired.heard, wired.global, wired.followed⟩

end

theorem wired_run (machine : Machine) (acts : List Act) : (run machine acts).Wired := by
  induction acts using List.reverseRecOn with
  | nil => exact wired_start machine
  | append_singleton earlier act ih =>
    rw [run_append]
    exact wired_perform ih act

end StorageLayout.SharedState
