import StorageLayout.Log.Output
import StorageLayout.Proofs.SharedState.Following

/-! The one listener that follows strict mode, while stores are forgotten and built again and
holders of the current user are made, shared and withdrawn in any order. It is never left behind: a
process that follows another store has first released the old one. It reports to whoever is shared
when it hears of a write, not to the holder that it was subscribed for. A holder that is shared
follows its store even if that it is ready cannot be logged. -/

namespace StorageLayout

open SharedState

/-- A process together with every holder of the current user that was ever made. `shared` is the
place of the one that is shared; the others still exist. -/
structure Household where
  state : SharedState
  holders : List CurrentUser
  shared : Option Nat

namespace Household

/-- What happens to a process and to holders of its current user. `make` makes a holder that is not
shared, `share` shares one that was made before, or none. -/
inductive Deed where
  | readSettings (context : LogContext) (source : EnvironmentSource) (path : Option String)
  | resetConfig
  | bootstrap (context : LogContext) (setup : UserSetup)
  | make (holder : CurrentUser)
  | share (index : Option Nat)
  | write (context : LogContext) (place : Nat) (key : String) (value : Value) (actor : String)
  | changeMachine (machine : Machine)

def start (machine : Machine) : Household := ⟨.start machine, [], none⟩

/-- The holder at a place, if there is a place. -/
def holderAt? (holders : List CurrentUser) (index : Option Nat) : Option CurrentUser :=
  index.bind fun index => holders[index]?

def withStrict (household : Household) (on : Bool) : List CurrentUser :=
  match household.shared with
  | none => household.holders
  | some index => household.holders.modify index fun holder => holder.requireUser on

/-- All holders after the shared one was told what was sent out. -/
def tell (household : Household) : List Emission → Household
  | [] => household
  | .strictMode on :: rest => tell { household with holders := household.withStrict on } rest
  | _ :: rest => tell household rest

/-- A household after something happens, whether it goes well or fails. -/
def perform (household : Household) : Deed → Household
  | .readSettings context source path =>
    { household with state := (household.state.initConfig context source path).1 }
  | .resetConfig => { household with state := household.state.resetConfig }
  | .bootstrap context setup =>
    let made := household.state.bootstrap context setup
    match household.state.made? context setup with
    | some users => ⟨made.1, household.holders ++ [users], some household.holders.length⟩
    | none => { household with state := made.1 }
  | .make holder => { household with holders := household.holders ++ [holder] }
  | .share index =>
    let known := index.filter fun index => index < household.holders.length
    { household with
      state := household.state.shareUsers (holderAt? household.holders known)
      shared := known }
  | .write context place key value actor =>
    let written := household.state.writeAt context place key value actor
    { household.tell written.2.trail with state := written.1 }
  | .changeMachine machine =>
    { household with state := { household.state with machine := machine } }

def run (household : Household) (deeds : List Deed) : Household := deeds.foldl perform household

/-- The store that something makes a process follow: the global one, if its settings can be read and
a holder is shared. A holder whose record cannot be logged is shared all the same. -/
def Deed.connects? (state : SharedState) : Deed → Option Nat
  | .bootstrap context setup =>
    match state.made? context setup with
    | some _ => (state.globalConfig context).2.outcome.toOption
    | none => none
  | _ => none

/-- The global store of something that makes a holder without any failure, if its settings can be
read. -/
def Deed.succeeds? (state : SharedState) : Deed → Option Nat
  | .bootstrap context setup =>
    match (state.bootstrap context setup).2.outcome with
    | .ok _ => (state.globalConfig context).2.outcome.toOption
    | .error _ => none
  | _ => none

/-- The last store that is picked out of what happens, or else the one given. -/
def lastOf (pick : SharedState → Deed → Option Nat) (household : Household)
    (before : Option Nat) : List Deed → Option Nat
  | [] => before
  | deed :: rest =>
    lastOf pick (household.perform deed) ((pick household.state deed).or before) rest

/-- The store that was global when a holder was last shared while settings could be read. -/
def lastConnected (household : Household) : List Deed → Option Nat :=
  household.lastOf Deed.connects? none

/-- The store that was global when a holder was last made without any failure while settings could
be read. -/
def lastSuccessful (household : Household) : List Deed → Option Nat :=
  household.lastOf Deed.succeeds? none

def followed (household : Household) : Option Nat := household.state.following.map Prod.fst

section

variable (household : Household)

theorem length_withStrict (on : Bool) :
    (household.withStrict on).length = household.holders.length := by
  unfold withStrict
  split
  · rfl
  · exact List.length_modify ..

theorem withStrict_other {index : Nat} (on : Bool) (other : household.shared ≠ some index) :
    (household.withStrict on)[index]? = household.holders[index]? := by
  unfold withStrict
  split
  · rfl
  · next shared held =>
    have apart : shared ≠ index := fun same => other (held.trans (congrArg some same))
    exact List.getElem?_modify_ne _ _ apart

theorem holderAt?_withStrict (on : Bool) :
    holderAt? (household.withStrict on) household.shared =
      (holderAt? household.holders household.shared).map fun holder => holder.requireUser on := by
  unfold withStrict holderAt?
  split
  · next none => rw [none]; rfl
  · next shared held =>
    rw [held, Option.bind_some, Option.bind_some, List.getElem?_modify_eq, Option.map_eq_map]

theorem shared_tell (trail : List Emission) : (household.tell trail).shared = household.shared := by
  induction trail generalizing household with
  | nil => rfl
  | cons emission rest ih => cases emission <;> exact ih _

theorem length_tell (trail : List Emission) :
    (household.tell trail).holders.length = household.holders.length := by
  induction trail generalizing household with
  | nil => rfl
  | cons emission rest ih =>
    cases emission with
    | strictMode on => exact (ih _).trans (household.length_withStrict on)
    | _ => exact ih _

theorem users_applyTrail {state : SharedState} (trail : List Emission)
    (same : state.users = holderAt? household.holders household.shared) :
    (state.applyTrail trail).users = holderAt? (household.tell trail).holders household.shared := by
  induction trail generalizing household state with
  | nil => exact same
  | cons emission rest ih =>
    cases emission with
    | strictMode on =>
      refine ih { household with holders := household.withStrict on } ?_
      rw [holderAt?_withStrict, ← same]
    | _ => exact ih household same

end

section

variable {household : Household}

/-- Reading settings touches neither what is followed nor who is shared. -/
theorem initConfig_keeps (context : LogContext) (source : EnvironmentSource)
    (path : Option String) (state : SharedState) :
    (state.initConfig context source path).1.following = state.following ∧
      (state.initConfig context source path).1.users = state.users := by
  rcases initConfig_cases context source path state with
    ⟨place, -, same⟩ | ⟨failure, trail, -, same⟩ | ⟨store, trail, -, -, fresh⟩
  · rw [same]
    exact ⟨rfl, rfl⟩
  · rw [same]
    exact ⟨rfl, rfl⟩
  · rw [fresh]
    exact ⟨rfl, rfl⟩

theorem following_bootstrap (context : LogContext) (setup : UserSetup) (state : SharedState) :
    (state.bootstrap context setup).1.following.map Prod.fst =
      ((Deed.bootstrap context setup).connects? state).or (state.following.map Prod.fst) := by
  have opened := (initConfig_keeps context none none state).1
  rw [Deed.connects?]
  rcases bootstrap_cases context setup state with
    ⟨failure, -, same, nobody⟩ |
      ⟨users, made, -, ⟨failure, failed, same⟩ | ⟨place, found, same⟩⟩
  · rw [same, globalConfig, opened, nobody]
    rfl
  · rw [same, made, failed]
    exact congrArg (Option.map Prod.fst) opened
  · rw [same, made, found]
    rfl

theorem users_bootstrap (context : LogContext) (setup : UserSetup) (state : SharedState) :
    (state.bootstrap context setup).1.users = (state.made? context setup).or state.users := by
  have opened := (initConfig_keeps context none none state).2
  rcases bootstrap_cases context setup state with
    ⟨failure, -, same, nobody⟩ | ⟨users, made, -, ⟨failure, -, same⟩ | ⟨place, -, same⟩⟩
  · rw [same, nobody]
    exact opened
  · rw [same, made]
    rfl
  · rw [same, made, follow]
    split <;> rfl

theorem followed_perform (deed : Deed) :
    (household.perform deed).followed =
      (deed.connects? household.state).or household.followed := by
  cases deed with
  | readSettings context source path =>
    exact congrArg (Option.map Prod.fst) (initConfig_keeps context source path household.state).1
  | resetConfig => rfl
  | bootstrap context setup =>
    have following := following_bootstrap context setup household.state
    rw [perform]
    split <;> exact following
  | make holder => rfl
  | share index => rfl
  | write context place key value actor =>
    obtain ⟨users, same⟩ := writeAt_eq household.state context place key value actor
    rw [followed, perform, same]
    rfl
  | changeMachine machine => rfl

theorem followed_run (deeds : List Deed) :
    (household.run deeds).followed =
      household.lastOf Deed.connects? household.followed deeds := by
  induction deeds generalizing household with
  | nil => rfl
  | cons deed rest ih =>
    rw [lastOf, ← followed_perform]
    exact ih

end

/-- What holds in all runs: the listeners in the stores are as they should be, and the holder that
reports go to is the one that is shared. -/
structure IsKept (household : Household) : Prop where
  wired : household.state.Wired
  users : household.state.users = holderAt? household.holders household.shared
  known : ∀ index, household.shared = some index → index < household.holders.length

theorem isKept_start (machine : Machine) : (start machine).IsKept where
  wired := wired_start machine
  users := rfl
  known _ shared := by cases shared

theorem IsKept.perform {household : Household} (kept : household.IsKept) (deed : Deed) :
    (household.perform deed).IsKept := by
  cases deed with
  | readSettings context source path =>
    refine ⟨wired_initConfig kept.wired context source path, ?_, kept.known⟩
    exact (initConfig_keeps context source path household.state).2.trans kept.users
  | resetConfig => exact ⟨wired_perform kept.wired .resetConfig, kept.users, kept.known⟩
  | bootstrap context setup =>
    have wired := wired_bootstrap kept.wired context setup
    have shared := users_bootstrap context setup household.state
    rw [Household.perform]
    cases made : household.state.made? context setup with
    | some users =>
      rw [made] at shared
      refine ⟨wired, ?_, fun index held => ?_⟩
      · simp [shared, holderAt?]
      · obtain rfl := Option.some.inj held
        simp
    | none =>
      rw [made] at shared
      exact ⟨wired, shared.trans kept.users, kept.known⟩
  | make holder =>
    have longer : household.holders.length < (household.holders ++ [holder]).length := by simp
    refine ⟨kept.wired, ?_, fun index held =>
      Nat.lt_trans (kept.known index held) longer⟩
    rw [Household.perform, kept.users, holderAt?, holderAt?]
    cases shared : household.shared with
    | none => rfl
    | some index => exact (List.getElem?_append_left (kept.known index shared)).symm
  | share index =>
    refine ⟨kept.wired.with_users _, rfl, fun place held => ?_⟩
    obtain ⟨-, known⟩ := Option.filter_eq_some_iff.mp held
    exact of_decide_eq_true known
  | write context place key value actor =>
    refine ⟨wired_writeAt kept.wired context place key value actor, ?_, ?_⟩
    · rw [Household.perform, Household.shared_tell]
      exact users_applyTrail household _ kept.users
    · intro index held
      rw [Household.perform, Household.shared_tell] at held
      rw [Household.perform, Household.length_tell]
      exact kept.known index held
  | changeMachine machine =>
    exact ⟨wired_perform kept.wired (.changeMachine machine), kept.users, kept.known⟩

theorem isKept_run (machine : Machine) (deeds : List Deed) :
    ((start machine).run deeds).IsKept := by
  induction deeds using List.reverseRecOn with
  | nil => exact isKept_start machine
  | append_singleton earlier deed ih =>
    rw [run, List.foldl_append]
    exact ih.perform deed

theorem notify_follower (occasion : Occasion) (write : Stores.Writer) (notice : Notice)
    (stores : Stores) (place serial : Nat) :
    Stores.notify occasion write notice stores [follower place serial] =
      (stores, ⟨.ok (), .notified (.strictMode serial) notice.change ::
        if concernsStrictMode notice.change.key then
          [.strictMode (Stores.read occasion.environment stores place
            Settings.strictModeKey).truthy]
        else []⟩) := by
  by_cases concerned : concernsStrictMode notice.change.key = true <;>
    simp [Stores.notify, Stores.perform, follower, concerned, Traced.after, Traced.done]

/-- What a write tells, in a store whose one listener may be the follower of strict mode. -/
theorem write_trail {stores : Stores} {place : Nat} {store : Store} {target : Nat}
    {entries : Table Value} (here : stores[place]? = some store)
    (top : store.overrideLayer? = some (target, .overrides entries))
    {following : Option (Nat × ListenerId)} (heard : store.listeners = followersAt following place)
    (occasion : Occasion) (key : String) (value : Value) (actor : String) :
    (∃ values : List Value,
        (Stores.write occasion stores place key value actor).2.trail =
          values.map (Emission.written place key)) ∨
      ∃ serial change, following = some (place, .strictMode serial) ∧
        (Stores.write occasion stores place key value actor).2.trail =
          [.written place key value, .notified (.strictMode serial) change] ++
            (if concernsStrictMode key then
              [.strictMode (Stores.read occasion.environment
                (Stores.write occasion stores place key value actor).1 place
                Settings.strictModeKey).truthy]
            else []) ∧
        change.key = key := by
  have result := Stores.result_write occasion here top key value actor
  generalize Stores.write occasion stores place key value actor = came at result ⊢
  cases result with
  | refused failed => exact .inl ⟨_, rfl⟩
  | unannounced wrote put unchanged => exact .inl ⟨[value], rfl⟩
  | announced wrote put change changed =>
    unfold followersAt at heard
    split at heard
    · next home serial =>
      split at heard
      · next same =>
        subst same
        rw [heard, notify_follower, change]
        exact .inr ⟨serial, _, rfl, rfl, rfl⟩
      · rw [heard]
        exact .inl ⟨[value], rfl⟩
    · rw [heard]
      exact .inl ⟨[value], rfl⟩

/-- Of stores that nobody listens to but one, which has one listener, there is one listener. -/
theorem length_listeners_le_one {stores : List Store} (only : Option Nat) (first : Nat)
    (heard : ∀ index store, stores[index]? = some store →
      store.listeners.length = if only = some (first + index) then 1 else 0) :
    (stores.flatMap Store.listeners).length ≤ 1 := by
  induction stores generalizing first with
  | nil => exact Nat.zero_le 1
  | cons store rest ih =>
    have here := heard 0 store rfl
    have later : ∀ index other, rest[index]? = some other →
        other.listeners.length = if only = some (first + 1 + index) then 1 else 0 := by
      intro index other found
      rw [Nat.add_assoc, Nat.add_comm 1]
      exact heard (index + 1) other found
    rw [List.flatMap_cons, List.length_append, here]
    split
    · next same =>
      have silent : rest.flatMap Store.listeners = [] := by
        rw [List.flatMap_eq_nil_iff]
        intro other member
        obtain ⟨index, found⟩ := List.getElem?_of_mem member
        have none := later index other found
        have apart : some (first + 0) ≠ some (first + 1 + index) := by
          rw [Ne, Option.some.injEq]
          omega
        rw [same, if_neg apart] at none
        exact List.length_eq_zero_iff.mp none
      rw [silent]
      exact Nat.le_refl 1
    · rw [Nat.zero_add]
      exact ih (first + 1) later

/-- What a write does to holders. If nobody hears of it they stay as they are. If the follower of
strict mode does, the store is the one that is followed; then the holder that is shared becomes as
strict as the setting reads there, if the write concerns strict mode, and all others stay. -/
inductive Reports (household : Household) (last : Option Nat) (place : Nat) (key : String) :
    List Emission → Household → Prop where
  | unheard {trail : List Emission} {after : Household}
      (silent : ∀ id change, .notified id change ∉ trail)
      (same : after.holders = household.holders) : Reports household last place key trail after
  | heard {trail : List Emission} {after : Household} {serial : Nat} {change : Change}
      (followed : last = some place) (told : .notified (.strictMode serial) change ∈ trail)
      (ofKey : change.key = key)
      (shared : after.holders =
        if concernsStrictMode key then
          household.withStrict (Stores.read household.state.machine.environment after.state.stores
            place Settings.strictModeKey).truthy
        else household.holders) : Reports household last place key trail after

/-- Whether strict mode is followed in one store, or nowhere, and reported to nobody but the holder
that is shared. -/
structure Follows (household : Household) (last : Option Nat) : Prop where
  once : (household.state.stores.flatMap Store.listeners).length ≤ 1
  exists_ : ∀ place, last = some place → ∃ store serial,
    household.state.stores[place]? = some store ∧ store.listeners = [follower place serial]
  elsewhere : ∀ place store, household.state.stores[place]? = some store → last ≠ some place →
    store.listeners = []
  others : ∀ on index, household.shared ≠ some index →
    (household.withStrict on)[index]? = household.holders[index]?
  reports : ∀ context place key value actor,
    household.Reports last place key
      (household.state.writeAt context place key value actor).2.trail
      (household.perform (.write context place key value actor))

theorem IsKept.listeners {household : Household} (kept : household.IsKept) {place : Nat}
    {store : Store} (here : household.state.stores[place]? = some store) :
    (household.followed = some place → ∃ serial, store.listeners = [follower place serial]) ∧
      (household.followed ≠ some place → store.listeners = []) := by
  rw [kept.wired.heard place store here, followed]
  cases following : household.state.following with
  | none => exact ⟨nofun, fun _ => rfl⟩
  | some entry =>
    obtain ⟨home, id⟩ := entry
    obtain ⟨-, serial, rfl⟩ := kept.wired.followed home id following
    rw [Option.map_some, Option.some.injEq]
    by_cases same : home = place
    · subst same
      exact ⟨fun _ => ⟨serial, if_pos rfl⟩, fun other => absurd rfl other⟩
    · exact ⟨fun there => absurd there same, fun _ => if_neg same⟩

theorem tell_written (household : Household) (place : Nat) (key : String) (values : List Value) :
    household.tell (values.map (Emission.written place key)) = household := by
  induction values with
  | nil => rfl
  | cons value rest ih => exact ih

/-- A write to any store tells the shared holder what it should. -/
theorem IsKept.reports {household : Household} (kept : household.IsKept) (context : LogContext)
    (place : Nat) (key : String) (value : Value) (actor : String) :
    household.Reports household.followed place key
      (household.state.writeAt context place key value actor).2.trail
      (household.perform (.write context place key value actor)) := by
  let occasion := household.state.occasion context
  have told : (household.state.writeAt context place key value actor).2.trail =
      (Stores.write occasion household.state.stores place key value actor).2.trail := rfl
  rw [told, Household.perform, told]
  cases here : household.state.stores[place]? with
  | none =>
    have trail : (Stores.write occasion household.state.stores place key value actor).2.trail =
        [] := by
      rw [Stores.write, Stores.writeNested]
      simp only [here]
      rfl
    rw [trail]
    exact .unheard (fun _ _ => List.not_mem_nil) rfl
  | some store =>
    obtain ⟨source, content, entries, layered⟩ := kept.wired.layered place store here
    obtain ⟨path, layers⟩ := layered.layers
    have top := store.overrideLayer?_append layers
    rcases write_trail here top (kept.wired.heard place store here) occasion key value actor with
      ⟨values, trail⟩ | ⟨serial, change, following, trail, ofKey⟩
    · rw [trail, tell_written]
      exact .unheard (by simp) rfl
    · obtain ⟨users, after⟩ := writeAt_eq household.state context place key value actor
      rw [trail, after]
      have isFollowed : household.followed = some place := by
        rw [followed, following]
        rfl
      refine .heard isFollowed
        (List.mem_append_left _ (List.mem_cons_of_mem _ List.mem_cons_self)) ofKey ?_
      by_cases concerned : concernsStrictMode key = true
      · rw [if_pos concerned, if_pos concerned]
        rfl
      · rw [if_neg concerned, if_neg concerned]
        rfl

theorem IsKept.follows {household : Household} (kept : household.IsKept) :
    household.Follows household.followed where
  once := by
    apply length_listeners_le_one household.followed 0
    intro index store here
    rw [Nat.zero_add]
    split
    · next there =>
      obtain ⟨serial, heard⟩ := (kept.listeners here).1 there
      rw [heard, List.length_singleton]
    · next other => rw [(kept.listeners here).2 other, List.length_nil]
  exists_ place followed := by
    obtain ⟨⟨home, id⟩, following, rfl⟩ := Option.map_eq_some_iff.mp followed
    have here := List.getElem?_eq_getElem (kept.wired.followed home id following).1
    obtain ⟨serial, heard⟩ := (kept.listeners here).1 followed
    exact ⟨_, serial, here, heard⟩
  elsewhere place store here other := (kept.listeners here).2 other
  others on index := household.withStrict_other on
  reports := kept.reports

theorem succeeds?_eq {state : SharedState} (logs : state.machine.LogsAll) (deed : Deed) :
    deed.succeeds? state = deed.connects? state := by
  cases deed with
  | bootstrap context setup =>
    rw [Deed.succeeds?, Deed.connects?]
    rcases bootstrap_cases context setup state with
      ⟨failure, failed, -, nobody⟩ | ⟨users, made, outcome, -⟩
    · rw [failed, nobody]
    · rw [outcome, made, Machine.log_of_none]
      · rfl
      · rw [(globalConfig_keeps context state).1]
        exact logs _
  | _ => rfl

theorem machine_perform (household : Household) (deed : Deed) :
    (household.perform deed).state.machine =
      match deed with
      | .changeMachine machine => machine
      | _ => household.state.machine := by
  have opened (context : LogContext) (source : EnvironmentSource) (path : Option String) :
      (household.state.initConfig context source path).1.machine = household.state.machine := by
    rcases initConfig_cases context source path household.state with
      ⟨place, -, same⟩ | ⟨failure, trail, -, same⟩ | ⟨store, trail, -, -, fresh⟩
    · rw [same]
    · rw [same]
    · rw [fresh]
  cases deed with
  | readSettings context source path => exact opened context source path
  | bootstrap context setup =>
    have kept : (household.state.bootstrap context setup).1.machine = household.state.machine := by
      rcases bootstrap_cases context setup household.state with
        ⟨failure, -, same, -⟩ | ⟨users, -, -, ⟨failure, -, same⟩ | ⟨place, -, same⟩⟩
      · rw [same]
        exact opened context none none
      · rw [same]
        exact opened context none none
      · rw [same, follow]
        split <;> exact opened context none none
    rw [Household.perform]
    split <;> exact kept
  | write context place key value actor =>
    obtain ⟨users, same⟩ := writeAt_eq household.state context place key value actor
    rw [Household.perform, same]
  | _ => rfl

theorem lastOf_eq {household : Household} (logs : household.state.machine.LogsAll)
    {deeds : List Deed} (later : ∀ machine, .changeMachine machine ∈ deeds → machine.LogsAll)
    (before : Option Nat) :
    household.lastOf Deed.succeeds? before deeds = household.lastOf Deed.connects? before deeds := by
  induction deeds generalizing household before with
  | nil => rfl
  | cons deed rest ih =>
    rw [lastOf, lastOf, succeeds?_eq logs]
    apply ih
    · rw [machine_perform]
      split
      · next machine => exact later machine List.mem_cons_self
      · exact logs
    · intro machine member
      exact later machine (List.mem_cons_of_mem _ member)

/-- Who follows strict mode, after all that may happen to a process and to holders of its current
user. In all stores together there is one listener at most. It is in the store that was global when
a holder was last shared while settings could be read, and there it is if that ever happened. What
it hears of it passes on to the holder that is shared then, and to no other. This store is the one
that was global when a holder was last made without any failure, if anything can be logged; but
what a holder is shared for and cannot log, it has followed already. -/
theorem follower_is_never_left_behind (machine : Machine) (deeds : List Deed) :
    ((start machine).run deeds).Follows ((start machine).lastConnected deeds) ∧
      (machine.LogsAll → (∀ other, .changeMachine other ∈ deeds → other.LogsAll) →
        (start machine).lastConnected deeds = (start machine).lastSuccessful deeds) := by
  constructor
  · have follows := (isKept_run machine deeds).follows
    rwa [followed_run] at follows
  · intro logs later
    have same := @lastOf_eq (start machine) logs deeds later none
    exact same.symm

/-- Settings are read before the log breaks, and a holder is made after that. -/
def brokenDeeds (refusal : LogRecord → Option Failure) : List Deed :=
  [.readSettings none none (some "settings"),
    .changeMachine { Settings.variableMachine "false" with refusal := refusal },
    .bootstrap none .standard]

/-- With a log that takes no records for debugging the holder is followed, but nobody hears of it. -/
theorem last_brokenDeeds {refusal : LogRecord → Option Failure} {failure : Failure}
    (refused : ∀ record, record.level = .debug → record.isSummary = false →
      refusal record = some failure) :
    (start (Settings.variableMachine "false")).lastConnected (brokenDeeds refusal) = some 0 ∧
      (start (Settings.variableMachine "false")).lastSuccessful (brokenDeeds refusal) = none := by
  obtain ⟨owner, -, made, bootstrapped⟩ := bootstrap_freshOn refusal
  have failed : ((freshOn refusal).bootstrap none .standard).2.outcome = .error failure := by
    rw [bootstrapped, Machine.log_of_some (refused (ready none owner) rfl rfl)]
    rfl
  have read : (SharedState.initConfig none none (some "settings")
      (SharedState.start (Settings.variableMachine "false"))).1 = freshState :=
    initConfig_emptyFileStore rfl rfl
  have before : (((start (Settings.variableMachine "false")).perform
      (.readSettings none none (some "settings"))).perform (.changeMachine
        { Settings.variableMachine "false" with refusal := refusal })).state =
      freshOn refusal := by
    simp only [Household.perform, start, read]
    rfl
  constructor
  · simp only [lastConnected, brokenDeeds, lastOf, before]
    simp [Deed.connects?, made, globalConfig_freshOn, Traced.done, Except.toOption]
  · simp only [lastSuccessful, brokenDeeds, lastOf, before]
    simp [Deed.succeeds?, failed]

/-- A window of time that is too long to be worked out. -/
def endlessWindow : Nat := Nat.pow 10 400

def chokedOutput : LogOutput :=
  ⟨false, Level.debug, [⟨.console, Level.debug⟩],
    some (RepeatFilter.ofLimits ⟨endlessWindow, 5, 1024, Level.info⟩)⟩

/-- No holder was ever made without a failure, and still one is followed. -/
theorem follower_of_choked_bootstrap :
    (start (Settings.variableMachine "false")).lastSuccessful (brokenDeeds chokedOutput.refusal) =
        none ∧
      ∃ store serial,
        ((start (Settings.variableMachine "false")).run
            (brokenDeeds chokedOutput.refusal)).state.stores[0]? = some store ∧
          store.listeners = [follower 0 serial] := by
  have refused (record : LogRecord) (level : record.level = .debug)
      (ordinary : record.isSummary = false) :
      chokedOutput.refusal record = some (.number .tooLarge) := by
    have window : (Binary64.ofInt? endlessWindow).isNone = true := by decide +kernel
    simp [LogOutput.refusal, chokedOutput, RepeatFilter.ofLimits,
      Option.isNone_iff_eq_none.mp window, LogOutput.isEnabled, level, ordinary, Level.debug]
  obtain ⟨connected, failed⟩ := last_brokenDeeds refused
  exact ⟨failed, (follower_is_never_left_behind _ _).1.exists_ 0 connected⟩

end Household

end StorageLayout
