import StorageLayout.Config.Stores
import StorageLayout.Settings.Store
import StorageLayout.Storage.Partition
import StorageLayout.User.Current

/-! What a process shares: its settings, its current user and its partition roots. Settings are read
when they are first needed; the current user follows the strict mode setting; settings that cannot
be read leave strict mode off. -/

namespace StorageLayout

/-- A client of stores: how it listens, which never changes, and the place of the store in which it
subscribed last. The store in which it subscribed first is its own. -/
structure Client where
  place : Nat
  listener : Listener

/-- The shared state of a process. `stores` holds every store of settings built so far, in which the
global and the registered one are found by place. The current user follows one store at most, under
the subscription kept in `following`. `clients` holds everyone who ever subscribed. -/
structure SharedState where
  machine : Machine
  stores : Stores
  clients : Table Client
  globalStore : Option Nat
  registeredStore : Option Nat
  users : Option CurrentUser
  following : Option (Nat × ListenerId)
  serial : Nat
  partitions : PartitionRegistry

namespace SharedState

/-- A process as it starts. -/
def start (machine : Machine) : SharedState where
  machine := machine
  stores := []
  clients := []
  globalStore := none
  registeredStore := none
  users := none
  following := none
  serial := 0
  partitions := PartitionRegistry.read machine.environment

/-- A step of a process: the state after it, its outcome, and what it sent out. -/
abbrev Step (α : Type) := SharedState × Traced α

namespace Step

variable {α β : Type}

/-- Goes on from the state that a step leaves, unless the step failed. -/
def andThen (first : Step α) (next : SharedState → α → Step β) : Step β :=
  match first.2.outcome with
  | .ok value =>
    let second := next first.1 value
    (second.1, Traced.after first.2.trail second.2)
  | .error failure => (first.1, ⟨.error failure, first.2.trail⟩)

variable {first : Step α} {next : SharedState → α → Step β}

theorem andThen_of_ok {value : α} (ok : first.2.outcome = .ok value) :
    andThen first next =
      ((next first.1 value).1, Traced.after first.2.trail (next first.1 value).2) := by
  simp only [andThen, ok]

theorem andThen_of_error {failure : Failure} (failed : first.2.outcome = .error failure) :
    andThen first next = (first.1, ⟨.error failure, first.2.trail⟩) := by
  simp only [andThen, failed]

theorem andThen_eq_ok {last : β} (ok : (andThen first next).2.outcome = .ok last) :
    ∃ value, first.2.outcome = .ok value ∧ (next first.1 value).2.outcome = .ok last := by
  cases reached : first.2.outcome with
  | ok value =>
    rw [andThen_of_ok reached] at ok
    exact ⟨value, rfl, ok⟩
  | error failure =>
    rw [andThen_of_error reached] at ok
    cases ok

end Step

def storeAt? (state : SharedState) (index : Nat) : Option Store := state.stores[index]?

def modifyStore (state : SharedState) (index : Nat) (change : Store → Store) : SharedState :=
  { state with stores := state.stores.modify index change }

def addStore (state : SharedState) (store : Store) : SharedState × Nat :=
  ({ state with stores := state.stores ++ [store] }, state.stores.length)

/-- Subscribes a client to the store at a place. A client that is known already listens as it did at
first. -/
def subscribe (state : SharedState) (place : Nat) (name : String)
    (react : Change → List Reaction) : SharedState :=
  let listener :=
    match state.clients.get? name with
    | some client => client.listener
    | none => ⟨.client name, place, react⟩
  { state.modifyStore place fun store => store.subscribe listener with
    clients := state.clients.set name ⟨place, listener⟩ }

/-- Cancels a subscription of a client in the store in which it subscribed last. -/
def unsubscribe (state : SharedState) (name : String) : Except Failure SharedState :=
  match state.clients.get? name with
  | some client =>
    .ok (state.modifyStore client.place fun store => store.unsubscribe (.client name))
  | none => .error (.notSubscribed name)

def configLogger : String := "droidenv.app.config"

/-- The record of settings that have been read. -/
def configured (context : LogContext) (store : Store) : LogRecord where
  level := .debug
  logger := configLogger
  message := "Config initialized (layers: " ++ ", ".intercalate store.layerNames ++ ")"
  context := context

/-- Reads the settings unless they have been read, and gives the place of their store. The store is
there before this is logged. -/
def initConfig (context : LogContext) (source : EnvironmentSource) (path : Option String)
    (state : SharedState) : Step Nat :=
  match state.globalStore with
  | some index => (state, .done index)
  | none =>
    let built := Settings.buildStore state.machine context source path
    match built.outcome with
    | .error failure => (state, ⟨.error failure, built.trail⟩)
    | .ok store =>
      let (added, index) := state.addStore store
      ({ added with globalStore := some index, registeredStore := some index },
        .after built.trail ((state.machine.log (configured context store)).map fun _ => index))

/-- The place of the global store, which is built if need be. -/
def globalConfig (context : LogContext) (state : SharedState) : Step Nat :=
  state.initConfig context none none

/-- Forgets the settings, so that they are read again when next needed. -/
def resetConfig (state : SharedState) : SharedState :=
  { state with globalStore := none, registeredStore := none }

/-- The effective document of the store at a place. -/
def documentAt (state : SharedState) (index : Nat) : Except Failure Document :=
  match state.storeAt? index with
  | some store => store.merged state.machine.environment
  | none => .ok .empty

/-- What a setting reads as in the effective document of the global settings; null if it is not
there. -/
def setting (context : LogContext) (key : Value) (state : SharedState) : Step Value :=
  Step.andThen (state.globalConfig context) fun state index =>
    match state.documentAt index with
    | .error failure => (state, .fail failure)
    | .ok document => (state, .done (((Value.object document.named).read? key).getD .null))

def config (context : LogContext) (key standard : Value) (state : SharedState) : Step Value :=
  Step.andThen (state.setting context key) fun state value =>
    (state, .done (if value.isNull then standard else value))

/-- Whether a setting is true; one that is not there has the given value. -/
def configTruth (context : LogContext) (key standard : Value) (state : SharedState) : Step Value :=
  Step.andThen (state.setting context key) fun state value =>
    (state, .done (if value.isNull then standard else .bool value.truthy))

/-- Applies what a write told the holder of the current user. -/
def applyTrail (state : SharedState) : List Emission → SharedState
  | [] => state
  | .strictMode on :: rest =>
    applyTrail { state with users := state.users.map fun users => users.requireUser on } rest
  | _ :: rest => applyTrail state rest

/-- What surrounds a write. -/
def occasion (state : SharedState) (context : LogContext) : Occasion where
  environment := state.machine.environment
  context := context
  subscriptions := state.clients.map fun client => (client.1, client.2.place)
  refusal := state.machine.refusal
  depth := state.machine.depth

/-- Writes a setting in the store at a place. -/
def writeAt (context : LogContext) (place : Nat) (key : String) (value : Value) (actor : String)
    (state : SharedState) : Step Unit :=
  let (stores, result) :=
    Stores.write (state.occasion context) state.stores place key value actor
  (applyTrail { state with stores := stores } result.trail, result)

def makesUnavailable (kind : FailureKind) : Bool :=
  kind.isA .configValidation || kind.isA .fileNotFound || kind.isA .type

/-- The record of settings that cannot be read. -/
def unavailable (context : LogContext) (failure : Failure) : LogRecord where
  level := .warning
  logger := CurrentUser.logger
  message := "Settings unavailable; " ++ Settings.strictModeKey ++ " defaults to off"
  context := context
  failure := some failure

/-- The place of the global store, or nothing if the settings cannot be read. -/
def availableConfig (context : LogContext) (state : SharedState) : Step (Option Nat) :=
  let (after, read) := state.globalConfig context
  match read.outcome with
  | .ok index => (after, ⟨.ok (some index), read.trail⟩)
  | .error failure =>
    if makesUnavailable failure.kind then
      (after, .after read.trail
        ((state.machine.log (unavailable context failure)).map fun _ => none))
    else (after, ⟨.error failure, read.trail⟩)

/-- Whether a write of a key replaces the strict mode setting: at the setting or above it. -/
def concernsStrictMode (key : String) : Bool :=
  key = Settings.strictModeKey || Settings.strictModeKey.startsWith (key ++ ".")

/-- The listener that reports the strict mode setting of the store at a place. -/
def follower (place serial : Nat) : Listener where
  id := .strictMode serial
  home := place
  react := fun change =>
    if concernsStrictMode change.key then [.report Settings.strictModeKey] else []

/-- Follows the strict mode setting of the store at a place, and no other one any more. -/
def follow (index : Nat) (state : SharedState) : SharedState :=
  let released :=
    match state.following with
    | some (old, id) => state.modifyStore old fun store => store.unsubscribe id
    | none => state
  let listener := follower index state.serial
  { released.modifyStore index fun store => store.subscribe listener with
    following := some (index, listener.id)
    serial := state.serial + 1 }

def strictModeOf (state : SharedState) (index : Option Nat) : Bool :=
  match index.bind state.storeAt? with
  | some store => (store.get state.machine.environment Settings.strictModeKey).truthy
  | none => false

/-- The record of a current user that is ready. -/
def ready (context : LogContext) (users : CurrentUser) : LogRecord where
  level := .debug
  logger := CurrentUser.logger
  message := "User context ready: " ++ users.current.shown ++ " (strict=" ++
    Value.truthText users.strict ++ ")"
  context := context

/-- What the holder of the current user is made of; strict mode is that of the settings unless it is
given. -/
structure UserSetup where
  source : UserSource
  host : Option HostCapabilities
  environment : EnvironmentSource
  strict : Option Bool

namespace UserSetup

def standard : UserSetup := ⟨.processOwner, none, none, none⟩

end UserSetup

/-- Makes a holder of the current user and shares it. If no user can be had, what was shared before
stays. That the holder is ready is logged after it is shared and follows the settings. -/
def bootstrap (context : LogContext) (setup : UserSetup) (state : SharedState) : Step CurrentUser :=
  Step.andThen (state.availableConfig context) fun state index =>
    let strict := setup.strict.getD (state.strictModeOf index)
    match CurrentUser.create state.machine setup.source setup.host setup.environment strict with
    | .error failure => (state, .fail failure)
    | .ok users =>
      let shared := { state with users := some users }
      let followed := index.elim shared fun index => shared.follow index
      (followed, (state.machine.log (ready context users)).map fun _ => users)

def sharedUsers (state : SharedState) : Except Failure CurrentUser :=
  match state.users with
  | some users => .ok users
  | none => .error .noUserContext

def shareUsers (state : SharedState) (users : Option CurrentUser) : SharedState :=
  { state with users := users }

/-- The holder of the current user, which is made if need be. -/
def ensureUsers (context : LogContext) (state : SharedState) : Step CurrentUser :=
  match state.users with
  | some users => (state, .done users)
  | none => state.bootstrap context .standard

/-- Reads the current user again. -/
def refreshUser (context : LogContext) (state : SharedState) : Step UserEnvironment :=
  Step.andThen (state.ensureUsers context) fun state users =>
    let (after, fresh) := users.refresh state.machine context
    (state.shareUsers (some after), fresh)

/-- Sets strict mode. -/
def requireUser (context : LogContext) (strict : Bool) (state : SharedState) : Step Unit :=
  Step.andThen (state.ensureUsers context) fun state users =>
    (state.shareUsers (some (users.requireUser strict)), .done ())

def currentUser (context : LogContext) (state : SharedState) : Step UserEnvironment :=
  Step.andThen (state.ensureUsers context) fun state users => (state, .done users.current)

/-- The directories of an area for the current user. -/
def areaDirs (context : LogContext) (area : StorageArea) (name : Value) (state : SharedState) :
    Step (List Pathname) :=
  Step.andThen (state.ensureUsers context) fun state users =>
    (state, (users.areaDirs state.machine context area name).2)

def systemDirectory (state : SharedState) (directory : SystemDirectory) : Pathname :=
  directory.path state.machine state.partitions

def reloadPartitions (state : SharedState) : SharedState :=
  { state with partitions := PartitionRegistry.read state.machine.environment }

/-- Changes what the given source of the current user answers; the owner of the process stays. -/
def switchUser (state : SharedState) (handle : Except Failure Value) : SharedState :=
  { state with
    users := state.users.map fun users =>
      match users.source with
      | .given _ => { users with source := .given handle }
      | .processOwner => users }

def isRegistered (state : SharedState) (name : String) : Bool :=
  if name = "config.global" then state.registeredStore.isSome
  else if name = "user.context" then state.users.isSome
  else false

end SharedState

end StorageLayout
