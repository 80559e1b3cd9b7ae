import StorageLayout.Config.Store

/-! The stores of a process, found by their places, and writes to them. Listeners hear of every
write that changed what its key reads as. They may write themselves, also to another store, cancel
subscriptions, or fail without harm to the write. -/

namespace StorageLayout

abbrev Stores := List Store

/-- What surrounds a write: the environment of the process, the log context, and the places of the
stores in which clients subscribed last. `refusal` says what fails if a record cannot be logged, and
`depth` how deep writes of listeners may be nested in the write. -/
structure Occasion where
  environment : Environment
  context : LogContext
  subscriptions : Table Nat
  refusal : LogRecord → Option Failure
  depth : Nat

/-- What listeners are told of. The new value of a change is no copy: as long as it stands in the
overrides, which `live` says, what is written inside it shows in it. -/
structure Notice where
  place : Nat
  change : Change
  live : Bool

namespace Notice

/-- A value after a write inside it; null removes what was there. -/
def rewritten (value : Value) (inside : Key) (written : Value) : Value :=
  if written.isNull then (value.delete? inside true).getD value
  else
    match value.set inside written true with
    | .ok after => after
    | .error _ => value

/-- A notice after a write in its store. A write at its key or above replaces the new value, and so
does one inside it that leaves it empty: from then on it stands alone. -/
def overwritten (notice : Notice) (own key : Key) (value : Value) : Notice :=
  if key.isAtOrAbove own then { notice with live := false }
  else
    match own.below? key with
    | none => notice
    | some inside =>
      let old := notice.change.new
      let new := rewritten old inside value
      { notice with
        change := { notice.change with new := new }
        live := !(value.isNull && new.isHollow && !old.isHollow) }

/-- A notice after something was sent out. -/
def follow (notice : Notice) (emission : Emission) : Notice :=
  match emission with
  | .written place text value =>
    match Key.parse notice.change.key, Key.parse text with
    | .ok own, .ok key =>
      if notice.live && place = notice.place then notice.overwritten own key value else notice
    | _, _ => notice
  | _ => notice

end Notice

namespace Stores

/-- What a key of a store reads as; null if there is no such store. -/
def read (process : Environment) (stores : Stores) (place : Nat) (key : String) : Value :=
  (stores[place]?.map fun store => store.get process key).getD .null

/-- A way to write a key of a store, in which `write` and what listeners do about it take part. -/
abbrev Writer := Stores → Nat → String → Value → String → Stores × Traced Unit

/-- The actor named in writes that a listener makes. -/
def actorOf : ListenerId → String
  | .client name => name
  | .strictMode _ => Store.systemActor

/-- Carries out what a listener does, up to the first failure. -/
def perform (occasion : Occasion) (write : Writer) (listener : Listener) :
    Stores → List Reaction → Stores × Traced Unit
  | stores, [] => (stores, .done ())
  | stores, .fail failure :: _ => (stores, .fail failure)
  | stores, .cancel client :: rest =>
    match occasion.subscriptions.get? client with
    | none => (stores, .fail (.notSubscribed client))
    | some place =>
      let left := stores.modify place fun store => store.unsubscribe (.client client)
      perform occasion write listener left rest
  | stores, .report key :: rest =>
    let (after, told) := perform occasion write listener stores rest
    let on := (read occasion.environment stores listener.home key).truthy
    (after, Traced.after [.strictMode on] told)
  | stores, .assign key value :: rest =>
    if (read occasion.environment stores listener.home key).agrees value then
      perform occasion write listener stores rest
    else
      let (written, first) := write stores listener.home key value (actorOf listener.id)
      match first.outcome with
      | .error _ => (written, first)
      | .ok _ =>
        let (after, told) := perform occasion write listener written rest
        (after, Traced.after first.trail told)

/-- The record of a listener that failed. -/
def listenerFailed (context : LogContext) (change : Change) (failure : Failure) : LogRecord where
  level := .error
  logger := Store.logger
  message := change.space ++ ": change listener failed for '" ++ change.key ++ "'"
  context := context
  failure := some failure

/-- Tells listeners one after the other of a change. Failures are logged and go no further, unless
they cannot be logged. -/
def notify (occasion : Occasion) (write : Writer) :
    Notice → Stores → List Listener → Stores × Traced Unit
  | _, stores, [] => (stores, .done ())
  | notice, stores, listener :: rest =>
    let change := notice.change
    let (after, told) := perform occasion write listener stores (listener.react change)
    let heard := .notified listener.id change :: told.trail
    let next := told.trail.foldl Notice.follow notice
    match told.outcome with
    | .ok _ =>
      let (last, later) := notify occasion write next after rest
      (last, Traced.after heard later)
    | .error failure =>
      let complaint := listenerFailed occasion.context change failure
      let sent := heard ++ [.record complaint]
      match occasion.refusal complaint with
      | some refused => (after, ⟨.error refused, sent⟩)
      | none =>
        let (last, later) := notify occasion write next after rest
        (last, Traced.after sent later)

/-- Writes a key in the overrides of a store, which is a layer of it, and tells its listeners. -/
def writeOverrides (occasion : Occasion) (write : Writer) (stores : Stores) (place : Nat)
    (store : Store) (target : Nat) (layer : Layer) (key : String) (value : Value)
    (actor : String) : Stores × Traced Unit :=
  let old := Store.find? occasion.environment key 0 store.layers
  let written := store.writeLayer occasion.environment target layer key value
  let sent : List Emission := written.values.map fun put => .written place key put
  let after := stores.set place written.store
  match written.outcome with
  | .error failure => (after, ⟨.error failure, sent⟩)
  | .ok _ =>
    let new := Store.find? occasion.environment key 0 written.store.layers
    if Store.readChanged target (!value.isNull) old new then
      let change : Change :=
        { key := key
          old := (old.map Prod.snd).getD .null
          new := (new.map Prod.snd).getD .null
          space := store.space
          actor := actor }
      let notice : Notice := ⟨place, change, new.any fun found => found.1 = target⟩
      let (last, told) := notify occasion write notice after store.listeners
      (last, Traced.after sent told)
    else (after, ⟨.ok (), sent⟩)

/-- Writes a key; `depth` bounds how deep writes of listeners may be nested. -/
def writeNested (occasion : Occasion) : Nat → Writer
  | 0 => fun stores _ _ _ _ => (stores, .fail .nestingTooDeep)
  | depth + 1 => fun stores place key value actor =>
    match stores[place]? with
    | none => (stores, .done ())
    | some store =>
      match store.overrideLayer? with
      | none => (stores, .fail (.noOverrides store.space))
      | some (target, layer) =>
        writeOverrides occasion (writeNested occasion depth) stores place store target layer key
          value actor

/-- Writes a key in the topmost overrides of a store; null takes back what was written there. -/
def write (occasion : Occasion) : Writer := writeNested occasion (occasion.depth + 1)

end Stores

end StorageLayout
