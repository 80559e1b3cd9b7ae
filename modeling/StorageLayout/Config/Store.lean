import StorageLayout.Config.Layer

/-! Layered configuration stores. A key reads as the topmost layer has it; the effective document
lays all layers over each other; writes go to the topmost overrides and are taken back if the
effective document does not stand its check. -/

namespace StorageLayout

/-- What a listener does about a change. A client is cancelled where it subscribed last; an
assignment is made only if the key reads as something else; a report tells whether a key reads as
something true. -/
inductive Reaction where
  | fail (failure : Failure)
  | cancel (client : String)
  | assign (key : String) (value : Value)
  | report (key : String)

/-- A listener: who it is, the place of the store that it reads and writes, and what it does about
each change of any store in which it is subscribed. It has no state of its own: what it does depends
on the change, and an assignment on what the key reads as then. -/
structure Listener where
  id : ListenerId
  home : Nat
  react : Change → List Reaction

/-- A stack of layers, the lowest first, with the check that the effective document has to pass and
the listeners in order of subscription. -/
structure Store where
  space : String
  validator : Option (Document → Except Failure Unit)
  layers : List Layer
  listeners : List Listener

namespace Store

def logger : String := "droidenv.config.store"

/-- Writes are made by the system itself if nobody else is named. -/
def systemActor : String := "system"

/-- The topmost layer that has a value for a key, by its place from the bottom, and the value. -/
def find? (process : Environment) (key : String) : Nat → List Layer → Option (Nat × Value)
  | _, [] => none
  | index, layer :: above =>
    match find? process key (index + 1) above with
    | some found => some found
    | none =>
      let value := layer.get process key
      if value.isNull then none else some (index, value)

/-- What a key reads as; null if no layer has a value for it. -/
def get (process : Environment) (store : Store) (key : String) : Value :=
  ((find? process key 0 store.layers).map Prod.snd).getD .null

/-- The topmost overrides, with their place from the bottom. -/
def overrideLayer? (store : Store) : Option (Nat × Layer) :=
  (store.layers.zipIdx.reverse.find? fun entry => entry.1.isOverrides).map Prod.swap

/-- Lays layers over a document one by one. -/
def mergeOver (process : Environment) : Document → List Layer → Except Failure Document
  | document, [] => .ok document
  | document, layer :: above =>
    match layer.toDocument process with
    | .ok upper => mergeOver process (document.merge upper) above
    | .error failure => .error failure

def merged (process : Environment) (store : Store) : Except Failure Document :=
  mergeOver process .empty store.layers

/-- Checks the effective document. -/
def validate (process : Environment) (store : Store) : Except Failure Unit :=
  match store.validator with
  | none => .ok ()
  | some check =>
    match (store.merged process).bind check with
    | .ok _ => .ok ()
    | .error cause => .error (.invalidDocument store.space cause)

/-- The entries of the topmost overrides. -/
def overrides? (store : Store) : Option (Table Value) :=
  store.overrideLayer?.bind fun found =>
    match found.2 with
    | .overrides entries => some entries
    | _ => none

/-- Adds a listener; one that is there already is added once more. -/
def subscribe (store : Store) (listener : Listener) : Store :=
  { store with listeners := store.listeners ++ [listener] }

/-- Removes a listener where it was subscribed first; nothing happens if it is not there. -/
def unsubscribe (store : Store) (id : ListenerId) : Store :=
  { store with listeners := store.listeners.eraseP fun listener => listener.id = id }

def withLayer (store : Store) (index : Nat) (layer : Layer) : Store :=
  { store with layers := store.layers.set index layer }

/-- What came of a write to a layer: the store after it, its outcome, and the values that were put
there one after the other. -/
structure Written where
  store : Store
  outcome : Except Failure Unit
  values : List Value

/-- Writes to a layer and checks the effective document; a write that fails the check is taken back
by writing what the layer had before. -/
def writeLayer (process : Environment) (store : Store) (index : Nat) (layer : Layer)
    (key : String) (value : Value) : Written :=
  match layer.set key value with
  | .error failure => ⟨store, .error failure, []⟩
  | .ok written =>
    match (store.withLayer index written).validate process with
    | .ok _ => ⟨store.withLayer index written, .ok (), [value]⟩
    | .error failure =>
      let before := layer.get process key
      match written.set key before with
      | .ok restored => ⟨store.withLayer index restored, .error failure, [value, before]⟩
      | .error unrestored => ⟨store.withLayer index written, .error unrestored, [value]⟩

/-- Whether what a key reads as changed. A value read from the same place before and after, where
nothing was written, is the same value. -/
def readChanged (target : Nat) (rewritten : Bool) (old new : Option (Nat × Value)) : Bool :=
  let shared :=
    match old, new with
    | some (oldIndex, _), some (newIndex, _) =>
      oldIndex = newIndex && (newIndex ≠ target || !rewritten)
    | _, _ => false
  Value.changed shared ((old.map Prod.snd).getD .null) ((new.map Prod.snd).getD .null)

def layerNames (store : Store) : List String := store.layers.map fun layer => layer.kind.name

/-- A picture of the store: its name, the effective document and the layers. -/
def snapshot (process : Environment) (store : Store) : Except Failure (Table Value) :=
  (store.merged process).map fun document =>
    [("namespace", .text store.space), ("values", .object document.shown),
     ("layers", .list (store.layerNames.map .text))]

end Store

end StorageLayout
