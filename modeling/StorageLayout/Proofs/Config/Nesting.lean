import StorageLayout.Proofs.Config.Equality
import StorageLayout.Proofs.Config.Rollback
import StorageLayout.Proofs.Config.Rounds
import StorageLayout.Proofs.Log.Suppression

/-! Listeners that write the key that they hear of. Each such write starts a round of its own while
the outer one still has listeners to tell, so a listener behind the one that writes hears of the
newer change first and of the older one last. Nothing is written after its last news, though: the
key still reads as it did then. -/

namespace StorageLayout

namespace Store

theorem overrideLayer?_concat {store : Store} {lower : List Layer} {top : Layer}
    (layers : store.layers = lower ++ [top]) :
    store.overrideLayer? =
      if top.isOverrides then some (lower.length, top)
      else { store with layers := lower }.overrideLayer? := by
  rw [overrideLayer?, overrideLayer?, layers, List.zipIdx_append, List.reverse_append,
    List.find?_append]
  by_cases isOverrides : top.isOverrides = true <;> simp [isOverrides]

theorem overrideLayer?_withLayer {store : Store} {target : Nat} {layer other : Layer}
    (top : store.overrideLayer? = some (target, layer)) (isOverrides : other.isOverrides = true) :
    (store.withLayer target other).overrideLayer? = some (target, other) := by
  obtain ⟨space, validator, layers, listeners⟩ := store
  induction layers using List.reverseRecOn with
  | nil => cases top
  | append_singleton lower last ih =>
    rw [overrideLayer?_concat rfl] at top
    split at top
    · obtain ⟨rfl, rfl⟩ := Prod.mk.inj (Option.some.inj top)
      have layers : (withLayer ⟨space, validator, lower ++ [last], listeners⟩ lower.length
          other).layers = lower ++ [other] := by simp [withLayer]
      rw [overrideLayer?_concat layers, if_pos isOverrides]
    · next lastOther =>
      have inside := (List.getElem?_eq_some_iff.mp (overrideLayer?_eq_some top).1).1
      have layers : (withLayer ⟨space, validator, lower ++ [last], listeners⟩ target other).layers =
          lower.set target other ++ [last] := List.set_append_left _ _ inside
      rw [overrideLayer?_concat layers, if_neg lastOther]
      exact ih top

/-- A store after a value was put in its topmost overrides, if it can be put there. -/
def put (store : Store) (text : String) (value : Value) : Store :=
  match store.overrideLayer? with
  | none => store
  | some (target, layer) =>
    match layer.set text value with
    | .ok written => store.withLayer target written
    | .error _ => store

/-- The store at a place after a write that was told of. -/
def replayOne (place : Nat) (store : Store) : Emission → Store
  | .written home text value => if home = place then store.put text value else store
  | _ => store

def replay (place : Nat) (store : Store) (trail : List Emission) : Store :=
  trail.foldl (replayOne place) store

theorem layers_put_congr {left right : Store} (same : left.layers = right.layers) (text : String)
    (value : Value) : (left.put text value).layers = (right.put text value).layers := by
  unfold put
  have top : left.overrideLayer? = right.overrideLayer? := by
    rw [overrideLayer?, overrideLayer?, same]
  rw [top]
  split
  · exact same
  · split
    · rw [withLayer, withLayer, same]
    · exact same

theorem listeners_put (store : Store) (text : String) (value : Value) :
    (store.put text value).listeners = store.listeners := by
  unfold put
  split
  · rfl
  · split <;> rfl

section

variable {place : Nat} {store : Store}

@[simp] theorem replay_nil : store.replay place [] = store := rfl

theorem replay_append (first second : List Emission) :
    store.replay place (first ++ second) = (store.replay place first).replay place second :=
  List.foldl_append

theorem layers_replayOne_congr {left right : Store} (same : left.layers = right.layers)
    (emission : Emission) :
    (left.replayOne place emission).layers = (right.replayOne place emission).layers := by
  cases emission with
  | written home text value =>
    rw [replayOne, replayOne]
    split
    · exact layers_put_congr same text value
    · exact same
  | _ => exact same

theorem layers_replay_congr {left right : Store} (same : left.layers = right.layers)
    (trail : List Emission) :
    (left.replay place trail).layers = (right.replay place trail).layers := by
  induction trail generalizing left right with
  | nil => exact same
  | cons emission rest ih => exact ih (layers_replayOne_congr same emission)

/-- Whether overrides can be copied. -/
def IsCopyable (store : Store) : Prop :=
  ∀ entries, .overrides entries ∈ store.layers → (Value.object entries).isCopyable = true

theorem IsCopyable.put (copyable : store.IsCopyable) (text : String) (value : Value) :
    (store.put text value).IsCopyable := by
  unfold Store.put
  split
  · exact copyable
  · next target layer top =>
    split
    · next written wrote =>
      obtain ⟨entries, left, rfl, wroteEntries, rfl⟩ := Layer.set_eq_ok.mp wrote
      have held := copyable entries (List.mem_of_getElem? (overrideLayer?_eq_some top).1)
      intro other member
      rcases List.mem_or_eq_of_mem_set member with before | same
      · exact copyable other before
      · cases same
        exact Layer.isCopyable_writeOverride held wroteEntries
    · exact copyable

theorem IsCopyable.replay (copyable : store.IsCopyable) (trail : List Emission) :
    (store.replay place trail).IsCopyable := by
  induction trail generalizing store with
  | nil => exact copyable
  | cons emission rest ih =>
    apply ih
    cases emission with
    | written home text value =>
      rw [replayOne]
      split
      · exact copyable.put text value
      · exact copyable
    | _ => exact copyable

theorem replay_written (text : String) (value : Value) (rest : List Emission) :
    store.replay place (.written place text value :: rest) =
      (store.put text value).replay place rest := by
  rw [replay, List.foldl_cons, replayOne, if_pos rfl, replay]

variable {target : Nat} {entries : Table Value} {text : String} {value : Value}

/-- Whether what stands at a key of the topmost overrides can be taken back. -/
def Restores (store : Store) (text : String) : Prop :=
  ∀ target entries, store.overrideLayer? = some (target, .overrides entries) →
    ∀ key, Key.parse text = .ok key → Layer.Restores entries key

theorem restores_congr {left right : Store} (same : left.layers = right.layers) (text : String) :
    left.Restores text ↔ right.Restores text := by
  rw [Restores, Restores, overrideLayer?, overrideLayer?, same]

theorem restores_withLayer (top : store.overrideLayer? = some (target, .overrides entries))
    {left : Table Value} (restores : ∀ key, Key.parse text = .ok key → Layer.Restores left key) :
    (store.withLayer target (.overrides left)).Restores text := by
  intro found entries topAfter
  rw [overrideLayer?_withLayer top rfl] at topAfter
  cases topAfter
  exact restores

theorem Restores.put (restores : store.Restores text) (value : Value) :
    (store.put text value).Restores text := by
  unfold Store.put
  split
  · exact restores
  · next target layer top =>
    split
    · next written wrote =>
      obtain ⟨entries, left, rfl, wroteEntries, rfl⟩ := Layer.set_eq_ok.mp wrote
      exact restores_withLayer top fun key parsed =>
        (restores target entries top key parsed).writeOverride parsed wroteEntries
    · exact restores

theorem Restores.replay (restores : store.Restores text) (home : Nat) (values : List Value) :
    (store.replay home (values.map (Emission.written home text))).Restores text := by
  induction values generalizing store with
  | nil => exact restores
  | cons value rest ih =>
    rw [List.map_cons, replay_written]
    exact ih (restores.put value)

end

end Store

def Listener.WritesOnly (listener : Listener) (place : Nat) (key : String) : Prop :=
  ∀ change text value, .assign text value ∈ listener.react change →
    text = key ∧ listener.home = place

/-- Someone who listens to a key of the store at a place. -/
structure Observer where
  process : Environment
  place : Nat
  key : String
  id : ListenerId

namespace Observer

variable (observer : Observer)

def read (store : Store) : Value := store.get observer.process observer.key

theorem read_eq {observer : Observer} {process : Environment}
    (surrounded : observer.process = process) (store : Store) :
    observer.read store = store.get process observer.key := by
  rw [read, surrounded]

def isNews (emission : Emission) : Bool := emission.told?.any fun told => told.1 = observer.id

/-- What a trail tells of before the last news; nothing if there are none. -/
def untilNews : List Emission → List Emission
  | [] => []
  | emission :: rest => if rest.any observer.isNews then emission :: untilNews rest else []

/-- Whether all news of a trail carry what the key reads as when they are sent out. -/
def IsCurrent (store : Store) : List Emission → Prop
  | [] => True
  | emission :: rest =>
    (∀ change, emission = .notified observer.id change → change.new = observer.read store) ∧
      IsCurrent (store.replayOne observer.place emission) rest

def ComesFirst (listeners : List Listener) : Prop :=
  listeners.Pairwise fun first later => later.id = observer.id → first.NeverWrites

theorem untilNews_of_silent {trail : List Emission} (silent : trail.any observer.isNews = false) :
    observer.untilNews trail = [] := by
  cases trail with
  | nil => rfl
  | cons emission rest =>
    rw [List.any_cons, Bool.or_eq_false_iff] at silent
    rw [untilNews, silent.2, if_neg Bool.false_ne_true]

theorem isCurrent_of_silent {store : Store} {trail : List Emission}
    (silent : trail.any observer.isNews = false) : observer.IsCurrent store trail := by
  induction trail generalizing store with
  | nil => trivial
  | cons emission rest ih =>
    rw [List.any_cons, Bool.or_eq_false_iff] at silent
    refine ⟨?_, ih silent.2⟩
    intro change notified
    rw [notified] at silent
    simp [isNews, Emission.told?] at silent

theorem untilNews_append (early late : List Emission) :
    observer.untilNews (early ++ late) =
      if late.any observer.isNews then early ++ observer.untilNews late
      else observer.untilNews early := by
  induction early with
  | nil =>
    cases silent : late.any observer.isNews with
    | true => rfl
    | false => exact observer.untilNews_of_silent silent
  | cons emission rest ih =>
    rw [List.cons_append, untilNews, List.any_append, ih, untilNews]
    cases late.any observer.isNews <;> simp

theorem isCurrent_append (store : Store) (early late : List Emission) :
    observer.IsCurrent store (early ++ late) ↔
      observer.IsCurrent store early ∧
        observer.IsCurrent (store.replay observer.place early) late := by
  induction early generalizing store with
  | nil => simp [IsCurrent]
  | cons emission rest ih =>
    rw [List.cons_append, IsCurrent, IsCurrent, ih, and_assoc]
    rfl

theorem isCurrent_congr {left right : Store} (same : left.layers = right.layers)
    (trail : List Emission) : observer.IsCurrent left trail ↔ observer.IsCurrent right trail := by
  induction trail generalizing left right with
  | nil => exact Iff.rfl
  | cons emission rest ih =>
    have reads : observer.read left = observer.read right := Store.get_congr same
    rw [IsCurrent, IsCurrent, reads, ih (Store.layers_replayOne_congr same emission)]

/-- How a store comes of another one while things are sent out. Nothing but what is told of changes
its layers, and a key that could be taken back still can be. What the key read as at the last news,
it still reads as; and if nobody who writes is told before the observer, the news are current. -/
structure Follows (ordered : Prop) (before : Store) (trail : List Emission) (after : Store) :
    Prop where
  layers : (before.replay observer.place trail).layers = after.layers
  listeners : after.listeners.Sublist before.listeners
  restores : before.Restores observer.key → after.Restores observer.key
  lasting : observer.id ∈ after.heardBy → ¬ Value.Differs
    (observer.read (before.replay observer.place (observer.untilNews trail))) (observer.read after)
  current : ordered → observer.IsCurrent before trail

variable {observer} {ordered : Prop} {before middle after : Store} {early late : List Emission}

namespace Follows

theorem cancelled (layers : before.layers = after.layers)
    (listeners : after.listeners.Sublist before.listeners) :
    observer.Follows ordered before [] after where
  layers := layers
  listeners := listeners
  restores := (Store.restores_congr layers _).mp
  lasting _ := by
    have reads : observer.read before = observer.read after := Store.get_congr layers
    rw [untilNews, Store.replay_nil, reads]
    exact Value.not_differs_self _
  current _ := trivial

theorem refl (store : Store) : observer.Follows ordered store [] store :=
  cancelled rfl (List.Sublist.refl _)

/-- A write that nobody is told of has left the key as it was. -/
theorem unannounced (layers : (before.replay observer.place early).layers = after.layers)
    (listeners : after.listeners = before.listeners)
    (silent : early.any observer.isNews = false)
    (restores : before.Restores observer.key → after.Restores observer.key)
    (same : ¬ Value.Differs (observer.read before) (observer.read after)) :
    observer.Follows ordered before early after where
  layers := layers
  listeners := listeners ▸ List.Sublist.refl _
  restores := restores
  lasting _ := by rwa [observer.untilNews_of_silent silent]
  current _ := observer.isCurrent_of_silent silent

/-- One thing that is no write leaves the store. -/
theorem single {emission : Emission}
    (idle : ∀ text value, emission ≠ .written observer.place text value)
    (current : ordered → ∀ change, emission = .notified observer.id change →
      change.new = observer.read before) :
    observer.Follows ordered before [emission] before where
  layers := by
    cases emission with
    | written home text value =>
      have elsewhere : home ≠ observer.place := by
        rintro rfl
        exact idle text value rfl
      simp [Store.replay, Store.replayOne, elsewhere]
    | _ => rfl
  listeners := List.Sublist.refl _
  restores := fun kept => kept
  lasting _ := Value.not_differs_self _
  current isOrdered := ⟨current isOrdered, trivial⟩

theorem complaint (occasion : Occasion) (change : Change) (outcome : Except Failure Unit) :
    observer.Follows ordered before (occasion.complaint change outcome) before := by
  cases outcome with
  | ok _ => exact .refl before
  | error failure => exact .single (fun _ _ => nofun) fun _ _ => nofun

theorem read_late (layers : (before.replay observer.place early).layers = middle.layers)
    (trail : List Emission) :
    observer.read (before.replay observer.place (early ++ trail)) =
      observer.read (middle.replay observer.place trail) := by
  rw [Store.replay_append]
  exact Store.get_congr (Store.layers_replay_congr layers trail)

theorem append (first : observer.Follows ordered before early middle)
    (second : observer.Follows ordered middle late after) :
    observer.Follows ordered before (early ++ late) after where
  layers := by
    rw [Store.replay_append, Store.layers_replay_congr first.layers, second.layers]
  listeners := second.listeners.trans first.listeners
  restores := second.restores ∘ first.restores
  lasting registered := by
    have heard : observer.id ∈ middle.heardBy :=
      (second.listeners.map Listener.id).subset registered
    rw [untilNews_append]
    split
    · rw [read_late first.layers]
      exact second.lasting registered
    · next silent =>
      have lasting := second.lasting registered
      rw [observer.untilNews_of_silent (by simpa using silent), Store.replay_nil] at lasting
      exact Value.not_differs_trans (first.lasting heard) lasting
  current isOrdered := by
    rw [isCurrent_append, isCurrent_congr observer first.layers]
    exact ⟨first.current isOrdered, second.current isOrdered⟩

/-- A write that everybody is told of makes up for the change of the key. -/
theorem announced (layers : (before.replay observer.place early).layers = middle.layers)
    (listeners : middle.listeners = before.listeners)
    (silent : early.any observer.isNews = false) (restores : middle.Restores observer.key)
    (second : observer.Follows ordered middle late after)
    (told : observer.id ∈ after.heardBy → late.any observer.isNews = true) :
    observer.Follows ordered before (early ++ late) after where
  layers := by
    rw [Store.replay_append, Store.layers_replay_congr layers, second.layers]
  listeners := listeners ▸ second.listeners
  restores _ := second.restores restores
  lasting registered := by
    rw [untilNews_append, if_pos (told registered), read_late layers]
    exact second.lasting registered
  current isOrdered := by
    rw [isCurrent_append, isCurrent_congr observer layers]
    exact ⟨observer.isCurrent_of_silent silent, second.current isOrdered⟩

end Follows

/-- What a run needs of the store at its beginning: listeners write nothing but the key, and the
overrides can be copied. -/
structure Suits (observer : Observer) (ordered : Prop) (store : Store) : Prop where
  writes : ∀ listener ∈ store.listeners, listener.WritesOnly observer.place observer.key
  copyable : store.IsCopyable
  ordered : ordered → observer.ComesFirst store.listeners

/-- What writes of listeners need besides: the key can be taken back. -/
structure SuitsInside (observer : Observer) (ordered : Prop) (store : Store) : Prop
    extends Suits observer ordered store where
  restores : store.Restores observer.key

theorem Suits.put (suits : observer.Suits ordered before) (value : Value) :
    observer.Suits ordered (before.put observer.key value) where
  writes := by
    rw [Store.listeners_put]
    exact suits.writes
  copyable := suits.copyable.put observer.key value
  ordered := by
    rw [Store.listeners_put]
    exact suits.ordered

theorem SuitsInside.follows (suits : observer.SuitsInside ordered before)
    (follows : observer.Follows ordered before early after) :
    observer.SuitsInside ordered after where
  writes listener member := suits.writes listener (follows.listeners.subset member)
  copyable := by
    have copyable : (before.replay observer.place early).IsCopyable := suits.copyable.replay early
    rwa [Store.IsCopyable, follows.layers] at copyable
  ordered isOrdered := (suits.ordered isOrdered).sublist follows.listeners
  restores := follows.restores suits.restores

end Observer

namespace Occasion

variable (occasion : Occasion)

/-- Whether any failure of a listener can be logged. -/
def LogsAll : Prop := ∀ change failure,
  occasion.refusal (Stores.listenerFailed occasion.context change failure) = none

variable {occasion}

theorem LogsAll.refusedAfter (all : occasion.LogsAll) (change : Change)
    (outcome : Except Failure Unit) : occasion.refusedAfter change outcome = none := by
  cases outcome with
  | ok _ => rfl
  | error failure => exact all change failure

end Occasion

namespace Stores

open Observer

variable {occasion : Occasion} {observer : Observer} {ordered : Prop}

def asked : Change := ⟨"a", .null, .int 1, "echoing", Store.systemActor⟩

def answered : Change := ⟨"a", .int 1, .int 2, "echoing", "replier"⟩

end Stores

end StorageLayout
