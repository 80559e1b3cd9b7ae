import StorageLayout.Proofs.Config.Announcement
import StorageLayout.Proofs.Config.Reporting
import StorageLayout.Proofs.Config.Subscriptions

/-! Rounds of telling listeners that write nothing. Whatever they cancel, and however they fail, a
round tells each listener that was there at its beginning once and in order. The one thing that ends
a round early is a failure of a listener that cannot be logged: then the write fails, although it is
not taken back, and the listeners behind are told nothing. -/

namespace StorageLayout

namespace Value

theorem agrees_of_isNan {value : Value} (nan : value.isNan = true) (other : Value) :
    value.agrees other = false := by
  cases value with
  | float number =>
    cases number with
    | nan => cases other <;> simp [agrees, sameNumber, Binary64.sameValue, Binary64.sameInt,
        Binary64.toRatio?, integer?]
    | infinite negative => cases nan
    | finite negative significand exponent => cases nan
  | _ => cases nan

theorem agrees_of_changed {shared : Bool} {old new : Value}
    (changed : changed shared old new = true) : old.agrees new = false := by
  unfold Value.changed at changed
  split at changed
  · exact agrees_of_isNan changed new
  · simpa using changed

theorem shared_or_agrees_of_unchanged {shared : Bool} {old new : Value}
    (unchanged : changed shared old new = false) : shared = true ∨ old.agrees new = true := by
  unfold changed at unchanged
  split at unchanged
  · next both => exact .inl both
  · exact .inr (by simpa using unchanged)

end Value

def Listener.NeverWrites (listener : Listener) : Prop :=
  ∀ change key value, .assign key value ∉ listener.react change

def Emission.told? : Emission → Option (ListenerId × Change)
  | .notified listener change => some (listener, change)
  | .record _ | .deprecation _ | .query _ _ | .strictMode _ | .written _ _ _ => none

namespace Occasion

variable (occasion : Occasion)

/-- What reactions that write nothing fail with, if they fail. -/
def failing? : List Reaction → Option Failure
  | [] => none
  | .fail failure :: _ => some failure
  | .cancel client :: rest =>
    match occasion.subscriptions.get? client with
    | none => some (.notSubscribed client)
    | some _ => failing? rest
  | _ :: rest => failing? rest

/-- Who is cancelled by reactions in the store at a place, up to the first failure. -/
def cancelled (place : Nat) : List Reaction → List ListenerId
  | [] => []
  | .fail _ :: _ => []
  | .cancel client :: rest =>
    match occasion.subscriptions.get? client with
    | none => []
    | some home =>
      if home = place then .client client :: cancelled place rest else cancelled place rest
  | _ :: rest => cancelled place rest

/-- What is logged about a listener whose reactions ended in a certain way. -/
def complaint (change : Change) : Except Failure Unit → List Emission
  | .ok _ => []
  | .error failure => [.record (Stores.listenerFailed occasion.context change failure)]

/-- Why this cannot be logged, if it cannot. -/
def refusedAfter (change : Change) : Except Failure Unit → Option Failure
  | .ok _ => none
  | .error failure => occasion.refusal (Stores.listenerFailed occasion.context change failure)

def refused? (change : Change) (listener : Listener) : Option Failure :=
  occasion.refusedAfter change ((occasion.failing? (listener.react change)).elim (.ok ()) .error)

/-- The listeners that a round reaches: up to the first one whose failure cannot be logged. -/
def reached (change : Change) : List Listener → List Listener
  | [] => []
  | listener :: rest =>
    listener :: if (occasion.refused? change listener).isSome then [] else reached change rest

def cancelledBy (place : Nat) (change : Change) (listeners : List Listener) : List ListenerId :=
  listeners.flatMap fun listener => occasion.cancelled place (listener.react change)

theorem reached_sublist (change : Change) (listeners : List Listener) :
    (occasion.reached change listeners).Sublist listeners := by
  induction listeners with
  | nil => exact List.Sublist.refl _
  | cons listener rest ih =>
    rw [reached]
    split
    · exact (List.nil_sublist rest).cons_cons listener
    · exact ih.cons_cons listener

theorem reached_eq_self {change : Change} {listeners : List Listener}
    (logged : ∀ listener ∈ listeners, occasion.refused? change listener = none) :
    occasion.reached change listeners = listeners := by
  induction listeners with
  | nil => rfl
  | cons listener rest ih =>
    obtain ⟨first, later⟩ := List.forall_mem_cons.mp logged
    rw [reached, first, Option.isSome_none, if_neg Bool.false_ne_true, ih later]

end Occasion

namespace Store

/-- A store with subscriptions cancelled one after the other. -/
def without (store : Store) (gone : List ListenerId) : Store := gone.foldl unsubscribe store

section

variable (store : Store)

@[simp] theorem without_nil : store.without [] = store := rfl

@[simp] theorem without_cons (id : ListenerId) (gone : List ListenerId) :
    store.without (id :: gone) = (store.unsubscribe id).without gone := rfl

theorem without_append (gone further : List ListenerId) :
    store.without (gone ++ further) = (store.without gone).without further :=
  List.foldl_append

@[simp] theorem layers_without (gone : List ListenerId) :
    (store.without gone).layers = store.layers := by
  induction gone generalizing store with
  | nil => rfl
  | cons id rest ih => exact ih (store.unsubscribe id)

theorem heardBy_without (gone : List ListenerId) :
    (store.without gone).heardBy = store.heardBy.diff gone := by
  induction gone generalizing store with
  | nil => simp
  | cons id rest ih => rw [without_cons, ih, heardBy_unsubscribe, List.diff_cons]

theorem listeners_without (gone : List ListenerId) :
    (store.without gone).listeners.Sublist store.listeners := by
  induction gone generalizing store with
  | nil => exact List.Sublist.refl _
  | cons id rest ih => exact (ih (store.unsubscribe id)).trans List.eraseP_sublist

end

theorem read_discard {entries left : Table Value} {text : String}
    (discarded : Layer.discard entries text = .ok left) :
    left = entries ∨ ((Value.object left).read text).isNull = true := by
  obtain ⟨key, parsed, removed⟩ := Layer.discard_eq_ok.mp discarded
  cases gone : (Value.object entries).delete? key true with
  | none =>
    rw [gone, Option.getD_none] at removed
    cases removed
    exact .inl rfl
  | some rest =>
    rw [gone, Option.getD_some] at removed
    subst removed
    have nothing : (Value.object left).get? key = none := Value.at?_deleteAt_same gone
    right
    rw [Value.read_eq _ parsed, nothing]
    rfl

section

variable {process : Environment} {store : Store} {target : Nat} {entries written : Table Value}
  {text : String} {value : Value}

/-- A write that counts as none has left the key as it was, or made it read as something equal. -/
theorem not_differs_of_unchanged (here : store.layers[target]? = some (.overrides entries))
    (wrote : Layer.writeOverride entries text value = .ok written)
    (unchanged : readChanged target (!value.isNull) (find? process text 0 store.layers)
      (find? process text 0 (store.withLayer target (.overrides written)).layers) = false) :
    ¬ Value.Differs (store.get process text)
      ((store.withLayer target (.overrides written)).get process text) := by
  rw [Value.not_differs_iff]
  rcases Value.shared_or_agrees_of_unchanged unchanged with shared | agrees
  · left
    split at shared
    · next oldPlace old newPlace new foundOld foundNew =>
      rw [Bool.and_eq_true, decide_eq_true_eq, Bool.or_eq_true, decide_eq_true_eq] at shared
      obtain ⟨rfl, elsewhere⟩ := shared
      obtain ⟨layer, there, rfl⟩ := find?_layer foundOld
      obtain ⟨after, thereAfter, rfl⟩ := find?_layer foundNew
      rw [Nat.sub_zero] at there
      rw [Nat.sub_zero, withLayer] at thereAfter
      rw [get, get, foundOld, foundNew]
      by_cases same : oldPlace = target
      · subst same
        have removed : value.isNull = true := by simpa using elsewhere
        obtain rfl := Option.some.inj (here.symm.trans there)
        rw [List.getElem?_set_self (List.getElem?_eq_some_iff.mp here).1] at thereAfter
        obtain rfl := Option.some.inj thereAfter
        rw [Layer.writeOverride_null removed] at wrote
        rcases read_discard wrote with rfl | gone
        · rfl
        · have present := (find?_spec foundNew).2.2
          rw [Layer.get, gone] at present
          cases present
      · rw [List.getElem?_set_ne (Ne.symm same), there] at thereAfter
        rw [Option.some.inj thereAfter]
    · cases shared
  · exact .inr agrees

end

end Store

theorem Notice.foldl_follow_silent (notice : Notice) {trail : List Emission}
    (silent : ∀ emission ∈ trail, ∃ on, emission = .strictMode on) :
    trail.foldl Notice.follow notice = notice := by
  induction trail with
  | nil => rfl
  | cons emission rest ih =>
    obtain ⟨⟨on, rfl⟩, later⟩ := List.forall_mem_cons.mp silent
    exact ih later

namespace Stores

theorem told?_silent {trail : List Emission}
    (silent : ∀ emission ∈ trail, ∃ on, emission = .strictMode on) :
    trail.filterMap Emission.told? = [] := by
  rw [List.filterMap_eq_nil_iff]
  intro emission member
  obtain ⟨on, rfl⟩ := silent emission member
  rfl

section

variable (occasion : Occasion) (write : Writer)

/-- Reactions that write nothing cancel subscriptions and tell nobody. -/
theorem perform_of_noWrite (listener : Listener) {reactions : List Reaction}
    (none_ : ∀ key value, .assign key value ∉ reactions) (stores : Stores) :
    (perform occasion write listener stores reactions).2.outcome =
        (occasion.failing? reactions).elim (.ok ()) .error ∧
      (∀ emission ∈ (perform occasion write listener stores reactions).2.trail,
        ∃ on, emission = .strictMode on) ∧
      ∀ place : Nat, (perform occasion write listener stores reactions).1[place]? =
        stores[place]?.map fun store : Store =>
          store.without (occasion.cancelled place reactions) := by
  induction reactions generalizing stores with
  | nil => exact ⟨rfl, by simp [perform, Traced.done], by simp [perform, Occasion.cancelled]⟩
  | cons reaction rest ih =>
    have later : ∀ key value, .assign key value ∉ rest := fun key value member =>
      none_ key value (List.mem_cons_of_mem _ member)
    cases reaction with
    | fail failure =>
      exact ⟨rfl, by simp [perform, Traced.fail], by simp [perform, Occasion.cancelled]⟩
    | assign key value => exact absurd List.mem_cons_self (none_ key value)
    | report key =>
      obtain ⟨outcome, silent, left⟩ := ih later stores
      refine ⟨outcome, ?_, left⟩
      intro emission member
      rcases List.mem_append.mp member with first | further
      · exact ⟨_, List.mem_singleton.mp first⟩
      · exact silent emission further
    | cancel client =>
      cases located : occasion.subscriptions.get? client with
      | none =>
        simp only [perform, located, Occasion.failing?, Occasion.cancelled]
        exact ⟨rfl, by simp [Traced.fail], by simp⟩
      | some home =>
        obtain ⟨outcome, silent, left⟩ :=
          ih later (stores.modify home fun store => store.unsubscribe (.client client))
        simp only [perform, located, Occasion.failing?, Occasion.cancelled]
        refine ⟨outcome, silent, fun place => ?_⟩
        rw [left place, List.getElem?_modify]
        cases stores[place]? with
        | none => rfl
        | some store => by_cases same : home = place <;> simp [same]

/-- A round tells its first listener, and goes on with the others unless what the listener failed
with cannot be logged. -/
theorem notify_cons (notice : Notice) (stores : Stores) (listener : Listener)
    (rest : List Listener) :
    notify occasion write notice stores (listener :: rest) =
      let made := perform occasion write listener stores (listener.react notice.change)
      let heard := .notified listener.id notice.change ::
        (made.2.trail ++ occasion.complaint notice.change made.2.outcome)
      let later := notify occasion write (made.2.trail.foldl Notice.follow notice) made.1 rest
      match occasion.refusedAfter notice.change made.2.outcome with
      | some refused => (made.1, ⟨.error refused, heard⟩)
      | none => (later.1, Traced.after heard later.2) := by
  rw [notify]
  dsimp only
  generalize perform occasion write listener stores (listener.react notice.change) = made
  cases made.2.outcome with
  | ok _ => simp only [Occasion.refusedAfter, Occasion.complaint, List.append_nil]
  | error failure =>
    cases refused : occasion.refusal (listenerFailed occasion.context notice.change failure) with
    | none => simp [Occasion.refusedAfter, Occasion.complaint, refused]
    | some problem => simp [Occasion.refusedAfter, Occasion.complaint, refused]

theorem told?_heard (listener : ListenerId) (change : Change) {trail : List Emission}
    (silent : ∀ emission ∈ trail, ∃ on, emission = .strictMode on)
    (outcome : Except Failure Unit) :
    (Emission.notified listener change ::
        (trail ++ occasion.complaint change outcome)).filterMap Emission.told? =
      [(listener, change)] := by
  have unheard : (occasion.complaint change outcome).filterMap Emission.told? = [] := by
    cases outcome <;> rfl
  simp [Emission.told?, told?_silent silent, unheard]

/-- A round of telling listeners that write nothing: each of them that it reaches hears of the
change once, in order. -/
theorem notify_of_neverWrites {listeners : List Listener}
    (quiet : ∀ listener ∈ listeners, listener.NeverWrites) (notice : Notice) (stores : Stores) :
    (notify occasion write notice stores listeners).2.trail.filterMap Emission.told? =
        (occasion.reached notice.change listeners).map (fun told => (told.id, notice.change)) ∧
      (notify occasion write notice stores listeners).2.outcome =
        (listeners.findSome? (occasion.refused? notice.change)).elim (.ok ()) .error ∧
      ∀ place : Nat, (notify occasion write notice stores listeners).1[place]? =
        stores[place]?.map fun store : Store => store.without
          (occasion.cancelledBy place notice.change
            (occasion.reached notice.change listeners)) := by
  induction listeners generalizing stores with
  | nil => simp [notify, Traced.done, Occasion.reached, Occasion.cancelledBy]
  | cons listener rest ih =>
    obtain ⟨first, later⟩ := List.forall_mem_cons.mp quiet
    obtain ⟨outcome, silent, left⟩ :=
      perform_of_noWrite occasion write listener (first notice.change) stores
    have heard := told?_heard occasion listener.id notice.change silent
      (perform occasion write listener stores (listener.react notice.change)).2.outcome
    have refuses : occasion.refusedAfter notice.change
        (perform occasion write listener stores (listener.react notice.change)).2.outcome =
          occasion.refused? notice.change listener := by rw [outcome, Occasion.refused?]
    rw [notify_cons]
    dsimp only
    rw [refuses, Notice.foldl_follow_silent notice silent, Occasion.reached, List.findSome?_cons]
    cases refused : occasion.refused? notice.change listener with
    | some failure =>
      refine ⟨heard, rfl, fun place => ?_⟩
      rw [left place]
      simp [Occasion.cancelledBy]
    | none =>
      obtain ⟨told, ended, gone⟩ := ih later
        (perform occasion write listener stores (listener.react notice.change)).1
      refine ⟨?_, ended, fun place => ?_⟩
      · rw [Traced.after, List.filterMap_append, heard, told]
        rfl
      · rw [gone, left, Option.map_map]
        simp [Occasion.cancelledBy, Function.comp_def, Store.without_append]

end

/-- A write of a key of one store, with what surrounds it. -/
structure Put where
  occasion : Occasion
  key : String
  value : Value
  actor : String

namespace Put

variable (put : Put) (place : Nat)

def apply (stores : Stores) : Stores × Traced Unit :=
  write put.occasion stores place put.key put.value put.actor

def read (store : Store) : Value := store.get put.occasion.environment put.key

/-- The change that listeners hear of. -/
def change (before after : Store) : Change where
  key := put.key
  old := put.read before
  new := put.read after
  space := before.space
  actor := put.actor

/-- A write that nobody hears of: it failed, or its key reads as it did. -/
structure Unheard (before after : Store) (result : Traced Unit) : Prop where
  told : result.trail.filterMap Emission.told? = []
  listeners : after.listeners = before.listeners
  reason : (∃ failure, result.outcome = .error failure) ∨
    result.outcome = .ok () ∧ ¬ Value.Differs (put.read before) (put.read after)

/-- A write that made its key read as something else, of which all listeners heard once and in
order, up to the first one whose failure could not be logged. What they did afterwards changed
nothing but who listens. -/
structure Heard (before after : Store) (result : Traced Unit) : Prop where
  differs : (put.read before).agrees (put.read after) = false
  layers : ∃ target layer, before.overrideLayer? = some (target, layer) ∧
    (before.writeLayer put.occasion.environment target layer put.key put.value).outcome =
      .ok () ∧
    after.layers =
      (before.writeLayer put.occasion.environment target layer put.key put.value).store.layers
  told : result.trail.filterMap Emission.told? =
    (put.occasion.reached (put.change before after) before.listeners).map fun listener =>
      (listener.id, put.change before after)
  outcome : result.outcome =
    (before.listeners.findSome? (put.occasion.refused? (put.change before after))).elim
      (.ok ()) .error
  left : after.listeners.Sublist before.listeners
  cancelled : after.heardBy = before.heardBy.diff
    (put.occasion.cancelledBy place (put.change before after)
      (put.occasion.reached (put.change before after) before.listeners))

end Put

def putAll (place : Nat) (stores : Stores) (puts : List Put) : Stores :=
  puts.foldl (fun stores put => (put.apply place stores).1) stores

/-- A write to a store whose listeners write nothing is heard by nobody, or by everybody once. -/
theorem put_cases {stores : Stores} {place : Nat} {before : Store}
    (here : stores[place]? = some before)
    (quiet : ∀ listener ∈ before.listeners, listener.NeverWrites) (put : Put) :
    ∃ after, (put.apply place stores).1[place]? = some after ∧
      (put.Unheard before after (put.apply place stores).2 ∨
        put.Heard place before after (put.apply place stores).2) := by
  have inside : place < stores.length := (List.getElem?_eq_some_iff.mp here).1
  have silent (values : List Value) :
      (values.map (Emission.written place put.key)).filterMap Emission.told? = [] := by
    simp [List.filterMap_map, Function.comp_def, Emission.told?]
  cases top : before.overrideLayer? with
  | none =>
    have failed : put.apply place stores = (stores, .fail (.noOverrides before.space)) := by
      rw [Put.apply, write, writeNested]
      simp only [here, top]
    rw [failed]
    exact ⟨before, here, .inl ⟨rfl, rfl, .inl ⟨_, rfl⟩⟩⟩
  | some found =>
    obtain ⟨target, layer⟩ := found
    obtain ⟨there, entries, rfl⟩ := Store.overrideLayer?_eq_some top
    have result := result_write put.occasion here top put.key put.value put.actor
    rw [Put.apply]
    generalize write put.occasion stores place put.key put.value put.actor = came at result ⊢
    cases result with
    | refused failed =>
      have listeners := before.listeners_writeLayer put.occasion.environment target
        (.overrides entries) put.key put.value
      exact ⟨_, List.getElem?_set_self inside, .inl ⟨silent _, listeners, .inl ⟨_, rfl⟩⟩⟩
    | unannounced wrote stays unchanged =>
      refine ⟨_, List.getElem?_set_self inside, .inl ⟨silent [_], rfl, .inr ⟨rfl, ?_⟩⟩⟩
      exact Store.not_differs_of_unchanged there wrote unchanged
    | @announced written notice wrote stays change changed =>
      let after := before.withLayer target (.overrides written)
      obtain ⟨told, ended, left⟩ := notify_of_neverWrites put.occasion
        (writeNested put.occasion put.occasion.depth) quiet notice (stores.set place after)
      have found := left place
      rw [List.getElem?_set_self inside, Option.map_some] at found
      have reads (gone : List ListenerId) : put.read (after.without gone) = put.read after :=
        Store.get_congr (after.layers_without gone)
      have announced (gone : List ListenerId) :
          put.change before (after.without gone) = notice.change := by
        rw [Put.change, reads, change]
        rfl
      refine ⟨_, found, .inr ⟨?_, ?_, ?_, ?_, ?_, ?_⟩⟩
      · rw [reads]
        exact Value.agrees_of_changed changed
      · exact ⟨target, .overrides entries, top, by rw [stays],
          by rw [stays, Store.layers_without]⟩
      · rw [announced, Traced.after, List.filterMap_append]
        exact told
      · rw [announced]
        exact ended
      · exact Store.listeners_without _ _
      · rw [announced]
        exact Store.heardBy_without _ _

/-- Writes only ever take listeners away. -/
theorem putAll_listeners {stores : Stores} {place : Nat} {store : Store}
    (here : stores[place]? = some store)
    (quiet : ∀ listener ∈ store.listeners, listener.NeverWrites) (puts : List Put) :
    ∃ after, (putAll place stores puts)[place]? = some after ∧
      after.listeners.Sublist store.listeners := by
  induction puts generalizing stores store with
  | nil => exact ⟨store, here, List.Sublist.refl _⟩
  | cons put rest ih =>
    obtain ⟨after, found, outcome⟩ := put_cases here quiet put
    have fewer : after.listeners.Sublist store.listeners := by
      rcases outcome with unheard | heard
      · rw [unheard.listeners]
      · exact heard.left
    obtain ⟨last, reached, further⟩ := ih found fun listener member =>
      quiet listener (fewer.subset member)
    exact ⟨last, reached, further.trans fewer⟩

/-- What a write tells goes to those who listened before it, in order and no more often. -/
theorem told_sublist {stores : Stores} {place : Nat} {before : Store}
    (here : stores[place]? = some before)
    (quiet : ∀ listener ∈ before.listeners, listener.NeverWrites) (put : Put) :
    (((put.apply place stores).2.trail.filterMap Emission.told?).map Prod.fst).Sublist
      before.heardBy := by
  obtain ⟨after, -, unheard | heard⟩ := put_cases here quiet put
  · rw [unheard.told]
    exact List.nil_sublist _
  · rw [heard.told, List.map_map]
    exact (put.occasion.reached_sublist _ _).map Listener.id

/-- A write to a store whose listeners write nothing, after any other writes to it: it fails or
leaves its key as it was, and nobody is told; or each listener that earlier writes left is told of
the same change once and in order, whatever the others cancel and however they fail, and the value
stays written. Whoever is cancelled meanwhile hears nothing of later writes. This write fails
exactly if what a listener failed with cannot be logged, and then the listeners behind it are told
nothing. -/
theorem write_tells_each_once {stores : Stores} {place : Nat} {store : Store}
    (here : stores[place]? = some store)
    (quiet : ∀ listener ∈ store.listeners, listener.NeverWrites) (earlier : List Put)
    (put : Put) :
    ∃ before after, (putAll place stores earlier)[place]? = some before ∧
      before.listeners.Sublist store.listeners ∧
      (put.apply place (putAll place stores earlier)).1[place]? = some after ∧
      (put.Unheard before after (put.apply place (putAll place stores earlier)).2 ∨
        put.Heard place before after (put.apply place (putAll place stores earlier)).2 ∧
        ((∀ listener ∈ before.listeners,
            put.occasion.refused? (put.change before after) listener = none) →
          (put.apply place (putAll place stores earlier)).2.outcome = .ok () ∧
          (put.apply place (putAll place stores earlier)).2.trail.filterMap Emission.told? =
            before.listeners.map fun listener => (listener.id, put.change before after))) ∧
      ∀ (later : List Put) (next : Put), (((next.apply place (putAll place stores
          (earlier ++ put :: later))).2.trail.filterMap Emission.told?).map Prod.fst).Sublist
        after.heardBy := by
  obtain ⟨before, there, fewer⟩ := putAll_listeners here quiet earlier
  have quietBefore : ∀ listener ∈ before.listeners, listener.NeverWrites :=
    fun listener member => quiet listener (fewer.subset member)
  obtain ⟨after, found, outcome⟩ := put_cases there quietBefore put
  refine ⟨before, after, there, fewer, found, outcome.imp_right fun heard => ⟨heard, ?_⟩, ?_⟩
  · intro logged
    rw [heard.outcome, heard.told, put.occasion.reached_eq_self logged,
      List.findSome?_eq_none_iff.mpr logged]
    exact ⟨rfl, rfl⟩
  · intro later next
    have left : after.listeners.Sublist before.listeners := by
      rcases outcome with unheard | heard
      · rw [unheard.listeners]
      · exact heard.left
    have quietAfter : ∀ listener ∈ after.listeners, listener.NeverWrites :=
      fun listener member => quietBefore listener (left.subset member)
    obtain ⟨last, reached, further⟩ := putAll_listeners found quietAfter later
    have split : putAll place stores (earlier ++ put :: later) =
        putAll place (put.apply place (putAll place stores earlier)).1 later := by
      simp only [putAll, List.foldl_append, List.foldl_cons]
    rw [split]
    exact (told_sublist reached (fun listener member =>
      quietAfter listener (further.subset member)) next).trans (further.map Listener.id)

/-- A store with two listeners, the first of which always fails. -/
def complaining : Store where
  space := "complaining"
  validator := none
  layers := [.overrides []]
  listeners := [⟨.client "first", 0, fun _ => [.fail (.raised .runtime "boom")]⟩,
    ⟨.client "second", 0, fun _ => []⟩]

/-- A write where nothing can be logged. -/
def mutePut : Put where
  occasion := ⟨[], none, [], fun _ => some (.number .tooLarge), 0⟩
  key := "a"
  value := .int 1
  actor := Store.systemActor

/-- Where nothing can be logged the first listener hears of a write, the second does not, and the
write fails although its value stays. -/
theorem write_tells_each_once_unlogged :
    (∀ listener ∈ complaining.listeners, listener.NeverWrites) ∧
      (mutePut.apply 0 [complaining]).2.outcome = .error (.number .tooLarge) ∧
      ∃ before after, mutePut.Heard 0 before after (mutePut.apply 0 [complaining]).2 ∧
        after.get [] "a" = .int 1 ∧
        ((mutePut.apply 0 [complaining]).2.trail.filterMap Emission.told?).map Prod.fst =
          [.client "first"] := by
  have quiet : ∀ listener ∈ complaining.listeners, listener.NeverWrites := by
    intro listener member change key value
    rcases List.mem_pair.mp member with rfl | rfl <;> simp
  refine ⟨quiet, rfl, ?_⟩
  have here : [complaining][0]? = some complaining := rfl
  obtain ⟨before, after, -, -, found, unheard | ⟨heard, -⟩, -⟩ :=
    write_tells_each_once here quiet [] mutePut
  · cases unheard.told
  · obtain rfl := Option.some.inj found
    exact ⟨before, _, heard, rfl, rfl⟩

end Stores

end StorageLayout
