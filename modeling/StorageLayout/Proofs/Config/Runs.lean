import Mathlib.Data.List.Forall2
import StorageLayout.Config.Stores
import StorageLayout.Proofs.Config.Overrides

namespace StorageLayout

section

variable {α : Type} {related : α → α → Prop}

private theorem forall₂_set_self {values : List α} {index : Nat} {old new : α}
    (refl : ∀ value, related value value) (found : values[index]? = some old)
    (step : related old new) : List.Forall₂ related values (values.set index new) := by
  induction values generalizing index with
  | nil => cases found
  | cons value rest ih =>
    cases index with
    | zero =>
      obtain rfl := Option.some.inj found
      exact .cons step (List.forall₂_same.mpr fun other _ => refl other)
    | succ index => exact .cons (refl value) (ih found)

private theorem forall₂_modify_self (values : List α) (index : Nat) {change : α → α}
    (refl : ∀ value, related value value) (step : ∀ value, related value (change value)) :
    List.Forall₂ related values (values.modify index change) := by
  induction values generalizing index with
  | nil => simp
  | cons value rest ih =>
    cases index with
    | zero => exact .cons (step value) (List.forall₂_same.mpr fun other _ => refl other)
    | succ index => exact .cons (refl value) (ih index)

private theorem forall₂_trans
    (trans : ∀ first second third, related first second → related second third →
      related first third) {first second third : List α}
    (left : List.Forall₂ related first second) (right : List.Forall₂ related second third) :
    List.Forall₂ related first third := by
  induction left generalizing third with
  | nil => exact right
  | cons head _ ih =>
    cases right with
    | cons headRight rest => exact .cons (trans _ _ _ head headRight) (ih rest)

end

namespace Layer

/-- A layer before and after writes to its store: overrides are still overrides, and can be copied if
they could be before; any other layer stays as it was. -/
inductive Rewritten : Layer → Layer → Prop where
  | same (layer : Layer) : Rewritten layer layer
  | overrides {before after : Table Value}
      (copyable : (Value.object before).isCopyable = true → (Value.object after).isCopyable = true) :
      Rewritten (overrides before) (overrides after)

theorem Rewritten.trans {first second third : Layer} (left : Rewritten first second)
    (right : Rewritten second third) : Rewritten first third := by
  cases left with
  | same => exact right
  | overrides copyable =>
    cases right with
    | same => exact .overrides copyable
    | overrides further => exact .overrides (further ∘ copyable)

theorem set_eq_ok {layer written : Layer} {text : String} {value : Value} :
    layer.set text value = .ok written ↔
      ∃ entries left, layer = overrides entries ∧ writeOverride entries text value = .ok left ∧
        written = overrides left := by
  cases layer with
  | overrides entries =>
    rw [set]
    cases wrote : writeOverride entries text value <;> simp [Except.map, wrote, eq_comm]
  | _ => simp [set]

theorem rewritten_of_set {layer written : Layer} {text : String} {value : Value}
    (wrote : layer.set text value = .ok written) : Rewritten layer written := by
  obtain ⟨entries, left, rfl, wroteEntries, rfl⟩ := set_eq_ok.mp wrote
  exact .overrides fun copyable => isCopyable_writeOverride copyable wroteEntries

end Layer

namespace Store

/-- A store before and after writes. -/
structure Rewritten (before after : Store) : Prop where
  space : after.space = before.space
  validator : after.validator = before.validator
  layers : List.Forall₂ Layer.Rewritten before.layers after.layers

theorem Rewritten.refl (store : Store) : Rewritten store store :=
  ⟨rfl, rfl, List.forall₂_same.mpr fun layer _ => .same layer⟩

theorem Rewritten.trans {first second third : Store} (left : Rewritten first second)
    (right : Rewritten second third) : Rewritten first third :=
  ⟨right.space.trans left.space, right.validator.trans left.validator,
    forall₂_trans (fun _ _ _ => .trans) left.layers right.layers⟩

theorem rewritten_subscribe (store : Store) (listener : Listener) :
    Rewritten store (store.subscribe listener) :=
  ⟨rfl, rfl, (Rewritten.refl store).layers⟩

theorem rewritten_unsubscribe (store : Store) (id : ListenerId) :
    Rewritten store (store.unsubscribe id) :=
  ⟨rfl, rfl, (Rewritten.refl store).layers⟩

theorem overrideLayer?_eq_some {store : Store} {target : Nat} {layer : Layer}
    (top : store.overrideLayer? = some (target, layer)) :
    store.layers[target]? = some layer ∧ ∃ entries, layer = .overrides entries := by
  unfold overrideLayer? at top
  obtain ⟨⟨found, index⟩, first, swapped⟩ := Option.map_eq_some_iff.mp top
  cases swapped
  have member := List.mem_reverse.mp (List.mem_of_find?_eq_some first)
  have isOverrides : found.isOverrides = true := by simpa using List.find?_some first
  refine ⟨by simpa [List.mem_zipIdx_iff_getElem?] using member, ?_⟩
  cases found with
  | overrides entries => exact ⟨entries, rfl⟩
  | _ => cases isOverrides

theorem rewritten_writeLayer (process : Environment) {store : Store} {target : Nat} {layer : Layer}
    (here : store.layers[target]? = some layer) (text : String) (value : Value) :
    Rewritten store (store.writeLayer process target layer text value).store := by
  have withLayer {after : Layer} (step : Layer.Rewritten layer after) :
      Rewritten store (store.withLayer target after) :=
    ⟨rfl, rfl, forall₂_set_self Layer.Rewritten.same here step⟩
  unfold writeLayer
  split
  · exact .refl store
  · next written wrote =>
    have first := Layer.rewritten_of_set wrote
    split
    · exact withLayer first
    · dsimp only
      split
      · next restored putBack => exact withLayer (first.trans (Layer.rewritten_of_set putBack))
      · exact withLayer first

end Store

namespace Stores

section

variable {occasion : Occasion} {allowed : Emission → Prop} {related : Stores → Stores → Prop}
  {write : Writer}

/-- A relation between stores that holds across both steps that runs are made of, as long as only
allowed values are put in overrides. -/
structure HoldsAcross (process : Environment) (allowed : Emission → Prop)
    (related : Stores → Stores → Prop) : Prop where
  refl : ∀ stores, related stores stores
  trans : ∀ {first second third}, related first second → related second third →
    related first third
  cancel : ∀ stores place id,
    related stores (stores.modify place fun store => store.unsubscribe id)
  put : ∀ {stores : Stores} {place : Nat} {store : Store} {target : Nat} {layer : Layer}
    (text : String) (value : Value), stores[place]? = some store →
    store.overrideLayer? = some (target, layer) →
    (∀ put ∈ (store.writeLayer process target layer text value).values,
      allowed (.written place text put)) →
    related stores (stores.set place (store.writeLayer process target layer text value).store)

/-- Whether a writer leaves related stores if all that it sends out is allowed. -/
def Keeps (allowed : Emission → Prop) (related : Stores → Stores → Prop) (write : Writer) : Prop :=
  ∀ stores place text value actor,
    (∀ emission ∈ (write stores place text value actor).2.trail, allowed emission) →
      related stores (write stores place text value actor).1

theorem HoldsAcross.perform (holds : HoldsAcross occasion.environment allowed related)
    (writes : Keeps allowed related write) (listener : Listener) (stores : Stores)
    (reactions : List Reaction)
    (sent : ∀ emission ∈ (perform occasion write listener stores reactions).2.trail,
      allowed emission) :
    related stores (perform occasion write listener stores reactions).1 := by
  induction reactions generalizing stores with
  | nil => exact holds.refl stores
  | cons reaction rest ih =>
    cases reaction with
    | fail failure => exact holds.refl stores
    | report key =>
      apply ih
      intro emission member
      exact sent emission (List.mem_append_right _ member)
    | cancel client =>
      rw [Stores.perform] at sent ⊢
      split
      · exact holds.refl stores
      · next place home =>
        simp only [home] at sent
        exact holds.trans (holds.cancel stores _ _) (ih _ sent)
    | assign key value =>
      rw [Stores.perform] at sent ⊢
      split
      · next same =>
        rw [if_pos same] at sent
        exact ih stores sent
      · next differs =>
        rw [if_neg differs] at sent
        have first := writes stores listener.home key value (actorOf listener.id)
        dsimp only at sent ⊢
        split
        · next failure failed =>
          simp only [failed] at sent
          exact first sent
        · next done ok =>
          simp only [ok] at sent
          have firstSent := first fun emission member =>
            sent emission (List.mem_append_left _ member)
          exact holds.trans firstSent (ih _ fun emission member =>
            sent emission (List.mem_append_right _ member))

theorem HoldsAcross.notify (holds : HoldsAcross occasion.environment allowed related)
    (writes : Keeps allowed related write) (notice : Notice) (stores : Stores)
    (listeners : List Listener)
    (sent : ∀ emission ∈ (notify occasion write notice stores listeners).2.trail,
      allowed emission) :
    related stores (notify occasion write notice stores listeners).1 := by
  induction listeners generalizing notice stores with
  | nil => exact holds.refl stores
  | cons listener rest ih =>
    have first := holds.perform writes listener stores (listener.react notice.change)
    rw [Stores.notify] at sent ⊢
    dsimp only at sent ⊢
    split
    · next done ok =>
      simp only [ok] at sent
      have firstSent := first fun emission member => sent emission
        (List.mem_append_left _ (List.mem_cons_of_mem _ member))
      exact holds.trans firstSent (ih _ _ fun emission member =>
        sent emission (List.mem_append_right _ member))
    · next failure failed =>
      simp only [failed] at sent
      split
      · next refused unlogged =>
        simp only [unlogged] at sent
        exact first fun emission member => sent emission
          (List.mem_append_left _ (List.mem_cons_of_mem _ member))
      · next logged =>
        simp only [logged] at sent
        have firstSent := first fun emission member => sent emission (List.mem_append_left _
          (List.mem_append_left _ (List.mem_cons_of_mem _ member)))
        exact holds.trans firstSent (ih _ _ fun emission member =>
          sent emission (List.mem_append_right _ member))

theorem HoldsAcross.writeNested (holds : HoldsAcross occasion.environment allowed related)
    (depth : Nat) : Keeps allowed related (writeNested occasion depth) := by
  induction depth with
  | zero =>
    intro stores place text value actor sent
    exact holds.refl stores
  | succ depth ih =>
    intro stores place text value actor sent
    rw [Stores.writeNested] at sent ⊢
    dsimp only at sent ⊢
    split
    · exact holds.refl stores
    · next store here =>
      simp only [here] at sent
      split
      · exact holds.refl stores
      · next target layer top =>
        simp only [top, writeOverrides] at sent
        have first := holds.put text value here top
        rw [writeOverrides]
        dsimp only at sent ⊢
        split
        · next failure failed =>
          simp only [failed] at sent
          exact first fun put member => sent _ (List.mem_map_of_mem member)
        · next done ok =>
          simp only [ok] at sent
          split
          · next changed =>
            rw [if_pos changed] at sent
            have firstSent := first fun put member =>
              sent _ (List.mem_append_left _ (List.mem_map_of_mem member))
            exact holds.trans firstSent (holds.notify ih _ _ _ fun emission member =>
              sent emission (List.mem_append_right _ member))
          · next unchanged =>
            rw [if_neg unchanged] at sent
            exact first fun put member => sent _ (List.mem_map_of_mem member)

end

def Carries (place : Nat) (related : Store → Store → Prop) (before after : Stores) : Prop :=
  ∀ old, before[place]? = some old → ∃ new, after[place]? = some new ∧ related old new

section

variable {place : Nat} {related : Store → Store → Prop}

theorem carries_modify (stores : Stores) (home : Nat) {change : Store → Store}
    (refl : ∀ store, related store store) (step : ∀ store, related store (change store)) :
    Carries place related stores (stores.modify home change) := by
  intro old here
  rw [List.getElem?_modify, here]
  by_cases same : home = place
  · exact ⟨change old, by simp [same], step old⟩
  · exact ⟨old, by simp [same], refl old⟩

/-- A relation between one store before and after that holds across a change of its listeners, and
across putting allowed values in its overrides. -/
structure HoldsOfStore (process : Environment) (allowed : Emission → Prop) (place : Nat)
    (related : Store → Store → Prop) : Prop where
  trans : ∀ {first second third}, related first second → related second third →
    related first third
  listeners : ∀ (store : Store) heard, related store { store with listeners := heard }
  put : ∀ {store : Store} {target : Nat} {layer : Layer} (text : String) (value : Value),
    store.overrideLayer? = some (target, layer) →
    (∀ put ∈ (store.writeLayer process target layer text value).values,
      allowed (.written place text put)) →
    related store (store.writeLayer process target layer text value).store

variable {process : Environment} {allowed : Emission → Prop}

theorem HoldsOfStore.refl (holds : HoldsOfStore process allowed place related) (store : Store) :
    related store store := holds.listeners store store.listeners

theorem HoldsOfStore.holdsAcross (holds : HoldsOfStore process allowed place related) :
    HoldsAcross process allowed (Carries place related) where
  refl stores old here := ⟨old, here, holds.refl old⟩
  trans first second old here := by
    obtain ⟨middle, between, early⟩ := first old here
    obtain ⟨last, reached, late⟩ := second middle between
    exact ⟨last, reached, holds.trans early late⟩
  cancel stores home id :=
    carries_modify stores home holds.refl fun store => holds.listeners store _
  put {stores home written target layer} text value found top sent old here := by
    by_cases same : home = place
    · subst same
      obtain rfl := Option.some.inj (found.symm.trans here)
      have inside : home < stores.length := (List.getElem?_eq_some_iff.mp here).1
      exact ⟨_, List.getElem?_set_self inside, holds.put text value top sent⟩
    · exact ⟨old, by rw [List.getElem?_set_ne same, here], holds.refl old⟩

end

def Rewritten (before after : Stores) : Prop := List.Forall₂ Store.Rewritten before after

theorem holdsAcross_rewritten (process : Environment) :
    HoldsAcross process (fun _ => True) Rewritten where
  refl _ := List.forall₂_same.mpr fun store _ => .refl store
  trans left right := forall₂_trans (fun _ _ _ => .trans) left right
  cancel stores place id := forall₂_modify_self stores place .refl fun store =>
    store.rewritten_unsubscribe id
  put text value here top _ :=
    forall₂_set_self .refl here
      (Store.rewritten_writeLayer process (Store.overrideLayer?_eq_some top).1 text value)

/-- Stores that come of others by writes, whatever surrounds them, and by subscribing and cancelling
in any order. -/
inductive Reached (start : Stores) : Stores → Prop where
  | start : Reached start start
  | write {stores : Stores} (reached : Reached start stores) (occasion : Occasion) (place : Nat)
      (text : String) (value : Value) (actor : String) :
      Reached start (Stores.write occasion stores place text value actor).1
  | subscribe {stores : Stores} (reached : Reached start stores) (place : Nat)
      (listener : Listener) :
      Reached start (stores.modify place fun store => store.subscribe listener)
  | unsubscribe {stores : Stores} (reached : Reached start stores) (place : Nat)
      (id : ListenerId) :
      Reached start (stores.modify place fun store => store.unsubscribe id)

/-- Stores that come of others in the same ways, while all writes take place in certain environments
and send out only what is allowed. -/
inductive ReachedIn (stable : Environment → Prop) (allowed : Emission → Prop) (start : Stores) :
    Stores → Prop where
  | start : ReachedIn stable allowed start start
  | write {stores : Stores} (reached : ReachedIn stable allowed start stores) (occasion : Occasion)
      (surrounded : stable occasion.environment) (place : Nat) (text : String) (value : Value)
      (actor : String)
      (sent : ∀ emission ∈ (Stores.write occasion stores place text value actor).2.trail,
        allowed emission) :
      ReachedIn stable allowed start (Stores.write occasion stores place text value actor).1
  | subscribe {stores : Stores} (reached : ReachedIn stable allowed start stores) (place : Nat)
      (listener : Listener) :
      ReachedIn stable allowed start (stores.modify place fun store => store.subscribe listener)
  | unsubscribe {stores : Stores} (reached : ReachedIn stable allowed start stores) (place : Nat)
      (id : ListenerId) :
      ReachedIn stable allowed start (stores.modify place fun store => store.unsubscribe id)

/-- What holds of one store in certain environments holds at the end of a run in them. -/
theorem ReachedIn.carries {stable : Environment → Prop} {allowed : Emission → Prop}
    {start stores : Stores} (reached : ReachedIn stable allowed start stores)
    {process : Environment} (surrounded : stable process) {place : Nat}
    {related : Store → Store → Prop}
    (holds : ∀ process, stable process → HoldsOfStore process allowed place related) :
    Carries place related start stores := by
  have kept := holds process surrounded
  induction reached with
  | start => exact kept.holdsAcross.refl start
  | write reached occasion surroundedThere home text value actor sent ih =>
    have across := (holds occasion.environment surroundedThere).holdsAcross
    exact across.trans ih (across.writeNested _ _ _ _ _ _ sent)
  | subscribe reached home listener ih =>
    exact kept.holdsAcross.trans ih
      (carries_modify _ home kept.refl fun store => kept.listeners store _)
  | unsubscribe reached home id ih =>
    exact kept.holdsAcross.trans ih
      (carries_modify _ home kept.refl fun store => kept.listeners store _)

theorem Reached.rewritten {start stores : Stores} (reached : Reached start stores) :
    Rewritten start stores := by
  induction reached with
  | start => exact (holdsAcross_rewritten []).refl start
  | write reached occasion place text value actor ih =>
    exact forall₂_trans (fun _ _ _ => .trans) ih
      ((holdsAcross_rewritten occasion.environment).writeNested _ _ _ _ _ _ fun _ _ => trivial)
  | subscribe reached place listener ih =>
    exact forall₂_trans (fun _ _ _ => .trans) ih
      (forall₂_modify_self _ place .refl fun store => store.rewritten_subscribe listener)
  | unsubscribe reached place id ih =>
    exact forall₂_trans (fun _ _ _ => .trans) ih
      (forall₂_modify_self _ place .refl fun store => store.rewritten_unsubscribe id)

theorem Reached.storeBefore {start stores : Stores} (reached : Reached start stores) {place : Nat}
    {store : Store} (here : stores[place]? = some store) :
    ∃ before, start[place]? = some before ∧ Store.Rewritten before store := by
  obtain ⟨inside, rfl⟩ := List.getElem?_eq_some_iff.mp here
  have rewritten := reached.rewritten
  have insideStart : place < start.length := rewritten.length_eq ▸ inside
  exact ⟨start[place], List.getElem?_eq_getElem insideStart,
    (List.forall₂_iff_get.mp rewritten).2 place insideStart inside⟩

end Stores

end StorageLayout
