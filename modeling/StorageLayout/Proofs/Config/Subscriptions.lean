import Mathlib.Data.List.Induction
import Mathlib.Data.List.Nodup
import StorageLayout.Config.Store

/-! Subscriptions and the functions that cancel them. A store keeps listeners, not subscriptions: a
call takes the first subscription of its listener away, whichever this is, and so may take another
one than its own. Main statement: the listeners are those of the subscriptions whose function was
not called, in order, exactly as long as each call finds its own subscription the first of its
listener, apart from others right before it, or finds none of its listener. -/

namespace StorageLayout

section

variable {α : Type}

/-- Whether the first of some subscriptions with the same owner may go in place of a given one: it
is one of them and only others of the owner stand between, or the owner has none. -/
def IsFirstOfOwner (owner : Nat → α) (live : List Nat) (subscription : Nat) : Prop :=
  (subscription ∉ live ∧ ∀ other ∈ live, owner other ≠ owner subscription) ∨
    ∃ front same back, live = front ++ same ++ subscription :: back ∧
      (∀ other ∈ front, owner other ≠ owner subscription) ∧
      ∀ other ∈ same, owner other = owner subscription

private theorem exists_front (owner : Nat → α) (value : α) (numbers : List Nat) :
    ∃ front same, numbers = front ++ same ∧ (∀ other ∈ front, owner other ≠ value) ∧
      ∀ first later, same = first :: later → owner first = value := by
  induction numbers with
  | nil => exact ⟨[], [], rfl, by simp, by simp⟩
  | cons number rest ih =>
    by_cases owned : owner number = value
    · refine ⟨[], number :: rest, rfl, by simp, ?_⟩
      rintro first later ⟨⟩
      exact owned
    · obtain ⟨front, same, rfl, apart, starts⟩ := ih
      exact ⟨number :: front, same, rfl, List.forall_mem_cons.mpr ⟨owned, apart⟩, starts⟩

private theorem notMem_owners {owner : Nat → α} {value : α} {numbers : List Nat}
    (apart : ∀ other ∈ numbers, owner other ≠ value) : value ∉ numbers.map owner := by
  intro inside
  obtain ⟨other, within, same⟩ := List.mem_map.mp inside
  exact apart other within same

variable [BEq α] [LawfulBEq α]

private theorem erase_append_same {same : List α} {value : α} (all : ∀ other ∈ same, other = value)
    (back : List α) : (same ++ value :: back).erase value = same ++ back := by
  induction same with
  | nil => simp
  | cons first rest ih =>
    obtain ⟨rfl, others⟩ := List.forall_mem_cons.mp all
    have restIsSame : rest ++ first :: back = first :: (rest ++ back) := by
      rw [List.eq_replicate_of_mem others, ← List.cons_append, ← List.replicate_succ,
        List.replicate_succ', List.append_assoc]
      rfl
    rw [List.cons_append, List.erase_cons_head, restIsSame, List.cons_append]

private theorem all_same_of_erase {first : α} {rest back : List α}
    (erased : (first :: rest ++ first :: back).erase first = first :: rest ++ back) :
    ∀ other ∈ rest, other = first := by
  rw [List.cons_append, List.erase_cons_head] at erased
  induction rest with
  | nil => simp
  | cons second rest ih =>
    rw [List.cons_append, List.cons_append, List.cons_append] at erased
    obtain ⟨rfl, later⟩ := List.cons_eq_cons.mp erased
    exact List.forall_mem_cons.mpr ⟨rfl, ih later⟩

private theorem filter_ne_erase (values : List ListenerId) (value : ListenerId) :
    (values.erase value).filter (· ≠ value) = values.filter (· ≠ value) := by
  induction values with
  | nil => rfl
  | cons first rest ih =>
    by_cases same : first = value
    · rw [same, List.erase_cons_head, List.filter_cons_of_neg (by simp)]
    · rw [List.erase_cons_tail (by simpa using same), List.filter_cons, List.filter_cons, ih]

/-- Among the owners of subscriptions, erasing the first one of an owner comes down to erasing one
of its subscriptions exactly if this is the first of the owner, apart from others before it. -/
theorem erase_owner_iff (owner : Nat → α) {live : List Nat} (subscription : Nat)
    (distinct : live.Nodup) :
    (live.map owner).erase (owner subscription) = (live.erase subscription).map owner ↔
      IsFirstOfOwner owner live subscription := by
  constructor
  · intro erased
    by_cases member : subscription ∈ live
    · right
      obtain ⟨ahead, back, rfl⟩ := List.append_of_mem member
      have fresh : subscription ∉ ahead := fun inside =>
        List.disjoint_of_nodup_append distinct inside List.mem_cons_self
      rw [List.erase_append_right _ fresh, List.erase_cons_head] at erased
      obtain ⟨front, same, rfl, apart, starts⟩ := exists_front owner (owner subscription) ahead
      have absent := notMem_owners apart
      refine ⟨front, same, back, rfl, apart, ?_⟩
      cases same with
      | nil => simp
      | cons first later =>
        have owned := starts first later rfl
        simp only [List.append_assoc, List.map_append, List.erase_append_right _ absent,
          List.append_cancel_left_eq, List.map_cons] at erased
        rw [← owned] at erased ⊢
        have others := all_same_of_erase erased
        exact List.forall_mem_cons.mpr
          ⟨rfl, fun other inside => others _ (List.mem_map_of_mem inside)⟩
    · left
      refine ⟨member, fun other inside same => ?_⟩
      rw [List.erase_of_not_mem member, List.erase_eq_self_iff] at erased
      exact erased (List.mem_map.mpr ⟨other, inside, same⟩)
  · rintro (⟨gone, none⟩ | ⟨front, same, back, rfl, apart, all⟩)
    · have absent := notMem_owners none
      rw [List.erase_of_not_mem gone, List.erase_of_not_mem absent]
    · have absent := notMem_owners apart
      have fresh : subscription ∉ front ++ same := fun inside =>
        List.disjoint_of_nodup_append distinct inside List.mem_cons_self
      have allOwned : ∀ other ∈ same.map owner, other = owner subscription := by
        intro other inside
        obtain ⟨number, within, rfl⟩ := List.mem_map.mp inside
        exact all number within
      rw [List.erase_append_right _ fresh, List.erase_cons_head, List.append_assoc,
        List.map_append, List.erase_append_right _ absent, List.map_append, List.map_cons,
        erase_append_same allOwned, List.append_assoc, List.map_append, List.map_append]

end

namespace Store

def heardBy (store : Store) : List ListenerId := store.listeners.map Listener.id

@[simp] theorem heardBy_subscribe (store : Store) (listener : Listener) :
    (store.subscribe listener).heardBy = store.heardBy ++ [listener.id] := by
  simp [heardBy, subscribe]

@[simp] theorem heardBy_unsubscribe (store : Store) (id : ListenerId) :
    (store.unsubscribe id).heardBy = store.heardBy.erase id := by
  rw [heardBy, heardBy, unsubscribe, List.erase_eq_eraseP', List.eraseP_map]
  rfl

/-- What clients do with the listeners of a store: they subscribe one, which makes a function that
cancels it, or call such a function. Subscriptions are numbered from zero. -/
inductive Call where
  | subscribe (listener : Listener)
  | cancel (subscription : Nat)

/-- A store with the history of its subscriptions: whose they were, and which of them are live,
their own function not having been called. -/
structure Roster where
  store : Store
  made : List ListenerId
  live : List Nat

namespace Roster

def owner (roster : Roster) (subscription : Nat) : Option ListenerId := roster.made[subscription]?

/-- A roster after a call. There is no function for a subscription that was not made. -/
def perform (roster : Roster) : Call → Roster
  | .subscribe listener =>
    ⟨roster.store.subscribe listener, roster.made ++ [listener.id],
      roster.live ++ [roster.made.length]⟩
  | .cancel subscription =>
    match roster.owner subscription with
    | none => roster
    | some id =>
      { roster with
        store := roster.store.unsubscribe id
        live := roster.live.erase subscription }

def run (store : Store) (calls : List Call) : Roster := calls.foldl perform ⟨store, [], []⟩

theorem perform_cancel {roster : Roster} {subscription : Nat} {id : ListenerId}
    (made : roster.owner subscription = some id) :
    roster.perform (.cancel subscription) =
      { roster with
        store := roster.store.unsubscribe id
        live := roster.live.erase subscription } := by
  simp only [perform, made]

theorem perform_cancel_of_unmade {roster : Roster} {subscription : Nat}
    (unmade : roster.owner subscription = none) :
    roster.perform (.cancel subscription) = roster := by
  simp only [perform, unmade]

theorem run_append (store : Store) (calls : List Call) (call : Call) :
    run store (calls ++ [call]) = (run store calls).perform call := by
  rw [run, List.foldl_append]
  rfl

/-- Whether the listeners are those of the live subscriptions, in order. -/
def IsExact (roster : Roster) : Prop :=
  roster.store.heardBy.map some = roster.live.map roster.owner

/-- Whether calling the function of a subscription takes away what it should: this subscription if
it is live, and nothing if not. -/
def TakesOwn (roster : Roster) (subscription : Nat) : Prop :=
  IsFirstOfOwner roster.owner roster.live subscription

/-- What holds of all rosters: live subscriptions were made, each of them once. -/
structure IsKept (roster : Roster) : Prop where
  distinct : roster.live.Nodup
  made : ∀ subscription ∈ roster.live, subscription < roster.made.length

section

variable {roster : Roster}

theorem IsKept.perform (kept : roster.IsKept) (call : Call) : (roster.perform call).IsKept := by
  cases call with
  | subscribe listener =>
    constructor
    · refine List.Nodup.append kept.distinct (List.nodup_singleton _) ?_
      intro subscription old new
      have inside := kept.made subscription old
      rw [List.mem_singleton.mp new] at inside
      exact Nat.lt_irrefl _ inside
    · intro subscription member
      show subscription < (roster.made ++ [listener.id]).length
      rw [List.length_append, List.length_singleton]
      rcases List.mem_append.mp member with old | new
      · exact Nat.lt_succ_of_lt (kept.made subscription old)
      · rw [List.mem_singleton.mp new]
        exact Nat.lt_succ_self _
  | cancel subscription =>
    rw [Roster.perform]
    split
    · exact kept
    · exact ⟨kept.distinct.erase _, fun other member =>
        kept.made other (List.mem_of_mem_erase member)⟩

theorem isKept_run (store : Store) (calls : List Call) : (run store calls).IsKept := by
  induction calls using List.reverseRecOn with
  | nil => exact ⟨List.nodup_nil, fun _ member => absurd member List.not_mem_nil⟩
  | append_singleton earlier call ih =>
    rw [run_append]
    exact ih.perform call

theorem IsKept.owner_append (kept : roster.IsKept) (id : ListenerId) :
    roster.live.map (fun subscription => (roster.made ++ [id])[subscription]?) =
      roster.live.map roster.owner := by
  apply List.map_congr_left
  intro subscription member
  exact List.getElem?_append_left (kept.made subscription member)

theorem IsKept.isExact_subscribe (kept : roster.IsKept) (exact_ : roster.IsExact)
    (listener : Listener) : (roster.perform (.subscribe listener)).IsExact := by
  show ((roster.store.subscribe listener).heardBy.map some) =
    (roster.live ++ [roster.made.length]).map fun subscription =>
      (roster.made ++ [listener.id])[subscription]?
  rw [heardBy_subscribe, List.map_append, exact_, List.map_append, kept.owner_append]
  simp

theorem IsKept.isExact_cancel_iff (kept : roster.IsKept) (exact_ : roster.IsExact)
    (subscription : Nat) :
    (roster.perform (.cancel subscription)).IsExact ↔ roster.TakesOwn subscription := by
  cases made : roster.owner subscription with
  | none =>
    rw [perform_cancel_of_unmade made]
    have unmade : ∀ other ∈ roster.live, roster.owner other ≠ roster.owner subscription := by
      intro other member same
      have inside := List.getElem?_eq_getElem (kept.made other member)
      rw [← owner, same, made] at inside
      cases inside
    exact iff_of_true exact_ (.inl ⟨fun member => unmade subscription member rfl, unmade⟩)
  | some id =>
    have erased : (roster.store.unsubscribe id).heardBy.map some =
        (roster.live.map roster.owner).erase (roster.owner subscription) := by
      rw [heardBy_unsubscribe, List.map_erase (fun _ _ => Option.some.inj), exact_, made]
    rw [perform_cancel made]
    show (roster.store.unsubscribe id).heardBy.map some =
      (roster.live.erase subscription).map roster.owner ↔ _
    rw [erased]
    exact erase_owner_iff roster.owner subscription kept.distinct

end

end Roster

open Roster

/-- The listeners of a store are at every point those of the subscriptions whose own function was
not called, in order of subscription, exactly if every call of such a function finds its own
subscription the first of its listener, apart from others of it right before, or finds none of its
listener. In any case a call takes away one subscription of its listener at most, and leaves those
of others as they are. -/
theorem listeners_are_live_iff {store : Store} (quiet : store.listeners = []) (calls : List Call) :
    ((∀ earlier, earlier <+: calls → (run store earlier).IsExact) ↔
      ∀ earlier subscription, earlier ++ [.cancel subscription] <+: calls →
        (run store earlier).TakesOwn subscription) ∧
    ∀ earlier subscription id, earlier ++ [.cancel subscription] <+: calls →
      (run store earlier).owner subscription = some id →
      (run store (earlier ++ [.cancel subscription])).store.heardBy.count id =
          (run store earlier).store.heardBy.count id - 1 ∧
        (run store (earlier ++ [.cancel subscription])).store.heardBy.filter (· ≠ id) =
          (run store earlier).store.heardBy.filter (· ≠ id) := by
  refine ⟨⟨fun exact_ earlier subscription called => ?_, fun own earlier => ?_⟩, ?_⟩
  · have before := exact_ earlier ((List.prefix_append earlier _).trans called)
    have after := exact_ _ called
    rw [run_append] at after
    exact ((isKept_run store earlier).isExact_cancel_iff before subscription).mp after
  · induction earlier using List.reverseRecOn with
    | nil =>
      intro _
      simp [IsExact, run, heardBy, quiet]
    | append_singleton before call ih =>
      intro called
      have exact_ := ih ((List.prefix_append before _).trans called)
      rw [run_append]
      cases call with
      | subscribe listener => exact (isKept_run store before).isExact_subscribe exact_ listener
      | cancel subscription =>
        exact ((isKept_run store before).isExact_cancel_iff exact_ subscription).mpr
          (own before subscription called)
  · intro earlier subscription id _ made
    have taken : (run store (earlier ++ [.cancel subscription])).store.heardBy =
        (run store earlier).store.heardBy.erase id := by
      rw [run_append, perform_cancel made]
      exact heardBy_unsubscribe _ id
    rw [taken]
    generalize (run store earlier).store.heardBy = heard
    have one : (heard.erase id).count id = heard.count id - 1 := List.count_erase_self
    exact ⟨one, filter_ne_erase heard id⟩

def idleListener (name : String) : Listener := ⟨.client name, 0, fun _ => []⟩

/-- A store that nobody listens to. -/
def unheard : Store where
  space := "unheard"
  validator := none
  layers := [.overrides []]
  listeners := []

def cancelledTwice : List Call :=
  [.subscribe (idleListener "twice"), .subscribe (idleListener "twice"), .cancel 1, .cancel 1]

/-- The second of these calls takes the first subscription away, whose function was not called: it
is live, but nobody listens any more. -/
theorem listeners_are_live_unless_twice :
    unheard.listeners = [] ∧ (run unheard cancelledTwice).live = [0] ∧
      (run unheard cancelledTwice).store.heardBy = [] ∧
      ¬ ∀ earlier subscription, earlier ++ [.cancel subscription] <+: cancelledTwice →
        (run unheard earlier).TakesOwn subscription := by
  refine ⟨rfl, by decide, by decide, fun own => ?_⟩
  have exact_ := ((listeners_are_live_iff rfl cancelledTwice).1.mpr own) _ (List.prefix_refl _)
  have gone : (run unheard cancelledTwice).store.heardBy = [] := by decide
  rw [IsExact, gone] at exact_
  cases exact_

end Store

end StorageLayout
