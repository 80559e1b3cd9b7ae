import StorageLayout.Proofs.Settings.Acceptance
import StorageLayout.Proofs.Settings.Announcement

/-! The store of settings stays valid: whatever is written to it, accepted or refused, its effective
document passes the schema as long as the variables stay what they are. The exception are mappings
of read-only classes: what was refused below one of them cannot be removed again. -/

namespace StorageLayout.Settings

/-- The layers below the overrides depend on the environment only through the variables. -/
private theorem toDocument_of_resolve {source : EnvironmentSource} {path : Option Pathname}
    {content : Value} {process other : Environment}
    (same : source.resolve process = source.resolve other) :
    ∀ layer ∈ documents path content ++ [.environment source bindings],
      layer.toDocument process = layer.toDocument other := by
  simp only [documents, List.cons_append, List.nil_append, List.forall_mem_cons]
  refine ⟨rfl, rfl, ?_, by simp⟩
  rw [Layer.toDocument, Layer.toDocument, same]

/-- The store of settings stays valid in every run in which its variables do not change and nothing
read-only is put in its overrides. -/
theorem validate_reached {machine : Machine} {context : LogContext} {source : EnvironmentSource}
    {path : Option String} {built : Store}
    (accepted : (buildStore machine context source path).outcome = .ok built)
    {start stores : Stores} {place : Nat} (origin : start[place]? = some built)
    (reached : Stores.ReachedIn
      (fun process => source.resolve process = source.resolve machine.environment)
      (Store.putsOpen place · = true) start stores) :
    ∃ store, stores[place]? = some store ∧
      ∀ process, source.resolve process = source.resolve machine.environment →
        store.validate process = .ok () := by
  obtain ⟨found, content, -, rfl, valid⟩ := buildStore_eq_storeOver accepted
  have checks : (storeOver source (.document found content)).validator = some acceptance := rfl
  have layers : (storeOver source (.document found content)).layers =
      documents found content ++ [.environment source bindings] ++ [.overrides []] := rfl
  obtain ⟨document, merged, passed⟩ := (Store.validate_eq_ok_iff checks).mp valid
  rw [Store.merged_append layers] at merged
  cases laid : Store.mergeOver machine.environment .empty
      (documents found content ++ [.environment source bindings]) with
  | error failure =>
    rw [laid] at merged
    cases merged
  | ok below =>
    rw [laid] at merged
    obtain rfl := Except.ok.inj merged
    have laidIn (process : Environment)
        (same : source.resolve process = source.resolve machine.environment) :
        Store.mergeOver process .empty
          (documents found content ++ [.environment source bindings]) = .ok below := by
      rw [Store.mergeOver_congr (toDocument_of_resolve same), laid]
    have carried := reached.carries rfl fun process same =>
      Store.holdsOfStore_isSound isTolerant_acceptance passed (laidIn process same) place
    obtain ⟨store, here, kept⟩ := carried _ origin
    have sound := kept ⟨checks, [], layers, rfl, rfl, passed⟩
    exact ⟨store, here, fun process same => sound.validate (laidIn process same)⟩

/-- The stores after a section was emptied and then a setting in it was refused, and what came of
the refused write. -/
def refusedBelowEmpty : Stores × Traced Unit :=
  Stores.write strictOccasion
    (Stores.write strictOccasion [emptyFileStore] 0 "user" (.object []) Store.systemActor).1 0
    strictModeKey (.text "maybe") Store.systemActor

/-- A section of a read-only class, in which another section is empty. -/
def frozenSection : Value :=
  .mapping (.frozen "Section") [("suppressRecurringMessages", .object [])]

/-- The stores after such a section was written and then a setting in it was refused, and what came
of the refused write. -/
def refusedBelowFrozen : Stores × Traced Unit :=
  Stores.write strictOccasion
    (Stores.write strictOccasion [emptyFileStore] 0 "debug" frozenSection Store.systemActor).1 0
    "debug.suppressRecurringMessages.enabled" (.text "maybe") Store.systemActor

/-- A refused write that forgets an empty section leaves the store valid; one that is refused below a
section of a read-only class leaves what was refused, and the store is not valid. -/
theorem validate_reached_refused :
    (refusedBelowEmpty.2.outcome.toOption = none ∧
      ∃ store, refusedBelowEmpty.1[0]? = some store ∧
        store.validate strictOccasion.environment = .ok ()) ∧
    (Stores.write strictOccasion [emptyFileStore] 0 "debug" frozenSection
        Store.systemActor).2.outcome = .ok () ∧
      refusedBelowFrozen.2.outcome.toOption = none ∧
      ∃ store, refusedBelowFrozen.1[0]? = some store ∧
        (store.get strictOccasion.environment "debug.suppressRecurringMessages.enabled").agrees
          (.text "maybe") = true ∧
        (store.validate strictOccasion.environment).toOption = none := by
  constructor
  · have built := emptyFileStore_built "true" (by decide +kernel)
    have stable : EnvironmentSource.resolve none strictOccasion.environment =
        EnvironmentSource.resolve none (variableMachine "true").environment := rfl
    have begun : Stores.ReachedIn (fun process => EnvironmentSource.resolve none process =
        EnvironmentSource.resolve none (variableMachine "true").environment)
        (Store.putsOpen 0 · = true) [emptyFileStore] [emptyFileStore] := .start
    have emptied := begun.write strictOccasion stable 0 "user" (.object []) Store.systemActor
      (List.all_eq_true.mp (by decide +kernel))
    have reached := emptied.write strictOccasion stable 0 strictModeKey (.text "maybe")
      Store.systemActor (List.all_eq_true.mp (by decide +kernel))
    have origin : [emptyFileStore][0]? = some emptyFileStore := rfl
    obtain ⟨store, here, valid⟩ := validate_reached built origin reached
    exact ⟨by decide +kernel, store, here, valid _ rfl⟩
  · have left : (refusedBelowFrozen.1[0]?.any fun store =>
        (store.get strictOccasion.environment "debug.suppressRecurringMessages.enabled").agrees
          (.text "maybe") &&
        (store.validate strictOccasion.environment).toOption.isNone) = true := by decide +kernel
    obtain ⟨store, here, holds⟩ := Option.any_eq_true _ _ |>.mp left
    obtain ⟨reads, invalid⟩ := Bool.and_eq_true_iff.mp holds
    exact ⟨eq_ok_of_toOption (by decide +kernel), by decide +kernel, store, here, reads,
      Option.isNone_iff_eq_none.mp invalid⟩

end StorageLayout.Settings
