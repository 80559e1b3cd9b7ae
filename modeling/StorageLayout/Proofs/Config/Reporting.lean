import StorageLayout.Proofs.Config.Announcement

namespace StorageLayout

def Listener.OnlyReports (listener : Listener) : Prop :=
  ∀ change, ∀ reaction ∈ listener.react change, ∃ key, reaction = .report key

namespace Store

theorem listeners_writeLayer (process : Environment) (store : Store) (target : Nat) (layer : Layer)
    (text : String) (value : Value) :
    (store.writeLayer process target layer text value).store.listeners = store.listeners := by
  unfold writeLayer
  split
  · rfl
  · split
    · rfl
    · dsimp only
      split <;> rfl

end Store

namespace Stores

section

variable {occasion : Occasion} {write : Writer} {stores : Stores} {listener : Listener}

variable (occasion write stores) in
theorem perform_reports {reactions : List Reaction}
    (reports : ∀ reaction ∈ reactions, ∃ key, reaction = .report key) :
    (perform occasion write listener stores reactions).1 = stores ∧
      (perform occasion write listener stores reactions).2.outcome = .ok () := by
  induction reactions with
  | nil => exact ⟨rfl, rfl⟩
  | cons reaction rest ih =>
    obtain ⟨⟨key, rfl⟩, later⟩ := List.forall_mem_cons.mp reports
    exact ih later

variable (occasion write stores) in
theorem notify_reports {listeners : List Listener}
    (reports : ∀ listener ∈ listeners, listener.OnlyReports) (notice : Notice) :
    (notify occasion write notice stores listeners).1 = stores ∧
      (notify occasion write notice stores listeners).2.outcome = .ok () := by
  induction listeners generalizing notice with
  | nil => exact ⟨rfl, rfl⟩
  | cons listener rest ih =>
    obtain ⟨first, later⟩ := List.forall_mem_cons.mp reports
    obtain ⟨same, ok⟩ := perform_reports occasion write stores (first notice.change)
    rw [notify]
    dsimp only
    rw [ok, same]
    exact ih later _

/-- A write whose listeners only report changes one layer of its store. -/
theorem write_reports {place : Nat} {store : Store} {target : Nat} {layer : Layer}
    (here : stores[place]? = some store) (top : store.overrideLayer? = some (target, layer))
    (reports : ∀ listener ∈ store.listeners, listener.OnlyReports) (text : String) (value : Value)
    (actor : String) :
    (Stores.write occasion stores place text value actor).1 =
      stores.set place (store.writeLayer occasion.environment target layer text value).store := by
  rw [Stores.write, writeNested]
  simp only [here, top, writeOverrides]
  split
  · rfl
  · split
    · exact (notify_reports _ _ _ reports _).1
    · rfl

/-- Such a write that goes well puts its value in the overrides. -/
theorem write_reports_ok {place : Nat} {store : Store} {target : Nat} {entries : Table Value}
    (here : stores[place]? = some store)
    (top : store.overrideLayer? = some (target, .overrides entries))
    (reports : ∀ listener ∈ store.listeners, listener.OnlyReports) {text : String} {value : Value}
    {actor : String}
    (ok : (Stores.write occasion stores place text value actor).2.outcome = .ok ()) :
    ∃ written, Layer.writeOverride entries text value = .ok written ∧
      (Stores.write occasion stores place text value actor).1 =
        stores.set place (store.withLayer target (.overrides written)) := by
  obtain ⟨written, wrote, ⟨depth, notice, last, told, -, notified, put⟩ | ⟨-, put⟩⟩ :=
    write_cases here top ok
  · refine ⟨written, wrote, ?_⟩
    have same := (notify_reports occasion (writeNested occasion depth)
      (stores.set place (store.withLayer target (.overrides written))) reports notice).1
    rw [notified] at same
    rw [put]
    exact same
  · exact ⟨written, wrote, by rw [put]⟩

end

end Stores

end StorageLayout
