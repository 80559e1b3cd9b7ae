import StorageLayout.Proofs.Config.Announcement
import StorageLayout.Proofs.Settings.Layers

/-! Which changes of settings listeners hear of. The variables of the settings stand at keys inside
sections, so a section that is written or removed can change a setting while it reads as before
itself. -/

namespace StorageLayout

namespace Settings

theorem isTree_documents (process : Environment) (path : Option Pathname) (content : Value) :
    ∀ layer ∈ documents path content, Layer.IsTree process layer := by
  intro layer member
  rcases List.mem_cons.mp member with rfl | later
  · exact Layer.isTree_constants process _
  · obtain rfl := List.mem_singleton.mp later
    exact Layer.isTree_document process _ _

/-- A write of a setting or of a section that succeeds is announced to all listeners, or to none of
them. In the second case a setting at or below the key reads as something else than before exactly
if its variable comes to light or is hidden. -/
theorem write_announces_unless_showsVariable {machine : Machine} {context : LogContext}
    {source : EnvironmentSource} {file : Option String} {built : Store}
    (accepted : (buildStore machine context source file).outcome = .ok built)
    {start stores : Stores} {place : Nat} (origin : start[place]? = some built)
    (reached : Stores.Reached start stores) {store : Store} (here : stores[place]? = some store)
    {occasion : Occasion} {text : String} {value : Value} {actor : String}
    (ok : (Stores.write occasion stores place text value actor).2.outcome = .ok ()) :
    (∀ listener ∈ store.listeners, ∃ change, change.key = text ∧
        .notified listener.id change ∈
          (Stores.write occasion stores place text value actor).2.trail) ∨
      (∀ listener change, .notified listener change ∉
          (Stores.write occasion stores place text value actor).2.trail) ∧
      ∃ after, (Stores.write occasion stores place text value actor).1[place]? = some after ∧
        ∀ other, other = text ∨ (∃ rest, other = text ++ "." ++ rest) →
          (∃ key, Key.parse other = .ok key) →
          (Value.Differs (store.get occasion.environment other)
              (after.get occasion.environment other) ↔
            Store.ShowsVariable
              (Layer.boundValue (source.resolve occasion.environment) bindings other)
              (store.overrideAt other) (after.overrideAt other)) := by
  obtain ⟨content, layeredBuilt, -⟩ := buildStore_eq_ok accepted
  obtain ⟨entries, layered⟩ := reached.isLayered origin here layeredBuilt
  obtain ⟨path, layers⟩ := layered.layers
  exact Stores.write_announces (isTree_documents occasion.environment path content) here layers
    rfl ok

/-- What surrounds a write where a variable sets strict mode and every record can be logged. -/
def strictOccasion : Occasion :=
  ⟨(variableMachine "true").environment, none, [], fun _ => none, 0⟩

def bystander : Listener := ⟨.client "bystander", 0, fun _ => []⟩

/-- A section that hides the variable of strict mode reads as before, so nobody hears that strict
mode goes off. -/
theorem write_hides_strictMode :
    (∀ listener change, .notified listener change ∉
        (Stores.write strictOccasion [emptyFileStore.subscribe bystander] 0 "user"
          (.object [("strictMode", .bool false)]) Store.systemActor).2.trail) ∧
      ∃ after, (Stores.write strictOccasion [emptyFileStore.subscribe bystander] 0 "user"
          (.object [("strictMode", .bool false)]) Store.systemActor).1[0]? = some after ∧
        Value.Differs
          ((emptyFileStore.subscribe bystander).get strictOccasion.environment strictModeKey)
          (after.get strictOccasion.environment strictModeKey) := by
  have built := emptyFileStore_built "true" (by decide +kernel)
  have reached : Stores.Reached [emptyFileStore] [emptyFileStore.subscribe bystander] :=
    .subscribe .start 0 bystander
  have ok : (Stores.write strictOccasion [emptyFileStore.subscribe bystander] 0 "user"
      (.object [("strictMode", .bool false)]) Store.systemActor).2.outcome = .ok () :=
    eq_ok_of_toOption (by decide +kernel)
  have quiet : ((Stores.write strictOccasion [emptyFileStore.subscribe bystander] 0 "user"
      (.object [("strictMode", .bool false)]) Store.systemActor).2.trail.all fun
      | .notified _ _ => false
      | _ => true) = true := by decide +kernel
  have hides : ((Stores.write strictOccasion [emptyFileStore.subscribe bystander] 0 "user"
      (.object [("strictMode", .bool false)]) Store.systemActor).1[0]?.all fun after =>
      !(after.overrideAt strictModeKey).isNull &&
        !(Value.bool true).agrees (after.overrideAt strictModeKey)) = true := by decide +kernel
  have hidden : ((emptyFileStore.subscribe bystander).overrideAt strictModeKey).isNull = true := by
    decide +kernel
  have parsed : Key.parse strictModeKey = .ok ⟨"user", ["strictMode"]⟩ := rfl
  rw [List.all_eq_true] at quiet
  rcases write_announces_unless_showsVariable built rfl reached rfl ok with
    heard | ⟨silent, after, found, differs⟩
  · obtain ⟨change, -, told⟩ := heard bystander (List.mem_singleton.mpr rfl)
    cases quiet _ told
  · have changes := differs strictModeKey (.inr ⟨"strictMode", rfl⟩) ⟨_, parsed⟩
    refine ⟨silent, after, found, changes.mpr ?_⟩
    rw [found] at hides
    simp only [Option.all_some, Bool.and_eq_true, Bool.not_eq_true'] at hides
    have shown : Layer.boundValue (EnvironmentSource.resolve none strictOccasion.environment)
        bindings strictModeKey = .bool true := rfl
    rw [shown]
    exact ⟨rfl, .inr ⟨hidden, hides⟩⟩

end Settings

end StorageLayout
