import StorageLayout.Proofs.Config.Reading
import StorageLayout.Proofs.Config.Remainder

namespace StorageLayout

/-- Whether a check that a document passes with nothing and with something laid over it is passed
with any part of that. -/
def IsTolerant (check : Document → Except Failure Unit) : Prop :=
  ∀ (below : Document) part whole, check (below.merge (.ofTable [])) = .ok () →
    check (below.merge (.ofTable whole)) = .ok () →
    Value.Within (.object part) (.object whole) → check (below.merge (.ofTable part)) = .ok ()

namespace Store

section

variable {process : Environment} {check : Document → Except Failure Unit} {store : Store}

theorem validate_eq_ok_iff (checks : store.validator = some check) :
    store.validate process = .ok () ↔
      ∃ document, store.merged process = .ok document ∧ check document = .ok () := by
  unfold validate
  rw [checks]
  cases merged : store.merged process with
  | error failure => simp [Except.bind]
  | ok document =>
    cases checked : check document with
    | error failure => simp [Except.bind, checked]
    | ok done => simp [Except.bind, checked]

theorem validate_append_iff (checks : store.validator = some check) {lower : List Layer}
    {entries : Table Value} (layers : store.layers = lower ++ [.overrides entries])
    {below : Document} (laid : mergeOver process .empty lower = .ok below) :
    store.validate process = .ok () ↔ check (below.merge (.ofTable entries)) = .ok () := by
  rw [validate_eq_ok_iff checks, merged_append layers, laid]
  simp [Except.map]

end

/-- Whether open overrides are on top of other layers, which make up one document, and the two
together pass the check of a store. -/
structure IsSound (lower : List Layer) (below : Document) (check : Document → Except Failure Unit)
    (store : Store) : Prop where
  checks : store.validator = some check
  overrides : ∃ entries, store.layers = lower ++ [.overrides entries] ∧
    (Value.object entries).isCopyable = true ∧ (Value.object entries).isOpen = true ∧
    check (below.merge (.ofTable entries)) = .ok ()

section

variable {process : Environment} {check : Document → Except Failure Unit} {store : Store}
  {lower : List Layer} {below : Document}

theorem IsSound.validate (sound : IsSound lower below check store)
    (laid : mergeOver process .empty lower = .ok below) : store.validate process = .ok () := by
  obtain ⟨entries, layers, -, -, accepted⟩ := sound.overrides
  exact (validate_append_iff sound.checks layers laid).mpr accepted

/-- A write of open values to overrides, whether it is accepted or refused, leaves a sound store
sound. -/
theorem IsSound.writeLayer (tolerant : IsTolerant check)
    (bare : check (below.merge (.ofTable [])) = .ok ())
    (laid : mergeOver process .empty lower = .ok below) (sound : IsSound lower below check store)
    {target : Nat} {layer : Layer} (top : store.overrideLayer? = some (target, layer))
    (text : String) (value : Value)
    (puts : ∀ put ∈ (store.writeLayer process target layer text value).values,
      put.isOpen = true) :
    IsSound lower below check (store.writeLayer process target layer text value).store := by
  obtain ⟨entries, layers, copyable, open_, accepted⟩ := sound.overrides
  obtain ⟨rfl, rfl⟩ := Prod.mk.inj
    (Option.some.inj (top.symm.trans (store.overrideLayer?_append layers)))
  cases wrote : Layer.writeOverride entries text value with
  | error failure =>
    rw [Store.writeLayer]
    simp only [Layer.set, wrote, Except.map]
    exact sound
  | ok written =>
    have layersWritten := layers_withLayer_append layers (.overrides written)
    have copyableWritten := Layer.isCopyable_writeOverride copyable wrote
    have openWritten (openValue : value.isOpen = true) : (Value.object written).isOpen = true :=
      Layer.allMappings_writeOverride rfl open_ openValue wrote
    cases checked : (store.withLayer lower.length (.overrides written)).validate process with
    | ok _ =>
      have checks : (store.withLayer lower.length (.overrides written)).validator = some check :=
        sound.checks
      have acceptedWritten := (validate_append_iff checks layersWritten laid).mp checked
      rw [Store.writeLayer] at puts ⊢
      simp only [Layer.set, wrote, Except.map, checked] at puts ⊢
      exact ⟨sound.checks, written, layersWritten, copyableWritten, openWritten (puts value (by simp)),
        acceptedWritten⟩
    | error failure =>
      obtain ⟨result, member⟩ := writeLayer_invalid wrote checked
      rw [result]
      exact ⟨sound.checks, _, layers_withLayer_append layers _,
        Layer.allMappings_takenBack rfl copyable copyableWritten,
        Layer.allMappings_takenBack rfl open_ (openWritten (puts value member)),
        tolerant below _ entries bare accepted (Layer.within_takenBack copyable open_ wrote)⟩

/-- Whether something sent out puts nothing read-only in the overrides of a store. -/
def putsOpen (place : Nat) : Emission → Bool
  | .written target _ value => target ≠ place || value.isOpen
  | _ => true

/-- A sound store stays sound while its other layers make up the same document and only open values
are written to it. -/
theorem holdsOfStore_isSound (tolerant : IsTolerant check)
    (bare : check (below.merge (.ofTable [])) = .ok ())
    (laid : mergeOver process .empty lower = .ok below) (place : Nat) :
    Stores.HoldsOfStore process (putsOpen place · = true) place fun before after =>
      IsSound lower below check before → IsSound lower below check after where
  trans first second sound := second (first sound)
  listeners _ _ sound := ⟨sound.checks, sound.overrides⟩
  put text value top sent sound :=
    sound.writeLayer tolerant bare laid top text value fun put member => by
      simpa [putsOpen] using sent put member

end

end Store

end StorageLayout
