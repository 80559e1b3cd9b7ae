import StorageLayout.Proofs.Config.Merge
import StorageLayout.Proofs.Config.Overrides

namespace StorageLayout

namespace Value

/-- Whether two places lead apart: neither of them is the other one or above it. -/
def Beside (place other : List String) : Prop := ¬ place <+: other ∧ ¬ other <+: place

instance (place other : List String) : Decidable (Beside place other) :=
  inferInstanceAs (Decidable (_ ∧ _))

theorem beside_cons {segment name : String} {rest more : List String} :
    Beside (segment :: rest) (name :: more) ↔ (segment = name → Beside rest more) := by
  by_cases same : segment = name
  · simp [Beside, same]
  · simp [Beside, same, Ne.symm same]

theorem Beside.ne_nil {place other : List String} (beside : Beside place other) : other ≠ [] := by
  rintro rfl
  exact beside.2 List.nil_prefix

theorem not_beside_nil (other : List String) : ¬ Beside [] other := fun beside =>
  beside.1 List.nil_prefix

/-- Whether two values that are laid over others settle a place in the same way. -/
structure SameAt (place : List String) (left right : Value) : Prop where
  held : left.at? place = right.at? place
  covers : left.Covers place ↔ right.Covers place

namespace SameAt

variable {place rest : List String} {segment : String} {left right : Value}

theorem refl (place : List String) (value : Value) : SameAt place value value := ⟨rfl, .rfl⟩

theorem trans {last : Value} (first : SameAt place left right) (second : SameAt place right last) :
    SameAt place left last :=
  ⟨first.held.trans second.held, first.covers.trans second.covers⟩

theorem of_child? (mapping : left.isMapping = right.isMapping)
    (entry : left.child? segment = right.child? segment) :
    SameAt (segment :: rest) left right := by
  constructor
  · rw [at?_cons, at?_cons, entry]
  · rw [covers_cons, covers_cons, mapping, entry]

end SameAt

section

variable {place rest : List String} {segment : String} {left right : Value}

theorem at?_childOrNew (value : Value) (segment : String) (proper : rest ≠ []) :
    value.at? (segment :: rest) = (value.childOrNew segment).at? rest := by
  obtain ⟨name, more, rfl⟩ := List.exists_cons_of_ne_nil proper
  rw [at?_cons]
  cases found : value.child? segment with
  | none => rw [childOrNew_of_none found, at?_new, Option.bind_none]
  | some child => rw [childOrNew_of_some found, Option.bind_some]

theorem covers_childOrNew (value : Value) (segment : String) (proper : rest ≠ []) :
    value.Covers (segment :: rest) ↔
      value.isMapping = false ∨ (value.childOrNew segment).Covers rest := by
  obtain ⟨name, more, rfl⟩ := List.exists_cons_of_ne_nil proper
  rw [covers_cons]
  cases found : value.child? segment with
  | none => simp [childOrNew_of_none found, not_covers_new]
  | some child => simp [childOrNew_of_some found]

theorem SameAt.of_childOrNew (proper : rest ≠ []) (mapping : left.isMapping = right.isMapping)
    (inner : SameAt rest (left.childOrNew segment) (right.childOrNew segment)) :
    SameAt (segment :: rest) left right := by
  constructor
  · rw [at?_childOrNew left segment proper, at?_childOrNew right segment proper, inner.held]
  · rw [covers_childOrNew left segment proper, covers_childOrNew right segment proper, mapping,
      inner.covers]

theorem sameAt_setAt {value new written : Value} {create : Bool}
    (wrote : value.setAt segment rest new create = .ok written)
    (beside : Beside (segment :: rest) place) : SameAt place written value := by
  induction rest generalizing value segment written place with
  | nil =>
    obtain ⟨-, rfl⟩ := setAt_nil_eq_ok.mp wrote
    obtain ⟨name, more, rfl⟩ := List.exists_cons_of_ne_nil beside.ne_nil
    have different : segment ≠ name := fun same => not_beside_nil _ (beside_cons.mp beside same)
    exact .of_child? (isMapping_withEntry ..) (child?_withEntry_other _ _ different)
  | cons next later ih =>
    obtain ⟨isMapping, -, inner, wroteInner, rfl⟩ := setAt_cons_eq_ok.mp wrote
    obtain ⟨name, more, rfl⟩ := List.exists_cons_of_ne_nil beside.ne_nil
    by_cases same : segment = name
    · subst same
      have besideInner := beside_cons.mp beside rfl
      have entered := childOrNew_of_some (child?_withEntry_same isMapping segment inner)
      apply SameAt.of_childOrNew besideInner.ne_nil (isMapping_withEntry ..)
      rw [entered]
      exact ih wroteInner besideInner
    · exact .of_child? (isMapping_withEntry ..) (child?_withEntry_other _ _ same)

theorem sameAt_deleteAt {value left : Value} {prune : Bool}
    (removed : value.deleteAt segment rest prune = some left)
    (beside : Beside (segment :: rest) place) : SameAt place left value := by
  induction rest generalizing value segment left place with
  | nil =>
    obtain ⟨-, -, rfl⟩ := deleteAt_nil_eq_some.mp removed
    obtain ⟨name, more, rfl⟩ := List.exists_cons_of_ne_nil beside.ne_nil
    have different : segment ≠ name := fun same => not_beside_nil _ (beside_cons.mp beside same)
    exact .of_child? (isMapping_withoutEntry ..) (child?_withoutEntry_other _ different)
  | cons next later ih =>
    obtain ⟨writable, child, inner, found, removedInner, rfl⟩ := deleteAt_cons_eq_some.mp removed
    obtain ⟨name, more, rfl⟩ := List.exists_cons_of_ne_nil beside.ne_nil
    have mapping : (if prune && inner.isHollow then value.withoutEntry segment
        else value.withEntry segment inner).isMapping = value.isMapping := by
      split <;> simp
    by_cases same : segment = name
    · subst same
      have besideInner := beside_cons.mp beside rfl
      -- What was pruned was empty, so nothing is missed below it.
      have entered : (if prune && inner.isHollow then value.withoutEntry segment
          else value.withEntry segment inner).childOrNew segment = inner := by
        split
        · next pruned =>
          have hollow := isHollow_iff.mp (Bool.and_eq_true_iff.mp pruned).2
          rw [childOrNew_of_none (child?_withoutEntry_same ..), hollow]
        · exact childOrNew_of_some
            (child?_withEntry_same (isMapping_of_isWritable writable) segment inner)
      apply SameAt.of_childOrNew besideInner.ne_nil mapping
      rw [entered, childOrNew_of_some found]
      exact ih removedInner besideInner
    · apply SameAt.of_child? mapping
      split
      · exact child?_withoutEntry_other _ same
      · exact child?_withEntry_other _ _ same

theorem SameAt.at?_merge (same : SameAt place left right) (below : Value) :
    (below.merge left).at? place = (below.merge right).at? place := by
  by_cases covered : right.Covers place
  · cases held : right.at? place with
    | some value =>
      rw [at?_merge_of_held below held, at?_merge_of_held below (same.held.trans held)]
    | none =>
      rw [at?_merge_of_covered below held covered,
        at?_merge_of_covered below (same.held.trans held) (same.covers.mpr covered)]
  · rw [at?_merge_of_uncovered below covered,
      at?_merge_of_uncovered below fun coveredLeft => covered (same.covers.mp coveredLeft)]

theorem SameAt.read {text : String} {key : Key} (parsed : Key.parse text = .ok key)
    (same : SameAt key.segments left right) : left.read text = right.read text := by
  rw [read_eq left parsed, read_eq right parsed, get?, get?, same.held]

end

end Value

namespace Layer

/-- A write to overrides changes nothing beside its key. -/
theorem sameAt_writeOverride {entries written : Table Value} {text : String} {key : Key}
    {value : Value} {place : List String} (parsed : Key.parse text = .ok key)
    (wrote : writeOverride entries text value = .ok written)
    (beside : Value.Beside key.segments place) :
    Value.SameAt place (.object written) (.object entries) := by
  cases null : value.isNull with
  | true =>
    rw [writeOverride_null null, discard_eq_ok_of_parse parsed] at wrote
    rw [← wrote]
    cases removed : (Value.object entries).delete? key true with
    | none => exact .refl _ _
    | some left => exact Value.sameAt_deleteAt removed beside
  | false =>
    obtain ⟨-, assigned⟩ := (writeOverride_eq_ok null).mp wrote
    exact Value.sameAt_setAt ((assign_eq_ok_of_parse parsed).mp assigned) beside

end Layer

end StorageLayout
