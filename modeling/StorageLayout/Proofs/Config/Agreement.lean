import StorageLayout.Config.Agreement
import StorageLayout.Proofs.Config.Places

namespace StorageLayout.Value

theorem entriesAgree_iff {left right : Table Value} :
    entriesAgree left right = true ↔
      ∀ entry ∈ left, ∃ value, Table.get? right entry.1 = some value ∧
        entry.2.agrees value = true := by
  induction left with
  | nil => simp [entriesAgree]
  | cons entry rest ih =>
    obtain ⟨name, value⟩ := entry
    rw [entriesAgree, Bool.and_eq_true, ih]
    cases found : Table.get? right name with
    | none => simp [found]
    | some other => simp [found]

theorem agrees_mapping {leftAccess rightAccess : Access} {left right : Table Value} :
    (mapping leftAccess left).agrees (mapping rightAccess right) = true ↔
      (∀ entry ∈ right, Table.has left entry.1 = true) ∧ entriesAgree left right = true := by
  rw [agrees, Bool.and_eq_true, List.all_eq_true]

theorem isMapping_of_agrees {left right : Value} (agree : left.agrees right = true) :
    left.isMapping = right.isMapping := by
  cases left <;> cases right <;>
    simp_all [agrees, isMapping, entries?, sameNumber, integer?]

theorem isNull_of_agrees {left right : Value} (agree : left.agrees right = true) :
    left.isNull = right.isNull := by
  cases left <;> cases right <;> simp_all [agrees, isNull, sameNumber, integer?]

theorem child?_agrees {left right : Value} (agree : left.agrees right = true) (segment : String) :
    Option.Rel (fun child other => child.agrees other = true) (left.child? segment)
      (right.child? segment) := by
  have same := isMapping_of_agrees agree
  cases left with
  | mapping leftAccess lower =>
    cases right with
    | mapping rightAccess upper =>
      obtain ⟨known, each⟩ := agrees_mapping.mp agree
      rw [entriesAgree_iff] at each
      simp only [child?]
      cases found : Table.get? lower segment with
      | some child =>
        obtain ⟨other, foundOther, childAgrees⟩ := each _ (Table.mem_of_get? found)
        rw [foundOther]
        exact .some childAgrees
      | none =>
        cases foundOther : Table.get? upper segment with
        | none => exact .none
        | some other =>
          have has := known _ (Table.mem_of_get? foundOther)
          simp [Table.has, found] at has
    | _ => simp [isMapping, entries?] at same
  | _ =>
    rw [child?_eq_none rfl, child?_eq_none (same ▸ rfl)]
    exact .none

theorem at?_agrees {left right : Value} (agree : left.agrees right = true) (place : List String) :
    Option.Rel (fun child other => child.agrees other = true) (left.at? place)
      (right.at? place) := by
  induction place generalizing left right with
  | nil =>
    rw [at?_nil, at?_nil]
    exact .some agree
  | cons segment rest ih =>
    have related := child?_agrees agree segment
    rw [at?_cons, at?_cons]
    generalize left.child? segment = found at related ⊢
    generalize right.child? segment = foundOther at related ⊢
    cases related with
    | none => exact .none
    | some further => exact ih further

end StorageLayout.Value
