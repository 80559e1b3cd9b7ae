import Mathlib.Data.List.Induction
import Mathlib.Data.List.Nodup
import StorageLayout.Log.Context

namespace StorageLayout

namespace Table

variable {α : Type}

theorem set_of_notMem {entries : Table α} {key : String} (absent : key ∉ keys entries)
    (value : α) : set entries key value = entries ++ [(key, value)] := by
  induction entries with
  | nil => rfl
  | cons entry rest ih =>
    rw [keys, List.map_cons, List.mem_cons, not_or] at absent
    rw [set, if_neg (Ne.symm absent.1), ih absent.2, List.cons_append]

theorem ofPairs_of_nodup {pairs : List (String × α)} (distinct : (pairs.map Prod.fst).Nodup) :
    ofPairs pairs = pairs := by
  induction pairs using List.reverseRecOn with
  | nil => rfl
  | append_singleton earlier pair ih =>
    rw [List.map_append, List.nodup_append] at distinct
    have absent : pair.1 ∉ keys earlier := fun member => distinct.2.2 _ member pair.1 (by simp) rfl
    have before : ofPairs earlier = earlier := ih distinct.1
    have last : ofPairs (earlier ++ [pair]) = set (ofPairs earlier) pair.1 pair.2 := by
      simp [ofPairs, setAll]
    rw [last, before]
    exact set_of_notMem absent pair.2

end Table

namespace LogContext

/-- Whether a context is another one with marks on top of it: each of them has its value, and all
else is as it was before. No context counts as one without marks. -/
def Updates (before : LogContext) (marks : List (String × Value)) (after : LogContext) : Prop :=
  ∃ table, after = some table ∧
    ∀ name, table.get? name = (marks.lookup name).or ((before.getD []).get? name)

variable {marks : List (String × Value)}

/-- Marks that are set one after the other are on top of a table. -/
theorem get?_foldl_set (distinct : (marks.map Prod.fst).Nodup)
    (some_ : ∀ mark ∈ marks, mark.2.isNull = false) (table : Table Value) (name : String) :
    Table.get? (marks.foldl (fun table mark =>
      if mark.2.isNull then table else table.set mark.1 mark.2) table) name =
        (marks.lookup name).or (table.get? name) := by
  induction marks generalizing table with
  | nil => rfl
  | cons mark rest ih =>
    obtain ⟨present, others⟩ := List.forall_mem_cons.mp some_
    rw [List.map_cons, List.nodup_cons] at distinct
    rw [List.foldl_cons, present, if_neg Bool.false_ne_true, ih distinct.2 others, List.lookup_cons]
    by_cases same : name = mark.1
    · subst same
      have absent : rest.lookup mark.1 = none := by
        rw [List.lookup_eq_none_iff]
        intro other member
        exact bne_iff_ne.mpr fun twice => distinct.1 (twice ▸ List.mem_map_of_mem member)
      simp [absent]
    · have skipped : (name == mark.1) = false := beq_false_of_ne same
      rw [skipped, Table.get?_set_other _ _ (Ne.symm same)]

theorem updates_extend (context : LogContext) (distinct : (marks.map Prod.fst).Nodup)
    (some_ : ∀ mark ∈ marks, mark.2.isNull = false) :
    context.Updates marks (context.extend marks) := by
  refine ⟨_, rfl, fun name => ?_⟩
  rw [Table.ofPairs_of_nodup distinct]
  exact get?_foldl_set distinct some_ _ name

end LogContext

end StorageLayout
