import StorageLayout.Proofs.Config.Merge
import StorageLayout.Proofs.Config.Overrides
import StorageLayout.Proofs.Config.Plain

/-! Laws of laying documents over each other. Every place of a merged document is settled by the two
documents at and above this place. For plain documents an empty one changes nothing, and laying a
document over one that it was laid over already changes nothing either. -/

namespace StorageLayout.Value

section

variable {below above : Value}

/-- Something is at a place of a merged document if the upper one has it, or if the lower one has it
and there are only mappings above the place in the upper one. -/
theorem isSome_at?_merge (below above : Value) (place : List String) :
    ((below.merge above).at? place).isSome = true ↔
      (above.at? place).isSome = true ∨ (below.at? place).isSome = true ∧
        ∀ higher child, higher <+: place → higher ≠ place → above.at? higher = some child →
          child.isMapping = true := by
  cases held : above.at? place with
  | some new => simp [at?_merge_of_held below held]
  | none =>
    have uncovered_iff : ¬ above.Covers place ↔
        ∀ higher child, higher <+: place → higher ≠ place → above.at? higher = some child →
          child.isMapping = true := by
      simp only [Covers, held, Option.isSome_none, Bool.false_eq_true, false_or, not_exists,
        not_and, Bool.not_eq_false]
    rw [← uncovered_iff]
    by_cases covered : above.Covers place
    · simp [at?_merge_of_covered below held covered, covered]
    · simp [at?_merge_of_uncovered below covered, covered]

theorem at?_merge_of_absent {place : List String} (absent : above.at? place = none)
    (shown : ((below.merge above).at? place).isSome = true) :
    (below.merge above).at? place = below.at? place := by
  apply at?_merge_of_uncovered
  intro covered
  rw [at?_merge_of_covered below absent covered] at shown
  cases shown

theorem merge_of_not_both {old new : Value}
    (apart : ¬ (old.isMapping = true ∧ new.isMapping = true)) : old.merge new = new := by
  by_cases lower : old.isMapping = true
  · exact merge_scalar old (by simpa [lower] using apart)
  · exact merge_over_scalar (by simpa using lower) new

end

section

variable {held above : Table Value} {value : Value}

/-- A mapping over which another one is laid keeps its entries if it has all the names of this one
and none of its entries is changed. -/
theorem merge_eq_self (settled : ∀ entry ∈ held, overlaid above entry = entry)
    (known : ∀ entry ∈ above, Table.has held entry.1 = true) (access : Access) :
    (mapping access held).merge (object above) = object held := by
  have kept : mergeEntries held above = held := by
    rw [mergeEntries_eq_map, List.map_congr_left settled, List.map_id']
  have additions : (above.filter fun entry => !Table.has held entry.1) = [] := by
    rw [List.filter_eq_nil_iff]
    intro entry member
    simp [known entry member]
  rw [merge, kept, additions, List.append_nil]

theorem has_of_mem (distinct : above.keys.Nodup) {entry : String × Value} (member : entry ∈ above) :
    Table.has above entry.1 = true := by
  rw [Table.has, Table.get?_of_mem distinct member, Option.isSome_some]

theorem overlaid_of_mem (distinct : above.keys.Nodup) {entry : String × Value}
    (member : entry ∈ above) (same : entry.2.merge entry.2 = entry.2) :
    overlaid above entry = entry := by
  rw [overlaid, Table.get?_of_mem distinct member, Option.elim_some, same]

theorem IsPlain.merge_self (plain : value.IsPlain) : value.merge value = value := by
  induction plain with
  | leaf scalar => exact merge_scalar _ scalar
  | branch distinct inner ih =>
    exact merge_eq_self (fun entry member => overlaid_of_mem distinct member (ih entry member))
      (fun entry member => has_of_mem distinct member) .writable

theorem IsPlain.merge_merge (plain : value.IsPlain) (below : Value) :
    (below.merge value).merge value = below.merge value := by
  induction plain generalizing below with
  | leaf scalar => rw [merge_scalar _ scalar, merge_scalar _ scalar]
  | @branch above distinct inner ih =>
    cases below with
    | mapping access lower =>
      rw [merge]
      apply merge_eq_self
      · intro entry member
        rcases List.mem_append.mp member with kept | added
        · rw [mergeEntries_eq_map] at kept
          obtain ⟨original, -, rfl⟩ := List.mem_map.mp kept
          cases found : Table.get? above original.1 with
          | none => simp [overlaid, found]
          | some upper =>
            simp [overlaid, found, ih (original.1, upper) (Table.mem_of_get? found) original.2]
        · have upper := (List.mem_filter.mp added).1
          exact overlaid_of_mem distinct upper (inner entry upper).merge_self
      · intro entry member
        rw [Table.has, Table.get?_append, get?_mergeEntries, get?_additions, Table.has,
          Table.get?_of_mem distinct member]
        cases Table.get? lower entry.1 <;> rfl
    | _ => exact (IsPlain.branch distinct inner).merge_self

theorem IsPlain.merge_new (plain : value.IsPlain) (mapping : value.isMapping = true) :
    value.merge (object []) = value := by
  cases plain with
  | leaf scalar =>
    rw [scalar] at mapping
    cases mapping
  | branch distinct inner => exact merge_eq_self (by simp [overlaid]) (by simp) .writable

theorem IsPlain.new_merge (plain : value.IsPlain) : (object []).merge value = value := by
  cases plain with
  | leaf scalar => exact merge_scalar _ scalar
  | branch distinct inner => simp [merge, mergeEntries, Table.has]

end

/-- A merged document place by place: it has what the upper document has, and of the lower one what
has only mappings above it in the upper one; two mappings at a place are merged, and anything else
shows as the upper document has it, or else the lower one. So an empty document and a second merge
change nothing about plain documents. -/
theorem merge_place_by_place (below above : Value) :
    (∀ path key, Key.parse path = .ok key →
      ((below.merge above).has (.text path) = true ↔
        above.has (.text path) = true ∨ below.has (.text path) = true ∧
          ∀ higher child, higher <+: key.segments → higher ≠ key.segments →
            above.at? higher = some child → child.isMapping = true) ∧
      (∀ old new, below.read? (.text path) = some old → above.read? (.text path) = some new →
        old.isMapping = true → new.isMapping = true →
        (below.merge above).read? (.text path) = some (old.merge new)) ∧
      (∀ new, above.read? (.text path) = some new →
        (∀ old, below.read? (.text path) = some old →
          ¬ (old.isMapping = true ∧ new.isMapping = true)) →
        (below.merge above).read? (.text path) = some new) ∧
      (above.has (.text path) = false → (below.merge above).has (.text path) = true →
        (below.merge above).read? (.text path) = below.read? (.text path))) ∧
    (below.isMapping = true → below.IsPlain → (object []).merge below = below ∧
      below.merge (object []) = below ∧ below.merge below = below) ∧
    (above.IsPlain → (below.merge above).merge above = below.merge above) := by
  refine ⟨fun path key parsed => ?_, fun mapping plain => ?_, fun plain => plain.merge_merge below⟩
  · simp only [has, read?_of_parse _ parsed]
    refine ⟨isSome_at?_merge below above key.segments, ?_, ?_, ?_⟩
    · intro old new heldBelow heldAbove _ _
      rw [at?_merge_of_held below heldAbove, heldBelow, Option.elim_some]
    · intro new heldAbove apart
      rw [at?_merge_of_held below heldAbove]
      cases heldBelow : below.at? key.segments with
      | none => rfl
      | some old => rw [Option.elim_some, merge_of_not_both (apart old heldBelow)]
    · intro absent shown
      exact at?_merge_of_absent (by simpa using absent) shown
  · exact ⟨plain.new_merge, plain.merge_new mapping, plain.merge_self⟩

/-- A number over a mapping hides what the mapping holds, and null beside it shows. -/
theorem merge_place_by_place_of_number :
    ((object [("a", .null), ("b", object [("c", .int 2)])]).merge
      (object [("b", .int 5)])).has (.text "b.c") = false ∧
    ((object [("a", .null), ("b", object [("c", .int 2)])]).merge
      (object [("b", .int 5)])).read? (.text "a") = some .null ∧
    ((object [("a", .null), ("b", object [("c", .int 2)])]).merge
      (object [("b", .int 5)])).merge (object [("b", .int 5)]) =
        (object [("a", .null), ("b", object [("c", .int 2)])]).merge (object [("b", .int 5)]) := by
  have number : IsPlain (.int 5) := .leaf rfl
  have plain : (object [("b", .int 5)]).IsPlain := .branch (by decide) (by simp [number])
  obtain ⟨places, -, again⟩ := merge_place_by_place
    (object [("a", .null), ("b", object [("c", .int 2)])]) (object [("b", .int 5)])
  obtain ⟨hasHidden, -⟩ := places "b.c" ⟨"b", ["c"]⟩ rfl
  obtain ⟨hasBeside, -, -, below⟩ := places "a" ⟨"a", []⟩ rfl
  refine ⟨?_, ?_, again plain⟩
  · rw [Bool.eq_false_iff, Ne, hasHidden]
    rintro (held | ⟨-, only⟩)
    · cases held
    · cases only ["b"] (.int 5) (by decide) (by decide) rfl
  · refine (below rfl (hasBeside.mpr (.inr ⟨rfl, ?_⟩))).trans rfl
    intro higher child leads proper found
    obtain rfl : higher = [] := by
      rcases List.prefix_cons_iff.mp leads with same | ⟨rest, rfl, last⟩
      · exact same
      · exact absurd (by rw [List.prefix_nil.mp last]; rfl) proper
    obtain rfl := at?_nil_eq_some.mp found
    rfl

end StorageLayout.Value
