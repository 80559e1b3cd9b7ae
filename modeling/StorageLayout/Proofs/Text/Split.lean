import StorageLayout.Text.Split

namespace StorageLayout.Text

variable {α : Type} [DecidableEq α] {separator : α}

theorem intercalate_split (separator : α) (items : List α) :
    [separator].intercalate (split separator items) = items := by
  induction items with
  | nil => rfl
  | cons item items ih =>
    unfold split
    cases pieces : split separator items with
    | nil => exact absurd pieces (split_ne_nil separator items)
    | cons piece rest =>
      rw [pieces] at ih
      split
      · next same =>
        rw [List.intercalate_cons_cons, ih, same]
        rfl
      · rw [extendFirst]
        cases rest with
        | nil => simpa using ih
        | cons second later =>
          rw [List.intercalate_cons_cons] at ih ⊢
          simpa using ih

theorem split_append (separator : α) (left right : List α) :
    split separator (left ++ separator :: right) =
      split separator left ++ split separator right := by
  induction left with
  | nil => simp [split]
  | cons item left ih =>
    rw [List.cons_append, split, split, ih]
    split
    · rfl
    · cases pieces : split separator left with
      | nil => exact absurd pieces (split_ne_nil separator left)
      | cons piece rest => rfl

theorem split_of_notMem {items : List α} (whole : separator ∉ items) :
    split separator items = [items] := by
  induction items with
  | nil => rfl
  | cons item items ih =>
    simp only [List.mem_cons, not_or] at whole
    rw [split, if_neg (Ne.symm whole.1), ih whole.2, extendFirst]

theorem notMem_of_mem_split {items piece : List α} (member : piece ∈ split separator items) :
    separator ∉ piece := by
  induction items generalizing piece with
  | nil =>
    obtain rfl := List.mem_singleton.mp member
    exact List.not_mem_nil
  | cons item items ih =>
    rw [split] at member
    split at member
    · rcases List.mem_cons.mp member with rfl | later
      · exact List.not_mem_nil
      · exact ih later
    · next different =>
      cases pieces : split separator items with
      | nil => exact absurd pieces (split_ne_nil separator items)
      | cons first rest =>
        rw [pieces] at ih member
        rcases List.mem_cons.mp member with rfl | later
        · simp [Ne.symm different, ih List.mem_cons_self]
        · exact ih (List.mem_cons_of_mem first later)

theorem split_intercalate {pieces : List (List α)} (nonempty : pieces ≠ [])
    (whole : ∀ piece ∈ pieces, separator ∉ piece) :
    split separator ([separator].intercalate pieces) = pieces := by
  induction pieces with
  | nil => exact absurd rfl nonempty
  | cons piece rest ih =>
    have first := split_of_notMem (whole piece List.mem_cons_self)
    cases rest with
    | nil => rw [List.intercalate_singleton, first]
    | cons next later =>
      rw [List.intercalate_cons_cons, List.append_assoc, List.singleton_append, split_append, first,
        ih (by simp) fun other member => whole other (List.mem_cons_of_mem piece member),
        List.singleton_append]

end StorageLayout.Text
