import StorageLayout.Proofs.Log.Remembering

namespace StorageLayout

namespace RepeatFilter

/-- The windows in which something is left after a cutoff, the one seen longest ago first. -/
def unspent (filter : RepeatFilter) (cutoff : Binary64) : List (RepeatKey × RepeatWindow) :=
  (filter.windows.map fun entry => (entry.1, entry.2.expire cutoff)).filter fun entry =>
    !entry.2.isSpent

/-- The messages that are evicted when one is seen, if it is not tracked and there is no room: of
those in whose windows something is left as many as are too many, those seen longest ago first. -/
def evictedFor (filter : RepeatFilter) (cutoff : Binary64) (key : RepeatKey) : List RepeatKey :=
  if filter.window? key = none ∧ filter.limits.maxKeys ≤ filter.windows.length then
    ((filter.unspent cutoff).take
      ((filter.unspent cutoff).length + 1 - filter.limits.maxKeys)).map Prod.fst
  else []

/-- The filter without what has expired at a cutoff: the times before it, and the windows in which
nothing is left then. -/
def expired (filter : RepeatFilter) (cutoff : Binary64) : RepeatFilter :=
  { filter with windows := filter.unspent cutoff }

/-- The times that a filter keeps of a message. -/
def stampsOf (filter : RepeatFilter) (key : RepeatKey) : List Binary64 :=
  ((filter.window? key).getD .fresh).stamps

section

variable {windows : List (RepeatKey × RepeatWindow)} {key other : RepeatKey}

/-- What is left of the window of a message, unless it is spent. -/
theorem lookup_unspent (distinct : (windows.map Prod.fst).Nodup) (cutoff : Binary64) :
    ((windows.map fun entry => (entry.1, entry.2.expire cutoff)).filter fun entry =>
        !entry.2.isSpent).lookup other =
      ((windows.lookup other).map (·.expire cutoff)).filter fun window => !window.isSpent := by
  induction windows with
  | nil => rfl
  | cons entry rest ih =>
    rw [List.map_cons, List.nodup_cons] at distinct
    rw [List.map_cons, List.lookup_cons]
    cases same : other == entry.1 with
    | false =>
      rw [← ih distinct.2]
      cases spent : (entry.2.expire cutoff).isSpent <;> simp [spent, same, List.lookup_cons]
    | true =>
      cases spent : (entry.2.expire cutoff).isSpent with
      | false => simp [spent, same, List.lookup_cons, Option.filter_some]
      | true =>
        -- No other window of this message comes behind the one that is spent.
        obtain rfl := eq_of_beq same
        have absent := lookup_eq_none_iff_notMem.mpr distinct.1
        simp [spent, ih distinct.2, absent, Option.filter_some]

theorem stamps_unless_spent (window : RepeatWindow) :
    (((some window).filter fun window => !window.isSpent).getD .fresh).stamps = window.stamps := by
  cases spent : window.isSpent with
  | false => simp [Option.filter_some, spent]
  | true =>
    have nothing : window.stamps = [] := by
      simp only [RepeatWindow.isSpent, Bool.and_eq_true, List.isEmpty_iff] at spent
      exact spent.1
    simp [Option.filter_some, spent, nothing, RepeatWindow.fresh]

theorem lookup_drop_of_notMem_take {count : Nat}
    (absent : key ∉ (windows.take count).map Prod.fst) :
    (windows.drop count).lookup key = windows.lookup key := by
  conv_rhs => rw [← List.take_append_drop count windows, List.lookup_append]
  rw [lookup_eq_none_iff_notMem.mpr absent, Option.none_or]

theorem lookup_drop_of_mem_take {count : Nat} (distinct : (windows.map Prod.fst).Nodup)
    (member : key ∈ (windows.take count).map Prod.fst) :
    (windows.drop count).lookup key = none := by
  rw [lookup_eq_none_iff_notMem]
  intro twice
  rw [← List.take_append_drop count windows, List.map_append] at distinct
  exact (List.nodup_append.mp distinct).2.2 key member key twice rfl

end

section

variable {filter : RepeatFilter} {now cutoff : Binary64} {key other : RepeatKey}

theorem nodup_unspent (distinct : filter.HasDistinctKeys) (cutoff : Binary64) :
    ((filter.unspent cutoff).map Prod.fst).Nodup := by
  refine distinct.sublist ((List.filter_sublist.map Prod.fst).trans ?_)
  rw [List.map_map]
  exact List.Sublist.refl _

/-- Dropping what has expired takes away the times that have expired, and no others. -/
theorem stampsOf_expired (distinct : filter.HasDistinctKeys) (cutoff : Binary64)
    (key : RepeatKey) :
    (filter.expired cutoff).stampsOf key =
      (filter.stampsOf key).dropWhile fun stamp => stamp.below cutoff := by
  rw [stampsOf, window?, expired, unspent, lookup_unspent distinct, stampsOf, window?]
  cases filter.windows.lookup key with
  | none => rfl
  | some window => exact stamps_unless_spent (window.expire cutoff)

theorem makeRoom_of_full (full : filter.limits.maxKeys ≤ filter.windows.length) :
    (filter.makeRoom cutoff).1 = (filter.unspent cutoff).drop
      ((filter.unspent cutoff).length + 1 - filter.limits.maxKeys) := by
  rw [makeRoom, if_neg full.not_gt, evict_eq]
  rfl

theorem notMem_evictedFor_self (filter : RepeatFilter) (cutoff : Binary64) (key : RepeatKey) :
    key ∉ filter.evictedFor cutoff key := by
  unfold evictedFor
  split
  · next full =>
    have untracked := lookup_eq_none_iff_notMem.mp full.1
    intro evicted
    obtain ⟨entry, member, rfl⟩ := List.mem_map.mp evicted
    obtain ⟨original, tracked, rfl⟩ :=
      List.mem_map.mp (List.mem_filter.mp (List.mem_of_mem_take member)).1
    exact untracked (List.mem_map.mpr ⟨original, tracked, rfl⟩)
  · exact List.not_mem_nil

theorem stampsOf_see_self (filter : RepeatFilter) (now cutoff : Binary64) (key : RepeatKey) :
    (filter.see now cutoff key).1.stampsOf key =
      ((filter.stampsOf key).dropWhile fun stamp => stamp.below cutoff) ++ [now] := by
  obtain ⟨suppressed, own⟩ := window?_see_self filter now cutoff key
  rw [stampsOf, own, Option.getD_some]
  rfl

theorem stampsOf_see_of_evicted (distinct : filter.HasDistinctKeys) (now : Binary64)
    (evicted : other ∈ filter.evictedFor cutoff key) :
    (filter.see now cutoff key).1.stampsOf other = [] := by
  have different : other ≠ key := by
    rintro rfl
    exact notMem_evictedFor_self filter cutoff other evicted
  unfold evictedFor at evicted
  split at evicted
  · next full =>
    have others : filter.othersThan cutoff key = filter.makeRoom cutoff := by
      rw [othersThan, full.1]
    rw [stampsOf, window?_see_other different, others, makeRoom_of_full full.2,
      lookup_drop_of_mem_take (nodup_unspent distinct cutoff) evicted]
    rfl
  · cases evicted

/-- Another message that is not evicted keeps its window, or what is left of it, if anything is. -/
theorem lookup_othersThan_of_kept (distinct : filter.HasDistinctKeys) (different : other ≠ key)
    (kept : other ∉ filter.evictedFor cutoff key) :
    (filter.othersThan cutoff key).1.lookup other = filter.window? other ∨
      (filter.othersThan cutoff key).1.lookup other =
        ((filter.window? other).map (·.expire cutoff)).filter fun window => !window.isSpent := by
  by_cases full : filter.window? key = none ∧ filter.limits.maxKeys ≤ filter.windows.length
  · right
    have others : filter.othersThan cutoff key = filter.makeRoom cutoff := by
      rw [othersThan, full.1]
    rw [evictedFor, if_pos full] at kept
    rw [others, makeRoom_of_full full.2, lookup_drop_of_notMem_take kept, unspent,
      lookup_unspent distinct, window?]
  · left
    have room (untracked : filter.window? key = none) :
        filter.windows.length < filter.limits.maxKeys :=
      not_le.mp fun many => full ⟨untracked, many⟩
    exact lookup_othersThan cutoff different room

/-- So it keeps its times, or those that have not expired. -/
theorem stampsOf_see_of_kept (distinct : filter.HasDistinctKeys) (now : Binary64)
    (different : other ≠ key) (kept : other ∉ filter.evictedFor cutoff key) :
    (filter.see now cutoff key).1.stampsOf other = filter.stampsOf other ∨
      (filter.see now cutoff key).1.stampsOf other =
        (filter.stampsOf other).dropWhile fun stamp => stamp.below cutoff := by
  rw [stampsOf, window?_see_other different]
  rcases lookup_othersThan_of_kept distinct different kept with stays | shorter
  · left
    rw [stays, stampsOf]
  · right
    rw [shorter, window?, ← lookup_unspent distinct]
    exact stampsOf_expired distinct cutoff other

end

end RepeatFilter

end StorageLayout
