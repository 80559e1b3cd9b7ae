import Mathlib.Data.List.Nodup
import StorageLayout.Log.RepeatFilter

namespace StorageLayout

namespace RepeatFilter

section

variable {windows : List (RepeatKey × RepeatWindow)} {key other : RepeatKey}

/-- The windows that are evicted are the first ones, as many as there are too many. -/
theorem evict_eq (room : Nat) (windows : List (RepeatKey × RepeatWindow)) :
    evict room windows =
      (windows.drop (windows.length + 1 - room),
        (windows.take (windows.length + 1 - room)).flatMap fun entry =>
          summaryOf entry.1 entry.2) := by
  induction windows with
  | nil => simp [evict]
  | cons entry rest ih =>
    obtain ⟨key, window⟩ := entry
    rw [evict, List.length_cons]
    split
    · next full =>
      have more : rest.length + 1 + 1 - room = rest.length + 1 - room + 1 := by omega
      rw [ih, more, List.drop_succ_cons, List.take_succ_cons, List.flatMap_cons]
    · next fits =>
      have none : rest.length + 1 + 1 - room = 0 := by omega
      rw [none, List.drop_zero, List.take_zero, List.flatMap_nil]

theorem lookup_without_self (windows : List (RepeatKey × RepeatWindow)) (key : RepeatKey) :
    (windows.filter fun entry => entry.1 ≠ key).lookup key = none := by
  rw [List.lookup_eq_none_iff]
  intro entry member
  have different := (List.mem_filter.mp member).2
  exact bne_iff_ne.mpr (Ne.symm (by simpa using different))

theorem lookup_without_other (windows : List (RepeatKey × RepeatWindow)) (different : other ≠ key) :
    (windows.filter fun entry => entry.1 ≠ key).lookup other = windows.lookup other := by
  induction windows with
  | nil => rfl
  | cons entry rest ih =>
    by_cases same : entry.1 = key
    · have skipped : (other == entry.1) = false := by simpa [same] using different
      rw [List.filter_cons_of_neg (by simpa using same), ih, List.lookup_cons, skipped]
    · rw [List.filter_cons_of_pos (by simpa using same), List.lookup_cons, List.lookup_cons, ih]

theorem lookup_eq_none_iff_notMem :
    windows.lookup key = none ↔ key ∉ windows.map Prod.fst := by
  rw [List.lookup_eq_none_iff, List.mem_map]
  constructor
  · rintro absent ⟨entry, member, rfl⟩
    simpa using absent entry member
  · intro absent entry member
    exact bne_iff_ne.mpr fun same => absent ⟨entry, member, same.symm⟩

end

def HasDistinctKeys (filter : RepeatFilter) : Prop := (filter.windows.map Prod.fst).Nodup

section

variable {filter : RepeatFilter} {now cutoff : Binary64} {key other : RepeatKey}

theorem hasDistinctKeys_ofLimits (limits : RepeatLimits) : (ofLimits limits).HasDistinctKeys :=
  List.nodup_nil

theorem makeRoom_of_room (room : filter.windows.length < filter.limits.maxKeys) :
    filter.makeRoom cutoff = (filter.windows, []) := if_pos room

theorem keys_makeRoom_sublist (filter : RepeatFilter) (cutoff : Binary64) :
    ((filter.makeRoom cutoff).1.map Prod.fst).Sublist (filter.windows.map Prod.fst) := by
  unfold makeRoom
  split
  · exact List.Sublist.refl _
  · rw [evict_eq]
    refine ((List.drop_sublist _ _).trans List.filter_sublist |>.map Prod.fst).trans ?_
    rw [List.map_map]
    exact List.Sublist.refl _

/-- The windows of other messages when one is seen, and the reports about those that went. -/
def othersThan (filter : RepeatFilter) (cutoff : Binary64) (key : RepeatKey) :
    List (RepeatKey × RepeatWindow) × List RepeatSummary :=
  match filter.window? key with
  | some _ => (filter.windows.filter fun entry => entry.1 ≠ key, [])
  | none => filter.makeRoom cutoff

/-- The window of a message before it is seen once more. -/
def windowSince (filter : RepeatFilter) (cutoff : Binary64) (key : RepeatKey) : RepeatWindow :=
  ((filter.window? key).getD .fresh).expire cutoff

/-- Whether a message has not been seen too often since a cutoff. -/
def Passes (filter : RepeatFilter) (cutoff : Binary64) (key : RepeatKey) : Prop :=
  (filter.windowSince cutoff key).stamps.length < filter.limits.maxPerWindow

/-- A message that passes is reported on and starts over; one that does not is counted. -/
theorem see_of_passes (passes : filter.Passes cutoff key) (now : Binary64) :
    filter.see now cutoff key =
      ({ filter with
          windows := (filter.othersThan cutoff key).1 ++
            [(key, ⟨(filter.windowSince cutoff key).stamps ++ [now], 0⟩)] },
        ⟨true, (filter.othersThan cutoff key).2 ++
          summaryOf key (filter.windowSince cutoff key)⟩) := by
  have few : ((filter.windowSince cutoff key).stamps ++ [now]).length ≤
      filter.limits.maxPerWindow := by
    rw [List.length_append]
    exact passes
  exact if_pos few

theorem see_of_not_passes (many : ¬ filter.Passes cutoff key) (now : Binary64) :
    filter.see now cutoff key =
      ({ filter with
          windows := (filter.othersThan cutoff key).1 ++
            [(key, ⟨(filter.windowSince cutoff key).stamps ++ [now],
              (filter.windowSince cutoff key).suppressed + 1⟩)] },
        ⟨false, (filter.othersThan cutoff key).2⟩) := by
  have tooMany : ¬ ((filter.windowSince cutoff key).stamps ++ [now]).length ≤
      filter.limits.maxPerWindow := by
    rw [List.length_append]
    exact many
  exact if_neg tooMany

/-- Either way the message moves to the end of the table, behind the other windows. -/
theorem windows_see (filter : RepeatFilter) (now cutoff : Binary64) (key : RepeatKey) :
    ∃ suppressed, (filter.see now cutoff key).1.windows =
      (filter.othersThan cutoff key).1 ++
        [(key, ⟨(filter.windowSince cutoff key).stamps ++ [now], suppressed⟩)] := by
  by_cases passes : filter.Passes cutoff key
  · rw [see_of_passes passes]
    exact ⟨_, rfl⟩
  · rw [see_of_not_passes passes]
    exact ⟨_, rfl⟩

theorem keys_othersThan (filter : RepeatFilter) (cutoff : Binary64) (key : RepeatKey) :
    ((filter.othersThan cutoff key).1.map Prod.fst).Sublist (filter.windows.map Prod.fst) ∧
      key ∉ (filter.othersThan cutoff key).1.map Prod.fst := by
  unfold othersThan
  split
  · refine ⟨List.filter_sublist.map _, ?_⟩
    rw [← lookup_eq_none_iff_notMem]
    exact lookup_without_self filter.windows key
  · next untracked =>
    have kept := keys_makeRoom_sublist filter cutoff
    refine ⟨kept, fun member => ?_⟩
    exact lookup_eq_none_iff_notMem.mp untracked (kept.subset member)

theorem nodup_append_window {others : List (RepeatKey × RepeatWindow)}
    (distinct : (others.map Prod.fst).Nodup) (absent : key ∉ others.map Prod.fst)
    (window : RepeatWindow) : ((others ++ [(key, window)]).map Prod.fst).Nodup := by
  rw [List.map_append, List.nodup_append]
  refine ⟨distinct, List.nodup_singleton _, ?_⟩
  intro first member second single same
  obtain rfl := List.mem_singleton.mp single
  exact absent (same ▸ member)

theorem hasDistinctKeys_see (distinct : filter.HasDistinctKeys) (now cutoff : Binary64)
    (key : RepeatKey) : (filter.see now cutoff key).1.HasDistinctKeys := by
  obtain ⟨kept, absent⟩ := keys_othersThan filter cutoff key
  obtain ⟨suppressed, windows⟩ := windows_see filter now cutoff key
  rw [HasDistinctKeys, windows]
  exact nodup_append_window (distinct.sublist kept) absent _

theorem hasDistinctKeys_unseen (distinct : filter.HasDistinctKeys) (key : RepeatKey) :
    (filter.unseen key).HasDistinctKeys := by
  unfold unseen
  split
  · have kept : ((filter.windows.filter fun entry => entry.1 ≠ key).map Prod.fst).Nodup :=
      distinct.sublist (List.filter_sublist.map _)
    have absent := lookup_eq_none_iff_notMem.mp (lookup_without_self filter.windows key)
    exact nodup_append_window kept absent _
  · next untracked =>
    split
    · exact nodup_append_window distinct (lookup_eq_none_iff_notMem.mp untracked) _
    · exact distinct

/-- A record that is no report is shown to the filter, if the start of its window of time can be
worked out. -/
theorem offer_eq_see {record : LogRecord} {window : Binary64} (ordinary : record.isSummary = false)
    (made : Binary64.ofInt? filter.limits.windowSeconds = some window) (now : Binary64) :
    filter.offer now record =
      ((filter.see now (now.sub window) (RepeatKey.ofRecord record)).1,
        .ok (filter.see now (now.sub window) (RepeatKey.ofRecord record)).2) := by
  simp [offer, ordinary, cutoff?, made]

/-- If the window of time is too long for that, the record fails. -/
theorem offer_tooLarge {record : LogRecord} (ordinary : record.isSummary = false)
    (tooLarge : Binary64.ofInt? filter.limits.windowSeconds = none) (now : Binary64) :
    filter.offer now record =
      (filter.unseen (RepeatKey.ofRecord record), .error (.number .tooLarge)) := by
  simp [offer, ordinary, cutoff?, tooLarge]

theorem hasDistinctKeys_offer (distinct : filter.HasDistinctKeys) (now : Binary64)
    (record : LogRecord) : (filter.offer now record).1.HasDistinctKeys := by
  unfold offer
  split
  · exact distinct
  · dsimp only
    split
    · exact hasDistinctKeys_unseen distinct _
    · exact hasDistinctKeys_see distinct _ _ _

end

end RepeatFilter

end StorageLayout
