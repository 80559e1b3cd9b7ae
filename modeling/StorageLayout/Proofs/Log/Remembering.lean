import StorageLayout.Proofs.Log.Windows
import StorageLayout.Proofs.Number.Rounding

namespace StorageLayout

section

variable {α : Type} {test weaker : α → Bool}

theorem dropWhile_append_of_dropWhile (first second : List α)
    (imp : ∀ item ∈ first, test item = true → weaker item = true) :
    (first.dropWhile test ++ second).dropWhile weaker = (first ++ second).dropWhile weaker := by
  induction first with
  | nil => rfl
  | cons item rest ih =>
    rw [List.dropWhile_cons]
    split
    · next passed =>
      rw [ih fun other member => imp other (List.mem_cons_of_mem _ member), List.cons_append,
        List.dropWhile_cons_of_pos (imp item List.mem_cons_self passed)]
    · rfl

/-- In a list in which nothing that passes a test comes after something that does not, those that
pass are dropped first. -/
theorem dropWhile_eq_filter {items : List α}
    (ordered : items.Pairwise fun early late => test late = true → test early = true) :
    items.dropWhile test = items.filter fun item => !test item := by
  induction items with
  | nil => rfl
  | cons item rest ih =>
    rw [List.pairwise_cons] at ordered
    cases passed : test item with
    | true => simp [passed, ih ordered.2]
    | false =>
      have all : rest.filter (fun other => !test other) = rest := by
        rw [List.filter_eq_self]
        intro other member
        rw [Bool.not_eq_true', Bool.eq_false_iff]
        intro later
        rw [ordered.1 other member later] at passed
        contradiction
      simp [passed, all]

end

namespace RepeatFilter

def timesOf (key : RepeatKey) (seen : List (Binary64 × RepeatKey)) : List Binary64 :=
  (seen.filter fun entry => entry.2 = key).map Prod.fst

section

variable {key other : RepeatKey} {now : Binary64} {seen : List (Binary64 × RepeatKey)}

theorem timesOf_append_self : timesOf key (seen ++ [(now, key)]) = timesOf key seen ++ [now] := by
  simp [timesOf]

theorem timesOf_append_other (different : other ≠ key) :
    timesOf other (seen ++ [(now, key)]) = timesOf other seen := by
  simp [timesOf, Ne.symm different]

theorem mem_of_mem_timesOf {stamp : Binary64} (member : stamp ∈ timesOf key seen) :
    ∃ entry ∈ seen, entry.1 = stamp := by
  obtain ⟨entry, kept, rfl⟩ := List.mem_map.mp member
  exact ⟨entry, (List.mem_filter.mp kept).1, rfl⟩

end

def seenSince (filter : RepeatFilter) (cutoff : Binary64) (key : RepeatKey) : Nat :=
  (filter.windowSince cutoff key).stamps.length

/-- Whether messages were seen at finite times, and none of them before an earlier one. -/
structure InOrder (seen : List (Binary64 × RepeatKey)) : Prop where
  isFinite : ∀ entry ∈ seen, entry.1.IsFinite
  ordered : seen.Pairwise fun early late => late.1.below early.1 = false

theorem InOrder.of_append {first second : List (Binary64 × RepeatKey)}
    (inOrder : InOrder (first ++ second)) : InOrder first :=
  ⟨fun entry member => inOrder.isFinite entry (List.mem_append_left _ member),
    (List.pairwise_append.mp inOrder.ordered).1⟩

theorem InOrder.last {seen : List (Binary64 × RepeatKey)} {entry : Binary64 × RepeatKey}
    (inOrder : InOrder (seen ++ [entry])) :
    entry.1.IsFinite ∧ ∀ earlier ∈ seen, entry.1.below earlier.1 = false :=
  ⟨inOrder.isFinite entry (by simp), fun earlier member =>
    (List.pairwise_append.mp inOrder.ordered).2.2 earlier member entry (by simp)⟩

/-- Whether a filter keeps the messages seen so far, all of them among some keys, as if it kept the
time of each. -/
structure Remembers (filter : RepeatFilter) (window : Binary64) (keys : List RepeatKey)
    (seen : List (Binary64 × RepeatKey)) : Prop where
  distinct : filter.HasDistinctKeys
  known : ∀ key ∈ filter.windows.map Prod.fst, key ∈ keys
  stamps : ∀ now : Binary64, now.IsFinite → (∀ entry ∈ seen, now.below entry.1 = false) → ∀ key,
    (filter.windowSince (now.sub window) key).stamps =
      (timesOf key seen).dropWhile fun stamp => stamp.below (now.sub window)

theorem remembers_ofLimits (limits : RepeatLimits) (window : Binary64) (keys : List RepeatKey) :
    (ofLimits limits).Remembers window keys [] :=
  ⟨hasDistinctKeys_ofLimits limits, fun _ member => (List.not_mem_nil member).elim,
    fun _ _ _ _ => rfl⟩

section

variable {filter : RepeatFilter} {window now cutoff : Binary64} {keys : List RepeatKey}
  {seen : List (Binary64 × RepeatKey)} {key other : RepeatKey}

theorem window?_see_self (filter : RepeatFilter) (now cutoff : Binary64) (key : RepeatKey) :
    ∃ suppressed, (filter.see now cutoff key).1.window? key =
      some ⟨(filter.windowSince cutoff key).stamps ++ [now], suppressed⟩ := by
  have absent := lookup_eq_none_iff_notMem.mpr (keys_othersThan filter cutoff key).2
  obtain ⟨suppressed, windows⟩ := windows_see filter now cutoff key
  refine ⟨suppressed, ?_⟩
  rw [window?, windows, List.lookup_append, absent]
  simp

theorem window?_see_other (different : other ≠ key) (now cutoff : Binary64) :
    (filter.see now cutoff key).1.window? other =
      (filter.othersThan cutoff key).1.lookup other := by
  obtain ⟨suppressed, windows⟩ := windows_see filter now cutoff key
  rw [window?, windows, List.lookup_append, List.lookup_cons, beq_eq_false_iff_ne.mpr different,
    List.lookup_nil, Option.or_none]

variable (cutoff) in
theorem lookup_othersThan (different : other ≠ key)
    (room : filter.window? key = none → filter.windows.length < filter.limits.maxKeys) :
    (filter.othersThan cutoff key).1.lookup other = filter.window? other := by
  unfold othersThan
  split
  · exact lookup_without_other filter.windows different
  · next untracked => rw [makeRoom_of_room (room untracked), window?]

theorem passed_see (filter : RepeatFilter) (now cutoff : Binary64) (key : RepeatKey) :
    (filter.see now cutoff key).2.passed = true ↔
      filter.seenSince cutoff key < filter.limits.maxPerWindow := by
  change _ ↔ filter.Passes cutoff key
  by_cases passes : filter.Passes cutoff key
  · simp [see_of_passes passes, passes]
  · simp [see_of_not_passes passes, passes]

theorem limits_see (filter : RepeatFilter) (now cutoff : Binary64) (key : RepeatKey) :
    (filter.see now cutoff key).1.limits = filter.limits := by
  by_cases passes : filter.Passes cutoff key
  · rw [see_of_passes passes]
  · rw [see_of_not_passes passes]

theorem keys_see (filter : RepeatFilter) (now cutoff : Binary64) (key : RepeatKey) :
    ∀ other ∈ (filter.see now cutoff key).1.windows.map Prod.fst,
      other = key ∨ other ∈ filter.windows.map Prod.fst := by
  obtain ⟨suppressed, windows⟩ := windows_see filter now cutoff key
  intro other member
  rw [windows, List.map_append, List.mem_append, List.map_singleton, List.mem_singleton] at member
  exact member.symm.imp_right fun kept => (keys_othersThan filter cutoff key).1.subset kept

theorem Remembers.room (remembers : filter.Remembers window keys seen)
    (fits : keys.length ≤ filter.limits.maxKeys) (member : key ∈ keys)
    (untracked : filter.window? key = none) : filter.windows.length < filter.limits.maxKeys := by
  have absent := lookup_eq_none_iff_notMem.mp untracked
  have nodup : (key :: filter.windows.map Prod.fst).Nodup :=
    List.nodup_cons.mpr ⟨absent, remembers.distinct⟩
  have among : key :: filter.windows.map Prod.fst ⊆ keys :=
    List.cons_subset.mpr ⟨member, remembers.known⟩
  have few := (nodup.subperm among).length_le
  rw [List.length_cons, List.length_map] at few
  omega

/-- Seeing a message, a filter remembers it too. -/
theorem Remembers.see (remembers : filter.Remembers window keys seen)
    (fits : keys.length ≤ filter.limits.maxKeys) (member : key ∈ keys)
    (isFiniteWindow : window.IsFinite) (inOrder : InOrder (seen ++ [(now, key)])) :
    (filter.see now (now.sub window) key).1.Remembers window keys (seen ++ [(now, key)]) := by
  obtain ⟨isFinite, latest⟩ := inOrder.last
  refine ⟨hasDistinctKeys_see remembers.distinct _ _ _, ?_, ?_⟩
  · intro other tracked
    rcases keys_see filter now _ key other tracked with rfl | before
    · exact member
    · exact remembers.known other before
  · intro later isFiniteLater after other
    have afterSeen : ∀ entry ∈ seen, later.below entry.1 = false := fun entry earlier =>
      after entry (List.mem_append_left _ earlier)
    have afterNow : later.below now = false := after (now, key) (by simp)
    by_cases same : other = key
    · subst same
      obtain ⟨suppressed, own⟩ := window?_see_self filter now (now.sub window) other
      rw [windowSince, own, timesOf_append_self, Option.getD_some, RepeatWindow.expire,
        remembers.stamps now isFinite latest other]
      -- what had expired at the time of the message has expired later as well
      refine dropWhile_append_of_dropWhile _ _ fun stamp among old => ?_
      obtain ⟨entry, earlier, rfl⟩ := mem_of_mem_timesOf among
      have isFiniteStamp := inOrder.isFinite entry (List.mem_append_left _ earlier)
      exact Binary64.below_sub_mono isFiniteStamp isFinite isFiniteLater isFiniteWindow afterNow old
    · have kept := lookup_othersThan (now.sub window) same (remembers.room fits member)
      rw [windowSince, window?_see_other same, kept, timesOf_append_other same]
      exact remembers.stamps later isFiniteLater afterSeen other

/-- How often a message was seen in the window is counted over all that was seen. -/
theorem Remembers.seenSince_eq (remembers : filter.Remembers window keys seen)
    (inOrder : InOrder seen) (isFinite : now.IsFinite)
    (latest : ∀ entry ∈ seen, now.below entry.1 = false) (key : RepeatKey) :
    filter.seenSince (now.sub window) key =
      ((timesOf key seen).filter fun stamp => !stamp.below (now.sub window)).length := by
  rw [seenSince, remembers.stamps now isFinite latest key]
  congr 1
  apply dropWhile_eq_filter
  rw [timesOf, List.pairwise_map]
  refine (inOrder.ordered.filter _).imp_of_mem fun {early late} isEarly isLate order old => ?_
  have isFiniteEarly := inOrder.isFinite early (List.mem_filter.mp isEarly).1
  have isFiniteLate := inOrder.isFinite late (List.mem_filter.mp isLate).1
  exact Binary64.below_of_not_below isFiniteEarly isFiniteLate order old

end

end RepeatFilter

end StorageLayout
