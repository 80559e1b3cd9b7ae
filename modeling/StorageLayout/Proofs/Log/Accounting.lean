import Mathlib.Algebra.GroupWithZero.Nat
import StorageLayout.Proofs.Log.Windows

/-! How often messages were dropped. A drop is counted in the window of its message until it is
reported, which happens when the message passes again or its window is evicted; a window that goes
without a report has nothing to report. Main statement: in every run each drop of a message is
either reported once or still pending. -/

namespace StorageLayout

namespace RepeatSummary

/-- How many drops of a message are reported in all. -/
def totalOf (key : RepeatKey) (summaries : List RepeatSummary) : Nat :=
  ((summaries.filter fun summary => summary.key = key).map count).sum

@[simp] theorem totalOf_nil (key : RepeatKey) : totalOf key [] = 0 := rfl

@[simp] theorem totalOf_append (key : RepeatKey) (left right : List RepeatSummary) :
    totalOf key (left ++ right) = totalOf key left + totalOf key right := by
  simp [totalOf]

end RepeatSummary

namespace RepeatFilter

open RepeatSummary (totalOf)

/-- How many drops of a message are not reported yet. -/
def pendingOf (filter : RepeatFilter) (key : RepeatKey) : Nat :=
  ((filter.window? key).map RepeatWindow.suppressed).getD 0

/-- How many drops of a message some windows count. -/
def droppedIn (key : RepeatKey) (windows : List (RepeatKey × RepeatWindow)) : Nat :=
  ((windows.filter fun entry => entry.1 = key).map fun entry => entry.2.suppressed).sum

section

variable {windows : List (RepeatKey × RepeatWindow)} {key other : RepeatKey}

theorem droppedIn_cons (entry : RepeatKey × RepeatWindow) :
    droppedIn key (entry :: windows) =
      (if entry.1 = key then entry.2.suppressed else 0) + droppedIn key windows := by
  by_cases same : entry.1 = key <;> simp [droppedIn, same]

@[simp] theorem droppedIn_append (left right : List (RepeatKey × RepeatWindow)) :
    droppedIn key (left ++ right) = droppedIn key left + droppedIn key right := by
  simp [droppedIn]

@[simp] theorem droppedIn_singleton (window : RepeatWindow) :
    droppedIn key [(other, window)] = if other = key then window.suppressed else 0 := by
  rw [droppedIn_cons]
  rfl

theorem droppedIn_of_notMem (absent : key ∉ windows.map Prod.fst) : droppedIn key windows = 0 := by
  have none : windows.filter (fun entry => entry.1 = key) = [] := by
    rw [List.filter_eq_nil_iff]
    intro entry member same
    exact absent (List.mem_map.mpr ⟨entry, member, by simpa using same⟩)
  rw [droppedIn, none]
  rfl

theorem droppedIn_eq_lookup (distinct : (windows.map Prod.fst).Nodup) :
    droppedIn key windows = ((windows.lookup key).map RepeatWindow.suppressed).getD 0 := by
  induction windows with
  | nil => rfl
  | cons entry rest ih =>
    rw [List.map_cons, List.nodup_cons] at distinct
    rw [droppedIn_cons, List.lookup_cons]
    by_cases same : entry.1 = key
    · subst same
      simp [droppedIn_of_notMem distinct.1]
    · have skipped : (key == entry.1) = false := by simpa using Ne.symm same
      rw [if_neg same, Nat.zero_add, skipped, ih distinct.2]

theorem droppedIn_without_other (different : other ≠ key) :
    droppedIn other (windows.filter fun entry => entry.1 ≠ key) = droppedIn other windows := by
  induction windows with
  | nil => rfl
  | cons entry rest ih =>
    by_cases same : entry.1 = key
    · have skipped : entry.1 ≠ other := fun found => different (found.symm.trans same)
      rw [List.filter_cons_of_neg (by simpa using same), ih, droppedIn_cons, if_neg skipped,
        Nat.zero_add]
    · rw [List.filter_cons_of_pos (by simpa using same), droppedIn_cons, droppedIn_cons, ih]

theorem totalOf_summaries (key : RepeatKey) (windows : List (RepeatKey × RepeatWindow)) :
    totalOf key (windows.flatMap fun entry => summaryOf entry.1 entry.2) =
      droppedIn key windows := by
  induction windows with
  | nil => rfl
  | cons entry rest ih =>
    rw [List.flatMap_cons, RepeatSummary.totalOf_append, droppedIn_cons, ih, summaryOf]
    by_cases nothing : entry.2.suppressed = 0 <;> by_cases same : entry.1 = key <;>
      simp [totalOf, nothing, same]

theorem droppedIn_unspent (key : RepeatKey) (windows : List (RepeatKey × RepeatWindow)) :
    droppedIn key (windows.filter fun entry => !entry.2.isSpent) = droppedIn key windows := by
  induction windows with
  | nil => rfl
  | cons entry rest ih =>
    cases spent : entry.2.isSpent with
    | false => rw [List.filter_cons_of_pos (by simp [spent]), droppedIn_cons, droppedIn_cons, ih]
    | true =>
      have nothing : entry.2.suppressed = 0 := by
        simp only [RepeatWindow.isSpent, Bool.and_eq_true, decide_eq_true_eq] at spent
        exact spent.2
      rw [List.filter_cons_of_neg (by simp [spent]), ih, droppedIn_cons, nothing, ite_self,
        Nat.zero_add]

theorem droppedIn_expired (cutoff : Binary64) (key : RepeatKey)
    (windows : List (RepeatKey × RepeatWindow)) :
    droppedIn key (windows.map fun entry => (entry.1, entry.2.expire cutoff)) =
      droppedIn key windows := by
  induction windows with
  | nil => rfl
  | cons entry rest ih =>
    rw [List.map_cons, droppedIn_cons, droppedIn_cons, ih]
    rfl

theorem count_pos_of_mem_summaryOf {window : RepeatWindow} {summary : RepeatSummary}
    (member : summary ∈ summaryOf key window) : 0 < summary.count := by
  unfold summaryOf at member
  split at member
  · cases member
  · next some_ =>
    obtain rfl := List.mem_singleton.mp member
    exact Nat.pos_of_ne_zero some_

end

section

variable {filter : RepeatFilter} {now cutoff : Binary64} {key other : RepeatKey}

theorem pendingOf_eq_droppedIn (distinct : filter.HasDistinctKeys) (key : RepeatKey) :
    filter.pendingOf key = droppedIn key filter.windows :=
  (droppedIn_eq_lookup distinct).symm

theorem totalOf_makeRoom (filter : RepeatFilter) (cutoff : Binary64) (key : RepeatKey) :
    totalOf key (filter.makeRoom cutoff).2 + droppedIn key (filter.makeRoom cutoff).1 =
      droppedIn key filter.windows := by
  unfold makeRoom
  split
  · simp
  · rw [evict_eq, totalOf_summaries, ← droppedIn_append, List.take_append_drop, droppedIn_unspent,
      droppedIn_expired]

theorem count_pos_of_mem_othersThan {summary : RepeatSummary}
    (member : summary ∈ (filter.othersThan cutoff key).2) : 0 < summary.count := by
  unfold othersThan makeRoom at member
  split at member
  · cases member
  · split at member
    · cases member
    · rw [evict_eq] at member
      obtain ⟨entry, -, reported⟩ := List.mem_flatMap.mp member
      exact count_pos_of_mem_summaryOf reported

/-- What is pending before a message is seen is reported about the windows that go, or left in the
others, or in its own window. -/
theorem pendingOf_eq_othersThan (distinct : filter.HasDistinctKeys) (cutoff : Binary64)
    (key other : RepeatKey) :
    filter.pendingOf other =
      totalOf other (filter.othersThan cutoff key).2 +
        droppedIn other (filter.othersThan cutoff key).1 +
        if key = other then (filter.windowSince cutoff key).suppressed else 0 := by
  unfold othersThan windowSince
  split
  · next window tracked =>
    by_cases same : key = other
    · subst same
      have absent := lookup_eq_none_iff_notMem.mp (lookup_without_self filter.windows key)
      rw [droppedIn_of_notMem absent]
      simp [pendingOf, tracked, RepeatWindow.expire]
    · rw [droppedIn_without_other (Ne.symm same), pendingOf_eq_droppedIn distinct]
      simp [same]
  · next untracked =>
    have nothing : (RepeatWindow.fresh.expire cutoff).suppressed = 0 := rfl
    rw [totalOf_makeRoom, untracked, Option.getD_none, nothing, ite_self, Nat.add_zero,
      pendingOf_eq_droppedIn distinct]

/-- Seeing a message reports what is pending, or leaves it pending; of the message itself there is
one drop more if it does not pass. -/
theorem pendingOf_see (distinct : filter.HasDistinctKeys) (now cutoff : Binary64)
    (key other : RepeatKey) :
    totalOf other (filter.see now cutoff key).2.summaries +
        (filter.see now cutoff key).1.pendingOf other =
      filter.pendingOf other +
        if key = other ∧ (filter.see now cutoff key).2.passed = false then 1 else 0 := by
  have before := pendingOf_eq_othersThan distinct cutoff key other
  have reported : totalOf other (summaryOf key (filter.windowSince cutoff key)) =
      if key = other then (filter.windowSince cutoff key).suppressed else 0 := by
    simpa using totalOf_summaries other [(key, filter.windowSince cutoff key)]
  rw [pendingOf_eq_droppedIn (hasDistinctKeys_see distinct now cutoff key)]
  by_cases passes : filter.Passes cutoff key
  · rw [see_of_passes passes]
    simp only [RepeatSummary.totalOf_append, droppedIn_append, droppedIn_singleton, ite_self,
      Bool.true_eq_false, and_false, if_false]
    omega
  · rw [see_of_not_passes passes]
    simp only [droppedIn_append, droppedIn_singleton, and_true]
    by_cases same : key = other
    · simp only [same, if_true] at before ⊢
      omega
    · simp only [same, if_false] at before ⊢
      omega

theorem pendingOf_unseen (distinct : filter.HasDistinctKeys) (key other : RepeatKey) :
    (filter.unseen key).pendingOf other = filter.pendingOf other := by
  rw [pendingOf_eq_droppedIn (hasDistinctKeys_unseen distinct key), pendingOf_eq_droppedIn distinct]
  unfold unseen
  split
  · next window tracked =>
    rw [droppedIn_append, droppedIn_singleton]
    by_cases same : key = other
    · subst same
      have absent := lookup_eq_none_iff_notMem.mp (lookup_without_self filter.windows key)
      have own : droppedIn key filter.windows = window.suppressed := by
        rw [← pendingOf_eq_droppedIn distinct, pendingOf, tracked]
        rfl
      rw [droppedIn_of_notMem absent, if_pos rfl, own, Nat.zero_add]
    · rw [droppedIn_without_other (Ne.symm same), if_neg same, Nat.add_zero]
  · split
    · have nothing : RepeatWindow.fresh.suppressed = 0 := rfl
      rw [droppedIn_append, droppedIn_singleton, nothing, ite_self, Nat.add_zero]
    · rfl

end

/-- The reports that an answer to a record comes with; one that fails has none. -/
def reportedBy : Except Failure RepeatVerdict → List RepeatSummary
  | .ok verdict => verdict.summaries
  | .error _ => []

/-- Whether an answer drops the record. -/
def isDrop : Except Failure RepeatVerdict → Bool
  | .ok verdict => !verdict.passed
  | .error _ => false

/-- The filter after records are offered to it one after the other, each at its time, and what it
answers to the message of each. A failure ends nothing. -/
def history : RepeatFilter → List (Binary64 × LogRecord) →
    RepeatFilter × List (RepeatKey × Except Failure RepeatVerdict)
  | filter, [] => (filter, [])
  | filter, (now, record) :: rest =>
    let (after, answer) := filter.offer now record
    let (last, answers) := after.history rest
    (last, (RepeatKey.ofRecord record, answer) :: answers)

/-- How often a message was dropped. -/
def dropsOf (key : RepeatKey) (answers : List (RepeatKey × Except Failure RepeatVerdict)) : Nat :=
  answers.countP fun answer => answer.1 = key && isDrop answer.2

def reportsOf (answers : List (RepeatKey × Except Failure RepeatVerdict)) : List RepeatSummary :=
  answers.flatMap fun answer => reportedBy answer.2

section

variable {filter : RepeatFilter}

/-- Offering a record reports what is pending, or leaves it pending, and adds the record if it is
dropped. -/
theorem pendingOf_offer (distinct : filter.HasDistinctKeys) (now : Binary64) (record : LogRecord)
    (key : RepeatKey) :
    totalOf key (reportedBy (filter.offer now record).2) +
        (filter.offer now record).1.pendingOf key =
      filter.pendingOf key +
        if RepeatKey.ofRecord record = key ∧ isDrop (filter.offer now record).2 = true then 1
        else 0 := by
  unfold offer
  split
  · simp [reportedBy, isDrop]
  · dsimp only
    split
    · simp [reportedBy, isDrop, pendingOf_unseen distinct]
    · simpa [reportedBy, isDrop] using pendingOf_see distinct now _ _ key

theorem count_pos_of_mem_offer {now : Binary64} {record : LogRecord} {summary : RepeatSummary}
    (member : summary ∈ reportedBy (filter.offer now record).2) : 0 < summary.count := by
  unfold offer at member
  split at member
  · cases member
  · dsimp only at member
    split at member
    · cases member
    · next cutoff _ =>
      by_cases passes : filter.Passes cutoff (RepeatKey.ofRecord record)
      · rw [see_of_passes passes] at member
        rcases List.mem_append.mp member with evicted | own
        · exact count_pos_of_mem_othersThan evicted
        · exact count_pos_of_mem_summaryOf own
      · rw [see_of_not_passes passes] at member
        exact count_pos_of_mem_othersThan member

/-- Nothing is pending of a message that has just passed. -/
theorem pendingOf_of_passed {now : Binary64} {record : LogRecord}
    (ordinary : record.isSummary = false) {verdict : RepeatVerdict}
    (answered : (filter.offer now record).2 = .ok verdict) (passed : verdict.passed = true) :
    (filter.offer now record).1.pendingOf (RepeatKey.ofRecord record) = 0 := by
  unfold offer at answered ⊢
  rw [if_neg (by simp [ordinary])] at answered ⊢
  dsimp only at answered ⊢
  split at answered
  · cases answered
  · next cutoff _ =>
    obtain rfl := Except.ok.inj answered
    by_cases passes : filter.Passes cutoff (RepeatKey.ofRecord record)
    · have absent := (keys_othersThan filter cutoff (RepeatKey.ofRecord record)).2
      rw [see_of_passes passes, pendingOf, window?, List.lookup_append,
        lookup_eq_none_iff_notMem.mpr absent]
      simp
    · rw [see_of_not_passes passes] at passed
      cases passed

/-- What a run drops of a message, and what was pending before, is reported or pending after it. -/
theorem pendingOf_history (distinct : filter.HasDistinctKeys) (key : RepeatKey)
    (offered : List (Binary64 × LogRecord)) :
    totalOf key (reportsOf (filter.history offered).2) + (filter.history offered).1.pendingOf key =
      filter.pendingOf key + dropsOf key (filter.history offered).2 := by
  induction offered generalizing filter with
  | nil => simp [history, reportsOf, dropsOf]
  | cons entry rest ih =>
    obtain ⟨now, record⟩ := entry
    have step := pendingOf_offer distinct now record key
    have onward := ih (hasDistinctKeys_offer distinct now record)
    simp only [history, reportsOf, dropsOf, List.flatMap_cons, RepeatSummary.totalOf_append,
      List.countP_cons, Bool.and_eq_true, decide_eq_true_eq] at onward ⊢
    omega

theorem count_pos_of_mem_history {offered : List (Binary64 × LogRecord)} {summary : RepeatSummary}
    (member : summary ∈ reportsOf (filter.history offered).2) : 0 < summary.count := by
  induction offered generalizing filter with
  | nil => cases member
  | cons entry rest ih =>
    rcases List.mem_append.mp member with first | later
    · exact count_pos_of_mem_offer first
    · exact ih later

end

/-- Whatever records are offered to a filter and whenever, every drop of a message is reported once
or still pending, no report is about nothing, and nothing is pending of a message that has just
passed. -/
theorem dropsOf_eq_reported_add_pending (limits : RepeatLimits)
    (offered : List (Binary64 × LogRecord)) :
    (∀ key, dropsOf key ((ofLimits limits).history offered).2 =
        totalOf key (reportsOf ((ofLimits limits).history offered).2) +
          ((ofLimits limits).history offered).1.pendingOf key) ∧
      (∀ summary ∈ reportsOf ((ofLimits limits).history offered).2, 0 < summary.count) ∧
      ∀ now record verdict, record.isSummary = false →
        (((ofLimits limits).history offered).1.offer now record).2 = .ok verdict →
        verdict.passed = true →
        (((ofLimits limits).history offered).1.offer now record).1.pendingOf
          (RepeatKey.ofRecord record) = 0 := by
  refine ⟨?_, ?_, ?_⟩
  · intro key
    have kept := pendingOf_history (hasDistinctKeys_ofLimits limits) key offered
    have nothing : (ofLimits limits).pendingOf key = 0 := rfl
    omega
  · intro summary member
    exact count_pos_of_mem_history member
  · intro now record verdict ordinary answered passed
    exact pendingOf_of_passed ordinary answered passed

/-- A message that comes again and again. -/
def chatter : LogRecord where
  level := Level.info
  logger := "app"
  message := "still  waiting"
  context := none

def second (count : Nat) : Binary64 := .ofSignedRatio false count 1

/-- What becomes of two equal messages in a minute if one is let through. -/
def twice : RepeatFilter × List (RepeatKey × Except Failure RepeatVerdict) :=
  (ofLimits ⟨60, 1, 2, Level.info⟩).history [(second 0, chatter), (second 1, chatter)]

/-- The second of two equal messages is dropped. When the message passes again a minute later,
nothing about it is pending any more. -/
theorem dropsOf_twice :
    dropsOf (RepeatKey.ofRecord chatter) twice.2 = 1 ∧
      twice.1.pendingOf (RepeatKey.ofRecord chatter) = 1 ∧
      (twice.1.offer (second 62) chatter).1.pendingOf (RepeatKey.ofRecord chatter) = 0 := by
  obtain ⟨drops, -, reset⟩ := dropsOf_eq_reported_add_pending ⟨60, 1, 2, Level.info⟩
    [(second 0, chatter), (second 1, chatter)]
  rw [← twice] at drops reset
  have reported : totalOf (RepeatKey.ofRecord chatter) (reportsOf twice.2) = 0 := by decide +kernel
  have pending : twice.1.pendingOf (RepeatKey.ofRecord chatter) = 1 := by decide +kernel
  have passes : ((twice.1.offer (second 62) chatter).2.toOption.map RepeatVerdict.passed) =
      some true := by decide +kernel
  refine ⟨?_, pending, ?_⟩
  · calc dropsOf (RepeatKey.ofRecord chatter) twice.2
        = totalOf (RepeatKey.ofRecord chatter) (reportsOf twice.2) +
            twice.1.pendingOf (RepeatKey.ofRecord chatter) := drops _
      _ = 1 := by rw [reported, pending]
  · cases answered : (twice.1.offer (second 62) chatter).2 with
    | ok verdict =>
      rw [answered] at passes
      exact reset (second 62) chatter verdict rfl answered (Option.some.inj passes)
    | error failure =>
      rw [answered] at passes
      cases passes

end RepeatFilter

end StorageLayout
