import Mathlib.Data.List.TakeWhile
import StorageLayout.Proofs.Log.Accounting
import StorageLayout.Proofs.Log.Eviction
import StorageLayout.Proofs.Number.Clock

/-! How a filter decides. It keeps only some of the times at which a message was seen, but those
that it has forgotten since the message was last evicted have expired for good. Main statement: a
record passes exactly if its message was seen less often in the window of time before it than may
pass, of all times since the message was last evicted; so no more of its records pass in any
interval of that length. A window of time that is too long to be worked out lets no record be
decided. -/

namespace StorageLayout

namespace RepeatFilter

/-- Whether times are finite and none of them is before an earlier one. -/
structure Ascending (times : List Binary64) : Prop where
  isFinite : ∀ time ∈ times, time.IsFinite
  ordered : times.Pairwise fun early late => late.below early = false

section

variable {few many times coming : List Binary64} {now late stamp window : Binary64}

theorem Ascending.sublist (ascending : Ascending many) (among : few.Sublist many) :
    Ascending few :=
  ⟨fun time member => ascending.isFinite time (among.subset member),
    ascending.ordered.sublist among⟩

theorem Ascending.not_below (ascending : Ascending (times ++ coming)) (member : stamp ∈ times)
    (comes : now ∈ coming) : now.below stamp = false :=
  (List.pairwise_append.mp ascending.ordered).2.2 stamp member now comes

/-- What has expired at a time has expired for all that comes later. -/
theorem Ascending.expired (ascending : Ascending (times ++ now :: coming))
    (isFiniteWindow : window.IsFinite) (member : stamp ∈ times)
    (old : stamp.below (now.sub window) = true) :
    ∀ late ∈ coming, stamp.below (late.sub window) = true := by
  intro late comes
  have isFinite := ascending.isFinite
  simp only [List.mem_append, List.mem_cons] at isFinite
  have order : late.below now = false :=
    List.rel_of_pairwise_cons (List.pairwise_append.mp ascending.ordered).2.1 comes
  exact Binary64.below_sub_mono (isFinite stamp (.inl member)) (isFinite now (.inr (.inl rfl)))
    (isFinite late (.inr (.inr comes))) isFiniteWindow order old

theorem Ascending.dropWhile_eq_filter (ascending : Ascending times) (cutoff : Binary64) :
    times.dropWhile (fun stamp => stamp.below cutoff) =
      times.filter fun stamp => !stamp.below cutoff := by
  apply StorageLayout.dropWhile_eq_filter
  refine ascending.ordered.imp_of_mem fun {early late} isEarly isLate order old => ?_
  exact Binary64.below_of_not_below (ascending.isFinite early isEarly)
    (ascending.isFinite late isLate) order old

end

/-- Whether a filter keeps all of some times of a message that have not expired for what comes. -/
structure Keeps (filter : RepeatFilter) (window : Binary64) (key : RepeatKey)
    (times coming : List Binary64) : Prop where
  distinct : filter.HasDistinctKeys
  ascending : Ascending (times ++ coming)
  forgotten : ∃ old, times = old ++ filter.stampsOf key ∧
    ∀ stamp ∈ old, ∀ now ∈ coming, stamp.below (now.sub window) = true

section

variable {filter : RepeatFilter} {window now : Binary64} {key other : RepeatKey}
  {times coming : List Binary64}

theorem Keeps.seenSince_eq (keeps : filter.Keeps window key times coming) (comes : now ∈ coming) :
    filter.seenSince (now.sub window) key =
      times.countP fun stamp => !stamp.below (now.sub window) := by
  obtain ⟨old, rfl, expired⟩ := keeps.forgotten
  have kept : Ascending (filter.stampsOf key) :=
    keeps.ascending.sublist
      ((List.sublist_append_right old _).trans (List.sublist_append_left _ coming))
  have none : (old.countP fun stamp => !stamp.below (now.sub window)) = 0 := by
    rw [List.countP_eq_zero]
    intro stamp member
    simp [expired stamp member now comes]
  calc filter.seenSince (now.sub window) key
      = ((filter.stampsOf key).dropWhile fun stamp => stamp.below (now.sub window)).length := rfl
    _ = (filter.stampsOf key).countP fun stamp => !stamp.below (now.sub window) := by
        rw [kept.dropWhile_eq_filter, List.countP_eq_length_filter]
    _ = (old ++ filter.stampsOf key).countP fun stamp => !stamp.below (now.sub window) := by
        rw [List.countP_append, none, Nat.zero_add]

/-- What a filter forgets of the times that it keeps has expired for all that comes. -/
theorem Keeps.forget (keeps : filter.Keeps window key times (now :: coming))
    (isFiniteWindow : window.IsFinite) :
    ∃ old, times = old ++ ((filter.stampsOf key).dropWhile fun stamp =>
        stamp.below (now.sub window)) ∧
      ∀ stamp ∈ old, ∀ late ∈ coming, stamp.below (late.sub window) = true := by
  obtain ⟨old, all, expired⟩ := keeps.forgotten
  refine ⟨old ++ (filter.stampsOf key).takeWhile fun stamp => stamp.below (now.sub window), ?_, ?_⟩
  · rw [List.append_assoc, List.takeWhile_append_dropWhile, all]
  · intro stamp member late comes
    rcases List.mem_append.mp member with before | taken
    · exact expired stamp before late (List.mem_cons_of_mem _ comes)
    · have among : stamp ∈ times := by
        rw [all]
        exact List.mem_append_right _ ((List.takeWhile_sublist _).subset taken)
      have old : stamp.below (now.sub window) = true := by
        simpa using List.mem_takeWhile_imp taken
      exact keeps.ascending.expired isFiniteWindow among old late comes

/-- Whatever message is seen, a filter keeps the times of a message as far as they have not expired:
all of them and the present one if it is the message itself, none if it is evicted. -/
theorem Keeps.see (keeps : filter.Keeps window key times (now :: coming))
    (isFiniteWindow : window.IsFinite) (other : RepeatKey) :
    (filter.see now (now.sub window) other).1.Keeps window key
      ((if key ∈ filter.evictedFor (now.sub window) other then [] else times) ++
        if other = key then [now] else []) coming := by
  have distinct := hasDistinctKeys_see keeps.distinct now (now.sub window) other
  have later : (times ++ coming).Sublist (times ++ now :: coming) :=
    (List.sublist_cons_self now coming).append_left times
  by_cases evicted : key ∈ filter.evictedFor (now.sub window) other
  · have different : other ≠ key := by
      rintro rfl
      exact notMem_evictedFor_self filter _ other evicted
    rw [if_pos evicted, if_neg different]
    refine ⟨distinct, keeps.ascending.sublist ((List.sublist_append_right _ _).trans later), [], ?_,
      by simp⟩
    rw [stampsOf_see_of_evicted keeps.distinct now evicted]
  · rw [if_neg evicted]
    obtain ⟨old, all, expired⟩ := keeps.forget isFiniteWindow
    by_cases same : other = key
    · subst same
      rw [if_pos rfl]
      refine ⟨distinct, by simpa using keeps.ascending, old, ?_, expired⟩
      rw [stampsOf_see_self, ← List.append_assoc, ← all]
    · rw [if_neg same, List.append_nil]
      refine ⟨distinct, keeps.ascending.sublist later, ?_⟩
      rcases stampsOf_see_of_kept keeps.distinct now (Ne.symm same) evicted with stays | shorter
      · obtain ⟨old, all, expired⟩ := keeps.forgotten
        rw [stays]
        exact ⟨old, all, fun stamp member late comes =>
          expired stamp member late (List.mem_cons_of_mem _ comes)⟩
      · rw [shorter]
        exact ⟨old, all, expired⟩

end

/-- One time at which a message was seen, and whether it passed. -/
structure Sighting where
  time : Binary64
  passed : Bool
  deriving DecidableEq, Repr

/-- Whether an answer lets the record pass. -/
def isPass : Except Failure RepeatVerdict → Bool
  | .ok verdict => verdict.passed
  | .error _ => false

/-- The messages that are evicted when a record is offered. -/
def evictedBy (filter : RepeatFilter) (now : Binary64) (record : LogRecord) : List RepeatKey :=
  match filter.cutoff? now with
  | some cutoff =>
    if record.isSummary then [] else filter.evictedFor cutoff (RepeatKey.ofRecord record)
  | none => []

/-- What was seen of a message since it was last evicted, once another record has been offered. -/
def noted (filter : RepeatFilter) (key : RepeatKey) (now : Binary64) (record : LogRecord)
    (seen : List Sighting) : List Sighting :=
  (if key ∈ filter.evictedBy now record then [] else seen) ++
    if RepeatKey.ofRecord record = key then [⟨now, isPass (filter.offer now record).2⟩] else []

/-- What was seen of a message since it was last evicted, once records have been offered one after
the other, each at its time; some of it may have been seen before. -/
def sightings (filter : RepeatFilter) (key : RepeatKey) (seen : List Sighting) :
    List (Binary64 × LogRecord) → List Sighting
  | [] => seen
  | (now, record) :: rest =>
    (filter.offer now record).1.sightings key (filter.noted key now record seen) rest

def countWithin (start stop : Binary64) (seen : List Sighting) : Nat :=
  seen.countP fun sighting => !sighting.time.below start && !stop.below sighting.time

section

variable {filter : RepeatFilter} {window now cutoff : Binary64} {key : RepeatKey}
  {record : LogRecord} {seen : List Sighting} {times coming : List Binary64}

theorem limits_offer (filter : RepeatFilter) (now : Binary64) (record : LogRecord) :
    (filter.offer now record).1.limits = filter.limits := by
  unfold offer
  split
  · rfl
  · dsimp only
    split
    · unfold unseen
      split
      · rfl
      · split <;> rfl
    · exact limits_see filter now _ _

theorem limits_history (filter : RepeatFilter) (offered : List (Binary64 × LogRecord)) :
    (filter.history offered).1.limits = filter.limits := by
  induction offered generalizing filter with
  | nil => rfl
  | cons offer rest ih => exact (ih _).trans (limits_offer filter offer.1 offer.2)

theorem evictedBy_eq (ordinary : record.isSummary = false)
    (made : Binary64.ofInt? filter.limits.windowSeconds = some window) :
    filter.evictedBy now record =
      filter.evictedFor (now.sub window) (RepeatKey.ofRecord record) := by
  simp [evictedBy, cutoff?, made, ordinary]

theorem time_noted (filter : RepeatFilter) (key : RepeatKey) (now : Binary64) (record : LogRecord)
    (seen : List Sighting) :
    (filter.noted key now record seen).map Sighting.time =
      (if key ∈ filter.evictedBy now record then [] else seen.map Sighting.time) ++
        if RepeatKey.ofRecord record = key then [now] else [] := by
  unfold noted
  split <;> split <;> simp

/-- Offering a record keeps what was seen of every message since it was last evicted. -/
theorem Keeps.offer
    (keeps : filter.Keeps window key (seen.map Sighting.time) (now :: coming))
    (made : Binary64.ofInt? filter.limits.windowSeconds = some window)
    (ordinary : record.isSummary = false) :
    (filter.offer now record).1.Keeps window key
      ((filter.noted key now record seen).map Sighting.time) coming := by
  rw [time_noted, evictedBy_eq ordinary made, offer_eq_see ordinary made]
  exact keeps.see (Binary64.ofInt?_natCast made).1 (RepeatKey.ofRecord record)

/-- So it is after records that are offered one after the other. -/
theorem Keeps.run {earlier : List (Binary64 × LogRecord)}
    (keeps : filter.Keeps window key (seen.map Sighting.time) (earlier.map Prod.fst ++ coming))
    (made : Binary64.ofInt? filter.limits.windowSeconds = some window)
    (ordinary : ∀ entry ∈ earlier, entry.2.isSummary = false) :
    (filter.history earlier).1.Keeps window key
      ((filter.sightings key seen earlier).map Sighting.time) coming := by
  induction earlier generalizing filter seen with
  | nil => exact keeps
  | cons offer rest ih =>
    have onward := keeps.offer made (ordinary offer List.mem_cons_self)
    exact ih onward (limits_offer filter offer.1 offer.2 ▸ made)
      fun entry member => ordinary entry (List.mem_cons_of_mem _ member)

/-- The limit holds in the window: a record passes if its message was seen less often in it. -/
theorem Keeps.passed_offer
    (keeps : filter.Keeps window (RepeatKey.ofRecord record) (seen.map Sighting.time)
      (now :: coming))
    (made : Binary64.ofInt? filter.limits.windowSeconds = some window)
    (ordinary : record.isSummary = false) :
    isPass (filter.offer now record).2 = true ↔
      countWithin (now.sub window) now seen < filter.limits.maxPerWindow := by
  have all : countWithin (now.sub window) now seen =
      (seen.map Sighting.time).countP fun stamp => !stamp.below (now.sub window) := by
    rw [List.countP_map, countWithin]
    refine List.countP_congr fun sighting member => ?_
    have present : now.below sighting.time = false :=
      keeps.ascending.not_below (List.mem_map_of_mem member) List.mem_cons_self
    simp [present]
  rw [all, ← keeps.seenSince_eq List.mem_cons_self, offer_eq_see ordinary made]
  exact passed_see filter now (now.sub window) (RepeatKey.ofRecord record)

/-- Dropping what has expired at some time changes no later decision. -/
theorem Keeps.passed_expired
    (keeps : filter.Keeps window (RepeatKey.ofRecord record) (seen.map Sighting.time)
      (now :: coming))
    (made : Binary64.ofInt? filter.limits.windowSeconds = some window)
    (ordinary : record.isSummary = false) {before : Binary64} (isFinite : before.IsFinite)
    (order : now.below before = false) :
    isPass ((filter.expired (before.sub window)).offer now record).2 =
      isPass (filter.offer now record).2 := by
  have isFiniteNow : now.IsFinite := keeps.ascending.isFinite now (by simp)
  have same : (filter.expired (before.sub window)).seenSince (now.sub window)
      (RepeatKey.ofRecord record) =
        filter.seenSince (now.sub window) (RepeatKey.ofRecord record) := by
    change (((filter.expired (before.sub window)).stampsOf _).dropWhile _).length =
      ((filter.stampsOf _).dropWhile _).length
    obtain ⟨old, all, -⟩ := keeps.forgotten
    have later := dropWhile_append_of_dropWhile (filter.stampsOf (RepeatKey.ofRecord record)) []
      fun stamp member old => Binary64.below_sub_mono
        (keeps.ascending.isFinite stamp (by rw [all]; simp [member])) isFinite isFiniteNow
        (Binary64.ofInt?_natCast made).1 order old
    rw [stampsOf_expired keeps.distinct]
    simpa using congrArg List.length later
  have limits : (filter.expired (before.sub window)).limits = filter.limits := rfl
  rw [offer_eq_see ordinary made, offer_eq_see ordinary (limits ▸ made), Bool.eq_iff_iff]
  change (RepeatFilter.see _ _ _ _).2.passed = true ↔ (filter.see _ _ _).2.passed = true
  rw [passed_see, passed_see, same, limits]

/-- Whether no more than some limit passed of a message in any interval of a length. -/
def PassesAtMost (limit : Nat) (length : ℚ) (seen : List Sighting) : Prop :=
  ∀ few : List Sighting, few.Sublist seen → ∀ start : ℚ,
    (∀ sighting ∈ few, sighting.passed = true ∧ start ≤ sighting.time.value ∧
      sighting.time.value ≤ start + length) →
    few.length ≤ limit

theorem PassesAtMost.sublist {limit : Nat} {length : ℚ} {some_ : List Sighting}
    (bounded : PassesAtMost limit length seen) (among : some_.Sublist seen) :
    PassesAtMost limit length some_ := fun few within => bounded few (within.trans among)

/-- A record that passes is not one too many in any interval: all that passed in an interval that it
ends lies in its window. -/
theorem Keeps.passesAtMost_noted
    (keeps : filter.Keeps window key (seen.map Sighting.time) (now :: coming))
    (made : Binary64.ofInt? filter.limits.windowSeconds = some window)
    (ordinary : record.isSummary = false)
    (bounded : PassesAtMost filter.limits.maxPerWindow window.value seen) :
    PassesAtMost filter.limits.maxPerWindow window.value
      (filter.noted key now record seen) := by
  have kept : (if key ∈ filter.evictedBy now record then [] else seen).Sublist seen := by
    split
    · exact List.nil_sublist seen
    · exact List.Sublist.refl seen
  unfold noted
  by_cases own : RepeatKey.ofRecord record = key
  · subst own
    rw [if_pos rfl]
    intro few among start within
    obtain ⟨before, last, rfl, amongBefore, amongLast⟩ := List.sublist_append_iff.mp among
    rcases List.sublist_singleton.mp amongLast with rfl | rfl
    · rw [List.append_nil] at within ⊢
      exact bounded before (amongBefore.trans kept) start within
    · obtain ⟨passed, -, ends⟩ := within _ (List.mem_append_right _ (List.mem_singleton_self _))
      have room := (keeps.passed_offer made ordinary).mp passed
      have isFinite := keeps.ascending.isFinite
      have inWindow : countWithin (now.sub window) now before = before.length := by
        rw [countWithin, List.countP_eq_length]
        intro sighting member
        have earlier : sighting.time ∈ seen.map Sighting.time :=
          List.mem_map.mpr ⟨sighting, (amongBefore.trans kept).subset member, rfl⟩
        obtain ⟨-, starts, -⟩ := within sighting (List.mem_append_left _ member)
        have young := Binary64.not_below_sub_of_le
          (isFinite _ (List.mem_append_left _ earlier)) (isFinite now (by simp))
          (Binary64.ofInt?_natCast made).1 (by linarith)
        have present := keeps.ascending.not_below earlier List.mem_cons_self
        simp [young, present]
      have atMost : countWithin (now.sub window) now before ≤
          countWithin (now.sub window) now seen := (amongBefore.trans kept).countP_le
      rw [List.length_append, List.length_singleton]
      omega
  · rw [if_neg own, List.append_nil]
    exact bounded.sublist kept

/-- So it is for all that was seen since the last eviction. -/
theorem Keeps.passesAtMost_run {offered : List (Binary64 × LogRecord)}
    (keeps : filter.Keeps window key (seen.map Sighting.time) (offered.map Prod.fst))
    (made : Binary64.ofInt? filter.limits.windowSeconds = some window)
    (ordinary : ∀ entry ∈ offered, entry.2.isSummary = false)
    (bounded : PassesAtMost filter.limits.maxPerWindow window.value seen) :
    PassesAtMost filter.limits.maxPerWindow window.value (filter.sightings key seen offered) := by
  induction offered generalizing filter seen with
  | nil => exact bounded
  | cons offer rest ih =>
    obtain ⟨first, others⟩ := List.forall_mem_cons.mp ordinary
    have limits := limits_offer filter offer.1 offer.2
    have onward := ih (keeps.offer made first) (limits ▸ made) others
    rw [limits] at onward
    exact onward (keeps.passesAtMost_noted made first bounded)

theorem keeps_ofLimits {limits : RepeatLimits} (ascending : Ascending coming) (key : RepeatKey) :
    (ofLimits limits).Keeps window key (([] : List Sighting).map Sighting.time) coming :=
  ⟨hasDistinctKeys_ofLimits limits, ascending, [], rfl, by simp⟩

end

/-- How a filter decides about a record that comes after others: by how often the message was seen
in the window before it since it was last evicted. Dropping what has expired would not change that,
and for a clock that starts at zero the start of the window is exact. -/
structure DecidesByWindow (limits : RepeatLimits) (window : Binary64)
    (earlier : List (Binary64 × LogRecord)) (now : Binary64) (record : LogRecord) : Prop where
  decides : ∃ verdict, (((ofLimits limits).history earlier).1.offer now record).2 = .ok verdict ∧
    (verdict.passed = true ↔
      countWithin (now.sub window) now
          ((ofLimits limits).sightings (RepeatKey.ofRecord record) [] earlier) <
        limits.maxPerWindow)
  dropping : ∀ before : Binary64, before.IsFinite → now.below before = false →
    isPass
        ((((ofLimits limits).history earlier).1.expired (before.sub window)).offer now record).2 =
      isPass (((ofLimits limits).history earlier).1.offer now record).2
  exactly : now.value ≤ Binary64.significandBound →
    ∀ sighting ∈ (ofLimits limits).sightings (RepeatKey.ofRecord record) [] earlier,
      0 ≤ sighting.time.value →
      (sighting.time.below (now.sub window) = false ↔
        now.value - limits.windowSeconds ≤ sighting.time.value)

/-- Whatever records are offered in the order of their times, each passes exactly if its message was
seen less often in the window before it than may pass, of all times since it was last evicted. So no
more records with a message pass in any interval of that length between two evictions. A filter
whose window is too long to be worked out fails at every record instead. -/
theorem passes_iff_few_in_window (limits : RepeatLimits) {offered : List (Binary64 × LogRecord)}
    (ascending : Ascending (offered.map Prod.fst))
    (ordinary : ∀ entry ∈ offered, entry.2.isSummary = false) :
    (∀ window, Binary64.ofInt? limits.windowSeconds = some window →
      (∀ earlier now record later, offered = earlier ++ (now, record) :: later →
        DecidesByWindow limits window earlier now record) ∧
      (∀ earlier later, offered = earlier ++ later → ∀ key,
        PassesAtMost limits.maxPerWindow window.value
          ((ofLimits limits).sightings key [] earlier)) ∧
      (limits.windowSeconds ≤ Binary64.significandBound → window.value = limits.windowSeconds)) ∧
    (Binary64.ofInt? limits.windowSeconds = none →
      ∀ earlier now record later, offered = earlier ++ (now, record) :: later →
        (((ofLimits limits).history earlier).1.offer now record).2 =
          .error (.number .tooLarge)) := by
  constructor
  · intro window made
    refine ⟨?_, ?_, Binary64.value_ofInt? made⟩
    · rintro earlier now record later rfl
      simp only [List.forall_mem_append, List.forall_mem_cons] at ordinary
      rw [List.map_append, List.map_cons] at ascending
      have keeps := (keeps_ofLimits ascending (RepeatKey.ofRecord record)).run made ordinary.1
      have limitsAfter : ((ofLimits limits).history earlier).1.limits = limits :=
        limits_history (ofLimits limits) earlier
      have madeAfter : Binary64.ofInt? ((ofLimits limits).history earlier).1.limits.windowSeconds =
          some window := by rw [limitsAfter, made]
      refine ⟨?_, ?_, ?_⟩
      · have passed := keeps.passed_offer madeAfter ordinary.2.1
        rw [offer_eq_see ordinary.2.1 madeAfter] at passed ⊢
        rw [limitsAfter] at passed
        exact ⟨_, rfl, passed⟩
      · intro before isFinite order
        exact keeps.passed_expired madeAfter ordinary.2.1 isFinite order
      · intro small sighting member nonnegative
        have isFinite := keeps.ascending.isFinite
        exact Binary64.not_below_sub_iff made
          (isFinite _ (List.mem_append_left _ (List.mem_map_of_mem member)))
          (isFinite now (by simp)) nonnegative small
    · rintro earlier later rfl key
      rw [List.map_append] at ascending
      have start := ascending.sublist (List.sublist_append_left _ _)
      have ordinaryEarlier : ∀ entry ∈ earlier, entry.2.isSummary = false :=
        fun entry member => ordinary entry (List.mem_append_left _ member)
      have nothing : PassesAtMost limits.maxPerWindow window.value [] := by
        intro few among start within
        rw [List.sublist_nil.mp among]
        exact Nat.zero_le _
      exact (keeps_ofLimits start key).passesAtMost_run made ordinaryEarlier nothing
  · rintro tooLarge earlier now record later rfl
    have limitsAfter : ((ofLimits limits).history earlier).1.limits = limits :=
      limits_history (ofLimits limits) earlier
    have ordinaryNow : record.isSummary = false := ordinary (now, record) (by simp)
    rw [offer_tooLarge ordinaryNow (by rw [limitsAfter, tooLarge])]

/-- A message that takes the only place of another one. -/
def interruption : LogRecord where
  level := Level.info
  logger := "app"
  message := "ready"
  context := none

/-- Two equal messages, then another one. -/
def crowded : List (Binary64 × LogRecord) :=
  [(second 0, chatter), (second 1, chatter), (second 2, interruption)]

theorem ascending_crowded : Ascending ((crowded ++ [(second 3, chatter)]).map Prod.fst) := by
  have isFinite {count : Nat} (made : Binary64.ofInt? count = some (second count)) :
      (second count).IsFinite := (Binary64.ofInt?_natCast made).1
  refine ⟨?_, by decide +kernel⟩
  intro time member
  simp only [crowded, List.cons_append, List.nil_append, List.map_cons, List.map_nil,
    List.mem_cons, List.not_mem_nil, or_false] at member
  rcases member with rfl | rfl | rfl | rfl
  · exact isFinite (by decide +kernel)
  · exact isFinite (by decide +kernel)
  · exact isFinite (by decide +kernel)
  · exact isFinite (by decide +kernel)

def oneAMinute : RepeatLimits := ⟨60, 1, 1, Level.info⟩

/-- One message in more seconds than a number can count. -/
def oneForever : RepeatLimits := ⟨Nat.pow 10 400, 1, 1, Level.info⟩

/-- A message that was seen a moment ago passes again once another one has taken its place. If the
window has too many seconds for a number, nothing is decided. -/
theorem passes_once_evicted :
    (ofLimits oneAMinute).sightings (RepeatKey.ofRecord chatter) [] (crowded.take 2) =
        [⟨second 0, true⟩, ⟨second 1, false⟩] ∧
      (∃ verdict, (((ofLimits oneAMinute).history crowded).1.offer (second 3) chatter).2 =
        .ok verdict ∧ verdict.passed = true) ∧
      (((ofLimits oneForever).history crowded).1.offer (second 3) chatter).2 =
        .error (.number .tooLarge) := by
  have ordinary : ∀ entry ∈ crowded ++ [(second 3, chatter)], entry.2.isSummary = false := by
    decide +kernel
  obtain ⟨minute, made⟩ : ∃ window, Binary64.ofInt? oneAMinute.windowSeconds = some window := by
    rw [← Option.isSome_iff_exists]
    decide +kernel
  have long : Binary64.ofInt? oneForever.windowSeconds = none := by decide +kernel
  have decided := (passes_iff_few_in_window oneAMinute ascending_crowded ordinary).1 minute made
  obtain ⟨verdict, answered, passes⟩ := (decided.1 crowded (second 3) chatter [] rfl).decides
  have evicted : (ofLimits oneAMinute).sightings (RepeatKey.ofRecord chatter) [] crowded = [] := by
    decide +kernel
  rw [evicted] at passes
  refine ⟨by decide +kernel, ⟨verdict, answered, passes.mpr Nat.one_pos⟩, ?_⟩
  exact (passes_iff_few_in_window oneForever ascending_crowded ordinary).2 long crowded (second 3)
    chatter [] rfl

end RepeatFilter

end StorageLayout
