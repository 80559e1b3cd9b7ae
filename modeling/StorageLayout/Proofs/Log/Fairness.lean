import StorageLayout.Proofs.Log.Recency

/-! How a filter makes room. Main statement: the table is bounded and in order after every run, and
whatever record comes next, at most one window goes in which something is left. It is that of the
message seen longest ago, and one that has a time in the window of time before the record goes only
if all others have one as well. -/

namespace StorageLayout

theorem exists_of_bind_eq_ok {ε α β : Type} {first : Except ε α} {next : α → Except ε β}
    {result : β} (made : first >>= next = .ok result) :
    ∃ value, first = .ok value ∧ next value = .ok result := by
  cases first with
  | ok value => exact ⟨value, rfl, made⟩
  | error problem => cases made

namespace RepeatLimits

theorem one_le_of_countOf {value : Value} {count : Nat} (read : countOf value = .ok count) :
    1 ≤ count := by
  unfold countOf at read
  split at read
  · obtain rfl := Except.ok.inj read
    omega
  · cases read

/-- A filter may track a message at least. -/
theorem one_le_maxKeys {windowSeconds maxPerWindow summaryLevel maxKeys : Value}
    {limits : RepeatLimits}
    (made : ofValues windowSeconds maxPerWindow summaryLevel maxKeys = .ok limits) :
    1 ≤ limits.maxKeys := by
  unfold ofValues at made
  obtain ⟨window, -, made⟩ := exists_of_bind_eq_ok made
  obtain ⟨perWindow, -, made⟩ := exists_of_bind_eq_ok made
  obtain ⟨level, -, made⟩ := exists_of_bind_eq_ok made
  obtain ⟨keys, read, made⟩ := exists_of_bind_eq_ok made
  obtain rfl := Except.ok.inj made
  exact one_le_of_countOf read

end RepeatLimits

namespace RepeatFilter

def Loses (filter : RepeatFilter) (now : Binary64) (record : LogRecord) (key : RepeatKey) : Prop :=
  filter.Tracks key ∧ ¬ (filter.offer now record).1.Tracks key

/-- Whether a message loses a window in which something is left since a cutoff. -/
def Evicts (filter : RepeatFilter) (now cutoff : Binary64) (record : LogRecord) (key : RepeatKey) :
    Prop :=
  filter.Loses now record key ∧
    ∀ window, filter.window? key = some window → (window.expire cutoff).isSpent = false

def IsOldest (filter : RepeatFilter) (seen : List (Binary64 × RepeatKey)) (key : RepeatKey) :
    Prop :=
  ∀ other, filter.Tracks other → SeenBefore seen key other

section

variable {filter : RepeatFilter} {seen : List (Binary64 × RepeatKey)}
  {window now cutoff : Binary64} {key other : RepeatKey} {record : LogRecord}

theorem tracks_iff_window? : filter.Tracks key ↔ ∃ window, filter.window? key = some window := by
  rw [← Option.isSome_iff_exists, ← Option.ne_none_iff_isSome, ne_eq, window?,
    lookup_eq_none_iff_notMem, not_not, Tracks]

/-- A message that goes when another one is seen is evicted, if something is left in its window. -/
theorem mem_evictedFor_of_lost {own : RepeatWindow} (distinct : filter.HasDistinctKeys)
    (found : filter.window? other = some own)
    (lost : ¬ (filter.see now cutoff key).1.Tracks other)
    (left : (own.expire cutoff).isSpent = false) : other ∈ filter.evictedFor cutoff key := by
  obtain ⟨suppressed, windows⟩ := windows_see filter now cutoff key
  rw [Tracks, windows, List.map_append, List.mem_append, not_or, List.map_singleton,
    List.mem_singleton, ← lookup_eq_none_iff_notMem] at lost
  obtain ⟨gone, different⟩ := lost
  by_contra kept
  rcases lookup_othersThan_of_kept distinct different kept with stays | shorter
  · rw [stays, found] at gone
    cases gone
  · rw [shorter, found] at gone
    simp [left, Option.filter_some] at gone

theorem windows_of_mem_evictedFor (bounded : filter.windows.length ≤ filter.limits.maxKeys)
    (evicted : other ∈ filter.evictedFor cutoff key) :
    ∃ own rest, filter.windows = (other, own) :: rest := by
  unfold evictedFor at evicted
  split at evicted
  · next full =>
    have few := length_unspent_le filter cutoff
    by_cases all : (filter.unspent cutoff).length = filter.windows.length
    · -- No window is spent, so there is one too many.
      have one : (filter.unspent cutoff).length + 1 - filter.limits.maxKeys = 1 := by omega
      have unchanged : filter.unspent cutoff =
          filter.windows.map fun entry => (entry.1, entry.2.expire cutoff) := by
        rw [unspent, List.filter_eq_self, ← List.length_filter_eq_length_iff, List.length_map]
        exact all
      rw [one, unchanged] at evicted
      cases windows : filter.windows with
      | nil =>
        rw [windows] at evicted
        cases evicted
      | cons first rest =>
        rw [windows] at evicted
        obtain rfl := List.mem_singleton.mp evicted
        exact ⟨first.2, rest, rfl⟩
    · have none : (filter.unspent cutoff).length + 1 - filter.limits.maxKeys = 0 := by omega
      rw [none] at evicted
      cases evicted
  · cases evicted

theorem Orderly.isOldest {own : RepeatWindow} {rest : List (RepeatKey × RepeatWindow)}
    (orderly : filter.Orderly seen) (inOrder : InOrder seen)
    (first : filter.windows = (key, own) :: rest) : filter.IsOldest seen key := by
  intro other tracked
  have ordered := orderly.ordered
  rw [Tracks] at tracked
  rw [first, List.map_cons] at ordered tracked
  rcases List.mem_cons.mp tracked with rfl | later
  · obtain ⟨last, found⟩ := orderly.sighted other (by rw [Tracks, first]; simp)
    exact .refl inOrder found
  · exact List.rel_of_pairwise_cons ordered later

/-- If the window of the message seen longest ago has a time in the window of time, all others have
one as well. -/
theorem Recalls.isRecent_of_isOldest {own : RepeatWindow} (recalls : filter.Recalls window seen)
    (inOrder : InOrder (seen ++ [(now, key)]))
    (oldest : filter.IsOldest seen other) (tracked : (other, own) ∈ filter.windows)
    (recent : own.IsRecent (now.sub window)) :
    ∀ entry ∈ filter.windows, entry.2.IsRecent (now.sub window) := by
  intro entry member
  have isFinite {key : RepeatKey} {last : Binary64} (found : lastSeen? seen key = some last) :
      last.IsFinite := by
    obtain ⟨sighting, among, rfl⟩ := mem_of_lastSeen? found
    exact inOrder.isFinite sighting (List.mem_append_left _ among)
  have isFiniteNow : now.IsFinite := inOrder.isFinite (now, key) (by simp)
  obtain ⟨first, last, foundFirst, foundLast, order⟩ :=
    oldest entry.1 (List.mem_map_of_mem member)
  have young := (recalls.recent _ tracked now isFiniteNow inOrder.latest first foundFirst).mp recent
  refine (recalls.recent entry member now isFiniteNow inOrder.latest last foundLast).mpr ?_
  by_contra old
  rw [Binary64.below_of_not_below (isFinite foundFirst) (isFinite foundLast) order
    (by simpa using old)] at young
  cases young

theorem tracks_unseen (tracked : filter.Tracks other) (key : RepeatKey) :
    (filter.unseen key).Tracks other := by
  unfold unseen
  split
  · next own found =>
    rw [Tracks, List.map_append, List.mem_append]
    by_cases same : other = key
    · exact .inr (by simp [same])
    · refine .inl ?_
      obtain ⟨entry, member, rfl⟩ := List.mem_map.mp tracked
      exact List.mem_map_of_mem (List.mem_filter.mpr ⟨member, by simpa using same⟩)
  · split
    · rw [Tracks, List.map_append]
      exact List.mem_append_left _ tracked
    · exact tracked

end

/-- Whether a table makes room for a record fairly. At most one window goes in which something is
left, it is that of the message seen longest ago, and a window that has a time in the window of time
goes only if all have one, and if its message is the one seen longest ago. For a clock that starts
at zero the window of time is exact. -/
structure MakesRoomFairly (filter : RepeatFilter) (seen : List (Binary64 × RepeatKey))
    (now cutoff : Binary64) (record : LogRecord) : Prop where
  single : ∀ key other, filter.Evicts now cutoff record key →
    filter.Evicts now cutoff record other → key = other
  oldest : ∀ key, filter.Evicts now cutoff record key → filter.IsOldest seen key
  lastResort : ∀ key own, filter.window? key = some own → own.IsRecent cutoff →
    filter.Loses now record key →
    (∀ entry ∈ filter.windows, entry.2.IsRecent cutoff) ∧ filter.IsOldest seen key
  exactly : record.isSummary = false → now.value ≤ Binary64.significandBound →
    ∀ entry ∈ filter.windows, (∀ stamp ∈ entry.2.stamps, 0 ≤ stamp.value) →
    (entry.2.IsRecent cutoff ↔
      ∃ stamp ∈ entry.2.stamps, now.value - filter.limits.windowSeconds ≤ stamp.value)

section

variable {filter : RepeatFilter} {seen : List (Binary64 × RepeatKey)}
  {window now : Binary64} {key other : RepeatKey} {record : LogRecord}

theorem not_loses_of_isSummary (report : record.isSummary = true) :
    ¬ filter.Loses now record key := by
  rintro ⟨tracked, lost⟩
  rw [offer, if_pos report] at lost
  exact lost tracked

/-- What is evicted comes first in the table. -/
theorem Evicts.windows_eq (orderly : filter.Orderly seen)
    (made : Binary64.ofInt? filter.limits.windowSeconds = some window)
    (ordinary : record.isSummary = false)
    (evicts : filter.Evicts now (now.sub window) record key) :
    ∃ own rest, filter.windows = (key, own) :: rest := by
  obtain ⟨⟨tracked, lost⟩, left⟩ := evicts
  obtain ⟨own, found⟩ := tracks_iff_window?.mp tracked
  rw [offer_eq_see ordinary made] at lost
  exact windows_of_mem_evictedFor orderly.bounded
    (mem_evictedFor_of_lost orderly.distinct found lost (left own found))

/-- A table in order whose windows show when their messages were last seen makes room fairly. -/
theorem Orderly.makesRoomFairly (orderly : filter.Orderly seen)
    (recalls : filter.Recalls window seen)
    (made : Binary64.ofInt? filter.limits.windowSeconds = some window)
    (ordinary : record.isSummary = false)
    (inOrder : InOrder (seen ++ [(now, RepeatKey.ofRecord record)])) :
    filter.MakesRoomFairly seen now (now.sub window) record := by
  have oldest (key : RepeatKey) (evicts : filter.Evicts now (now.sub window) record key) :
      filter.IsOldest seen key := by
    obtain ⟨own, rest, first⟩ := evicts.windows_eq orderly made ordinary
    exact orderly.isOldest inOrder.of_append first
  refine ⟨?_, oldest, ?_, ?_⟩
  · intro key other evicts evictsOther
    obtain ⟨own, rest, first⟩ := evicts.windows_eq orderly made ordinary
    obtain ⟨ownOther, restOther, firstOther⟩ := evictsOther.windows_eq orderly made ordinary
    rw [first] at firstOther
    exact congrArg Prod.fst (List.cons.inj firstOther).1
  · intro key own found recent loses
    have evicts : filter.Evicts now (now.sub window) record key := by
      refine ⟨loses, fun same foundSame => ?_⟩
      rw [found] at foundSame
      obtain rfl := Option.some.inj foundSame
      exact recent.not_isSpent
    obtain ⟨left, right, tracked, -⟩ := List.lookup_eq_some_iff.mp found
    have member : (key, own) ∈ filter.windows := by
      rw [tracked]
      simp
    exact ⟨recalls.isRecent_of_isOldest inOrder (oldest key evicts) member recent,
      oldest key evicts⟩
  · intro _ small entry member nonnegative
    have exactly (stamp : Binary64) (kept : stamp ∈ entry.2.stamps) :
        stamp.below (now.sub window) = false ↔
          now.value - filter.limits.windowSeconds ≤ stamp.value := by
      obtain ⟨sighting, among, rfl⟩ := recalls.sighted entry member stamp kept
      exact Binary64.not_below_sub_iff made
        (inOrder.isFinite sighting (List.mem_append_left _ among))
        (inOrder.isFinite (now, RepeatKey.ofRecord record) (by simp)) (nonnegative _ kept) small
    constructor
    · rintro ⟨stamp, kept, young⟩
      exact ⟨stamp, kept, (exactly stamp kept).mp young⟩
    · rintro ⟨stamp, kept, within⟩
      exact ⟨stamp, kept, (exactly stamp kept).mpr within⟩

theorem makesRoomFairly_of_isSummary (report : record.isSummary = true) (cutoff : Binary64) :
    filter.MakesRoomFairly seen now cutoff record := by
  have keeps (key : RepeatKey) : ¬ filter.Loses now record key := not_loses_of_isSummary report
  refine ⟨?_, ?_, ?_, ?_⟩
  · exact fun key _ evicts => (keeps key evicts.1).elim
  · exact fun key evicts => (keeps key evicts.1).elim
  · exact fun key _ _ _ loses => (keeps key loses).elim
  · intro ordinary
    rw [report] at ordinary
    cases ordinary

end

/-- Whatever records are offered to a filter in the order of their times, after each of them the
table holds no more messages than it may, in the order in which they were last seen, and it makes
room fairly for the one that comes next. If the window of time is too long to be worked out, nothing
goes. -/
theorem orderly_and_fair {windowSeconds maxPerWindow summaryLevel maxKeys : Value}
    {limits : RepeatLimits}
    (made : RepeatLimits.ofValues windowSeconds maxPerWindow summaryLevel maxKeys = .ok limits)
    {offered : List (Binary64 × LogRecord)} (inOrder : InOrder (shown offered)) :
    (∀ earlier later, offered = earlier ++ later →
      ((ofLimits limits).history earlier).1.trackedKeys ≤ limits.maxKeys ∧
        ((ofLimits limits).history earlier).1.Orderly (shown earlier)) ∧
    ∀ earlier now record later, offered = earlier ++ (now, record) :: later →
      (∀ window, Binary64.ofInt? limits.windowSeconds = some window →
        ((ofLimits limits).history earlier).1.MakesRoomFairly (shown earlier) now (now.sub window)
          record) ∧
      (Binary64.ofInt? limits.windowSeconds = none →
        ∀ key, ¬ ((ofLimits limits).history earlier).1.Loses now record key) := by
  have some_ : 1 ≤ limits.maxKeys := RepeatLimits.one_le_maxKeys made
  have orderly (earlier later : List (Binary64 × LogRecord)) (split : offered = earlier ++ later) :
      ((ofLimits limits).history earlier).1.Orderly (shown earlier) := by
    rw [split, shown_append] at inOrder
    exact (orderly_ofLimits limits).history some_ inOrder.of_append
  constructor
  · intro earlier later split
    have inTable := orderly earlier later split
    have bounded := inTable.bounded
    rw [limits_history] at bounded
    exact ⟨bounded, inTable⟩
  · rintro earlier now record later rfl
    have inTable := orderly earlier ((now, record) :: later) rfl
    have limitsAfter : ((ofLimits limits).history earlier).1.limits = limits :=
      limits_history (ofLimits limits) earlier
    cases ordinary : record.isSummary with
    | true =>
      exact ⟨fun window _ => makesRoomFairly_of_isSummary ordinary _,
        fun _ key => not_loses_of_isSummary ordinary⟩
    | false =>
      constructor
      · intro window worked
        rw [← List.singleton_append, ← List.append_assoc, shown_append, shown_append,
          shown_singleton ordinary] at inOrder
        have upToNow := inOrder.of_append
        have recalls := (recalls_ofLimits limits window).history worked upToNow.of_append
        exact inTable.makesRoomFairly recalls (by rw [limitsAfter, worked]) ordinary upToNow
      · rintro tooLarge key ⟨tracked, lost⟩
        rw [offer_tooLarge ordinary (by rw [limitsAfter, tooLarge])] at lost
        exact lost (tracks_unseen tracked _)

/-- A message that comes when there is no room. -/
def arrival : LogRecord where
  level := Level.info
  logger := "app"
  message := "hello"
  context := none

def pairAMinute : RepeatLimits := ⟨60, 1, 2, Level.info⟩

/-- Two messages, of which the one that came first comes once more. -/
def returning : List (Binary64 × LogRecord) :=
  [(second 0, chatter), (second 1, interruption), (second 2, chatter)]

/-- Of two messages that came in the last minute the one that was not seen again goes when a third
one comes. -/
theorem loses_unless_seen_again :
    RepeatLimits.ofValues (.int 60) (.int 1) (.int Level.info) (.int 2) = .ok pairAMinute ∧
      InOrder (shown (returning ++ [(second 3, arrival)])) ∧
      ((ofLimits pairAMinute).history returning).1.Loses (second 3) arrival
        (RepeatKey.ofRecord interruption) ∧
      ((ofLimits pairAMinute).history returning).1.IsOldest (shown returning)
        (RepeatKey.ofRecord interruption) ∧
      ((ofLimits pairAMinute).history (returning ++ [(second 3, arrival)])).1.trackedKeys ≤ 2 := by
  have made : RepeatLimits.ofValues (.int 60) (.int 1) (.int Level.info) (.int 2) =
      .ok pairAMinute := by rfl
  have inOrder : InOrder (shown (returning ++ [(second 3, arrival)])) := by
    have counted : ∀ entry ∈ shown (returning ++ [(second 3, arrival)]), ∃ count ∈ List.range 4,
        Binary64.ofInt? count = some entry.1 := by decide +kernel
    refine ⟨fun entry member => ?_, by decide +kernel⟩
    obtain ⟨count, -, isSecond⟩ := counted entry member
    exact (Binary64.ofInt?_natCast isSecond).1
  have loses : ((ofLimits pairAMinute).history returning).1.Loses (second 3) arrival
      (RepeatKey.ofRecord interruption) := by
    rw [Loses, Tracks, Tracks]
    decide +kernel
  obtain ⟨minute, worked⟩ :
      ∃ window, Binary64.ofInt? pairAMinute.windowSeconds = some window := by
    rw [← Option.isSome_iff_exists]
    decide +kernel
  have recent : (⟨[second 1], 0⟩ : RepeatWindow).IsRecent ((second 3).sub minute) := by
    refine ⟨second 1, by simp, ?_⟩
    obtain rfl : minute = second 60 := by
      rw [← Option.some.injEq, ← worked]
      decide +kernel
    decide +kernel
  have all := orderly_and_fair made inOrder
  have fair := (all.2 returning (second 3) arrival [] rfl).1 minute worked
  have last := fair.lastResort _ _ (by decide +kernel) recent loses
  exact ⟨made, inOrder, loses, last.2, (all.1 _ [] (List.append_nil _).symm).1⟩

end RepeatFilter

end StorageLayout
