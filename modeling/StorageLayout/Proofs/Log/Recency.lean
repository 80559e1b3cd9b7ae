import StorageLayout.Proofs.Log.Decisions

namespace StorageLayout

namespace RepeatWindow

def IsRecent (cutoff : Binary64) (window : RepeatWindow) : Prop :=
  ∃ stamp ∈ window.stamps, stamp.below cutoff = false

variable {window : RepeatWindow} {cutoff later : Binary64}

theorem mem_expire {stamp : Binary64} (member : stamp ∈ window.stamps)
    (young : stamp.below cutoff = false) : stamp ∈ (window.expire cutoff).stamps := by
  rw [← List.takeWhile_append_dropWhile (p := fun stamp => stamp.below cutoff) (l := window.stamps),
    List.mem_append] at member
  rcases member with old | kept
  · have expired := List.mem_takeWhile_imp old
    rw [young] at expired
    cases expired
  · exact kept

theorem stamps_expire_subset (cutoff : Binary64) (window : RepeatWindow) :
    (window.expire cutoff).stamps ⊆ window.stamps := (List.dropWhile_sublist _).subset

theorem isRecent_expire
    (older : ∀ stamp ∈ window.stamps, stamp.below cutoff = true → stamp.below later = true) :
    (window.expire cutoff).IsRecent later ↔ window.IsRecent later := by
  constructor
  · rintro ⟨stamp, member, young⟩
    exact ⟨stamp, stamps_expire_subset cutoff window member, young⟩
  · rintro ⟨stamp, member, young⟩
    refine ⟨stamp, mem_expire member ?_, young⟩
    by_contra old
    rw [older stamp member (by simpa using old)] at young
    cases young

theorem IsRecent.not_isSpent (recent : window.IsRecent cutoff) :
    (window.expire cutoff).isSpent = false := by
  obtain ⟨stamp, member, young⟩ := recent
  have left := List.ne_nil_of_mem (mem_expire member young)
  simp [isSpent, left]

/-- A window that ends with its latest time is recent exactly if this time is. -/
theorem isRecent_iff_of_latest {now : Binary64} {old : List Binary64}
    (stamps : window.stamps = old ++ [now]) (isFinite : now.IsFinite)
    (latest : ∀ stamp ∈ old, stamp.IsFinite ∧ now.below stamp = false) :
    window.IsRecent cutoff ↔ now.below cutoff = false := by
  constructor
  · rintro ⟨stamp, member, young⟩
    rw [stamps, List.mem_append, List.mem_singleton] at member
    rcases member with member | rfl
    · obtain ⟨isFiniteStamp, order⟩ := latest stamp member
      by_contra expired
      have tooOld : stamp.below cutoff = true :=
        Binary64.below_of_not_below isFiniteStamp isFinite order (by simpa using expired)
      rw [tooOld] at young
      cases young
    · exact young
  · intro young
    exact ⟨now, by rw [stamps]; simp, young⟩

end RepeatWindow

namespace RepeatFilter

/-- The messages that records show to a filter, with their times. Reports go past it. -/
def shown (offered : List (Binary64 × LogRecord)) : List (Binary64 × RepeatKey) :=
  (offered.filter fun entry => !entry.2.isSummary).map fun entry =>
    (entry.1, RepeatKey.ofRecord entry.2)

def lastSeen? (seen : List (Binary64 × RepeatKey)) (key : RepeatKey) : Option Binary64 :=
  (timesOf key seen).getLast?

def SeenBefore (seen : List (Binary64 × RepeatKey)) (key other : RepeatKey) : Prop :=
  ∃ first second, lastSeen? seen key = some first ∧ lastSeen? seen other = some second ∧
    second.below first = false

def Tracks (filter : RepeatFilter) (key : RepeatKey) : Prop := key ∈ filter.windows.map Prod.fst

section

variable {seen : List (Binary64 × RepeatKey)} {now last : Binary64}
  {key other early late : RepeatKey}

theorem lastSeen?_append_self : lastSeen? (seen ++ [(now, key)]) key = some now := by
  rw [lastSeen?, timesOf_append_self, List.getLast?_concat]

theorem lastSeen?_append_other (different : other ≠ key) :
    lastSeen? (seen ++ [(now, key)]) other = lastSeen? seen other := by
  rw [lastSeen?, timesOf_append_other different, lastSeen?]

theorem mem_of_lastSeen? (found : lastSeen? seen key = some last) :
    ∃ sighting ∈ seen, sighting.1 = last :=
  mem_of_mem_timesOf (List.mem_of_getLast? found)

theorem SeenBefore.refl (inOrder : InOrder seen) (found : lastSeen? seen key = some last) :
    SeenBefore seen key key := by
  obtain ⟨sighting, member, rfl⟩ := mem_of_lastSeen? found
  exact ⟨_, _, found, found, Binary64.not_below_self (inOrder.isFinite sighting member)⟩

theorem SeenBefore.append_other (before : SeenBefore seen early late) (different : early ≠ key)
    (differentLate : late ≠ key) : SeenBefore (seen ++ [(now, key)]) early late := by
  obtain ⟨first, second, foundFirst, foundSecond, order⟩ := before
  refine ⟨first, second, ?_, ?_, order⟩
  · rw [lastSeen?_append_other different, foundFirst]
  · rw [lastSeen?_append_other differentLate, foundSecond]

theorem InOrder.latest (inOrder : InOrder (seen ++ [(now, key)])) :
    ∀ sighting ∈ seen, now.below sighting.1 = false := fun sighting member =>
  (List.pairwise_append.mp inOrder.ordered).2.2 sighting member (now, key) (by simp)

theorem SeenBefore.append_self (inOrder : InOrder (seen ++ [(now, key)]))
    (found : lastSeen? seen other = some last) (different : other ≠ key) :
    SeenBefore (seen ++ [(now, key)]) other key := by
  obtain ⟨sighting, member, rfl⟩ := mem_of_lastSeen? found
  refine ⟨sighting.1, now, ?_, lastSeen?_append_self, inOrder.latest sighting member⟩
  rw [lastSeen?_append_other different, found]

end

/-- Whether a table is in order: no message has two windows, there are not too many, and they are
those of messages that were seen, the one seen longest ago first. -/
structure Orderly (filter : RepeatFilter) (seen : List (Binary64 × RepeatKey)) : Prop where
  distinct : filter.HasDistinctKeys
  bounded : filter.windows.length ≤ filter.limits.maxKeys
  sighted : ∀ key, filter.Tracks key → ∃ last, lastSeen? seen key = some last
  ordered : (filter.windows.map Prod.fst).Pairwise (SeenBefore seen)

section

variable {filter after : RepeatFilter} {seen : List (Binary64 × RepeatKey)} {now cutoff : Binary64}
  {key : RepeatKey} {record : LogRecord}

theorem orderly_ofLimits (limits : RepeatLimits) : (ofLimits limits).Orderly [] :=
  ⟨hasDistinctKeys_ofLimits limits, Nat.zero_le _, fun _ tracked => (List.not_mem_nil tracked).elim,
    .nil⟩

/-- A message that is seen moves behind others for which there is room beside it. -/
theorem Orderly.append (orderly : filter.Orderly seen) (inOrder : InOrder (seen ++ [(now, key)]))
    {others : List (RepeatKey × RepeatWindow)}
    (kept : (others.map Prod.fst).Sublist (filter.windows.map Prod.fst))
    (absent : key ∉ others.map Prod.fst) (room : others.length < filter.limits.maxKeys)
    {window : RepeatWindow} (limits : after.limits = filter.limits)
    (windows : after.windows = others ++ [(key, window)]) :
    after.Orderly (seen ++ [(now, key)]) := by
  have different {other : RepeatKey} (member : other ∈ others.map Prod.fst) : other ≠ key := by
    rintro rfl
    exact absent member
  refine ⟨?_, ?_, ?_, ?_⟩
  · rw [HasDistinctKeys, windows]
    exact nodup_append_window (orderly.distinct.sublist kept) absent window
  · rw [windows, limits, List.length_append]
    exact room
  · intro other tracked
    rw [Tracks, windows, List.map_append, List.mem_append, List.map_singleton,
      List.mem_singleton] at tracked
    rcases tracked with member | rfl
    · rw [lastSeen?_append_other (different member)]
      exact orderly.sighted other (kept.subset member)
    · exact ⟨now, lastSeen?_append_self⟩
  · rw [windows, List.map_append, List.pairwise_append]
    refine ⟨?_, List.pairwise_singleton _ _, ?_⟩
    · refine (orderly.ordered.sublist kept).imp_of_mem fun {early late} isEarly isLate before => ?_
      exact before.append_other (different isEarly) (different isLate)
    · intro other member own isOwn
      obtain rfl := List.mem_singleton.mp isOwn
      obtain ⟨last, found⟩ := orderly.sighted other (kept.subset member)
      exact .append_self inOrder found (different member)

theorem Orderly.skip (orderly : filter.Orderly seen) (untracked : ¬ filter.Tracks key) :
    filter.Orderly (seen ++ [(now, key)]) := by
  have different {other : RepeatKey} (tracked : filter.Tracks other) : other ≠ key := by
    rintro rfl
    exact untracked tracked
  refine ⟨orderly.distinct, orderly.bounded, ?_, ?_⟩
  · intro other tracked
    rw [lastSeen?_append_other (different tracked)]
    exact orderly.sighted other tracked
  · refine orderly.ordered.imp_of_mem fun {early late} isEarly isLate before => ?_
    exact before.append_other (different isEarly) (different isLate)

theorem length_without_lt {windows : List (RepeatKey × RepeatWindow)} {window : RepeatWindow}
    (found : windows.lookup key = some window) :
    (windows.filter fun entry => entry.1 ≠ key).length < windows.length := by
  rw [List.length_filter_lt_length_iff_exists]
  by_contra none
  have absent : key ∉ windows.map Prod.fst := by
    intro member
    obtain ⟨entry, tracked, rfl⟩ := List.mem_map.mp member
    exact none ⟨entry, tracked, by simp⟩
  rw [lookup_eq_none_iff_notMem.mpr absent] at found
  cases found

theorem length_unspent_le (filter : RepeatFilter) (cutoff : Binary64) :
    (filter.unspent cutoff).length ≤ filter.windows.length := by
  rw [unspent]
  exact (List.length_filter_le _ _).trans (List.length_map _).le

theorem Orderly.length_othersThan_lt (orderly : filter.Orderly seen)
    (some_ : 1 ≤ filter.limits.maxKeys) (cutoff : Binary64) (key : RepeatKey) :
    (filter.othersThan cutoff key).1.length < filter.limits.maxKeys := by
  have bounded := orderly.bounded
  unfold othersThan
  split
  · next window found => exact (length_without_lt found).trans_le bounded
  · next untracked =>
    by_cases room : filter.windows.length < filter.limits.maxKeys
    · rw [makeRoom_of_room room]
      exact room
    · have few := length_unspent_le filter cutoff
      rw [makeRoom_of_full (not_lt.mp room), List.length_drop]
      omega

theorem Orderly.see (orderly : filter.Orderly seen) (some_ : 1 ≤ filter.limits.maxKeys)
    (inOrder : InOrder (seen ++ [(now, key)])) (cutoff : Binary64) :
    (filter.see now cutoff key).1.Orderly (seen ++ [(now, key)]) := by
  obtain ⟨kept, absent⟩ := keys_othersThan filter cutoff key
  obtain ⟨suppressed, windows⟩ := windows_see filter now cutoff key
  have room := orderly.length_othersThan_lt some_ cutoff key
  exact orderly.append inOrder kept absent room (limits_see filter now cutoff key) windows

theorem Orderly.unseen (orderly : filter.Orderly seen) (inOrder : InOrder (seen ++ [(now, key)])) :
    (filter.unseen key).Orderly (seen ++ [(now, key)]) := by
  unfold RepeatFilter.unseen
  split
  · next window found =>
    have kept : ((filter.windows.filter fun entry => entry.1 ≠ key).map Prod.fst).Sublist
        (filter.windows.map Prod.fst) := List.filter_sublist.map _
    have absent := lookup_eq_none_iff_notMem.mp (lookup_without_self filter.windows key)
    have room := (length_without_lt found).trans_le orderly.bounded
    exact orderly.append inOrder kept absent room rfl rfl
  · next untracked =>
    have absent := lookup_eq_none_iff_notMem.mp untracked
    split
    · next room => exact orderly.append inOrder (List.Sublist.refl _) absent room rfl rfl
    · exact orderly.skip absent

theorem shown_singleton (ordinary : record.isSummary = false) :
    shown [(now, record)] = [(now, RepeatKey.ofRecord record)] := by
  simp [shown, ordinary]

@[simp] theorem shown_append (first second : List (Binary64 × LogRecord)) :
    shown (first ++ second) = shown first ++ shown second := by
  simp [shown]

theorem shown_cons (entry : Binary64 × LogRecord) (rest : List (Binary64 × LogRecord)) :
    shown (entry :: rest) = shown [entry] ++ shown rest := shown_append [entry] rest

theorem Orderly.offer (orderly : filter.Orderly seen) (some_ : 1 ≤ filter.limits.maxKeys)
    (inOrder : InOrder (seen ++ shown [(now, record)])) :
    (filter.offer now record).1.Orderly (seen ++ shown [(now, record)]) := by
  cases ordinary : record.isSummary with
  | true => simpa [RepeatFilter.offer, shown, ordinary] using orderly
  | false =>
    rw [shown_singleton ordinary] at inOrder ⊢
    cases made : Binary64.ofInt? filter.limits.windowSeconds with
    | none =>
      rw [offer_tooLarge ordinary made]
      exact orderly.unseen inOrder
    | some window =>
      rw [offer_eq_see ordinary made]
      exact orderly.see some_ inOrder _

/-- What every record that is offered leaves true is true after all of them. -/
theorem history_preserves {limits : RepeatLimits}
    (holds : RepeatFilter → List (Binary64 × RepeatKey) → Prop)
    (step : ∀ (filter : RepeatFilter) (seen : List (Binary64 × RepeatKey)) (now : Binary64)
      (record : LogRecord), filter.limits = limits → holds filter seen →
      InOrder (seen ++ shown [(now, record)]) →
      holds (filter.offer now record).1 (seen ++ shown [(now, record)]))
    {offered : List (Binary64 × LogRecord)} (same : filter.limits = limits)
    (before : holds filter seen) (inOrder : InOrder (seen ++ shown offered)) :
    holds (filter.history offered).1 (seen ++ shown offered) := by
  induction offered generalizing filter seen with
  | nil => simpa [shown, history] using before
  | cons entry rest ih =>
    obtain ⟨now, record⟩ := entry
    rw [shown_cons, ← List.append_assoc] at inOrder ⊢
    exact ih ((limits_offer filter now record).trans same)
      (step filter seen now record same before inOrder.of_append) inOrder

theorem Orderly.history {offered : List (Binary64 × LogRecord)} (orderly : filter.Orderly seen)
    (some_ : 1 ≤ filter.limits.maxKeys) (inOrder : InOrder (seen ++ shown offered)) :
    (filter.history offered).1.Orderly (seen ++ shown offered) := by
  refine history_preserves Orderly ?_ rfl orderly inOrder
  intro filter seen now record same orderly inOrder
  exact orderly.offer (same ▸ some_) inOrder

end

/-- Whether windows show when their messages were last seen. Their times are some at which messages
were seen, and from now on each has a time in the window of time exactly if its message was last
seen in it. -/
structure Recalls (filter : RepeatFilter) (window : Binary64) (seen : List (Binary64 × RepeatKey)) :
    Prop where
  sighted : ∀ entry ∈ filter.windows, ∀ stamp ∈ entry.2.stamps,
    ∃ sighting ∈ seen, sighting.1 = stamp
  recent : ∀ entry ∈ filter.windows, ∀ now : Binary64, now.IsFinite →
    (∀ sighting ∈ seen, now.below sighting.1 = false) → ∀ last, lastSeen? seen entry.1 = some last →
    (entry.2.IsRecent (now.sub window) ↔ last.below (now.sub window) = false)

section

variable {filter : RepeatFilter} {seen : List (Binary64 × RepeatKey)}
  {window now cutoff : Binary64} {key : RepeatKey} {record : LogRecord}

theorem recalls_ofLimits (limits : RepeatLimits) (window : Binary64) :
    (ofLimits limits).Recalls window [] :=
  ⟨fun _ member => (List.not_mem_nil member).elim, fun _ member => (List.not_mem_nil member).elim⟩

/-- The windows of other messages stay as they are, or lose what has expired. -/
theorem mem_othersThan {entry : RepeatKey × RepeatWindow}
    (member : entry ∈ (filter.othersThan cutoff key).1) :
    ∃ original ∈ filter.windows, entry.1 = original.1 ∧
      (entry.2 = original.2 ∨ entry.2 = original.2.expire cutoff) := by
  unfold othersThan at member
  split at member
  · exact ⟨entry, (List.mem_filter.mp member).1, rfl, .inl rfl⟩
  · by_cases room : filter.windows.length < filter.limits.maxKeys
    · rw [makeRoom_of_room room] at member
      exact ⟨entry, member, rfl, .inl rfl⟩
    · rw [makeRoom_of_full (not_lt.mp room)] at member
      obtain ⟨original, tracked, rfl⟩ :=
        List.mem_map.mp (List.mem_filter.mp (List.mem_of_mem_drop member)).1
      exact ⟨original, tracked, rfl, .inr rfl⟩

/-- The windows after a message is seen: its own, which ends with the present time and else has only
times that it had before, and those of others. -/
theorem mem_windows_see {entry : RepeatKey × RepeatWindow}
    (member : entry ∈ (filter.see now cutoff key).1.windows) :
    (entry.1 = key ∧ ∃ old, entry.2.stamps = old ++ [now] ∧
        ∀ stamp ∈ old, ∃ original ∈ filter.windows, stamp ∈ original.2.stamps) ∨
      entry.1 ≠ key ∧ ∃ original ∈ filter.windows, entry.1 = original.1 ∧
        (entry.2 = original.2 ∨ entry.2 = original.2.expire cutoff) := by
  obtain ⟨suppressed, windows⟩ := windows_see filter now cutoff key
  rw [windows, List.mem_append, List.mem_singleton] at member
  rcases member with other | rfl
  · refine .inr ⟨?_, mem_othersThan other⟩
    rintro rfl
    exact (keys_othersThan filter cutoff entry.1).2 (List.mem_map_of_mem other)
  · refine .inl ⟨rfl, _, rfl, fun stamp kept => ?_⟩
    have before := RepeatWindow.stamps_expire_subset cutoff _ kept
    cases found : filter.window? key with
    | none =>
      rw [found] at before
      cases before
    | some window =>
      rw [found] at before
      obtain ⟨left, right, tracked, -⟩ := List.lookup_eq_some_iff.mp found
      exact ⟨(key, window), by rw [tracked]; simp, before⟩

/-- All times in windows are some at which messages were seen, also after one more is seen. -/
theorem Recalls.sighted_see (recalls : filter.Recalls window seen)
    {entry : RepeatKey × RepeatWindow}
    (member : entry ∈ (filter.see now cutoff key).1.windows) :
    ∀ stamp ∈ entry.2.stamps, ∃ sighting ∈ seen ++ [(now, key)], sighting.1 = stamp := by
  have more {stamp : Binary64} {original : RepeatKey × RepeatWindow}
      (tracked : original ∈ filter.windows) (kept : stamp ∈ original.2.stamps) :
      ∃ sighting ∈ seen ++ [(now, key)], sighting.1 = stamp := by
    obtain ⟨sighting, among, same⟩ := recalls.sighted original tracked stamp kept
    exact ⟨sighting, List.mem_append_left _ among, same⟩
  intro stamp kept
  rcases mem_windows_see member with
    ⟨-, old, stamps, before⟩ | ⟨-, original, tracked, -, same | expired⟩
  · rw [stamps, List.mem_append, List.mem_singleton] at kept
    rcases kept with kept | rfl
    · obtain ⟨original, tracked, kept⟩ := before stamp kept
      exact more tracked kept
    · exact ⟨(stamp, key), by simp, rfl⟩
  · exact more tracked (same ▸ kept)
  · exact more tracked (RepeatWindow.stamps_expire_subset _ _ (expired ▸ kept))

theorem Recalls.see (recalls : filter.Recalls window seen) (isFiniteWindow : window.IsFinite)
    (inOrder : InOrder (seen ++ [(now, key)])) :
    (filter.see now (now.sub window) key).1.Recalls window (seen ++ [(now, key)]) := by
  have isFiniteNow : now.IsFinite := inOrder.isFinite (now, key) (by simp)
  have earlier {original : RepeatKey × RepeatWindow} (tracked : original ∈ filter.windows)
      {stamp : Binary64} (kept : stamp ∈ original.2.stamps) :
      stamp.IsFinite ∧ now.below stamp = false := by
    obtain ⟨sighting, among, rfl⟩ := recalls.sighted original tracked stamp kept
    exact ⟨inOrder.isFinite sighting (List.mem_append_left _ among), inOrder.latest sighting among⟩
  refine ⟨fun entry member => recalls.sighted_see member, ?_⟩
  intro entry member late isFiniteLate order last found
  simp only [List.mem_append, List.mem_singleton] at order
  rcases mem_windows_see member with
    ⟨own, old, stamps, before⟩ | ⟨different, original, tracked, sameKey, kept⟩
  · rw [own, lastSeen?_append_self] at found
    obtain rfl := Option.some.inj found
    refine RepeatWindow.isRecent_iff_of_latest stamps isFiniteNow fun stamp member => ?_
    obtain ⟨original, tracked, kept⟩ := before stamp member
    exact earlier tracked kept
  · rw [lastSeen?_append_other different, sameKey] at found
    have before := recalls.recent original tracked late isFiniteLate
      (fun sighting member => order sighting (.inl member)) last found
    rcases kept with same | expired
    · rw [same, before]
    · -- What has expired at the present time has expired at any later one.
      rw [expired, ← before]
      refine RepeatWindow.isRecent_expire fun stamp kept old => ?_
      exact Binary64.below_sub_mono (earlier tracked kept).1 isFiniteNow isFiniteLate
        isFiniteWindow (order (now, key) (.inr rfl)) old

theorem Recalls.offer (recalls : filter.Recalls window seen)
    (made : Binary64.ofInt? filter.limits.windowSeconds = some window)
    (inOrder : InOrder (seen ++ shown [(now, record)])) :
    (filter.offer now record).1.Recalls window (seen ++ shown [(now, record)]) := by
  cases ordinary : record.isSummary with
  | true => simpa [RepeatFilter.offer, shown, ordinary] using recalls
  | false =>
    rw [shown_singleton ordinary] at inOrder ⊢
    rw [offer_eq_see ordinary made]
    exact recalls.see (Binary64.ofInt?_natCast made).1 inOrder

theorem Recalls.history {offered : List (Binary64 × LogRecord)}
    (recalls : filter.Recalls window seen)
    (made : Binary64.ofInt? filter.limits.windowSeconds = some window)
    (inOrder : InOrder (seen ++ shown offered)) :
    (filter.history offered).1.Recalls window (seen ++ shown offered) := by
  refine history_preserves (fun filter seen => filter.Recalls window seen) ?_ rfl recalls inOrder
  intro filter seen now record same recalls inOrder
  exact recalls.offer (same ▸ made) inOrder

end

end RepeatFilter

end StorageLayout
