import Mathlib.Data.List.Dedup
import StorageLayout.Log.Setup
import StorageLayout.Proofs.Log.Remembering

/-! What handlers make of repeated messages. All handlers share one filter, which counts a record
once for every handler that asks it; so a message uses up what may pass once per handler, and the
handlers that come first get more of it. Main statement: which handlers write a record, by how many
records with the same message were made in the window of time before it. With one handler this is
the limit that was set; with more the limit is shared out among them. -/

namespace StorageLayout

namespace Delivery

/-- The record that is delivered. -/
def record : Delivery → LogRecord
  | collected record => record
  | written _ record => record
  | bare record => record

end Delivery

namespace LogOutput

open RepeatFilter (InOrder Remembers timesOf)

/-- The deliveries that are no reports of dropped messages. -/
def ordinary (deliveries : List Delivery) : List Delivery :=
  deliveries.filter fun delivery => !delivery.record.isSummary

@[simp] theorem ordinary_append (left right : List Delivery) :
    ordinary (left ++ right) = ordinary left ++ ordinary right :=
  List.filter_append left right

/-- Writing a report delivers no ordinary record. -/
theorem ordinary_reports (output : LogOutput) (limits : RepeatLimits) (context : LogContext)
    (summaries : List RepeatSummary) :
    ordinary (summaries.flatMap fun summary =>
      output.writeAll (RepeatFilter.summaryRecord limits context summary)) = [] := by
  rw [ordinary, List.filter_eq_nil_iff]
  intro delivery member
  obtain ⟨summary, -, written⟩ := List.mem_flatMap.mp member
  unfold writeAll at written
  split at written
  · obtain ⟨handler, -, rfl⟩ := List.mem_map.mp written
    simp [Delivery.record, RepeatFilter.summaryRecord]
  · cases written

def writtenBy (handlers : List LogHandler) (record : LogRecord) : List Delivery :=
  handlers.map fun handler => .written handler.target record

/-- The messages that a filter is asked about for a record, once for each handler, when the handler
asks. -/
def askedFor (handlers : List LogHandler) (offered : Clock × LogRecord) :
    List (Binary64 × RepeatKey) :=
  handlers.map fun handler => (offered.1 handler.target, RepeatKey.ofRecord offered.2)

/-- The messages that a filter is asked about for some records. -/
def asked (handlers : List LogHandler) (offered : List (Clock × LogRecord)) :
    List (Binary64 × RepeatKey) :=
  offered.flatMap (askedFor handlers)

/-- How often a filter was asked about a message in the window of time before now. -/
def askedSince (window now : Binary64) (key : RepeatKey) (seen : List (Binary64 × RepeatKey)) :
    Nat :=
  seen.countP fun entry => entry.2 = key && !entry.1.below (now.sub window)

theorem askedSince_eq_length (window now : Binary64) (key : RepeatKey)
    (seen : List (Binary64 × RepeatKey)) :
    askedSince window now key seen =
      ((timesOf key seen).filter fun stamp => !stamp.below (now.sub window)).length := by
  rw [askedSince, timesOf, List.filter_map, List.length_map, List.filter_filter,
    List.countP_eq_length_filter]
  congr 2
  funext entry
  exact Bool.and_comm _ _

/-- The handlers that write a record: each before which its message was asked about less often than
it may pass. Whether it is written or not, asking counts. -/
def writers (window : Binary64) (limit : Nat) (clock : Clock) (key : RepeatKey) :
    List (Binary64 × RepeatKey) → List LogHandler → List LogHandler
  | _, [] => []
  | seen, handler :: rest =>
    let now := clock handler.target
    let others := writers window limit clock key (seen ++ [(now, key)]) rest
    if askedSince window now key seen < limit then handler :: others else others

section

variable {output : LogOutput} {clock : Clock} {now window : Binary64} {record : LogRecord}
  {handlers : List LogHandler} {filter : RepeatFilter} {keys : List RepeatKey}
  {seen : List (Binary64 × RepeatKey)}

/-- A filter whose window of time is too long fails at the first record. -/
theorem writeFiltered_tooLarge (tooLarge : Binary64.ofInt? filter.limits.windowSeconds = none)
    (ordinaryRecord : record.isSummary = false) {handler : LogHandler}
    (level : handler.level ≤ record.level) :
    output.writeFiltered clock record (handler :: handlers) filter =
      (filter.unseen (RepeatKey.ofRecord record), [], .error (.number .tooLarge)) := by
  rw [writeFiltered, if_neg level.not_gt, RepeatFilter.offer_tooLarge ordinaryRecord tooLarge]

variable (output) in
/-- One record: each handler writes it that asks often enough apart from others. The filter has seen
the message once more for each handler. -/
theorem writeFiltered_spec
    (made : Binary64.ofInt? filter.limits.windowSeconds = some window)
    (ordinaryRecord : record.isSummary = false)
    (levels : ∀ handler ∈ handlers, handler.level ≤ record.level)
    (fits : keys.length ≤ filter.limits.maxKeys) (member : RepeatKey.ofRecord record ∈ keys)
    (inOrder : InOrder (seen ++ askedFor handlers (clock, record)))
    (remembers : filter.Remembers window keys seen) :
    (output.writeFiltered clock record handlers filter).1.limits = filter.limits ∧
      (output.writeFiltered clock record handlers filter).1.Remembers window keys
        (seen ++ askedFor handlers (clock, record)) ∧
      (output.writeFiltered clock record handlers filter).2.2 = .ok () ∧
      ordinary (output.writeFiltered clock record handlers filter).2.1 =
        writtenBy (writers window filter.limits.maxPerWindow clock (RepeatKey.ofRecord record) seen
          handlers) record := by
  obtain ⟨isFiniteWindow, -⟩ := Binary64.ofInt?_natCast made
  induction handlers generalizing filter seen with
  | nil =>
    refine ⟨rfl, ?_, rfl, by simp [writeFiltered, writers, ordinary, writtenBy]⟩
    rw [askedFor, List.map_nil, List.append_nil]
    exact remembers
  | cons handler rest ih =>
    have level : ¬ record.level < handler.level := (levels handler List.mem_cons_self).not_gt
    have more : seen ++ askedFor (handler :: rest) (clock, record) =
        seen ++ [(clock handler.target, RepeatKey.ofRecord record)] ++
          askedFor rest (clock, record) := by
      simp [askedFor]
    rw [more] at inOrder ⊢
    have inOrderNow := inOrder.of_append
    have remembersNow := remembers.see fits member isFiniteWindow inOrderNow
    obtain ⟨isFinite, latest⟩ := inOrderNow.last
    have limits := RepeatFilter.limits_see filter (clock handler.target)
      ((clock handler.target).sub window) (RepeatKey.ofRecord record)
    have counted := remembers.seenSince_eq inOrderNow.of_append isFinite latest
      (RepeatKey.ofRecord record)
    have passes := RepeatFilter.passed_see filter (clock handler.target)
      ((clock handler.target).sub window) (RepeatKey.ofRecord record)
    rw [counted, ← askedSince_eq_length] at passes
    obtain ⟨restLimits, restRemembers, restOutcome, restWritten⟩ :=
      ih (limits ▸ made) (fun other among => levels other (List.mem_cons_of_mem _ among))
        (limits ▸ fits) inOrder remembersNow
    rw [writeFiltered, if_neg level, RepeatFilter.offer_eq_see ordinaryRecord made]
    refine ⟨restLimits.trans limits, restRemembers, restOutcome, ?_⟩
    dsimp only
    rw [ordinary_append, ordinary_append, ordinary_reports, restWritten, limits, List.nil_append,
      writers]
    simp only [← passes]
    cases (filter.see (clock handler.target) ((clock handler.target).sub window)
      (RepeatKey.ofRecord record)).2.passed <;>
        simp [ordinary, writtenBy, Delivery.record, ordinaryRecord]

variable (window) in
/-- If all handlers ask at the same time the first ones write the record, as many as have not used up
what may pass. -/
theorem writers_at_once (limit : Nat) (key : RepeatKey) (isFinite : now.IsFinite)
    (isFiniteWindow : window.IsFinite) (nonnegative : 0 ≤ window.value)
    (seen : List (Binary64 × RepeatKey)) (handlers : List LogHandler) :
    writers window limit (fun _ => now) key seen handlers =
      handlers.take (limit - askedSince window now key seen) := by
  induction handlers generalizing seen with
  | nil => simp [writers]
  | cons handler rest ih =>
    have counted : askedSince window now key (seen ++ [(now, key)]) =
        askedSince window now key seen + 1 := by
      simp [askedSince, Binary64.not_below_sub_self isFinite isFiniteWindow nonnegative]
    rw [writers, ih, counted]
    by_cases few : askedSince window now key seen < limit
    · have left : limit - askedSince window now key seen =
          limit - (askedSince window now key seen + 1) + 1 := by omega
      rw [if_pos few, left, List.take_succ_cons]
    · have none : limit - askedSince window now key seen = 0 := by omega
      rw [if_neg few, Nat.sub_add_eq, none]
      rfl

end

section

variable {output : LogOutput} {clock : Clock} {record : LogRecord}

variable (output clock) in
/-- A record cannot be written exactly if the window of time is too long and some handler takes it. -/
theorem writeFiltered_outcome (ordinaryRecord : record.isSummary = false)
    (handlers : List LogHandler) (filter : RepeatFilter) :
    (output.writeFiltered clock record handlers filter).2.2 =
      if (handlers.any fun handler => handler.level ≤ record.level) &&
          (Binary64.ofInt? filter.limits.windowSeconds).isNone then .error (.number .tooLarge)
      else .ok () := by
  induction handlers generalizing filter with
  | nil => simp [writeFiltered]
  | cons handler rest ih =>
    by_cases level : handler.level ≤ record.level
    · cases made : Binary64.ofInt? filter.limits.windowSeconds with
      | none =>
        rw [writeFiltered_tooLarge made ordinaryRecord level]
        simp [level]
      | some window =>
        have limits := RepeatFilter.limits_see filter (clock handler.target)
          ((clock handler.target).sub window) (RepeatKey.ofRecord record)
        rw [writeFiltered, if_neg level.not_gt, RepeatFilter.offer_eq_see ordinaryRecord made]
        dsimp only
        rw [ih, limits, made]
        simp
    · rw [writeFiltered, if_pos (not_le.mp level), ih]
      simp [level]

/-- What an output says of a record beforehand is what comes of delivering it, whatever the clock
says. -/
theorem deliver_outcome (output : LogOutput) (clock : Clock) {record : LogRecord}
    (ordinaryRecord : record.isSummary = false) :
    (output.deliver clock record).2.2 = (output.refusal record).elim (.ok ()) .error := by
  unfold deliver refusal
  cases enabled : output.isEnabled record.level with
  | false => cases output.filter <;> rfl
  | true =>
    cases collecting : output.collecting with
    | true => cases output.filter <;> rfl
    | false =>
      cases filtered : output.filter with
      | none => cases output.handlers.isEmpty <;> rfl
      | some filter =>
        have written := writeFiltered_outcome output clock ordinaryRecord output.handlers filter
        cases handlers : output.handlers with
        | nil => simp
        | cons handler rest =>
          rw [handlers] at written
          simp only [ordinaryRecord, List.isEmpty_cons, Bool.not_true, Bool.not_false,
            Bool.true_and, Bool.false_eq_true, if_false]
          rw [written]
          split <;> rfl

end

/-- Records of which a filter is asked at finite times, never before an earlier one. None of them is
a report, all are of a level that is looked at, and there are no more messages than a filter can
track. -/
structure Steady (handlers : List LogHandler) (level : Level) (limits : RepeatLimits)
    (offered : List (Clock × LogRecord)) : Prop where
  inOrder : InOrder (asked handlers offered)
  taken : ∀ entry ∈ offered, level ≤ entry.2.level
  ordinary : ∀ entry ∈ offered, entry.2.isSummary = false
  fits : (offered.map fun entry => RepeatKey.ofRecord entry.2).dedup.length ≤ limits.maxKeys

/-- So it is with a last record apart from those before it. -/
theorem Steady.inOrder_last {handlers : List LogHandler} {level : Level} {limits : RepeatLimits}
    {offered : List (Clock × LogRecord)} {offer : Clock × LogRecord}
    (steady : Steady handlers level limits (offered ++ [offer])) :
    InOrder (asked handlers offered ++ askedFor handlers offer) := by
  have all := steady.inOrder
  rw [asked, List.flatMap_append, List.flatMap_singleton] at all
  exact all

theorem deliverAll_cons_of_ok {output after : LogOutput} {clock : Clock} {record : LogRecord}
    {deliveries : List Delivery}
    (delivered : output.deliver clock record = (after, deliveries, .ok ()))
    (rest : List (Clock × LogRecord)) :
    output.deliverAll ((clock, record) :: rest) =
      ((after.deliverAll rest).1, deliveries ++ (after.deliverAll rest).2.1,
        (after.deliverAll rest).2.2) := by
  rw [deliverAll, delivered]

/-- A record of which all handlers ask at the same time. -/
def atOnce (offered : Binary64 × LogRecord) : Clock × LogRecord := (fun _ => offered.1, offered.2)

/-- How many records with the same message were made in the window of time before a record. -/
def recent (window now : Binary64) (record : LogRecord) (earlier : List (Binary64 × LogRecord)) :
    Nat :=
  earlier.countP fun entry =>
    RepeatKey.ofRecord entry.2 = RepeatKey.ofRecord record && !entry.1.below (now.sub window)

/-- A filter is asked about each record once for every handler. -/
theorem askedSince_asked (handlers : List LogHandler) (window now : Binary64) (record : LogRecord)
    (past : List (Binary64 × LogRecord)) :
    askedSince window now (RepeatKey.ofRecord record) (asked handlers (past.map atOnce)) =
      handlers.length * recent window now record past := by
  induction past with
  | nil => rfl
  | cons offer rest ih =>
    have own : askedSince window now (RepeatKey.ofRecord record)
        (askedFor handlers (atOnce offer)) = handlers.length *
          if (RepeatKey.ofRecord offer.2 = RepeatKey.ofRecord record &&
            !offer.1.below (now.sub window)) = true then 1 else 0 := by
      rw [askedSince, askedFor, List.countP_map]
      split
      · next counts =>
        rw [Nat.mul_one, List.countP_eq_length]
        exact fun _ _ => counts
      · next passedOver =>
        rw [Nat.mul_zero, List.countP_eq_zero]
        exact fun _ _ => passedOver
    rw [List.map_cons, asked, List.flatMap_cons, askedSince, List.countP_append, recent,
      List.countP_cons, Nat.mul_add]
    exact (congrArg₂ (· + ·) own ih).trans (Nat.add_comm _ _)

/-- Whether an output writes what comes past a filter, with handlers that take all it looks at. -/
structure Filters (output : LogOutput) (filter : RepeatFilter) : Prop where
  listening : output.collecting = false
  level : 0 < output.level
  handlers : output.handlers ≠ []
  levels : ∀ handler ∈ output.handlers, handler.level = output.level
  filter : output.filter = some filter

section

variable {output : LogOutput} {clock : Clock} {window : Binary64} {record : LogRecord}
  {filter : RepeatFilter} {keys : List RepeatKey} {seen : List (Binary64 × RepeatKey)}
  {offered : List (Clock × LogRecord)}

theorem Filters.deliver_eq (filters : output.Filters filter) (taken : output.level ≤ record.level)
    (clock : Clock) :
    output.deliver clock record =
      ({ output with
          filter := some (output.writeFiltered clock record output.handlers filter).1 },
        (output.writeFiltered clock record output.handlers filter).2) := by
  have enabled : output.isEnabled record.level = true := by
    have level := filters.level
    simp only [isEnabled, Bool.and_eq_true, decide_eq_true_eq]
    exact ⟨level.trans_le taken, taken⟩
  have handled : output.handlers.isEmpty = false :=
    List.isEmpty_eq_false_iff.mpr filters.handlers
  simp [deliver, enabled, filters.listening, handled, filters.filter]

theorem Filters.handlers_le (filters : output.Filters filter)
    (taken : output.level ≤ record.level) :
    ∀ handler ∈ output.handlers, handler.level ≤ record.level := fun handler member =>
  (filters.levels handler member).le.trans taken

theorem Filters.with_filter (filters : output.Filters filter) (after : RepeatFilter) :
    Filters { output with filter := some after } after :=
  ⟨filters.listening, filters.level, filters.handlers, filters.levels, rfl⟩

/-- All records: none of them fails, and the filter has seen each message once for each handler. -/
theorem Filters.deliverAll_spec (filters : output.Filters filter)
    (made : Binary64.ofInt? filter.limits.windowSeconds = some window)
    (fits : keys.length ≤ filter.limits.maxKeys)
    (members : ∀ entry ∈ offered, RepeatKey.ofRecord entry.2 ∈ keys)
    (taken : ∀ entry ∈ offered, output.level ≤ entry.2.level)
    (ordinaryRecords : ∀ entry ∈ offered, entry.2.isSummary = false)
    (inOrder : InOrder (seen ++ asked output.handlers offered))
    (remembers : filter.Remembers window keys seen) :
    ∃ after, (output.deliverAll offered).1 = { output with filter := some after } ∧
      (output.deliverAll offered).2.2 = .ok () ∧ after.limits = filter.limits ∧
      after.Remembers window keys (seen ++ asked output.handlers offered) := by
  induction offered generalizing output filter seen with
  | nil =>
    refine ⟨filter, ?_, rfl, rfl, ?_⟩
    · rw [deliverAll, ← filters.filter]
    · rw [asked, List.flatMap_nil, List.append_nil]
      exact remembers
  | cons offer rest ih =>
    obtain ⟨clock, first⟩ := offer
    simp only [List.forall_mem_cons] at members taken ordinaryRecords
    have more : seen ++ asked output.handlers ((clock, first) :: rest) =
        seen ++ askedFor output.handlers (clock, first) ++ asked output.handlers rest := by
      rw [asked, List.flatMap_cons, List.append_assoc]
      rfl
    rw [more] at inOrder ⊢
    obtain ⟨limits, remembersNow, outcome, -⟩ := writeFiltered_spec output made
      ordinaryRecords.1 (filters.handlers_le taken.1) fits members.1 inOrder.of_append remembers
    have onward := filters.with_filter (output.writeFiltered clock first output.handlers filter).1
    obtain ⟨after, last, lastOutcome, lastLimits, lastRemembers⟩ :=
      ih onward (limits ▸ made) (limits ▸ fits) members.2 taken.2 ordinaryRecords.2 inOrder
        remembersNow
    have delivered := filters.deliver_eq taken.1 clock
    rw [← Prod.mk.eta (p := (output.writeFiltered clock first output.handlers filter).2), outcome]
      at delivered
    rw [deliverAll_cons_of_ok delivered]
    exact ⟨after, last, lastOutcome, lastLimits.trans limits, lastRemembers⟩

/-- A record that comes after others is written by each handler before which its message was asked
about less often than it may pass. -/
theorem Filters.deliver_after (filters : output.Filters filter)
    (fresh : filter = RepeatFilter.ofLimits filter.limits)
    (made : Binary64.ofInt? filter.limits.windowSeconds = some window)
    {earlier : List (Clock × LogRecord)}
    (steady : Steady output.handlers output.level filter.limits (earlier ++ [(clock, record)])) :
    (output.deliverAll earlier).2.2 = .ok () ∧
      ((output.deliverAll earlier).1.deliver clock record).2.2 = .ok () ∧
      ordinary ((output.deliverAll earlier).1.deliver clock record).2.1 =
        writtenBy (writers window filter.limits.maxPerWindow clock (RepeatKey.ofRecord record)
          (asked output.handlers earlier) output.handlers) record := by
  have among : ∀ entry ∈ earlier, entry ∈ earlier ++ [(clock, record)] := fun entry member =>
    List.mem_append_left _ member
  have last : (clock, record) ∈ earlier ++ [(clock, record)] :=
    List.mem_append_right _ (List.mem_singleton_self _)
  have inOrder : InOrder (asked output.handlers earlier ++
      askedFor output.handlers (clock, record)) := steady.inOrder_last
  have members : ∀ entry ∈ earlier ++ [(clock, record)], RepeatKey.ofRecord entry.2 ∈
      ((earlier ++ [(clock, record)]).map fun entry => RepeatKey.ofRecord entry.2).dedup :=
    fun entry member => List.mem_dedup.mpr (List.mem_map_of_mem member)
  have start := RepeatFilter.remembers_ofLimits filter.limits window
    ((earlier ++ [(clock, record)]).map fun entry => RepeatKey.ofRecord entry.2).dedup
  rw [← fresh] at start
  obtain ⟨after, reached, outcome, limits, remembers⟩ := filters.deliverAll_spec made steady.fits
    (fun entry member => members entry (among entry member))
    (fun entry member => steady.taken entry (among entry member))
    (fun entry member => steady.ordinary entry (among entry member))
    (by simpa using inOrder.of_append) start
  rw [List.nil_append] at remembers
  have onward := filters.with_filter after
  have taken : output.level ≤ record.level := steady.taken _ last
  obtain ⟨-, -, nowOutcome, nowWritten⟩ := writeFiltered_spec
    { output with filter := some after } (limits ▸ made) (steady.ordinary _ last)
    (onward.handlers_le taken) (limits ▸ steady.fits) (members _ last) inOrder remembers
  rw [limits] at nowWritten
  rw [reached, onward.deliver_eq taken]
  exact ⟨outcome, nowOutcome, nowWritten⟩

/-- If all handlers ask at the same time, the first ones write the record, as many as what may pass
leaves after each earlier record with its message has used it up once per handler. -/
theorem Filters.writers_eq_take (filters : output.Filters filter)
    (made : Binary64.ofInt? filter.limits.windowSeconds = some window) {now : Binary64}
    {past : List (Binary64 × LogRecord)}
    (steady : Steady output.handlers output.level filter.limits
      (past.map atOnce ++ [atOnce (now, record)])) :
    writers window filter.limits.maxPerWindow (fun _ => now) (RepeatKey.ofRecord record)
        (asked output.handlers (past.map atOnce)) output.handlers =
      output.handlers.take (filter.limits.maxPerWindow -
        output.handlers.length * recent window now record past) := by
  obtain ⟨isFiniteWindow, nonnegative⟩ := Binary64.ofInt?_natCast made
  obtain ⟨handler, others, handlers⟩ := List.exists_cons_of_ne_nil filters.handlers
  have isFinite : now.IsFinite := by
    refine steady.inOrder_last.isFinite (now, RepeatKey.ofRecord record) ?_
    rw [handlers]
    exact List.mem_append_right _ List.mem_cons_self
  rw [writers_at_once window _ _ isFinite isFiniteWindow nonnegative, askedSince_asked]

/-- If the window of time is too long to be worked out, the first record fails. -/
theorem Filters.deliverAll_tooLarge (filters : output.Filters filter)
    (tooLarge : Binary64.ofInt? filter.limits.windowSeconds = none)
    {first : Clock × LogRecord} {rest : List (Clock × LogRecord)}
    (steady : Steady output.handlers output.level filter.limits (first :: rest)) :
    (output.deliverAll (first :: rest)).2 = ([], .error (.number .tooLarge)) := by
  obtain ⟨handler, others, handlers⟩ := List.exists_cons_of_ne_nil filters.handlers
  have taken := steady.taken first List.mem_cons_self
  have level : handler.level ≤ first.2.level :=
    filters.handlers_le taken handler (by rw [handlers]; exact List.mem_cons_self)
  rw [deliverAll, filters.deliver_eq taken, handlers,
    writeFiltered_tooLarge tooLarge (steady.ordinary first List.mem_cons_self) level]

end

section

variable {context : LogContext} {state : SharedState} {output : LogOutput} {filter : RepeatFilter}
  {level : Level}

theorem filterOf_eq_ofLimits (made : (filterOf context state).2.outcome = .ok (some filter)) :
    filter = RepeatFilter.ofLimits filter.limits := by
  unfold filterOf at made
  obtain ⟨enabled, -, made⟩ := SharedState.Step.andThen_eq_ok made
  split at made
  · cases made
  · obtain ⟨level, -, made⟩ := SharedState.Step.andThen_eq_ok made
    obtain ⟨windowSeconds, -, made⟩ := SharedState.Step.andThen_eq_ok made
    obtain ⟨maxPerWindow, -, made⟩ := SharedState.Step.andThen_eq_ok made
    obtain ⟨maxKeys, -, made⟩ := SharedState.Step.andThen_eq_ok made
    cases read : RepeatLimits.ofValues windowSeconds maxPerWindow
        (.int (summaryLevelOf level)) maxKeys with
    | error failure => simp [Traced.ofExcept, read] at made
    | ok limits =>
      simp only [Traced.ofExcept, read] at made
      obtain rfl := Option.some.inj (Except.ok.inj made)
      rfl

/-- The output that settings ask for writes to a console, and to a file if they name one, all records
that it looks at. Its filter has seen nothing yet. -/
theorem filters_of_ofSettings (positive : 0 < level)
    (made : (ofSettings level context state).2.outcome = .ok output)
    (suppressing : output.filter = some filter) :
    output.Filters filter ∧ filter = RepeatFilter.ofLimits filter.limits := by
  unfold ofSettings at made
  obtain ⟨file, -, made⟩ := SharedState.Step.andThen_eq_ok made
  obtain ⟨chosen, filtered, made⟩ := SharedState.Step.andThen_eq_ok made
  obtain rfl := Except.ok.inj made
  obtain rfl : chosen = some filter := suppressing
  refine ⟨⟨rfl, positive, by simp, ?_, rfl⟩, filterOf_eq_ofLimits filtered⟩
  intro handler member
  obtain ⟨target, -, rfl⟩ := List.mem_map.mp member
  rfl

theorem written_by_all_or_none {handlers : List LogHandler} (some_ : handlers ≠ [])
    (record : LogRecord) (limit recent : Nat) :
    writtenBy (handlers.take (limit - handlers.length * recent)) record =
        (if recent < limit then writtenBy handlers record else []) ↔
      (recent < limit → handlers.length * (recent + 1) ≤ limit) := by
  have positive : 0 < handlers.length := List.length_pos_iff.mpr some_
  have times := Nat.mul_add_one handlers.length recent
  by_cases few : recent < limit
  · rw [if_pos few]
    constructor
    · intro all _
      have same := congrArg List.length all
      simp only [writtenBy, List.length_map, List.length_take] at same
      omega
    · intro enough
      rw [List.take_of_length_le (by have := enough few; omega)]
  · have atLeast : recent ≤ handlers.length * recent := Nat.le_mul_of_pos_left recent positive
    have none : limit - handlers.length * recent = 0 := by omega
    simp [few, none, writtenBy]

end

end LogOutput

namespace LoggingProcess

open LogOutput

variable {logging : LoggingProcess} {clocks : Nat → Clock} {filter : RepeatFilter}

/-- Logging that has been configured with a filter writes what comes past it, and the filter has
seen nothing yet. -/
theorem configure_filters (configured : (logging.configure clocks).2.1 = .ok ())
    (suppressing : (logging.configure clocks).1.output.filter = some filter) :
    (logging.configure clocks).1.output.Filters filter ∧
      filter = RepeatFilter.ofLimits filter.limits := by
  revert configured suppressing
  unfold configure
  dsimp only
  split
  · exact nofun
  · next devMode mode =>
    split
    · exact nofun
    · next output made =>
      intro _ suppressing
      exact filters_of_ofSettings (by split <;> decide) made suppressing

/-- Which handlers write a record after logging has been configured with a filter. Every handler asks
the filter, at a time of its own, and each time counts: it writes the record exactly if the message
was asked about less often than it may pass in the window of time before. So, if all handlers ask at
the same time, the first ones write the record, as many as what may pass in a window leaves after
each earlier record with the same message has used it up once per handler; and all of them write it,
or none, as the limit says, exactly if the limit leaves enough for all. One handler alone always does
as the limit says. If the window of time is too long to be worked out the first record fails
instead. -/
theorem written_by_first_handlers (configured : (logging.configure clocks).2.1 = .ok ())
    (suppressing : (logging.configure clocks).1.output.filter = some filter)
    {earlier : List (Clock × LogRecord)} {clock : Clock} {record : LogRecord}
    (steady : Steady (logging.configure clocks).1.output.handlers
      (logging.configure clocks).1.output.level filter.limits (earlier ++ [(clock, record)])) :
    let output := (logging.configure clocks).1.output
    let limit := filter.limits.maxPerWindow
    (∀ window, Binary64.ofInt? filter.limits.windowSeconds = some window →
      let before := output.deliverAll earlier
      let written := ordinary (before.1.deliver clock record).2.1
      before.2.2 = .ok () ∧ (before.1.deliver clock record).2.2 = .ok () ∧
        written = writtenBy (writers window limit clock (RepeatKey.ofRecord record)
          (asked output.handlers earlier) output.handlers) record ∧
        ∀ past now, earlier = past.map atOnce → (clock, record) = atOnce (now, record) →
          let recent := recent window now record past
          written = writtenBy (output.handlers.take (limit - output.handlers.length * recent))
              record ∧
            (written = (if recent < limit then writtenBy output.handlers record else []) ↔
              (recent < limit → output.handlers.length * (recent + 1) ≤ limit))) ∧
      (Binary64.ofInt? filter.limits.windowSeconds = none →
        (output.deliverAll (earlier ++ [(clock, record)])).2 =
          ([], .error (.number .tooLarge))) := by
  obtain ⟨filters, fresh⟩ := configure_filters configured suppressing
  generalize (logging.configure clocks).1.output = output at filters steady ⊢
  constructor
  · intro window made
    obtain ⟨outcome, nowOutcome, written⟩ := filters.deliver_after fresh made steady
    refine ⟨outcome, nowOutcome, written, ?_⟩
    rintro past now rfl same
    obtain rfl := (Prod.mk.inj same).1
    rw [filters.writers_eq_take made steady] at written
    refine ⟨written, ?_⟩
    rw [written]
    exact written_by_all_or_none filters.handlers _ _ _
  · intro tooLarge
    obtain ⟨first, rest, shape⟩ :
        ∃ first rest, earlier ++ [(clock, record)] = first :: rest := by
      cases earlier <;> simp
    rw [shape] at steady ⊢
    exact filters.deliverAll_tooLarge tooLarge steady

end LoggingProcess

namespace LogOutput

/-- Settings that let one message through in a window, and write to a log file. -/
def quietSettings : Value :=
  .object [("debug", .object [("suppressRecurringMessages",
      .object [("enabled", .bool true), ("maxPerWindow", .int 1)])]),
    ("logging", .object [("file", .text "log")])]

/-- A process with such settings, whose log file is there, and with a log that refuses some
records. -/
def quietState (refusal : LogRecord → Option Failure) : SharedState :=
  { SharedState.start
      { environment := []
        workingDirectory := ⟨.root, []⟩
        userId := none
        files := ⟨[(["log"], .file [])]⟩
        refusal := refusal } with
    stores := [Settings.storeOver none (.document none quietSettings)]
    globalStore := some 0 }

theorem openLogFile_quiet (refusal : LogRecord → Option Failure) :
    openLogFile none (quietState refusal) =
      (quietState refusal, .done (some ⟨.working, ["log"]⟩)) := by
  have named : (quietState refusal).config none (.text "logging.file") .null =
      (quietState refusal, .done (.text "log")) := rfl
  have opened : (quietState refusal).machine.files.openFile (Pathname.parse "log").collapse =
      .ok (quietState refusal).machine.files := rfl
  unfold openLogFile
  rw [named, SharedState.Step.andThen_of_ok (Traced.outcome_done _)]
  simp only [Value.truthy, Value.plainCodes]
  rw [opened]
  rfl

/-- A process with these settings while its logging is configured. -/
def quietlyBare : SharedState := quietState (bareAt Level.info).refusal

/-- The output that such settings ask for. -/
theorem ofSettings_quiet :
    ∃ filter, filter.limits = ⟨60, 1, 1024, Level.info⟩ ∧
      (ofSettings Level.info none quietlyBare).2.outcome =
        .ok ⟨false, Level.info,
          [⟨.console, Level.info⟩, ⟨.file ⟨.working, ["log"]⟩, Level.info⟩], some filter⟩ := by
  have limits : ((filterOf none quietlyBare).2.outcome.toOption.map fun filter =>
      filter.map (·.limits)) = some (some ⟨60, 1, 1024, Level.info⟩) := by decide +kernel
  have opened : openLogFile none quietlyBare = (quietlyBare, .done (some ⟨.working, ["log"]⟩)) :=
    openLogFile_quiet _
  cases filtered : (filterOf none quietlyBare).2.outcome with
  | error failure => simp [filtered, Except.toOption] at limits
  | ok made =>
    cases made with
    | none => simp [filtered, Except.toOption] at limits
    | some filter =>
      refine ⟨filter, by simpa [filtered, Except.toOption] using limits, ?_⟩
      simp [ofSettings, opened, SharedState.Step.andThen, filtered, Traced.done, Traced.after]

end LogOutput

namespace LoggingProcess

open LogOutput

theorem outcome_call {α : Type} (clocks : Nat → Clock)
    (step : LogContext → SharedState → SharedState.Step α) (logging : LoggingProcess) :
    (logging.call clocks step).2.1 = (step logging.context logging.current).2.outcome := rfl

def quietProcess : LoggingProcess := ⟨quietState fun _ => none, collectAll, none⟩

theorem configure_quiet (clocks : Nat → Clock) :
    ∃ filter, filter.limits = ⟨60, 1, 1024, Level.info⟩ ∧
      (quietProcess.configure clocks).1.output =
        ⟨false, Level.info,
          [⟨.console, Level.info⟩, ⟨.file ⟨.working, ["log"]⟩, Level.info⟩], some filter⟩ ∧
      (quietProcess.configure clocks).2.1 = .ok () := by
  have mode : quietProcess.call clocks (fun context state =>
        state.configTruth context (.text "debug.devModeEnabled") (.bool false)) =
      (⟨quietState collectAll.refusal, collectAll, none⟩, .ok (.bool false), []) := rfl
  obtain ⟨filter, limits, made⟩ := ofSettings_quiet
  refine ⟨filter, limits, ?_⟩
  have bare : current ⟨quietState collectAll.refusal, .bareAt Level.info, none⟩ = quietlyBare := rfl
  have called : (call clocks (LogOutput.ofSettings Level.info)
      ⟨quietState collectAll.refusal, .bareAt Level.info, none⟩).2.1 =
        (LogOutput.ofSettings Level.info none quietlyBare).2.outcome := by rw [outcome_call, bare]
  rw [made] at called
  unfold configure
  rw [mode]
  simp [Value.truthy, called]

/-- A record that comes for the first time. -/
def notice : LogRecord where
  level := Level.info
  logger := "app"
  message := "still waiting"
  context := none

/-- The console uses up the one message that may pass, and nothing is left for the file. -/
theorem written_by_console_alone :
    let output := (quietProcess.configure fun _ _ => .zero).1.output
    output.handlers.map LogHandler.target = [.console, .file ⟨.working, ["log"]⟩] ∧
      ordinary (output.deliver (fun _ => .zero) notice).2.1 = [.written .console notice] := by
  obtain ⟨filter, limits, shape, configured⟩ := configure_quiet fun _ _ => .zero
  have suppressing : (quietProcess.configure fun _ _ => .zero).1.output.filter = some filter := by
    rw [shape]
  have finite : Binary64.zero.IsFinite := ⟨by decide, by decide, by decide⟩
  have steady : Steady (quietProcess.configure fun _ _ => .zero).1.output.handlers
      (quietProcess.configure fun _ _ => .zero).1.output.level filter.limits
      ([] ++ [(fun _ => .zero, notice)]) := by
    rw [shape, limits]
    refine ⟨⟨?_, ?_⟩, ?_, ?_, by simp⟩
    · rintro entry (_ | ⟨_, _ | ⟨_, ⟨⟩⟩⟩) <;> exact finite
    · exact List.pairwise_pair.mpr (Binary64.not_below_self finite)
    · rintro entry (_ | ⟨_, ⟨⟩⟩)
      exact le_rfl
    · rintro entry (_ | ⟨_, ⟨⟩⟩)
      rfl
  obtain ⟨minute, made⟩ : ∃ window, Binary64.ofInt? (filter.limits.windowSeconds : Int) =
      some window := by
    rw [limits, ← Option.isSome_iff_exists]
    decide +kernel
  obtain ⟨-, -, -, atOnce⟩ := (written_by_first_handlers configured suppressing steady).1 minute made
  obtain ⟨written, -⟩ := atOnce [] .zero rfl rfl
  refine ⟨by rw [shape]; rfl, ?_⟩
  simp only [deliverAll] at written
  rewrite [written, shape, limits]
  rfl

end LoggingProcess

end StorageLayout
