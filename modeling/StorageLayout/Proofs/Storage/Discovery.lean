import StorageLayout.Proofs.Storage.Volume

/-! Asking a host for the volumes of a user. Main statement: the answer of the host is taken as a
whole or not at all. Either the answer can be logged and every volume answers, and the roots are the
paths they name, in order, or the roots are those of the strategy to fall back on; the reason is
that of the first thing that fails. -/

namespace StorageLayout

/-- The queries among what was sent out: for whom, and for volumes of which kind. -/
def Emission.queries (trail : List Emission) : List (Nat × Nat) :=
  trail.filterMap fun emission =>
    match emission with
    | .query user flags => some (user, flags)
    | _ => none

/-- The reason for which a failure of a host makes a query unavailable. One that the host gives
itself is kept; otherwise lacking something comes before being denied. -/
def Failure.MakesUnavailable (failure : Failure) (reason : Reason) : Prop :=
  match failure.reason? with
  | some given => reason = given
  | none =>
    reason =
      if failure.kind.isA .missingMember ∨ failure.kind.isA .notImplemented then .notFound
      else if failure.kind.isA .permission then .accessDenied
      else .invocationFailed

namespace VolumeEnumerator

/-- Whether the query of an enumerator can be looked at: it lacks it, or it has it. -/
def IsReadable : VolumeEnumerator → Prop
  | withoutQuery failure => failure.kind.isA .missingMember = true
  | answering _ => True

/-- What comes of the record of a report if it is refused. -/
def unlogged (machine : Machine) (context : LogContext) (user : Nat)
    (report : Nat → VolumeReport) : Option Failure :=
  machine.refusal (DiscoveryStrategy.reported context user (report user))

/-- The names that an enumerator lists for a user in a report that is logged. -/
def Lists (machine : Machine) (context : LogContext) (user : Nat) :
    VolumeEnumerator → List Codes → Prop
  | withoutQuery _, _ => False
  | answering report, names =>
    unlogged machine context user report = none ∧ (report user).Lists names

/-- The reason for which an enumerator is of no use: it lacks the query, its report stops at a
failure, or no volume that it lists has a path. -/
inductive RefusedFor (machine : Machine) (context : LogContext) (user : Nat) :
    VolumeEnumerator → Reason → Prop where
  | noQuery {failure : Failure} (missing : failure.kind.isA .missingMember = true) :
      RefusedFor machine context user (withoutQuery failure) .notFound
  | stops {report : Nat → VolumeReport} {failure : Failure} {reason : Reason}
      (stops : (report user).StopsAt (unlogged machine context user report) failure)
      (unavailable : failure.MakesUnavailable reason) :
      RefusedFor machine context user (answering report) reason
  | noPaths {report : Nat → VolumeReport} (logged : unlogged machine context user report = none)
      (listed : (report user).Lists []) :
      RefusedFor machine context user (answering report) .noPaths

/-- The queries that an enumerator gets for one user: one if it can be asked. -/
def asked (user : Nat) : VolumeEnumerator → List (Nat × Nat)
  | withoutQuery _ => []
  | answering _ => [(user, DiscoveryStrategy.writableFlag)]

end VolumeEnumerator

namespace DiscoveryStrategy

theorem refusal_eq (failure : Failure) :
    ∃ reason message, refusal failure = .unavailable reason message ∧
      ∀ other, failure.MakesUnavailable other ↔ other = reason := by
  by_cases given : ∃ reason message, failure = .unavailable reason message
  · obtain ⟨reason, message, rfl⟩ := given
    exact ⟨reason, message, rfl, fun other => Iff.rfl⟩
  · have noReason : failure.reason? = none := by
      cases failure <;> first | rfl | exact absurd ⟨_, _, rfl⟩ given
    have opened : refusal failure =
        if failure.kind.isA .missingMember || failure.kind.isA .notImplemented then
          .unavailable .notFound ("volume query not implemented: " ++ failure.text)
        else if failure.kind.isA .permission then
          .unavailable .accessDenied ("volume query denied: " ++ failure.text)
        else .unavailable .invocationFailed ("volume query failed: " ++ failure.text) := by
      unfold refusal
      split
      · exact absurd ⟨_, _, rfl⟩ given
      · rfl
    simp only [Failure.MakesUnavailable, noReason, opened, Bool.or_eq_true]
    split
    · exact ⟨_, _, rfl, fun other => Iff.rfl⟩
    · split
      · exact ⟨_, _, rfl, fun other => Iff.rfl⟩
      · exact ⟨_, _, rfl, fun other => Iff.rfl⟩

/-- What becomes of the roots that a report gives: no root at all counts as a failure. -/
def judged : Except Failure (List Pathname) → Except QueryFailure (List Pathname)
  | .error failure => .error ⟨refusal failure, failure.reason?.isNone⟩
  | .ok [] => .error ⟨.unavailable .noPaths "no reported volume has a path", false⟩
  | .ok paths => .ok paths

theorem judged_of_ne_nil {paths : List Pathname} (some_ : paths ≠ []) :
    judged (.ok paths) = .ok paths := by
  cases paths with
  | nil => exact absurd rfl some_
  | cons path rest => rfl

section

open VolumeEnumerator (unlogged)

variable {machine : Machine} {context : LogContext} {user : Nat} {report : Nat → VolumeReport}

/-- Names that a logged report lists are all that it says. -/
theorem not_refusedFor_of_lists {names : List Codes} (some_ : names ≠ [])
    (logged : unlogged machine context user report = none) (listed : (report user).Lists names)
    (reason : Reason) :
    ¬ (VolumeEnumerator.answering report).RefusedFor machine context user reason := by
  intro refused
  cases refused with
  | stops stops =>
    rw [logged] at stops
    exact listed.not_stopsAt stops
  | noPaths _ nothing => exact some_ (nothing.eq_nil listed)

/-- A report that stops at a failure is refused for the reason of this failure alone. -/
theorem refusedFor_iff_of_stopsAt {failure : Failure}
    (stops : (report user).StopsAt (unlogged machine context user report) failure)
    (reason : Reason) :
    (VolumeEnumerator.answering report).RefusedFor machine context user reason ↔
      failure.MakesUnavailable reason := by
  constructor
  · intro refused
    cases refused with
    | stops other unavailable =>
      obtain rfl := stops.unique other
      exact unavailable
    | noPaths logged nothing =>
      rw [logged] at stops
      exact absurd stops nothing.not_stopsAt
  · intro unavailable
    exact .stops stops unavailable

/-- A logged report of volumes without any path is refused for this reason alone. -/
theorem refusedFor_iff_of_nothing (logged : unlogged machine context user report = none)
    (nothing : (report user).Lists []) (reason : Reason) :
    (VolumeEnumerator.answering report).RefusedFor machine context user reason ↔
      reason = .noPaths := by
  constructor
  · intro refused
    cases refused with
    | stops stops =>
      rw [logged] at stops
      exact absurd stops nothing.not_stopsAt
    | noPaths => rfl
  · rintro rfl
    exact .noPaths logged nothing

end

section

variable (machine : Machine) (context : LogContext) (user : Nat)

/-- A host with a query is asked once, and what it reports is judged. -/
theorem askHost_answering (report : Nat → VolumeReport) :
    ∃ sent, Emission.queries sent = [(user, writableFlag)] ∧
      askHost machine context (.answering report) user =
        ⟨.ok (judged ((report user).roots machine
          (VolumeEnumerator.unlogged machine context user report))), sent⟩ := by
  unfold askHost
  dsimp only
  split
  · next failure failed =>
    rw [failed]
    exact ⟨_, rfl, rfl⟩
  · next nothing =>
    rw [nothing]
    exact ⟨_, rfl, rfl⟩
  · next notFailed notNull =>
    have given : (report user).IsGiven := ⟨notFailed, notNull⟩
    refine ⟨[.query user writableFlag, .record (reported context user (report user))], rfl, ?_⟩
    unfold VolumeEnumerator.unlogged Machine.log
    cases machine.refusal (reported context user (report user)) with
    | some failure =>
      rw [VolumeReport.roots_of_refused machine given]
      rfl
    | none =>
      rw [VolumeReport.roots_of_logged machine given, Except.bind]
      cases (report user).toVolumes.bind (volumePaths machine) with
      | error failure => rfl
      | ok paths => cases paths <;> rfl

/-- A host without the query is not asked. -/
theorem askHost_withoutQuery {failure : Failure}
    (missing : failure.kind.isA .missingMember = true) :
    askHost machine context (.withoutQuery failure) user =
      .done (.error ⟨.unavailable .notFound "host has no getVolumeList()", true⟩) := by
  simp [askHost, missing]

/-- Asking a host gives the absolute forms of the names that it lists, if there are any, or else the
one reason for which it is refused. -/
theorem askHost_spec {enumerator : VolumeEnumerator} (readable : enumerator.IsReadable) :
    ∃ sent, Emission.queries sent = enumerator.asked user ∧
      ((∃ names, names ≠ [] ∧ enumerator.Lists machine context user names ∧
          (∀ reason, ¬ enumerator.RefusedFor machine context user reason) ∧
          askHost machine context enumerator user =
            ⟨.ok (.ok (names.map (rootAt machine))), sent⟩) ∨
        (¬ ∃ names, names ≠ [] ∧ enumerator.Lists machine context user names) ∧
          ∃ refused reason message, refused.failure = .unavailable reason message ∧
            (∀ other, enumerator.RefusedFor machine context user other ↔ other = reason) ∧
            askHost machine context enumerator user = ⟨.ok (.error refused), sent⟩) := by
  cases enumerator with
  | withoutQuery failure =>
    have asked := askHost_withoutQuery machine context user readable
    refine ⟨[], rfl, .inr ⟨by simp [VolumeEnumerator.Lists], _, _, _, rfl, ?_, asked⟩⟩
    intro other
    constructor
    · intro refused
      cases refused
      rfl
    · rintro rfl
      exact .noQuery readable
  | answering report =>
    obtain ⟨sent, once, asked⟩ := askHost_answering machine context user report
    refine ⟨sent, once, ?_⟩
    cases found : (report user).roots machine
        (VolumeEnumerator.unlogged machine context user report) with
    | error failure =>
      have stops := (VolumeReport.roots_eq_error_iff machine).mp found
      obtain ⟨reason, message, turned, unavailable⟩ := refusal_eq failure
      rw [found] at asked
      refine .inr ⟨?_, _, reason, message, turned, ?_, asked⟩
      · rintro ⟨names, -, logged, listed⟩
        rw [logged] at stops
        exact listed.not_stopsAt stops
      · intro other
        exact (refusedFor_iff_of_stopsAt stops other).trans (unavailable other)
    | ok paths =>
      obtain ⟨logged, names, listed, rfl⟩ := (VolumeReport.roots_eq_ok_iff machine).mp found
      rw [found] at asked
      by_cases some_ : names = []
      · subst some_
        refine .inr ⟨?_, _, _, _, rfl, refusedFor_iff_of_nothing logged listed, asked⟩
        rintro ⟨names, some_, -, others⟩
        exact some_ (listed.eq_nil others)
      · rw [judged_of_ne_nil (by simpa using some_)] at asked
        exact .inl ⟨names, some_, ⟨logged, listed⟩,
          not_refusedFor_of_lists some_ logged listed, asked⟩

variable {machine context user} {enumerator : VolumeEnumerator} {sent : List Emission}

theorem queryVolumes_of_refused {refused : QueryFailure}
    (asked : askHost machine context enumerator user = ⟨.ok (.error refused), sent⟩) :
    queryVolumes machine context enumerator user = ⟨.error refused.failure, sent⟩ := by
  simp [queryVolumes, asked, Traced.andThen, Traced.fail]

theorem queryVolumes_of_listed {paths : List Pathname}
    (asked : askHost machine context enumerator user = ⟨.ok (.ok paths), sent⟩) :
    queryVolumes machine context enumerator user = ⟨.ok paths, sent⟩ := by
  simp [queryVolumes, asked, Traced.andThen, Traced.done]

theorem discover_of_refused {refused : QueryFailure}
    (asked : askHost machine context enumerator user = ⟨.ok (.error refused), sent⟩)
    (fallback : DiscoveryStrategy) :
    discover machine context (volumes enumerator fallback) user =
      Traced.after sent
        ((machine.log (fellBack context user fallback.name refused)).andThen fun _ =>
          discover machine context fallback user) := by
  rw [discover, asked, Traced.andThen_of_ok rfl]

theorem discover_of_listed {paths : List Pathname}
    (asked : askHost machine context enumerator user = ⟨.ok (.ok paths), sent⟩)
    (fallback : DiscoveryStrategy) :
    discover machine context (volumes enumerator fallback) user = ⟨.ok paths, sent⟩ := by
  simp [discover, asked, Traced.andThen, Traced.done]

end

/-- What a host lists for a user is taken as a whole, if there is any of it: the roots are the
absolute forms of the names, in order. Otherwise this is logged and they are those of the strategy to
fall back on, and the query alone fails, for the reason of the first thing that fails; what cannot be
logged is not answered at all. Either way a host that has the query is asked once. -/
theorem discover_all_or_nothing (machine : Machine) (context : LogContext)
    {enumerator : VolumeEnumerator} (readable : enumerator.IsReadable)
    (fallback : DiscoveryStrategy) (user : Nat) :
    Emission.queries (queryVolumes machine context enumerator user).trail = enumerator.asked user ∧
      ((∃ names, names ≠ [] ∧ enumerator.Lists machine context user names ∧
          (queryVolumes machine context enumerator user).outcome =
            .ok (names.map (rootAt machine)) ∧
          discover machine context (volumes enumerator fallback) user =
            queryVolumes machine context enumerator user) ∨
        (¬ ∃ names, names ≠ [] ∧ enumerator.Lists machine context user names) ∧
          (∃ reason message, (queryVolumes machine context enumerator user).outcome =
            .error (.unavailable reason message)) ∧
          ∃ record, discover machine context (volumes enumerator fallback) user =
              Traced.after (queryVolumes machine context enumerator user).trail
                ((machine.log record).andThen fun _ => discover machine context fallback user) ∧
            (machine.refusal record = none →
              (discover machine context (volumes enumerator fallback) user).outcome =
                (discover machine context fallback user).outcome) ∧
            ∀ failure, machine.refusal record = some failure →
              (discover machine context (volumes enumerator fallback) user).outcome =
                .error failure) ∧
      ∀ reason, (∃ message, (queryVolumes machine context enumerator user).outcome =
          .error (.unavailable reason message)) ↔
        enumerator.RefusedFor machine context user reason := by
  obtain ⟨sent, once, ⟨names, some_, listed, notRefused, asked⟩ |
    ⟨nothing, refused, reason, message, turned, only, asked⟩⟩ :=
      askHost_spec machine context user readable
  · have queried := queryVolumes_of_listed asked
    rw [queried]
    refine ⟨once, .inl ⟨names, some_, listed, rfl, discover_of_listed asked fallback⟩, ?_⟩
    intro reason
    constructor
    · rintro ⟨message, same⟩
      cases same
    · intro refused
      exact absurd refused (notRefused reason)
  · have queried := queryVolumes_of_refused asked
    rw [turned] at queried
    rw [queried]
    have fellBack := discover_of_refused asked fallback
    refine ⟨once, .inr ⟨nothing, ⟨reason, message, rfl⟩, _, fellBack, ?_, ?_⟩, ?_⟩
    · intro logged
      rw [fellBack, Traced.after, Machine.log_of_none logged]
      rfl
    · intro failure refusedRecord
      rw [fellBack, Traced.after, Machine.log_of_some refusedRecord]
      rfl
    intro other
    rw [only other]
    constructor
    · rintro ⟨text, same⟩
      cases same
      rfl
    · rintro rfl
      exact ⟨message, rfl⟩

/-- A host that lists a volume and is not allowed to say where the next one is. -/
def lateDenial : VolumeEnumerator :=
  .answering fun _ =>
    .volumes [.known (some (Text.codes "/storage/a")) "",
      ⟨"<denied>", .error (.raised .permission "denied")⟩]

/-- A machine on which nothing can be logged, as a window of time is too long to be worked out. -/
def silentMachine : Machine :=
  { VolumeReport.bareMachine with refusal := fun _ => some (.number .tooLarge) }

/-- A path that was found before something fails is not used, and what failed is not answered if it
cannot be logged. -/
theorem discover_after_late_denial :
    (∃ message, (queryVolumes VolumeReport.bareMachine none lateDenial 10).outcome =
        .error (.unavailable .accessDenied message)) ∧
      (discover VolumeReport.bareMachine none (volumes lateDenial (environment none)) 10).outcome =
        (discover VolumeReport.bareMachine none (environment none) 10).outcome ∧
      (discover silentMachine none (volumes lateDenial (environment none)) 10).outcome =
        .error (.number .tooLarge) := by
  have stops : (VolumeReport.volumes [Volume.known (some (Text.codes "/storage/a")) "",
        ⟨"<denied>", .error (.raised .permission "denied")⟩]).StopsAt none
      (.raised .permission "denied") := by
    refine @VolumeReport.StopsAt.volume _ _ [Volume.known (some (Text.codes "/storage/a")) ""] [] _ _ rfl
      rfl ?_
      (.asked rfl)
    intro earlier member
    obtain rfl := List.mem_singleton.mp member
    have named := Value.fileName?_of_codes? (Value.codes?_ofCodes "/storage/a")
    exact ⟨some "/storage/a", .named rfl named (by decide)⟩
  have readable : lateDenial.IsReadable := trivial
  obtain ⟨-, answered, reasons⟩ :=
    discover_all_or_nothing VolumeReport.bareMachine none readable (environment none) 10
  obtain ⟨-, unanswered, -⟩ :=
    discover_all_or_nothing silentMachine none readable (environment none) 10
  refine ⟨(reasons .accessDenied).mpr (.stops stops rfl), ?_, ?_⟩
  · rcases answered with ⟨names, -, ⟨-, listed⟩, -⟩ | ⟨-, -, record, -, logged, -⟩
    · exact absurd stops listed.not_stopsAt
    · exact logged rfl
  · rcases unanswered with ⟨names, -, ⟨logged, -⟩, -⟩ | ⟨-, -, record, -, -, refused⟩
    · exact absurd logged (by simp [VolumeEnumerator.unlogged, silentMachine])
    · exact refused _ rfl

end DiscoveryStrategy

end StorageLayout
