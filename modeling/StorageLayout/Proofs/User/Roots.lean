import StorageLayout.Proofs.Storage.Discovery
import StorageLayout.User.Environment

/-! The volume roots of a user. The environment always gives one, and a host that is asked gives
some or makes way for the environment. Main statement: a user always has roots, and all of them are
absolute, unless looking at the query of the host fails with anything but the lack of it, or what is
logged on the way cannot be logged. -/

namespace StorageLayout

/-- The failures of records that cannot be logged. That of a report of a host, which alone is for
debugging, is a failure of the query and no matter here. -/
def Machine.refusals (machine : Machine) (trail : List Emission) : List Failure :=
  trail.filterMap fun emission =>
    match emission with
    | .record record => if record.level = .debug then none else machine.refusal record
    | _ => none

/-- Whether something found roots: there is at least one, and all are absolute; or else something
could not be logged. -/
def Traced.FindsRoots (machine : Machine) (found : Traced (List Pathname)) : Prop :=
  (machine.refusals found.trail = [] ∧
    ∃ roots, found.outcome = .ok roots ∧ roots ≠ [] ∧ ∀ root ∈ roots, root.isAbsolute = true) ∨
  ∃ failure, machine.refusals found.trail = [failure] ∧ found.outcome = .error failure

section

variable {machine : Machine} {found : Traced (List Pathname)}

theorem Machine.refusals_append (machine : Machine) (first second : List Emission) :
    machine.refusals (first ++ second) = machine.refusals first ++ machine.refusals second :=
  List.filterMap_append

theorem Traced.FindsRoots.after (finds : found.FindsRoots machine) {sent : List Emission}
    (quiet : machine.refusals sent = []) : (Traced.after sent found).FindsRoots machine := by
  unfold FindsRoots
  rw [Traced.after, machine.refusals_append, quiet]
  exact finds

theorem Traced.FindsRoots.log (finds : found.FindsRoots machine) {record : LogRecord}
    (level : record.level ≠ .debug) :
    ((machine.log record).andThen fun _ => found).FindsRoots machine := by
  have alone : machine.refusals [.record record] = (machine.refusal record).toList := by
    cases refused : machine.refusal record <;> simp [Machine.refusals, level, refused]
  cases refused : machine.refusal record with
  | none =>
    rw [Machine.log_of_none refused, Traced.andThen_of_ok rfl]
    exact finds.after (by rw [alone, refused]; rfl)
  | some failure =>
    rw [Machine.log_of_some refused, Traced.andThen_of_error rfl]
    exact .inr ⟨failure, by rw [alone, refused]; rfl, rfl⟩

end

namespace DiscoveryStrategy

/-- Whether looking at the query of an enumerator fails for a reason of its own: the query is not
merely missing, and the host does not call it unavailable either. -/
def Hides (enumerator : VolumeEnumerator) (failure : Failure) : Prop :=
  enumerator = .withoutQuery failure ∧ failure.kind.isA .missingMember = false ∧
    failure.reason? = none

/-- Whether a host that is new enough to be asked hides its query behind a failure. -/
def QueryHidden (host : Option HostCapabilities) (failure : Failure) : Prop :=
  ∃ capabilities enumerator, host = some capabilities ∧
    capabilities.supportsVolumeQuery = true ∧ capabilities.enumerator = some enumerator ∧
    Hides enumerator failure

/-- Only a host that supports this is asked; then it has an enumerator. -/
theorem select_cases (host : Option HostCapabilities) (source : EnvironmentSource) :
    (∃ capabilities enumerator, host = some capabilities ∧
        capabilities.supportsVolumeQuery = true ∧ capabilities.enumerator = some enumerator ∧
        select host source = volumes enumerator (environment source)) ∨
      select host source = environment source := by
  cases host with
  | none => exact .inr rfl
  | some capabilities =>
    cases offered : capabilities.enumerator with
    | none => exact .inr (by simp [select, offered])
    | some enumerator =>
      by_cases supported : capabilities.supportsVolumeQuery = true
      · left
        exact ⟨capabilities, enumerator, rfl, supported, offered,
          by simp [select, offered, supported]⟩
      · exact .inr (by simp [select, offered, supported])

section

variable {machine : Machine} (rooted : machine.workingDirectory.isAbsolute = true)

include rooted

theorem isAbsolute_rootAt (name : Codes) : (rootAt machine name).isAbsolute = true :=
  Pathname.isAbsolute_absolute rooted _

variable (context : LogContext) (source : EnvironmentSource) (user : Nat)

theorem findsRoots_environmentRoots :
    (environmentRoots machine context source user).FindsRoots machine := by
  have single (name : String) :
      (Traced.done [rootAt machine name]).FindsRoots machine := by
    refine .inl ⟨rfl, _, rfl, by simp, ?_⟩
    intro other member
    obtain rfl := List.mem_singleton.mp member
    exact isAbsolute_rootAt rooted name
  rw [environmentRoots]
  split
  · refine .inl ⟨rfl, _, rfl, by simp, ?_⟩
    intro other member
    obtain rfl := List.mem_singleton.mp member
    exact isAbsolute_rootAt rooted _
  · split
    · exact single _
    · rw [Traced.map_eq_andThen]
      have level : Level.warning ≠ Level.debug := by decide
      exact (single standardRoot).log level

omit rooted in
theorem refusals_askHost (enumerator : VolumeEnumerator) :
    machine.refusals (askHost machine context enumerator user).trail = [] := by
  have report (answer : VolumeReport) : machine.refusals
      [.query user writableFlag, .record (reported context user answer)] = [] := by
    simp [Machine.refusals, reported]
  unfold askHost
  split
  · split
    · rfl
    · split <;> rfl
  · dsimp only
    split
    · rfl
    · rfl
    · split <;> exact report _

variable {context user} {enumerator : VolumeEnumerator}

/-- A host that is refused makes way for the environment. -/
theorem findsRoots_of_refused {refused : QueryFailure} {sent : List Emission}
    (asked : askHost machine context enumerator user = ⟨.ok (.error refused), sent⟩) :
    (discover machine context (volumes enumerator (environment source)) user).FindsRoots
      machine := by
  have quiet : machine.refusals sent = [] := by
    rw [← refusals_askHost context user enumerator, asked]
  have level : (fellBack context user environmentName refused).level ≠ .debug := by
    have levels : Level.info ≠ .debug ∧ Level.warning ≠ .debug := by decide
    unfold fellBack
    split
    · exact levels.1
    · exact levels.2
  rw [discover_of_refused asked]
  exact ((findsRoots_environmentRoots rooted context source user).log level).after quiet

theorem findsRoots_of_readable (readable : enumerator.IsReadable) :
    (discover machine context (volumes enumerator (environment source)) user).FindsRoots
      machine := by
  obtain ⟨sent, -, ⟨names, some_, -, -, asked⟩ | ⟨-, refused, -, -, -, -, asked⟩⟩ :=
    askHost_spec machine context user readable
  · have quiet : machine.refusals sent = [] := by
      rw [← refusals_askHost context user enumerator, asked]
    rw [discover_of_listed asked]
    refine .inl ⟨quiet, _, rfl, by simpa using some_, ?_⟩
    intro root member
    obtain ⟨name, -, rfl⟩ := List.mem_map.mp member
    exact isAbsolute_rootAt rooted name
  · exact findsRoots_of_refused rooted source asked

theorem findsRoots_volumes (shown : ∀ failure, ¬ Hides enumerator failure) :
    (discover machine context (volumes enumerator (environment source)) user).FindsRoots
      machine := by
  cases enumerator with
  | answering report =>
    have readable : (VolumeEnumerator.answering report).IsReadable := trivial
    exact findsRoots_of_readable rooted source readable
  | withoutQuery failure =>
    by_cases missing : failure.kind.isA .missingMember = true
    · have readable : (VolumeEnumerator.withoutQuery failure).IsReadable := missing
      exact findsRoots_of_readable rooted source readable
    · have notMissing : failure.kind.isA .missingMember = false := by simpa using missing
      cases given : failure.reason? with
      | none => exact absurd ⟨rfl, notMissing, given⟩ (shown failure)
      | some reason =>
        have asked : askHost machine context (.withoutQuery failure) user =
            ⟨.ok (.error ⟨failure, false⟩), []⟩ := by
          simp [askHost, notMissing, given, Traced.done]
        exact findsRoots_of_refused rooted source asked

end

/-- The failure behind which a query is hidden escapes. -/
theorem discover_of_hides {enumerator : VolumeEnumerator} {failure : Failure}
    (hides : Hides enumerator failure) (machine : Machine) (context : LogContext)
    (fallback : DiscoveryStrategy) (user : Nat) :
    discover machine context (volumes enumerator fallback) user = .fail failure := by
  obtain ⟨rfl, notMissing, unnamed⟩ := hides
  simp [discover, askHost, notMissing, unnamed, Traced.andThen, Traced.fail]

theorem QueryHidden.unique {host : Option HostCapabilities} {failure other : Failure}
    (hidden : QueryHidden host failure) (otherHidden : QueryHidden host other) :
    failure = other := by
  obtain ⟨capabilities, enumerator, rfl, -, offered, rfl, -⟩ := hidden
  obtain ⟨_, otherEnumerator, same, -, otherOffered, rfl, -⟩ := otherHidden
  obtain rfl := Option.some.inj same
  rw [offered] at otherOffered
  cases otherOffered
  rfl

theorem select_of_queryHidden {host : Option HostCapabilities} {failure : Failure}
    (hidden : QueryHidden host failure) (source : EnvironmentSource) :
    ∃ enumerator, Hides enumerator failure ∧
      select host source = volumes enumerator (environment source) := by
  obtain ⟨capabilities, enumerator, rfl, supported, offered, hides⟩ := hidden
  exact ⟨enumerator, hides, by simp [select, offered, supported]⟩

theorem findsRoots_select {machine : Machine}
    (rooted : machine.workingDirectory.isAbsolute = true) {host : Option HostCapabilities}
    (shown : ∀ failure, ¬ QueryHidden host failure) (context : LogContext)
    (source : EnvironmentSource) (user : Nat) :
    (discover machine context (select host source) user).FindsRoots machine := by
  rcases select_cases host source with
    ⟨capabilities, enumerator, rfl, supported, offered, asked⟩ | notAsked
  · rw [asked]
    apply findsRoots_volumes rooted source
    intro failure hides
    exact shown failure ⟨capabilities, enumerator, rfl, supported, offered, hides⟩
  · rw [notAsked]
    exact findsRoots_environmentRoots rooted context source user

end DiscoveryStrategy

namespace UserEnvironment

section

variable {machine : Machine} {context : LogContext} {user : UserEnvironment}

theorem externalDirs_of_findsRoots
    (finds : (user.strategy.discover machine (context.extend user.marks) user.handle).FindsRoots
      machine) : (user.externalDirs machine context).2.FindsRoots machine := by
  have same : (user.externalDirs machine context).2 =
      user.strategy.discover machine (context.extend user.marks) user.handle := by
    unfold externalDirs findRoots
    obtain ⟨-, roots, ok, some_, -⟩ | ⟨failure, -, failed⟩ := finds
    · have found : roots.isEmpty = false := by simpa using some_
      simp only [LogContext.within_snd, Traced.andThen_of_ok ok, found, Bool.false_eq_true,
        if_false, Traced.after, Traced.done, List.append_nil]
      rw [← ok]
    · simp only [LogContext.within_snd, Traced.andThen_of_error failed]
      rw [← failed]
  rw [same]
  exact finds

theorem externalDirs_of_fail {failure : Failure}
    (failed : user.strategy.discover machine (context.extend user.marks) user.handle =
      .fail failure) :
    (user.externalDirs machine context).2 = .fail failure := by
  simp [externalDirs, findRoots, failed, Traced.andThen, Traced.fail]

end

/-- Whatever the host and the environment are, the storage of a user can be made, and finding its
roots gives at least one, all of them absolute. There are two exceptions: a failure other than the
lack of the query escapes if the host raises it when its query is looked at, and so does that of a
warning that cannot be logged. -/
theorem externalDirs_unless_queryHidden {machine : Machine}
    (rooted : machine.workingDirectory.isAbsolute = true) (context : LogContext)
    (host : Option HostCapabilities) (source : EnvironmentSource) {handle : Value} {user : Nat}
    (valid : User.checkHandle handle = .ok user) :
    ∃ storage, create handle host source none = .ok storage ∧
      let found := (storage.externalDirs machine context).2
      ((∃ roots, found.outcome = .ok roots ∧ roots ≠ [] ∧
          ∀ root ∈ roots, root.isAbsolute = true) ↔
        (∀ failure, ¬ DiscoveryStrategy.QueryHidden host failure) ∧
          machine.refusals found.trail = []) ∧
      ∀ failure, found.outcome = .error failure ↔
        DiscoveryStrategy.QueryHidden host failure ∨ failure ∈ machine.refusals found.trail := by
  refine ⟨⟨user, source, DiscoveryStrategy.select host source⟩, by simp [create, valid], ?_⟩
  intro found
  by_cases hidden : ∃ failure, DiscoveryStrategy.QueryHidden host failure
  · obtain ⟨failure, hidden⟩ := hidden
    obtain ⟨enumerator, hides, selected⟩ := DiscoveryStrategy.select_of_queryHidden hidden source
    have escapes : found = .fail failure := by
      apply externalDirs_of_fail
      dsimp only
      rw [selected]
      exact DiscoveryStrategy.discover_of_hides hides machine _ _ user
    rw [escapes]
    constructor
    · constructor
      · rintro ⟨roots, impossible, -⟩
        cases impossible
      · rintro ⟨shown, -⟩
        exact absurd hidden (shown failure)
    · intro other
      have only : DiscoveryStrategy.QueryHidden host other ↔ other = failure :=
        ⟨fun otherHidden => otherHidden.unique hidden, fun same => same ▸ hidden⟩
      have nothing : machine.refusals (Traced.fail failure : Traced (List Pathname)).trail = [] := rfl
      rw [only, nothing]
      constructor
      · intro failed
        exact .inl (Except.error.inj failed).symm
      · rintro (rfl | impossible)
        · rfl
        · cases impossible
  · have shown := not_exists.mp hidden
    have finds : found.FindsRoots machine := by
      apply externalDirs_of_findsRoots
      exact DiscoveryStrategy.findsRoots_select rooted shown _ source user
    obtain ⟨quiet, roots, ok, some_, absolute⟩ | ⟨failure, refused, failed⟩ := finds
    · rw [ok, quiet]
      exact ⟨⟨fun _ => ⟨shown, rfl⟩, fun _ => ⟨roots, rfl, some_, absolute⟩⟩, by simp [shown]⟩
    · rw [failed, refused]
      refine ⟨by simp, fun other => ?_⟩
      rw [or_iff_right (shown other), List.mem_singleton, Except.error.injEq, eq_comm]

def forbiddingHost : HostCapabilities :=
  ⟨some 33, some (.withoutQuery (.raised .permission "denied"))⟩

/-- A denial while the query is looked at is not taken as a reason to fall back. -/
theorem externalDirs_of_forbiddingHost :
    ∃ storage, create (.int 7) (some forbiddingHost) (some [("EXTERNAL_STORAGE", "/sdcard")]) none =
        .ok storage ∧
      (storage.externalDirs VolumeReport.bareMachine none).2.outcome =
        .error (.raised .permission "denied") := by
  have rooted : VolumeReport.bareMachine.workingDirectory.isAbsolute = true := by decide
  have valid : User.checkHandle (.int 7) = .ok 7 := rfl
  have hidden :
      DiscoveryStrategy.QueryHidden (some forbiddingHost) (.raised .permission "denied") :=
    ⟨forbiddingHost, _, rfl, by decide, rfl, rfl, by decide, rfl⟩
  obtain ⟨storage, made, -, escapes⟩ := externalDirs_unless_queryHidden rooted none
    (some forbiddingHost) (some [("EXTERNAL_STORAGE", "/sdcard")]) valid
  exact ⟨storage, made, (escapes _).mpr (.inl hidden)⟩

end UserEnvironment

end StorageLayout
