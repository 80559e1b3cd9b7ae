import StorageLayout.Proofs.Config.Runs
import StorageLayout.Proofs.Settings.Layers
import StorageLayout.Proofs.SharedState.Runs
import StorageLayout.Proofs.User.Lookups

/-! Lookups and settings. A lookup that has to make the holder of the current user first reads the
settings, whose strict mode it does not show and most failures of which it survives. Main statement:
what such a lookup gives does not depend on any settings variable or settings file, as long as the
settings file can be looked for at all; a home directory that cannot be told, a name too long for a
file or a locked directory ends it. -/

namespace StorageLayout

namespace Settings

/-- The variables that have to do with settings. -/
def variableNames : List String := fileVariable :: bindings.map Prod.snd

/-- Why the settings file cannot even be looked for: its home directory cannot be told, its name is
too long, or a directory on the way to it is locked. -/
def lostFile? (machine : Machine) : Option Failure :=
  match (Pathname.parse (chooseFile machine.environment none).1).expandHome machine.homeOf with
  | .error failure => some failure
  | .ok path =>
    match machine.files.find path with
    | .error .nameTooLong => some (.system .system)
    | .error .denied => some (.system .permission)
    | _ => none

/-- Whether two machines differ only in what has to do with settings: in their files and in the
variables of settings. Both can log whatever there is to say about that. -/
structure AgreeApart (left right : Machine) : Prop where
  workingDirectory : left.workingDirectory = right.workingDirectory
  userId : left.userId = right.userId
  others : ∀ name, name ∉ variableNames →
    left.environment.get? name = right.environment.get? name
  logs : left.LogsAll ∧ right.LogsAll

section

variable {machine : Machine} {context : LogContext} {failure : Failure}

/-- How looking for a file fails: no home directory can be told, or the system itself fails in a way
that callers of settings are not prepared for. -/
inductive IsLoss : Failure → Prop where
  | noHome : IsLoss .noHome
  | noUserIds : IsLoss .noUserIds
  | embeddedNul : IsLoss .embeddedNul
  | system {kind : FailureKind} (strays : SharedState.makesUnavailable kind = false) :
      IsLoss (.system kind)

theorem IsLoss.strays (loss : IsLoss failure) :
    SharedState.makesUnavailable failure.kind = false := by
  cases loss with
  | noHome | noUserIds | embeddedNul => rfl
  | system strays => exact strays

theorem accountHome_error {isMeant : Account → Bool}
    (failed : machine.accountHome isMeant = .error failure) : failure = .noHome := by
  unfold Machine.accountHome at failed
  split at failed
  · cases failed
  · exact (Except.error.inj failed).symm

theorem homeOf_error {user : Codes} (failed : machine.homeOf user = .error failure) :
    IsLoss failure := by
  unfold Machine.homeOf Machine.home at failed
  split at failed
  · split at failed
    · cases failed
    · exact Except.error.inj failed ▸ .noUserIds
    · exact accountHome_error failed ▸ .noHome
  · split at failed
    · exact Except.error.inj failed ▸ .system rfl
    · split at failed
      · exact Except.error.inj failed ▸ .embeddedNul
      · exact accountHome_error failed ▸ .noHome

theorem expandHome_error {path : Pathname}
    (failed : path.expandHome machine.homeOf = .error failure) : IsLoss failure := by
  unfold Pathname.expandHome at failed
  split at failed
  · next user rest _ _ =>
    cases told : machine.homeOf user with
    | error problem =>
      rw [told] at failed
      obtain rfl := Except.error.inj failed
      exact homeOf_error told
    | ok home =>
      simp only [told, Except.bind] at failed
      split at failed
      · exact Except.error.inj failed ▸ .noHome
      · cases failed
  · cases failed

theorem lostFile?_spec (lost : lostFile? machine = some failure) : IsLoss failure := by
  unfold lostFile? at lost
  split at lost
  · next failure failed =>
    obtain rfl := Option.some.inj lost
    exact expandHome_error failed
  · split at lost
    · exact Option.some.inj lost ▸ .system rfl
    · exact Option.some.inj lost ▸ .system rfl
    · cases lost

theorem chooseFile_process (machine : Machine) :
    chooseFile (EnvironmentSource.resolve none machine.environment) none =
      ((chooseFile machine.environment none).1, (chooseFile machine.environment none).2) := rfl

theorem buildStore_of_lost (lost : lostFile? machine = some failure) :
    (buildStore machine context none none).outcome = .error failure := by
  have read : (Layer.ofPath machine context
      (chooseFile machine.environment none).1 (chooseFile machine.environment none).2).outcome =
        .error failure := by
    unfold lostFile? at lost
    unfold Layer.ofPath
    cases found : (Pathname.parse (chooseFile machine.environment none).1).expandHome
        machine.homeOf with
    | error problem =>
      rw [found] at lost
      obtain rfl := Option.some.inj lost
      rfl
    | ok path =>
      rw [found] at lost
      dsimp only at lost ⊢
      split at lost
      · next tooLong =>
        obtain rfl := Option.some.inj lost
        rw [tooLong]
        rfl
      · next denied =>
        obtain rfl := Option.some.inj lost
        rw [denied]
        rfl
      · cases lost
  exact buildStore_of_unread (chooseFile_process machine) read

theorem readFile_error {room : Json5.Room} {path : Pathname} {data : List UInt8}
    (failed : Layer.readFile room path data = .error failure) :
    SharedState.makesUnavailable failure.kind = true := by
  unfold Layer.readFile at failed
  split at failed
  · rw [← Except.error.inj failed]
    rfl
  · cases failed
  · split at failed
    · cases failed
    · rw [← Except.error.inj failed]
      rfl

theorem validate_error {process : Environment} {store : Store}
    (refused : store.validate process = .error failure) :
    SharedState.makesUnavailable failure.kind = true := by
  unfold Store.validate at refused
  split at refused
  · cases refused
  · split at refused
    · cases refused
    · rw [← Except.error.inj refused]
      rfl

/-- If it can be looked for, building the store fails only in ways that make settings
unavailable. -/
theorem buildStore_of_found (logs : machine.LogsAll) (found : lostFile? machine = none)
    (failed : (buildStore machine context none none).outcome = .error failure) :
    SharedState.makesUnavailable failure.kind = true := by
  cases read : (Layer.ofPath machine context
      (chooseFile machine.environment none).1 (chooseFile machine.environment none).2).outcome with
  | error problem =>
    rw [buildStore_of_unread (chooseFile_process machine) read] at failed
    obtain rfl := Except.error.inj failed
    unfold lostFile? at found
    unfold Layer.ofPath at read
    split at found
    · cases found
    · next path named =>
      simp only [named] at read
      split at read
      · rw [← Except.error.inj read]
        rfl
      · rw [← Except.error.inj read]
        rfl
      · exact readFile_error read
      · next tooLong =>
        rw [tooLong] at found
        cases found
      · next denied =>
        rw [denied] at found
        cases found
      · split at read
        · rw [← Except.error.inj read]
          rfl
        · rw [logs.outcome_map_log] at read
          cases read
  | ok layer =>
    rw [buildStore_of_read (chooseFile_process machine) read] at failed
    cases valid : (storeOver none layer).validate machine.environment with
    | error problem =>
      rw [valid] at failed
      obtain rfl := Except.error.inj failed
      exact validate_error valid
    | ok _ =>
      rw [valid] at failed
      cases failed

end

end Settings

namespace DiscoveryStrategy

def environmentRoot (machine : Machine) (user : Nat) : Pathname :=
  match machine.environment.lookup? sharedVariable with
  | some target => (rootAt machine target).join (toString user)
  | none => rootAt machine ((machine.environment.lookup? externalVariable).getD standardRoot)

theorem environmentRoots_outcome {machine : Machine} (logs : machine.LogsAll)
    (context : LogContext) (user : Nat) :
    (environmentRoots machine context none user).outcome = .ok [environmentRoot machine user] := by
  unfold environmentRoots environmentRoot
  dsimp only [EnvironmentSource.resolve, Option.getD_none]
  cases machine.environment.lookup? sharedVariable with
  | some target => rfl
  | none =>
    cases machine.environment.lookup? externalVariable with
    | some root => rfl
    | none =>
      dsimp only
      rw [logs.outcome_map_log]
      rfl

end DiscoveryStrategy

namespace SharedState

/-- The directories of an area for a user whose roots the environment of a machine gives. -/
def environmentDirs (machine : Machine) (area : StorageArea) (name : Value) (user : Nat) :
    Except Failure (List Pathname) :=
  if area = .publicFiles && name.isNull then
    .ok [DiscoveryStrategy.environmentRoot machine user]
  else
    (Pathname.extendAll machine.workingDirectory [DiscoveryStrategy.environmentRoot machine user]
      (area.segments name)).mapError .path

/-- The directories of an area for the owner of a process, by anything but settings. -/
def ownerDirs (machine : Machine) (area : StorageArea) (name : Value) :
    Except Failure (List Pathname) :=
  match User.checkHandle (.int (User.ownerHandle machine.userId)) with
  | .error problem => .error (.handle problem)
  | .ok user => environmentDirs machine area name user

/-- Why the settings of a process cannot even be looked for, if they have not been read. -/
def lostSettings? (state : SharedState) : Option Failure :=
  match state.globalStore with
  | some _ => none
  | none => Settings.lostFile? state.machine

section

variable {state : SharedState} {context : LogContext} {machine : Machine} {user : Nat}

/-- What a lookup gives depends neither on strict mode nor on the log context. -/
theorem areaDirs_outcome {holder : CurrentUser} (logs : machine.LogsAll)
    (owner : holder.current = ⟨user, none, .environment none⟩) (area : StorageArea) (name : Value) :
    (holder.areaDirs machine context area name).2.outcome =
      environmentDirs machine area name user := by
  have roots (context : LogContext) : (holder.current.externalDirs machine context).2.outcome =
      .ok [DiscoveryStrategy.environmentRoot machine user] := by
    rw [owner, UserEnvironment.externalDirs, LogContext.within_snd, UserEnvironment.findRoots,
      DiscoveryStrategy.discover,
      Traced.andThen_of_ok (DiscoveryStrategy.environmentRoots_outcome logs _ user)]
    rfl
  have complained : (holder.complain machine context area.accessor).2.outcome = .ok () := by
    rw [CurrentUser.complain_snd]
    split
    · exact logs.outcome_log _
    · rfl
  unfold CurrentUser.areaDirs CurrentUser.answer environmentDirs
  rw [Scoped.andThen, complained]
  dsimp only [Traced.after]
  split
  · exact roots _
  · unfold UserEnvironment.areaDirs Scoped.andThen
    rw [roots]
    dsimp only [Traced.after]
    split
    · next paths extended => rw [extended]; rfl
    · next problem refused => rw [refused]; rfl

theorem create_owner (machine : Machine) (strict : Bool) :
    CurrentUser.create machine .processOwner none none strict =
      match User.checkHandle (.int (User.ownerHandle machine.userId)) with
      | .error problem => .error (.handle problem)
      | .ok user => .ok ⟨.processOwner, none, none, strict, ⟨user, none, .environment none⟩⟩ := by
  simp only [CurrentUser.create, CurrentUser.resolve, UserSource.read, Except.bind,
    UserEnvironment.create]
  cases User.checkHandle (.int (User.ownerHandle machine.userId)) <;> rfl

theorem machine_follow (place : Nat) (state : SharedState) :
    (state.follow place).machine = state.machine := by
  unfold follow
  split <;> rfl

/-- Settings that have to be read first can be lost; whatever else is wrong with them is
survived. -/
theorem availableConfig_outcome (logs : state.machine.LogsAll) (context : LogContext) :
    (∀ failure, state.lostSettings? = some failure →
        (state.availableConfig context).2.outcome = .error failure) ∧
      (state.lostSettings? = none →
        ∃ index, (state.availableConfig context).2.outcome = .ok index) ∧
      (state.availableConfig context).1.machine = state.machine := by
  unfold availableConfig globalConfig initConfig lostSettings?
  cases global : state.globalStore with
  | some place => simp [Traced.done]
  | none =>
    dsimp only
    cases built : (Settings.buildStore state.machine context none none).outcome with
    | ok store =>
      dsimp only [addStore]
      have read : (Traced.after (Settings.buildStore state.machine context none none).trail
          ((state.machine.log (configured context store)).map fun _ =>
            state.stores.length)).outcome = .ok state.stores.length := logs.outcome_map_log _ _
      rw [read]
      refine ⟨?_, fun _ => ⟨_, rfl⟩, rfl⟩
      intro failure lost
      rw [Settings.buildStore_of_lost lost] at built
      cases built
    | error failure =>
      dsimp only
      split
      · next unavailable =>
        refine ⟨?_, fun _ => ⟨none, logs.outcome_map_log _ _⟩, rfl⟩
        intro other lost
        rw [Settings.buildStore_of_lost lost] at built
        obtain rfl := Except.error.inj built
        cases (Settings.lostFile?_spec lost).strays.symm.trans unavailable
      · next strays =>
        refine ⟨?_, ?_, rfl⟩
        · intro other lost
          rw [Settings.buildStore_of_lost lost] at built
          rw [Except.error.inj built]
        · intro found
          exact absurd (Settings.buildStore_of_found logs found built) strays

/-- A lookup that has to make the holder of the current user fails with the settings if they are
lost; otherwise it gives what it gives by anything but settings. -/
theorem areaDirs_of_noUsers (logs : state.machine.LogsAll) (nobody : state.users = none)
    (context : LogContext) (area : StorageArea) (name : Value) :
    (state.areaDirs context area name).2.outcome =
      state.lostSettings?.elim (ownerDirs state.machine area name) .error := by
  obtain ⟨lostWith, found, machine⟩ := availableConfig_outcome logs context
  unfold areaDirs ensureUsers
  rw [nobody]
  dsimp only
  cases lost : state.lostSettings? with
  | some failure =>
    have failed : (state.bootstrap context .standard).2.outcome = .error failure := by
      rw [bootstrap, Step.andThen_of_error (lostWith failure lost)]
    rw [Step.andThen_of_error failed]
    rfl
  | none =>
    obtain ⟨index, available⟩ := found lost
    have made := create_owner (state.availableConfig context).1.machine
      ((state.availableConfig context).1.strictModeOf index)
    rw [bootstrap, Step.andThen_of_ok available, ownerDirs, ← machine]
    dsimp only [UserSetup.standard, Option.getD_none]
    rw [made]
    generalize User.checkHandle
      (.int (User.ownerHandle (state.availableConfig context).1.machine.userId)) = checked
    cases checked with
    | error problem => rfl
    | ok user =>
      dsimp only
      have stillLogs : (state.availableConfig context).1.machine.LogsAll := by rwa [machine]
      have ready (users : CurrentUser) : (Traced.after (state.availableConfig context).2.trail
          (((state.availableConfig context).1.machine.log (ready context users)).map fun _ =>
            users)).outcome = .ok users := stillLogs.outcome_map_log _ _
      rw [Step.andThen_of_ok (ready _)]
      have kept : ∀ shared : SharedState,
          (index.elim shared fun index => shared.follow index).machine = shared.machine := by
        intro shared
        cases index with
        | none => rfl
        | some place => exact machine_follow place shared
      dsimp only
      rw [kept]
      exact areaDirs_outcome stillLogs rfl area name

end

theorem ownerDirs_congr {left right : Machine} (agree : Settings.AgreeApart left right)
    (area : StorageArea) (name : Value) : ownerDirs left area name = ownerDirs right area name := by
  have variable_ (name : String) (other : name ∉ Settings.variableNames) :
      left.environment.lookup? name = right.environment.lookup? name := by
    rw [Environment.lookup?, Environment.lookup?, agree.others name other]
  have root (user : Nat) : DiscoveryStrategy.environmentRoot left user =
      DiscoveryStrategy.environmentRoot right user := by
    unfold DiscoveryStrategy.environmentRoot DiscoveryStrategy.rootAt Machine.absolute
    rw [agree.workingDirectory, variable_ DiscoveryStrategy.sharedVariable (by decide),
      variable_ DiscoveryStrategy.externalVariable (by decide)]
  unfold ownerDirs environmentDirs
  simp only [root, agree.userId, agree.workingDirectory]

theorem not_ownerDirs_of_lost {state : SharedState} {failure : Failure}
    (lost : state.lostSettings? = some failure) {machine : Machine} {area : StorageArea}
    {name : Value} : ownerDirs machine area name ≠ .error failure := by
  intro same
  have own : (∃ problem, failure = .handle problem) ∨ ∃ problem, failure = .path problem := by
    unfold ownerDirs at same
    split at same
    · exact .inl ⟨_, (Except.error.inj same).symm⟩
    · next user _ =>
      unfold environmentDirs at same
      split at same
      · cases same
      · cases extended : Pathname.extendAll machine.workingDirectory
            [DiscoveryStrategy.environmentRoot machine user] (area.segments name) with
        | ok paths =>
          rw [extended] at same
          cases same
        | error problem =>
          rw [extended] at same
          exact .inr ⟨problem, (Except.error.inj same).symm⟩
  unfold lostSettings? at lost
  split at lost
  · cases lost
  · have loss := Settings.lostFile?_spec lost
    rcases own with ⟨problem, rfl⟩ | ⟨problem, rfl⟩ <;> cases loss

/-- What a lookup gives that has to make the holder of the current user first, on two machines that
differ only in their settings: the same, exactly if on both machines the settings file can be looked
for, or on both it is lost in the same way. -/
theorem areaDirs_independent {state : SharedState} (nobody : state.users = none) {other : Machine}
    (agree : Settings.AgreeApart state.machine other) (context : LogContext)
    (area : StorageArea) (name : Value) :
    (state.areaDirs context area name).2.outcome =
        ({ state with machine := other }.areaDirs context area name).2.outcome ↔
      state.lostSettings? = { state with machine := other }.lostSettings? := by
  have elsewhere : { state with machine := other }.users = none := nobody
  rw [areaDirs_of_noUsers agree.logs.1 nobody, areaDirs_of_noUsers agree.logs.2 elsewhere]
  dsimp only
  rw [← ownerDirs_congr agree area name]
  cases left : state.lostSettings? with
  | some failure =>
    cases right : lostSettings? { state with machine := other } with
    | some problem => simp
    | none =>
      refine iff_of_false (fun same => ?_) (by simp)
      exact not_ownerDirs_of_lost left same.symm
  | none =>
    cases right : lostSettings? { state with machine := other } with
    | some problem =>
      refine iff_of_false (fun same => ?_) (by simp)
      exact not_ownerDirs_of_lost right same
    | none => simp

/-- A machine with a home directory and no settings. -/
def plainMachine : Machine where
  environment := [("HOME", "home")]
  workingDirectory := ⟨.root, []⟩
  userId := some 0
  files := .empty

/-- The same machine, with a variable that asks for settings in the home directory of a user whose
home cannot be told. -/
def strayingMachine : Machine :=
  { plainMachine with
    environment := (Settings.fileVariable, "~nouser/settings.json5") :: plainMachine.environment }

theorem lostFile?_straying : Settings.lostFile? strayingMachine = some .noHome := by
  have parsed : Pathname.parse (Settings.chooseFile strayingMachine.environment none).1 =
      ⟨.working, ["~nouser", "settings.json5"]⟩ := rfl
  have failed : Pathname.expandHome strayingMachine.homeOf
      ⟨.working, ["~nouser", "settings.json5"]⟩ = .error .noHome := rfl
  rw [Settings.lostFile?, parsed, failed]

def plainFile : Pathname := ⟨.working, ["home", ".droidenv", "droidenv.json5"]⟩

theorem expandHome_plain :
    (Pathname.parse Settings.standardFile).expandHome plainMachine.homeOf = .ok plainFile := rfl

theorem find_plain : plainMachine.files.find plainFile = .error .missing := rfl

theorem lostFile?_plain : Settings.lostFile? plainMachine = none := by
  have chosen : (Settings.chooseFile plainMachine.environment none).1 = Settings.standardFile := rfl
  rw [Settings.lostFile?, chosen, expandHome_plain]
  dsimp only
  rw [find_plain]

/-- A settings file that is asked for in a home directory that cannot be told makes a lookup fail
that has nothing to do with settings. -/
theorem areaDirs_depends_on_lostFile :
    ((start strayingMachine).areaDirs none .androidData .null).2.outcome ≠
      ({ start strayingMachine with machine := plainMachine }.areaDirs none .androidData
        .null).2.outcome := by
  have agree : Settings.AgreeApart strayingMachine plainMachine := by
    refine ⟨rfl, rfl, fun name other => ?_, fun _ => rfl, fun _ => rfl⟩
    have unlike : Settings.fileVariable ≠ name := by
      rintro rfl
      exact other List.mem_cons_self
    exact if_neg unlike
  have nobody : (start strayingMachine).users = none := rfl
  intro same
  have lost := (areaDirs_independent nobody agree none .androidData .null).mp same
  have left : (start strayingMachine).lostSettings? = some .noHome := lostFile?_straying
  have right : lostSettings? { start strayingMachine with machine := plainMachine } = none :=
    lostFile?_plain
  rw [left, right] at lost
  cases lost

end SharedState

end StorageLayout
