import Mathlib.Data.List.ReduceOption
import StorageLayout.Storage.Discovery

namespace StorageLayout

namespace Volume

/-- What a volume says about its path: a name, or that it has none. An empty name is none. -/
inductive Tells (volume : Volume) : Option Codes → Prop where
  | unmounted (said : volume.pathFile = .ok .null) : Tells volume none
  | empty {value : Value} (said : volume.pathFile = .ok value)
      (named : value.fileName? = some []) : Tells volume none
  | named {value : Value} {name : Codes} (said : volume.pathFile = .ok value)
      (named : value.fileName? = some name) (nonempty : name ≠ []) : Tells volume (some name)

/-- Why nothing can be learned of a volume: it fails to answer, or it answers with raw data or with
something that names nothing. -/
inductive Fails (volume : Volume) : Failure → Prop where
  | asked {failure : Failure} (said : volume.pathFile = .error failure) : Fails volume failure
  | raw {data : List UInt8} (said : volume.pathFile = .ok (.bytes data)) : Fails volume .rawPath
  | unusable {value : Value} (said : volume.pathFile = .ok value) (present : value.isNull = false)
      (notRaw : ∀ data, value ≠ .bytes data) (nameless : value.fileName? = none) :
      Fails volume (.notPath value.typeName)

end Volume

namespace DiscoveryStrategy

section

variable {machine : Machine} {volume : Volume} {list : List Volume} {failure : Failure}

variable (machine) in
theorem volumePath_of_name {value : Value} {name : Codes} (said : volume.pathFile = .ok value)
    (named : value.fileName? = some name) :
    volumePath machine volume = .ok (if name = [] then none else some (rootAt machine name)) := by
  unfold volumePath
  split
  · next failed => cases failed.symm.trans said
  · next null =>
    obtain rfl := Except.ok.inj (null.symm.trans said)
    cases named
  · next raw =>
    obtain rfl := Except.ok.inj (raw.symm.trans said)
    cases named
  · next other =>
    obtain rfl := Except.ok.inj (other.symm.trans said)
    rw [named]

variable (machine) in
theorem volumePath_of_tells {name : Option Codes} (told : volume.Tells name) :
    volumePath machine volume = .ok (name.map (rootAt machine)) := by
  cases told with
  | unmounted said =>
    unfold volumePath
    rw [said]
    rfl
  | empty said named => rw [volumePath_of_name machine said named, if_pos rfl, Option.map_none]
  | named said named nonempty =>
    rw [volumePath_of_name machine said named, if_neg nonempty, Option.map_some]

theorem tells_or_fails (volume : Volume) :
    (∃ name, volume.Tells name) ∨ ∃ failure, volume.Fails failure := by
  cases said : volume.pathFile with
  | error failure => exact .inr ⟨failure, .asked said⟩
  | ok value =>
    cases named : value.fileName? with
    | some name =>
      by_cases empty : name = []
      · exact .inl ⟨none, .empty said (empty ▸ named)⟩
      · exact .inl ⟨some name, .named said named empty⟩
    | none =>
      cases value with
      | null => exact .inl ⟨none, .unmounted said⟩
      | bytes data => exact .inr ⟨.rawPath, .raw said⟩
      | _ => exact .inr ⟨_, .unusable said rfl (by simp) named⟩

variable (machine) in
theorem volumePath_of_fails (fails : volume.Fails failure) :
    volumePath machine volume = .error failure := by
  unfold volumePath
  cases fails with
  | asked said => rw [said]
  | raw said => rw [said]
  | unusable said present notRaw nameless =>
    rw [said]
    split
    · next failed => cases failed
    · next null =>
      obtain rfl := Except.ok.inj null
      cases present
    · next data raw => exact absurd (Except.ok.inj raw) (notRaw data)
    · next other =>
      obtain rfl := Except.ok.inj other
      rw [nameless]

theorem volumePath_eq_ok_iff {path : Option Pathname} :
    volumePath machine volume = .ok path ↔
      ∃ name, volume.Tells name ∧ path = name.map (rootAt machine) := by
  constructor
  · intro answered
    rcases tells_or_fails volume with ⟨name, told⟩ | ⟨failure, fails⟩
    · rw [volumePath_of_tells machine told] at answered
      exact ⟨name, told, (Except.ok.inj answered).symm⟩
    · rw [volumePath_of_fails machine fails] at answered
      cases answered
  · rintro ⟨name, told, rfl⟩
    exact volumePath_of_tells machine told

theorem volumePath_eq_error_iff :
    volumePath machine volume = .error failure ↔ volume.Fails failure := by
  constructor
  · intro refused
    rcases tells_or_fails volume with ⟨name, told⟩ | ⟨other, fails⟩
    · rw [volumePath_of_tells machine told] at refused
      cases refused
    · rw [volumePath_of_fails machine fails] at refused
      exact Except.error.inj refused ▸ fails
  · exact volumePath_of_fails machine

/-- Reading a list of volumes succeeds exactly if every volume answers; the paths keep the order of
the volumes, and those without one are left out. -/
theorem volumePaths_eq_ok_iff {paths : List Pathname} :
    volumePaths machine list = .ok paths ↔
      ∃ names, List.Forall₂ Volume.Tells list names ∧
        paths = names.reduceOption.map (rootAt machine) := by
  induction list generalizing paths with
  | nil =>
    constructor
    · intro answered
      obtain rfl := Except.ok.inj answered
      exact ⟨[], .nil, rfl⟩
    · rintro ⟨names, told, rfl⟩
      cases told
      rfl
  | cons volume rest ih =>
    rw [volumePaths]
    constructor
    · intro answered
      cases first : volumePath machine volume with
      | error failure => simp [first] at answered
      | ok path =>
        obtain ⟨name, told, rfl⟩ := volumePath_eq_ok_iff.mp first
        cases later : volumePaths machine rest with
        | error failure => simp [first, later, Except.map] at answered
        | ok others =>
          obtain ⟨names, toldRest, rfl⟩ := ih.mp later
          refine ⟨name :: names, .cons told toldRest, ?_⟩
          simp only [first, later, Except.map] at answered
          rw [← Except.ok.inj answered]
          cases name <;> simp [List.reduceOption_cons_of_some, List.reduceOption_cons_of_none]
    · rintro ⟨_, told, rfl⟩
      cases told with
      | @cons _ name _ names here toldRest =>
        have first := volumePath_of_tells machine here
        have later := ih.mpr ⟨names, toldRest, rfl⟩
        simp only [first, later, Except.map]
        cases name <;> simp [List.reduceOption_cons_of_some, List.reduceOption_cons_of_none]

/-- Reading a list of volumes fails exactly at the first volume that fails. -/
theorem volumePaths_eq_error_iff :
    volumePaths machine list = .error failure ↔
      ∃ before volume after, list = before ++ volume :: after ∧
        (∀ earlier ∈ before, ∃ name, earlier.Tells name) ∧ volume.Fails failure := by
  induction list with
  | nil => simp [volumePaths]
  | cons volume rest ih =>
    rw [volumePaths]
    constructor
    · intro refused
      cases first : volumePath machine volume with
      | error cause =>
        simp only [first] at refused
        obtain rfl := Except.error.inj refused
        exact ⟨[], volume, rest, rfl, by simp, volumePath_eq_error_iff.mp first⟩
      | ok path =>
        obtain ⟨name, told, -⟩ := volumePath_eq_ok_iff.mp first
        cases later : volumePaths machine rest with
        | ok paths => simp [first, later, Except.map] at refused
        | error cause =>
          simp only [first, later, Except.map] at refused
          obtain rfl := Except.error.inj refused
          obtain ⟨before, failing, after, rfl, answered, fails⟩ := ih.mp later
          refine ⟨volume :: before, failing, after, rfl, ?_, fails⟩
          intro earlier member
          rcases List.mem_cons.mp member with rfl | inside
          · exact ⟨name, told⟩
          · exact answered earlier inside
    · rintro ⟨before, failing, after, same, answered, fails⟩
      cases before with
      | nil =>
        obtain ⟨rfl, rfl⟩ := List.cons.inj same
        simp [volumePath_eq_error_iff.mpr fails]
      | cons head others =>
        rw [List.cons_append] at same
        obtain ⟨rfl, rfl⟩ := List.cons.inj same
        obtain ⟨name, told⟩ := answered volume (by simp)
        have first := volumePath_of_tells machine told
        have later := ih.mpr ⟨others, failing, after, rfl,
          fun earlier member => answered earlier (by simp [member]), fails⟩
        simp [first, later, Except.map]

end

end DiscoveryStrategy

namespace VolumeReport

/-- A report lists names if it consists of volumes which all answer; those without a path are left
out. -/
def Lists (report : VolumeReport) (names : List Codes) : Prop :=
  ∃ list answers, report.toVolumes = .ok list ∧ List.Forall₂ Volume.Tells list answers ∧
    names = answers.reduceOption

def nothingReported : Failure := .unavailable .invocationFailed "getVolumeList() returned None"

def IsGiven (report : VolumeReport) : Prop :=
  (∀ failure, report ≠ .failed failure) ∧ report ≠ .value .null

/-- The first thing that fails in a report: the query itself, the lack of an answer, the record of
the answer, an answer that cannot be walked through, or a volume after others that answer.
`unlogged` says what comes of the record if it is refused. -/
inductive StopsAt (unlogged : Option Failure) : VolumeReport → Failure → Prop where
  | query (failure : Failure) : StopsAt unlogged (.failed failure) failure
  | nothing : StopsAt unlogged (.value .null) nothingReported
  | record {report : VolumeReport} {failure : Failure} (given : report.IsGiven)
      (refused : unlogged = some failure) : StopsAt unlogged report failure
  | answer {value : Value} (logged : unlogged = none) (present : value.isNull = false)
      (unwalkable : value.elements? = none) :
      StopsAt unlogged (.value value) (.notWalkable value.typeName)
  | volume {report : VolumeReport} {before after : List Volume} {volume : Volume}
      {failure : Failure} (logged : unlogged = none)
      (listed : report.toVolumes = .ok (before ++ volume :: after))
      (answered : ∀ earlier ∈ before, ∃ name, earlier.Tells name) (fails : volume.Fails failure) :
      StopsAt unlogged report failure

/-- The roots that a report gives, or the failure that it stops at. -/
def roots (machine : Machine) (unlogged : Option Failure) (report : VolumeReport) :
    Except Failure (List Pathname) :=
  match report, unlogged with
  | .failed failure, _ => .error failure
  | .value .null, _ => .error nothingReported
  | _, some failure => .error failure
  | report, none => report.toVolumes.bind (DiscoveryStrategy.volumePaths machine)

theorem roots_of_refused (machine : Machine) {report : VolumeReport} (given : report.IsGiven)
    (failure : Failure) : report.roots machine (some failure) = .error failure := by
  unfold roots
  split
  · exact absurd rfl (given.1 _)
  · exact absurd rfl given.2
  · next same => rw [Option.some.inj same]
  · next impossible => cases impossible

theorem roots_of_logged (machine : Machine) {report : VolumeReport} (given : report.IsGiven) :
    report.roots machine none =
      report.toVolumes.bind (DiscoveryStrategy.volumePaths machine) := by
  unfold roots
  split
  · exact absurd rfl (given.1 _)
  · exact absurd rfl given.2
  · next impossible => cases impossible
  · rfl

theorem isGiven_or (report : VolumeReport) :
    report.IsGiven ∨ (∃ failure, report = .failed failure) ∨ report = .value .null := by
  by_cases nothing : report = .value .null
  · exact .inr (.inr nothing)
  · cases report with
    | failed failure => exact .inr (.inl ⟨failure, rfl⟩)
    | volumes list => exact .inl ⟨by simp, nothing⟩
    | value value => exact .inl ⟨by simp, nothing⟩

theorem toVolumes_null : (VolumeReport.value .null).toVolumes = .error (.notWalkable "NoneType") :=
  rfl

theorem isGiven_of_toVolumes {report : VolumeReport} {list : List Volume}
    (listed : report.toVolumes = .ok list) : report.IsGiven := by
  constructor
  · rintro failure rfl
    cases listed
  · rintro rfl
    rw [toVolumes_null] at listed
    cases listed

/-- A report gives roots exactly if it is logged and lists names, and these are the absolute
forms. -/
theorem roots_eq_ok_iff (machine : Machine) {unlogged : Option Failure} {report : VolumeReport}
    {paths : List Pathname} :
    report.roots machine unlogged = .ok paths ↔
      unlogged = none ∧
        ∃ names, report.Lists names ∧ paths = names.map (DiscoveryStrategy.rootAt machine) := by
  constructor
  · intro found
    obtain given | ⟨failure, rfl⟩ | rfl := report.isGiven_or
    · cases unlogged with
      | some failure =>
        rw [roots_of_refused machine given] at found
        cases found
      | none =>
        rw [roots_of_logged machine given] at found
        cases listed : report.toVolumes with
        | error failure => simp [listed, Except.bind] at found
        | ok list =>
          rw [listed] at found
          obtain ⟨answers, told, rfl⟩ := DiscoveryStrategy.volumePaths_eq_ok_iff.mp found
          exact ⟨rfl, _, ⟨list, answers, listed, told, rfl⟩, rfl⟩
    · cases found
    · cases found
  · rintro ⟨rfl, _, ⟨list, answers, listed, told, rfl⟩, rfl⟩
    rw [roots_of_logged machine (isGiven_of_toVolumes listed), listed]
    exact DiscoveryStrategy.volumePaths_eq_ok_iff.mpr ⟨answers, told, rfl⟩

/-- A report that is logged stops where reading its volumes fails. -/
theorem stopsAt_of_logged (machine : Machine) {report : VolumeReport} {failure : Failure}
    (given : report.IsGiven)
    (refused : report.toVolumes.bind (DiscoveryStrategy.volumePaths machine) = .error failure) :
    report.StopsAt none failure := by
  cases listed : report.toVolumes with
  | ok list =>
    rw [listed] at refused
    obtain ⟨before, volume, after, rfl, answered, fails⟩ :=
      DiscoveryStrategy.volumePaths_eq_error_iff.mp refused
    exact .volume rfl listed answered fails
  | error cause =>
    rw [listed] at refused
    obtain rfl := Except.error.inj refused
    cases report with
    | volumes list => cases listed
    | failed other => exact absurd rfl (given.1 other)
    | value answer =>
      unfold toVolumes at listed
      cases walked : answer.elements? with
      | some elements => simp [walked] at listed
      | none =>
        simp only [walked] at listed
        obtain rfl := Except.error.inj listed
        refine .answer rfl ?_ walked
        cases present : answer.isNull with
        | false => rfl
        | true => exact absurd (congrArg _ (Value.eq_null_of_isNull present)) given.2

theorem roots_eq_error_iff (machine : Machine) {unlogged : Option Failure}
    {report : VolumeReport} {failure : Failure} :
    report.roots machine unlogged = .error failure ↔ report.StopsAt unlogged failure := by
  constructor
  · intro refused
    obtain given | ⟨other, rfl⟩ | rfl := report.isGiven_or
    · cases unlogged with
      | some other =>
        rw [roots_of_refused machine given] at refused
        exact .record given (congrArg some (Except.error.inj refused))
      | none =>
        rw [roots_of_logged machine given] at refused
        exact stopsAt_of_logged machine given refused
    · obtain rfl := Except.error.inj refused
      exact .query other
    · obtain rfl := Except.error.inj refused
      exact .nothing
  · intro stops
    cases stops with
    | query => rfl
    | nothing => rfl
    | record given unlogged =>
      rw [unlogged]
      exact roots_of_refused machine given failure
    | @answer value logged notNull unwalkable =>
      have given : (VolumeReport.value value).IsGiven := by
        refine ⟨by simp, fun same => ?_⟩
        rw [VolumeReport.value.inj same] at notNull
        cases notNull
      rw [logged, roots_of_logged machine given, toVolumes, unwalkable]
      rfl
    | volume logged listed answered fails =>
      rw [logged, roots_of_logged machine (isGiven_of_toVolumes listed), listed]
      exact DiscoveryStrategy.volumePaths_eq_error_iff.mpr ⟨_, _, _, rfl, answered, fails⟩

/-- A machine with nothing on it. What a report says does not depend on the machine. -/
def bareMachine : Machine where
  environment := []
  workingDirectory := ⟨.root, []⟩
  userId := none
  files := .empty

section

variable {report : VolumeReport} {unlogged : Option Failure} {names : List Codes}
  {failure other : Failure}

theorem Lists.not_stopsAt (listed : report.Lists names) : ¬ report.StopsAt none failure := by
  intro stops
  have failed := (roots_eq_error_iff bareMachine).mpr stops
  have found := (roots_eq_ok_iff bareMachine).mpr ⟨rfl, names, listed, rfl⟩
  rw [failed] at found
  cases found

theorem StopsAt.unique (stops : report.StopsAt unlogged failure)
    (stopsOther : report.StopsAt unlogged other) : failure = other := by
  have failed := (roots_eq_error_iff bareMachine).mpr stops
  have failedOther := (roots_eq_error_iff bareMachine).mpr stopsOther
  rw [failed] at failedOther
  exact Except.error.inj failedOther

theorem Lists.eq_nil (nothing : report.Lists []) (listed : report.Lists names) : names = [] := by
  have empty := (roots_eq_ok_iff bareMachine).mpr ⟨rfl, [], nothing, rfl⟩
  have found := (roots_eq_ok_iff bareMachine).mpr ⟨rfl, names, listed, rfl⟩
  rw [empty] at found
  exact List.map_eq_nil_iff.mp (Except.ok.inj found).symm

end

end VolumeReport

end StorageLayout
