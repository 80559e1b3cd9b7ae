import StorageLayout.Config.Value
import StorageLayout.Path.Pathname

/-! Building paths below a base. A segment names exactly one component, so a path can neither leave
its base nor gain components that the caller did not ask for. -/

namespace StorageLayout

/-- Why a base or a segment cannot be used. -/
inductive PathProblem where
  | noSegment
  | segmentNotText (typeName : String)
  | emptySegment
  | reservedSegment (segment : Codes)
  | compoundSegment (segment : Codes)
  | noBase
  | baseNotPath (typeName : String)
  | emptyBase
  deriving DecidableEq, Repr

/-- What a problem with a path is, as far as its segment can be shown. -/
def PathProblem.message : PathProblem → String
  | noSegment => "Path segment must not be None"
  | segmentNotText typeName => "Path segment must be a string, not '" ++ typeName ++ "'"
  | emptySegment => "Path segment must not be empty"
  | reservedSegment segment => "Path segment '" ++ Text.shown segment ++ "' is not allowed"
  | compoundSegment segment =>
    "Path segment '" ++ Text.shown segment ++ "' must be a single path component"
  | noBase => "Base path must not be None"
  | baseNotPath typeName => "Base path must be str or PathLike, not '" ++ typeName ++ "'"
  | emptyBase => "Base path must not be empty"

namespace Pathname

def nul : Code := .char '\x00'

def splitsComponent (code : Code) : Bool := code = slash || code = nul

/-- Accepts a text that names exactly one component. -/
def checkSegmentText (segment : Codes) : Except PathProblem Codes :=
  if segment = [] then .error .emptySegment
  else if segment = dot || segment = dots then .error (.reservedSegment segment)
  else if segment.any splitsComponent then .error (.compoundSegment segment)
  else .ok segment

/-- Accepts a value that names exactly one component. -/
def checkSegment (segment : Value) : Except PathProblem Codes :=
  if segment.isNull then .error .noSegment
  else
    match segment.codes? with
    | some codes => checkSegmentText codes
    | none => .error (.segmentNotText segment.typeName)

/-- The pathname that a base stands for. Only a text can be refused for being empty. -/
def ofBase (base : Value) : Except PathProblem Pathname :=
  match base with
  | .null => .error .noBase
  | .path path => .ok path
  | .pathLike name => .ok (parse name)
  | base =>
    match base.codes? with
    | some name => if name = [] then .error .emptyBase else .ok (parse name)
    | none => .error (.baseNotPath base.typeName)

/-- Checks segments and adds them one by one. -/
def joinAll (path : Pathname) : List Value → Except PathProblem Pathname
  | [] => .ok path
  | segment :: segments =>
    match checkSegment segment with
    | .ok component => joinAll (path.join component) segments
    | .error problem => .error problem

/-- The absolute form of a base with segments added in order. -/
def build (working : Pathname) (base : Value) (segments : List Value) :
    Except PathProblem Pathname :=
  match ofBase base with
  | .ok path => joinAll (absolute working path) segments
  | .error problem => .error problem

/-- Checks segments without using them. -/
def checkSegments : List Value → Except PathProblem (List Codes)
  | [] => .ok []
  | segment :: segments =>
    match checkSegment segment with
    | .ok component => (checkSegments segments).map (component :: ·)
    | .error problem => .error problem

/-- Adds components that are known to be usable. -/
def append (path : Pathname) (components : List Codes) : Pathname :=
  { path with components := path.components ++ components }

/-- Adds segments to the absolute form of every path. -/
def extendAll (working : Pathname) (paths : List Pathname) (segments : List Value) :
    Except PathProblem (List Pathname) :=
  (checkSegments segments).map fun components =>
    paths.map fun path => (absolute working path).append components

/-- Builds a path below every base. -/
def buildEach (working : Pathname) (segments : List Value) :
    List Value → Except PathProblem (List Pathname)
  | [] => .ok []
  | base :: bases =>
    match build working base segments with
    | .ok path => (buildEach working segments bases).map (path :: ·)
    | .error problem => .error problem

/-- Builds a path below every base; the segments are checked even if there is no base. -/
def buildAll (working : Pathname) (bases segments : List Value) :
    Except PathProblem (List Pathname) :=
  match checkSegments segments with
  | .ok _ => buildEach working segments bases
  | .error problem => .error problem

theorem checkSegmentText_eq_ok_iff {segment component : Codes} :
    checkSegmentText segment = .ok component ↔
      component = segment ∧ segment ≠ [] ∧ segment ≠ dot ∧ segment ≠ dots ∧
        segment.any splitsComponent = false := by
  unfold checkSegmentText
  split
  · simp_all
  · split
    · rename_i reserved
      simp only [Bool.or_eq_true, decide_eq_true_eq] at reserved
      rcases reserved with dot | dots <;> simp [*]
    · split
      · simp_all
      · rename_i notEmpty notReserved notCompound
        simp only [Bool.or_eq_true, decide_eq_true_eq, not_or] at notReserved
        simp only [Bool.not_eq_true] at notCompound
        constructor
        · intro same
          exact ⟨(Except.ok.inj same).symm, notEmpty, notReserved.1, notReserved.2, notCompound⟩
        · rintro ⟨rfl, _⟩
          rfl

theorem joinAll_eq (path : Pathname) (segments : List Value) :
    joinAll path segments = (checkSegments segments).map path.append := by
  induction segments generalizing path with
  | nil => simp [joinAll, checkSegments, Except.map, append]
  | cons segment segments ih =>
    unfold joinAll checkSegments
    cases checkSegment segment with
    | error problem => rfl
    | ok component =>
      simp only [ih]
      cases checkSegments segments with
      | error problem => rfl
      | ok components => simp [Except.map, join, append]

end Pathname

end StorageLayout
