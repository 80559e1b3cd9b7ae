import StorageLayout.Proofs.Path.Segments
import StorageLayout.SharedState
import StorageLayout.Proofs.User.Roots

namespace StorageLayout

namespace StorageArea

open Pathname (IsSegment checkSegments)

/-- What an area adds to a root for a name: an area of all applications takes any name, every other
one takes a name that is one component. -/
inductive Adds : StorageArea → Value → List Codes → Prop where
  | publicFiles {kind : Codes} (one : IsSegment kind) : Adds publicFiles (.ofCodes kind) [kind]
  | androidData {name : Value} : Adds androidData name ["Android", "data"]
  | androidObb {name : Value} : Adds androidObb name ["Android", "obb"]
  | appData {package : Codes} (one : IsSegment package) :
      Adds appData (.ofCodes package) ["Android", "data", package]
  | appMedia {package : Codes} (one : IsSegment package) :
      Adds appMedia (.ofCodes package) ["Android", "media", package]
  | appObb {package : Codes} (one : IsSegment package) :
      Adds appObb (.ofCodes package) ["Android", "obb", package]
  | appFiles {package : Codes} (one : IsSegment package) :
      Adds appFiles (.ofCodes package) ["Android", "data", package, "files"]
  | appCache {package : Codes} (one : IsSegment package) :
      Adds appCache (.ofCodes package) ["Android", "data", package, "cache"]

variable {area : StorageArea} {name : Value} {components : List Codes}

theorem Adds.segments_eq (adds : area.Adds name components) :
    area.segments name = components.map Value.ofCodes := by
  cases adds <;> simp [segments]

theorem Adds.isSegment (adds : area.Adds name components) :
    ∀ component ∈ components, IsSegment component := by
  have fixed : IsSegment "Android" ∧ IsSegment "data" ∧ IsSegment "media" ∧ IsSegment "obb" ∧
      IsSegment "files" ∧ IsSegment "cache" := by decide
  cases adds with
  | androidData | androidObb => simp [fixed]
  | publicFiles one => simp [one]
  | appData one | appMedia one | appObb one | appFiles one | appCache one => simp [fixed, one]

theorem adds_of_segments (same : area.segments name = components.map Value.ofCodes)
    (whole : ∀ component ∈ components, IsSegment component) : area.Adds name components := by
  have read (shape : List Codes) (spelled : area.segments name = shape.map Value.ofCodes) :
      components = shape := by
    apply List.map_injective_iff.mpr fun _ _ => Value.ofCodes_injective
    exact same.symm.trans spelled
  have named (taken : name ∈ area.segments name) :
      ∃ codes, IsSegment codes ∧ Value.ofCodes codes = name := by
    rw [same] at taken
    obtain ⟨codes, member, rfl⟩ := List.mem_map.mp taken
    exact ⟨codes, whole codes member, rfl⟩
  cases area with
  | androidData =>
    obtain rfl := read ["Android", "data"] (by simp [segments])
    exact .androidData
  | androidObb =>
    obtain rfl := read ["Android", "obb"] (by simp [segments])
    exact .androidObb
  | publicFiles =>
    obtain ⟨kind, one, rfl⟩ := named (by simp [segments])
    obtain rfl := read [kind] (by simp [segments])
    exact .publicFiles one
  | appData =>
    obtain ⟨package, one, rfl⟩ := named (by simp [segments])
    obtain rfl := read ["Android", "data", package] (by simp [segments])
    exact .appData one
  | appMedia =>
    obtain ⟨package, one, rfl⟩ := named (by simp [segments])
    obtain rfl := read ["Android", "media", package] (by simp [segments])
    exact .appMedia one
  | appObb =>
    obtain ⟨package, one, rfl⟩ := named (by simp [segments])
    obtain rfl := read ["Android", "obb", package] (by simp [segments])
    exact .appObb one
  | appFiles =>
    obtain ⟨package, one, rfl⟩ := named (by simp [segments])
    obtain rfl := read ["Android", "data", package, "files"] (by simp [segments])
    exact .appFiles one
  | appCache =>
    obtain ⟨package, one, rfl⟩ := named (by simp [segments])
    obtain rfl := read ["Android", "data", package, "cache"] (by simp [segments])
    exact .appCache one

theorem checkSegments_segments :
    checkSegments (area.segments name) = .ok components ↔ area.Adds name components := by
  rw [Pathname.checkSegments_eq_ok_iff]
  constructor
  · rintro ⟨same, whole⟩
    exact adds_of_segments same whole
  · intro adds
    exact ⟨adds.segments_eq, adds.isSegment⟩

end StorageArea

namespace UserEnvironment

section

variable {machine : Machine} {context : LogContext} {user : UserEnvironment}
  {area : StorageArea} {name : Value} {roots : List Pathname}
  (found : (user.externalDirs machine context).2.outcome = .ok roots)

include found

/-- The directories of an area are the roots with what the area adds to each of them. -/
theorem areaDirs_of_adds (absolute : ∀ root ∈ roots, root.isAbsolute = true)
    {components : List Codes} (adds : area.Adds name components) :
    (user.areaDirs machine context area name).2.outcome =
      .ok (roots.map fun root => root.append components) := by
  have extended : Pathname.extendAll machine.workingDirectory roots (area.segments name) =
      .ok (roots.map fun root => root.append components) := by
    rw [Pathname.extendAll, StorageArea.checkSegments_segments.mpr adds]
    apply congrArg Except.ok
    apply List.map_congr_left
    intro root member
    rw [Pathname.absolute_of_isAbsolute (absolute root member)]
  simp [areaDirs, Scoped.andThen, found, extended, Traced.after]

end

end UserEnvironment

/-- What can be looked up for a user. -/
inductive Lookup where
  | roots
  | area (place : StorageArea) (name : Value)

namespace Lookup

def accessor : Lookup → String
  | roots => CurrentUser.rootsAccessor
  | area place _ => place.accessor

/-- What a lookup that does not name a user asks the current user for: public files of no kind are
the roots. -/
def ofCurrent : Lookup → Lookup
  | area .publicFiles .null => roots
  | lookup => lookup

/-- What a lookup adds to a root; one with a name that is refused adds nothing at all. -/
inductive Adds : Lookup → List Codes → Prop where
  | roots : Adds roots []
  | area {place : StorageArea} {name : Value} {components : List Codes}
      (adds : place.Adds name components) : Adds (area place name) components

/-- Whether a lookup has a name that is accepted, or needs none. -/
def IsValid (lookup : Lookup) : Prop := ∃ components, lookup.Adds components

end Lookup

def UserEnvironment.lookUp (machine : Machine) (context : LogContext) (user : UserEnvironment) :
    Lookup → Scoped (List Pathname)
  | .roots => user.externalDirs machine context
  | .area place name => user.areaDirs machine context place name

/-- Looks something up without naming a user. -/
def CurrentUser.lookUp (machine : Machine) (context : LogContext) (holder : CurrentUser) :
    Lookup → Scoped (List Pathname)
  | .roots => holder.externalDirs machine context
  | .area place name => holder.areaDirs machine context place name

theorem UserEnvironment.lookUp_fst (machine : Machine) (context : LogContext)
    (user : UserEnvironment) (lookup : Lookup) :
    (user.lookUp machine context lookup).1 = context := by
  cases lookup with
  | roots => rfl
  | area place name =>
    rw [lookUp, areaDirs, Scoped.andThen]
    split
    · dsimp only
      split <;> rfl
    · rfl

/-- A lookup sends out what finding the roots sends out: what is put below them changes nothing. -/
theorem UserEnvironment.trail_lookUp (machine : Machine) (context : LogContext)
    (user : UserEnvironment) (lookup : Lookup) :
    (user.lookUp machine context lookup).2.trail =
      (user.findRoots machine (context.extend user.marks)).trail := by
  cases lookup with
  | roots => rfl
  | area place name =>
    rw [lookUp, areaDirs, Scoped.andThen]
    split
    · dsimp only
      split
      · exact List.append_nil _
      · exact List.append_nil _
    · rfl

namespace CurrentUser

theorem complain_fst (machine : Machine) (context : LogContext) (holder : CurrentUser)
    (accessor : String) : (holder.complain machine context accessor).1 = context := by
  unfold complain
  split <;> rfl

/-- The complaint of strict mode about a lookup. -/
def complaint (context : LogContext) (holder : CurrentUser) (accessor : String) : LogRecord :=
  unnamedUser (context.extend [("userHandle", .int holder.current.handle)]) accessor
    holder.current.handle

/-- What a lookup fails with before it begins: in strict mode, that of a complaint that cannot be
logged. -/
def barrier (machine : Machine) (context : LogContext) (holder : CurrentUser)
    (accessor : String) : Option Failure :=
  if holder.strict then machine.refusal (holder.complaint context accessor) else none

/-- In strict mode a complaint is logged. -/
theorem complain_snd (machine : Machine) (context : LogContext) (holder : CurrentUser)
    (accessor : String) :
    (holder.complain machine context accessor).2 =
      if holder.strict then machine.log (holder.complaint context accessor) else .done () := by
  unfold complain
  split <;> rfl

theorem strict_of_barrier {machine : Machine} {context : LogContext} {holder : CurrentUser}
    {accessor : String} {failure : Failure}
    (barred : holder.barrier machine context accessor = some failure) : holder.strict = true := by
  by_contra relaxed
  simp [barrier, relaxed] at barred

variable (machine : Machine) (context : LogContext) (holder : CurrentUser) (lookup : Lookup)

/-- A lookup that does not name a user is answered by the current user, after what strict mode
does. -/
theorem lookUp_eq :
    holder.lookUp machine context lookup =
      (context, (holder.complain machine context lookup.accessor).2.andThen fun _ =>
        (holder.current.lookUp machine context lookup.ofCurrent).2) := by
  have asked : holder.lookUp machine context lookup =
      holder.answer machine context lookup.accessor fun context =>
        holder.current.lookUp machine context lookup.ofCurrent := by
    cases lookup with
    | roots => rfl
    | area place name => cases place <;> cases name <;> rfl
  rw [asked, answer]
  apply Scoped.andThen_eq (complain_fst machine context holder lookup.accessor)
  intro value
  exact UserEnvironment.lookUp_fst machine context holder.current lookup.ofCurrent

theorem lookUp_fst : (holder.lookUp machine context lookup).1 = context := by
  rw [lookUp_eq]

/-- What strict mode sends out before a lookup. -/
def complaints : List Emission :=
  if holder.strict then [.record (holder.complaint context lookup.accessor)] else []

variable {machine context holder lookup}

/-- Strict mode or not, a lookup that does not name a user ends as the current user answers it if a
complaint about it can be logged. -/
theorem lookUp_of_no_barrier (free : holder.barrier machine context lookup.accessor = none) :
    (holder.lookUp machine context lookup).2 =
      Traced.after (holder.complaints context lookup)
        (holder.current.lookUp machine context lookup.ofCurrent).2 := by
  rw [lookUp_eq, complain_snd, complaints]
  cases strict : holder.strict with
  | false => rfl
  | true =>
    have logged : machine.refusal (holder.complaint context lookup.accessor) = none := by
      simpa [barrier, strict] using free
    rw [if_pos rfl, if_pos rfl, Machine.log_of_none logged]
    rfl

/-- One about which strict mode cannot complain fails without having begun. -/
theorem lookUp_of_barrier {failure : Failure}
    (barred : holder.barrier machine context lookup.accessor = some failure) :
    (holder.lookUp machine context lookup).2 =
      ⟨.error failure, [.record (holder.complaint context lookup.accessor)]⟩ := by
  rw [lookUp_eq, complain_snd]
  cases strict : holder.strict with
  | false => simp [barrier, strict] at barred
  | true =>
    have refused : machine.refusal (holder.complaint context lookup.accessor) = some failure := by
      simpa [barrier, strict] using barred
    rw [if_pos rfl, Machine.log_of_some refused]
    rfl

end CurrentUser

/-- Where the roots are found, an accepted lookup gives each of them with what it adds. -/
theorem UserEnvironment.lookUp_of_adds {machine : Machine} {context : LogContext}
    {user : UserEnvironment} {roots : List Pathname}
    (found : (user.externalDirs machine context).2.outcome = .ok roots)
    (absolute : ∀ root ∈ roots, root.isAbsolute = true) {lookup : Lookup}
    {components : List Codes} (adds : lookup.Adds components) :
    (user.lookUp machine context lookup).2.outcome =
      .ok (roots.map fun root => root.append components) := by
  cases adds with
  | roots => simpa [lookUp, Pathname.append] using found
  | area adds => exact areaDirs_of_adds found absolute adds

end StorageLayout
