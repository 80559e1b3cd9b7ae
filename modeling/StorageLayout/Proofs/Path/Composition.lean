import StorageLayout.Machine
import StorageLayout.Proofs.Path.Texts

/-! Paths below a base. A path is the absolute form of its base with just the given segments behind
it, so a path can be built in one go or in steps, and from the text of what was built before. -/

namespace StorageLayout

namespace Pathname

theorem IsSegment.isWhole {segment : Codes} (one : IsSegment segment) : IsWhole segment :=
  ⟨by simp [isComponent, one.notEmpty, one.notSelf], one.noSlash⟩

theorem checkSegments_eq_error_iff {segments : List Value} :
    (∃ problem, checkSegments segments = .error problem) ↔
      ∃ segment ∈ segments, ∃ problem, checkSegment segment = .error problem := by
  induction segments with
  | nil => simp [checkSegments]
  | cons segment segments ih =>
    rw [checkSegments]
    cases first : checkSegment segment with
    | error problem => simp [first]
    | ok component =>
      simp only [List.mem_cons, exists_eq_or_imp, first, reduceCtorEq, exists_false, false_or, ← ih]
      cases checkSegments segments <;> simp [Except.map]

theorem checkSegments_append (segments more : List Value) :
    checkSegments (segments ++ more) =
      (checkSegments segments).bind fun components =>
        (checkSegments more).map (components ++ ·) := by
  induction segments with
  | nil =>
    rw [List.nil_append, checkSegments]
    cases checkSegments more <;> rfl
  | cons segment segments ih =>
    rw [List.cons_append, checkSegments, checkSegments, ih]
    cases checkSegment segment with
    | error problem => rfl
    | ok component =>
      cases checkSegments segments with
      | error problem => rfl
      | ok components => cases checkSegments more <;> rfl

theorem isWhole_of_checkSegments {segments : List Value} {components : List Codes}
    (accepted : checkSegments segments = .ok components) :
    ∀ component ∈ components, IsWhole component := fun component member =>
  ((checkSegments_eq_ok_iff.mp accepted).2 component member).isWhole

theorem append_append (path : Pathname) (components more : List Codes) :
    (path.append components).append more = path.append (components ++ more) := by
  simp [append]

/-- Whether a value gives the name of a base: as a text, or as a path of either form. -/
def IsBase (base : Value) (name : Codes) : Prop :=
  base = .ofCodes name ∨ base = .path (parse name) ∨ base = .pathLike name

theorem ofBase_ofCodes (name : Codes) :
    ofBase (.ofCodes name) = if name = [] then .error .emptyBase else .ok (parse name) := by
  have spelled : (Value.ofCodes name).codes? = some name := Value.codes?_ofCodes name
  unfold ofBase
  split
  · next null => cases null ▸ spelled
  · next path => cases path ▸ spelled
  · next path => cases path ▸ spelled
  · rw [spelled]

theorem ofCodes_nil : Value.ofCodes [] = .text "" := Value.ofCodes_codes ""

section

variable {base : Value} {name : Codes} (named : IsBase base name) (given : base ≠ .text "")

include named given

theorem ofBase_eq : ofBase base = .ok (parse name) := by
  rcases named with rfl | rfl | rfl
  · rw [ofBase_ofCodes, if_neg]
    rintro rfl
    exact given ofCodes_nil
  · rfl
  · rfl

theorem build_eq (working : Pathname) (segments : List Value) :
    build working base segments =
      (checkSegments segments).map (absolute working (parse name)).append := by
  rw [build, ofBase_eq named given]
  exact joinAll_eq _ segments

end

theorem build_text {path : Pathname} (normal : path.IsNormal) (rooted : path.isAbsolute = true)
    {base : Value} (named : IsBase base path.text) (working : Pathname) (segments : List Value) :
    build working base segments = (checkSegments segments).map path.append := by
  have given : base ≠ .text "" := by
    rintro rfl
    rcases named with same | same | same
    · exact text_ne_empty normal rooted (Value.ofCodes_injective (ofCodes_nil.trans same)).symm
    · cases same
    · cases same
  rw [build_eq named given, parse_text normal, absolute_of_isAbsolute rooted]

end Pathname

namespace Machine

open Pathname

section

variable {machine : Machine} {base : Value} {name : Codes}

theorem build_eq (named : IsBase base name) (given : base ≠ .text "") (segments : List Value) :
    machine.build base segments =
      ((checkSegments segments).map (machine.absolute (parse name)).append).mapError .path := by
  rw [build, Pathname.build_eq named given]
  rfl

end

/-- Whether a base or one of the segments behind it is refused. -/
def IsRefused (base : Value) (segments : List Value) : Prop :=
  base = .text "" ∨ ∃ segment ∈ segments, ∃ problem, checkSegment segment = .error problem

section

variable (machine : Machine) {base : Value} {name : Codes} (named : IsBase base name)

include named

theorem build_of_isRefused {segments : List Value} (refused : IsRefused base segments) :
    ∃ problem, machine.build base segments = .error (.path problem) := by
  by_cases given : base = .text ""
  · subst given
    exact ⟨.emptyBase, rfl⟩
  · obtain ⟨problem, stuck⟩ := checkSegments_eq_error_iff.mpr (refused.resolve_left given)
    exact ⟨problem, by rw [build_eq named given, stuck]; rfl⟩

theorem build_of_not_isRefused {segments : List Value} (accepted : ¬ IsRefused base segments) :
    ∃ components, checkSegments segments = .ok components ∧
      machine.build base segments = .ok ((machine.absolute (parse name)).append components) := by
  obtain ⟨given, fine⟩ := not_or.mp accepted
  cases checked : checkSegments segments with
  | error problem => exact absurd (checkSegments_eq_error_iff.mp ⟨problem, checked⟩) fine
  | ok components => exact ⟨components, rfl, by rw [build_eq named given, checked]; rfl⟩

variable {machine}

/-- A path that was built is the absolute form of the base with the segments behind it. -/
theorem of_build_eq_ok {segments : List Value} {path : Pathname}
    (built : machine.build base segments = .ok path) :
    ∃ components, checkSegments segments = .ok components ∧
      path = (machine.absolute (parse name)).append components := by
  by_cases refused : IsRefused base segments
  · obtain ⟨problem, failed⟩ := build_of_isRefused machine named refused
    cases built.symm.trans failed
  · obtain ⟨components, checked, same⟩ := build_of_not_isRefused machine named refused
    exact ⟨components, checked, Except.ok.inj (built.symm.trans same)⟩

section

variable (rooted : machine.workingDirectory.isAbsolute = true)
  (normal : machine.workingDirectory.IsNormal)

include normal

theorem isNormal_of_build {segments : List Value} {path : Pathname}
    (built : machine.build base segments = .ok path) : path.IsNormal := by
  obtain ⟨components, checked, rfl⟩ := of_build_eq_ok named built
  exact (normal.absolute (isNormal_parse name)).append (isWhole_of_checkSegments checked)

theorem segments_eq_of_text_eq {segments others : List Value} {path other : Pathname}
    (built : machine.build base segments = .ok path)
    (builtOther : machine.build base others = .ok other) (same : path.text = other.text) :
    segments = others := by
  have samePath : path = other :=
    text_injective (isNormal_of_build named normal built)
      (isNormal_of_build named normal builtOther) same
  obtain ⟨components, checked, rfl⟩ := of_build_eq_ok named built
  obtain ⟨rest, checkedOther, rfl⟩ := of_build_eq_ok named builtOther
  have cancelled : components = rest :=
    List.append_cancel_left (congrArg Pathname.components samePath)
  rw [(checkSegments_eq_ok_iff.mp checked).1, (checkSegments_eq_ok_iff.mp checkedOther).1,
    cancelled]

include rooted

/-- What is built from the text of a path that was built is what is built in one go. -/
theorem build_build (later : Machine) (again : Pathname → Value)
    (renamed : ∀ path, path.IsNormal → IsBase (again path) path.text) (segments more : List Value) :
    ((machine.build base segments).bind fun path => later.build (again path) more) =
      machine.build base (segments ++ more) := by
  by_cases given : base = .text ""
  · subst given
    rfl
  · rw [build_eq named given, build_eq named given, checkSegments_append]
    cases checked : checkSegments segments with
    | error problem => rfl
    | ok components =>
      let path := (machine.absolute (parse name)).append components
      have normalPath : path.IsNormal :=
        (normal.absolute (isNormal_parse name)).append (isWhole_of_checkSegments checked)
      have absolute : path.isAbsolute = true := isAbsolute_absolute rooted (parse name)
      show later.build (again path) more = _
      rw [build, build_text normalPath absolute (renamed path normalPath)]
      cases checkSegments more with
      | error problem => rfl
      | ok rest => exact congrArg Except.ok (append_append _ components rest)

end

end

/-- A path is built unless the base is the empty text or a segment is refused. It is absolute, and
its components are those of the absolute form of the base with just the segments behind them. So
its text tells the segments, and it can be built in steps, going on from the path or its text in
any working directory. -/
theorem build_exact {machine : Machine} (rooted : machine.workingDirectory.isAbsolute = true)
    (normal : machine.workingDirectory.IsNormal) {base : Value} {name : Codes}
    (named : IsBase base name) :
    (∀ segments,
      ((∃ failure, machine.build base segments = .error failure ∧
          failure.kind = .invalidArgument) ↔ IsRefused base segments) ∧
      (¬ IsRefused base segments →
        ∃ path, machine.build base segments = .ok path ∧ path.isAbsolute = true ∧
          path.anchor = (machine.absolute (parse name)).anchor ∧
          path.components.map Value.ofCodes =
            (machine.absolute (parse name)).components.map Value.ofCodes ++ segments)) ∧
    (∀ segments others path other, machine.build base segments = .ok path →
      machine.build base others = .ok other → path.text = other.text → segments = others) ∧
    ∀ (later : Machine) segments more,
      ((machine.build base segments).bind fun path => later.build (.path path) more) =
        machine.build base (segments ++ more) ∧
      ((machine.build base segments).bind fun path => later.build (.ofCodes path.text) more) =
        machine.build base (segments ++ more) := by
  refine ⟨fun segments => ⟨⟨?refused, ?fails⟩, ?built⟩, ?tells, fun later segments more => ⟨?_, ?_⟩⟩
  case refused =>
    rintro ⟨failure, failed, -⟩
    by_contra accepted
    obtain ⟨components, -, built⟩ := build_of_not_isRefused machine named accepted
    cases failed.symm.trans built
  case fails =>
    intro refused
    obtain ⟨problem, failed⟩ := build_of_isRefused machine named refused
    exact ⟨.path problem, failed, rfl⟩
  case built =>
    intro accepted
    obtain ⟨components, checked, built⟩ := build_of_not_isRefused machine named accepted
    refine ⟨_, built, isAbsolute_absolute rooted (parse name), rfl, ?_⟩
    rw [(checkSegments_eq_ok_iff.mp checked).1]
    exact List.map_append
  case tells =>
    intro segments others path other built builtOther same
    exact segments_eq_of_text_eq named normal built builtOther same
  · apply build_build named rooted normal later Value.path
    intro path normalPath
    exact .inr (.inl (by rw [parse_text normalPath]))
  · exact build_build named rooted normal later (fun path => .ofCodes path.text)
      (fun _ _ => .inl rfl) segments more

/-- A machine without anything, seen from a directory. -/
def standingAt (components : List Codes) : Machine where
  environment := []
  workingDirectory := ⟨.root, components⟩
  userId := none
  files := .empty

/-- Half of a surrogate pair behind a letter. -/
def halfName : Codes := [.char 'a', .half ⟨0x100, by decide⟩]

/-- Below a relative base whose name holds single dots and a slash too many, a name that is no text
of characters is a component as any other. The path goes on from its text in another directory. -/
theorem build_exact_below_relative :
    ∃ path, (standingAt ["work"]).build (.text "./media//card") [.ofCodes halfName] = .ok path ∧
      path.components.map Value.ofCodes =
        [.text "work", .text "media", .text "card", .ofCodes halfName] ∧
      ((standingAt ["work"]).build (.text "./media//card") [.ofCodes halfName]).bind
          (fun path => (standingAt ["other"]).build (.ofCodes path.text) [.text "..."]) =
        (standingAt ["work"]).build (.text "./media//card") [.ofCodes halfName, .text "..."] := by
  have normal : (standingAt ["work"]).workingDirectory.IsNormal := by
    intro component member
    obtain rfl := List.mem_singleton.mp member
    exact ⟨by decide, by decide⟩
  have accepted : ¬ IsRefused (.text "./media//card") [.ofCodes halfName] := by
    rintro (empty | ⟨segment, member, problem, refused⟩)
    · exact absurd (Value.text.inj empty) (by decide)
    · obtain rfl := List.mem_singleton.mp member
      rw [checkSegment_eq_ok_iff.mpr ⟨rfl, by decide⟩] at refused
      cases refused
  have named : IsBase (.text "./media//card") "./media//card" := .inl (Value.ofCodes_codes _).symm
  obtain ⟨outcome, -, steps⟩ := build_exact rfl normal named
  obtain ⟨path, built, -, -, components⟩ := (outcome [.ofCodes halfName]).2 accepted
  refine ⟨path, built, components.trans ?_,
    (steps (standingAt ["other"]) [.ofCodes halfName] [.text "..."]).2⟩
  have base : ((standingAt ["work"]).absolute (parse "./media//card")).components =
      ["work", "media", "card"].map Text.codes := by decide
  rw [base]
  simp

end Machine

end StorageLayout
