import Mathlib.Data.List.TakeWhile
import StorageLayout.Path.Build
import StorageLayout.Proofs.Text.Split

namespace StorageLayout.Pathname

/-- Whether a text names exactly one component: it is not empty, it does not stand for a directory
that is there already, and nothing in it ends a component. -/
structure IsSegment (text : Codes) : Prop where
  notEmpty : text ≠ []
  notSelf : text ≠ dot
  notParent : text ≠ dots
  noSlash : slash ∉ text
  noNul : nul ∉ text

theorem isSegment_iff {text : Codes} :
    IsSegment text ↔ text ≠ [] ∧ text ≠ dot ∧ text ≠ dots ∧ text.any splitsComponent = false := by
  have whole : text.any splitsComponent = false ↔ slash ∉ text ∧ nul ∉ text := by
    simp only [splitsComponent, List.any_eq_false, Bool.or_eq_true, decide_eq_true_eq, not_or]
    constructor
    · intro apart
      exact ⟨fun member => (apart _ member).1 rfl, fun member => (apart _ member).2 rfl⟩
    · rintro ⟨noSlash, noNul⟩ code member
      exact ⟨ne_of_mem_of_not_mem member noSlash, ne_of_mem_of_not_mem member noNul⟩
  rw [whole]
  constructor
  · rintro ⟨notEmpty, notSelf, notParent, noSlash, noNul⟩
    exact ⟨notEmpty, notSelf, notParent, noSlash, noNul⟩
  · rintro ⟨notEmpty, notSelf, notParent, noSlash, noNul⟩
    exact ⟨notEmpty, notSelf, notParent, noSlash, noNul⟩

instance (text : Codes) : Decidable (IsSegment text) := decidable_of_iff' _ isSegment_iff

theorem checkSegment_eq_ok_iff {name : Value} {segment : Codes} :
    checkSegment name = .ok segment ↔ name = .ofCodes segment ∧ IsSegment segment := by
  rw [← Value.codes?_eq_some_iff, isSegment_iff, checkSegment]
  split
  · next null =>
    obtain rfl := Value.eq_null_of_isNull null
    simp [Value.codes?]
  · split
    · next codes spelled =>
      rw [checkSegmentText_eq_ok_iff, spelled, Option.some.injEq]
      constructor
      · rintro ⟨rfl, whole⟩
        exact ⟨rfl, whole⟩
      · rintro ⟨rfl, whole⟩
        exact ⟨rfl, whole⟩
    · next none_ => simp [none_]

theorem checkSegments_eq_ok_iff {segments : List Value} {components : List Codes} :
    checkSegments segments = .ok components ↔
      segments = components.map Value.ofCodes ∧ ∀ component ∈ components, IsSegment component := by
  induction segments generalizing components with
  | nil =>
    constructor
    · intro accepted
      obtain rfl := Except.ok.inj accepted
      exact ⟨rfl, by simp⟩
    · rintro ⟨same, -⟩
      rw [List.map_eq_nil_iff.mp same.symm, checkSegments]
  | cons segment segments ih =>
    rw [checkSegments]
    constructor
    · intro accepted
      cases first : checkSegment segment with
      | error problem =>
        rw [first] at accepted
        cases accepted
      | ok component =>
        obtain ⟨rfl, one⟩ := checkSegment_eq_ok_iff.mp first
        rw [first] at accepted
        cases others : checkSegments segments with
        | error problem =>
          rw [others] at accepted
          cases accepted
        | ok rest =>
          rw [others] at accepted
          obtain rfl := Except.ok.inj accepted
          obtain ⟨rfl, whole⟩ := ih.mp others
          exact ⟨rfl, List.forall_mem_cons.mpr ⟨one, whole⟩⟩
    · rintro ⟨same, whole⟩
      obtain ⟨component, rest, rfl, rfl, rfl⟩ := List.map_eq_cons_iff.mp same.symm
      obtain ⟨one, others⟩ := List.forall_mem_cons.mp whole
      rw [checkSegment_eq_ok_iff.mpr ⟨rfl, one⟩, ih.mpr ⟨rfl, others⟩]
      rfl

/-- The text of a directory with the name of something in it put behind. A slash comes between them
unless the directory ends with one or is the present one. -/
def joined (directory name : Codes) : Codes :=
  if directory.getLast?.all (· = slash) then directory ++ name else directory ++ slash :: name

section

variable {segment : Codes} (one : IsSegment segment)

include one

theorem IsSegment.takeWhile_slash : segment.takeWhile (· = slash) = [] := by
  cases segment with
  | nil => rfl
  | cons code rest =>
    have different : code ≠ slash := by
      rintro rfl
      exact one.noSlash List.mem_cons_self
    simp [different]

theorem IsSegment.leadingSlashes (directory : Codes) :
    (directory ++ segment).takeWhile (· = slash) = directory.takeWhile (· = slash) := by
  rw [List.takeWhile_append, one.takeWhile_slash, List.append_nil]
  split
  · next all => exact ((List.takeWhile_prefix _).eq_of_length all).symm
  · rfl

theorem IsSegment.components_eq : (Text.split slash segment).filter isComponent = [segment] := by
  have isOne : isComponent segment = true := by simp [isComponent, one.notEmpty, one.notSelf]
  rw [Text.split_of_notMem one.noSlash, List.filter_cons_of_pos isOne, List.filter_nil]

theorem IsSegment.components_behind (directory : Codes) :
    (Text.split slash (directory ++ slash :: segment)).filter isComponent =
      (Text.split slash directory).filter isComponent ++ [segment] := by
  rw [Text.split_append, List.filter_append, one.components_eq]

end

theorem components_slash (front : Codes) :
    (Text.split slash (front ++ [slash])).filter isComponent =
      (Text.split slash front).filter isComponent := by
  rw [Text.split_append, List.filter_append]
  exact List.append_nil _

/-- What is put behind a text that does not end with a slash does not change the slashes at its
beginning. -/
theorem leadingSlashes_of_getLast? {directory : Codes}
    (apart : ¬ directory.getLast?.all (· = slash) = true) (rest : Codes) :
    (directory ++ rest).takeWhile (· = slash) = directory.takeWhile (· = slash) := by
  rw [List.takeWhile_append, if_neg]
  intro all
  have slashes : directory.takeWhile (· = slash) = directory :=
    (List.takeWhile_prefix _).eq_of_length all
  apply apart
  rw [Option.all_eq_true]
  intro code last
  have member : code ∈ directory.takeWhile (· = slash) := by
    rw [slashes]
    exact List.mem_of_getLast? last
  simpa using List.mem_takeWhile_imp member

theorem parse_joined {segment : Codes} (one : IsSegment segment) (directory : Codes) :
    parse (joined directory segment) = (parse directory).join segment := by
  rw [joined]
  split
  · next ends =>
    have components : (Text.split slash (directory ++ segment)).filter isComponent =
        (Text.split slash directory).filter isComponent ++ [segment] := by
      cases last : directory.getLast? with
      | none =>
        obtain rfl := List.getLast?_eq_none_iff.mp last
        rw [List.nil_append, one.components_eq]
        rfl
      | some code =>
        obtain ⟨front, rfl⟩ := List.getLast?_eq_some_iff.mp last
        obtain rfl : code = slash := by simpa [last] using ends
        rw [List.append_assoc, List.singleton_append, one.components_behind, components_slash]
    rw [parse, parse, one.leadingSlashes, components, join]
  · next apart =>
    rw [parse, parse, leadingSlashes_of_getLast? apart, one.components_behind, join]

end StorageLayout.Pathname
