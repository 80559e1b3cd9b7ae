import Mathlib.Data.Option.Basic
import StorageLayout.Config.Access

namespace StorageLayout.Value

@[simp] theorem at?_nil (value : Value) : value.at? [] = some value := by
  cases value <;> rfl

theorem at?_nil_eq_some {value held : Value} : value.at? [] = some held ↔ value = held := by
  rw [at?_nil, Option.some.injEq]

theorem at?_cons (value : Value) (segment : String) (rest : List String) :
    value.at? (segment :: rest) = (value.child? segment).bind fun child => child.at? rest := by
  rw [at?]
  cases value.child? segment <;> rfl

@[simp] theorem at?_singleton (value : Value) (segment : String) :
    value.at? [segment] = value.child? segment := by
  rw [at?_cons]
  cases value.child? segment <;> simp

theorem at?_append (value : Value) (place rest : List String) :
    value.at? (place ++ rest) = (value.at? place).bind fun child => child.at? rest := by
  induction place generalizing value with
  | nil => simp
  | cons segment place ih =>
    rw [List.cons_append, at?_cons, at?_cons]
    cases value.child? segment with
    | none => rfl
    | some child => exact ih child

theorem isMapping_of_child? {value child : Value} {segment : String}
    (found : value.child? segment = some child) : value.isMapping = true := by
  cases value <;> simp_all [child?, isMapping, entries?]

theorem child?_eq_none {value : Value} (scalar : value.isMapping = false) (segment : String) :
    value.child? segment = none := by
  cases value <;> simp_all [child?, isMapping, entries?]

theorem isMapping_of_isWritable {value : Value} (writable : value.isWritable = true) :
    value.isMapping = true := by
  cases value <;> simp_all [isWritable, isMapping, entries?]

theorem isHollow_iff {value : Value} : value.isHollow = true ↔ value = object [] := by
  constructor
  · intro hollow
    cases value with
    | mapping access entries => simp_all [isHollow]
    | _ => simp [isHollow] at hollow
  · rintro rfl
    rfl

theorem child?_withEntry_same {value : Value} (mapping : value.isMapping = true) (segment : String)
    (child : Value) : (value.withEntry segment child).child? segment = some child := by
  cases value <;> simp_all [withEntry, child?, isMapping, entries?]

theorem child?_withEntry_other (value child : Value) {segment other : String}
    (different : segment ≠ other) :
    (value.withEntry segment child).child? other = value.child? other := by
  cases value <;> simp [withEntry, child?, Table.get?_set_other _ _ different]

@[simp] theorem child?_withoutEntry_same (value : Value) (segment : String) :
    (value.withoutEntry segment).child? segment = none := by
  cases value <;> simp [withoutEntry, child?]

theorem child?_withoutEntry_other (value : Value) {segment other : String}
    (different : segment ≠ other) :
    (value.withoutEntry segment).child? other = value.child? other := by
  cases value <;> simp [withoutEntry, child?, Table.get?_erase_other _ different]

@[simp] theorem isMapping_withEntry (value child : Value) (segment : String) :
    (value.withEntry segment child).isMapping = value.isMapping := by
  cases value <;> rfl

@[simp] theorem isMapping_withoutEntry (value : Value) (segment : String) :
    (value.withoutEntry segment).isMapping = value.isMapping := by
  cases value <;> rfl

@[simp] theorem isWritable_withEntry (value child : Value) (segment : String) :
    (value.withEntry segment child).isWritable = value.isWritable := by
  cases value <;> rfl

@[simp] theorem isWritable_withoutEntry (value : Value) (segment : String) :
    (value.withoutEntry segment).isWritable = value.isWritable := by
  cases value <;> rfl

theorem withEntry_withEntry (value first second : Value) (segment : String) :
    (value.withEntry segment first).withEntry segment second = value.withEntry segment second := by
  cases value <;> simp [withEntry, Table.set_set]

theorem withEntry_eq_self {value child : Value} {segment : String}
    (found : value.child? segment = some child) : value.withEntry segment child = value := by
  cases value <;> simp_all [withEntry, child?, Table.set_eq_self]

theorem withoutEntry_withEntry {value : Value} {segment : String}
    (absent : value.child? segment = none) (child : Value) :
    (value.withEntry segment child).withoutEntry segment = value := by
  cases value <;> simp_all [withEntry, withoutEntry, child?, Table.erase_set_of_absent]

/-- What can be seen of a value without looking into it. -/
def outline : Value → Value
  | mapping access _ => mapping access []
  | value => value

theorem isMapping_outline (value : Value) : value.outline.isMapping = value.isMapping := by
  cases value <;> rfl

theorem isNull_outline (value : Value) : value.outline.isNull = value.isNull := by
  cases value <;> rfl

theorem outline_scalar {value : Value} (scalar : value.isMapping = false) :
    value.outline = value := by
  cases value <;> simp_all [outline, isMapping, entries?]

/-- Whether two values look the same at every place. The order of entries plays no part. -/
def Alike (left right : Value) : Prop :=
  ∀ place, (left.at? place).map outline = (right.at? place).map outline

namespace Alike

theorem refl (value : Value) : Alike value value := fun _ => rfl

theorem outline {left right : Value} (alike : Alike left right) :
    left.outline = right.outline := by
  simpa using alike []

theorem isMapping {left right : Value} (alike : Alike left right) :
    left.isMapping = right.isMapping := by
  rw [← isMapping_outline left, alike.outline, isMapping_outline]

theorem isNull {left right : Value} (alike : Alike left right) : left.isNull = right.isNull := by
  rw [← isNull_outline left, alike.outline, isNull_outline]

theorem at? {left right : Value} (alike : Alike left right) (place : List String) :
    Option.Rel Alike (left.at? place) (right.at? place) := by
  have seen := alike place
  cases leftFound : left.at? place with
  | none =>
    cases rightFound : right.at? place with
    | none => exact .none
    | some child => simp [leftFound, rightFound] at seen
  | some child =>
    cases rightFound : right.at? place with
    | none => simp [leftFound, rightFound] at seen
    | some other =>
      apply Option.Rel.some
      intro rest
      have further := alike (place ++ rest)
      simpa [at?_append, leftFound, rightFound] using further

theorem child? {left right : Value} (alike : Alike left right) (segment : String) :
    Option.Rel Alike (left.child? segment) (right.child? segment) := by
  simpa using alike.at? [segment]

end Alike

theorem alike_of_entries {left right : Value} (outlines : left.outline = right.outline)
    (entries : ∀ segment, Option.Rel Alike (left.child? segment) (right.child? segment)) :
    Alike left right := by
  intro place
  cases place with
  | nil => simp [outlines]
  | cons segment rest =>
    have related := entries segment
    rw [at?_cons, at?_cons]
    generalize left.child? segment = one at related ⊢
    generalize right.child? segment = two at related ⊢
    cases related with
    | none => rfl
    | some alike => exact alike rest

theorem outline_withEntry (value child : Value) (segment : String) :
    (value.withEntry segment child).outline = value.outline := by
  cases value <;> rfl

theorem outline_withoutEntry (value : Value) (segment : String) :
    (value.withoutEntry segment).outline = value.outline := by
  cases value <;> rfl

end StorageLayout.Value
