import StorageLayout.Proofs.Config.Remainder

namespace StorageLayout

abbrev Form := List String → Value → Prop

namespace Form

/-- A value without entries. -/
def leaf (accepts : Value → Prop) : Form
  | [], value => accepts value
  | _ :: _, _ => False

/-- A mapping with entries of given forms and no other ones. -/
def record (fields : Table Form) : Form
  | [], value => value.isMapping = true
  | name :: rest, value => ∃ form, Table.get? fields name = some form ∧ form rest value

/-- Whether everything in a value is where it may stand. -/
def Admits (form : Form) (value : Value) : Prop :=
  ∀ place inner, value.at? place = some inner → form place inner

/-- Whether a form looks at every place only at what can be seen without looking into it. -/
def IsShallow (form : Form) : Prop :=
  ∀ place {value other : Value}, value.outline = other.outline → form place value →
    form place other

section

variable {accepts : Value → Prop} {fields : Table Form} {value : Value}

theorem admits_leaf (scalar : ∀ value, accepts value → value.isMapping = false) :
    (leaf accepts).Admits value ↔ accepts value := by
  constructor
  · intro admits
    exact admits [] value (Value.at?_nil value)
  · intro accepted place inner held
    cases place with
    | nil =>
      obtain rfl := Option.some.inj ((Value.at?_nil value).symm.trans held)
      exact accepted
    | cons segment rest =>
      rw [Value.at?_cons, Value.child?_eq_none (scalar value accepted)] at held
      cases held

theorem admits_record :
    (record fields).Admits value ↔
      value.isMapping = true ∧ ∀ name child, value.child? name = some child →
        ∃ form, Table.get? fields name = some form ∧ form.Admits child := by
  constructor
  · intro admits
    refine ⟨admits [] value (Value.at?_nil value), fun name child entered => ?_⟩
    obtain ⟨form, found, -⟩ := admits [name] child ((Value.at?_singleton ..).trans entered)
    refine ⟨form, found, fun place inner held => ?_⟩
    have reached : value.at? (name :: place) = some inner := by
      rw [Value.at?_cons, entered]
      exact held
    obtain ⟨other, foundOther, allowed⟩ := admits (name :: place) inner reached
    obtain rfl := Option.some.inj (found.symm.trans foundOther)
    exact allowed
  · rintro ⟨mapping, entries⟩ place inner held
    cases place with
    | nil =>
      obtain rfl := Option.some.inj ((Value.at?_nil value).symm.trans held)
      exact mapping
    | cons name rest =>
      rw [Value.at?_cons] at held
      obtain ⟨child, entered, further⟩ := Option.bind_eq_some_iff.mp held
      obtain ⟨form, found, admits⟩ := entries name child entered
      exact ⟨form, found, admits rest inner further⟩

/-- A mapping has the form of a record if all its names are known, and what is under each of them
has the form given there. -/
theorem admits_record_iff (distinct : fields.keys.Nodup) {access : Access} {entries : Table Value} :
    (record fields).Admits (.mapping access entries) ↔
      (∀ name ∈ entries.keys, name ∈ fields.keys) ∧
        ∀ field ∈ fields, ∀ child, entries.get? field.1 = some child →
          Form.Admits field.2 child := by
  rw [admits_record]
  constructor
  · rintro ⟨-, known⟩
    constructor
    · intro name member
      obtain ⟨child, entered⟩ := Table.mem_keys_iff.mp member
      obtain ⟨form, found, -⟩ := known name child entered
      exact Table.mem_keys_iff.mpr ⟨form, found⟩
    · intro field member child entered
      obtain ⟨form, found, admits⟩ := known field.1 child entered
      obtain rfl := Option.some.inj (found.symm.trans (Table.get?_of_mem distinct member))
      exact admits
  · rintro ⟨known, admits⟩
    refine ⟨rfl, fun name child entered => ?_⟩
    obtain ⟨form, found⟩ :=
      Table.mem_keys_iff.mp (known name (Table.mem_keys_iff.mpr ⟨child, entered⟩))
    exact ⟨form, found, admits (name, form) (Table.mem_of_get? found) child entered⟩

theorem isShallow_leaf (scalar : ∀ value, accepts value → value.isMapping = false) :
    IsShallow (leaf accepts) := by
  intro place value other outlines allowed
  cases place with
  | cons segment rest => exact allowed
  | nil =>
    have valueScalar := scalar value allowed
    have otherScalar : other.isMapping = false := by
      rw [← Value.isMapping_outline, ← outlines, Value.isMapping_outline, valueScalar]
    rw [Value.outline_scalar valueScalar, Value.outline_scalar otherScalar] at outlines
    exact outlines ▸ allowed

theorem isShallow_record (each : ∀ field ∈ fields, IsShallow field.2) :
    IsShallow (record fields) := by
  intro place value other outlines allowed
  cases place with
  | nil =>
    have mapping : value.isMapping = true := allowed
    rwa [← Value.isMapping_outline, outlines, Value.isMapping_outline] at mapping
  | cons name rest =>
    obtain ⟨form, found, allowedBelow⟩ := allowed
    exact ⟨form, found, each _ (Table.mem_of_get? found) rest outlines allowedBelow⟩

end

theorem Admits.merge_part {form : Form} (shallow : form.IsShallow) {below part whole : Value}
    (bare : form.Admits (below.merge (.object []))) (covered : form.Admits (below.merge whole))
    (within : Value.Within part whole) : form.Admits (below.merge part) := by
  intro place inner shown
  by_cases settled : part.Covers place
  · cases held : part.at? place with
    | none =>
      rw [Value.at?_merge_of_covered below held settled] at shown
      cases shown
    | some value =>
      obtain ⟨outer, heldOuter, outlines⟩ := within place value held
      rw [Value.at?_merge_of_held below held] at shown
      obtain rfl := Option.some.inj shown
      refine shallow place ?_ (covered place _ (Value.at?_merge_of_held below heldOuter))
      cases below.at? place with
      | none => exact outlines
      | some old => exact Value.outline_merge_congr old outlines
  · cases place with
    | nil => exact absurd (Value.covers_nil part) settled
    | cons segment rest =>
      rw [Value.at?_merge_of_uncovered below settled] at shown
      apply bare
      rw [Value.at?_merge_of_uncovered below (Value.not_covers_new segment rest)]
      exact shown

end Form

end StorageLayout
