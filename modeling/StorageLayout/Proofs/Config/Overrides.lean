import StorageLayout.Config.Layer
import StorageLayout.Proofs.Config.Writing

namespace StorageLayout

namespace Value

theorem exists_object_of_setAt {entries : Table Value} {new written : Value} {segment : String}
    {rest : List String} {create : Bool}
    (wrote : (object entries).setAt segment rest new create = .ok written) :
    ∃ table, written = object table := by
  cases rest with
  | nil =>
    obtain ⟨-, rfl⟩ := setAt_nil_eq_ok.mp wrote
    exact ⟨_, rfl⟩
  | cons next later =>
    obtain ⟨-, -, inner, -, rfl⟩ := setAt_cons_eq_ok.mp wrote
    exact ⟨_, rfl⟩

theorem exists_object_of_deleteAt {entries : Table Value} {left : Value} {segment : String}
    {rest : List String} {prune : Bool}
    (removed : (object entries).deleteAt segment rest prune = some left) :
    ∃ table, left = object table := by
  cases rest with
  | nil =>
    obtain ⟨-, -, rfl⟩ := deleteAt_nil_eq_some.mp removed
    exact ⟨_, rfl⟩
  | cons next later =>
    obtain ⟨-, child, inner, -, -, rfl⟩ := deleteAt_cons_eq_some.mp removed
    split
    · exact ⟨_, rfl⟩
    · exact ⟨_, rfl⟩

theorem read?_of_parse (value : Value) {text : String} {key : Key}
    (parsed : Key.parse text = .ok key) :
    value.read? (.text text) = value.at? key.segments := by
  simp [read?, Key.ofValue, parsed, get?]

theorem read?_of_refused (value : Value) {text : String} {problem : KeyProblem}
    (refused : Key.parse text = .error problem) : value.read? (.text text) = none := by
  simp [read?, Key.ofValue, refused]

theorem read_eq (value : Value) {text : String} {key : Key} (parsed : Key.parse text = .ok key) :
    value.read text = (value.get? key).getD .null := by
  rw [read, read?_of_parse value parsed, get?]

theorem read_eq_null (value : Value) {text : String} {problem : KeyProblem}
    (refused : Key.parse text = .error problem) : value.read text = .null := by
  rw [read, read?_of_refused value refused, Option.getD_none]

end Value

namespace Layer

theorem assign_eq_ok {entries written : Table Value} {text : String} {value : Value} :
    assign entries text value = .ok written ↔
      ∃ key, Key.parse text = .ok key ∧
        (Value.object entries).set key value true = .ok (.object written) := by
  unfold assign
  cases Key.parse text with
  | error problem => simp
  | ok key =>
    cases wrote : (Value.object entries).set key value true with
    | error problem => simp [wrote]
    | ok result =>
      obtain ⟨table, rfl⟩ := Value.exists_object_of_setAt wrote
      simp [wrote]

theorem assign_eq_ok_of_parse {entries written : Table Value} {text : String} {key : Key}
    {value : Value} (parsed : Key.parse text = .ok key) :
    assign entries text value = .ok written ↔
      (Value.object entries).set key value true = .ok (.object written) := by
  simp [assign_eq_ok, parsed]

theorem discard_eq_ok {entries left : Table Value} {text : String} :
    discard entries text = .ok left ↔
      ∃ key, Key.parse text = .ok key ∧
        ((Value.object entries).delete? key true).getD (.object entries) = .object left := by
  unfold discard
  cases Key.parse text with
  | error problem => simp
  | ok key =>
    cases removed : (Value.object entries).delete? key true with
    | none => simp [removed]
    | some result =>
      obtain ⟨table, rfl⟩ := Value.exists_object_of_deleteAt removed
      simp [removed]

theorem discard_eq_ok_of_parse {entries left : Table Value} {text : String} {key : Key}
    (parsed : Key.parse text = .ok key) :
    discard entries text = .ok left ↔
      ((Value.object entries).delete? key true).getD (.object entries) = .object left := by
  simp [discard_eq_ok, parsed]

/-- Taking a key back removes something, or it changes nothing. -/
theorem discard_cases {entries left : Table Value} {text : String} {key : Key}
    (parsed : Key.parse text = .ok key) (discarded : discard entries text = .ok left) :
    (Value.object entries).delete? key true = some (.object left) ∨
      (Value.object entries).delete? key true = none ∧ left = entries := by
  have left_eq := (discard_eq_ok_of_parse parsed).mp discarded
  cases removed : (Value.object entries).delete? key true with
  | some rest =>
    rw [removed, Option.getD_some] at left_eq
    exact .inl (congrArg some left_eq)
  | none =>
    rw [removed, Option.getD_none] at left_eq
    exact .inr ⟨rfl, (Value.mapping.inj left_eq).2.symm⟩

theorem exists_discard {text : String} {key : Key} (parsed : Key.parse text = .ok key)
    (entries : Table Value) : ∃ left, discard entries text = .ok left := by
  cases removed : (Value.object entries).delete? key true with
  | none =>
    refine ⟨entries, (discard_eq_ok_of_parse parsed).mpr ?_⟩
    rw [removed, Option.getD_none]
  | some rest =>
    obtain ⟨left, rfl⟩ := Value.exists_object_of_deleteAt removed
    refine ⟨left, (discard_eq_ok_of_parse parsed).mpr ?_⟩
    rw [removed, Option.getD_some]

theorem writeOverride_null {entries : Table Value} {text : String} {value : Value}
    (null : value.isNull = true) : writeOverride entries text value = discard entries text := by
  simp [writeOverride, null]

theorem writeOverride_eq_ok {entries written : Table Value} {text : String} {value : Value}
    (present : value.isNull = false) :
    writeOverride entries text value = .ok written ↔
      value.isCopyable = true ∧ assign entries text value = .ok written := by
  by_cases copyable : value.isCopyable = true <;> simp [writeOverride, present, copyable]

theorem exists_key_of_writeOverride {entries written : Table Value} {text : String} {value : Value}
    (wrote : writeOverride entries text value = .ok written) : ∃ key, Key.parse text = .ok key := by
  cases null : value.isNull with
  | true =>
    rw [writeOverride_null null] at wrote
    obtain ⟨key, parsed, -⟩ := discard_eq_ok.mp wrote
    exact ⟨key, parsed⟩
  | false =>
    obtain ⟨-, assigned⟩ := (writeOverride_eq_ok null).mp wrote
    obtain ⟨key, parsed, -⟩ := assign_eq_ok.mp assigned
    exact ⟨key, parsed⟩

/-- Overrides hold the kinds of mappings that they are given. -/
theorem allMappings_writeOverride {admitted : Access → Bool} (creatable : admitted .writable = true)
    {entries written : Table Value} {text : String} {value : Value}
    (all : (Value.object entries).allMappings admitted = true)
    (allValue : value.allMappings admitted = true)
    (wrote : writeOverride entries text value = .ok written) :
    (Value.object written).allMappings admitted = true := by
  cases null : value.isNull with
  | true =>
    rw [writeOverride_null null] at wrote
    obtain ⟨key, parsed, -⟩ := discard_eq_ok.mp wrote
    rcases discard_cases parsed wrote with removed | ⟨-, rfl⟩
    · exact Value.allMappings_deleteAt all removed
    · exact all
  | false =>
    obtain ⟨-, assigned⟩ := (writeOverride_eq_ok null).mp wrote
    obtain ⟨key, -, put⟩ := assign_eq_ok.mp assigned
    exact Value.allMappings_setAt creatable all allValue put

/-- Only what can be copied gets into overrides. -/
theorem isCopyable_writeOverride {entries written : Table Value} {text : String} {value : Value}
    (copyable : (Value.object entries).isCopyable = true)
    (wrote : writeOverride entries text value = .ok written) :
    (Value.object written).isCopyable = true := by
  have valueCopyable : value.isCopyable = true := by
    cases null : value.isNull with
    | true =>
      obtain rfl := Value.eq_null_of_isNull null
      rfl
    | false => exact ((writeOverride_eq_ok null).mp wrote).1
  exact allMappings_writeOverride rfl copyable valueCopyable wrote

/-- What a key reads as after a value was written there. -/
theorem get?_writeOverride {entries written : Table Value} {text : String} {key : Key}
    {value : Value} (parsed : Key.parse text = .ok key) (present : value.isNull = false)
    (wrote : writeOverride entries text value = .ok written) :
    (Value.object written).get? key = some value := by
  obtain ⟨-, assigned⟩ := (writeOverride_eq_ok present).mp wrote
  exact Value.at?_setAt_same ((assign_eq_ok_of_parse parsed).mp assigned)

/-- What is taken back is gone, unless it stands below a read-only mapping: then nothing changes. -/
theorem get?_discard {entries left : Table Value} {text : String} {key : Key}
    (parsed : Key.parse text = .ok key) (discarded : discard entries text = .ok left) :
    (Value.object left).get? key = none ∨
      left = entries ∧ ¬ (Value.object entries).IsOpenTo key.segments := by
  rcases discard_cases parsed discarded with removed | ⟨stays, rfl⟩
  · exact .inl (Value.at?_deleteAt_same removed)
  · by_cases held : ((Value.object left).get? key).isSome
    · refine .inr ⟨rfl, fun open_ => ?_⟩
      have removable := (Value.delete?_isSome_iff _ _ true).mpr ⟨held, open_⟩
      rw [stays] at removable
      cases removable
    · exact .inl (Option.not_isSome_iff_eq_none.mp held)

end Layer

end StorageLayout
