import StorageLayout.Proofs.Config.Rollback

namespace StorageLayout

namespace Value

/-- Whether a value is part of another one: whatever is at a place of it looks like what the other
one has there. -/
def Within (part whole : Value) : Prop :=
  ∀ place inner, part.at? place = some inner →
    ∃ outer, whole.at? place = some outer ∧ outer.outline = inner.outline

namespace Within

theorem refl (value : Value) : Within value value := fun _ inner held => ⟨inner, held, rfl⟩

theorem trans {part middle whole : Value} (first : Within part middle)
    (second : Within middle whole) : Within part whole := by
  intro place inner held
  obtain ⟨between, heldBetween, outlines⟩ := first place inner held
  obtain ⟨outer, heldOuter, further⟩ := second place between heldBetween
  exact ⟨outer, heldOuter, further.trans outlines⟩

theorem of_alike {part whole : Value} (alike : Alike part whole) : Within part whole := by
  intro place inner held
  have seen := alike place
  rw [held, Option.map_some] at seen
  obtain ⟨outer, heldOuter, outlines⟩ := Option.map_eq_some_iff.mp seen.symm
  exact ⟨outer, heldOuter, outlines⟩

theorem of_entries {part whole : Value} (outlines : whole.outline = part.outline)
    (entries : ∀ name child, part.child? name = some child →
      ∃ outer, whole.child? name = some outer ∧ Within child outer) : Within part whole := by
  intro place inner held
  cases place with
  | nil =>
    obtain rfl := Option.some.inj ((at?_nil part).symm.trans held)
    exact ⟨whole, at?_nil whole, outlines⟩
  | cons name rest =>
    rw [at?_cons] at held
    obtain ⟨child, entered, further⟩ := Option.bind_eq_some_iff.mp held
    obtain ⟨outer, enteredOuter, within⟩ := entries name child entered
    rw [at?_cons, enteredOuter]
    exact within rest inner further

/-- A value of which one entry is missing is part of the whole. -/
theorem of_missing {part whole : Value} {segment : String} (outlines : whole.outline = part.outline)
    (missing : part.child? segment = none)
    (others : ∀ name, segment ≠ name → part.child? name = whole.child? name) :
    Within part whole := by
  apply of_entries outlines
  intro name child entered
  by_cases same : segment = name
  · subst same
    rw [missing] at entered
    cases entered
  · exact ⟨child, (others name same).symm.trans entered, refl child⟩

theorem withoutEntry (value : Value) (segment : String) :
    Within (value.withoutEntry segment) value :=
  of_missing (outline_withoutEntry ..).symm (child?_withoutEntry_same ..)
    fun _ other => child?_withoutEntry_other _ other

theorem withoutEntry_withEntry (value child : Value) (segment : String) :
    Within ((value.withEntry segment child).withoutEntry segment) value := by
  apply of_missing _ (child?_withoutEntry_same ..)
  · intro name other
    rw [child?_withoutEntry_other _ other, child?_withEntry_other _ _ other]
  · rw [outline_withoutEntry, outline_withEntry]

theorem withEntry {value child inner : Value} {segment : String}
    (found : value.child? segment = some child) (within : Within inner child) :
    Within (value.withEntry segment inner) value := by
  apply of_entries (outline_withEntry ..).symm
  intro name entry entered
  by_cases same : segment = name
  · subst same
    rw [child?_withEntry_same (isMapping_of_child? found)] at entered
    obtain rfl := Option.some.inj entered
    exact ⟨child, found, within⟩
  · rw [child?_withEntry_other _ _ same] at entered
    exact ⟨entry, entered, refl entry⟩

end Within

section

variable {value left : Value} {segment : String} {rest : List String}

theorem within_deleteAt {prune : Bool} (removed : value.deleteAt segment rest prune = some left) :
    Within left value := by
  induction rest generalizing value segment left with
  | nil =>
    obtain ⟨-, -, rfl⟩ := deleteAt_nil_eq_some.mp removed
    exact .withoutEntry value segment
  | cons next later ih =>
    obtain ⟨-, child, inner, found, removedInner, rfl⟩ := deleteAt_cons_eq_some.mp removed
    split
    · exact .withoutEntry value segment
    · exact .withEntry found (ih removedInner)

theorem within_deleteAt_setAt {new written : Value}
    (wrote : value.setAt segment rest new true = .ok written)
    (removed : written.deleteAt segment rest true = some left) : Within left value := by
  induction rest generalizing value segment left written with
  | nil =>
    obtain ⟨-, rfl⟩ := setAt_nil_eq_ok.mp wrote
    obtain ⟨-, -, rfl⟩ := deleteAt_nil_eq_some.mp removed
    exact .withoutEntry_withEntry value new segment
  | cons next later ih =>
    obtain ⟨isMapping, -, inner, wroteInner, rfl⟩ := setAt_cons_eq_ok.mp wrote
    obtain ⟨-, child, kept, found, removedInner, rfl⟩ := deleteAt_cons_eq_some.mp removed
    obtain rfl := Option.some.inj ((child?_withEntry_same isMapping segment inner).symm.trans found)
    split
    · exact .withoutEntry_withEntry value inner segment
    · next unpruned =>
      rw [withEntry_withEntry]
      cases entry : value.child? segment with
      | some child =>
        rw [childOrNew_of_some entry] at wroteInner
        exact .withEntry entry (ih wroteInner removedInner)
      | none =>
        -- A mapping that the write created is empty again, and so it was pruned.
        rw [childOrNew_of_none entry] at wroteInner
        have emptied := deleteAt_setAt (isOpenTo_new _) (at?_new next later) wroteInner
          (not_hollowOnWay_new _)
        obtain rfl := Option.some.inj (emptied.symm.trans removedInner)
        exact absurd rfl unpruned

end

end Value

namespace Layer

variable {entries written left : Table Value} {text : String} {value : Value}

theorem within_discard (discarded : discard entries text = .ok left) :
    Value.Within (.object left) (.object entries) := by
  obtain ⟨key, parsed, -⟩ := discard_eq_ok.mp discarded
  rcases discard_cases parsed discarded with removed | ⟨-, rfl⟩
  · exact Value.within_deleteAt removed
  · exact .refl _

/-- What was put somewhere in open overrides and then taken back leaves only what was there. -/
theorem within_takenBack (copyable : (Value.object entries).isCopyable = true)
    (open_ : (Value.object entries).isOpen = true)
    (wrote : writeOverride entries text value = .ok written) :
    Value.Within (.object (takenBack entries written text)) (.object entries) := by
  obtain ⟨key, parsed⟩ := exists_key_of_writeOverride wrote
  have alike := takenBack_alike_iff copyable parsed wrote
  by_cases forgotten : IsForgotten entries key value
  · have nothing : ((Value.object entries).get? key).getD .null = .null := by
      rcases forgotten with ⟨null, -⟩ | ⟨-, absent, -⟩
      · rw [null, Option.getD_some]
      · rw [absent, Option.getD_none]
    have again := takenBack_of_null written parsed nothing
    cases null : value.isNull with
    | true =>
      rw [writeOverride_null null] at wrote
      exact (within_discard again).trans (within_discard wrote)
    | false =>
      obtain ⟨-, assigned⟩ := (writeOverride_eq_ok null).mp wrote
      have put := (assign_eq_ok_of_parse parsed).mp assigned
      have leads : (Value.object written).IsOpenTo key.segments :=
        (Value.isOpenTo_setAt put).mpr
          (Value.isOpenTo_of_isOpen open_ fun _ _ => Value.isMapping_above_of_setAt put)
      have here : ((Value.object written).get? key).isSome :=
        Option.isSome_of_eq_some (Value.at?_setAt_same put)
      have removable := (Value.delete?_isSome_iff _ _ true).mpr ⟨here, leads⟩
      rcases discard_cases parsed again with removed | ⟨stays, -⟩
      · exact Value.within_deleteAt_setAt put removed
      · rw [stays] at removable
        cases removable
  · exact .of_alike (alike.mpr forgotten)

end Layer

end StorageLayout
