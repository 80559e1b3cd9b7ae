import StorageLayout.Proofs.Config.Announcement
import StorageLayout.Proofs.Number.Rounding

namespace StorageLayout

namespace Binary64

section

variable {negative : Bool} {significand : Nat} {exponent : Int}

theorem sameValue_finite {negativeRight : Bool} {significandRight : Nat} {exponentRight : Int} :
    (finite negative significand exponent).sameValue
        (finite negativeRight significandRight exponentRight) = true ↔
      (finite negative significand exponent).value =
        (finite negativeRight significandRight exponentRight).value := by
  obtain ⟨numerator, denominator, ratio, positive, worth⟩ :=
    toRatio?_finite negative significand exponent
  obtain ⟨numeratorRight, denominatorRight, ratioRight, positiveRight, worthRight⟩ :=
    toRatio?_finite negativeRight significandRight exponentRight
  have nonzero : (denominator : ℚ) ≠ 0 := Nat.cast_ne_zero.mpr positive.ne'
  have nonzeroRight : (denominatorRight : ℚ) ≠ 0 := Nat.cast_ne_zero.mpr positiveRight.ne'
  rw [sameValue, ratio, ratioRight, ← worth, ← worthRight, div_eq_div_iff nonzero nonzeroRight]
  · simp only [decide_eq_true_eq]
    exact_mod_cast Iff.rfl
  · simp

theorem sameInt_finite {value : Int} :
    (finite negative significand exponent).sameInt value = true ↔
      (finite negative significand exponent).value = value := by
  obtain ⟨numerator, denominator, ratio, positive, worth⟩ :=
    toRatio?_finite negative significand exponent
  have nonzero : (denominator : ℚ) ≠ 0 := Nat.cast_ne_zero.mpr positive.ne'
  rw [sameInt, ratio, ← worth, div_eq_iff nonzero, decide_eq_true_eq]
  exact_mod_cast Iff.rfl

end

end Binary64

namespace Value

/-- The number that a value is equal to, if it is equal to one: an infinity by its sign, or a
rational. -/
def number? : Value → Option (Bool ⊕ ℚ)
  | bool truth => some (.inr (if truth then 1 else 0))
  | int value => some (.inr value)
  | float (.infinite negative) => some (.inl negative)
  | float (.finite negative significand exponent) =>
    some (.inr (Binary64.finite negative significand exponent).value)
  | _ => none

theorem number?_of_integer? {value : Value} {integer : Int}
    (whole : value.integer? = some integer) : value.number? = some (.inr integer) := by
  cases value with
  | bool truth =>
    obtain rfl := Option.some.inj whole
    cases truth <;> simp [number?]
  | int value =>
    obtain rfl := Option.some.inj whole
    rfl
  | _ => cases whole

theorem sameValue_iff {left right : Binary64} :
    left.sameValue right = true ↔
      ∃ number, (float left).number? = some number ∧ (float right).number? = some number := by
  cases left with
  | nan => cases right <;> simp [Binary64.sameValue, Binary64.toRatio?, number?]
  | infinite negative =>
    cases right with
    | infinite negativeRight =>
      simp only [Binary64.sameValue, number?, beq_iff_eq, Option.some.injEq, exists_eq_left']
      rw [Sum.inl.injEq, eq_comm]
    | _ => simp [Binary64.sameValue, Binary64.toRatio?, number?]
  | finite negative significand exponent =>
    cases right with
    | finite negativeRight significandRight exponentRight =>
      simp only [Binary64.sameValue_finite, number?, Option.some.injEq, exists_eq_left']
      rw [Sum.inr.injEq, eq_comm]
    | _ => simp [Binary64.sameValue, Binary64.toRatio?, number?]

theorem sameInt_iff {left : Binary64} {integer : Int} :
    left.sameInt integer = true ↔ (float left).number? = some (.inr integer) := by
  cases left with
  | finite negative significand exponent => simp [Binary64.sameInt_finite, number?]
  | _ => simp [Binary64.sameInt, Binary64.toRatio?, number?]

theorem number?_eq_map {value : Value} (whole : ∀ number, value ≠ float number) :
    value.number? = value.integer?.map fun integer => .inr (integer : ℚ) := by
  cases value with
  | float number => exact absurd rfl (whole number)
  | bool truth => exact number?_of_integer? rfl
  | int value => rfl
  | _ => rfl

theorem sameNumber_iff {left right : Value} :
    left.sameNumber right = true ↔
      ∃ number, left.number? = some number ∧ right.number? = some number := by
  by_cases floating : ∃ value, left = float value
  · obtain ⟨value, rfl⟩ := floating
    by_cases floatingRight : ∃ other, right = float other
    · obtain ⟨other, rfl⟩ := floatingRight
      exact sameValue_iff
    · have apart := not_exists.mp floatingRight
      rw [number?_eq_map apart, sameNumber.eq_2 _ _ apart]
      cases right.integer? with
      | none => simp
      | some integer => simp [sameInt_iff]
  · have apart := not_exists.mp floating
    rw [number?_eq_map apart]
    by_cases floatingRight : ∃ other, right = float other
    · obtain ⟨other, rfl⟩ := floatingRight
      rw [sameNumber.eq_3 _ _ apart]
      cases left.integer? with
      | none => simp
      | some integer => simp [sameInt_iff]
    · have apartRight := not_exists.mp floatingRight
      rw [number?_eq_map apartRight, sameNumber]
      cases left.integer? with
      | none => simp
      | some integer =>
        cases right.integer? with
        | none => simp
        | some other =>
          simp only [Option.isSome_some, Bool.true_and, beq_iff_eq, Option.some.injEq,
            Option.map_some, exists_eq_left', Sum.inr.injEq, Int.cast_inj]
          exact eq_comm
      · exact apart
      · exact apartRight
      · exact fun value _ same _ => apart value same

theorem agrees_of_number {left : Value} {number : Bool ⊕ ℚ} (worth : left.number? = some number)
    (right : Value) : left.agrees right = left.sameNumber right := by
  cases left with
  | bool truth => rw [agrees] <;> simp
  | int value => rw [agrees] <;> simp
  | float value => rw [agrees] <;> simp
  | _ => cases worth

/-- Whether a value has no other values inside it. -/
def isFlat : Value → Bool
  | list _ => false
  | mapping _ _ => false
  | _ => true

theorem eq_or_number_of_agrees {left right : Value} (flat : left.isFlat = true)
    (agree : left.agrees right = true) : left = right ∨ ∃ number, left.number? = some number := by
  cases left with
  | list items => cases flat
  | mapping access entries => cases flat
  | bool truth => exact .inr ⟨_, rfl⟩
  | int value => exact .inr ⟨_, rfl⟩
  | float value =>
    rw [agrees] at agree
    · obtain ⟨number, worth, -⟩ := sameNumber_iff.mp agree
      exact .inr ⟨number, worth⟩
    all_goals simp
  | _ =>
    left
    cases right <;> simp_all [agrees, sameNumber, integer?]

theorem agrees_trans_of_flat {left middle right : Value} (flat : left.isFlat = true)
    (first : left.agrees middle = true) (second : middle.agrees right = true) :
    left.agrees right = true := by
  rcases eq_or_number_of_agrees flat first with rfl | ⟨number, worth⟩
  · exact second
  · rw [agrees_of_number worth, sameNumber_iff] at first ⊢
    obtain ⟨same, worthLeft, worthMiddle⟩ := first
    rw [agrees_of_number worthMiddle, sameNumber_iff] at second
    obtain ⟨other, sameMiddle, worthRight⟩ := second
    obtain rfl := Option.some.inj (worthMiddle.symm.trans sameMiddle)
    exact ⟨same, worthLeft, worthRight⟩

mutual

/-- What equals something that equals a third value equals this as well. -/
theorem agrees_trans : ∀ {left middle right : Value}, left.agrees middle = true →
    middle.agrees right = true → left.agrees right = true
  | list lefts, middle, right => by
    intro first second
    cases middle with
    | list middles =>
      cases right with
      | list rights =>
        rw [agrees] at first second ⊢
        exact itemsAgree_trans first second
      | _ => simp [agrees, sameNumber, integer?] at second
    | _ => simp [agrees, sameNumber, integer?] at first
  | mapping leftAccess lefts, middle, right => by
    intro first second
    cases middle with
    | mapping middleAccess middles =>
      cases right with
      | mapping rightAccess rights =>
        rw [agrees_mapping] at first second ⊢
        refine ⟨fun entry member => ?_, entriesAgree_trans first.2 second.2⟩
        have known := second.1 entry member
        obtain ⟨value, found⟩ := Option.isSome_iff_exists.mp known
        exact first.1 (entry.1, value) (Table.mem_of_get? found)
      | _ => simp [agrees, sameNumber, integer?] at second
    | _ => simp [agrees, sameNumber, integer?] at first
  | null, _, _ => agrees_trans_of_flat rfl
  | bool _, _, _ => agrees_trans_of_flat rfl
  | int _, _, _ => agrees_trans_of_flat rfl
  | float _, _, _ => agrees_trans_of_flat rfl
  | text _, _, _ => agrees_trans_of_flat rfl
  | brokenText _, _, _ => agrees_trans_of_flat rfl
  | path _, _, _ => agrees_trans_of_flat rfl
  | pathLike _, _, _ => agrees_trans_of_flat rfl
  | bytes _, _, _ => agrees_trans_of_flat rfl

theorem itemsAgree_trans : ∀ {lefts middles rights : List Value},
    itemsAgree lefts middles = true → itemsAgree middles rights = true →
      itemsAgree lefts rights = true
  | [], middles, rights => by
    intro first second
    cases middles with
    | nil => exact second
    | cons middle rest => cases first
  | left :: lefts, middles, rights => by
    intro first second
    cases middles with
    | nil => cases first
    | cons middle middles =>
      cases rights with
      | nil => cases second
      | cons right rights =>
        rw [itemsAgree, Bool.and_eq_true] at first second ⊢
        exact ⟨agrees_trans first.1 second.1, itemsAgree_trans first.2 second.2⟩

theorem entriesAgree_trans : ∀ {lefts middles rights : List (String × Value)},
    entriesAgree lefts middles = true → entriesAgree middles rights = true →
      entriesAgree lefts rights = true
  | [], _, _ => fun _ _ => rfl
  | (key, left) :: lefts, middles, rights => by
    intro first second
    rw [entriesAgree, Bool.and_eq_true] at first ⊢
    refine ⟨?_, entriesAgree_trans first.2 second⟩
    have here := first.1
    cases found : Table.get? middles key with
    | none => simp [found] at here
    | some middle =>
      obtain ⟨right, foundRight, further⟩ :=
        entriesAgree_iff.mp second _ (Table.mem_of_get? found)
      simp only [found] at here
      simp only [foundRight]
      exact agrees_trans here further

end

theorem not_differs_trans {first second third : Value} (early : ¬ Differs first second)
    (late : ¬ Differs second third) : ¬ Differs first third := by
  rw [not_differs_iff] at *
  rcases early with rfl | early
  · exact late
  · rcases late with rfl | late
    · exact .inr early
    · exact .inr (agrees_trans early late)

end Value

end StorageLayout
