import StorageLayout.Proofs.Number.Rounding

namespace StorageLayout.Binary64

def IsExact (number : ℚ) : Prop := ∃ left : Binary64, left.IsFinite ∧ left.value = number

theorem IsFinite.exceeds_iff {number : Binary64} {bound : ℚ} (isFinite : number.IsFinite) :
    Exceeds bound number ↔ bound < number.value := by
  obtain ⟨negative, significand, exponent, rfl⟩ := isFinite.cases
  exact exceeds_finite

theorem ofSignedRatio_of_ofInt? {value : Int} {number : Binary64}
    (made : ofInt? value = some number) : ofSignedRatio false value 1 = number := by
  unfold ofInt? at made
  split at made
  · contradiction
  · exact Option.some.inj made

section

variable {count seconds : Nat} {window stamp now : Binary64}

theorem isExact_natCast (small : count ≤ significandBound) : IsExact count := by
  rcases small.lt_or_eq with below | rfl
  · refine ⟨finite false count 0, ⟨below, by decide, by decide⟩, ?_⟩
    rw [value, if_neg Bool.false_ne_true, zpow_zero, mul_one]
  · -- The bound itself needs one bit more, but only as a power of two.
    refine ⟨finite false (significandBound / 2) 1, ⟨by decide, by decide, by decide⟩, ?_⟩
    norm_num [value, significandBound]

theorem isExact_sub_natCast (isFinite : now.IsFinite) (small : now.value ≤ significandBound)
    (le : (seconds : ℚ) ≤ now.value) : IsExact (now.value - seconds) := by
  rcases Nat.eq_zero_or_pos seconds with rfl | some_
  · exact ⟨now, isFinite, by rw [Nat.cast_zero, sub_zero]⟩
  obtain ⟨negative, significand, exponent, rfl⟩ := isFinite.cases
  obtain ⟨inRange, least, greatest⟩ := isFinite
  have size : (0 : ℚ) ≤ significand * 2 ^ exponent :=
    mul_nonneg (Nat.cast_nonneg _) (zpow_pos two_pos exponent).le
  have positive : (0 : ℚ) < seconds := Nat.cast_pos.mpr some_
  cases negative with
  | true =>
    rw [value, if_pos rfl] at le
    linarith
  | false =>
    rw [value, if_neg Bool.false_ne_true] at small le ⊢
    rcases Int.le_total 0 exponent with whole | part
    · -- The reading is a whole number of seconds, and so is what is left.
      obtain ⟨shift, rfl⟩ := Int.eq_ofNat_of_zero_le whole
      have reading : (significand : ℚ) * 2 ^ (shift : ℤ) = (significand * 2 ^ shift : Nat) := by
        push_cast
        rw [zpow_natCast]
      rw [reading] at small le ⊢
      rw [← Nat.cast_sub (Nat.cast_le.mp le)]
      exact isExact_natCast ((Nat.sub_le _ _).trans (Nat.cast_le.mp small))
    · -- A second is a whole number of units of the reading.
      obtain ⟨shift, opposite⟩ := Int.eq_ofNat_of_zero_le (Int.neg_nonneg_of_nonpos part)
      have unit : (2 ^ shift : Nat) * (2 : ℚ) ^ exponent = 1 := by
        rw [Nat.cast_pow, Nat.cast_ofNat, ← zpow_natCast, ← opposite, ← zpow_add₀ two_ne_zero,
          neg_add_cancel, zpow_zero]
      have inUnits : (seconds : ℚ) = (seconds * 2 ^ shift : Nat) * 2 ^ exponent := by
        rw [Nat.cast_mul, mul_assoc, unit, mul_one]
      have fewer : seconds * 2 ^ shift ≤ significand := by
        rw [inUnits, mul_le_mul_iff_left₀ (zpow_pos two_pos exponent)] at le
        exact Nat.cast_le.mp le
      refine ⟨finite false (significand - seconds * 2 ^ shift) exponent,
        ⟨(Nat.sub_le _ _).trans_lt inRange, least, greatest⟩, ?_⟩
      rw [value, if_neg Bool.false_ne_true, Nat.cast_sub fewer, sub_mul, ← inUnits]

theorem value_ofInt? (made : ofInt? seconds = some window) (small : seconds ≤ significandBound) :
    window.value = seconds := by
  obtain ⟨isFinite, -⟩ := ofInt?_natCast made
  obtain ⟨left, isFiniteLeft, same⟩ := isExact_natCast small
  have quotient : ((seconds : ℤ) : ℚ) / (1 : Nat) = left.value := by
    rw [same, Nat.cast_one, div_one, Int.cast_natCast]
  rw [← same]
  refine eq_of_forall_lt_iff fun bound => ?_
  rw [← exceeds_ofSignedRatio_exact isFiniteLeft Nat.one_pos quotient, ofSignedRatio_of_ofInt? made]
  exact (isFinite.exceeds_iff).symm

theorem le_value_ofInt? (made : ofInt? seconds = some window) (large : significandBound ≤ seconds) :
    significandBound ≤ window.value := by
  obtain ⟨isFinite, -⟩ := ofInt?_natCast made
  obtain ⟨left, isFiniteLeft, same⟩ := isExact_natCast (le_refl significandBound)
  have quotient : ((significandBound : ℤ) : ℚ) / (1 : Nat) = left.value := by
    rw [same, Nat.cast_one, div_one, Int.cast_natCast]
  have larger : ((significandBound : ℤ) : ℚ) / (1 : Nat) ≤ ((seconds : ℤ) : ℚ) / (1 : Nat) := by
    simpa using large
  refine le_of_forall_lt fun bound below => ?_
  rw [← same] at below
  have exceeds : Exceeds bound (ofSignedRatio false significandBound 1) :=
    (exceeds_ofSignedRatio_exact isFiniteLeft Nat.one_pos quotient).mpr below
  have above : Exceeds bound (ofSignedRatio false seconds 1) :=
    exceeds_ofSignedRatio_mono Nat.one_pos Nat.one_pos larger exceeds
  rw [ofSignedRatio_of_ofInt? made] at above
  exact isFinite.exceeds_iff.mp above

/-- Of two readings of a clock the earlier one is not too old at the later one exactly if no more
seconds lie between them than the window of time has. -/
theorem not_below_sub_iff (made : ofInt? seconds = some window) (isFinite : stamp.IsFinite)
    (isFiniteNow : now.IsFinite) (nonnegative : 0 ≤ stamp.value)
    (small : now.value ≤ significandBound) :
    stamp.below (now.sub window) = false ↔ now.value - seconds ≤ stamp.value := by
  obtain ⟨isFiniteWindow, -⟩ := ofInt?_natCast made
  constructor
  · intro young
    refine not_lt.mp fun old => ?_
    have le : (seconds : ℚ) ≤ now.value := by linarith
    have few : seconds ≤ significandBound := Nat.cast_le.mp (le.trans small)
    obtain ⟨left, isFiniteLeft, same⟩ := isExact_sub_natCast isFiniteNow small le
    obtain ⟨_, numerator, denominator, difference, positive, quotient⟩ :=
      sub_eq_ofSignedRatio isFiniteNow isFiniteWindow
    rw [value_ofInt? made few, ← same] at quotient
    rw [← same, ← exceeds_ofSignedRatio_exact isFiniteLeft positive quotient, ← difference,
      ← below_iff_exceeds isFinite, young] at old
    contradiction
  · intro within
    apply not_below_sub_of_le isFinite isFiniteNow isFiniteWindow
    rcases Nat.le_total seconds significandBound with few | many
    · rw [value_ofInt? made few]
      exact within
    · have long := le_value_ofInt? made many
      linarith

end

end StorageLayout.Binary64
