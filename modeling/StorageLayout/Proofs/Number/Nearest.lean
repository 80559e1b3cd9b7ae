import StorageLayout.Number.Shortest
import StorageLayout.Proofs.Number.Rounding

namespace StorageLayout.Binary64

/-- Whether a number is finite and written with as many bits as it can have. Every finite number is
written so in exactly one way. -/
def IsNormalized : Binary64 → Prop
  | finite negative significand exponent =>
    (finite negative significand exponent).IsFinite ∧
      (exponent = leastExponent ∨ significandBound / 2 ≤ significand)
  | _ => False

def RoundingInterval.Holds (interval : RoundingInterval) (quarters : ℚ) : Prop :=
  if interval.closed then interval.low ≤ quarters ∧ quarters ≤ interval.high
  else interval.low < quarters ∧ quarters < interval.high

def IsAround (significand : Nat) (exponent : Int) (quotient : ℚ) : Prop :=
  (roundingInterval significand exponent).Holds (quotient / 2 ^ (exponent - 2))

section

variable {significand : Nat} {exponent : Int} {quotient : ℚ}

theorem in_quarters : quotient / 2 ^ (exponent - 2) = 4 * (quotient / 2 ^ exponent) := by
  rw [zpow_sub₀ two_ne_zero]
  norm_num
  ring

theorem low_of_power (power : significand = significandBound / 2) (normal : leastExponent < exponent) :
    ((roundingInterval significand exponent).low : ℚ) = 4 * significand - 1 := by
  subst power
  rw [roundingInterval]
  dsimp only
  rw [if_pos (by simpa using normal)]
  norm_num [significandBound]

theorem low_of_other (some_ : 0 < significand)
    (other : significand ≠ significandBound / 2 ∨ exponent ≤ leastExponent) :
    ((roundingInterval significand exponent).low : ℚ) = 4 * significand - 2 := by
  have wide : (roundingInterval significand exponent).low = 4 * significand - 2 := by
    rw [roundingInterval]
    dsimp only
    rw [if_neg]
    rw [Bool.and_eq_true, decide_eq_true_iff, decide_eq_true_iff, not_and_or, not_lt]
    exact other
  rw [wide, Nat.cast_sub (by omega)]
  push_cast
  rfl

theorem low_between (some_ : 0 < significand) :
    4 * (significand : ℚ) - 2 ≤ (roundingInterval significand exponent).low ∧
      ((roundingInterval significand exponent).low : ℚ) < 4 * significand := by
  by_cases power : significand = significandBound / 2 ∧ leastExponent < exponent
  · rw [low_of_power power.1 power.2]
    constructor <;> linarith
  · rw [not_and_or, not_lt] at power
    rw [low_of_other some_ power]
    constructor <;> linarith

theorem high_eq : ((roundingInterval significand exponent).high : ℚ) = 4 * significand + 2 := by
  rw [roundingInterval]
  push_cast
  rfl

theorem RoundingInterval.Holds.between {interval : RoundingInterval}
    (holds : interval.Holds quotient) : interval.low ≤ quotient ∧ quotient ≤ interval.high := by
  unfold Holds at holds
  split at holds
  · exact holds
  · exact ⟨holds.1.le, holds.2.le⟩

theorem RoundingInterval.Holds.inside {interval : RoundingInterval}
    (holds : interval.Holds quotient) (isOpen : interval.closed = false) :
    interval.low < quotient ∧ quotient < interval.high := by
  rwa [Holds, isOpen, if_neg Bool.false_ne_true] at holds

theorem RoundingInterval.holds_of_inside {interval : RoundingInterval}
    (above : interval.low < quotient) (below : quotient < interval.high) :
    interval.Holds quotient := by
  unfold Holds
  split
  · exact ⟨above.le, below.le⟩
  · exact ⟨above, below⟩

/-- What is around a number is at most half a unit away from it, and less if the number is odd. -/
theorem IsAround.near (around : IsAround significand exponent quotient) (some_ : 0 < significand) :
    2 * (significand : ℚ) ≤ 2 * (quotient / 2 ^ exponent) + 1 ∧
      2 * (quotient / 2 ^ exponent) ≤ 2 * significand + 1 ∧
      (significand % 2 = 1 → 2 * (significand : ℚ) < 2 * (quotient / 2 ^ exponent) + 1 ∧
        2 * (quotient / 2 ^ exponent) < 2 * significand + 1) := by
  have low : 4 * (significand : ℚ) - 2 ≤ (roundingInterval significand exponent).low :=
    (low_between some_).1
  have high : ((roundingInterval significand exponent).high : ℚ) = 4 * significand + 2 := high_eq
  obtain ⟨lower, upper⟩ := around.between
  rw [in_quarters] at lower upper
  refine ⟨by linarith, by linarith, fun odd => ?_⟩
  have isOpen : (roundingInterval significand exponent).closed = false := by
    simp [roundingInterval, odd]
  obtain ⟨lower, upper⟩ := around.inside isOpen
  rw [in_quarters] at lower upper
  constructor <;> linarith

theorem IsAround.near_power (around : IsAround significand exponent quotient)
    (power : significand = significandBound / 2) (normal : leastExponent < exponent) :
    4 * (significand : ℚ) ≤ 4 * (quotient / 2 ^ exponent) + 1 := by
  have low := low_of_power power normal
  have lower := around.between.1
  rw [in_quarters, low] at lower
  linarith

end

section

variable {numerator denominator significand : Nat} {exponent : Int}

/-- The unit of a quotient is the only one in which it takes all bits. -/
theorem unitExponent_eq (some_ : 0 < numerator) (positive : 0 < denominator)
    (least : leastExponent ≤ exponent)
    (upper : (numerator : ℚ) / denominator < 2 ^ (53 + exponent))
    (lower : exponent = leastExponent ∨
      (2 : ℚ) ^ (52 + exponent) ≤ (numerator : ℚ) / denominator) :
    unitExponent numerator denominator = exponent := by
  obtain ⟨leastUnit, upperUnit, lowerUnit⟩ := unitExponent_spec some_ positive
  apply le_antisymm
  · rcases lowerUnit with isLeast | large
    · omega
    · have between := large.trans_lt upper
      rw [zpow_lt_zpow_iff_right₀ one_lt_two] at between
      omega
  · rcases lower with isLeast | large
    · omega
    · have between := large.trans_lt upperUnit
      rw [zpow_lt_zpow_iff_right₀ one_lt_two] at between
      omega

/-- The units that a quotient is rounded to are those that it is near to. -/
theorem unitsOf_eq (positive : 0 < denominator)
    (unit : unitExponent numerator denominator = exponent)
    (lower : 2 * (significand : ℚ) ≤ 2 * ((numerator : ℚ) / denominator / 2 ^ exponent) + 1)
    (upper : 2 * ((numerator : ℚ) / denominator / 2 ^ exponent) ≤ 2 * significand + 1)
    (strict : significand % 2 = 1 →
      2 * (significand : ℚ) < 2 * ((numerator : ℚ) / denominator / 2 ^ exponent) + 1 ∧
        2 * ((numerator : ℚ) / denominator / 2 ^ exponent) < 2 * significand + 1) :
    unitsOf numerator denominator = significand := by
  rw [unitsOf, unit]
  rw [← quotient_in_units] at lower upper strict
  exact roundHalfEven_eq (units_pos positive exponent) lower upper strict

theorem in_half {quotient : ℚ} :
    quotient / 2 ^ (exponent - 1) = 2 * (quotient / 2 ^ exponent) := by
  rw [zpow_sub₀ two_ne_zero, zpow_one]
  field_simp

theorem power_of_near {units : ℚ} (full : significandBound / 2 ≤ significand)
    (few : units < 2 ^ (52 : ℤ)) (lower : 2 * (significand : ℚ) ≤ 2 * units + 1) :
    significand = significandBound / 2 := by
  refine le_antisymm (not_lt.mp fun more => ?_) full
  have next : ((significandBound / 2 : Nat) : ℚ) + 1 ≤ significand := by exact_mod_cast more
  rw [halfBound_eq] at next
  linarith

/-- What is around a number is rounded to it. -/
theorem ofRatio_of_isAround {negative : Bool} (some_ : 0 < significand)
    (someRatio : 0 < numerator) (positive : 0 < denominator)
    (normalized : (finite negative significand exponent).IsNormalized)
    (around : IsAround significand exponent ((numerator : ℚ) / denominator)) :
    ofRatio negative numerator denominator = finite negative significand exponent := by
  obtain ⟨⟨small, least, greatest⟩, full⟩ := normalized
  obtain ⟨lower, upper, strict⟩ := around.near some_
  have unit : (0 : ℚ) < 2 ^ exponent := zpow_pos two_pos exponent
  have inUnits : (numerator : ℚ) / denominator / 2 ^ exponent * 2 ^ exponent =
      (numerator : ℚ) / denominator := div_mul_cancel₀ _ unit.ne'
  have bound : (significand : ℚ) + 1 ≤ 2 ^ (53 : ℤ) := by
    rw [← significandBound_eq]
    exact_mod_cast small
  have below : (numerator : ℚ) / denominator < 2 ^ (53 + exponent) := by
    rw [zpow_add₀ two_ne_zero, ← inUnits]
    exact mul_lt_mul_of_pos_right (by linarith) unit
  rw [ofRatio_eq someRatio]
  by_cases inside : exponent = leastExponent ∨
      (2 : ℚ) ^ (52 + exponent) ≤ (numerator : ℚ) / denominator
  · have same := unitExponent_eq someRatio positive least below inside
    have units := unitsOf_eq positive same lower upper strict
    rw [units, same]
    simp only [if_neg small.ne, if_neg greatest.not_gt]
  · -- The number is a power of two, and the quotient has its bits in the next smaller unit.
    obtain ⟨normal, less⟩ := not_or.mp inside
    have above : leastExponent < exponent := lt_of_le_of_ne least (Ne.symm normal)
    have few : (numerator : ℚ) / denominator / 2 ^ exponent < 2 ^ (52 : ℤ) := by
      rw [div_lt_iff₀ unit, ← zpow_add₀ two_ne_zero]
      exact not_le.mp less
    have power := power_of_near (full.resolve_left normal) few lower
    have close := around.near_power power above
    have half : (numerator : ℚ) / denominator / 2 ^ (exponent - 1) =
        2 * ((numerator : ℚ) / denominator / 2 ^ exponent) := in_half
    have size : (significand : ℚ) = 2 ^ (52 : ℤ) := by rw [power, halfBound_eq]
    have twice : (significandBound : ℚ) = 2 * 2 ^ (52 : ℤ) := by norm_num [significandBound]
    have same : unitExponent numerator denominator = exponent - 1 := by
      refine unitExponent_eq someRatio positive (by omega) ?_ (.inr ?_)
      · rw [show 53 + (exponent - 1) = 52 + exponent by ring]
        exact not_le.mp less
      · have unitBelow : (0 : ℚ) < 2 ^ (exponent - 1) := zpow_pos two_pos _
        rw [zpow_add₀ two_ne_zero, ← le_div_iff₀ unitBelow, half]
        have some52 : (1 : ℚ) ≤ 2 ^ (52 : ℤ) := by norm_num
        linarith
    have units : unitsOf numerator denominator = significandBound := by
      refine unitsOf_eq positive same ?_ ?_ fun odd => absurd odd (by decide)
      · rw [half]
        linarith
      · rw [half]
        linarith
    rw [units, same]
    simp only [if_true, sub_add_cancel, if_neg greatest.not_gt, power]

end

end StorageLayout.Binary64
