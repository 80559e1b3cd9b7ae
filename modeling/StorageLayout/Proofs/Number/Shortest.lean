import Mathlib.Data.Nat.Cast.Order.Field
import StorageLayout.Proofs.Number.Nearest

namespace StorageLayout.Binary64

private theorem ten_pow_pos (exponent : ℤ) : (0 : ℚ) < 10 ^ exponent := zpow_pos (by norm_num) _

private theorem ten_pow_le {smaller larger : ℤ} (le : smaller ≤ larger) :
    (10 : ℚ) ^ smaller ≤ 10 ^ larger := zpow_le_zpow_right₀ (by norm_num) le

/-! ### Digits and places -/

theorem decimalLength_spec {number : Nat} (some_ : 0 < number) :
    (10 : ℚ) ^ ((decimalLength number : ℤ) - 1) ≤ number ∧
      (number : ℚ) < 10 ^ (decimalLength number : ℤ) := by
  have length : decimalLength number = (Nat.toDigits 10 number).length := if_neg some_.ne'
  have positive : 0 < (Nat.toDigits 10 number).length := Nat.length_toDigits_pos
  have upper : number < 10 ^ decimalLength number := by
    rw [length, ← Nat.length_toDigits_le_iff (by decide) positive]
  have lower : 10 ^ (decimalLength number - 1) ≤ number := by
    rcases Nat.eq_zero_or_pos (decimalLength number - 1) with single | more
    · rw [single]
      exact some_
    · refine Nat.le_of_not_lt fun less => ?_
      rw [← Nat.length_toDigits_le_iff (by decide) more] at less
      omega
  have one_le : 1 ≤ decimalLength number := by omega
  constructor
  · rw [← Nat.cast_one, ← Nat.cast_sub one_le, zpow_natCast]
    exact_mod_cast lower
  · rw [zpow_natCast]
    exact_mod_cast upper

theorem le_of_decimalPlaces {numerator denominator : Nat} (some_ : 0 < numerator)
    (positive : 0 < denominator) :
    (10 : ℚ) ^ (decimalPlaces numerator denominator - 1) ≤ (numerator : ℚ) / denominator := by
  unfold decimalPlaces
  split
  · next large =>
    have whole : 0 < numerator / denominator := Nat.div_pos large positive
    exact (decimalLength_spec whole).1.trans Nat.cast_div_le
  · next small =>
    -- The denominator is at most as many times as large as its length says.
    have parts := Nat.div_add_mod (denominator + numerator - 1) numerator
    have rest := Nat.mod_lt (denominator + numerator - 1) some_
    have twice : 2 ≤ (denominator + numerator - 1) / numerator :=
      (Nat.le_div_iff_mul_le some_).mpr (by omega)
    generalize (denominator + numerator - 1) / numerator = times at *
    obtain ⟨less, rfl⟩ : ∃ less, times = less + 1 := ⟨times - 1, by omega⟩
    have covered : (denominator : ℚ) ≤ numerator * (less + 1 : Nat) := by
      exact_mod_cast (by omega : denominator ≤ numerator * (less + 1))
    have some_less : 0 < less := by omega
    have length : ((less + 1 : Nat) : ℚ) ≤ 10 ^ (decimalLength less : ℤ) := by
      have below := (decimalLength_spec some_less).2
      rw [zpow_natCast] at below ⊢
      exact_mod_cast below
    rw [Nat.add_sub_cancel, show (1 : ℤ) - decimalLength less - 1 = -decimalLength less by ring,
      zpow_neg, inv_eq_one_div, div_le_div_iff₀ (ten_pow_pos _) (Nat.cast_pos.mpr positive), one_mul]
    exact covered.trans (mul_le_mul_of_nonneg_left length (Nat.cast_nonneg _))

/-! ### Multiples of a power of ten -/

section

variable {interval : RoundingInterval} {unit step : Nat × Nat}

/-- How many quarter units a power of ten has. -/
def stepSize (unit step : Nat × Nat) : ℚ := (step.1 : ℚ) / step.2 / ((unit.1 : ℚ) / unit.2)

section

variable (someUnit : 0 < unit.1) (positiveUnit : 0 < unit.2) (positiveStep : 0 < step.2)

include someUnit positiveUnit positiveStep

theorem mul_stepSize (count : Nat) :
    count * stepSize unit step = (count * step.1 * unit.2 : Nat) / (unit.1 * step.2 : Nat) := by
  have unitTop : (unit.1 : ℚ) ≠ 0 := Nat.cast_ne_zero.mpr someUnit.ne'
  have unitBottom : (unit.2 : ℚ) ≠ 0 := Nat.cast_ne_zero.mpr positiveUnit.ne'
  have stepBottom : (step.2 : ℚ) ≠ 0 := Nat.cast_ne_zero.mpr positiveStep.ne'
  rw [stepSize]
  push_cast
  field_simp

theorem includes_iff (count : Nat) :
    interval.includes unit step count = true ↔ interval.Holds (count * stepSize unit step) := by
  have positive : (0 : ℚ) < (unit.1 * step.2 : Nat) :=
    Nat.cast_pos.mpr (Nat.mul_pos someUnit positiveStep)
  rw [mul_stepSize someUnit positiveUnit positiveStep, RoundingInterval.includes,
    RoundingInterval.Holds]
  dsimp only
  split
  · rw [Bool.and_eq_true, decide_eq_true_iff, decide_eq_true_iff, le_div_iff₀ positive,
      div_le_iff₀ positive, mul_assoc, mul_assoc interval.high]
    exact_mod_cast Iff.rfl
  · rw [Bool.and_eq_true, decide_eq_true_iff, decide_eq_true_iff, lt_div_iff₀ positive,
      div_lt_iff₀ positive, mul_assoc, mul_assoc interval.high]
    exact_mod_cast Iff.rfl

theorem holds_of_nearestMultiple? {count : Nat}
    (found : nearestMultiple? interval unit step = some count) :
    interval.Holds (count * stepSize unit step) := by
  rw [← includes_iff someUnit positiveUnit positiveStep]
  unfold nearestMultiple? at found
  dsimp only at found
  split at found
  · next inside =>
    split at found
    · next insideNext =>
      split at found
      · rwa [← Option.some.inj found]
      · split at found
        · rwa [← Option.some.inj found]
        · rw [← Option.some.inj found]
          split <;> assumption
    · rwa [← Option.some.inj found]
  · split at found
    · rwa [← Option.some.inj found]
    · contradiction

/-- A multiple is chosen if one of the two next to the number lies in the interval. -/
theorem nearestMultiple?_isSome
    (next : ∀ floor : Nat, floor * stepSize unit step ≤ interval.middle →
      interval.middle < ((floor + 1 : Nat) : ℚ) * stepSize unit step →
      interval.Holds (floor * stepSize unit step) ∨
        interval.Holds ((floor + 1 : Nat) * stepSize unit step))
    (someStep : 0 < step.1) : (nearestMultiple? interval unit step).isSome = true := by
  have positive : (0 : ℚ) < (unit.1 * step.2 : Nat) :=
    Nat.cast_pos.mpr (Nat.mul_pos someUnit positiveStep)
  have stepPositive : 0 < 1 * step.1 * unit.2 := by
    rw [one_mul]
    exact Nat.mul_pos someStep positiveUnit
  have lower := Nat.div_mul_le_self (interval.middle * unit.1 * step.2) (1 * step.1 * unit.2)
  have upper := Nat.lt_mul_div_succ (interval.middle * unit.1 * step.2) stepPositive
  unfold nearestMultiple?
  dsimp only
  generalize interval.middle * unit.1 * step.2 / (1 * step.1 * unit.2) = floor at *
  have neighbours := next floor ?_ ?_
  · rw [← includes_iff someUnit positiveUnit positiveStep,
      ← includes_iff someUnit positiveUnit positiveStep] at neighbours
    split
    · split
      · split
        · rfl
        · split <;> rfl
      · rfl
    · next outside => rw [if_pos (neighbours.resolve_left outside)]; rfl
  · rw [mul_stepSize someUnit positiveUnit positiveStep, div_le_iff₀ positive]
    rw [one_mul, mul_assoc interval.middle, ← mul_assoc floor] at lower
    exact_mod_cast lower
  · rw [mul_stepSize someUnit positiveUnit positiveStep, lt_div_iff₀ positive]
    rw [one_mul, mul_assoc interval.middle, mul_comm (step.1 * unit.2), ← mul_assoc (floor + 1)]
      at upper
    exact_mod_cast upper

end

end

/-! ### Seventeen digits -/

section

variable {significand : Nat} {exponent : Int} {size : ℚ}

/-- Of two neighbouring multiples around a number one lies in its interval if they are less than a
unit apart; where the interval is narrower below the number, if they are less than half a unit
apart. -/
theorem holds_of_neighbours (some_ : 0 < significand) {floor : Nat}
    (fine : size < 2 ∨ significand ≠ significandBound / 2 ∧ size < 4)
    (lower : floor * size ≤ (roundingInterval significand exponent).middle)
    (upper : (roundingInterval significand exponent).middle < ((floor + 1 : Nat) : ℚ) * size) :
    (roundingInterval significand exponent).Holds (floor * size) ∨
      (roundingInterval significand exponent).Holds ((floor + 1 : Nat) * size) := by
  have middle : ((roundingInterval significand exponent).middle : ℚ) = 4 * significand := by
    rw [roundingInterval]
    push_cast
    rfl
  have high : ((roundingInterval significand exponent).high : ℚ) = 4 * significand + 2 := high_eq
  have low : ((roundingInterval significand exponent).low : ℚ) < 4 * significand :=
    (low_between some_).2
  rw [middle] at lower upper
  have step : ((floor + 1 : Nat) : ℚ) * size = floor * size + size := by
    push_cast
    ring
  rw [step] at upper ⊢
  rcases fine with half | ⟨other, whole⟩
  · right
    apply RoundingInterval.holds_of_inside <;> linarith
  · have wide : ((roundingInterval significand exponent).low : ℚ) = 4 * significand - 2 :=
      low_of_other some_ (.inl other)
    rcases lt_or_ge (4 * (significand : ℚ) - 2) (floor * size) with near | far
    · left
      apply RoundingInterval.holds_of_inside <;> linarith
    · right
      apply RoundingInterval.holds_of_inside <;> linarith

def Decimal.value (decimal : Decimal) : ℚ := decimal.digits * 10 ^ decimal.exponent

theorem stepSize_powers (exponent last : Int) :
    stepSize (powerRatio 2 (exponent - 2)) (powerRatio 10 last) = 10 ^ last / 2 ^ (exponent - 2) := by
  rw [stepSize, powerRatio_eq, powerRatio_eq]
  rfl

/-- With seventeen digits neighbouring decimals are close enough to each other. -/
theorem stepSize_fine (some_ : 0 < significand) (small : significand < significandBound) :
    let unit := powerRatio 2 (exponent - 2)
    let size := stepSize unit
      (powerRatio 10 (decimalPlaces (4 * significand * unit.1) unit.2 - (16 : Nat) - 1))
    size < 2 ∨ significand ≠ significandBound / 2 ∧ size < 4 := by
  dsimp only
  obtain ⟨unitTop, unitBottom⟩ := powerRatio_two_pos (exponent - 2)
  have quarter : (0 : ℚ) < 2 ^ (exponent - 2) := zpow_pos two_pos _
  have places := le_of_decimalPlaces (Nat.mul_pos (Nat.mul_pos four_pos some_) unitTop) unitBottom
  rw [Nat.cast_mul, mul_div_assoc, powerRatio_eq, Nat.cast_mul] at places
  generalize decimalPlaces _ _ = count at *
  have split_ : (10 : ℚ) ^ (count - (16 : Nat) - 1) * 10 ^ (16 : ℤ) = 10 ^ (count - 1) := by
    rw [← zpow_add₀ (by norm_num)]
    congr 1
    push_cast
    ring
  have bound : stepSize (powerRatio 2 (exponent - 2)) (powerRatio 10 (count - (16 : Nat) - 1)) *
      10 ^ (16 : ℤ) ≤ 4 * significand := by
    rw [stepSize_powers, div_mul_eq_mul_div, split_, div_le_iff₀ quarter]
    exact_mod_cast places
  generalize stepSize _ _ = size at *
  have scale : (0 : ℚ) ≤ 10 ^ (16 : ℤ) := (ten_pow_pos 16).le
  by_cases power : significand = significandBound / 2
  · left
    refine lt_of_mul_lt_mul_right ?_ scale
    calc size * 10 ^ (16 : ℤ) ≤ 4 * significand := bound
      _ = 4 * 2 ^ (52 : ℤ) := by rw [power, halfBound_eq]
      _ < 2 * 10 ^ (16 : ℤ) := by norm_num
  · right
    refine ⟨power, lt_of_mul_lt_mul_right ?_ scale⟩
    calc size * 10 ^ (16 : ℤ) ≤ 4 * significand := bound
      _ ≤ 4 * significandBound := by exact_mod_cast (by omega : 4 * significand ≤ 4 * significandBound)
      _ < 4 * 10 ^ (16 : ℤ) := by norm_num [significandBound]

theorem isAround_shortest (some_ : 0 < significand) (small : significand < significandBound) :
    IsAround significand exponent (shortest significand exponent).value := by
  obtain ⟨unitTop, unitBottom⟩ := powerRatio_two_pos (exponent - 2)
  have stepTop (last : Int) : 0 < (powerRatio 10 last).1 := Nat.pow_pos (by decide)
  have stepBottom (last : Int) : 0 < (powerRatio 10 last).2 := Nat.pow_pos (by decide)
  unfold shortest
  dsimp only
  generalize attempts : List.findSome? _ (List.range 17) = chosen
  cases chosen with
  | none =>
    rw [List.findSome?_eq_none_iff] at attempts
    have last := attempts 16 (by decide)
    rw [Option.map_eq_none_iff, ← Option.not_isSome_iff_eq_none] at last
    refine absurd (nearestMultiple?_isSome unitTop unitBottom (stepBottom _) ?_ (stepTop _)) last
    intro floor lower upper
    exact holds_of_neighbours some_ (stepSize_fine some_ small) lower upper
  | some decimal =>
    obtain ⟨count, -, attempt⟩ := List.exists_of_findSome?_eq_some attempts
    obtain ⟨digits, found, rfl⟩ := Option.map_eq_some_iff.mp attempt
    have holds := holds_of_nearestMultiple? unitTop unitBottom (stepBottom _) found
    rw [stepSize_powers, ← mul_div_assoc] at holds
    exact holds

/-! ### Reading a decimal -/

theorem leastDecimal_small : (10 : ℚ) ^ leastDecimal ≤ 1 / 2 * 2 ^ leastExponent := by
  have inNat : 2 * 2 ^ 1074 ≤ 10 ^ 330 := by decide +kernel
  have cast : (2 : ℚ) * 2 ^ 1074 ≤ 10 ^ 330 := by exact_mod_cast inNat
  change (10 : ℚ) ^ (-(330 : ℕ) : ℤ) ≤ 1 / 2 * 2 ^ (-(1074 : ℕ) : ℤ)
  rw [zpow_neg, zpow_neg, zpow_natCast, zpow_natCast, one_div, ← mul_inv]
  exact inv_anti₀ (by positivity) cast

theorem greatestDecimal_large :
    (2 : ℚ) ^ (53 : ℤ) * 2 ^ greatestExponent < 10 ^ (greatestDecimal - 1) := by
  have inNat : 2 ^ 53 * 2 ^ 971 < 10 ^ 309 := by decide +kernel
  change (2 : ℚ) ^ ((53 : ℕ) : ℤ) * 2 ^ ((971 : ℕ) : ℤ) < 10 ^ ((309 : ℕ) : ℤ)
  rw [zpow_natCast, zpow_natCast, zpow_natCast]
  exact_mod_cast inNat

/-- What is around a finite number is neither so small nor so large that its digits do not count. -/
theorem IsAround.bounds {negative : Bool} {quotient : ℚ}
    (around : IsAround significand exponent quotient) (some_ : 0 < significand)
    (isFinite : (finite negative significand exponent).IsFinite) :
    (10 : ℚ) ^ leastDecimal ≤ quotient ∧ quotient < 10 ^ (greatestDecimal - 1) := by
  obtain ⟨small, least, greatest⟩ := isFinite
  obtain ⟨lower, upper, -⟩ := around.near some_
  have unit : (0 : ℚ) < 2 ^ exponent := zpow_pos two_pos exponent
  have one_le : (1 : ℚ) ≤ significand := by exact_mod_cast some_
  have less : (significand : ℚ) + 1 ≤ 2 ^ (53 : ℤ) := by
    rw [← significandBound_eq]
    exact_mod_cast small
  rw [← div_mul_cancel₀ quotient unit.ne']
  generalize quotient / 2 ^ exponent = units at *
  constructor
  · calc (10 : ℚ) ^ leastDecimal ≤ 1 / 2 * 2 ^ leastExponent := leastDecimal_small
      _ ≤ 1 / 2 * 2 ^ exponent :=
          mul_le_mul_of_nonneg_left (zpow_le_zpow_right₀ one_le_two least) (by norm_num)
      _ ≤ units * 2 ^ exponent := mul_le_mul_of_nonneg_right (by linarith) unit.le
  · calc units * 2 ^ exponent < 2 ^ (53 : ℤ) * 2 ^ exponent :=
          mul_lt_mul_of_pos_right (by linarith) unit
      _ ≤ 2 ^ (53 : ℤ) * 2 ^ greatestExponent :=
          mul_le_mul_of_nonneg_left (zpow_le_zpow_right₀ one_le_two greatest) (by norm_num)
      _ < 10 ^ (greatestDecimal - 1) := greatestDecimal_large

theorem IsAround.digits_pos {decimal : Decimal}
    (around : IsAround significand exponent decimal.value) (some_ : 0 < significand) :
    0 < decimal.digits := by
  refine Nat.pos_of_ne_zero fun none => ?_
  obtain ⟨lower, -⟩ := around.near some_
  have one_le : (1 : ℚ) ≤ significand := by exact_mod_cast some_
  rw [Decimal.value, none, Nat.cast_zero, zero_mul, zero_div] at lower
  linarith

/-- A decimal around a number is read as that number. -/
theorem ofDecimal_of_isAround {negative : Bool} {decimal : Decimal} (some_ : 0 < significand)
    (normalized : (finite negative significand exponent).IsNormalized)
    (around : IsAround significand exponent decimal.value) :
    ofDecimal negative decimal.digits decimal.exponent = finite negative significand exponent := by
  have someDigits := around.digits_pos some_
  obtain ⟨digits, power⟩ := decimal
  obtain ⟨lower, upper⟩ := around.bounds some_ normalized.1
  rw [Decimal.value] at around lower upper
  dsimp only at someDigits around lower upper ⊢
  obtain ⟨leastLength, greatestLength⟩ := decimalLength_spec someDigits
  rw [decimalLength, if_neg someDigits.ne'] at leastLength greatestLength
  have enough : ¬ ((Nat.toDigits 10 digits).length : ℤ) + power < leastDecimal := by
    intro few
    have less : (digits : ℚ) * 10 ^ power < 10 ^ leastDecimal :=
      calc (digits : ℚ) * 10 ^ power < 10 ^ ((Nat.toDigits 10 digits).length : ℤ) * 10 ^ power :=
            mul_lt_mul_of_pos_right greatestLength (ten_pow_pos power)
        _ = 10 ^ (((Nat.toDigits 10 digits).length : ℤ) + power) :=
            (zpow_add₀ (by norm_num) _ _).symm
        _ ≤ 10 ^ leastDecimal := ten_pow_le few.le
    exact lower.not_gt less
  have notMore : ¬ greatestDecimal < ((Nat.toDigits 10 digits).length : ℤ) + power := by
    intro many
    have more : (10 : ℚ) ^ (greatestDecimal - 1) ≤ digits * 10 ^ power :=
      calc (10 : ℚ) ^ (greatestDecimal - 1)
          ≤ 10 ^ (((Nat.toDigits 10 digits).length : ℤ) - 1 + power) := ten_pow_le (by omega)
        _ = 10 ^ (((Nat.toDigits 10 digits).length : ℤ) - 1) * 10 ^ power :=
            zpow_add₀ (by norm_num) _ _
        _ ≤ digits * 10 ^ power := mul_le_mul_of_nonneg_right leastLength (ten_pow_pos power).le
    exact more.not_gt upper
  have scaleTop : 0 < (powerRatio 10 power).1 := Nat.pow_pos (by decide)
  have scaleBottom : 0 < (powerRatio 10 power).2 := Nat.pow_pos (by decide)
  unfold ofDecimal
  dsimp only
  rw [if_neg (by simp [someDigits.ne', enough]), if_neg notMore]
  refine ofRatio_of_isAround some_ (Nat.mul_pos someDigits scaleTop) scaleBottom normalized ?_
  rwa [Nat.cast_mul, mul_div_assoc, powerRatio_eq]

/-- Every decimal with the value of the shortest one of a number is read as that number. -/
theorem ofDecimal_eq {negative : Bool} {decimal : Decimal} (some_ : 0 < significand)
    (normalized : (finite negative significand exponent).IsNormalized)
    (same : decimal.value = (shortest significand exponent).value) :
    ofDecimal negative decimal.digits decimal.exponent = finite negative significand exponent := by
  apply ofDecimal_of_isAround some_ normalized
  rw [same]
  exact isAround_shortest some_ normalized.1.1

end

end StorageLayout.Binary64
