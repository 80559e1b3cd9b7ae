import Mathlib.Algebra.Order.Field.Power
import Mathlib.Data.Rat.Cast.Order
import Mathlib.Tactic.FieldSimp
import Mathlib.Tactic.Linarith
import Mathlib.Tactic.Positivity
import Mathlib.Tactic.Ring
import StorageLayout.Number.Binary64

namespace StorageLayout.Binary64

theorem powerRatio_eq {base : Nat} (exponent : Int) :
    ((powerRatio base exponent).1 : ℚ) / (powerRatio base exponent).2 = (base : ℚ) ^ exponent := by
  have power (count : Nat) : ((Nat.pow base count : Nat) : ℚ) = (base : ℚ) ^ count := by
    rw [Nat.pow_eq, Nat.cast_pow]
  unfold powerRatio
  rcases Int.le_total 0 exponent with positive | negative
  · obtain ⟨count, rfl⟩ := Int.eq_ofNat_of_zero_le positive
    have none : (-(count : Int)).toNat = 0 := by omega
    rw [none, Int.toNat_natCast, power, power, pow_zero, div_one, zpow_natCast]
  · obtain ⟨count, rfl⟩ : ∃ count : Nat, exponent = -count := ⟨(-exponent).toNat, by omega⟩
    have none : (-(count : Int)).toNat = 0 := by omega
    rw [none, neg_neg, Int.toNat_natCast, power, power, pow_zero, zpow_neg, zpow_natCast, one_div]

theorem powerRatio_two_eq (exponent : Int) :
    ((powerRatio 2 exponent).1 : ℚ) / (powerRatio 2 exponent).2 = 2 ^ exponent :=
  powerRatio_eq exponent

/-- Rounding goes to the nearest integer; to an odd one only if no other is as near. -/
theorem roundHalfEven_spec (numerator : Nat) {denominator : Nat} (positive : 0 < denominator) :
    let rounded := roundHalfEven numerator denominator * denominator
    2 * rounded ≤ 2 * numerator + denominator ∧ 2 * numerator ≤ 2 * rounded + denominator ∧
      (roundHalfEven numerator denominator % 2 = 1 →
        2 * rounded < 2 * numerator + denominator ∧ 2 * numerator < 2 * rounded + denominator) := by
  have parts := Nat.div_add_mod' numerator denominator
  have small := Nat.mod_lt numerator positive
  have next := Nat.succ_mul (numerator / denominator) denominator
  dsimp only
  unfold roundHalfEven
  dsimp only
  split
  · omega
  · split
    · rw [Nat.add_one, next]
      omega
    · split
      · omega
      · rw [Nat.add_one, next]
        omega

private theorem roundHalfEven_bounds (numerator : Nat) {denominator : Nat}
    (positive : 0 < denominator) :
    2 * (roundHalfEven numerator denominator : ℚ) ≤ 2 * ((numerator : ℚ) / denominator) + 1 ∧
      2 * ((numerator : ℚ) / denominator) ≤ 2 * roundHalfEven numerator denominator + 1 ∧
      (roundHalfEven numerator denominator % 2 = 1 →
        2 * (roundHalfEven numerator denominator : ℚ) < 2 * ((numerator : ℚ) / denominator) + 1 ∧
          2 * ((numerator : ℚ) / denominator) < 2 * roundHalfEven numerator denominator + 1) := by
  obtain ⟨upper, lower, strict⟩ := roundHalfEven_spec numerator positive
  have positiveRat : (0 : ℚ) < denominator := Nat.cast_pos.mpr positive
  have scaled : (numerator : ℚ) = (numerator : ℚ) / denominator * denominator :=
    (div_mul_cancel₀ _ positiveRat.ne').symm
  generalize roundHalfEven numerator denominator = rounded at *
  generalize (numerator : ℚ) / denominator = quotient at *
  refine ⟨?_, ?_, ?_⟩
  · have cast : (2 * (rounded * denominator) : ℚ) ≤ 2 * numerator + denominator := by
      exact_mod_cast upper
    rw [scaled] at cast
    apply le_of_mul_le_mul_right _ positiveRat
    linarith
  · have cast : (2 * numerator : ℚ) ≤ 2 * (rounded * denominator) + denominator := by
      exact_mod_cast lower
    rw [scaled] at cast
    apply le_of_mul_le_mul_right _ positiveRat
    linarith
  · intro odd
    obtain ⟨upperStrict, lowerStrict⟩ := strict odd
    have castUpper : (2 * (rounded * denominator) : ℚ) < 2 * numerator + denominator := by
      exact_mod_cast upperStrict
    have castLower : (2 * numerator : ℚ) < 2 * (rounded * denominator) + denominator := by
      exact_mod_cast lowerStrict
    rw [scaled] at castUpper castLower
    constructor
    · apply lt_of_mul_lt_mul_right _ positiveRat.le
      linarith
    · apply lt_of_mul_lt_mul_right _ positiveRat.le
      linarith

theorem roundHalfEven_mono {numerator denominator above below : Nat} (positive : 0 < denominator)
    (positiveAbove : 0 < below)
    (le : (numerator : ℚ) / denominator ≤ (above : ℚ) / below) :
    roundHalfEven numerator denominator ≤ roundHalfEven above below := by
  obtain ⟨upper, -, strict⟩ := roundHalfEven_bounds numerator positive
  obtain ⟨-, lower, strictAbove⟩ := roundHalfEven_bounds above positiveAbove
  by_contra greater
  have step : roundHalfEven above below + 1 ≤ roundHalfEven numerator denominator := by omega
  have stepRat : (roundHalfEven above below : ℚ) + 1 ≤ roundHalfEven numerator denominator := by
    exact_mod_cast step
  -- Both quotients lie in the middle between neighbours, one of which is odd.
  have neighbours : (roundHalfEven numerator denominator : ℚ) = roundHalfEven above below + 1 := by
    linarith
  have same : roundHalfEven numerator denominator = roundHalfEven above below + 1 := by
    exact_mod_cast neighbours
  rcases Nat.mod_two_eq_zero_or_one (roundHalfEven above below) with even | odd
  · have oddAbove : roundHalfEven numerator denominator % 2 = 1 := by omega
    linarith [(strict oddAbove).1]
  · linarith [(strictAbove odd).2]

/-- An integer that is as near to a quotient as any other is what it is rounded to; an odd one has
to be nearer than any other. -/
theorem roundHalfEven_eq {numerator denominator nearest : Nat} (positive : 0 < denominator)
    (lower : 2 * (nearest : ℚ) ≤ 2 * ((numerator : ℚ) / denominator) + 1)
    (upper : 2 * ((numerator : ℚ) / denominator) ≤ 2 * nearest + 1)
    (strict : nearest % 2 = 1 → 2 * (nearest : ℚ) < 2 * ((numerator : ℚ) / denominator) + 1 ∧
      2 * ((numerator : ℚ) / denominator) < 2 * nearest + 1) :
    roundHalfEven numerator denominator = nearest := by
  obtain ⟨above, below, strictRounded⟩ := roundHalfEven_bounds numerator positive
  generalize roundHalfEven numerator denominator = rounded at *
  generalize (numerator : ℚ) / denominator = quotient at *
  -- Two different integers that are both nearest are neighbours, one of which is odd.
  rcases lt_trichotomy rounded nearest with less | same | more
  · have step : (rounded : ℚ) + 1 ≤ nearest := by exact_mod_cast less
    have neighbours : (nearest : ℚ) = rounded + 1 := by linarith
    have next : nearest = rounded + 1 := by exact_mod_cast neighbours
    rcases Nat.mod_two_eq_zero_or_one nearest with even | odd
    · linarith [(strictRounded (by omega)).2]
    · linarith [(strict odd).1]
  · exact same
  · have step : (nearest : ℚ) + 1 ≤ rounded := by exact_mod_cast more
    have neighbours : (rounded : ℚ) = nearest + 1 := by linarith
    have next : rounded = nearest + 1 := by exact_mod_cast neighbours
    rcases Nat.mod_two_eq_zero_or_one nearest with even | odd
    · linarith [(strictRounded (by omega)).1]
    · linarith [(strict odd).2]

theorem roundHalfEven_le {numerator denominator bound : Nat} (positive : 0 < denominator)
    (le : (numerator : ℚ) / denominator ≤ bound) : roundHalfEven numerator denominator ≤ bound := by
  obtain ⟨upper, -, -⟩ := roundHalfEven_bounds numerator positive
  have twice : (2 * roundHalfEven numerator denominator : ℚ) ≤ 2 * bound + 1 := by linarith
  have twiceNat : 2 * roundHalfEven numerator denominator ≤ 2 * bound + 1 := by exact_mod_cast twice
  omega

theorem le_roundHalfEven {numerator denominator bound : Nat} (positive : 0 < denominator)
    (le : (bound : ℚ) ≤ (numerator : ℚ) / denominator) :
    bound ≤ roundHalfEven numerator denominator := by
  obtain ⟨-, lower, -⟩ := roundHalfEven_bounds numerator positive
  have twice : (2 * bound : ℚ) ≤ 2 * roundHalfEven numerator denominator + 1 := by linarith
  have twiceNat : 2 * bound ≤ 2 * roundHalfEven numerator denominator + 1 := by exact_mod_cast twice
  omega

theorem significandBound_eq : (significandBound : ℚ) = 2 ^ (53 : ℤ) := by
  norm_num [significandBound]

theorem halfBound_eq : ((significandBound / 2 : Nat) : ℚ) = 2 ^ (52 : ℤ) := by
  norm_num [significandBound]

private theorem power_lt {smaller larger : ℤ} (lt : smaller < larger) :
    (2 : ℚ) ^ smaller < 2 ^ larger := (zpow_lt_zpow_iff_right₀ one_lt_two).mpr lt

private theorem power_le {smaller larger : ℤ} (le : smaller ≤ larger) :
    (2 : ℚ) ^ smaller ≤ 2 ^ larger := (zpow_le_zpow_iff_right₀ one_lt_two).mpr le

private theorem power_pos (exponent : ℤ) : (0 : ℚ) < 2 ^ exponent := zpow_pos two_pos exponent

private theorem power_add (left right : ℤ) : (2 : ℚ) ^ (left + right) = 2 ^ left * 2 ^ right :=
  zpow_add₀ two_ne_zero left right

/-- A quotient in units of a power of two. -/
theorem quotient_in_units (numerator denominator : Nat) (exponent : Int) :
    ((numerator * (powerRatio 2 exponent).2 : Nat) : ℚ) /
        (denominator * (powerRatio 2 exponent).1 : Nat) =
      (numerator : ℚ) / denominator / 2 ^ exponent := by
  rw [← powerRatio_two_eq, Nat.cast_mul, Nat.cast_mul, div_div_eq_mul_div, div_mul_eq_mul_div,
    div_div]

section

variable {numerator denominator : Nat} (some_ : 0 < numerator) (positive : 0 < denominator)

include positive in
theorem units_pos (exponent : Int) : 0 < denominator * (powerRatio 2 exponent).1 :=
  Nat.mul_pos positive (powerRatio_two_pos exponent).1

include positive in
theorem unitsBelow_lt_iff (exponent : Int) :
    unitsBelow numerator denominator exponent < significandBound ↔
      (numerator : ℚ) / denominator < 2 ^ (53 + exponent) := by
  have unitPos := units_pos positive exponent
  have unitPosRat : (0 : ℚ) < (denominator * (powerRatio 2 exponent).1 : Nat) :=
    Nat.cast_pos.mpr unitPos
  rw [power_add, ← significandBound_eq, ← div_lt_iff₀ (power_pos exponent), ← quotient_in_units,
    div_lt_iff₀ unitPosRat, unitsBelow, Nat.div_lt_iff_lt_mul unitPos]
  exact_mod_cast Iff.rfl

include some_ positive

theorem quotient_between :
    (2 : ℚ) ^ ((numerator.log2 : ℤ) - denominator.log2 - 1) ≤ (numerator : ℚ) / denominator ∧
      (numerator : ℚ) / denominator < 2 ^ ((numerator.log2 : ℤ) - denominator.log2 + 1) := by
  have cast (count : Nat) : ((2 ^ count : Nat) : ℚ) = 2 ^ (count : ℤ) := by
    rw [zpow_natCast, Nat.cast_pow, Nat.cast_ofNat]
  have lower : (2 : ℚ) ^ (numerator.log2 : ℤ) ≤ numerator := by
    rw [← cast]
    exact_mod_cast Nat.log2_self_le some_.ne'
  have upper : (numerator : ℚ) < 2 ^ ((numerator.log2 : ℤ) + 1) := by
    have bound := cast (numerator.log2 + 1)
    rw [Nat.cast_add, Nat.cast_one] at bound
    rw [← bound]
    exact_mod_cast Nat.lt_log2_self
  have lowerBelow : (2 : ℚ) ^ (denominator.log2 : ℤ) ≤ denominator := by
    rw [← cast]
    exact_mod_cast Nat.log2_self_le positive.ne'
  have upperBelow : (denominator : ℚ) ≤ 2 ^ ((denominator.log2 : ℤ) + 1) := by
    have bound := cast (denominator.log2 + 1)
    rw [Nat.cast_add, Nat.cast_one] at bound
    rw [← bound]
    exact_mod_cast Nat.lt_log2_self.le
  have positiveRat : (0 : ℚ) < denominator := Nat.cast_pos.mpr positive
  constructor
  · rw [le_div_iff₀ positiveRat]
    calc (2 : ℚ) ^ ((numerator.log2 : ℤ) - denominator.log2 - 1) * denominator
        ≤ 2 ^ ((numerator.log2 : ℤ) - denominator.log2 - 1) * 2 ^ ((denominator.log2 : ℤ) + 1) :=
          mul_le_mul_of_nonneg_left upperBelow (power_pos _).le
      _ = 2 ^ (numerator.log2 : ℤ) := by
          rw [← power_add]
          congr 1
          omega
      _ ≤ numerator := lower
  · rw [div_lt_iff₀ positiveRat]
    calc (numerator : ℚ) < 2 ^ ((numerator.log2 : ℤ) + 1) := upper
      _ = 2 ^ ((numerator.log2 : ℤ) - denominator.log2 + 1) * 2 ^ (denominator.log2 : ℤ) := by
          rw [← power_add]
          congr 1
          omega
      _ ≤ 2 ^ ((numerator.log2 : ℤ) - denominator.log2 + 1) * denominator :=
          mul_le_mul_of_nonneg_left lowerBelow (power_pos _).le

/-- The unit is the largest one in which a quotient takes all bits, unless that is too small. -/
theorem unitExponent_spec :
    leastExponent ≤ unitExponent numerator denominator ∧
      (numerator : ℚ) / denominator < 2 ^ (53 + unitExponent numerator denominator) ∧
      (unitExponent numerator denominator = leastExponent ∨
        (2 : ℚ) ^ (52 + unitExponent numerator denominator) ≤ (numerator : ℚ) / denominator) := by
  obtain ⟨lower, upper⟩ := quotient_between some_ positive
  unfold unitExponent
  dsimp only
  have least := le_max_right ((numerator.log2 : ℤ) - denominator.log2 - 53) leastExponent
  have near := le_max_left ((numerator.log2 : ℤ) - denominator.log2 - 53) leastExponent
  have chosen := max_choice ((numerator.log2 : ℤ) - denominator.log2 - 53) leastExponent
  generalize max ((numerator.log2 : ℤ) - denominator.log2 - 53) leastExponent = guess at *
  by_cases fits : unitsBelow numerator denominator guess < significandBound
  · rw [if_pos fits]
    refine ⟨least, (unitsBelow_lt_iff positive guess).mp fits, ?_⟩
    rcases chosen with exact_ | clipped
    · right
      exact (power_le (by omega)).trans lower
    · exact .inl clipped
  · rw [if_neg fits]
    rw [unitsBelow_lt_iff positive, not_lt] at fits
    refine ⟨by omega, upper.trans_le (power_le (by omega)), .inr ?_⟩
    exact (power_le (by omega)).trans fits

end

def value : Binary64 → ℚ
  | finite negative significand exponent =>
    if negative then -(significand * 2 ^ exponent) else significand * 2 ^ exponent
  | _ => 0

def IsFinite : Binary64 → Prop
  | finite _ significand exponent =>
    significand < significandBound ∧ leastExponent ≤ exponent ∧ exponent ≤ greatestExponent
  | _ => False

def unitsOf (numerator denominator : Nat) : Nat :=
  roundHalfEven (numerator * (powerRatio 2 (unitExponent numerator denominator)).2)
    (denominator * (powerRatio 2 (unitExponent numerator denominator)).1)

/-- A quotient rounded to as many bits as numbers have, however large it is. -/
def rounded (numerator denominator : Nat) : ℚ :=
  unitsOf numerator denominator * 2 ^ unitExponent numerator denominator

def infiniteFrom : ℚ := 2 ^ (1024 : ℤ)

theorem rounded_nonneg (numerator denominator : Nat) : 0 ≤ rounded numerator denominator :=
  mul_nonneg (Nat.cast_nonneg _) (power_pos _).le

section

variable {numerator denominator : Nat} (some_ : 0 < numerator) (positive : 0 < denominator)

include some_ positive

theorem unitsOf_le : unitsOf numerator denominator ≤ significandBound := by
  obtain ⟨-, upper, -⟩ := unitExponent_spec some_ positive
  apply roundHalfEven_le (units_pos positive _)
  rw [quotient_in_units, significandBound_eq, div_le_iff₀ (power_pos _), ← power_add]
  exact upper.le

omit some_ in
theorem le_unitsOf
    (large : (2 : ℚ) ^ (52 + unitExponent numerator denominator) ≤ (numerator : ℚ) / denominator) :
    2 ^ 52 ≤ unitsOf numerator denominator := by
  apply le_roundHalfEven (units_pos positive _)
  rw [quotient_in_units, le_div_iff₀ (power_pos _)]
  rw [power_add] at large
  exact_mod_cast large

theorem rounded_le :
    rounded numerator denominator ≤ 2 ^ (53 + unitExponent numerator denominator) := by
  have units : (unitsOf numerator denominator : ℚ) ≤ 2 ^ (53 : ℤ) := by
    rw [← significandBound_eq]
    exact_mod_cast unitsOf_le some_ positive
  rw [power_add]
  exact mul_le_mul_of_nonneg_right units (power_pos _).le

omit some_ in
theorem le_rounded
    (large : (2 : ℚ) ^ (52 + unitExponent numerator denominator) ≤ (numerator : ℚ) / denominator) :
    2 ^ (52 + unitExponent numerator denominator) ≤ rounded numerator denominator := by
  have units : (2 : ℚ) ^ (52 : ℤ) ≤ unitsOf numerator denominator := by
    exact_mod_cast le_unitsOf positive large
  rw [power_add]
  exact mul_le_mul_of_nonneg_right units (power_pos _).le

omit some_ positive in
theorem rounded_lt (below : unitsOf numerator denominator < significandBound) :
    rounded numerator denominator < 2 ^ (53 + unitExponent numerator denominator) := by
  have units : (unitsOf numerator denominator : ℚ) < 2 ^ (53 : ℤ) := by
    rw [← significandBound_eq]
    exact_mod_cast below
  rw [power_add]
  exact mul_lt_mul_of_pos_right units (power_pos _)

omit some_ positive in
/-- Units that fill all bits are half as many of the next size. -/
theorem rounded_carried (carried : unitsOf numerator denominator = significandBound) :
    rounded numerator denominator = 2 ^ (53 + unitExponent numerator denominator) ∧
      (significandBound / 2 : Nat) * 2 ^ (unitExponent numerator denominator + 1) =
        rounded numerator denominator := by
  have value : rounded numerator denominator =
      2 ^ (53 + unitExponent numerator denominator) := by
    rw [rounded, carried, significandBound_eq, power_add]
  refine ⟨value, ?_⟩
  rw [value, halfBound_eq, ← power_add]
  congr 1
  omega

theorem rounded_mono {above below : Nat} (someAbove : 0 < above) (positiveAbove : 0 < below)
    (le : (numerator : ℚ) / denominator ≤ (above : ℚ) / below) :
    rounded numerator denominator ≤ rounded above below := by
  obtain ⟨least, -, normal⟩ := unitExponent_spec some_ positive
  obtain ⟨leastAbove, upperAbove, normalAbove⟩ := unitExponent_spec someAbove positiveAbove
  rcases lt_trichotomy (unitExponent numerator denominator) (unitExponent above below) with
    smaller | same | larger
  · -- The larger quotient has all bits in its unit, which is at least twice the other one.
    have large := normalAbove.resolve_left (by omega)
    calc rounded numerator denominator
        ≤ 2 ^ (53 + unitExponent numerator denominator) := rounded_le some_ positive
      _ ≤ 2 ^ (52 + unitExponent above below) := power_le (by omega)
      _ ≤ rounded above below := le_rounded positiveAbove large
  · have units : unitsOf numerator denominator ≤ unitsOf above below := by
      apply roundHalfEven_mono (units_pos positive _) (units_pos positiveAbove _)
      rw [quotient_in_units, quotient_in_units, same]
      exact div_le_div_of_nonneg_right le (power_pos _).le
    rw [rounded, rounded, same]
    exact mul_le_mul_of_nonneg_right (Nat.cast_le.mpr units) (power_pos _).le
  · have large := normal.resolve_left (by omega)
    have impossible := (large.trans le).trans_lt upperAbove
    rw [zpow_lt_zpow_iff_right₀ one_lt_two] at impossible
    omega

omit positive in
theorem ofRatio_eq (negative : Bool) :
    ofRatio negative numerator denominator =
      if greatestExponent < (if unitsOf numerator denominator = significandBound then
          unitExponent numerator denominator + 1 else unitExponent numerator denominator) then
        infinite negative
      else
        finite negative
          (if unitsOf numerator denominator = significandBound then significandBound / 2
            else unitsOf numerator denominator)
          (if unitsOf numerator denominator = significandBound then
            unitExponent numerator denominator + 1 else unitExponent numerator denominator) := by
  rw [ofRatio, if_neg some_.ne']
  rfl

/-- A quotient is rounded to a finite number, unless it is too large. -/
theorem ofRatio_cases (negative : Bool) :
    infiniteFrom ≤ rounded numerator denominator ∧
        ofRatio negative numerator denominator = infinite negative ∨
      rounded numerator denominator < infiniteFrom ∧
        ∃ significand exponent, ofRatio negative numerator denominator =
            finite negative significand exponent ∧
          IsFinite (finite negative significand exponent) ∧
          significand * 2 ^ exponent = rounded numerator denominator := by
  have atMost := unitsOf_le some_ positive
  obtain ⟨least, -, normal⟩ := unitExponent_spec some_ positive
  rw [ofRatio_eq some_]
  by_cases carried : unitsOf numerator denominator = significandBound
  · obtain ⟨value, half⟩ := rounded_carried carried
    simp only [if_pos carried]
    by_cases tooLarge : greatestExponent < unitExponent numerator denominator + 1
    · rw [if_pos tooLarge, value]
      unfold greatestExponent at tooLarge
      exact .inl ⟨power_le (by omega), rfl⟩
    · rw [if_neg tooLarge]
      have inRange : significandBound / 2 < significandBound := by decide
      refine .inr ⟨?_, _, _, rfl, ⟨inRange, by omega, by omega⟩, half⟩
      unfold greatestExponent at tooLarge
      exact value.trans_lt (power_lt (by omega))
  · have below : unitsOf numerator denominator < significandBound := by omega
    simp only [if_neg carried]
    by_cases tooLarge : greatestExponent < unitExponent numerator denominator
    · rw [if_pos tooLarge]
      unfold greatestExponent at tooLarge
      have large := normal.resolve_left (by unfold leastExponent; omega)
      refine .inl ⟨?_, rfl⟩
      calc infiniteFrom ≤ 2 ^ (52 + unitExponent numerator denominator) := power_le (by omega)
        _ ≤ rounded numerator denominator := le_rounded positive large
    · rw [if_neg tooLarge]
      refine .inr ⟨?_, _, _, rfl, ⟨below, least, by omega⟩, rfl⟩
      unfold greatestExponent at tooLarge
      calc rounded numerator denominator
          < 2 ^ (53 + unitExponent numerator denominator) := rounded_lt below
        _ ≤ infiniteFrom := power_le (by omega)

end

/-- Whether a number lies above a value. -/
def Exceeds (bound : ℚ) : Binary64 → Prop
  | nan => False
  | infinite negative => negative = false
  | number => bound < number.value

theorem exceeds_finite {bound : ℚ} {negative : Bool} {significand : Nat} {exponent : Int} :
    Exceeds bound (finite negative significand exponent) ↔
      bound < (finite negative significand exponent).value := Iff.rfl

theorem Exceeds.mono {bound lower : ℚ} {number : Binary64} (exceeds : Exceeds bound number)
    (le : lower ≤ bound) : Exceeds lower number := by
  cases number with
  | nan => exact exceeds
  | infinite negative => exact exceeds
  | finite negative significand exponent => exact le.trans_lt exceeds

theorem toRatio?_finite (negative : Bool) (significand : Nat) (exponent : Int) :
    ∃ numerator denominator, (finite negative significand exponent).toRatio? =
        some (numerator, denominator) ∧ 0 < denominator ∧
      (numerator : ℚ) / denominator = (finite negative significand exponent).value := by
  refine ⟨_, _, rfl, (powerRatio_two_pos exponent).2, ?_⟩
  rw [value, ← powerRatio_two_eq]
  cases negative with
  | false =>
    rw [if_neg Bool.false_ne_true, if_neg Bool.false_ne_true]
    push_cast
    exact mul_div_assoc _ _ _
  | true =>
    rw [if_pos rfl, if_pos rfl]
    push_cast
    rw [neg_div, mul_div_assoc]

section

variable {bound : ℚ}

theorem exceeds_ofRatio {numerator denominator : Nat} (some_ : 0 < numerator)
    (positive : 0 < denominator) :
    Exceeds bound (ofRatio false numerator denominator) ↔
      infiniteFrom ≤ rounded numerator denominator ∨ bound < rounded numerator denominator := by
  rcases ofRatio_cases some_ positive false with
    ⟨large, made⟩ | ⟨small, units, unit, made, -, same⟩
  · rw [made]
    exact iff_of_true rfl (.inl large)
  · rw [made, exceeds_finite, value, if_neg Bool.false_ne_true, same, or_iff_right small.not_ge]

theorem exceeds_ofRatio_negative {numerator denominator : Nat} (some_ : 0 < numerator)
    (positive : 0 < denominator) :
    Exceeds bound (ofRatio true numerator denominator) ↔
      rounded numerator denominator < infiniteFrom ∧ bound < -rounded numerator denominator := by
  rcases ofRatio_cases some_ positive true with
    ⟨large, made⟩ | ⟨small, units, unit, made, -, same⟩
  · rw [made]
    exact iff_of_false (by simp [Exceeds]) fun both => large.not_gt both.1
  · rw [made, exceeds_finite, value, if_pos rfl, same, and_iff_right small]

theorem exceeds_zero {negative : Bool} :
    Exceeds bound (finite negative 0 leastExponent) ↔ bound < 0 := by
  rw [exceeds_finite, value]
  simp

theorem exceeds_ofSignedRatio {negative : Bool} {numerator : Int} {denominator : Nat}
    (positive : 0 < denominator) :
    Exceeds bound (ofSignedRatio negative numerator denominator) ↔
      (numerator = 0 ∧ bound < 0) ∨
      (0 < numerator ∧ (infiniteFrom ≤ rounded numerator.natAbs denominator ∨
        bound < rounded numerator.natAbs denominator)) ∨
      (numerator < 0 ∧ rounded numerator.natAbs denominator < infiniteFrom ∧
        bound < -rounded numerator.natAbs denominator) := by
  unfold ofSignedRatio
  rcases lt_trichotomy numerator 0 with below | rfl | above
  · have some_ : 0 < numerator.natAbs := by omega
    rw [if_neg below.ne, decide_eq_true below, exceeds_ofRatio_negative some_ positive]
    simp [below, below.ne, below.not_gt]
  · rw [if_pos rfl, exceeds_zero]
    simp
  · have some_ : 0 < numerator.natAbs := by omega
    rw [if_neg above.ne', decide_eq_false above.not_gt, exceeds_ofRatio some_ positive]
    simp [above, above.ne', above.not_gt]

private theorem cast_natAbs_of_pos {numerator : Int} (above : 0 < numerator) :
    ((numerator.natAbs : Nat) : ℚ) = numerator := by
  have same : ((numerator.natAbs : Nat) : Int) = numerator := by omega
  rw [← Int.cast_natCast, same]

private theorem cast_natAbs_of_neg {numerator : Int} (below : numerator < 0) :
    ((numerator.natAbs : Nat) : ℚ) = -numerator := by
  have same : ((numerator.natAbs : Nat) : Int) = -numerator := by omega
  rw [← Int.cast_natCast, same, Int.cast_neg]

/-- What lies below a rounded quotient lies below each larger one. -/
theorem exceeds_ofSignedRatio_mono {negative negativeAbove : Bool} {numerator above : Int}
    {denominator below : Nat} (positive : 0 < denominator) (positiveAbove : 0 < below)
    (le : (numerator : ℚ) / denominator ≤ (above : ℚ) / below)
    (exceeds : Exceeds bound (ofSignedRatio negative numerator denominator)) :
    Exceeds bound (ofSignedRatio negativeAbove above below) := by
  have positiveRat : (0 : ℚ) < denominator := Nat.cast_pos.mpr positive
  have positiveAboveRat : (0 : ℚ) < below := Nat.cast_pos.mpr positiveAbove
  rw [exceeds_ofSignedRatio positive] at exceeds
  rw [exceeds_ofSignedRatio positiveAbove]
  have size := rounded_nonneg above.natAbs below
  have nonneg (sign : 0 ≤ numerator) : 0 ≤ above := by
    have quotient : (0 : ℚ) ≤ numerator / denominator :=
      div_nonneg (Int.cast_nonneg_iff.mpr sign) positiveRat.le
    have scaled := (le_div_iff₀ positiveAboveRat).mp (quotient.trans le)
    rw [zero_mul] at scaled
    exact_mod_cast scaled
  have grows (sign : 0 < numerator) :
      0 < above ∧ rounded numerator.natAbs denominator ≤ rounded above.natAbs below := by
    have quotient : (0 : ℚ) < numerator / denominator :=
      div_pos (Int.cast_pos.mpr sign) positiveRat
    have signAbove : 0 < above := by
      refine lt_of_le_of_ne (nonneg sign.le) fun zero => ?_
      rw [← zero, Int.cast_zero, zero_div] at le
      exact quotient.not_ge le
    rw [← cast_natAbs_of_pos sign, ← cast_natAbs_of_pos signAbove] at le
    exact ⟨signAbove, rounded_mono (by omega) positive (by omega) positiveAbove le⟩
  rcases exceeds with ⟨rfl, low⟩ | ⟨sign, large | low⟩ | ⟨sign, small, low⟩
  · rcases (nonneg le_rfl).eq_or_lt with zero | positiveSign
    · exact .inl ⟨zero.symm, low⟩
    · exact .inr (.inl ⟨positiveSign, .inr (low.trans_le size)⟩)
  · obtain ⟨signAbove, more⟩ := grows sign
    exact .inr (.inl ⟨signAbove, .inl (large.trans more)⟩)
  · obtain ⟨signAbove, more⟩ := grows sign
    exact .inr (.inl ⟨signAbove, .inr (low.trans_le more)⟩)
  · have lowZero : bound < 0 := by linarith [rounded_nonneg numerator.natAbs denominator]
    rcases lt_trichotomy above 0 with signAbove | zero | signAbove
    · have shrinks : (above.natAbs : ℚ) / below ≤ (numerator.natAbs : ℚ) / denominator := by
        rw [cast_natAbs_of_neg sign, cast_natAbs_of_neg signAbove, neg_div, neg_div]
        exact neg_le_neg le
      have falls := rounded_mono (by omega) positiveAbove (by omega) positive shrinks
      exact .inr (.inr ⟨signAbove, falls.trans_lt small, by linarith⟩)
    · exact .inl ⟨zero, lowZero⟩
    · exact .inr (.inl ⟨signAbove, .inr (lowZero.trans_le size)⟩)

end

theorem IsFinite.cases {number : Binary64} (isFinite : number.IsFinite) :
    ∃ negative significand exponent, number = finite negative significand exponent := by
  cases number with
  | nan => exact isFinite.elim
  | infinite negative => exact isFinite.elim
  | finite negative significand exponent => exact ⟨_, _, _, rfl⟩

section

variable {number left right : Binary64}

theorem below_iff_exceeds (isFinite : left.IsFinite) :
    left.below right = true ↔ Exceeds left.value right := by
  obtain ⟨negative, significand, exponent, rfl⟩ := isFinite.cases
  cases right with
  | nan => simp [below, Exceeds]
  | infinite negativeRight => simp [below, Exceeds]
  | finite negativeRight significandRight exponentRight =>
    obtain ⟨numerator, denominator, ratio, positive, value⟩ :=
      toRatio?_finite negative significand exponent
    obtain ⟨numeratorRight, denominatorRight, ratioRight, positiveRight, valueRight⟩ :=
      toRatio?_finite negativeRight significandRight exponentRight
    rw [exceeds_finite, ← value, ← valueRight, div_lt_div_iff₀ (Nat.cast_pos.mpr positive)
      (Nat.cast_pos.mpr positiveRight)]
    simp only [below, ratio, ratioRight, decide_eq_true_eq]
    exact_mod_cast Iff.rfl

/-- A difference of finite numbers is the rounded difference of their values. -/
theorem sub_eq_ofSignedRatio (isFinite : left.IsFinite) (isFiniteRight : right.IsFinite) :
    ∃ negative numerator denominator,
      left.sub right = ofSignedRatio negative numerator denominator ∧ 0 < denominator ∧
        (numerator : ℚ) / denominator = left.value - right.value := by
  obtain ⟨negative, significand, exponent, rfl⟩ := isFinite.cases
  obtain ⟨negativeRight, significandRight, exponentRight, rfl⟩ := isFiniteRight.cases
  obtain ⟨numerator, denominator, ratio, positive, value⟩ :=
    toRatio?_finite negative significand exponent
  obtain ⟨numeratorRight, denominatorRight, ratioRight, positiveRight, valueRight⟩ :=
    toRatio?_finite negativeRight significandRight exponentRight
  refine ⟨negative && !negativeRight,
    numerator * denominatorRight - numeratorRight * denominator, denominator * denominatorRight,
    by simp only [sub, ratio, ratioRight, isNegative], Nat.mul_pos positive positiveRight, ?_⟩
  have nonzero : (denominator : ℚ) ≠ 0 := (Nat.cast_pos.mpr positive).ne'
  have nonzeroRight : (denominatorRight : ℚ) ≠ 0 := (Nat.cast_pos.mpr positiveRight).ne'
  rw [← value, ← valueRight]
  push_cast
  field_simp

/-- Rounding leaves a number alone. -/
theorem rounded_eq_self {numerator denominator significand : Nat} {exponent : Int}
    (some_ : 0 < numerator) (positive : 0 < denominator) (small : significand < significandBound)
    (least : leastExponent ≤ exponent) (greatest : exponent ≤ greatestExponent)
    (same : (numerator : ℚ) / denominator = significand * 2 ^ exponent) :
    rounded numerator denominator = significand * 2 ^ exponent ∧
      rounded numerator denominator < infiniteFrom := by
  obtain ⟨-, -, normal⟩ := unitExponent_spec some_ positive
  have smallRat : (significand : ℚ) < 2 ^ (53 : ℤ) := by
    rw [← significandBound_eq]
    exact_mod_cast small
  have upper : (significand : ℚ) * 2 ^ exponent < 2 ^ (53 + exponent) := by
    rw [power_add]
    exact mul_lt_mul_of_pos_right smallRat (power_pos _)
  have finer : unitExponent numerator denominator ≤ exponent := by
    rcases normal with isLeast | large
    · omega
    · rw [same] at large
      have between := large.trans_lt upper
      rw [zpow_lt_zpow_iff_right₀ one_lt_two] at between
      omega
  obtain ⟨shift, shifted⟩ := Int.le.dest finer
  have units : ((significand * 2 ^ shift : Nat) : ℚ) =
      (numerator : ℚ) / denominator / 2 ^ unitExponent numerator denominator := by
    rw [eq_div_iff (power_pos _).ne', same, ← shifted, power_add, zpow_natCast]
    push_cast
    ring
  have exact_ : unitsOf numerator denominator = significand * 2 ^ shift := by
    apply Nat.le_antisymm
    · apply roundHalfEven_le (units_pos positive _)
      rw [quotient_in_units, units]
    · apply le_roundHalfEven (units_pos positive _)
      rw [quotient_in_units, units]
  have value : rounded numerator denominator = significand * 2 ^ exponent := by
    rw [rounded, exact_, units, div_mul_cancel₀ _ (power_pos _).ne', same]
  refine ⟨value, ?_⟩
  rw [value]
  unfold greatestExponent at greatest
  exact upper.trans_le (power_le (by omega))

/-- What the value of a number is rounded to exceeds what the number exceeds. -/
theorem exceeds_ofSignedRatio_exact {bound : ℚ} {negative : Bool} {numerator : Int}
    {denominator : Nat} (isFinite : left.IsFinite) (positive : 0 < denominator)
    (same : (numerator : ℚ) / denominator = left.value) :
    Exceeds bound (ofSignedRatio negative numerator denominator) ↔ bound < left.value := by
  obtain ⟨sign, significand, exponent, rfl⟩ := isFinite.cases
  obtain ⟨small, least, greatest⟩ := isFinite
  have positiveRat : (0 : ℚ) < denominator := Nat.cast_pos.mpr positive
  have size : (0 : ℚ) ≤ significand * 2 ^ exponent :=
    mul_nonneg (Nat.cast_nonneg _) (power_pos _).le
  rw [exceeds_ofSignedRatio positive, ← same]
  rcases lt_trichotomy numerator 0 with below | rfl | above
  · have negative : (numerator : ℚ) / denominator < 0 :=
      div_neg_of_neg_of_pos (Int.cast_lt_zero.mpr below) positiveRat
    have magnitude : (numerator.natAbs : ℚ) / denominator = significand * 2 ^ exponent := by
      rw [cast_natAbs_of_neg below, neg_div, same]
      cases sign with
      | false =>
        rw [same, value, if_neg Bool.false_ne_true] at negative
        linarith
      | true => rw [value, if_pos rfl, neg_neg]
    obtain ⟨exact_, bounded⟩ := rounded_eq_self (by omega) positive small least greatest magnitude
    have opposite : -rounded numerator.natAbs denominator = (numerator : ℚ) / denominator := by
      rw [exact_, ← magnitude, cast_natAbs_of_neg below, neg_div, neg_neg]
    simp [below, below.ne, below.le, bounded, opposite]
  · simp
  · have some_ : (0 : ℚ) < numerator / denominator := div_pos (Int.cast_pos.mpr above) positiveRat
    have magnitude : (numerator.natAbs : ℚ) / denominator = significand * 2 ^ exponent := by
      rw [cast_natAbs_of_pos above, same]
      cases sign with
      | false => rfl
      | true =>
        rw [same, value, if_pos rfl] at some_
        linarith
    obtain ⟨exact_, bounded⟩ :=
      rounded_eq_self (by omega) positive small least greatest magnitude
    have itself : rounded numerator.natAbs denominator = (numerator : ℚ) / denominator := by
      rw [exact_, ← magnitude, cast_natAbs_of_pos above]
    rw [itself] at bounded
    simp [above, above.ne', above.not_gt, bounded.not_ge, itself]

/-- Nothing lies between a number and what its value is rounded to. -/
theorem not_exceeds_self {negative : Bool} {numerator : Int} {denominator : Nat}
    (isFinite : left.IsFinite) (positive : 0 < denominator)
    (same : (numerator : ℚ) / denominator = left.value) :
    ¬ Exceeds left.value (ofSignedRatio negative numerator denominator) := by
  rw [exceeds_ofSignedRatio_exact isFinite positive same]
  exact lt_irrefl _

section

variable {stamp early late window now : Binary64}

theorem value_le_of_not_below (isFiniteEarly : early.IsFinite) (isFiniteLate : late.IsFinite)
    (order : late.below early = false) : early.value ≤ late.value := by
  obtain ⟨negative, significand, exponent, rfl⟩ := isFiniteEarly.cases
  refine not_lt.mp fun above => ?_
  rw [(below_iff_exceeds isFiniteLate).mpr (exceeds_finite.mpr above)] at order
  contradiction

theorem not_below_self (isFinite : now.IsFinite) : now.below now = false := by
  obtain ⟨negative, significand, exponent, rfl⟩ := isFinite.cases
  rw [Bool.eq_false_iff, ne_eq, below_iff_exceeds isFinite, exceeds_finite]
  exact lt_irrefl _

theorem below_of_not_below (isFiniteEarly : early.IsFinite) (isFiniteLate : late.IsFinite)
    (order : late.below early = false) {cutoff : Binary64} (old : late.below cutoff = true) :
    early.below cutoff = true := by
  have le := value_le_of_not_below isFiniteEarly isFiniteLate order
  rw [below_iff_exceeds isFiniteLate] at old
  rw [below_iff_exceeds isFiniteEarly]
  exact old.mono le

/-- What is too old at a time is too old later. -/
theorem below_sub_mono (isFinite : stamp.IsFinite) (isFiniteEarly : early.IsFinite)
    (isFiniteLate : late.IsFinite) (isFiniteWindow : window.IsFinite)
    (order : late.below early = false) (old : stamp.below (early.sub window) = true) :
    stamp.below (late.sub window) = true := by
  have le := value_le_of_not_below isFiniteEarly isFiniteLate order
  obtain ⟨_, numerator, denominator, difference, positive, same⟩ :=
    sub_eq_ofSignedRatio isFiniteEarly isFiniteWindow
  obtain ⟨_, numeratorLate, denominatorLate, differenceLate, positiveLate, sameLate⟩ :=
    sub_eq_ofSignedRatio isFiniteLate isFiniteWindow
  rw [below_iff_exceeds isFinite, difference] at old
  rw [below_iff_exceeds isFinite, differenceLate]
  refine exceeds_ofSignedRatio_mono positive positiveLate ?_ old
  rw [same, sameLate]
  exact sub_le_sub_right le _

/-- No time within a window is too old: it is not below the start of the window, which is rounded to
some number that is not above it. -/
theorem not_below_sub_of_le (isFinite : stamp.IsFinite) (isFiniteNow : now.IsFinite)
    (isFiniteWindow : window.IsFinite) (le : now.value - window.value ≤ stamp.value) :
    stamp.below (now.sub window) = false := by
  obtain ⟨_, numerator, denominator, difference, positive, same⟩ :=
    sub_eq_ofSignedRatio isFiniteNow isFiniteWindow
  obtain ⟨negative, significand, exponent, shape⟩ := isFinite.cases
  obtain ⟨whole, part, -, positivePart, sameSelf⟩ := toRatio?_finite negative significand exponent
  rw [← shape] at sameSelf
  rw [Bool.eq_false_iff, ne_eq, below_iff_exceeds isFinite, difference]
  intro exceeds
  have above : Exceeds stamp.value (ofSignedRatio negative whole part) := by
    refine exceeds_ofSignedRatio_mono positive positivePart ?_ exceeds
    rw [same, sameSelf]
    exact le
  exact not_exceeds_self isFinite positivePart sameSelf above

theorem not_below_sub_self (isFinite : now.IsFinite) (isFiniteWindow : window.IsFinite)
    (nonnegative : 0 ≤ window.value) : now.below (now.sub window) = false :=
  not_below_sub_of_le isFinite isFinite isFiniteWindow (sub_le_self _ nonnegative)

theorem ofInt?_natCast {seconds : Nat} (made : ofInt? seconds = some window) :
    window.IsFinite ∧ 0 ≤ window.value := by
  unfold ofInt? ofSignedRatio at made
  rcases Nat.eq_zero_or_pos seconds with rfl | some_
  · obtain rfl : finite false 0 leastExponent = window := Option.some.inj made
    exact ⟨by simp [IsFinite, significandBound, leastExponent, greatestExponent], by simp [value]⟩
  · rw [if_neg (by omega), decide_eq_false (by omega), Int.natAbs_natCast] at made
    rcases ofRatio_cases some_ Nat.one_pos false with ⟨-, infinite⟩ |
      ⟨-, significand, exponent, finite, isFinite, -⟩
    · rw [infinite] at made
      contradiction
    · rw [finite] at made
      obtain rfl := Option.some.inj made
      refine ⟨isFinite, ?_⟩
      rw [value, if_neg Bool.false_ne_true]
      exact mul_nonneg (Nat.cast_nonneg _) (power_pos _).le

end

end

end StorageLayout.Binary64
