/-! Binary floating-point numbers with 53 significant bits, as exact values. Every operation takes
the exact result as a quotient of natural numbers and rounds it once, to the nearest representable
number and on a tie to the one with an even significand. -/

namespace StorageLayout

/-- A binary64 number; a finite one is `± significand * 2 ^ exponent`. -/
inductive Binary64 where
  | nan
  | infinite (negative : Bool)
  | finite (negative : Bool) (significand : Nat) (exponent : Int)
  deriving DecidableEq, Repr, Inhabited

namespace Binary64

def leastExponent : Int := -1074

def greatestExponent : Int := 971

/-- Significands of finite numbers stay below this bound. -/
def significandBound : Nat := 0x20000000000000

/-- `base ^ exponent` as a quotient of natural numbers. -/
def powerRatio (base : Nat) (exponent : Int) : Nat × Nat :=
  (base.pow exponent.toNat, base.pow (-exponent).toNat)

theorem powerRatio_two_pos (exponent : Int) :
    0 < (powerRatio 2 exponent).1 ∧ 0 < (powerRatio 2 exponent).2 :=
  ⟨Nat.pow_pos (by decide), Nat.pow_pos (by decide)⟩

/-- The integer nearest to a quotient, an even one on a tie. -/
def roundHalfEven (numerator denominator : Nat) : Nat :=
  let quotient := numerator / denominator
  let twice := 2 * (numerator % denominator)
  if twice < denominator then quotient
  else if denominator < twice then quotient + 1
  else if quotient % 2 = 0 then quotient else quotient + 1

/-- The floor of `(numerator / denominator) / 2 ^ exponent`. -/
def unitsBelow (numerator denominator : Nat) (exponent : Int) : Nat :=
  let unit := powerRatio 2 exponent
  (numerator * unit.2) / (denominator * unit.1)

/-- The exponent of the last significant bit of a positive quotient. -/
def unitExponent (numerator denominator : Nat) : Int :=
  let guess := max ((numerator.log2 : Int) - denominator.log2 - 53) leastExponent
  if unitsBelow numerator denominator guess < significandBound then guess else guess + 1

/-- The binary64 number nearest to `± numerator / denominator`. -/
def ofRatio (negative : Bool) (numerator denominator : Nat) : Binary64 :=
  if numerator = 0 then finite negative 0 leastExponent
  else
    let exponent := unitExponent numerator denominator
    let unit := powerRatio 2 exponent
    let units := roundHalfEven (numerator * unit.2) (denominator * unit.1)
    let carried := units = significandBound
    let exponent := if carried then exponent + 1 else exponent
    if greatestExponent < exponent then infinite negative
    else finite negative (if carried then significandBound / 2 else units) exponent

/-- The value of a finite number as a quotient. -/
def toRatio? : Binary64 → Option (Int × Nat)
  | finite negative significand exponent =>
    let unit := powerRatio 2 exponent
    let magnitude : Int := (significand * unit.1 : Nat)
    some (if negative then -magnitude else magnitude, unit.2)
  | _ => none

def zero : Binary64 := finite false 0 leastExponent

/-- Rounds a signed quotient; the sign of a zero is given. -/
def ofSignedRatio (zeroNegative : Bool) (numerator : Int) (denominator : Nat) : Binary64 :=
  if numerator = 0 then finite zeroNegative 0 leastExponent
  else ofRatio (numerator < 0) numerator.natAbs denominator

/-- The number nearest to an integer, unless that is infinite. -/
def ofInt? (value : Int) : Option Binary64 :=
  match ofSignedRatio false value 1 with
  | infinite _ => none
  | number => some number

/-- Numbers with more decimal places than this before the point are infinite. -/
def greatestDecimal : Int := 310

/-- Numbers with more zeros than this behind the point are zero. -/
def leastDecimal : Int := -330

/-- The number nearest to `± digits * 10 ^ exponent`. -/
def ofDecimal (negative : Bool) (digits : Nat) (exponent : Int) : Binary64 :=
  let places := ((Nat.toDigits 10 digits).length : Int) + exponent
  if digits = 0 || places < leastDecimal then finite negative 0 leastExponent
  else if greatestDecimal < places then infinite negative
  else
    let scale := powerRatio 10 exponent
    ofRatio negative (digits * scale.1) scale.2

def isNegative : Binary64 → Bool
  | nan => false
  | infinite negative => negative
  | finite negative _ _ => negative

def isZero : Binary64 → Bool
  | finite _ significand _ => significand = 0
  | _ => false

/-- Whether two numbers are equal as values: the zeros are, and nothing equals `nan`. -/
def sameValue (left right : Binary64) : Bool :=
  match left, right with
  | infinite leftNegative, infinite rightNegative => leftNegative == rightNegative
  | _, _ =>
    match left.toRatio?, right.toRatio? with
    | some (leftNumerator, leftDenominator), some (rightNumerator, rightDenominator) =>
      leftNumerator * rightDenominator = rightNumerator * leftDenominator
    | _, _ => false

/-- Whether a number is an integer of the given value. -/
def sameInt (number : Binary64) (value : Int) : Bool :=
  match number.toRatio? with
  | some (numerator, denominator) => numerator = value * denominator
  | none => false

/-- Whether the left number lies below the right one. -/
def below (left right : Binary64) : Bool :=
  match left, right with
  | nan, _ => false
  | _, nan => false
  | infinite leftNegative, infinite rightNegative => leftNegative && !rightNegative
  | infinite negative, _ => negative
  | _, infinite negative => !negative
  | _, _ =>
    match left.toRatio?, right.toRatio? with
    | some (leftNumerator, leftDenominator), some (rightNumerator, rightDenominator) =>
      leftNumerator * rightDenominator < rightNumerator * leftDenominator
    | _, _ => false

/-- The integer that a number is, if it is one. -/
def toInt? (number : Binary64) : Option Int :=
  match number.toRatio? with
  | some (numerator, denominator) =>
    if numerator % denominator = 0 then some (numerator / denominator) else none
  | none => none

/-- The integer part of a finite number, rounded toward zero. -/
def truncate? (number : Binary64) : Option Int :=
  match number.toRatio? with
  | some (numerator, denominator) => some (Int.tdiv numerator denominator)
  | none => none

/-- The rounded difference. -/
def sub (left right : Binary64) : Binary64 :=
  match left, right with
  | nan, _ => nan
  | _, nan => nan
  | infinite leftNegative, infinite rightNegative =>
    if leftNegative = rightNegative then nan else infinite leftNegative
  | infinite negative, _ => infinite negative
  | _, infinite negative => infinite !negative
  | _, _ =>
    match left.toRatio?, right.toRatio? with
    | some (leftNumerator, leftDenominator), some (rightNumerator, rightDenominator) =>
      ofSignedRatio (left.isNegative && !right.isNegative)
        (leftNumerator * rightDenominator - rightNumerator * leftDenominator)
        (leftDenominator * rightDenominator)
    | _, _ => nan

/-- The rounded product with a positive integer. -/
def scale (number : Binary64) (factor : Nat) : Binary64 :=
  match number.toRatio? with
  | some (numerator, denominator) =>
    ofSignedRatio number.isNegative (numerator * factor) denominator
  | none => number

end Binary64

end StorageLayout
