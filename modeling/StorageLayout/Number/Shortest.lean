import StorageLayout.Number.Binary64

/-! The decimal text of a binary64 number: the fewest digits that round back to it, and of those
the nearest. Numbers from one ten-thousandth up to ten to the sixteenth are written positionally. -/

namespace StorageLayout.Binary64

/-- The digits of a positive decimal number and the power of ten of the last one. -/
structure Decimal where
  digits : Nat
  exponent : Int
  deriving DecidableEq, Repr

/-- How many decimal digits a number has; zero has none. -/
def decimalLength (number : Nat) : Nat :=
  if number = 0 then 0 else (Nat.toDigits 10 number).length

/-- The `places` with `10 ^ (places - 1) ≤ numerator / denominator < 10 ^ places`. -/
def decimalPlaces (numerator denominator : Nat) : Int :=
  if denominator ≤ numerator then decimalLength (numerator / denominator)
  else 1 - (decimalLength ((denominator + numerator - 1) / numerator - 1) : Int)

/-- Quarter units of the last significant bit around a finite number: the ends of the interval
that rounds to it, and whether the ends belong to the interval. -/
structure RoundingInterval where
  low : Nat
  middle : Nat
  high : Nat
  closed : Bool

/-- Below a power of two the neighbours are half as far apart. -/
def roundingInterval (significand : Nat) (exponent : Int) : RoundingInterval where
  low :=
    if significand = significandBound / 2 && leastExponent < exponent then 4 * significand - 1
    else 4 * significand - 2
  middle := 4 * significand
  high := 4 * significand + 2
  closed := significand % 2 = 0

/-- Whether an interval holds a multiple of a power of ten. `unit` is the quarter unit and `step` the
power of ten, both as quotients. -/
def RoundingInterval.includes (interval : RoundingInterval) (unit step : Nat × Nat)
    (count : Nat) : Bool :=
  let quarters (k : Nat) : Nat := k * unit.1 * step.2
  let multiple := count * step.1 * unit.2
  if interval.closed then quarters interval.low ≤ multiple && multiple ≤ quarters interval.high
  else quarters interval.low < multiple && multiple < quarters interval.high

/-- The multiple of a power of ten that rounds back to the number and is nearest to it, if any
multiple next to the number rounds back. -/
def nearestMultiple? (interval : RoundingInterval) (unit step : Nat × Nat) : Option Nat :=
  let middle := interval.middle * unit.1 * step.2
  let steps (count : Nat) : Nat := count * step.1 * unit.2
  let inside := interval.includes unit step
  let floor := middle / steps 1
  if inside floor then
    if inside (floor + 1) then
      let twice := 2 * middle
      if twice < steps (2 * floor + 1) then some floor
      else if steps (2 * floor + 1) < twice then some (floor + 1)
      else some (if floor % 2 = 0 then floor else floor + 1)
    else some floor
  else if inside (floor + 1) then some (floor + 1)
  else none

/-- The shortest decimal that rounds to `significand * 2 ^ exponent`; seventeen digits suffice. -/
def shortest (significand : Nat) (exponent : Int) : Decimal :=
  let unit := powerRatio 2 (exponent - 2)
  let places := decimalPlaces (4 * significand * unit.1) unit.2
  let interval := roundingInterval significand exponent
  let attempt (count : Nat) : Option Decimal :=
    let last := places - count - 1
    (nearestMultiple? interval unit (powerRatio 10 last)).map fun digits => ⟨digits, last⟩
  ((List.range 17).findSome? attempt).getD ⟨0, 0⟩

/-- The largest power of ten, plus one, of a number written positionally. -/
def positionalPlaces : Int := 16

/-- Up to this many zeros follow the point of a number written positionally. -/
def positionalZeros : Int := 3

/-- An exponent with its sign and at least two digits. -/
def exponentText (exponent : Int) : String :=
  let digits := toString exponent.natAbs
  (if exponent < 0 then "e-" else "e+") ++ (if digits.length < 2 then "0" else "") ++ digits

/-- Writes a decimal positionally or with an exponent, by the size of the number. -/
def Decimal.text (decimal : Decimal) : String :=
  let digits := ((Nat.toDigits 10 decimal.digits).reverse.dropWhile (· = '0')).reverse
  let places := (decimalLength decimal.digits : Int) + decimal.exponent
  let zeros (count : Int) : List Char := List.replicate count.toNat '0'
  if places ≤ positionalPlaces && -positionalZeros ≤ places then
    let whole := digits.take places.toNat ++ zeros (places - digits.length)
    let fraction := zeros (-places) ++ digits.drop places.toNat
    String.ofList ((if whole.isEmpty then ['0'] else whole) ++
      '.' :: (if fraction.isEmpty then ['0'] else fraction))
  else
    String.ofList (digits.take 1 ++ (if digits.length ≤ 1 then [] else '.' :: digits.drop 1)) ++
      exponentText (places - 1)

/-- The text of a number: shortest digits, with a sign before negative ones, zero included. -/
def text : Binary64 → String
  | nan => "nan"
  | infinite negative => if negative then "-inf" else "inf"
  | finite negative significand exponent =>
    (if negative then "-" else "") ++
      (if significand = 0 then "0.0" else (shortest significand exponent).text)

end StorageLayout.Binary64
