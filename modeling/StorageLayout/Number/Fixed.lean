import StorageLayout.Number.Shortest

namespace StorageLayout.Binary64

/-- How a number is laid out: with digits behind the point, with an exponent, or with so many digits
in all and an exponent only where it is needed. -/
inductive Layout where
  | positional
  | scientific
  | general
  deriving DecidableEq, Repr

/-- A positive or zero quotient of natural numbers. -/
structure Magnitude where
  numerator : Nat
  denominator : Nat

namespace Magnitude

/-- The size of a finite number. -/
def ofFinite (significand : Nat) (exponent : Int) : Magnitude :=
  let unit := powerRatio 2 exponent
  ⟨significand * unit.1, unit.2⟩

/-- The multiple of a power of ten nearest to a magnitude; `places` digits are behind the point. -/
def roundedAt (magnitude : Magnitude) (places : Int) : Nat :=
  let scale := powerRatio 10 places
  roundHalfEven (magnitude.numerator * scale.1) (magnitude.denominator * scale.2)

/-- The exponent of the first digit. -/
def leadingExponent (magnitude : Magnitude) : Int :=
  if magnitude.numerator = 0 then 0
  else decimalPlaces magnitude.numerator magnitude.denominator - 1

/-- A magnitude with one digit before the point and `places` behind it: all these digits as one
number, and the exponent. Rounding may lead to one more digit, which moves the exponent. -/
def scientific (magnitude : Magnitude) (places : Nat) : Nat × Int :=
  let exponent := magnitude.leadingExponent
  let digits := magnitude.roundedAt (places - exponent)
  if digits < Nat.pow 10 (places + 1) then (digits, exponent) else (Nat.pow 10 places, exponent + 1)

end Magnitude

def digitsOf (number least : Nat) : List Char :=
  let digits := Nat.toDigits 10 number
  List.replicate (least - digits.length) '0' ++ digits

/-- A number with its last `places` digits behind a point. Without any there is a point only if it
is asked for. -/
def pointed (number places : Nat) (pointAlways : Bool) : List Char :=
  let digits := digitsOf number (places + 1)
  let whole := digits.length - places
  digits.take whole ++
    (if places = 0 && !pointAlways then [] else '.' :: digits.drop whole)

/-- Drops zeros at the end, and then a point. -/
def trimmed (cs : List Char) : List Char :=
  if cs.contains '.' then
    match cs.reverse.dropWhile (· = '0') with
    | '.' :: rest => rest.reverse
    | kept => kept.reverse
  else cs

/-- The text of a magnitude in a layout. `alternate` keeps a point, and zeros at the end, where they
would be left out. -/
def layOut (layout : Layout) (precision : Nat) (alternate : Bool) (magnitude : Magnitude) :
    List Char :=
  let withExponent (places : Nat) (shape : List Char → List Char) : List Char :=
    let (digits, exponent) := magnitude.scientific places
    shape (pointed digits places alternate) ++ (exponentText exponent).toList
  match layout with
  | .positional => pointed (magnitude.roundedAt precision) precision alternate
  | .scientific => withExponent precision id
  | .general =>
    let count := max 1 precision
    let shape := if alternate then id else trimmed
    let (digits, exponent) := magnitude.scientific (count - 1)
    if -4 ≤ exponent && exponent < count then
      shape (pointed digits (count - 1 - exponent).toNat alternate)
    else withExponent (count - 1) shape

/-- The text of a number without its sign. -/
def laidOut (layout : Layout) (precision : Nat) (alternate : Bool) : Binary64 → String
  | nan => "nan"
  | infinite _ => "inf"
  | finite _ significand exponent =>
    String.ofList (layOut layout precision alternate (.ofFinite significand exponent))

end StorageLayout.Binary64
