import WireLayout.Decimal.Binary64

/-!
# Shortest decimal text

A finite binary64 number is shown with the fewest decimal digits that read back
as the same number, and of those with the digits nearest to it.  Notation is
positional at every magnitude, and a whole number keeps one decimal place.

All quantities are multiples of a quarter of the unit in the last place, so the
ends of the interval of numbers that read back as the given one are whole.
-/

namespace WireLayout.Decimal

/--
The numbers that round to `significand * 2 ^ exponent`, in units of
`2 ^ (exponent - 2)`.
-/
structure RoundingInterval where
  lower : Nat
  upper : Nat
  closed : Bool
  deriving DecidableEq, Repr

/--
The numbers that round to a given one.  The gap below a power of two is half as
wide as the gap above it, and the ends belong to the interval when the
significand is even.
-/
def RoundingInterval.around (significand : Nat) (exponent : Int) :
    RoundingInterval where
  lower :=
    if significand = binaryPower 52 ∧ -1074 < exponent then 4 * significand - 1
    else 4 * significand - 2
  upper := 4 * significand + 2
  closed := significand % 2 == 0

/-- A decimal grid point `digits * 10 ^ scale`. -/
structure GridPoint where
  digits : Nat
  scale : Int
  deriving DecidableEq, Repr

/--
The factors by which quarter units and grid units become
comparable whole numbers.
-/
def gridFactors (exponent scale : Int) : Nat × Nat :=
  let power := exponent - 2
  (binaryPower power.toNat * decimalPower (-scale).toNat,
    decimalPower scale.toNat * binaryPower (-power).toNat)

/--
The grid point nearest to a number on the grid of a scale, if it reads
back as the number.
-/
def nearestOnGrid (significand : Nat) (exponent scale : Int) :
    Option GridPoint :=
  let interval := RoundingInterval.around significand exponent
  let (quarter, unit) := gridFactors exponent scale
  let target := 4 * significand * quarter
  let floor := target / unit
  let readsBack (digits : Nat) : Bool :=
    let place := digits * unit
    if interval.closed then
      decide (interval.lower * quarter ≤ place) &&
        decide (place ≤ interval.upper * quarter)
    else decide (interval.lower * quarter < place) &&
      decide (place < interval.upper * quarter)
  match readsBack floor, readsBack (floor + 1) with
  | true, true =>
      if 2 * (target % unit) < unit then some ⟨floor, scale⟩
      else some ⟨floor + 1, scale⟩
  | true, false => some ⟨floor, scale⟩
  | false, true => some ⟨floor + 1, scale⟩
  | false, false => none

/--
The number of digits before the point of a positive number,
negative for small ones.
-/
def integerDigits (significand : Nat) (exponent : Int) : Int :=
  let shifted :=
    significand * decimalPower 400 * binaryPower exponent.toNat /
      binaryPower (-exponent).toNat
  (Binary64.digitCount shifted : Int) - 400

/--
The first grid, coarsest first, with a point that reads back; seventeen
digits always do.
-/
def shortest (significand : Nat) (exponent : Int) : GridPoint :=
  let leading := integerDigits significand exponent
  let point := (List.range 17).findSome? fun (count : Nat) =>
    nearestOnGrid significand exponent (leading - (count + 1))
  point.getD ⟨significand * binaryPower exponent.toNat, 0⟩

/--
Positional text of `digits * 10 ^ scale`, with at least one decimal place.
-/
def GridPoint.text (point : GridPoint) : List Char :=
  let reduced : GridPoint :=
    if point.digits % 10 = 0 ∧ point.digits ≠ 0 then
      ⟨point.digits / 10, point.scale + 1⟩
    else point
  let digits := Nat.toDigits 10 reduced.digits
  if 0 ≤ reduced.scale then
    digits ++ List.replicate reduced.scale.toNat '0' ++ ['.', '0']
  else
    let places := (-reduced.scale).toNat
    let padded := List.replicate (places + 1 - digits.length) '0' ++ digits
    padded.take (padded.length - places) ++
      '.' :: padded.drop (padded.length - places)

/-- The decimal text of a binary64 number. -/
def Binary64.text : Binary64 → String
  | .finite negative significand exponent =>
      let magnitude :=
        if significand = 0 then ['0', '.', '0']
        else (shortest significand exponent).text
      String.ofList (if negative then '-' :: magnitude else magnitude)
  | .infinite negative => if negative then "-inf" else "inf"
  | .undefined => "NaN"

end WireLayout.Decimal
