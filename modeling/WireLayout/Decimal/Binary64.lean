import WireLayout.Decimal.Power

/-!
# Numbers of the binary64 format

A document may write a number with a fraction or an exponent.  It stands for
the nearest member of the binary64 format, ties going to the even significand.
The finite members are kept exactly, as `significand * 2 ^ exponent`, so that
rounding and printing are arithmetic on natural numbers.
-/

namespace WireLayout.Decimal

/--
A member of the binary64 format.  A finite member has a significand below
`2 ^ 53` and an exponent of at least `-1074`, and its significand reaches
`2 ^ 52` unless the exponent is the least.
-/
inductive Binary64 where
  | finite (negative : Bool) (significand : Nat) (exponent : Int)
  | infinite (negative : Bool)
  | undefined
  deriving DecidableEq, Repr

namespace Binary64

/--
The quotient of two natural numbers rounded to nearest, a half going to
the even neighbour.
-/
def roundedQuotient (numerator denominator : Nat) : Nat :=
  let whole := numerator / denominator
  let twice := 2 * (numerator % denominator)
  if twice < denominator then whole
  else if denominator < twice then whole + 1
  else whole + whole % 2

/--
The two terms of `numerator / denominator / 2 ^ exponent` as natural numbers.
-/
def scaled (numerator denominator : Nat) (exponent : Int) : Nat × Nat :=
  (numerator * binaryPower (-exponent).toNat,
    denominator * binaryPower exponent.toNat)

/--
The exponent at which the integer part of a positive ratio has
fifty-three binary digits.
-/
def ratioExponent (numerator denominator : Nat) : Int :=
  let estimate : Int := numerator.log2 - denominator.log2 - 52
  let (above, below) := scaled numerator denominator estimate
  if above < below * binaryPower 52 then estimate - 1 else estimate

/--
The member nearest to a ratio of natural numbers with a positive denominator.
-/
def ofRatio (negative : Bool) (numerator denominator : Nat) : Binary64 :=
  if numerator = 0 then .finite negative 0 (-1074)
  else
    let exponent := max (ratioExponent numerator denominator) (-1074)
    let (above, below) := scaled numerator denominator exponent
    let rounded := roundedQuotient above below
    let (significand, exponent) :=
      if rounded = binaryPower 53 then (binaryPower 52, exponent + 1)
      else (rounded, exponent)
    if 971 < exponent then .infinite negative
    else .finite negative significand exponent

/-- The number of decimal digits of a natural number. -/
def digitCount (number : Nat) : Nat :=
  (Nat.toDigits 10 number).length

/--
The member nearest to `digits * 10 ^ exponent`.  Numbers from `10 ^ 310` on
are infinite and those below `10 ^ (-330)` are zero, so that no power beyond
these is ever formed.
-/
def ofDecimal (negative : Bool) (digits : Nat) (exponent : Int) : Binary64 :=
  let magnitude := exponent + digitCount digits
  if digits = 0 ∨ magnitude < -330 then .finite negative 0 (-1074)
  else if 310 < magnitude then .infinite negative
  else
    ofRatio negative (digits * decimalPower exponent.toNat)
      (decimalPower (-exponent).toNat)

/-- Whether a member is a number other than the infinite ones. -/
def isFinite : Binary64 → Bool
  | .finite .. => true
  | _ => false

/--
Numerical equality, by which the two zeros agree; the undefined member
agrees with itself.
-/
def agrees (left right : Binary64) : Bool :=
  match left, right with
  | .finite _ 0 _, .finite _ 0 _ => true
  | _, _ => decide (left = right)

end Binary64

end WireLayout.Decimal
