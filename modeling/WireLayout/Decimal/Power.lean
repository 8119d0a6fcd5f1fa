/-!
# Powers

The powers of two and ten that bound numbers of a width and scale numbers in
decimal notation.
-/

namespace WireLayout.Decimal

/-- The power of two to an exponent. -/
def binaryPower (exponent : Nat) : Nat :=
  Nat.pow 2 exponent

/-- The power of ten to an exponent. -/
def decimalPower (exponent : Nat) : Nat :=
  Nat.pow 10 exponent

theorem binaryPower_pos (exponent : Nat) : 0 < binaryPower exponent :=
  Nat.pow_pos (by decide)

theorem decimalPower_pos (exponent : Nat) : 0 < decimalPower exponent :=
  Nat.pow_pos (by decide)

theorem binaryPower_succ (exponent : Nat) :
    binaryPower (exponent + 1) = 2 * binaryPower exponent :=
  Nat.mul_comm _ _

end WireLayout.Decimal
