/-!
# Digits

The values of digits in the notations of radix at most sixteen, and the numbers
that sequences of digits denote.  Letters count as digits in either case.
-/

namespace WireLayout.Text

/-- The value of a digit in the notations of radix at most sixteen. -/
def digitValue (character : Char) : Option Nat :=
  let point := character.toNat
  if '0' ≤ character ∧ character ≤ '9' then some (point - 48)
  else if 'a' ≤ character ∧ character ≤ 'f' then some (point - 87)
  else if 'A' ≤ character ∧ character ≤ 'F' then some (point - 55)
  else none

/--
The number that the digits of a radix make with a number read before them.
-/
def digitsFrom (radix : Nat) : Nat → List Char → Option Nat
  | number, [] => some number
  | number, character :: rest =>
      match digitValue character with
      | some digit =>
          if digit < radix then digitsFrom radix (number * radix + digit) rest
          else none
      | none => none

/-- The number that a nonempty sequence of digits denotes in a radix. -/
def digitsNumber (radix : Nat) (characters : List Char) : Option Nat :=
  if characters.isEmpty then none else digitsFrom radix 0 characters

end WireLayout.Text
