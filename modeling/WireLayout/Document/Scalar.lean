import WireLayout.Document.Value
import WireLayout.Text.Digit

/-!
# Plain scalars

A scalar written without quotes stands for null, a truth value, an integer,
a number of the binary64 format, or, when it has none of these notations,
for its own text.

Integers are decimal or follow one of the radix marks `0x`, `0o` and `0b`.  A
decimal notation with leading zeros is text.  An integer that needs more than
64 bits but no more than 128 has no value at all; a larger one is read as a
binary64 number.
-/

namespace WireLayout.Document

open WireLayout.Decimal
open WireLayout.Text

/-- Whether characters are decimal digits that begin with a superfluous zero. -/
def hasLeadingZero (characters : List Char) : Bool :=
  match characters with
  | '0' :: second :: rest => (second :: rest).all Char.isDigit
  | _ => false

/--
The natural number that characters without a sign denote, in any of
the four radices.
-/
def naturalNotation (characters : List Char) : Option Nat :=
  match characters with
  | '0' :: 'x' :: rest => digitsNumber 16 rest
  | '0' :: 'o' :: rest => digitsNumber 8 rest
  | '0' :: 'b' :: rest => digitsNumber 2 rest
  | _ => if hasLeadingZero characters then none else digitsNumber 10 characters

/-- The integer that characters denote, whatever its size. -/
def integerNotation (characters : List Char) : Option Int :=
  match characters with
  | '+' :: rest => (naturalNotation rest).map fun number => (number : Int)
  | '-' :: rest => (naturalNotation rest).map fun number => -(number : Int)
  | _ => (naturalNotation characters).map fun number => (number : Int)

/-- The exponent that ends a decimal notation, zero when there is none. -/
def exponentNotation (characters : List Char) : Option Int :=
  match characters with
  | [] => some 0
  | mark :: rest =>
      if mark = 'e' ∨ mark = 'E' then
        match rest with
        | '+' :: digits =>
            (digitsNumber 10 digits).map fun number => (number : Int)
        | '-' :: digits =>
            (digitsNumber 10 digits).map fun number => -(number : Int)
        | digits => (digitsNumber 10 digits).map fun number => (number : Int)
      else none

/-- The binary64 number nearest to a decimal notation without a sign. -/
def decimalNotation (negative : Bool)
    (characters : List Char) : Option Binary64 :=
  let whole := characters.takeWhile Char.isDigit
  let afterWhole := characters.dropWhile Char.isDigit
  let places := match afterWhole with
    | '.' :: rest => rest.takeWhile Char.isDigit
    | _ => []
  let afterPlaces := match afterWhole with
    | '.' :: rest => rest.dropWhile Char.isDigit
    | rest => rest
  match digitsNumber 10 (whole ++ places), exponentNotation afterPlaces with
  | some digits, some exponent =>
      some (Binary64.ofDecimal negative digits (exponent - places.length))
  | _, _ => none

/-- The binary64 number that characters denote. -/
def realNotation (characters : List Char) : Option Binary64 :=
  let text := String.ofList characters
  let positive := match characters with
    | '+' :: rest => rest
    | _ => characters
  let positiveText := String.ofList positive
  if positiveText = ".inf" ∨ positiveText = ".Inf" ∨ positiveText = ".INF" then
    some (.infinite false)
  else if text = "-.inf" ∨ text = "-.Inf" ∨ text = "-.INF" then
    some (.infinite true)
  else if text = ".nan" ∨ text = ".NaN" ∨ text = ".NAN" then some .undefined
  else
    let number := match characters, positive with
      | '-' :: rest, _ => decimalNotation true rest
      | _, rest => decimalNotation false rest
    number.filter Binary64.isFinite

/-- The notations of null. -/
def isNullNotation (text : String) : Bool :=
  ["null", "Null", "NULL", "~"].contains text

/-- The truth value that a text denotes. -/
def truthNotation (text : String) : Option Bool :=
  if ["true", "True", "TRUE"].contains text then some true
  else if ["false", "False", "FALSE"].contains text then some false
  else none

/--
Whether an integer can be held in a number of bits, with or without a sign.
-/
def fitsBits (bits : Nat) (number : Int) : Bool :=
  match number with
  | .ofNat magnitude => decide (magnitude < Decimal.binaryPower bits)
  | .negSucc magnitude => decide (magnitude < Decimal.binaryPower (bits - 1))

/-- Whether an integer can be held in 64 bits, with or without a sign. -/
def fitsWord (number : Int) : Bool :=
  fitsBits 64 number

/-- Whether an integer can be held in 128 bits, with or without a sign. -/
def fitsDoubleWord (number : Int) : Bool :=
  fitsBits 128 number

/--
The integer of a text as a value; `none` inside when it is too
wide for 64 bits.
-/
def integerValue (characters : List Char) : Option (Option Value) :=
  match integerNotation characters with
  | some number =>
      if fitsWord number then some (some (.integer number))
      else if fitsDoubleWord number then some none
      else none
  | none => none

/-- The characters of a text after one sign. -/
def withoutSign (characters : List Char) : List Char :=
  match characters with
  | '+' :: rest => rest
  | '-' :: rest => rest
  | _ => characters

/-- The value of a plain scalar, absent for an integer that is too wide. -/
def plainValue (text : String) : Option Value :=
  if text.isEmpty || isNullNotation text then some .null
  else
    match truthNotation text with
    | some truth => some (.boolean truth)
    | none =>
        match integerValue text.toList with
        | some value => value
        | none =>
            if hasLeadingZero (withoutSign text.toList) then some (.text text)
            else
              match realNotation text.toList with
              | some number => some (.real number)
              | none => some (.text text)

end WireLayout.Document
