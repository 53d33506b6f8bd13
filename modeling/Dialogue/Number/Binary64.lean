/-!
# Binary floating point numbers

JSON numbers with a fraction or an exponent are kept as the nearest number with a
significand of 53 bits and the exponents of the double format. The arithmetic is on
natural numbers throughout, so that what is stored can be reasoned about.
-/

namespace Dialogue.Number

/-- A number of the double format. A finite one is `significand * 2 ^ exponent`, negated
if `negative`. -/
inductive Binary64 where
  | finite (negative : Bool) (significand : Nat) (exponent : Int)
  | infinite (negative : Bool)
  | nan
  deriving DecidableEq, Repr, Inhabited

namespace Binary64

/-- The number of bits of a significand. -/
def precision : Nat := 53

/-- The exponent of the smallest positive number. -/
def minExponent : Int := -1074

/-- The exponent of the largest finite numbers. -/
def maxExponent : Int := 971

/-- A quotient rounded to the nearest natural number, a half going to the even one. -/
def roundedQuotient (numerator denominator : Nat) : Nat :=
  let whole := numerator / denominator
  let doubled := 2 * (numerator % denominator)
  if doubled < denominator then whole
  else if denominator < doubled then whole + 1
  else if whole % 2 = 0 then whole else whole + 1

/-- `value * base ^ power` as a fraction. -/
def scaled (base value : Nat) (power : Int) : Nat × Nat :=
  if 0 ≤ power then (value * Nat.pow base power.toNat, 1)
  else (value, Nat.pow base (-power).toNat)

/-- The exponent at which a positive quotient has a significand of full length, or the
least exponent if that is larger. -/
def fittingExponent (numerator denominator : Nat) : Int :=
  let guess : Int := (numerator.log2 : Int) - (denominator.log2 : Int) - precision
  let fraction := scaled 2 numerator (-guess)
  let fits := fraction.1 / (fraction.2 * denominator) < Nat.pow 2 precision
  max minExponent (if fits then guess else guess + 1)

/-- The number nearest to a quotient. -/
def ofQuotient (negative : Bool) (numerator denominator : Nat) : Binary64 :=
  if numerator = 0 then .finite negative 0 minExponent
  else
    let exponent := fittingExponent numerator denominator
    let fraction := scaled 2 numerator (-exponent)
    let significand := roundedQuotient fraction.1 (fraction.2 * denominator)
    let carried := significand = Nat.pow 2 precision
    let exponent := if carried then exponent + 1 else exponent
    let significand := if carried then Nat.pow 2 (precision - 1) else significand
    if maxExponent < exponent then .infinite negative else .finite negative significand exponent

/-- The number nearest to `digits * 10 ^ power`. Numbers far outside the format are settled
by their magnitude alone. -/
def ofDecimal (negative : Bool) (digits : Nat) (power : Int) : Binary64 :=
  let magnitude : Int := (Nat.toDigits 10 digits).length + power
  if digits = 0 ∨ magnitude < -330 then .finite negative 0 minExponent
  else if 310 < magnitude then .infinite negative
  else
    let fraction := scaled 10 digits power
    ofQuotient negative fraction.1 fraction.2

/-- The integer that a finite number without a fractional part equals. -/
def toInt? : Binary64 → Option Int
  | .finite negative significand exponent =>
    let fraction := scaled 2 significand exponent
    if fraction.1 % fraction.2 = 0 then
      let magnitude : Int := (fraction.1 / fraction.2 : Nat)
      some (if negative then -magnitude else magnitude)
    else none
  | _ => none

/-- The rational number that a finite number equals. -/
def toRat? : Binary64 → Option Rat
  | .finite negative significand exponent =>
    let fraction := scaled 2 significand exponent
    let magnitude : Rat := mkRat fraction.1 fraction.2
    some (if negative then -magnitude else magnitude)
  | _ => none

/-- A number that is not infinite and not `nan`. -/
def isFinite : Binary64 → Bool
  | .finite .. => true
  | _ => false

end Binary64

end Dialogue.Number
