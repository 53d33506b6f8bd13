import Dialogue.Number.Binary64

/-!
# Shortest decimal texts

A floating point number is written with the fewest digits that read back as the same
number. The reals that read back as `m * 2 ^ q` form an interval around it, with its
ends if and only if `m` is even. Grids of powers of ten are tried from coarse to fine,
and on each only the two neighbours of the number matter: if some point of the grid
lies in the interval, then so does one of them.
-/

namespace Dialogue.Number

/-- The decimal `digits * 10 ^ power`. -/
structure Decimal where
  digits : Nat
  power : Int
  deriving DecidableEq, Repr

/-- A positive number with the ends of the interval of reals that read back as it, in
units of a quarter of its last place: all three are to be multiplied by
`2 ^ (exponent - 2)`. -/
structure Rounding where
  value : Nat
  lower : Nat
  upper : Nat
  exponent : Int
  closed : Bool

/-- The interval of a positive number. The gap below a power of two is half as wide. -/
def Rounding.around (significand : Nat) (exponent : Int) : Rounding where
  value := 4 * significand
  lower :=
    if significand = Nat.pow 2 (Binary64.precision - 1) ∧ Binary64.minExponent < exponent then
      4 * significand - 1
    else 4 * significand - 2
  upper := 4 * significand + 2
  exponent := exponent
  closed := significand % 2 = 0

namespace Rounding

/-- The factors that bring `digits * 10 ^ power` and the interval's units to one scale. -/
def factors (rounding : Rounding) (power : Int) : Nat × Nat :=
  let tens := Binary64.scaled 10 1 power
  let twos := Binary64.scaled 2 1 (rounding.exponent - 2)
  (tens.1 * twos.2, twos.1 * tens.2)

/-- Whether `digits * 10 ^ power` reads back as the number. -/
def reads (rounding : Rounding) (decimal : Decimal) : Bool :=
  let (ours, theirs) := rounding.factors decimal.power
  let point := decimal.digits * ours
  if rounding.closed then rounding.lower * theirs ≤ point && point ≤ rounding.upper * theirs
  else rounding.lower * theirs < point && point < rounding.upper * theirs

/-- The neighbour of the number on the grid of `10 ^ power` that reads back, the nearer one
if both do. -/
def onGrid? (rounding : Rounding) (power : Int) : Option Decimal :=
  let (ours, theirs) := rounding.factors power
  let below := rounding.value * theirs / ours
  let rest := rounding.value * theirs % ours
  let low : Decimal := ⟨below, power⟩
  let high : Decimal := ⟨below + 1, power⟩
  let lowReads := 0 < below && rounding.reads low
  let highReads := rounding.reads high
  if lowReads && highReads then
    some (if 2 * rest < ours || (2 * rest = ours && below % 2 = 0) then low else high)
  else if lowReads then some low
  else if highReads then some high
  else none

/-- The first grid on which a neighbour reads back, from `10 ^ power` downwards. -/
def search (rounding : Rounding) : (grids : Nat) → (power : Int) → Option Decimal
  | 0, _ => none
  | grids + 1, power =>
    match rounding.onGrid? power with
    | some decimal => some decimal
    | none => search rounding grids (power - 1)

end Rounding

/-- The shortest decimal that reads back as a positive number. No number needs more than
seventeen digits, so twenty-five grids below its magnitude always hold one. -/
def shortest (significand : Nat) (exponent : Int) : Decimal :=
  let bits : Int := (significand.log2 : Int) + exponent + 1
  let top : Int := (bits * 30103).fdiv 100000 + 1
  ((Rounding.around significand exponent).search 25 top).getD ⟨0, 0⟩

/-- A number with its sign in front. -/
def signed (negative : Bool) (text : String) : String :=
  if negative then "-" ++ text else text

/-- How a decimal is written: positionally if its first digit stands at a power of ten from
`-4` to `15`, always with a point; otherwise with an exponent of at least two digits. -/
def Decimal.text (decimal : Decimal) : String :=
  let digits := Nat.toDigits 10 decimal.digits
  let lead : Int := (digits.length : Int) - 1 + decimal.power
  if -4 ≤ lead ∧ lead < 16 then
    if 0 ≤ decimal.power then
      String.ofList (digits ++ List.replicate decimal.power.toNat '0') ++ ".0"
    else
      let places := (-decimal.power).toNat
      let padded := List.replicate (places + 1 - digits.length) '0' ++ digits
      String.ofList (padded.take (padded.length - places)) ++ "." ++
        String.ofList (padded.drop (padded.length - places))
  else
    let fraction := if digits.length ≤ 1 then "" else "." ++ String.ofList (digits.drop 1)
    let power := Nat.toDigits 10 lead.natAbs
    let padded := List.replicate (2 - power.length) '0' ++ power
    String.ofList (digits.take 1) ++ fraction ++ "e" ++ (if lead < 0 then "-" else "+") ++
      String.ofList padded

/-- A floating point number as messages show it. -/
def Binary64.text : Binary64 → String
  | .finite negative significand exponent =>
    if significand = 0 then signed negative "0.0"
    else signed negative (shortest significand exponent).text
  | .infinite negative => signed negative "inf"
  | .nan => "nan"

end Dialogue.Number
