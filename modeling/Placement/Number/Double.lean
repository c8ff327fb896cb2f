/-!
# Double precision

The finite numbers of double precision are the multiples `k · 2⁻¹⁰⁷⁴` whose count `k` has at most 53
significant bits and stays below `2²⁰⁹⁸`. So one integer, the count, stands for a finite number,
and comparing numbers is comparing integers. The two zeros coincide, as they do in every comparison.

Rounding a quotient of natural numbers is exact: scale it to units, see how many low bits the
53-bit limit cuts off, and divide once more, a half going to the even neighbour.
-/

namespace Placement

/-- A number of double precision, other than the values that are no number. -/
inductive Number
  /-- So many times `2⁻¹⁰⁷⁴`. -/
  | finite (units : Int)
  | infinite (negative : Bool)
  deriving DecidableEq, Repr

namespace Number

/-! ## Rounding -/

/-- Units in one, as a power of two. -/
def unitBits : Nat := 1074

/-- Bits of a significand. -/
def precisionBits : Nat := 53

/-- The counts from this power of two on overflow. -/
def overflowBits : Nat := 2098

/-- The natural number nearest to a quotient; halfway between two it is the even one. -/
def roundDiv (num den : Nat) : Nat :=
  let q := num / den
  let r := num % den
  if 2 * r < den then q else if den < 2 * r then q + 1 else q + q % 2

/-- How many low bits of a count fall off when it is cut to 53 significant bits. -/
def droppedBits (count : Nat) : Nat :=
  if count = 0 then 0 else count.log2 + 1 - precisionBits

/-- The number nearest to `num / den`, with a sign. -/
def ofQuotient (negative : Bool) (num den : Nat) : Number :=
  let scaled := num * Nat.pow 2 unitBits
  let dropped := droppedBits (scaled / den)
  let count := roundDiv scaled (den * Nat.pow 2 dropped) * Nat.pow 2 dropped
  if Nat.pow 2 overflowBits ≤ count then infinite negative
  else finite (if negative then -(count : Int) else count)

/-- The decimal exponents beyond which the number is infinite, or zero, whatever its digits. -/
def decimalRange : Int := 400

/-- The number nearest to `mantissa · 10 ^ exponent`, where `digits` is the number of digits of the
mantissa. Far outside the range of double precision no power of ten is computed. -/
def ofDecimal (negative : Bool) (mantissa digits : Nat) (exponent : Int) : Number :=
  if mantissa = 0 ∨ exponent + digits < -decimalRange then finite 0
  else if decimalRange < exponent + digits then infinite negative
  else if 0 ≤ exponent then ofQuotient negative (mantissa * Nat.pow 10 exponent.toNat) 1
  else ofQuotient negative mantissa (Nat.pow 10 (-exponent).toNat)

/-! ## Order -/

/-- Order of numbers: minus infinity first, infinity last, the finite ones by their counts. -/
def compare : Number → Number → Ordering
  | finite m, finite n => Ord.compare m n
  | finite _, infinite negative => if negative then .gt else .lt
  | infinite negative, finite _ => if negative then .lt else .gt
  | infinite n, infinite n' => Ord.compare n' n

end Number

end Placement
