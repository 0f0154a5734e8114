-- SUMMARY: Binary64 values and rounding of decimals to the nearest one.
/-!
# Double-precision numbers

The numbers that a binary64 value can be, and rounding a decimal to the nearest of them. A finite
value is `mantissa * 2 ^ exponent` with 53 bits of mantissa, fewer only at the least exponent.
-/

namespace LispLex

inductive Double where
  | finite (negative : Bool) (mantissa : Nat) (exponent : Int)
  | infinite (negative : Bool)
  | nan
  deriving DecidableEq, Repr

namespace Double

/-- The number of mantissa bits. -/
def precision : Nat := 53

def leastExponent : Int := -1074

def greatestExponent : Int := 971

/-- `base ^ exponent` as a numerator and a denominator. -/
def powerRatio (base : Nat) (exponent : Int) : Nat × Nat :=
  (base.pow exponent.toNat, base.pow (-exponent).toNat)

/-- `n / d` rounded to a whole number, a half to the even one. -/
def roundEven (n d : Nat) : Nat :=
  let quotient := n / d
  let rest := 2 * (n % d)
  if rest < d ∨ (rest = d ∧ quotient % 2 = 0) then quotient else quotient + 1

/-- The exponent that gives `n / d` its mantissa bits, or the least one. -/
def exponentFor (n d : Nat) : Int :=
  let bits : Int := (n.log2 : Int) - d.log2
  let (up, down) := powerRatio 2 bits
  let top := if n * down < d * up then bits - 1 else bits
  max leastExponent (top - (precision - 1))

/-- The value nearest to `n / d`, with the even mantissa if two are equally near. -/
def ofRatio (negative : Bool) (n d : Nat) : Double :=
  let exponent := exponentFor n d
  let (up, down) := powerRatio 2 exponent
  let mantissa := roundEven (n * down) (d * up)
  let (mantissa, exponent) :=
    if mantissa = Nat.pow 2 precision then (Nat.pow 2 (precision - 1), exponent + 1)
    else (mantissa, exponent)
  if greatestExponent < exponent then .infinite negative else .finite negative mantissa exponent

/-- The value nearest to `digits * 10 ^ exponent`. Decimals far outside of the range need no exact
arithmetic. -/
def ofDecimal (negative : Bool) (digits : Nat) (exponent : Int) : Double :=
  let size := (Nat.toDigits 10 digits).length + exponent
  if digits = 0 ∨ size < -400 then .finite negative 0 leastExponent
  else if 400 < size then .infinite negative
  else
    let (up, down) := powerRatio 10 exponent
    ofRatio negative (digits * up) down

end Double

end LispLex
