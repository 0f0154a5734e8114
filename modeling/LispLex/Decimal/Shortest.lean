-- SUMMARY: The shortest decimal text that rounds back to a binary64 value.
import LispLex.Decimal.Double
import LispLex.Text

/-!
# Shortest decimals

The text of a double-precision number has the fewest digits that round back to it, and of those the
nearest. Powers of ten from the fourth below one to the fifteenth above are written positionally,
others with an exponent of at least two digits.
-/

namespace LispLex

namespace Double

/-- A positive decimal, `digits * 10 ^ exponent`. -/
structure Decimal where
  digits : Nat
  exponent : Int
  deriving DecidableEq, Repr

/-- Numbers are compared in quarters of the last mantissa bit: the value itself, and the least and
the greatest number that rounds to it. Below a power of two the gap is half as wide. -/
def roundingBounds (mantissa : Nat) (exponent : Int) : Nat × Nat :=
  let narrow := mantissa = Nat.pow 2 (precision - 1) ∧ leastExponent < exponent
  (4 * mantissa - (if narrow then 1 else 2), 4 * mantissa + 2)

/-- The decimal rounds to the value: it lies within the bounds, which count themselves if the
mantissa is even. -/
def roundsTo (mantissa : Nat) (exponent : Int) (decimal : Decimal) : Bool :=
  let (low, high) := roundingBounds mantissa exponent
  let (up2, down2) := powerRatio 2 (exponent - 2)
  let (up10, down10) := powerRatio 10 decimal.exponent
  let scaled := decimal.digits * up10 * down2
  let low := low * up2 * down10
  let high := high * up2 * down10
  if mantissa % 2 = 0 then low ≤ scaled && scaled ≤ high else low < scaled && scaled < high

/-- The two neighbours of the value among the multiples of `10 ^ exponent`, the nearer one first; of
two equally near ones the even one. -/
def neighbours (mantissa : Nat) (exponent : Int) (power : Int) : List Decimal :=
  let (up2, down2) := powerRatio 2 exponent
  let (up10, down10) := powerRatio 10 power
  let n := mantissa * up2 * down10
  let d := down2 * up10
  let below : Decimal := ⟨n / d, power⟩
  let above : Decimal := ⟨n / d + 1, power⟩
  if roundEven n d = n / d then [below, above] else [above, below]

/-- The number of digits before the point, zero or less for numbers below one tenth. -/
def magnitude (mantissa : Nat) (exponent : Int) : Int :=
  let (up, down) := powerRatio 2 exponent
  let whole := mantissa * up / down
  if whole = 0 then 1 - (Nat.toDigits 10 (down / (mantissa * up))).length
  else (Nat.toDigits 10 whole).length

/-- The shortest decimal that rounds to a positive value; seventeen digits always suffice. -/
def shortest (mantissa : Nat) (exponent : Int) : Decimal :=
  let start := magnitude mantissa exponent
  let candidates := (List.range 17).flatMap fun (count : Nat) =>
    neighbours mantissa exponent (start - count - 1)
  (candidates.find? (roundsTo mantissa exponent)).getD ⟨mantissa, exponent⟩

-- ---------------------------------------------------------------------------
-- Layout
-- ---------------------------------------------------------------------------

/-- The digits around a point that stands after the first `before` of them, with zeros where there
are none. -/
def pointed (digits : Text) (before : Int) : Text :=
  if before ≤ 0 then
    ['0', '.'] ++ List.replicate (-before).toNat '0' ++ digits
  else
    let count := before.toNat
    digits.take count ++ List.replicate (count - digits.length) '0' ++ ['.'] ++
      if digits.length ≤ count then ['0'] else digits.drop count

/-- The exponent with its sign and at least two digits. -/
def exponentText (exponent : Int) : Text :=
  let digits := decimal exponent.natAbs
  (if exponent < 0 then ['e', '-'] else ['e', '+']) ++
    List.replicate (2 - digits.length) '0' ++ digits

/-- The text of digits that stand for `0.digits * 10 ^ before`. -/
def layout (digits : Text) (before : Int) : Text :=
  if -4 < before ∧ before ≤ 16 then pointed digits before
  else
    (match digits with
      | [] => []
      | [digit] => [digit]
      | digit :: rest => digit :: '.' :: rest) ++ exponentText (before - 1)

/-- The text of a positive value. -/
def positiveText (mantissa : Nat) (exponent : Int) : Text :=
  let found := shortest mantissa exponent
  let digits := decimal found.digits
  layout (dropTrailing '0' digits) (digits.length + found.exponent)

def toText : Double → Text
  | .nan => ['n', 'a', 'n']
  | .infinite negative => (if negative then ['-'] else []) ++ ['i', 'n', 'f']
  | .finite negative mantissa exponent =>
    (if negative then ['-'] else []) ++
      if mantissa = 0 then ['0', '.', '0'] else positiveText mantissa exponent

end Double

end LispLex
