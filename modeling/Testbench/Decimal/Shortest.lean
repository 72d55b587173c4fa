import Testbench.Decimal.Binary
/-!
The shortest decimal that reads back as a given binary value.

The reals that round to a binary value form an interval from halfway to its lower neighbour to
halfway to its upper neighbour, the ends included exactly when the mantissa is even. For one,
two, up to seventeen significant digits, the value's two neighbours on that grid of decimals
are tried; the first grid with a neighbour inside the interval gives the digits, the nearer
neighbour if both are inside, the even one on an exact tie. Seventeen digits always suffice;
should none be found, the exact value is taken.
-/

namespace Testbench.Decimal

/-- A decimal `digits * 10 ^ exponent`. -/
structure Dec where
  /-- The significant digits, as a natural. -/
  digits : Nat
  /-- The power of ten. -/
  exponent : Int
  deriving DecidableEq, Repr, Inhabited

/-- Compares `a * 10 ^ i` with `n * 2 ^ j`, exactly. -/
def compareScaled (a : Nat) (i : Int) (n : Nat) (j : Int) : Ordering :=
  compare (a * Nat.pow 10 i.toNat * Nat.pow 2 (-j).toNat) (n * Nat.pow 2 j.toNat * Nat.pow 10 (-i).toNat)

namespace Binary

/-- Does the decimal lie among the reals that round to the value? -/
def readsBack (value : Binary) (decimal : Dec) : Bool :=
  let low := if value.narrowBelow then 4 * value.mantissa - 1 else 4 * value.mantissa - 2
  let high := 4 * value.mantissa + 2
  let inclusive := value.mantissa % 2 == 0
  let atLow := compareScaled decimal.digits decimal.exponent low (value.exponent - 2)
  let atHigh := compareScaled decimal.digits decimal.exponent high (value.exponent - 2)
  (atLow == .gt || (inclusive && atLow == .eq)) && (atHigh == .lt || (inclusive && atHigh == .eq))

/-- The least `k` with the value below `10 ^ k`, searched from an estimate. -/
def decimalScale (value : Binary) : Int :=
  let below (k : Int) : Bool := compareScaled 1 k value.mantissa value.exponent == .gt
  let guess : Int := ((Nat.log2 value.mantissa : Int) + value.exponent) * 3 / 10
  let start := guess - 2
  -- the estimate is within a few powers of ten; walk up to the first power above
  ((List.range 8).map fun (step : Nat) => start + (step : Int)).find? below |>.getD (start + 8)

/-- The value's two neighbours on the grid `10 ^ power`: `⌊value / 10 ^ power⌋` and the next. -/
def gridFloor (value : Binary) (power : Int) : Nat :=
  (value.mantissa * Nat.pow 2 value.exponent.toNat * Nat.pow 10 (-power).toNat) /
    (Nat.pow 2 (-value.exponent).toNat * Nat.pow 10 power.toNat)

/-- Which of two neighbours on a grid is nearer the value; ties go to the even one. -/
def nearer (value : Binary) (power : Int) (low : Nat) : Nat :=
  match compareScaled (2 * low + 1) power (2 * value.mantissa) value.exponent with
  | .gt => low
  | .lt => low + 1
  | .eq => if low % 2 == 0 then low else low + 1

/-- The nearest neighbour on the grid `10 ^ power` that reads back, if one does. -/
def onGrid (value : Binary) (power : Int) : Option Dec :=
  let low := value.gridFloor power
  match value.readsBack ⟨low, power⟩, value.readsBack ⟨low + 1, power⟩ with
  | true, true => some ⟨value.nearer power low, power⟩
  | true, false => some ⟨low, power⟩
  | false, true => some ⟨low + 1, power⟩
  | false, false => none

/-- The exact decimal value: `m * 2 ^ q` is `m * 5 ^ -q * 10 ^ q` for negative `q`. -/
def exact (value : Binary) : Dec :=
  if value.exponent ≥ 0 then ⟨value.mantissa * Nat.pow 2 value.exponent.toNat, 0⟩
  else ⟨value.mantissa * Nat.pow 5 (-value.exponent).toNat, value.exponent⟩

end Binary

/-- Moves trailing zeros of the digits into the exponent. -/
def Dec.normalize (decimal : Dec) : Dec :=
  if h : decimal.digits ≠ 0 ∧ decimal.digits % 10 = 0 then
    Dec.normalize ⟨decimal.digits / 10, decimal.exponent + 1⟩
  else decimal
termination_by decimal.digits
decreasing_by omega

namespace Binary

/-- The shortest decimal that reads back as the value, nearest on ties of length. -/
def shortest (value : Binary) : Dec :=
  if value.mantissa = 0 then ⟨0, 0⟩
  else
    let scale := value.decimalScale
    let found := (List.range 17).findSome? fun count => value.onGrid (scale - (count + 1 : Nat))
    (found.getD value.exact).normalize

end Binary

/-- Plain positional text of a decimal: no exponent, no trailing zeros after the point. -/
def Dec.positional (decimal : Dec) : String :=
  let digits := toString decimal.digits
  if decimal.exponent ≥ 0 then digits ++ String.ofList (List.replicate decimal.exponent.toNat '0')
  else
    let fraction := (-decimal.exponent).toNat
    if fraction < digits.length then
      String.ofList (digits.toList.take (digits.length - fraction)) ++ "." ++
        String.ofList (digits.toList.drop (digits.length - fraction))
    else "0." ++ String.ofList (List.replicate (fraction - digits.length) '0') ++ digits

/-- The shortest positional text that reads back as the value. -/
def Binary.positional (value : Binary) : String := value.shortest.positional

end Testbench.Decimal
