/-!
Binary floating-point values of 53-bit precision, computed exactly.

A finite non-negative value is `mantissa * 2 ^ exponent`. Normal values have a mantissa of 53
bits; below the least normal exponent the mantissa shrinks (subnormal values). A ratio of
naturals is rounded to the nearest such value, a tie going to the even mantissa, the way one
division of two exactly held numbers rounds.
-/

namespace Testbench.Decimal

/-- How a tie between two neighbours is broken. -/
inductive Tie where
  /-- Towards the even neighbour. -/
  | toEven
  /-- Towards the larger neighbour. -/
  | up
  deriving DecidableEq, Repr

/-- `num / den` rounded to a natural; a tie is broken as asked. -/
def roundDiv (num den : Nat) (tie : Tie) : Nat :=
  let quotient := num / den
  let remainder := num % den
  match compare (2 * remainder) den, tie with
  | .lt, _ => quotient
  | .gt, _ => quotient + 1
  | .eq, .up => quotient + 1
  | .eq, .toEven => if quotient % 2 == 0 then quotient else quotient + 1

/-- The rounded quotient is within half a unit of the exact one. -/
theorem roundDiv_near (num den : Nat) (tie : Tie) (h : 0 < den) :
    2 * (roundDiv num den tie * den) ≤ 2 * num + den ∧
      2 * num ≤ 2 * (roundDiv num den tie * den) + den := by
  have e : den * (num / den) + num % den = num := Nat.div_add_mod num den
  have l : num % den < den := Nat.mod_lt _ h
  simp only [roundDiv]
  generalize num / den = q at *
  generalize num % den = r at *
  have hq : (q + 1) * den = den * q + den := by rw [Nat.add_mul, Nat.mul_comm]; simp
  have hq0 : q * den = den * q := Nat.mul_comm ..
  generalize den * q = p at *
  split
  · rename_i hc; rw [Nat.compare_eq_lt] at hc; omega
  · rename_i hc; rw [Nat.compare_eq_gt] at hc; omega
  · rename_i hc; rw [Nat.compare_eq_eq] at hc; omega
  · rename_i hc; rw [Nat.compare_eq_eq] at hc; split <;> omega

/-- A finite non-negative binary value `mantissa * 2 ^ exponent`. -/
structure Binary where
  /-- The significand: below `2 ^ 53`, and at least `2 ^ 52` for normal values. -/
  mantissa : Nat
  /-- The power of two. -/
  exponent : Int
  deriving DecidableEq, Repr, Inhabited

namespace Binary

/-- Bits of precision. -/
def precision : Nat := 53

/-- The exponent of the least subnormal value. -/
def minExponent : Int := -1074

/-- Zero. -/
def zero : Binary := ⟨0, minExponent⟩

/-- Is the gap to the value below half the gap to the value above? So it is at a power of two
above the subnormal range. -/
def narrowBelow (value : Binary) : Bool :=
  value.mantissa == Nat.pow 2 (precision - 1) && value.exponent > minExponent

/-- The value as a ratio `numerator / denominator`. -/
def numerator (value : Binary) : Nat := value.mantissa * Nat.pow 2 value.exponent.toNat

/-- The denominator of the value as a ratio. -/
def denominator (value : Binary) : Nat := Nat.pow 2 (-value.exponent).toNat

/-- `num / den` scaled by `2 ^ -exponent`, as numerator and denominator. -/
def scaled (num den : Nat) (exponent : Int) : Nat × Nat :=
  (num * Nat.pow 2 (-exponent).toNat, den * Nat.pow 2 exponent.toNat)

/-- The exponent that puts `num / den` into the normal mantissa range, found from the binary
logarithms and corrected by exact comparison. -/
def normalExponent (num den : Nat) : Int :=
  let guess : Int := (Nat.log2 num : Int) - (Nat.log2 den : Int) - (precision - 1 : Nat)
  let (n, d) := scaled num den guess
  if n / d ≥ Nat.pow 2 precision then guess + 1
  else if n / d < Nat.pow 2 (precision - 1) then guess - 1
  else guess

/-- The value nearest to `num / den`, a tie going to the even mantissa. -/
def ofRatio (num den : Nat) : Binary :=
  if num = 0 ∨ den = 0 then zero
  else
    let exponent := max (normalExponent num den) minExponent
    let (n, d) := scaled num den exponent
    let mantissa := roundDiv n d .toEven
    if mantissa = Nat.pow 2 precision then ⟨Nat.pow 2 (precision - 1), exponent + 1⟩ else ⟨mantissa, exponent⟩

/-- The value nearest to a natural. -/
def ofNat (value : Nat) : Binary := ofRatio value 1

/-- The natural a value without fraction stands for; a fraction is dropped. -/
def toNat (value : Binary) : Nat := value.numerator / value.denominator

end Binary

end Testbench.Decimal
