import Testbench.Decimal.Binary
/-!
Decimal text with a fixed number of places.

The exact binary value is rounded to the places asked for, a tie going to the even last digit,
and written with at least one digit before the point.
-/

namespace Testbench.Decimal

/-- Pads a digit text on the left with zeros to at least `width` digits. -/
def padDigits (width : Nat) (digits : String) : String :=
  String.ofList (List.replicate (width - digits.length) '0') ++ digits

/-- The value with exactly `places` digits after the point. -/
def Binary.fixed (value : Binary) (places : Nat) : String :=
  let units := roundDiv (value.numerator * Nat.pow 10 places) value.denominator .toEven
  let digits := padDigits (places + 1) (toString units)
  if places = 0 then digits
  else
    String.ofList (digits.toList.take (digits.length - places)) ++ "." ++
      String.ofList (digits.toList.drop (digits.length - places))

end Testbench.Decimal
