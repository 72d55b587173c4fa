import Testbench.ErrorKind
/-!
Failures of reading and writing the binary format.

Reading stops at the first failure: input that ends before a value starts, input that ends
inside a value, a length above its limit, or a number not written in its shortest form. A write
buffer whose bytes were taken refuses further writes.
-/

namespace Testbench.Codec

/-- Why reading or writing binary data failed. -/
inductive Error where
  /-- The input ended before the first byte of a value. -/
  | endOfInput
  /-- The input ended inside a value. -/
  | truncated
  /-- A length prefix above its limit. -/
  | tooBig (length limit : Nat)
  /-- A variable-length number written in more bytes than it needs. -/
  | nonCanonical (value : Nat) (marker : UInt8)
  /-- A write to a buffer whose bytes were already taken. -/
  | drained
  deriving DecidableEq, Repr

/-- The digits of a byte in lowercase hexadecimal, without leading zeros. -/
def hexNumber (value : Nat) : String :=
  String.ofList (Nat.toDigits 16 value)

/-- The text of a failure. -/
def Error.message : Error → String
  | .endOfInput => "EOF"
  | .truncated => "unexpected EOF"
  | .tooBig length limit => s!"length is too big: {length} > {limit}"
  | .nonCanonical value marker => s!"non-canonical varint: {value} with prefix 0x" ++ hexNumber marker.toNat
  | .drained => "buffer already drained"

/-- The causes a failure is classified by. -/
def Error.kinds : Error → List ErrorKind
  | .endOfInput => [.endOfInput]
  | .truncated => [.unexpectedEndOfInput]
  | .tooBig _ _ => [.tooBig]
  | .nonCanonical _ _ => [.nonCanonical]
  | .drained => [.drained]

end Testbench.Codec
