import Testbench.Codec.Decoder
/-!
Variable-length unsigned numbers.

A number below `0xfd` is one byte. Larger numbers are a marker byte followed by the number in
two (`0xfd`), four (`0xfe`) or eight (`0xff`) bytes, least significant first, always in the
shortest of these forms. Reading refuses a longer form than needed.
-/

namespace Testbench.Codec

/-- The shortest form of a number below `2 ^ 64`. -/
def encodeVarUint (value : Nat) : List UInt8 :=
  if value < 0xfd then [value.toUInt8]
  else if value ≤ 0xffff then 0xfd :: Word.toLittleEndian 2 value
  else if value ≤ 0xffffffff then 0xfe :: Word.toLittleEndian 4 value
  else 0xff :: Word.toLittleEndian 8 value

namespace Decoder

/-- The number behind a marker, refused when a shorter form could hold it. -/
def wideVarUint (width least : Nat) (marker : UInt8) : Decoder Error Nat := do
  let value ← littleEndian width
  if value < least then fail (.nonCanonical value marker) else pure value

/-- A variable-length number in its shortest form. -/
def varUint : Decoder Error Nat := do
  let marker ← byte
  if marker == 0xfd then wideVarUint 2 0xfd marker
  else if marker == 0xfe then wideVarUint 4 0x10000 marker
  else if marker == 0xff then wideVarUint 8 0x100000000 marker
  else pure marker.toNat

/-- A length prefix no larger than `limit`. -/
def length (limit : Nat) : Decoder Error Nat := do
  let value ← varUint
  if value > limit then fail (.tooBig value limit) else pure value

/-- The default limit of lengths. -/
def defaultLimit : Nat := 0x1000000

/-- A byte string after its length, which is at most `limit`. -/
def varBytes (limit : Nat) : Decoder Error (List UInt8) := do
  let count ← length limit
  exactly count

/-- A sequence after its count, which is at most `limit`. -/
def array {ε α : Type} [FromCodec ε] (element : Decoder ε α) (limit : Nat) :
    Decoder ε (List α) := do
  let count ← (length limit : Decoder Error Nat)
  times element count

end Decoder

end Testbench.Codec
