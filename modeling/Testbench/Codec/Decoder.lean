import Testbench.Codec.Error
import Testbench.Bytes.Word
/-!
Decoders: functions from the input bytes to a value and the bytes after it.

A decoder fails with an error of its own type; the primitive readers fail with `Codec.Error`
and are lifted into any error type that can hold one. Reading a fixed number of bytes fails with
`endOfInput` when no byte is left and with `truncated` when some but too few are.

Main statement: `exactly_append`, reading `n` bytes from a run of `n` bytes and more gives that
run and the rest.
-/

namespace Testbench.Codec

/-- A reader of values of type `α` that fails with errors of type `ε`. -/
def Decoder (ε α : Type) : Type := List UInt8 → Except ε (α × List UInt8)

namespace Decoder

/-- Gives a value and reads nothing. -/
protected def pure {ε α : Type} (value : α) : Decoder ε α := fun input => .ok (value, input)

/-- Runs a decoder and then the decoder that its value chooses. -/
protected def bind {ε α β : Type} (first : Decoder ε α) (next : α → Decoder ε β) : Decoder ε β :=
  fun input =>
    match first input with
    | .ok (value, rest) => next value rest
    | .error failure => .error failure

instance {ε : Type} : Monad (Decoder ε) where
  pure := Decoder.pure
  bind := Decoder.bind

/-- Fails without reading. -/
def fail {ε α : Type} (failure : ε) : Decoder ε α := fun _ => .error failure

/-- Changes the type of the errors. -/
def mapError {ε ε' α : Type} (change : ε → ε') (decoder : Decoder ε α) : Decoder ε' α :=
  fun input => (decoder input).mapError change

/-- Error types that can hold a failure of the binary format. -/
class FromCodec (ε : Type) where
  /-- The error for a failure of the binary format. -/
  ofCodec : Error → ε

instance : FromCodec Error := ⟨id⟩

instance {ε : Type} [FromCodec ε] : MonadLift (Decoder Error) (Decoder ε) where
  monadLift decoder := decoder.mapError FromCodec.ofCodec

/-- Whether any input is left. -/
def atEnd {ε : Type} : Decoder ε Bool := fun input => .ok (input.isEmpty, input)

/-- Exactly `count` bytes. -/
def exactly (count : Nat) : Decoder Error (List UInt8) := fun input =>
  if count ≤ input.length then .ok (input.take count, input.drop count)
  else if input.isEmpty then .error .endOfInput
  else .error .truncated

/-- One byte. -/
def byte : Decoder Error UInt8 := fun input =>
  match input with
  | first :: rest => .ok (first, rest)
  | [] => .error .endOfInput

/-- A flag: any byte but zero is true. -/
def flag : Decoder Error Bool := do
  let value ← byte
  pure (value != 0)

/-- A number of `width` bytes, least significant first. -/
def littleEndian (width : Nat) : Decoder Error Nat := do
  let bytes ← exactly width
  pure (Word.ofLittleEndian bytes)

/-- A two-byte number. -/
def u16 : Decoder Error Nat := littleEndian 2

/-- A four-byte number. -/
def u32 : Decoder Error Nat := littleEndian 4

/-- An eight-byte number. -/
def u64 : Decoder Error Nat := littleEndian 8

/-- Runs a decoder `count` times and collects the values. -/
def times {ε α : Type} (decoder : Decoder ε α) : Nat → Decoder ε (List α)
  | 0 => pure []
  | count + 1 => do
    let first ← decoder
    let rest ← times decoder count
    pure (first :: rest)

theorem exactly_append (run rest : List UInt8) :
    exactly run.length (run ++ rest) = .ok (run, rest) := by
  simp [exactly]

end Decoder

end Testbench.Codec
