import Testbench.Codec.VarUint
/-!
A reading session that keeps its first failure.

The session holds the unread input and the first failure. Once a read fails, every later read
gives its default value and the same failure, so a record of many fields is read with one check
at the end.
-/

namespace Testbench.Codec

/-- Unread input and the failure that stopped reading, if any. -/
structure Reader where
  /-- The bytes not read yet. -/
  input : List UInt8
  /-- The first failure. -/
  failure : Option Error := none
  deriving Repr

namespace Reader

/-- Reads one value, or gives `default` if reading has already failed or fails now. -/
def read {α : Type} (reader : Reader) (decoder : Decoder Error α) (default : α) : α × Reader :=
  match reader.failure with
  | some _ => (default, reader)
  | none =>
    match decoder reader.input with
    | .ok (value, rest) => (value, { input := rest })
    | .error failure => (default, { input := [], failure := some failure })

/-- Fills a buffer of `count` bytes: the bytes that are left go first and the rest stays zero.
A buffer that cannot be filled sets the failure of a short read. -/
def fill (reader : Reader) (count : Nat) : List UInt8 × Reader :=
  match reader.failure with
  | some _ => (List.replicate count 0, reader)
  | none =>
    match Decoder.exactly count reader.input with
    | .ok (bytes, rest) => (bytes, { input := rest })
    | .error failure =>
      (reader.input ++ List.replicate (count - reader.input.length) 0,
        { input := [], failure := some failure })

end Reader

/-- A write buffer whose bytes can be taken once; writes after that are refused. -/
structure Buffer where
  /-- The bytes written so far. -/
  contents : List UInt8 := []
  /-- Whether the bytes were taken. -/
  drained : Bool := false
  deriving Repr

namespace Buffer

/-- Appends bytes unless the buffer was drained. -/
def write (buffer : Buffer) (bytes : List UInt8) : Buffer :=
  if buffer.drained then buffer else { buffer with contents := buffer.contents ++ bytes }

/-- Takes the bytes: the first time they are given, later there are none. -/
def take (buffer : Buffer) : Option (List UInt8) × Buffer :=
  if buffer.drained then (none, buffer) else (some buffer.contents, { buffer with drained := true })

/-- Empties the buffer and allows writes again. -/
def reset (_ : Buffer) : Buffer := {}

/-- The failure a write would meet. -/
def failure (buffer : Buffer) : Option Error :=
  if buffer.drained then some .drained else none

end Buffer

end Testbench.Codec
