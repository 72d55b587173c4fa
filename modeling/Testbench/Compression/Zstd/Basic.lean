/-!
Zstandard decoding: failures and bit-level reading.

Entropy-coded parts of a frame are bit streams. Table descriptions are read forwards, the bits
of each byte from the least significant. Compressed payloads are read backwards: the last byte
holds a marker, its highest set bit, and reading starts just below it, taking the bits towards
the start of the stream. Reading past the start yields zero bits; whether a stream was used up
exactly is checked by the callers that care.
-/

namespace Testbench.Zstd

/-- Why a compressed stream could not be decoded. -/
inductive Error where
  /-- The input ended inside a frame. -/
  | unexpectedEnd
  /-- A frame does not start with the frame magic number. -/
  | magicMismatch
  /-- The reserved bit of a frame header is set. -/
  | reservedHeaderBit
  /-- A frame names a dictionary, and none is known. -/
  | unknownDictionary
  /-- A frame's window is below the least window size. -/
  | windowTooSmall
  /-- A frame's window or a block exceeds what a window holds. -/
  | windowExceeded
  /-- The output would exceed the size limit. -/
  | sizeExceeded
  /-- A block of the reserved type. -/
  | reservedBlock
  /-- A compressed block larger than a block may be. -/
  | compressedTooBig
  /-- A compressed block too short for its own headers. -/
  | blockTooSmall
  /-- A frame's content is larger than its header says. -/
  | frameSizeExceeded
  /-- A frame's content size differs from its header. -/
  | frameSizeMismatch
  /-- The content checksum does not match. -/
  | checksumMismatch
  /-- Malformed entropy-coded data, with a description. -/
  | corrupt (what : String)
  deriving DecidableEq, Repr

/-- The text of a decoding failure. -/
def Error.message : Error → String
  | .unexpectedEnd => "unexpected EOF"
  | .magicMismatch => "invalid input: magic number mismatch"
  | .reservedHeaderBit => "reserved bit set on frame header"
  | .unknownDictionary => "unknown dictionary"
  | .windowTooSmall => "invalid input: window size was too small"
  | .windowExceeded => "window size exceeded"
  | .sizeExceeded => "decompressed size exceeds configured limit"
  | .reservedBlock => "invalid input: reserved block type encountered"
  | .compressedTooBig => "invalid input: compressed size too big"
  | .blockTooSmall => "block too small"
  | .frameSizeExceeded => "frame size exceeded"
  | .frameSizeMismatch => "frame size does not match size on stream"
  | .checksumMismatch => "CRC check failed"
  | .corrupt what => what

/-- The byte at a position, zero beyond the end. -/
def byteAt (data : ByteArray) (position : Nat) : Nat := (data[position]?.getD 0).toNat

/-- The little-endian number of `count` bytes from a position. -/
def littleEndianAt (data : ByteArray) (position count : Nat) : Nat :=
  (List.range count).foldr (fun index acc => byteAt data (position + index) + 256 * acc) 0

/-- The bits `[position, position + count)` of a byte string as a number, bit `i` being bit
`i % 8` of byte `i / 8`; bits outside the string are zero. -/
def bitsAt (data : ByteArray) (position : Int) (count : Nat) : Nat :=
  if position ≥ 0 then
    let start := position.toNat
    let first := start / 8
    let last := (start + count + 7) / 8
    (littleEndianAt data first (last - first) >>> (start % 8)) % Nat.pow 2 count
  else
    let below := (-position).toNat
    if below ≥ count then 0
    else
      let upper := count - below
      let last := (upper + 7) / 8
      (littleEndianAt data 0 last % Nat.pow 2 upper) <<< below

/-- A stream read backwards: the bits below `position` are still to be read. -/
structure BackwardBits where
  /-- The stream. -/
  data : ByteArray
  /-- How many bits are left; negative once reading went past the start. -/
  position : Int

namespace BackwardBits

/-- Starts reading just below the marker bit of the last byte. -/
def start (data : ByteArray) : Except Error BackwardBits :=
  if data.size = 0 then .error (.corrupt "corrupt stream: too short")
  else
    let last := byteAt data (data.size - 1)
    if last = 0 then .error (.corrupt "corrupt stream, did not find end of stream")
    else .ok ⟨data, 8 * (data.size - 1 : Nat) + (Nat.log2 last : Nat)⟩

/-- Reads `count` bits, the first read being the most significant. -/
def read (bits : BackwardBits) (count : Nat) : Nat × BackwardBits :=
  let position := bits.position - count
  (bitsAt bits.data position count, { bits with position })

/-- Looks at the next `count` bits without reading them. -/
def peek (bits : BackwardBits) (count : Nat) : Nat := (bits.read count).1

/-- Has every bit been read, and none beyond? -/
def finished (bits : BackwardBits) : Bool := bits.position == 0

/-- Has reading gone past the start? -/
def overrun (bits : BackwardBits) : Bool := bits.position < 0

end BackwardBits

end Testbench.Zstd
