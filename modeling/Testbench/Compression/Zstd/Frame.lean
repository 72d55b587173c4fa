import Testbench.Compression.Zstd.Sequences
import Testbench.Compression.Xxhash
/-!
Zstandard frames.

A stream is a run of frames, each decoded on its own and the outputs joined; skippable frames
are passed over. A frame has a header (magic number, descriptor, window, dictionary id,
content size), blocks up to the one marked last, and an optional checksum: the low 32 bits of
the 64-bit xxHash of its content. A block is raw bytes, one byte repeated, or compressed:
a literals section followed by a sequences section.
-/

namespace Testbench.Zstd

/-- The magic number that starts a frame, as its four bytes. -/
def frameMagic : List Nat := [0x28, 0xB5, 0x2F, 0xFD]

/-- The least window. -/
def minWindow : Nat := 1024

/-- The largest block. -/
def maxBlockSize : Nat := 128 * 1024

/-- The most output a stream may decode to. -/
def maxDecodedSize : Nat := 64 * 1024 * 1024

/-- A frame header. -/
structure FrameHeader where
  /-- The window size. -/
  window : Nat
  /-- The content size, if given. -/
  contentSize : Option Nat
  /-- Does a checksum follow the blocks? -/
  checksum : Bool
  deriving Repr

/-- Takes `count` bytes from a position, failing at the end of the input. -/
def take (data : ByteArray) (position count : Nat) : Except Error (ByteArray × Nat) :=
  if position + count ≤ data.size then .ok (data.extract position (position + count), position + count)
  else .error .unexpectedEnd

/-- What starts at a position: the end of the input, a frame header with the position after
it, or a skippable frame with the position after it. -/
inductive FrameStart where
  | finished
  | frame (header : FrameHeader) (next : Nat)
  | skip (next : Nat)

/-- Reads what starts at a position. -/
def readFrameStart (data : ByteArray) (position : Nat) : Except Error FrameStart := do
  if position ≥ data.size then return .finished
  let (magic, next) ← take data position 4
  let bytes := magic.toList.map (·.toNat)
  if bytes.drop 1 == [0x2A, 0x4D, 0x18] && (bytes.head?.any (· / 16 == 5)) then
    let (size, next) ← take data next 4
    let skipped := littleEndianAt size 0 4
    if next + skipped > data.size then throw .unexpectedEnd
    return .skip (next + skipped)
  if bytes ≠ frameMagic then throw .magicMismatch
  let (descriptor, next) ← take data next 1
  let descriptor := byteAt descriptor 0
  let singleSegment := descriptor &&& 0x20 != 0
  if descriptor &&& 0x08 != 0 then throw .reservedHeaderBit
  let (window, next) ←
    if singleSegment then pure (0, next)
    else do
      let (byte, next) ← take data next 1
      let byte := byteAt byte 0
      let base := Nat.pow 2 (10 + byte / 8)
      pure (base + base / 8 * (byte % 8), next)
  let dictionarySize := match descriptor % 4 with | 3 => 4 | size => size
  let (dictionary, next) ← take data next dictionarySize
  if littleEndianAt dictionary 0 dictionarySize ≠ 0 then throw .unknownDictionary
  let sizeBytes := match descriptor / 64 with
    | 0 => if singleSegment then 1 else 0
    | 1 => 2
    | 2 => 4
    | _ => 8
  let (sizeField, next) ← take data next sizeBytes
  let contentSize : Option Nat := match sizeBytes with
    | 0 => none
    | 2 => some (littleEndianAt sizeField 0 2 + 256)
    | count => some (littleEndianAt sizeField 0 count)
  let window := if window = 0 && singleSegment then max (contentSize.getD 0) minWindow else window
  if window > maxDecodedSize then throw (if singleSegment then .sizeExceeded else .windowExceeded)
  if window < minWindow then throw .windowTooSmall
  return .frame ⟨window, contentSize, descriptor &&& 0x04 != 0⟩ next

/-- Reads a literals section: the literals and the bytes used. -/
def readLiterals (data : ByteArray) (window : Nat) (history : History) :
    Except Error (ByteArray × Nat × History) := do
  if data.size < 2 then throw .blockTooSmall
  let head := byteAt data 0
  let kind := head % 4
  let format := head / 4 % 4
  if kind < 2 then
    let (size, start) ← match format with
      | 1 => pure (head / 16 + byteAt data 1 * 16, 2)
      | 3 =>
        if data.size < 3 then throw .blockTooSmall
        else pure (head / 16 + byteAt data 1 * 16 + byteAt data 2 * 4096, 3)
      | _ => pure (head / 8, 1)
    if size > window ∨ size > maxBlockSize then throw .windowExceeded
    if kind = 0 then
      if start + size > data.size then throw .blockTooSmall
      return (data.extract start (start + size), start + size, history)
    if start + 1 > data.size then throw .blockTooSmall
    return (⟨Array.replicate size (data[start]?.getD 0)⟩, start + 1, history)
  let headerSize := match format with | 0 | 1 => 3 | 2 => 4 | _ => 5
  if data.size < headerSize then throw .blockTooSmall
  let sizes := littleEndianAt data 0 headerSize / 16
  let sizeBits := match format with | 0 | 1 => 10 | 2 => 14 | _ => 18
  let regenerated := sizes % Nat.pow 2 sizeBits
  let compressed := sizes / Nat.pow 2 sizeBits
  let four := format ≠ 0
  if regenerated > window ∨ regenerated > maxBlockSize then throw .windowExceeded
  if headerSize + compressed > data.size then throw .blockTooSmall
  let payload := data.extract headerSize (headerSize + compressed)
  let (table, streams) ←
    if kind = 2 then do
      let (table, used) ← HuffmanTable.read payload
      pure (table, payload.extract used payload.size)
    else match history.huffman with
      | some table => pure (table, payload)
      | none => throw (.corrupt "literal block was treeless, but no history was defined")
  let literals ← table.decode regenerated four streams
  if literals.size ≠ regenerated then
    throw (.corrupt s!"literal output size mismatch want {regenerated}, got {literals.size}")
  return (literals, headerSize + compressed, { history with huffman := table })

/-- Decodes a compressed block onto the output of its frame. -/
def decodeCompressed (data : ByteArray) (window : Nat) (history : History) (out : ByteArray) :
    Except Error (ByteArray × History) := do
  let (literals, used, history) ← readLiterals data window history
  applySequences (data.extract used data.size) literals history out

/-- Decodes the blocks of a frame from a position, at most `fuel` of them; gives the content
and the position after the last block. -/
def decodeBlocks (data : ByteArray) (header : FrameHeader) :
    Nat → Nat → History → ByteArray → Except Error (ByteArray × Nat)
  | 0, _, _, _ => .error .unexpectedEnd
  | fuel + 1, position, history, out => do
    let (head, next) ← take data position 3
    let head := littleEndianAt head 0 3
    let last := head % 2 = 1
    let kind := head / 2 % 4
    let size := head / 8
    let (out, next, history) ← match kind with
      | 0 =>
        if size > maxBlockSize ∨ size > header.window then throw .windowExceeded
        let (bytes, next) ← take data next size
        pure (out ++ bytes, next, history)
      | 1 =>
        if size > maxBlockSize ∨ size > header.window then throw .windowExceeded
        let (byte, next) ← take data next 1
        pure (out ++ ⟨Array.replicate size (byte[0]?.getD 0)⟩, next, history)
      | 2 =>
        if size > maxBlockSize ∨ size > header.window then throw .compressedTooBig
        if size < 2 then throw .blockTooSmall
        let (block, next) ← take data next size
        let (out, history) ← decodeCompressed block header.window history out
        pure (out, next, history)
      | _ => throw .reservedBlock
    if out.size > maxDecodedSize then throw .sizeExceeded
    if let some expected := header.contentSize then
      if out.size > expected then throw .frameSizeExceeded
    if last then return (out, next)
    decodeBlocks data header fuel next history out

/-- Decodes one frame from a position: its content and the position after it. -/
def decodeFrame (data : ByteArray) (header : FrameHeader) (position : Nat) :
    Except Error (ByteArray × Nat) := do
  let (content, next) ← decodeBlocks data header (data.size + 1) position {} ByteArray.empty
  if let some expected := header.contentSize then
    if content.size ≠ expected then throw .frameSizeMismatch
  if !header.checksum then return (content, next)
  let (sum, next) ← take data next 4
  if littleEndianAt sum 0 4 ≠ (Xxhash.hash64 content).toNat % Nat.pow 2 32 then throw .checksumMismatch
  return (content, next)

/-- Decodes the frames from a position on, at most `fuel` of them, after `out`. -/
def decodeFrames (data : ByteArray) : Nat → Nat → ByteArray → Except Error ByteArray
  | 0, _, out => .ok out
  | fuel + 1, position, out => do
    match ← readFrameStart data position with
    | .finished => return out
    | .skip next => decodeFrames data fuel next out
    | .frame header next =>
      if let some size := header.contentSize then
        if size > maxDecodedSize - min out.size maxDecodedSize then throw .sizeExceeded
      let (content, next) ← decodeFrame data header next
      let out := out ++ content
      if out.size > maxDecodedSize then throw .sizeExceeded
      if next ≥ data.size then return out
      decodeFrames data fuel next out

/-- Decodes a stream of frames. -/
def decompress (data : ByteArray) : Except Error ByteArray :=
  decodeFrames data (data.size + 1) 0 ByteArray.empty

/-- A frame holding the content in raw blocks, with its checksum. -/
def compressRaw (content : ByteArray) : ByteArray :=
  let chunks := (List.range ((content.size + maxBlockSize - 1) / maxBlockSize)).map fun index =>
    content.extract (index * maxBlockSize) ((index + 1) * maxBlockSize)
  let chunks := if chunks.isEmpty then [ByteArray.empty] else chunks
  let count := chunks.length
  let blocks := chunks.zipIdx.foldl (fun acc (chunk, index) =>
    let head := chunk.size * 8 + (if index + 1 = count then 1 else 0)
    acc ++ ⟨#[head.toUInt8, (head / 256).toUInt8, (head / 65536).toUInt8]⟩ ++ chunk) ByteArray.empty
  let windowByte : Nat := 0x58
  let sum := (Xxhash.hash64 content).toNat
  ⟨(frameMagic.map Nat.toUInt8).toArray ++ #[0x04, windowByte.toUInt8]⟩ ++ blocks ++
    ⟨#[sum.toUInt8, (sum / 256).toUInt8, (sum / 65536).toUInt8, (sum / 16777216).toUInt8]⟩

end Testbench.Zstd
