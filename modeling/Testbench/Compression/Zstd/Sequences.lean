import Testbench.Compression.Zstd.Huffman
/-!
Sequences: how a compressed block rebuilds its content from literals and earlier output.

A sequence copies some literals, then a match: bytes from a given distance back in the output,
one at a time, so a match may overlap itself. Literal lengths, match lengths and offsets are
coded as symbols of three entropy tables plus extra bits. Offset values up to three name one
of the three most recent offsets; the recent offsets start as 1, 4 and 8 in every frame.
-/

namespace Testbench.Zstd

/-- The baseline and extra bits of each literal length code. -/
def literalLengthCodes : Array (Nat × Nat) :=
  #[(0, 0), (1, 0), (2, 0), (3, 0), (4, 0), (5, 0), (6, 0), (7, 0), (8, 0), (9, 0), (10, 0),
    (11, 0), (12, 0), (13, 0), (14, 0), (15, 0), (16, 1), (18, 1), (20, 1), (22, 1), (24, 2),
    (28, 2), (32, 3), (40, 3), (48, 4), (64, 6), (128, 7), (256, 8), (512, 9), (1024, 10),
    (2048, 11), (4096, 12), (8192, 13), (16384, 14), (32768, 15), (65536, 16)]

/-- The baseline and extra bits of each match length code. -/
def matchLengthCodes : Array (Nat × Nat) :=
  (List.range 32).toArray.map (fun code => (code + 3, 0)) ++
  #[(35, 1), (37, 1), (39, 1), (41, 1), (43, 2), (47, 2), (51, 3), (59, 3), (67, 4), (83, 4),
    (99, 5), (131, 7), (259, 8), (515, 9), (1027, 10), (2051, 11), (4099, 12), (8195, 13),
    (16387, 14), (32771, 15), (65539, 16)]

/-- The predefined literal length frequencies. -/
def literalLengthDefault : FseTable :=
  FseTable.build 6 [4, 3, 2, 2, 2, 2, 2, 2, 2, 2, 2, 2, 2, 1, 1, 1, 2, 2, 2, 2, 2, 2, 2, 2, 2, 3,
    2, 1, 1, 1, 1, 1, -1, -1, -1, -1]

/-- The predefined match length frequencies. -/
def matchLengthDefault : FseTable :=
  FseTable.build 6 [1, 4, 3, 2, 2, 2, 2, 2, 2, 1, 1, 1, 1, 1, 1, 1, 1, 1, 1, 1, 1, 1, 1, 1, 1, 1,
    1, 1, 1, 1, 1, 1, 1, 1, 1, 1, 1, 1, 1, 1, 1, 1, 1, 1, 1, 1, -1, -1, -1, -1, -1, -1, -1]

/-- The predefined offset frequencies. -/
def offsetDefault : FseTable :=
  FseTable.build 5 [1, 1, 1, 1, 1, 1, 2, 2, 2, 1, 1, 1, 1, 1, 1, 1, 1, 1, 1, 1, 1, 1, 1, 1, 1,
    -1, -1, -1, -1]

/-- What the blocks of a frame hand on to the next: the tables last used and the recent
offsets. -/
structure History where
  /-- The Huffman table of the last compressed literals. -/
  huffman : Option HuffmanTable := none
  /-- The literal length table last used. -/
  literalLengths : Option FseTable := none
  /-- The offset table last used. -/
  offsets : Option FseTable := none
  /-- The match length table last used. -/
  matchLengths : Option FseTable := none
  /-- The three most recent offsets, the latest first. -/
  recent : Nat × Nat × Nat := (1, 4, 8)
  deriving Inhabited

/-- One sequence: literals to copy, then a match. -/
structure Sequence where
  /-- Literals copied first. -/
  literals : Nat
  /-- The offset value as coded: up to three names a recent offset. -/
  offset : Nat
  /-- Bytes copied from earlier output. -/
  matchLength : Nat
  deriving Repr

/-- Reads one table of a sequences section in the given mode: predefined, a single symbol,
described, or the one used before. Gives the table and the bytes used. -/
def readSequenceTable (mode : Nat) (data : ByteArray) (start : Nat) (default : FseTable)
    (maxSymbol maxAccuracy : Nat) (previous : Option FseTable) : Except Error (FseTable × Nat) :=
  match mode with
  | 0 => .ok (default, 0)
  | 1 =>
    if start < data.size then
      let symbol := byteAt data start
      if symbol > maxSymbol then .error (.corrupt s!"rle symbol {symbol} >= max {maxSymbol + 1}")
      else .ok (FseTable.single symbol, 1)
    else .error .blockTooSmall
  | 2 => readTable (data.extract start data.size) maxSymbol maxAccuracy
  | _ =>
    match previous with
    | some table => .ok (table, 0)
    | none => .error (.corrupt "repeat table without previous table")

/-- The three states and the stream while decoding sequences. -/
structure SequenceState where
  /-- The literal length state. -/
  literalLength : Nat
  /-- The offset state. -/
  offset : Nat
  /-- The match length state. -/
  matchLength : Nat
  /-- The stream. -/
  bits : BackwardBits

/-- Decodes `count` sequences: each reads the offset's, the match length's and the literal
length's extra bits, then, except after the last, moves the three states on. -/
def decodeSequences (literalTable offsetTable matchTable : FseTable) :
    Nat → SequenceState → Array Sequence → Except Error (Array Sequence × BackwardBits)
  | 0, state, out => .ok (out, state.bits)
  | count + 1, state, out => do
    let offsetCode := (offsetTable.state state.offset).symbol
    let matchCode := (matchTable.state state.matchLength).symbol
    let literalCode := (literalTable.state state.literalLength).symbol
    if offsetCode > 31 then throw (.corrupt "invalid offset code")
    let (matchBase, matchExtra) ← match matchLengthCodes[matchCode]? with
      | some entry => pure entry
      | none => throw (.corrupt "invalid match length code")
    let (literalBase, literalExtra) ← match literalLengthCodes[literalCode]? with
      | some entry => pure entry
      | none => throw (.corrupt "invalid literal length code")
    let (offsetBits, bits) := state.bits.read offsetCode
    let (matchBits, bits) := bits.read matchExtra
    let (literalBits, bits) := bits.read literalExtra
    let sequence : Sequence :=
      ⟨literalBase + literalBits, Nat.pow 2 offsetCode + offsetBits, matchBase + matchBits⟩
    let out := out.push sequence
    if count = 0 then return (out, bits)
    let (literalLength, bits) := literalTable.next state.literalLength bits
    let (matchLength, bits) := matchTable.next state.matchLength bits
    let (offset, bits) := offsetTable.next state.offset bits
    decodeSequences literalTable offsetTable matchTable count ⟨literalLength, offset, matchLength, bits⟩ out

/-- The distance a coded offset stands for, and the recent offsets after it. -/
def resolveOffset (recent : Nat × Nat × Nat) (value literals : Nat) : Nat × (Nat × Nat × Nat) :=
  let (first, second, third) := recent
  if value > 3 then (value - 3, (value - 3, first, second))
  else
    let index := if literals = 0 then value + 1 else value
    match index with
    | 1 => (first, recent)
    | 2 => (second, (second, first, third))
    | 3 => (third, (third, first, second))
    | _ => (first - 1, (first - 1, first, second))

/-- Appends `length` bytes copied from `distance` back, one at a time. -/
def copyMatch (out : ByteArray) (distance : Nat) : Nat → ByteArray
  | 0 => out
  | length + 1 => copyMatch (out.push (out[out.size - distance]?.getD 0)) distance length

/-- Carries out sequences over the output of the frame so far; the literals left over after the
last sequence are appended at the end. -/
def executeSequences (out : ByteArray) (literals : ByteArray) (recent : Nat × Nat × Nat) :
    List Sequence → Nat → Except Error (ByteArray × (Nat × Nat × Nat))
  | [], used => .ok (out ++ literals.extract used literals.size, recent)
  | sequence :: rest, used => do
    if used + sequence.literals > literals.size then
      throw (.corrupt s!"unexpected literal count, want {sequence.literals} bytes, but only {literals.size - used} is available")
    let out := out ++ literals.extract used (used + sequence.literals)
    let (distance, recent) := resolveOffset recent sequence.offset sequence.literals
    if sequence.matchLength > 0 && (distance = 0 ∨ distance > out.size) then
      throw (.corrupt s!"match offset ({distance}) bigger than current history ({out.size})")
    executeSequences (copyMatch out distance sequence.matchLength) literals recent rest
      (used + sequence.literals)

/-- Reads a sequences section and carries it out. -/
def applySequences (data : ByteArray) (literals : ByteArray) (history : History) (out : ByteArray) :
    Except Error (ByteArray × History) := do
  if data.size = 0 then throw .blockTooSmall
  let head := byteAt data 0
  let (count, start) ←
    if head < 128 then pure (head, 1)
    else if head < 255 then
      if data.size < 2 then throw .blockTooSmall else pure ((head - 128) * 256 + byteAt data 1, 2)
    else if data.size < 3 then throw .blockTooSmall
    else pure (byteAt data 1 + byteAt data 2 * 256 + 0x7F00, 3)
  if count = 0 then
    return (out ++ literals, history)
  if start ≥ data.size then throw .blockTooSmall
  let modes := byteAt data start
  if modes % 4 ≠ 0 then throw (.corrupt "reserved bits set in sequences header")
  let position := start + 1
  let (literalTable, used) ←
    readSequenceTable (modes / 64) data position literalLengthDefault 35 9 history.literalLengths
  let position := position + used
  let (offsetTable, used) ←
    readSequenceTable (modes / 16 % 4) data position offsetDefault 31 8 history.offsets
  let position := position + used
  let (matchTable, used) ←
    readSequenceTable (modes / 4 % 4) data position matchLengthDefault 52 9 history.matchLengths
  let position := position + used
  let bits ← BackwardBits.start (data.extract position data.size)
  let (literalState, bits) := literalTable.first bits
  let (offsetState, bits) := offsetTable.first bits
  let (matchState, bits) := matchTable.first bits
  let (sequences, bits) ← decodeSequences literalTable offsetTable matchTable count
    ⟨literalState, offsetState, matchState, bits⟩ #[]
  if bits.position ≠ 0 then throw (.corrupt "sequence bitstream was not fully consumed")
  let (out, recent) ← executeSequences out literals history.recent sequences.toList 0
  let history := { history with literalLengths := literalTable, offsets := offsetTable }
  pure (out, { history with matchLengths := matchTable, recent })

end Testbench.Zstd
