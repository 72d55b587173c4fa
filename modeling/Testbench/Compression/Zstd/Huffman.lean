import Testbench.Compression.Zstd.Fse
/-!
Huffman-coded literals.

A code is given by a weight per symbol: weight `w > 0` means a code of `maxBits + 1 - w` bits,
and the last symbol's weight is implied by the others, since the shares `2 ^ (w - 1)` must fill
a power of two. Weights are written four bits each, or compressed with a small entropy table
decoded by two interleaved states. Decoding looks up `maxBits` bits in a flat table whose slots
go to the symbols by rising weight, then by symbol, each taking `2 ^ (w - 1)` slots.
-/

namespace Testbench.Zstd

/-- A Huffman decoding table. -/
structure HuffmanTable where
  /-- The longest code. -/
  maxBits : Nat
  /-- For each value of `maxBits` bits, the symbol and its code length. -/
  slots : Array (UInt8 × Nat)
  deriving Inhabited

/-- The longest code length allowed. -/
def maxHuffmanBits : Nat := 11

/-- The weights decoded by two interleaved states over a backward stream: each state in turn
gives its symbol and moves on; once the stream is used up and the next state would need bits,
both states give their symbols and decoding ends. -/
def decodeWeights (table : FseTable) : Nat → Nat → Nat → BackwardBits → Array Nat → Except Error (Array Nat)
  | 0, _, _, _, _ => .error (.corrupt "corrupt input: output table too large")
  | fuel + 1, first, second, bits, out =>
    let ends (state : Nat) := bits.finished && (table.state state).bits > 0
    if ends first then .ok ((out.push (table.state first).symbol).push (table.state second).symbol)
    else
      let out := out.push (table.state first).symbol
      let (first, bits) := table.next first bits
      let ends (state : Nat) := bits.finished && (table.state state).bits > 0
      if ends second then .ok ((out.push (table.state second).symbol).push (table.state first).symbol)
      else
        let out := out.push (table.state second).symbol
        let (second, bits) := table.next second bits
        if out.size ≥ 255 then .error (.corrupt s!"output size ({out.size}) > DecompressLimit (255)")
        else decodeWeights table fuel first second bits out

/-- Reads the weights of a table description; gives the weights and the bytes used. -/
def readWeights (data : ByteArray) : Except Error (Array Nat × Nat) := do
  if data.size = 0 then throw .blockTooSmall
  let header := byteAt data 0
  if header ≥ 128 then
    let count := header - 127
    let size := (count + 1) / 2
    if size + 1 > data.size then throw (.corrupt "input too small")
    let weights := (List.range count).map fun index =>
      let byte := byteAt data (1 + index / 2)
      if index % 2 = 0 then byte / 16 else byte % 16
    pure (weights.toArray, 1 + size)
  else
    if header + 1 > data.size then
      throw (.corrupt s!"input too small, want {header}, got {data.size - 1}")
    let part := data.extract 1 (1 + header)
    let (table, used) ← readTable part 255 6
    let bits ← BackwardBits.start (part.extract used part.size)
    let (first, bits) := table.first bits
    let (second, bits) := table.first bits
    let weights ← decodeWeights table 256 first second bits #[]
    pure (weights, 1 + header)

/-- Builds the decoding table of a list of weights, the last weight implied. -/
def HuffmanTable.ofWeights (given : Array Nat) : Except Error HuffmanTable := do
  if given.any (· > maxHuffmanBits) then throw (.corrupt "corrupt input: weight too large")
  let share (weight : Nat) : Nat := if weight = 0 then 0 else Nat.pow 2 (weight - 1)
  let total := (given.toList.map share).foldr (· + ·) 0
  if total = 0 then throw (.corrupt "corrupt input: weights zero")
  let maxBits := Nat.log2 total + 1
  if maxBits > maxHuffmanBits then throw (.corrupt "corrupt input: tableLog too big")
  let rest := Nat.pow 2 maxBits - total
  if Nat.pow 2 (Nat.log2 rest) ≠ rest then throw (.corrupt "corrupt input: last value not power of two")
  let weights := given.push (Nat.log2 rest + 1)
  let ones := (weights.toList.filter (· = 1)).length
  if ones < 2 ∨ ones % 2 ≠ 0 then throw (.corrupt "corrupt input: min elt size, even check failed ")
  let ordered := (List.range (maxBits + 1)).flatMap fun weight =>
    if weight = 0 then []
    else (weights.toList.zipIdx.filter (·.1 = weight)).map fun (_, symbol) => (symbol, weight)
  let slots := ordered.flatMap fun (symbol, weight) =>
    List.replicate (Nat.pow 2 (weight - 1)) (symbol.toUInt8, maxBits + 1 - weight)
  pure ⟨maxBits, slots.toArray⟩

/-- Reads a table description; gives the table and the bytes used. -/
def HuffmanTable.read (data : ByteArray) : Except Error (HuffmanTable × Nat) := do
  let (weights, used) ← readWeights data
  pure (← HuffmanTable.ofWeights weights, used)

/-- Decodes symbols until the stream is used up. -/
def HuffmanTable.decodeAll (table : HuffmanTable) (limit : Nat) :
    Nat → BackwardBits → Array UInt8 → Except Error (Array UInt8)
  | 0, _, _ => .error (.corrupt "corrupt stream: fuel exhausted")
  | fuel + 1, bits, out =>
    if bits.position ≤ 0 then
      if bits.overrun then .error .unexpectedEnd else .ok out
    else if out.size ≥ limit then .error (.corrupt "max decoded size exceeded")
    else
      let (symbol, length) := table.slots[bits.peek table.maxBits]?.getD (0, table.maxBits)
      let (_, bits) := bits.read length
      table.decodeAll limit fuel bits (out.push symbol)

/-- Decodes one stream of symbols, at most `limit` of them. -/
def HuffmanTable.decodeStream (table : HuffmanTable) (limit : Nat) (data : ByteArray) :
    Except Error (Array UInt8) := do
  let bits ← BackwardBits.start data
  table.decodeAll limit (8 * data.size + 1) bits #[]

/-- Decodes `size` symbols from one stream, or from four streams behind a table of the sizes
of the first three; the first three streams give a quarter each, rounded up. -/
def HuffmanTable.decode (table : HuffmanTable) (size : Nat) (four : Bool) (data : ByteArray) :
    Except Error ByteArray := do
  if !four then
    let out ← table.decodeStream size data
    return ⟨out⟩
  if data.size < 10 then throw (.corrupt "input too small")
  let first := littleEndianAt data 0 2
  let second := littleEndianAt data 2 2
  let third := littleEndianAt data 4 2
  let fourth : Int := data.size - 6 - first - second - third
  if fourth < 1 then throw (.corrupt "truncated input")
  let quarter := (size + 3) / 4
  let starts := [6, 6 + first, 6 + first + second, 6 + first + second + third]
  let sizes := [first, second, third, fourth.toNat]
  let parts ← (starts.zip sizes).mapM fun (start, length) =>
    table.decodeStream size (data.extract start (start + length))
  let out := parts.foldl (· ++ ·) #[]
  if (parts.take 3).any (·.size ≠ quarter) then
    throw (.corrupt s!"corruption detected: stream overrun {out.size}")
  pure ⟨out⟩

end Testbench.Zstd
