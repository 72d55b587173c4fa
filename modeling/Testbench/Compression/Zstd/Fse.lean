import Testbench.Compression.Zstd.Basic
/-!
Finite state entropy tables.

A table is described by the normalized frequency of each symbol: the frequencies sum to
`2 ^ accuracy`, and `-1` marks a symbol of less than one share. Decoding walks a state machine
of `2 ^ accuracy` states; each state names a symbol and, to reach the next state, a number of
bits to read and a baseline to add them to. Symbols are spread over the states with a fixed
step; `-1` symbols take the last states.
-/

namespace Testbench.Zstd

/-- One state of a decoding table. -/
structure FseState where
  /-- The symbol this state stands for. -/
  symbol : Nat
  /-- Bits to read for the next state. -/
  bits : Nat
  /-- What the bits read are added to. -/
  baseline : Nat
  deriving Repr, Inhabited

/-- A decoding table. -/
structure FseTable where
  /-- The accuracy: the table has `2 ^ accuracy` states. -/
  accuracy : Nat
  states : Array FseState
  deriving Repr, Inhabited

namespace FseTable

/-- The state at an index. -/
def state (table : FseTable) (index : Nat) : FseState := table.states[index]?.getD default

/-- A table of one symbol: every state stands for it and reads nothing. -/
def single (symbol : Nat) : FseTable := ⟨0, #[⟨symbol, 0, 0⟩]⟩

/-- The states that the symbols are spread over, in order of placement: each symbol with a
positive frequency `f` takes `f` states, walking with a fixed step over the states below the
ones taken by `-1` symbols. -/
def spread (accuracy : Nat) (counts : List Int) (highest : Nat) : Array Nat :=
  let size := Nat.pow 2 accuracy
  let step := size / 2 + size / 8 + 3
  let mask := size - 1
  let placements := counts.zipIdx.flatMap fun (count, symbol) =>
    if count > 0 then List.replicate count.toNat symbol else []
  let skip (position : Nat) : Nat :=
    -- the step is odd and the table a power of two, so every state is met within `size` steps
    (List.range size).foldl (fun current _ => if current > highest then (current + step) &&& mask else current)
      position
  let init : Array Nat × Nat := (Array.replicate size 0, 0)
  let (symbols, _) := placements.foldl (fun (symbols, position) symbol =>
    (symbols.set! position symbol, skip ((position + step) &&& mask))) init
  symbols

/-- Builds the decoding table of normalized frequencies. -/
def build (accuracy : Nat) (counts : List Int) : FseTable :=
  let size := Nat.pow 2 accuracy
  let lowSymbols := counts.zipIdx.filter (fun (count, _) => count = -1) |>.map (·.2)
  let highest := size - 1 - lowSymbols.length
  let spreadSymbols := spread accuracy counts highest
  -- `-1` symbols fill the last states, the first of them at the very end
  let symbols := lowSymbols.zipIdx.foldl (fun symbols (symbol, index) =>
    symbols.set! (size - 1 - index) symbol) spreadSymbols
  let initialNext : Array Nat := (counts.map fun count => if count = -1 then 1 else count.toNat).toArray
  let (states, _) := (List.range size).foldl (fun (states, next) index =>
    let symbol := symbols[index]?.getD 0
    let nextState := next[symbol]?.getD 0
    let bits := accuracy - Nat.log2 nextState
    (states.push ⟨symbol, bits, (nextState <<< bits) - size⟩, next.set! symbol (nextState + 1)))
    ((#[] : Array FseState), initialNext)
  ⟨accuracy, states⟩

/-- Reads the first state of a stream. -/
def first (table : FseTable) (bits : BackwardBits) : Nat × BackwardBits := bits.read table.accuracy

/-- Moves to the next state, reading its bits. -/
def next (table : FseTable) (state : Nat) (bits : BackwardBits) : Nat × BackwardBits :=
  let entry := table.state state
  let (low, bits) := bits.read entry.bits
  (entry.baseline + low, bits)

end FseTable

/-- Reading normalized frequencies: the input, the bit position, the frequencies so far. -/
structure CountReader where
  /-- The description. -/
  data : ByteArray
  /-- The next bit to read. -/
  position : Nat

/-- The zero-frequency symbols announced after a zero: two-bit repeat counts, each `3` saying
that another count follows. -/
def readZeroRun (data : ByteArray) : Nat → Nat → Nat → Nat × Nat
  | 0, position, run => (run, position)
  | fuel + 1, position, run =>
    let flag := bitsAt data position 2
    if flag = 3 then readZeroRun data fuel (position + 2) (run + 3) else (run + flag, position + 2)

/-- Reads frequencies until they are all given out: `remaining` shares are left, a value
below `threshold` needs `width - 1` bits and one above `width` bits. -/
def readCounts (data : ByteArray) (maxSymbol : Nat) :
    Nat → Nat → Int → Nat → Nat → List Int → Except Error (List Int × Nat)
  | 0, _, _, _, _, _ => .error (.corrupt "fse: table too large")
  | fuel + 1, position, remaining, threshold, width, counts =>
    if remaining ≤ 1 ∨ counts.length > maxSymbol then
      if remaining ≠ 1 then .error (.corrupt s!"corruption detected (remaining {remaining} != 1)")
      else .ok (counts.reverse, position)
    else
      let limit : Int := 2 * threshold - 1 - remaining
      let low := bitsAt data position (width - 1)
      let (value, position) : Int × Nat :=
        if (low : Int) < limit then (low, position + width - 1)
        else
          let full := bitsAt data position width
          ((if full ≥ threshold then (full : Int) - limit else (full : Int)), position + width)
      let count := value - 1
      let remaining := remaining - count.natAbs
      let counts := count :: counts
      let (counts, position) :=
        if count = 0 then
          let (run, position) := readZeroRun data (maxSymbol + 1) position 0
          (List.replicate run 0 ++ counts, position)
        else (counts, position)
      let (threshold, width) := shrink remaining threshold width
      readCounts data maxSymbol fuel position remaining threshold width counts
where
  /-- Narrows the value width while fewer shares remain than the threshold. -/
  shrink (remaining : Int) : Nat → Nat → Nat × Nat
    | threshold, width =>
      if h : remaining < threshold ∧ threshold > 1 then shrink remaining (threshold / 2) (width - 1)
      else (threshold, width)
  termination_by threshold => threshold
  decreasing_by omega

/-- Reads a table description from the start of `data`: the accuracy, the frequencies, and the
bytes used. -/
def readTable (data : ByteArray) (maxSymbol maxAccuracy : Nat) : Except Error (FseTable × Nat) := do
  if data.size = 0 then throw .blockTooSmall
  let accuracy := bitsAt data 0 4 + 5
  if accuracy > maxAccuracy then throw (.corrupt s!"tableLog too large: {accuracy} > {maxAccuracy}")
  let size := Nat.pow 2 accuracy
  let (counts, bits) ← readCounts data maxSymbol (size + 2) 4 (size + 1) size (accuracy + 1) []
  if counts.length > maxSymbol + 1 then throw (.corrupt "maxSymbolValue too small")
  let used := (bits + 7) / 8
  if used > data.size then throw .unexpectedEnd
  pure (FseTable.build accuracy counts, used)

end Testbench.Zstd
