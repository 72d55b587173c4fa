import Testbench.Bytes.Word
import Testbench.Hash.Sha256
/-!
The RIPEMD-160 digest of a byte string.

The message is padded like SHA-256 but with its bit length little-endian; each 64-byte block,
read as sixteen little-endian words, runs through two lines of 80 rounds that are joined into
five 32-bit words, written little-endian.
-/

namespace Testbench.Ripemd160


/-- Which word of the block each round of the left line reads. -/
def leftWord : Array Nat := #[
  0, 1, 2, 3, 4, 5, 6, 7, 8, 9, 10, 11, 12, 13, 14, 15,
  7, 4, 13, 1, 10, 6, 15, 3, 12, 0, 9, 5, 2, 14, 11, 8,
  3, 10, 14, 4, 9, 15, 8, 1, 2, 7, 0, 6, 13, 11, 5, 12,
  1, 9, 11, 10, 0, 8, 12, 4, 13, 3, 7, 15, 14, 5, 6, 2,
  4, 0, 5, 9, 7, 12, 2, 10, 14, 1, 3, 8, 11, 6, 15, 13]

/-- Which word of the block each round of the right line reads. -/
def rightWord : Array Nat := #[
  5, 14, 7, 0, 9, 2, 11, 4, 13, 6, 15, 8, 1, 10, 3, 12,
  6, 11, 3, 7, 0, 13, 5, 10, 14, 15, 8, 12, 4, 9, 1, 2,
  15, 5, 1, 3, 7, 14, 6, 9, 11, 8, 12, 2, 10, 0, 4, 13,
  8, 6, 4, 1, 3, 11, 15, 0, 5, 12, 2, 13, 9, 7, 10, 14,
  12, 15, 10, 4, 1, 5, 8, 7, 6, 2, 13, 14, 0, 3, 9, 11]

/-- The rotation of each round of the left line. -/
def leftShift : Array UInt32 := #[
  11, 14, 15, 12, 5, 8, 7, 9, 11, 13, 14, 15, 6, 7, 9, 8,
  7, 6, 8, 13, 11, 9, 7, 15, 7, 12, 15, 9, 11, 7, 13, 12,
  11, 13, 6, 7, 14, 9, 13, 15, 14, 8, 13, 6, 5, 12, 7, 5,
  11, 12, 14, 15, 14, 15, 9, 8, 9, 14, 5, 6, 8, 6, 5, 12,
  9, 15, 5, 11, 6, 8, 13, 12, 5, 12, 13, 14, 11, 8, 5, 6]

/-- The rotation of each round of the right line. -/
def rightShift : Array UInt32 := #[
  8, 9, 9, 11, 13, 15, 15, 5, 7, 7, 8, 11, 14, 14, 12, 6,
  9, 13, 15, 7, 12, 8, 9, 11, 7, 7, 12, 7, 6, 15, 13, 11,
  9, 7, 15, 11, 8, 6, 6, 14, 12, 13, 5, 14, 13, 13, 7, 5,
  15, 5, 8, 11, 14, 14, 6, 14, 6, 9, 12, 9, 12, 5, 15, 8,
  8, 5, 12, 9, 12, 5, 14, 6, 8, 13, 6, 5, 15, 13, 11, 11]

/-- The constants of the five groups of rounds of the left line. -/
def leftConstant : Array UInt32 := #[0x00000000, 0x5a827999, 0x6ed9eba1, 0x8f1bbcdc, 0xa953fd4e]

/-- The constants of the five groups of rounds of the right line. -/
def rightConstant : Array UInt32 := #[0x50a28be6, 0x5c4dd124, 0x6d703ef3, 0x7a6d76e9, 0x00000000]

/-- Rotation to the left. -/
def rotateLeft (word : UInt32) (count : UInt32) : UInt32 :=
  (word <<< count) ||| (word >>> (32 - count))

/-- The bit function of a group of rounds. -/
def mix (group : Nat) (x y z : UInt32) : UInt32 :=
  match group with
  | 0 => x ^^^ y ^^^ z
  | 1 => (x &&& y) ||| (~~~x &&& z)
  | 2 => (x ||| ~~~y) ^^^ z
  | 3 => (x &&& z) ||| (y &&& ~~~z)
  | _ => x ^^^ (y ||| ~~~z)

/-- The 32-bit word of four bytes, least significant first. -/
def wordOf (bytes : List UInt8) : UInt32 := (Word.ofLittleEndian bytes).toUInt32

/-- Five words of one line. -/
structure Line where
  a : UInt32
  b : UInt32
  c : UInt32
  d : UInt32
  e : UInt32

/-- One round of a line. -/
def Line.round (line : Line) (function word constant shift : UInt32) : Line :=
  let next := rotateLeft (line.a + function + word + constant) shift + line.e
  { a := line.e, b := next, c := line.b, d := rotateLeft line.c 10, e := line.d }

/-- The words the digest starts from. -/
def initialState : Line := ⟨0x67452301, 0xefcdab89, 0x98badcfe, 0x10325476, 0xc3d2e1f0⟩

/-- Mixes one block into the state. -/
def compress (state : Line) (block : List UInt8) : Line := Id.run do
  let words : Array UInt32 := ((List.range 16).map fun index =>
    wordOf ((block.drop (4 * index)).take 4)).toArray
  let mut left := state
  let mut right := state
  for index in [0:80] do
    let group := index / 16
    left := left.round (mix group left.b left.c left.d) words[leftWord[index]!]!
      leftConstant[group]! leftShift[index]!
    right := right.round (mix (4 - group) right.b right.c right.d) words[rightWord[index]!]!
      rightConstant[group]! rightShift[index]!
  return ⟨state.b + left.c + right.d, state.c + left.d + right.e,
    state.d + left.e + right.a, state.e + left.a + right.b, state.a + left.b + right.c⟩

/-- The message padded to whole blocks. -/
def pad (message : List UInt8) : List UInt8 :=
  let zeros := (119 - message.length % 64) % 64
  message ++ [0x80] ++ List.replicate zeros 0 ++ Word.toLittleEndian 8 (8 * message.length)

/-- The 20-byte digest. -/
def digest (message : List UInt8) : List UInt8 :=
  let state := (Sha256.blocks (pad message)).foldl compress initialState
  [state.a, state.b, state.c, state.d, state.e].flatMap fun word => Word.toLittleEndian 4 word.toNat

@[simp] theorem length_digest (message : List UInt8) : (digest message).length = 20 := by
  simp [digest]

end Testbench.Ripemd160
