import Testbench.Bytes.Word
/-!
The SHA-256 digest of a byte string (FIPS 180-4).

The message is padded with one `0x80` byte, zeros and its length in bits as eight big-endian
bytes, to a multiple of 64 bytes; each 64-byte block is mixed into eight 32-bit words by 64
rounds, and the digest is those words, big-endian.
-/

namespace Testbench.Sha256

/-- The round constants. -/
def roundConstants : Array UInt32 := #[
  0x428a2f98, 0x71374491, 0xb5c0fbcf, 0xe9b5dba5, 0x3956c25b, 0x59f111f1, 0x923f82a4, 0xab1c5ed5,
  0xd807aa98, 0x12835b01, 0x243185be, 0x550c7dc3, 0x72be5d74, 0x80deb1fe, 0x9bdc06a7, 0xc19bf174,
  0xe49b69c1, 0xefbe4786, 0x0fc19dc6, 0x240ca1cc, 0x2de92c6f, 0x4a7484aa, 0x5cb0a9dc, 0x76f988da,
  0x983e5152, 0xa831c66d, 0xb00327c8, 0xbf597fc7, 0xc6e00bf3, 0xd5a79147, 0x06ca6351, 0x14292967,
  0x27b70a85, 0x2e1b2138, 0x4d2c6dfc, 0x53380d13, 0x650a7354, 0x766a0abb, 0x81c2c92e, 0x92722c85,
  0xa2bfe8a1, 0xa81a664b, 0xc24b8b70, 0xc76c51a3, 0xd192e819, 0xd6990624, 0xf40e3585, 0x106aa070,
  0x19a4c116, 0x1e376c08, 0x2748774c, 0x34b0bcb5, 0x391c0cb3, 0x4ed8aa4a, 0x5b9cca4f, 0x682e6ff3,
  0x748f82ee, 0x78a5636f, 0x84c87814, 0x8cc70208, 0x90befffa, 0xa4506ceb, 0xbef9a3f7, 0xc67178f2]

/-- The words the digest starts from. -/
def initialState : Array UInt32 :=
  #[0x6a09e667, 0xbb67ae85, 0x3c6ef372, 0xa54ff53a, 0x510e527f, 0x9b05688c, 0x1f83d9ab, 0x5be0cd19]

/-- Rotation to the right. -/
def rotateRight (word : UInt32) (count : UInt32) : UInt32 :=
  (word >>> count) ||| (word <<< (32 - count))

/-- The 32-bit word of four bytes, most significant first. -/
def wordOf (bytes : List UInt8) : UInt32 := (Word.ofBigEndian bytes).toUInt32

/-- The message schedule of one block: sixteen words of the block and 48 derived ones. -/
def schedule (block : List UInt8) : Array UInt32 := Id.run do
  let mut words : Array UInt32 := #[]
  for index in [0:16] do
    words := words.push (wordOf ((block.drop (4 * index)).take 4))
  for index in [16:64] do
    let w15 := words[index - 15]!
    let w2 := words[index - 2]!
    let small0 := rotateRight w15 7 ^^^ rotateRight w15 18 ^^^ (w15 >>> 3)
    let small1 := rotateRight w2 17 ^^^ rotateRight w2 19 ^^^ (w2 >>> 10)
    words := words.push (small1 + words[index - 7]! + small0 + words[index - 16]!)
  return words

/-- Mixes one block into the state. -/
def compress (state : Array UInt32) (block : List UInt8) : Array UInt32 := Id.run do
  let words := schedule block
  let mut a := state[0]!
  let mut b := state[1]!
  let mut c := state[2]!
  let mut d := state[3]!
  let mut e := state[4]!
  let mut f := state[5]!
  let mut g := state[6]!
  let mut h := state[7]!
  for index in [0:64] do
    let big1 := rotateRight e 6 ^^^ rotateRight e 11 ^^^ rotateRight e 25
    let choose := (e &&& f) ^^^ (~~~e &&& g)
    let first := h + big1 + choose + roundConstants[index]! + words[index]!
    let big0 := rotateRight a 2 ^^^ rotateRight a 13 ^^^ rotateRight a 22
    let majority := (a &&& b) ^^^ (a &&& c) ^^^ (b &&& c)
    let second := big0 + majority
    h := g
    g := f
    f := e
    e := d + first
    d := c
    c := b
    b := a
    a := first + second
  return #[state[0]! + a, state[1]! + b, state[2]! + c, state[3]! + d,
    state[4]! + e, state[5]! + f, state[6]! + g, state[7]! + h]

/-- The message padded to whole blocks. -/
def pad (message : List UInt8) : List UInt8 :=
  let zeros := (119 - message.length % 64) % 64
  message ++ [0x80] ++ List.replicate zeros 0 ++ Word.toBigEndian 8 (8 * message.length)

/-- Cuts bytes into blocks of 64. -/
def blocks (bytes : List UInt8) : List (List UInt8) :=
  if bytes.length ≤ 64 then [bytes] else bytes.take 64 :: blocks (bytes.drop 64)
termination_by bytes.length
decreasing_by simp only [List.length_drop]; omega

/-- The 32-byte digest. -/
def digest (message : List UInt8) : List UInt8 :=
  let state := (blocks (pad message)).foldl compress initialState
  state.toList.flatMap fun word => Word.toBigEndian 4 word.toNat

end Testbench.Sha256
