/-!
The 64-bit xxHash of a byte string, with seed zero.

Input is taken in stripes of 32 bytes into four lanes, then in words of 8 and 4 bytes and
single bytes, each step multiplying by fixed primes and rotating; a final avalanche mixes the
bits. All arithmetic wraps at 64 bits.
-/

namespace Testbench.Xxhash

/-- The first prime. -/
def prime1 : UInt64 := 11400714785074694791
/-- The second prime. -/
def prime2 : UInt64 := 14029467366897019727
/-- The third prime. -/
def prime3 : UInt64 := 1609587929392839161
/-- The fourth prime. -/
def prime4 : UInt64 := 9650029242287828579
/-- The fifth prime. -/
def prime5 : UInt64 := 2870177450012600261

/-- Rotates a word left. -/
def rotateLeft (word : UInt64) (count : UInt64) : UInt64 :=
  (word <<< count) ||| (word >>> (64 - count))

/-- The little-endian word of `count` bytes at a position. -/
def wordAt (data : ByteArray) (position count : Nat) : UInt64 :=
  (List.range count).foldr (fun index acc => (data[position + index]?.getD 0).toUInt64 ||| (acc <<< 8)) 0

/-- One lane step. -/
def round (acc input : UInt64) : UInt64 := rotateLeft (acc + input * prime2) 31 * prime1

/-- Folds a lane into the hash. -/
def mergeRound (acc lane : UInt64) : UInt64 := (acc ^^^ round 0 lane) * prime1 + prime4

/-- The four lanes after all whole stripes from `position` on. -/
def stripes (data : ByteArray) (position : Nat) (lanes : UInt64 × UInt64 × UInt64 × UInt64) :
    UInt64 × UInt64 × UInt64 × UInt64 :=
  if position + 32 ≤ data.size then
    let (v1, v2, v3, v4) := lanes
    stripes data (position + 32)
      (round v1 (wordAt data position 8), round v2 (wordAt data (position + 8) 8),
        round v3 (wordAt data (position + 16) 8), round v4 (wordAt data (position + 24) 8))
  else lanes
termination_by data.size - position

/-- Mixes the bytes from `position` on into the hash: words, then a half word, then bytes. -/
def tail (data : ByteArray) (position : Nat) (hash : UInt64) : UInt64 :=
  if position + 8 ≤ data.size then
    tail data (position + 8) (rotateLeft (hash ^^^ round 0 (wordAt data position 8)) 27 * prime1 + prime4)
  else if position + 4 ≤ data.size then
    tail data (position + 4) (rotateLeft (hash ^^^ wordAt data position 4 * prime1) 23 * prime2 + prime3)
  else if position < data.size then
    tail data (position + 1) (rotateLeft (hash ^^^ wordAt data position 1 * prime5) 11 * prime1)
  else hash
termination_by data.size - position

/-- The final mixing. -/
def avalanche (hash : UInt64) : UInt64 :=
  let hash := (hash ^^^ (hash >>> 33)) * prime2
  let hash := (hash ^^^ (hash >>> 29)) * prime3
  hash ^^^ (hash >>> 32)

/-- The hash of a byte string. -/
def hash64 (data : ByteArray) : UInt64 :=
  let whole := data.size / 32 * 32
  let start :=
    if data.size ≥ 32 then
      let (v1, v2, v3, v4) := stripes data 0 (prime1 + prime2, prime2, 0, 0 - prime1)
      let acc := rotateLeft v1 1 + rotateLeft v2 7 + rotateLeft v3 12 + rotateLeft v4 18
      mergeRound (mergeRound (mergeRound (mergeRound acc v1) v2) v3) v4
    else prime5
  avalanche (tail data whole (start + data.size.toUInt64))

end Testbench.Xxhash
