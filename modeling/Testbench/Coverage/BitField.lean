/-!
Bit fields: sets of small numbers packed into 64-bit words.

Bit `i` lives in word `i / 64` at position `i % 64`. A field for `n` bits has `⌈n / 64⌉` words.
Operations work word by word; where two fields differ in length, conjunction clears the words
the other lacks, disjunction touches only the words both have, and a field is a subset of
another only if it is not longer. A field is listed word by word, each word by finding its lowest
one from the count of trailing zeros and clearing it, until the word is zero.
-/

namespace Testbench

/-- A set of numbers, as words of 64 bits. -/
structure BitField where
  /-- The words, lowest bits first. -/
  words : List UInt64 := []
  deriving DecidableEq, Repr, Inhabited

namespace BitField

/-- The number of words that hold `bits` bits. -/
def wordCount (bits : Nat) : Nat := (bits + 63) / 64

/-- An empty field for `bits` bits. -/
def empty (bits : Nat) : BitField := ⟨List.replicate (wordCount bits) 0⟩

/-- The mask of one bit inside its word. -/
def mask (index : Nat) : UInt64 := 1 <<< (index % 64).toUInt64

/-- Adds a number; numbers beyond the field's words are ignored. -/
def set (field : BitField) (index : Nat) : BitField :=
  ⟨field.words.modify (index / 64) (· ||| mask index)⟩

/-- Does the field hold the number? Numbers outside it are not held. -/
def isSet (field : BitField) (index : Int) : Bool :=
  if index < 0 then false
  else
    match field.words[index.toNat / 64]? with
    | some word => word &&& mask index.toNat != 0
    | none => false

/-- Keeps the numbers also in `other`. -/
def intersect (field other : BitField) : BitField :=
  ⟨(List.range field.words.length).zipWith (fun index word =>
    match other.words[index]? with
    | some mask => word &&& mask
    | none => 0) field.words⟩

/-- Adds the numbers of `other` that fall within the field's words. -/
def union (field other : BitField) : BitField :=
  ⟨(List.range field.words.length).zipWith (fun index word =>
    match other.words[index]? with
    | some mask => word ||| mask
    | none => word) field.words⟩

/-- Is every number of the field in `other`? -/
def isSubset (field other : BitField) : Bool :=
  field.words.length ≤ other.words.length &&
    (field.words.zip other.words).all fun (mine, theirs) => mine &&& theirs == mine

/-- The number of ones in a word. -/
def popCount (word : UInt64) : Nat :=
  (List.range 64).countP fun bit => (word >>> bit.toUInt64) &&& 1 == 1

/-- How many numbers the field holds. -/
def count (field : BitField) : Nat := (field.words.map popCount).foldr (· + ·) 0

/-- The number of zeros below the lowest one of a word; 64 for the zero word. -/
def trailingZeros (word : UInt64) : Nat := word.toBitVec.ctz.toNat

/-- The word with its bit at `position` cleared. -/
def clearBit (word : UInt64) (position : Nat) : UInt64 := word &&& ~~~(1 <<< position.toUInt64)

theorem testBit_clearBit (word : UInt64) {position : Nat} (small : position < 64) (index : Nat) :
    (clearBit word position).toNat.testBit index = (word.toNat.testBit index && decide (index ≠ position)) := by
  have amount : (position.toUInt64.toBitVec % 64).toNat = position := by
    simp [BitVec.toNat_umod]; omega
  rw [← UInt64.toNat_toBitVec, ← UInt64.toNat_toBitVec, ← BitVec.getLsbD, ← BitVec.getLsbD]
  unfold clearBit
  simp only [UInt64.toBitVec_and, UInt64.toBitVec_not, UInt64.toBitVec_shiftLeft, BitVec.getLsbD_and,
    BitVec.getLsbD_not, BitVec.shiftLeft_eq', BitVec.getLsbD_shiftLeft, amount]
  by_cases inside : index < 64
  · -- the mask has its one at `position` only
    have one : (UInt64.toBitVec 1).getLsbD (index - position) = decide (index - position = 0) := by
      simp [BitVec.getLsbD_one]
    rw [one]
    by_cases below : index < position
    · have differ : index ≠ position := by omega
      simp [inside, below, differ]
    · have same : (index - position = 0) = (index = position) := propext (by omega)
      simp [inside, below, same]
  · simp [inside, BitVec.getLsbD_of_ge _ _ (Nat.le_of_not_lt inside)]

theorem testBit_trailingZeros {word : UInt64} (nonzero : word ≠ 0) :
    word.toNat.testBit (trailingZeros word) = true := by
  have lowest := BitVec.getLsbD_true_ctz_of_ne_zero (x := word.toBitVec)
    (by simpa [← UInt64.toBitVec_inj] using nonzero)
  simpa [BitVec.getLsbD, trailingZeros] using lowest

theorem trailingZeros_lt {word : UInt64} (nonzero : word ≠ 0) : trailingZeros word < 64 :=
  Nat.lt_of_not_le fun large => by
    have clear := Nat.testBit_lt_two_pow
      (Nat.lt_of_lt_of_le word.toNat_lt (Nat.pow_le_pow_right (by decide) large))
    rw [testBit_trailingZeros nonzero] at clear
    cases clear

/-- Clearing the lowest one makes a word smaller. -/
theorem toNat_clearBit_lt {word : UInt64} (nonzero : word ≠ 0) :
    (clearBit word (trailingZeros word)).toNat < word.toNat := by
  have cleared := testBit_clearBit word (trailingZeros_lt nonzero)
  refine Nat.lt_of_le_of_ne (Nat.le_of_testBit fun index held => ?_) fun same => ?_
  · rw [cleared, Bool.and_eq_true] at held
    exact held.1
  · have lowest := cleared (trailingZeros word)
    rw [same, testBit_trailingZeros nonzero] at lowest
    simp at lowest

/-- The positions of the ones of a word, lowest first: each round finds the lowest one by counting
trailing zeros, and clears it. -/
def ones (word : UInt64) : List Nat :=
  if word = 0 then []
  else trailingZeros word :: ones (clearBit word (trailingZeros word))
termination_by word.toNat
decreasing_by exact toNat_clearBit_lt ‹_›

/-- The numbers the field holds, ascending: word by word, the positions of its ones. -/
def toList (field : BitField) : List Nat :=
  (List.range field.words.length).zip field.words |>.flatMap fun (index, word) =>
    (ones word).map (index * 64 + ·)

/-- A copy of the field: as many fresh words as it has, with its words copied into them. -/
def copy (field : BitField) : BitField :=
  let fresh := List.replicate field.words.length (0 : UInt64)
  ⟨field.words.take fresh.length ++ fresh.drop field.words.length⟩

/-- Extends the field with empty words up to `count` words. -/
def extend (field : BitField) (count : Nat) : BitField :=
  ⟨field.words ++ List.replicate (count - field.words.length) 0⟩

@[simp] theorem length_set (field : BitField) (index : Nat) :
    (field.set index).words.length = field.words.length := by
  simp [set]

@[simp] theorem length_intersect (field other : BitField) :
    (field.intersect other).words.length = field.words.length := by
  simp [intersect]

@[simp] theorem length_union (field other : BitField) :
    (field.union other).words.length = field.words.length := by
  simp [union]

@[simp] theorem length_empty (bits : Nat) : (empty bits).words.length = wordCount bits := by
  simp [empty]

end BitField

end Testbench
