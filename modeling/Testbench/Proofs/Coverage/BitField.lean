import Mathlib
import Testbench.Coverage.BitField

/-!
Bit fields read bit by bit: bit `index` is bit `index % 64` of word `index / 64`. Each operation
is described by the bits it leaves, and the walk over the words lists the set bits in increasing
order.
-/

namespace Testbench

namespace BitField

/-- Bit `index` of the field; unset beyond its words. -/
def bit (field : BitField) (index : Nat) : Bool :=
  ((field.words[index / 64]?).getD 0).toNat.testBit (index % 64)

/-! ### Bits of a word -/

theorem mask_toNat (index : Nat) : (mask index).toNat = 2 ^ (index % 64) := by
  have small : index % 64 < 64 := Nat.mod_lt _ (by decide)
  have shift : ((index % 64).toUInt64).toNat = index % 64 := by simp; omega
  rw [mask, UInt64.toNat_shiftLeft, shift, Nat.mod_eq_of_lt small, UInt64.toNat_one,
    Nat.one_shiftLeft]
  exact Nat.mod_eq_of_lt (Nat.pow_lt_pow_right (by decide) small)

theorem and_mask_ne_zero (word : UInt64) (index : Nat) :
    (word &&& mask index != 0) = word.toNat.testBit (index % 64) := by
  have masked : (word &&& mask index).toNat = (word.toNat.testBit (index % 64)).toNat * 2 ^ (index % 64) := by
    rw [UInt64.toNat_and, mask_toNat, Nat.and_two_pow]
  rw [Bool.eq_iff_iff, bne_iff_ne, ne_eq, ← UInt64.toNat_inj, masked]
  cases word.toNat.testBit (index % 64) <;> simp

theorem shiftRight_and_one (word : UInt64) {index : Nat} (small : index < 64) :
    ((word >>> index.toUInt64) &&& 1 == 1) = word.toNat.testBit index := by
  have low : ((word >>> index.toUInt64) &&& 1).toNat = word.toNat / 2 ^ index % 2 := by
    simp [UInt64.toNat_and, UInt64.toNat_shiftRight, Nat.shiftRight_eq_div_pow, Nat.and_one_is_mod,
      Nat.mod_eq_of_lt small]
  rw [Nat.testBit_eq_decide_div_mod_eq, Bool.eq_iff_iff, beq_iff_eq, decide_eq_true_iff, ← low,
    ← UInt64.toNat_inj]
  rfl

theorem popCount_eq (word : UInt64) : popCount word = (List.range 64).countP word.toNat.testBit := by
  unfold popCount
  refine List.countP_congr fun index member => ?_
  rw [shiftRight_and_one word (List.mem_range.mp member)]

/-! ### Bits of a field -/

theorem isSet_eq_bit (field : BitField) (index : Nat) : field.isSet index = field.bit index := by
  unfold isSet bit
  rw [if_neg (by omega), Int.toNat_natCast]
  cases field.words[index / 64]? with
  | none => simp
  | some word => exact and_mask_ne_zero word index

theorem bit_of_length_le {field : BitField} {index : Nat} (beyond : field.words.length ≤ index / 64) :
    field.bit index = false := by
  simp [bit, List.getElem?_eq_none beyond]

theorem bit_cons (word : UInt64) (words : List UInt64) (index : Nat) :
    (⟨word :: words⟩ : BitField).bit index =
      if index < 64 then word.toNat.testBit index else (⟨words⟩ : BitField).bit (index - 64) := by
  unfold bit
  split
  · rename_i low
    simp [Nat.div_eq_of_lt low, Nat.mod_eq_of_lt low]
  · rename_i high
    have quotient : index / 64 = (index - 64) / 64 + 1 := by omega
    have remainder : index % 64 = (index - 64) % 64 := by omega
    simp only [quotient, remainder, List.getElem?_cons_succ]

@[simp] theorem bit_empty (bits index : Nat) : (empty bits).bit index = false := by
  simp only [bit, empty, List.getElem?_replicate]
  split <;> simp

theorem div_lt_wordCount {index bits : Nat} (inside : index < bits) : index / 64 < wordCount bits := by
  unfold wordCount
  omega

theorem bit_set (field : BitField) (added index : Nat) :
    (field.set added).bit index =
      (field.bit index || (decide (index = added) && decide (added / 64 < field.words.length))) := by
  unfold set bit
  rw [List.getElem?_modify]
  by_cases sameWord : added / 64 = index / 64
  · cases held : field.words[index / 64]? with
    | none =>
      have beyond : field.words.length ≤ added / 64 := by
        rw [sameWord]
        exact List.getElem?_eq_none_iff.mp held
      simp [Nat.not_lt.mpr beyond]
    | some word =>
      have inside : added / 64 < field.words.length := by
        rw [sameWord]
        exact (List.getElem?_eq_some_iff.mp held).1
      have samePosition : decide (added % 64 = index % 64) = decide (index = added) := by
        simp only [decide_eq_decide]
        omega
      have inside' : index / 64 < field.words.length := by omega
      simp only [sameWord, if_true, Option.map_eq_map, Option.map_some, Option.getD_some,
        UInt64.toNat_or, Nat.testBit_or, mask_toNat, Nat.testBit_two_pow, samePosition, inside',
        decide_true, Bool.and_true]
  · have other : index ≠ added := fun same => sameWord (by rw [same])
    simp [sameWord, other]

theorem bit_union (field other : BitField) (index : Nat) :
    (field.union other).bit index =
      (field.bit index || (other.bit index && decide (index / 64 < field.words.length))) := by
  by_cases inside : index / 64 < field.words.length
  · obtain ⟨word, held⟩ : ∃ word, field.words[index / 64]? = some word :=
      ⟨_, List.getElem?_eq_getElem inside⟩
    unfold bit union
    rw [List.getElem?_zipWith, List.getElem?_range inside, held]
    cases theirsHeld : other.words[index / 64]? with
    | none => simp [theirsHeld, inside]
    | some theirs => simp [theirsHeld, inside, UInt64.toNat_or, Nat.testBit_or]
  · have beyond := Nat.not_lt.mp inside
    rw [bit_of_length_le (by simpa using beyond), bit_of_length_le beyond]
    simp [inside]

theorem lt_length_of_bit {field : BitField} {index : Nat} (held : field.bit index = true) :
    index / 64 < field.words.length :=
  Nat.lt_of_not_le fun beyond => by rw [bit_of_length_le beyond] at held; cases held

theorem bit_union_of_length_le {field other : BitField} (shorter : other.words.length ≤ field.words.length)
    (index : Nat) : (field.union other).bit index = (field.bit index || other.bit index) := by
  rw [bit_union]
  cases theirs : other.bit index with
  | false => simp
  | true =>
    have inside := lt_length_of_bit theirs
    simp only [Bool.true_and, decide_eq_true (Nat.lt_of_lt_of_le inside shorter)]

theorem bit_intersect (field other : BitField) (index : Nat) :
    (field.intersect other).bit index = (field.bit index && other.bit index) := by
  by_cases inside : index / 64 < field.words.length
  · obtain ⟨word, held⟩ : ∃ word, field.words[index / 64]? = some word :=
      ⟨_, List.getElem?_eq_getElem inside⟩
    unfold bit intersect
    rw [List.getElem?_zipWith, List.getElem?_range inside, held]
    cases theirsHeld : other.words[index / 64]? with
    | none => simp [theirsHeld]
    | some theirs => simp [theirsHeld, UInt64.toNat_and, Nat.testBit_and]
  · have beyond := Nat.not_lt.mp inside
    rw [bit_of_length_le (by simpa using beyond), bit_of_length_le beyond, Bool.false_and]

theorem bit_word (field : BitField) {word position : Nat} (small : position < 64) :
    field.bit (64 * word + position) = ((field.words[word]?).getD 0).toNat.testBit position := by
  unfold bit
  have quotient : (64 * word + position) / 64 = word := by omega
  have remainder : (64 * word + position) % 64 = position := by omega
  rw [quotient, remainder]

theorem testBit_toNat_of_le (value : UInt64) {position : Nat} (large : 64 ≤ position) :
    value.toNat.testBit position = false :=
  Nat.testBit_eq_false_of_lt (Nat.lt_of_lt_of_le value.toNat_lt (Nat.pow_le_pow_right (by decide) large))

theorem ext_bit {field other : BitField} (sameLength : field.words.length = other.words.length)
    (sameBits : ∀ index, field.bit index = other.bit index) : field = other := by
  obtain ⟨words⟩ := field
  obtain ⟨otherWords⟩ := other
  congr 1
  refine List.ext_getElem sameLength fun word inside otherInside => ?_
  refine UInt64.toNat_inj.mp (Nat.eq_of_testBit_eq fun position => ?_)
  by_cases small : position < 64
  · have same := sameBits (64 * word + position)
    rwa [bit_word _ small, bit_word _ small, List.getElem?_eq_getElem inside,
      List.getElem?_eq_getElem otherInside, Option.getD_some, Option.getD_some] at same
  · rw [testBit_toNat_of_le _ (by omega), testBit_toNat_of_le _ (by omega)]

@[simp] theorem union_self (field : BitField) : field.union field = field :=
  ext_bit (length_union field field) fun index => by
    rw [bit_union_of_length_le (Nat.le_refl _), Bool.or_self]

@[simp] theorem copy_eq (field : BitField) : field.copy = field := by
  simp [copy]

@[simp] theorem bit_extend (field : BitField) (count index : Nat) :
    (field.extend count).bit index = field.bit index := by
  unfold extend bit
  by_cases inside : index / 64 < field.words.length
  · rw [List.getElem?_append_left inside]
  · rw [List.getElem?_append_right (Nat.not_lt.mp inside), List.getElem?_replicate]
    rw [List.getElem?_eq_none (Nat.not_lt.mp inside)]
    split <;> simp

theorem bit_of_isSubset {field other : BitField} (subset : field.isSubset other = true)
    {index : Nat} (held : field.bit index = true) : other.bit index = true := by
  unfold isSubset at subset
  simp only [Bool.and_eq_true, decide_eq_true_eq, List.all_eq_true] at subset
  obtain ⟨shorter, wordwise⟩ := subset
  unfold bit at held ⊢
  cases mine : field.words[index / 64]? with
  | none => simp [mine] at held
  | some word =>
    have inside := (List.getElem?_eq_some_iff.mp mine).1
    obtain ⟨theirs, theirsHeld⟩ : ∃ theirs, other.words[index / 64]? = some theirs :=
      ⟨_, List.getElem?_eq_getElem (by omega)⟩
    have paired : (word, theirs) ∈ field.words.zip other.words := by
      apply List.mem_iff_getElem?.mpr
      exact ⟨index / 64, by simp [List.getElem?_zip_eq_some, mine, theirsHeld]⟩
    have within : word &&& theirs = word := by simpa using wordwise _ paired
    rw [mine, Option.getD_some, ← within, UInt64.toNat_and, Nat.testBit_and, Bool.and_eq_true] at held
    rw [theirsHeld, Option.getD_some]
    exact held.2

/-! ### Listing -/

theorem ones_of_ne_zero {word : UInt64} (nonzero : word ≠ 0) :
    ones word = trailingZeros word :: ones (clearBit word (trailingZeros word)) := by
  rw [ones, if_neg nonzero]

@[simp] theorem ones_zero : ones 0 = [] := by
  rw [ones, if_pos rfl]

theorem trailingZeros_le_of_testBit {word : UInt64} {index : Nat} (held : word.toNat.testBit index = true) :
    trailingZeros word ≤ index :=
  Nat.le_of_not_lt fun below => by
    have clear := BitVec.getLsbD_false_of_lt_ctz (x := word.toBitVec) below
    rw [BitVec.getLsbD, UInt64.toNat_toBitVec, held] at clear
    cases clear

theorem mem_ones {word : UInt64} {index : Nat} : index ∈ ones word ↔ word.toNat.testBit index = true := by
  induction word using ones.induct with
  | case1 => simp
  | case2 word nonzero ih =>
    rw [ones_of_ne_zero nonzero, List.mem_cons, ih, testBit_clearBit word (trailingZeros_lt nonzero)]
    by_cases same : index = trailingZeros word
    · subst same
      simp [testBit_trailingZeros nonzero]
    · simp [same]

theorem ones_pairwise (word : UInt64) : (ones word).Pairwise (· < ·) := by
  induction word using ones.induct with
  | case1 => simp
  | case2 word nonzero ih =>
    rw [ones_of_ne_zero nonzero]
    refine List.Pairwise.cons (fun index later => ?_) ih
    rw [mem_ones, testBit_clearBit word (trailingZeros_lt nonzero), Bool.and_eq_true,
      decide_eq_true_eq] at later
    exact Nat.lt_of_le_of_ne (trailingZeros_le_of_testBit later.1) (Ne.symm later.2)

theorem lt_of_mem_ones {word : UInt64} {index : Nat} (listed : index ∈ ones word) : index < 64 :=
  Nat.lt_of_not_le fun large => by
    rw [mem_ones, testBit_toNat_of_le word large] at listed
    cases listed

theorem toList_cons (word : UInt64) (words : List UInt64) :
    (⟨word :: words⟩ : BitField).toList = ones word ++ (⟨words⟩ : BitField).toList.map (64 + ·) := by
  unfold toList
  rw [List.length_cons, List.range_succ_eq_map, List.zip_cons_cons, List.flatMap_cons, List.zip_map_left,
    List.flatMap_map, List.map_flatMap]
  congr 1
  · simp
  · congr 1
    funext ⟨index, value⟩
    simp only [Prod.map, id, List.map_map]
    congr 1
    funext bit
    simp only [Function.comp, Nat.succ_mul]
    omega

/-- A field lists exactly the numbers it holds. -/
theorem mem_toList_iff {field : BitField} {index : Nat} : index ∈ field.toList ↔ field.bit index = true := by
  obtain ⟨words⟩ := field
  induction words generalizing index with
  | nil => simp [toList, bit]
  | cons word words ih =>
    rw [toList_cons, List.mem_append, mem_ones, List.mem_map, bit_cons]
    split
    · rename_i low
      constructor
      · rintro (held | ⟨later, -, rfl⟩)
        · exact held
        · omega
      · exact Or.inl
    · rename_i high
      constructor
      · rintro (held | ⟨later, listed, rfl⟩)
        · exact absurd (lt_of_mem_ones (mem_ones.mpr held)) high
        · rwa [Nat.add_sub_cancel_left, ← ih]
      · intro held
        exact Or.inr ⟨index - 64, ih.mpr held, by omega⟩

/-- A field lists its numbers in increasing order. -/
theorem toList_pairwise (field : BitField) : field.toList.Pairwise (· < ·) := by
  obtain ⟨words⟩ := field
  induction words with
  | nil => simp [toList]
  | cons word words ih =>
    rw [toList_cons, List.pairwise_append, List.pairwise_map]
    refine ⟨ones_pairwise word, ih.imp fun ordered => by omega, fun low lowListed high highListed => ?_⟩
    obtain ⟨rest, -, rfl⟩ := List.mem_map.mp highListed
    have small := lt_of_mem_ones lowListed
    omega

theorem bit_of_mem_toList {field : BitField} {index : Nat} (listed : index ∈ field.toList) :
    field.bit index = true :=
  mem_toList_iff.mp listed

theorem mem_toList_of_bit {field : BitField} {index : Nat} (held : field.bit index = true) :
    index ∈ field.toList :=
  mem_toList_iff.mpr held

theorem isSubset_of_bit {field other : BitField} (shorter : field.words.length ≤ other.words.length)
    (within : ∀ index, field.bit index = true → other.bit index = true) : field.isSubset other = true := by
  unfold isSubset
  simp only [Bool.and_eq_true, decide_eq_true_eq, List.all_eq_true]
  refine ⟨shorter, ?_⟩
  rintro ⟨mine, theirs⟩ paired
  obtain ⟨word, pairedAt⟩ := List.mem_iff_getElem?.mp paired
  rw [List.getElem?_zip_eq_some] at pairedAt
  obtain ⟨mineAt, theirsAt⟩ := pairedAt
  have wordwise : mine &&& theirs = mine := by
    refine UInt64.toNat_inj.mp (Nat.eq_of_testBit_eq fun position => ?_)
    rw [UInt64.toNat_and, Nat.testBit_and]
    cases held : mine.toNat.testBit position with
    | false => rfl
    | true =>
      have small : position < 64 := by
        refine Nat.lt_of_not_le fun large => ?_
        rw [testBit_toNat_of_le mine large] at held
        cases held
      have fieldBit : field.bit (64 * word + position) = true := by
        rw [bit_word _ small, mineAt, Option.getD_some]
        exact held
      have otherBit := within _ fieldBit
      rw [bit_word _ small, theirsAt, Option.getD_some] at otherBit
      rw [otherBit, Bool.true_and]
  simp [wordwise]

theorem length_foldl_set (indices : List Nat) (field : BitField) :
    (indices.foldl set field).words.length = field.words.length := by
  induction indices generalizing field with
  | nil => rfl
  | cons index rest ih => rw [List.foldl_cons, ih, length_set]

theorem bit_foldl_set (indices : List Nat) (field : BitField) {index : Nat}
    (held : (indices.foldl set field).bit index = true) : field.bit index = true ∨ index ∈ indices := by
  induction indices generalizing field with
  | nil => exact Or.inl held
  | cons added rest ih =>
    rcases ih (field.set added) held with earlier | later
    · rw [bit_set] at earlier
      simp only [Bool.or_eq_true, Bool.and_eq_true, decide_eq_true_eq] at earlier
      rcases earlier with old | ⟨rfl, -⟩
      · exact Or.inl old
      · exact Or.inr List.mem_cons_self
    · exact Or.inr (List.mem_cons_of_mem _ later)

theorem bit_foldl_set_eq (indices : List Nat) (field : BitField) (index : Nat) :
    (indices.foldl set field).bit index =
      (field.bit index || (decide (index ∈ indices) && decide (index / 64 < field.words.length))) := by
  induction indices generalizing field with
  | nil => simp
  | cons added rest ih =>
    rw [List.foldl_cons, ih, bit_set, length_set]
    by_cases same : index = added
    · subst same
      by_cases inside : index / 64 < field.words.length <;> simp [inside]
    · simp [same]

/-! ### Counting -/

theorem count_cons (word : UInt64) (words : List UInt64) :
    (⟨word :: words⟩ : BitField).count = popCount word + (⟨words⟩ : BitField).count := rfl

theorem count_le_of_bit : ∀ {field other : BitField}, field.words.length = other.words.length →
    (∀ index, field.bit index = true → other.bit index = true) → field.count ≤ other.count
  | ⟨[]⟩, ⟨[]⟩, _, _ => Nat.le_refl _
  | ⟨[]⟩, ⟨_ :: _⟩, sameLength, _ => by simp at sameLength
  | ⟨_ :: _⟩, ⟨[]⟩, sameLength, _ => by simp at sameLength
  | ⟨word :: words⟩, ⟨theirs :: rest⟩, sameLength, within => by
    rw [count_cons, count_cons]
    have first : popCount word ≤ popCount theirs := by
      rw [popCount_eq, popCount_eq]
      refine List.countP_mono_left fun index member held => ?_
      have low := List.mem_range.mp member
      have shifted := within index (by rw [bit_cons, if_pos low]; exact held)
      rwa [bit_cons, if_pos low] at shifted
    have later : (⟨words⟩ : BitField).count ≤ (⟨rest⟩ : BitField).count := by
      refine count_le_of_bit (by simpa using sameLength) fun index held => ?_
      have shifted := within (index + 64) (by
        rw [bit_cons, if_neg (by omega), Nat.add_sub_cancel]
        exact held)
      rwa [bit_cons, if_neg (by omega), Nat.add_sub_cancel] at shifted
    omega

theorem count_eq_countP : ∀ field : BitField,
    field.count = (List.range (64 * field.words.length)).countP field.bit
  | ⟨[]⟩ => rfl
  | ⟨word :: words⟩ => by
    rw [count_cons, count_eq_countP ⟨words⟩, popCount_eq, List.length_cons, Nat.mul_succ,
      Nat.add_comm (64 * words.length) 64, List.range_add, List.countP_append, List.countP_map]
    have low : (List.range 64).countP word.toNat.testBit =
        (List.range 64).countP (⟨word :: words⟩ : BitField).bit := by
      refine List.countP_congr fun index member => ?_
      rw [bit_cons, if_pos (List.mem_range.mp member)]
    have high : (List.range (64 * words.length)).countP (⟨words⟩ : BitField).bit =
        (List.range (64 * words.length)).countP ((⟨word :: words⟩ : BitField).bit ∘ (64 + ·)) := by
      refine List.countP_congr fun index _ => ?_
      rw [Function.comp_apply, bit_cons, if_neg (by omega), Nat.add_sub_cancel_left]
    rw [low, high]

theorem count_eq_card {field : BitField} {held : Finset Nat}
    (bits : ∀ index, field.bit index = true ↔ index ∈ held) : field.count = held.card := by
  rw [count_eq_countP, List.countP_eq_length_filter,
    ← List.toFinset_card_of_nodup (List.nodup_range.filter _)]
  congr 1
  ext index
  rw [List.mem_toFinset, List.mem_filter, List.mem_range, ← bits]
  constructor
  · exact fun ⟨_, set⟩ => set
  · intro set
    have inside := lt_length_of_bit set
    exact ⟨by omega, set⟩

end BitField

end Testbench
