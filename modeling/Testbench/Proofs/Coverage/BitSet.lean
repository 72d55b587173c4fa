import Mathlib
import Testbench.Proofs.Coverage.BitField

/-!
Bit fields as finite sets of numbers: each operation is described by what it does to the members,
the numbers whose bit the field holds.
-/

namespace Testbench

namespace BitField

/-- The numbers a field holds: those within its words whose bit is set. -/
def members (field : BitField) : Finset Nat :=
  (Finset.range (64 * field.words.length)).filter fun index => field.bit index = true

@[simp] theorem mem_members {field : BitField} {index : Nat} :
    index ∈ field.members ↔ field.bit index = true := by
  unfold members
  rw [Finset.mem_filter, Finset.mem_range]
  constructor
  · exact fun ⟨_, held⟩ => held
  · intro held
    have inside := lt_length_of_bit held
    exact ⟨by omega, held⟩

theorem isSet_iff (field : BitField) (index : Int) :
    field.isSet index = true ↔
      0 ≤ index ∧ index < 64 * field.words.length ∧ field.bit index.toNat = true := by
  by_cases negative : index < 0
  · have refused : field.isSet index = false := by simp [isSet, negative]
    rw [refused]
    constructor
    · intro wrong
      cases wrong
    · rintro ⟨nonnegative, -⟩
      omega
  · obtain ⟨number, rfl⟩ := Int.eq_ofNat_of_zero_le (Int.not_lt.mp negative)
    rw [isSet_eq_bit, Int.toNat_natCast]
    constructor
    · intro held
      have inside := lt_length_of_bit held
      exact ⟨by omega, by omega, held⟩
    · exact fun ⟨_, _, held⟩ => held

theorem mem_members_iff_isSet {field : BitField} {index : Nat} :
    index ∈ field.members ↔ field.isSet index = true := by
  rw [mem_members, isSet_eq_bit]

theorem members_set {field : BitField} {index : Nat} (inside : index < 64 * field.words.length) :
    (field.set index).members = insert index field.members := by
  have word : index / 64 < field.words.length := by omega
  ext number
  rw [mem_members, Finset.mem_insert, mem_members, bit_set]
  by_cases same : number = index <;> simp [same, word]

theorem members_union_of_length_le {field other : BitField}
    (shorter : other.words.length ≤ field.words.length) :
    (field.union other).members = field.members ∪ other.members := by
  ext number
  rw [Finset.mem_union, mem_members, mem_members, mem_members, bit_union_of_length_le shorter,
    Bool.or_eq_true]

theorem members_intersect (field other : BitField) :
    (field.intersect other).members = field.members ∩ other.members := by
  ext number
  rw [Finset.mem_inter, mem_members, mem_members, mem_members, bit_intersect, Bool.and_eq_true]

theorem length_le_of_isSubset {field other : BitField} (subset : field.isSubset other = true) :
    field.words.length ≤ other.words.length := by
  unfold isSubset at subset
  rw [Bool.and_eq_true, decide_eq_true_eq] at subset
  exact subset.1

theorem isSubset_iff (field other : BitField) :
    field.isSubset other = true ↔
      field.words.length ≤ other.words.length ∧ field.members ⊆ other.members := by
  constructor
  · intro subset
    refine ⟨length_le_of_isSubset subset, fun number held => ?_⟩
    rw [mem_members] at held ⊢
    exact bit_of_isSubset subset held
  · rintro ⟨shorter, within⟩
    exact isSubset_of_bit shorter fun number held => mem_members.mp (within (mem_members.mpr held))

theorem count_eq_card_members (field : BitField) : field.count = field.members.card :=
  count_eq_card fun _ => mem_members.symm

theorem mem_toList_iff_mem_members {field : BitField} {index : Nat} :
    index ∈ field.toList ↔ index ∈ field.members := by
  rw [mem_toList_iff, mem_members]

/-- Bit fields implement finite sets of numbers. A number is held when it lies within the words and
its bit, bit `index % 64` of word `index / 64`, is set; the members are the numbers held. Setting a
number within the words adds exactly it; the walk over the words lists the members, each once and
in increasing order; the count is their number; the subset check passes exactly on a field not
longer than the other whose members it has; disjunction with a field that is not longer gives the
union and conjunction the intersection, both keeping the field's words. -/
theorem operations_implement_finite_sets (field other : BitField) :
    (∀ index : Int, field.isSet index = true ↔
      0 ≤ index ∧ index < 64 * field.words.length ∧
        ((field.words[index.toNat / 64]?).getD 0).toNat.testBit (index.toNat % 64) = true) ∧
    (∀ index : Nat, index ∈ field.members ↔ field.isSet index = true) ∧
    (∀ index : Nat, index < 64 * field.words.length →
      (field.set index).words.length = field.words.length ∧
        (field.set index).members = insert index field.members) ∧
    (field.toList.SortedLT ∧ ∀ index, index ∈ field.toList ↔ index ∈ field.members) ∧
    field.count = field.members.card ∧
    (field.isSubset other = true ↔
      field.words.length ≤ other.words.length ∧ field.members ⊆ other.members) ∧
    (other.words.length ≤ field.words.length →
      (field.union other).words.length = field.words.length ∧
        (field.union other).members = field.members ∪ other.members) ∧
    (field.intersect other).words.length = field.words.length ∧
      (field.intersect other).members = field.members ∩ other.members := by
  refine ⟨isSet_iff field, fun _ => mem_members_iff_isSet, ?_, ?_, count_eq_card_members field,
    isSubset_iff field other, ?_, length_intersect field other, members_intersect field other⟩
  · intro index inside
    exact ⟨length_set field index, members_set inside⟩
  · exact ⟨(toList_pairwise field).sortedLT, fun _ => mem_toList_iff_mem_members⟩
  · intro shorter
    exact ⟨length_union field other, members_union_of_length_le shorter⟩

/-- The fields of a function with instructions at 0 and 129 and one with 0 and 5 run: setting 64
in the first, and its disjunction with the second. -/
theorem sample_fields_as_sets :
    (64 < 64 * (⟨[1, 0, 2]⟩ : BitField).words.length ∧
      ((⟨[1, 0, 2]⟩ : BitField).set 64).members = insert 64 (⟨[1, 0, 2]⟩ : BitField).members) ∧
    ((⟨[0x21]⟩ : BitField).words.length ≤ (⟨[1, 0, 2]⟩ : BitField).words.length ∧
      ((⟨[1, 0, 2]⟩ : BitField).union ⟨[0x21]⟩).members =
        (⟨[1, 0, 2]⟩ : BitField).members ∪ (⟨[0x21]⟩ : BitField).members) := by
  obtain ⟨-, -, setting, -, -, -, joining, -⟩ := operations_implement_finite_sets ⟨[1, 0, 2]⟩ ⟨[0x21]⟩
  exact ⟨⟨by decide, (setting 64 (by decide)).2⟩, ⟨by decide, (joining (by decide)).2⟩⟩

end BitField

end Testbench
