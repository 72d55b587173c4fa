import Mathlib
import Testbench.Proofs.Coverage.Lookup

/-!
Merging coverage is a join: on records and sorted maps that keep the invariant it is commutative,
associative and idempotent, and a shared function gets the larger size and the bits of both.
-/

namespace Testbench

namespace FunctionCoverage

variable {function other third : FunctionCoverage}

theorem instructions_bit_grow (function : FunctionCoverage) (size index : Nat) :
    (function.grow size).instructions.bit index = function.instructions.bit index := by
  unfold grow
  split
  · rfl
  · exact BitField.bit_extend _ _ _

theorem covered_bit_grow (function : FunctionCoverage) (size index : Nat) :
    (function.grow size).covered.bit index = function.covered.bit index := by
  unfold grow
  split
  · rfl
  · exact BitField.bit_extend _ _ _

theorem size_merge (function other : FunctionCoverage) :
    (function.merge other).size = max function.size other.size :=
  grow_size function other.size

theorem ext_bit (sameSize : function.size = other.size)
    (instructionsLength : function.instructions.words.length = other.instructions.words.length)
    (coveredLength : function.covered.words.length = other.covered.words.length)
    (instructionsBits : ∀ index, function.instructions.bit index = other.instructions.bit index)
    (coveredBits : ∀ index, function.covered.bit index = other.covered.bit index) : function = other := by
  obtain ⟨size, instructions, covered⟩ := function
  obtain ⟨otherSize, otherInstructions, otherCovered⟩ := other
  dsimp only at sameSize instructionsLength coveredLength instructionsBits coveredBits
  rw [sameSize, BitField.ext_bit instructionsLength instructionsBits,
    BitField.ext_bit coveredLength coveredBits]

theorem WellFormed.ext (formed : function.WellFormed) (otherFormed : other.WellFormed)
    (sameSize : function.size = other.size)
    (instructionsBits : ∀ index, function.instructions.bit index = other.instructions.bit index)
    (coveredBits : ∀ index, function.covered.bit index = other.covered.bit index) : function = other :=
  ext_bit sameSize
    (by rw [formed.instructions_length, otherFormed.instructions_length, sameSize])
    (by rw [formed.covered_length, otherFormed.covered_length, sameSize])
    instructionsBits coveredBits

theorem WellFormed.fits_grow (formed : function.WellFormed) (otherFormed : other.WellFormed) :
    other.instructions.words.length ≤ (function.grow other.size).instructions.words.length ∧
      other.covered.words.length ≤ (function.grow other.size).covered.words.length := by
  have grown := formed.grow other.size
  have wider := wordCount_le_wordCount (le_max_right function.size other.size)
  rw [otherFormed.instructions_length, otherFormed.covered_length, grown.instructions_length,
    grown.covered_length, grow_size]
  exact ⟨wider, wider⟩

theorem WellFormed.instructions_bit_merge (formed : function.WellFormed) (otherFormed : other.WellFormed)
    (index : Nat) :
    (function.merge other).instructions.bit index =
      (function.instructions.bit index || other.instructions.bit index) := by
  show ((function.grow other.size).instructions.union other.instructions).bit index = _
  rw [BitField.bit_union_of_length_le (formed.fits_grow otherFormed).1, instructions_bit_grow]

theorem WellFormed.covered_bit_merge (formed : function.WellFormed) (otherFormed : other.WellFormed)
    (index : Nat) :
    (function.merge other).covered.bit index = (function.covered.bit index || other.covered.bit index) := by
  show ((function.grow other.size).covered.union other.covered).bit index = _
  rw [BitField.bit_union_of_length_le (formed.fits_grow otherFormed).2, covered_bit_grow]

theorem WellFormed.merge_comm (formed : function.WellFormed) (otherFormed : other.WellFormed) :
    function.merge other = other.merge function :=
  (formed.merge otherFormed).ext (otherFormed.merge formed)
    (by rw [size_merge, size_merge, max_comm])
    (fun index => by
      rw [formed.instructions_bit_merge otherFormed, otherFormed.instructions_bit_merge formed,
        Bool.or_comm])
    (fun index => by
      rw [formed.covered_bit_merge otherFormed, otherFormed.covered_bit_merge formed, Bool.or_comm])

theorem WellFormed.merge_assoc (formed : function.WellFormed) (otherFormed : other.WellFormed)
    (thirdFormed : third.WellFormed) :
    (function.merge other).merge third = function.merge (other.merge third) :=
  ((formed.merge otherFormed).merge thirdFormed).ext (formed.merge (otherFormed.merge thirdFormed))
    (by rw [size_merge, size_merge, size_merge, size_merge, max_assoc])
    (fun index => by
      rw [(formed.merge otherFormed).instructions_bit_merge thirdFormed,
        formed.instructions_bit_merge otherFormed,
        formed.instructions_bit_merge (otherFormed.merge thirdFormed),
        otherFormed.instructions_bit_merge thirdFormed, Bool.or_assoc])
    (fun index => by
      rw [(formed.merge otherFormed).covered_bit_merge thirdFormed, formed.covered_bit_merge otherFormed,
        formed.covered_bit_merge (otherFormed.merge thirdFormed), otherFormed.covered_bit_merge thirdFormed,
        Bool.or_assoc])

@[simp] theorem merge_self (function : FunctionCoverage) : function.merge function = function := by
  unfold merge grow
  rw [if_pos (Nat.le_refl _)]
  simp

end FunctionCoverage

/-! ### Records under one key -/

section Records

variable {mine theirs third : Option FunctionCoverage}

/-- Every record there is keeps the invariant. -/
def RecordsWellFormed (records : Option FunctionCoverage) : Prop :=
  ∀ record ∈ records, record.WellFormed

theorem mergeRecords_comm (mineFormed : RecordsWellFormed mine) (theirsFormed : RecordsWellFormed theirs) :
    mergeRecords mine theirs = mergeRecords theirs mine := by
  cases mine with
  | none => cases theirs <;> rfl
  | some held =>
    cases theirs with
    | none => rfl
    | some other => exact congrArg some ((mineFormed held rfl).merge_comm (theirsFormed other rfl))

theorem mergeRecords_assoc (mineFormed : RecordsWellFormed mine) (theirsFormed : RecordsWellFormed theirs)
    (thirdFormed : RecordsWellFormed third) :
    mergeRecords (mergeRecords mine theirs) third = mergeRecords mine (mergeRecords theirs third) := by
  cases mine with
  | none => rfl
  | some held =>
    cases theirs with
    | none => cases third <;> rfl
    | some other =>
      cases third with
      | none => rfl
      | some last =>
        exact congrArg some ((mineFormed held rfl).merge_assoc (theirsFormed other rfl) (thirdFormed last rfl))

@[simp] theorem mergeRecords_self (mine : Option FunctionCoverage) : mergeRecords mine mine = mine := by
  cases mine with
  | none => rfl
  | some held => exact congrArg some held.merge_self

end Records

/-! ### Maps -/

namespace CoverageMap

variable {map other third : CoverageMap}

theorem WellFormed.records (formed : map.WellFormed) (id : ModuleId) (name : Name) :
    RecordsWellFormed (map.function? id name) := by
  intro record found
  rw [function?, Option.mem_def, Option.bind_eq_some_iff] at found
  obtain ⟨table, tableFound, recordFound⟩ := found
  exact (formed.functions? tableFound).findSorted? recordFound

theorem merge_comm (formed : map.WellFormed) (sorted : map.Sorted) (otherFormed : other.WellFormed)
    (otherSorted : other.Sorted) : map.merge other = other.merge map :=
  (sorted.merge other).ext (otherSorted.merge map)
    (fun id => by rw [functions?_isSome_merge, functions?_isSome_merge, Bool.or_comm])
    (fun id name => by
      rw [function?_merge map otherSorted, function?_merge other sorted,
        mergeRecords_comm (formed.records id name) (otherFormed.records id name)])

theorem merge_assoc (formed : map.WellFormed) (sorted : map.Sorted) (otherFormed : other.WellFormed)
    (otherSorted : other.Sorted) (thirdFormed : third.WellFormed) (thirdSorted : third.Sorted) :
    (map.merge other).merge third = map.merge (other.merge third) :=
  ((sorted.merge other).merge third).ext (sorted.merge (other.merge third))
    (fun id => by
      rw [functions?_isSome_merge, functions?_isSome_merge, functions?_isSome_merge,
        functions?_isSome_merge, Bool.or_assoc])
    (fun id name => by
      rw [function?_merge _ thirdSorted, function?_merge map otherSorted,
        function?_merge map (otherSorted.merge third), function?_merge other thirdSorted,
        mergeRecords_assoc (formed.records id name) (otherFormed.records id name)
          (thirdFormed.records id name)])

theorem merge_self (sorted : map.Sorted) : map.merge map = map :=
  (sorted.merge map).ext sorted
    (fun id => by rw [functions?_isSome_merge, Bool.or_self])
    (fun id name => by rw [function?_merge map sorted, mergeRecords_self])

end CoverageMap

/-- Merging coverage maps is a join. On sorted maps that keep the invariant it is commutative,
associative and idempotent; the merged map holds exactly the modules of both operands, gives
each function the merge of the records the operands have of it (a record only one has is kept
as it is), and a function both have gets the larger size and every instruction and covered bit
of both. -/
theorem coverage_merge_join {a b c : CoverageMap} (aFormed : a.WellFormed) (aSorted : a.Sorted)
    (bFormed : b.WellFormed) (bSorted : b.Sorted) (cFormed : c.WellFormed) (cSorted : c.Sorted) :
    a.merge b = b.merge a ∧ (a.merge b).merge c = a.merge (b.merge c) ∧ a.merge a = a ∧
      ∀ id name,
        ((a.merge b).functions? id).isSome = ((a.functions? id).isSome || (b.functions? id).isSome) ∧
        (a.merge b).function? id name = mergeRecords (a.function? id name) (b.function? id name) ∧
        ∀ mine theirs, a.function? id name = some mine → b.function? id name = some theirs →
          (mine.merge theirs).size = max mine.size theirs.size ∧
          ∀ index, (mine.merge theirs).instructions.bit index =
              (mine.instructions.bit index || theirs.instructions.bit index) ∧
            (mine.merge theirs).covered.bit index = (mine.covered.bit index || theirs.covered.bit index) := by
  refine ⟨CoverageMap.merge_comm aFormed aSorted bFormed bSorted,
    CoverageMap.merge_assoc aFormed aSorted bFormed bSorted cFormed cSorted,
    CoverageMap.merge_self aSorted, fun id name => ⟨CoverageMap.functions?_isSome_merge a b id,
      CoverageMap.function?_merge a bSorted id name, ?_⟩⟩
  intro mine theirs mineFound theirsFound
  have mineFormed := aFormed.records id name mine mineFound
  have theirsFormed := bFormed.records id name theirs theirsFound
  exact ⟨FunctionCoverage.size_merge mine theirs, fun index =>
    ⟨mineFormed.instructions_bit_merge theirsFormed index, mineFormed.covered_bit_merge theirsFormed index⟩⟩

/-- Module `m` at the zero address. -/
def sampleModuleId : ModuleId := ⟨Address.zero, "m"⟩

/-- A map with one function `f`, its code `size` bytes long and its instructions at `offsets`. -/
def sampleCoverage (size : Nat) (offsets : List Nat) : CoverageMap :=
  ({} : CoverageMap).setFunctions sampleModuleId [("f", FunctionCoverage.ofOffsets size offsets)]

theorem sampleCoverage_wellFormed (size : Nat) (offsets : List Nat) (below : ∀ offset ∈ offsets, offset < size) :
    (sampleCoverage size offsets).WellFormed :=
  CoverageMap.wellFormed_empty.setFunctions
    (fun entry member => by
      rw [List.mem_singleton] at member
      subst member
      exact FunctionCoverage.ofOffsets_wellFormed below)
    sampleModuleId

theorem sampleCoverage_sorted (size : Nat) (offsets : List Nat) : (sampleCoverage size offsets).Sorted :=
  CoverageMap.sorted_empty.setFunctions (List.pairwise_singleton _ _) sampleModuleId

/-- Two builds of `f`, of three and of seventy bytes, merged with each other and with nothing. -/
theorem two_builds_merge_join :
    ((sampleCoverage 3 [0, 1]).WellFormed ∧ (sampleCoverage 3 [0, 1]).Sorted ∧
      (sampleCoverage 70 [0, 65]).WellFormed ∧ (sampleCoverage 70 [0, 65]).Sorted ∧
      ({} : CoverageMap).WellFormed ∧ ({} : CoverageMap).Sorted) ∧
    (sampleCoverage 3 [0, 1]).merge (sampleCoverage 70 [0, 65]) =
        (sampleCoverage 70 [0, 65]).merge (sampleCoverage 3 [0, 1]) ∧
      ((sampleCoverage 3 [0, 1]).merge (sampleCoverage 70 [0, 65])).merge {} =
        (sampleCoverage 3 [0, 1]).merge ((sampleCoverage 70 [0, 65]).merge {}) ∧
      (sampleCoverage 3 [0, 1]).merge (sampleCoverage 3 [0, 1]) = sampleCoverage 3 [0, 1] ∧
      ∀ id name,
        (((sampleCoverage 3 [0, 1]).merge (sampleCoverage 70 [0, 65])).functions? id).isSome =
            (((sampleCoverage 3 [0, 1]).functions? id).isSome ||
              ((sampleCoverage 70 [0, 65]).functions? id).isSome) ∧
        ((sampleCoverage 3 [0, 1]).merge (sampleCoverage 70 [0, 65])).function? id name =
          mergeRecords ((sampleCoverage 3 [0, 1]).function? id name)
            ((sampleCoverage 70 [0, 65]).function? id name) ∧
        ∀ mine theirs, (sampleCoverage 3 [0, 1]).function? id name = some mine →
          (sampleCoverage 70 [0, 65]).function? id name = some theirs →
          (mine.merge theirs).size = max mine.size theirs.size ∧
          ∀ index, (mine.merge theirs).instructions.bit index =
              (mine.instructions.bit index || theirs.instructions.bit index) ∧
            (mine.merge theirs).covered.bit index = (mine.covered.bit index || theirs.covered.bit index) :=
  have smallFormed := sampleCoverage_wellFormed 3 [0, 1] (by decide)
  have largeFormed := sampleCoverage_wellFormed 70 [0, 65] (by decide)
  ⟨⟨smallFormed, sampleCoverage_sorted 3 [0, 1], largeFormed, sampleCoverage_sorted 70 [0, 65],
      CoverageMap.wellFormed_empty, CoverageMap.sorted_empty⟩,
    coverage_merge_join smallFormed (sampleCoverage_sorted 3 [0, 1]) largeFormed
      (sampleCoverage_sorted 70 [0, 65]) CoverageMap.wellFormed_empty CoverageMap.sorted_empty⟩

end Testbench
