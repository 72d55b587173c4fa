import Mathlib
import Testbench.Coverage.Storage
import Testbench.Coverage.Summary
import Testbench.Proofs.Coverage.BitField
import Testbench.Proofs.Module.Verified

/-!
The invariant of a coverage map, kept by adding linked modules, marking runs and merging. A map
that keeps it never counts more instructions run than instructions.
-/

namespace Testbench

namespace FunctionCoverage

/-- The invariant of a function's record. -/
structure WellFormed (function : FunctionCoverage) : Prop where
  instructions_length : function.instructions.words.length = BitField.wordCount function.size
  covered_length : function.covered.words.length = BitField.wordCount function.size
  covered_instructions : ∀ index, function.covered.bit index = true →
    function.instructions.bit index = true
  instructions_below : ∀ index, function.instructions.bit index = true → index < function.size

theorem wordCount_le_wordCount {small large : Nat} (le : small ≤ large) :
    BitField.wordCount small ≤ BitField.wordCount large := by
  unfold BitField.wordCount
  omega

theorem ofOffsets_wellFormed {size : Nat} {offsets : List Nat}
    (below : ∀ offset ∈ offsets, offset < size) : (ofOffsets size offsets).WellFormed where
  instructions_length := by simp [ofOffsets, BitField.length_foldl_set]
  covered_length := by simp [ofOffsets]
  covered_instructions index held := by simp [ofOffsets] at held
  instructions_below index held := by
    rcases BitField.bit_foldl_set offsets _ held with empty | listed
    · simp at empty
    · exact below index listed

theorem WellFormed.setCovered {function : FunctionCoverage} (formed : function.WellFormed)
    {index : Nat} (instruction : function.instructions.bit index = true) :
    { function with covered := function.covered.set index }.WellFormed where
  instructions_length := formed.instructions_length
  covered_length := by simp [formed.covered_length]
  covered_instructions other held := by
    rw [BitField.bit_set] at held
    simp only [Bool.or_eq_true, Bool.and_eq_true, decide_eq_true_eq] at held
    rcases held with old | ⟨rfl, -⟩
    · exact formed.covered_instructions other old
    · exact instruction
  instructions_below := formed.instructions_below

theorem grow_size (function : FunctionCoverage) (size : Nat) :
    (function.grow size).size = max function.size size := by
  unfold grow
  split
  · omega
  · dsimp only
    omega

theorem WellFormed.grow {function : FunctionCoverage} (formed : function.WellFormed) (size : Nat) :
    (function.grow size).WellFormed := by
  unfold FunctionCoverage.grow
  split
  · exact formed
  · rename_i larger
    dsimp only
    have wider := wordCount_le_wordCount (Nat.le_of_lt (Nat.lt_of_not_le larger))
    refine ⟨?_, ?_, ?_, ?_⟩
    · simp only [BitField.extend, List.length_append, List.length_replicate, formed.instructions_length]
      omega
    · simp only [BitField.extend, List.length_append, List.length_replicate, formed.covered_length]
      omega
    · intro index held
      rw [BitField.bit_extend] at held ⊢
      exact formed.covered_instructions index held
    · intro index held
      rw [BitField.bit_extend] at held
      have := formed.instructions_below index held
      show index < size
      omega

theorem WellFormed.merge {function other : FunctionCoverage} (formed : function.WellFormed)
    (otherFormed : other.WellFormed) : (function.merge other).WellFormed := by
  have grown := formed.grow other.size
  have sizeIs := grow_size function other.size
  refine ⟨?_, ?_, ?_, ?_⟩
  · simp [FunctionCoverage.merge, grown.instructions_length]
  · simp [FunctionCoverage.merge, grown.covered_length]
  · intro index held
    simp only [FunctionCoverage.merge, BitField.bit_union, Bool.or_eq_true, Bool.and_eq_true,
      decide_eq_true_eq] at held ⊢
    rcases held with mine | ⟨theirs, inside⟩
    · exact Or.inl (grown.covered_instructions index mine)
    · exact Or.inr ⟨otherFormed.covered_instructions index theirs, by
        rw [grown.instructions_length]
        rwa [grown.covered_length] at inside⟩
  · intro index held
    simp only [FunctionCoverage.merge, BitField.bit_union, Bool.or_eq_true, Bool.and_eq_true,
      decide_eq_true_eq] at held
    show index < (function.grow other.size).size
    rcases held with mine | ⟨theirs, -⟩
    · exact grown.instructions_below index mine
    · have theirsBelow := otherFormed.instructions_below index theirs
      rw [sizeIs]
      omega

theorem WellFormed.ratio_le {function : FunctionCoverage} (formed : function.WellFormed) :
    function.ratio.1 ≤ function.ratio.2 :=
  BitField.count_le_of_bit (formed.covered_length.trans formed.instructions_length.symm)
    formed.covered_instructions

end FunctionCoverage

/-- Every function of a table keeps the invariant. -/
def TableWellFormed (table : FunctionTable) : Prop :=
  ∀ entry ∈ table, entry.2.WellFormed

/-- Every function the map knows keeps the invariant. -/
def CoverageMap.WellFormed (map : CoverageMap) : Prop :=
  ∀ entry ∈ map.modules, TableWellFormed entry.2

/-! ### Sorted tables -/

theorem mem_insertSorted {κ α : Type} {order : κ → κ → Ordering} {key : κ} {value : α}
    {entry : κ × α} : ∀ {entries : List (κ × α)}, entry ∈ insertSorted order key value entries →
      entry = (key, value) ∨ entry ∈ entries
  | [], member => by simpa [insertSorted] using member
  | (other, held) :: rest, member => by
    unfold insertSorted at member
    split at member
    · simpa using member
    · simp only [List.mem_cons] at member
      rcases member with added | later
      · exact Or.inl added
      · exact Or.inr (List.mem_cons_of_mem _ later)
    · simp only [List.mem_cons] at member
      rcases member with first | later
      · exact Or.inr (first ▸ List.mem_cons_self)
      · rcases mem_insertSorted later with added | old
        · exact Or.inl added
        · exact Or.inr (List.mem_cons_of_mem _ old)

theorem findSorted?_mem {κ α : Type} [BEq κ] {key : κ} {entries : List (κ × α)} {value : α}
    (found : findSorted? key entries = some value) : ∃ other, (other, value) ∈ entries := by
  unfold findSorted? at found
  obtain ⟨entry, entryFound, rfl⟩ := Option.map_eq_some_iff.mp found
  exact ⟨entry.1, List.mem_of_find?_eq_some entryFound⟩

theorem TableWellFormed.insertSorted {table : FunctionTable} (formed : TableWellFormed table)
    {name : Name} {function : FunctionCoverage} (functionFormed : function.WellFormed) :
    TableWellFormed (Testbench.insertSorted Name.compare name function table) := by
  intro entry member
  rcases mem_insertSorted member with rfl | old
  · exact functionFormed
  · exact formed entry old

theorem TableWellFormed.findSorted? {table : FunctionTable} (formed : TableWellFormed table)
    {name : Name} {function : FunctionCoverage} (found : Testbench.findSorted? name table = some function) :
    function.WellFormed := by
  obtain ⟨other, member⟩ := findSorted?_mem found
  exact formed _ member

namespace CoverageMap

theorem WellFormed.functions? {map : CoverageMap} (formed : map.WellFormed) {id : ModuleId}
    {table : FunctionTable} (found : map.functions? id = some table) : TableWellFormed table := by
  obtain ⟨other, member⟩ := findSorted?_mem found
  exact formed _ member

theorem WellFormed.start {map : CoverageMap} (formed : map.WellFormed) (id : ModuleId) :
    TableWellFormed ((map.functions? id).getD []) := by
  cases found : map.functions? id with
  | none => exact fun _ member => by cases member
  | some table => exact formed.functions? found

theorem WellFormed.setFunctions {map : CoverageMap} (formed : map.WellFormed) {table : FunctionTable}
    (tableFormed : TableWellFormed table) (id : ModuleId) : (map.setFunctions id table).WellFormed := by
  intro entry member
  rcases mem_insertSorted member with rfl | old
  · exact tableFormed
  · exact formed entry old

@[simp] theorem wellFormed_empty : ({} : CoverageMap).WellFormed := fun _ member => by cases member

/-! ### The operations keep the invariant -/

theorem WellFormed.addModule {map : CoverageMap} (formed : map.WellFormed) {module : LinkedModule}
    (within : ∀ function ∈ module.functions, ∀ offset ∈ function.offsets,
      offset < function.function.code.length) : (map.addModule module).WellFormed := by
  unfold CoverageMap.addModule
  refine formed.setFunctions ?_ module.id
  refine List.foldlRecOn (motive := TableWellFormed) module.functions _ (formed.start module.id) ?_
  intro table tableFormed function member
  have fresh := FunctionCoverage.ofOffsets_wellFormed (within function member)
  dsimp only
  split
  · split
    · exact tableFormed
    · exact tableFormed.insertSorted fresh
  · exact tableFormed.insertSorted fresh

theorem WellFormed.apply {map : CoverageMap} (formed : map.WellFormed) (events : List Event) :
    (map.apply events).WellFormed := by
  unfold CoverageMap.apply
  refine List.foldlRecOn (motive := CoverageMap.WellFormed) events _ formed ?_
  intro map mapFormed event _
  split
  · exact mapFormed
  · rename_i table found
    have tableFormed := mapFormed.functions? found
    split
    · rename_i function functionFound
      split
      · rename_i instruction
        rw [BitField.isSet_eq_bit] at instruction
        exact mapFormed.setFunctions
          (tableFormed.insertSorted ((tableFormed.findSorted? functionFound).setCovered instruction)) _
      · exact mapFormed
    · exact mapFormed

theorem WellFormed.merge {map other : CoverageMap} (formed : map.WellFormed)
    (otherFormed : other.WellFormed) : (map.merge other).WellFormed := by
  unfold CoverageMap.merge
  refine List.foldlRecOn (motive := CoverageMap.WellFormed) other.modules _ formed ?_
  rintro map mapFormed ⟨id, functions⟩ member
  refine mapFormed.setFunctions ?_ id
  refine List.foldlRecOn (motive := TableWellFormed) functions _ (mapFormed.start id) ?_
  rintro table tableFormed named named_member
  have namedFormed := otherFormed _ member named named_member
  dsimp only
  split
  · rename_i known knownFound
    exact tableFormed.insertSorted ((tableFormed.findSorted? knownFound).merge namedFormed)
  · exact tableFormed.insertSorted namedFormed

theorem offsets_within_of_verified {module : LinkedModule} (verified : module.Verified) :
    ∀ function ∈ module.functions, ∀ offset ∈ function.offsets,
      offset < function.function.code.length := by
  intro function member offset listed
  obtain ⟨found, -⟩ := Module.verify_offsets (verified.verify_ok function member)
  obtain ⟨decoded, decodedOk, -⟩ := Code.offsets_decode found offset listed
  unfold Code.decode at decodedOk
  split at decodedOk
  · assumption
  · cases decodedOk

theorem WellFormed.addPackage {map : CoverageMap} (formed : map.WellFormed) {package : Package}
    (verified : ∀ module ∈ package.modules, module.Verified) : (map.addPackage package).WellFormed := by
  unfold CoverageMap.addPackage
  refine List.foldlRecOn (motive := CoverageMap.WellFormed) package.modules _ formed ?_
  intro map mapFormed module member
  exact mapFormed.addModule (offsets_within_of_verified (verified module member))

/-! ### Ratios -/

theorem WellFormed.ratio?_le {map : CoverageMap} (formed : map.WellFormed) {id : ModuleId}
    {name : Name} {ratio : Nat × Nat} (found : map.ratio? id name = some ratio) : ratio.1 ≤ ratio.2 := by
  unfold ratio? function? at found
  obtain ⟨function, functionFound, rfl⟩ := Option.map_eq_some_iff.mp found
  obtain ⟨table, tableFound, functionFound⟩ := Option.bind_eq_some_iff.mp functionFound
  exact ((formed.functions? tableFound).findSorted? functionFound).ratio_le

theorem WellFormed.moduleRatio?_le {map : CoverageMap} (formed : map.WellFormed) {id : ModuleId}
    {ratio : Nat × Nat} (found : map.moduleRatio? id = some ratio) : ratio.1 ≤ ratio.2 := by
  unfold moduleRatio? at found
  obtain ⟨table, tableFound, rfl⟩ := Option.map_eq_some_iff.mp found
  have tableFormed := formed.functions? tableFound
  refine List.foldlRecOn (motive := fun sums : Nat × Nat => sums.1 ≤ sums.2) table _ (Nat.le_refl 0) ?_
  rintro ⟨covered, total⟩ ordered ⟨name, function⟩ member
  have recordLe := (tableFormed _ member).ratio_le
  dsimp only at ordered recordLe ⊢
  omega

end CoverageMap

theorem Ratio.foldl_add_covered_le {α : Type} (part : α → Ratio) {items : List α}
    (each : ∀ item ∈ items, (part item).covered ≤ (part item).total) {start : Ratio}
    (startLe : start.covered ≤ start.total) :
    (items.foldl (fun sum item => sum.add (part item)) start).covered ≤
      (items.foldl (fun sum item => sum.add (part item)) start).total := by
  refine List.foldlRecOn (motive := fun sum : Ratio => sum.covered ≤ sum.total) items _ startLe ?_
  intro sum sumLe item member
  have itemLe := each item member
  simp only [Ratio.add]
  omega

theorem ModuleSummary.ofTable_covered_le (id : ModuleId) {table : FunctionTable}
    (formed : TableWellFormed table) :
    (∀ function ∈ (ofTable id table).functions, function.ratio.covered ≤ function.ratio.total) ∧
      (ofTable id table).ratio.covered ≤ (ofTable id table).ratio.total := by
  have each : ∀ function ∈ (ofTable id table).functions, function.ratio.covered ≤ function.ratio.total := by
    simp only [ofTable, List.mem_map]
    rintro _ ⟨⟨name, record⟩, member, rfl⟩
    exact (formed _ member).ratio_le
  exact ⟨each, Ratio.foldl_add_covered_le FunctionSummary.ratio each (Nat.le_refl 0)⟩

theorem CoverageMap.WellFormed.summary_covered_le {map : CoverageMap} (formed : map.WellFormed) :
    (∀ module ∈ map.summary.modules,
      (∀ function ∈ module.functions, function.ratio.covered ≤ function.ratio.total) ∧
        module.ratio.covered ≤ module.ratio.total) ∧
      map.summary.ratio.covered ≤ map.summary.ratio.total := by
  have each : ∀ module ∈ map.summary.modules,
      (∀ function ∈ module.functions, function.ratio.covered ≤ function.ratio.total) ∧
        module.ratio.covered ≤ module.ratio.total := by
    simp only [CoverageMap.summary, List.mem_map]
    rintro _ ⟨⟨id, table⟩, member, rfl⟩
    exact ModuleSummary.ofTable_covered_le id (formed _ member)
  exact ⟨each, Ratio.foldl_add_covered_le ModuleSummary.ratio (fun module member => (each module member).2)
    (Nat.le_refl 0)⟩

end Testbench
