import Mathlib
import Testbench.Proofs.Coverage.Exact

/-!
Saving a run's coverage over a saved map keeps nothing stale: a function of the package keeps its
saved bits only when the saved record has the function's current size and instructions.
-/

namespace Testbench

namespace FunctionCoverage

variable {function : LinkedFunction}

/-- A record has the shape of a linked function: its code's size and its instructions. -/
def ShapedAs (record : FunctionCoverage) (function : LinkedFunction) : Prop :=
  record.size = function.function.code.length ∧
    ∀ offset, record.instructions.bit offset = true ↔ offset ∈ function.offsets

theorem length_instructions_fresh (function : LinkedFunction) :
    (fresh function).instructions.words.length = BitField.wordCount function.function.code.length := by
  simp [fresh, ofOffsets, BitField.length_foldl_set]

theorem fresh_shapedAs (within : ∀ offset ∈ function.offsets, offset < function.function.code.length) :
    (fresh function).ShapedAs function :=
  ⟨rfl, fun offset => by rw [bit_instructions_fresh within, decide_eq_true_iff]⟩

theorem refresh_keeps_iff (within : ∀ offset ∈ function.offsets, offset < function.function.code.length)
    {previous : FunctionCoverage} (formed : previous.WellFormed) :
    (previous.size == (fresh function).size && previous.instructions == (fresh function).instructions) = true ↔
      previous.ShapedAs function := by
  have freshShaped := fresh_shapedAs within
  simp only [Bool.and_eq_true, beq_iff_eq]
  constructor
  · rintro ⟨sameSize, sameInstructions⟩
    refine ⟨sameSize, fun offset => ?_⟩
    rw [sameInstructions]
    exact freshShaped.2 offset
  · rintro ⟨sameSize, sameBits⟩
    refine ⟨sameSize, BitField.ext_bit ?_ fun offset => ?_⟩
    · rw [formed.instructions_length, length_instructions_fresh, sameSize]
    · rw [Bool.eq_iff_iff, sameBits, freshShaped.2]

theorem refresh_spec (within : ∀ offset ∈ function.offsets, offset < function.function.code.length)
    {held : Option FunctionCoverage} (heldFormed : RecordsWellFormed held) :
    (refresh held (fresh function)).WellFormed ∧ (refresh held (fresh function)).ShapedAs function ∧
      ∀ offset, (refresh held (fresh function)).covered.bit offset = true ↔
        ∃ previous, held = some previous ∧ previous.ShapedAs function ∧ previous.covered.bit offset = true := by
  have freshFormed : (fresh function).WellFormed := ofOffsets_wellFormed within
  have freshEmpty : ∀ offset, (fresh function).covered.bit offset = false := fun offset =>
    BitField.bit_empty _ offset
  cases held with
  | none => exact ⟨freshFormed, fresh_shapedAs within, fun offset => by simp [refresh, freshEmpty]⟩
  | some previous =>
    have formed := heldFormed previous rfl
    by_cases kept : previous.ShapedAs function
    · have keeps := (refresh_keeps_iff within formed).mpr kept
      simp only [refresh, keeps, if_true]
      exact ⟨formed, kept, fun offset => by simp [kept]⟩
    · have drops : (previous.size == (fresh function).size &&
          previous.instructions == (fresh function).instructions) = false :=
        Bool.eq_false_iff.mpr fun keeps => kept ((refresh_keeps_iff within formed).mp keeps)
      simp only [refresh, drops, Bool.false_eq_true, if_false]
      exact ⟨freshFormed, fresh_shapedAs within, fun offset => by simp [kept, freshEmpty]⟩

theorem merge_markAll_fresh (within : ∀ offset ∈ function.offsets, offset < function.function.code.length)
    {offsets : List Nat} (ran : ∀ offset ∈ offsets, offset ∈ function.offsets) {record : FunctionCoverage}
    (formed : record.WellFormed) (shaped : record.ShapedAs function) :
    (record.merge ((fresh function).markAll offsets)).ShapedAs function ∧
      ∀ offset, (record.merge ((fresh function).markAll offsets)).covered.bit offset =
        (record.covered.bit offset || decide (offset ∈ offsets)) := by
  obtain ⟨marksSize, marksInstructions, marksLength⟩ := markAll_shape (fresh function) offsets
  have notWider : ¬ record.size < ((fresh function).markAll offsets).size := by
    rw [marksSize, shaped.1]
    exact Nat.lt_irrefl _
  have merged : record.merge ((fresh function).markAll offsets) =
      { record with
        instructions := record.instructions.union ((fresh function).markAll offsets).instructions
        covered := record.covered.union ((fresh function).markAll offsets).covered } := by
    simp only [FunctionCoverage.merge, FunctionCoverage.grow, if_pos (Nat.le_of_not_lt notWider)]
  have instructionsShorter : ((fresh function).markAll offsets).instructions.words.length ≤
      record.instructions.words.length := by
    rw [marksInstructions, length_instructions_fresh, formed.instructions_length, shaped.1]
  have coveredShorter : ((fresh function).markAll offsets).covered.words.length ≤ record.covered.words.length := by
    rw [marksLength, formed.covered_length, shaped.1]
    exact Nat.le_of_eq (by simp [fresh, ofOffsets])
  rw [merged]
  refine ⟨⟨shaped.1, fun offset => ?_⟩, fun offset => ?_⟩
  · rw [BitField.bit_union_of_length_le instructionsShorter, marksInstructions, bit_instructions_fresh within,
      Bool.or_eq_true, shaped.2, decide_eq_true_iff, or_self]
  · rw [BitField.bit_union_of_length_le coveredShorter, bit_covered_fresh_markAll within ran]

end FunctionCoverage

namespace CoverageMap

theorem findSorted?_foldl_addFunction_of_absent {name : Name} :
    ∀ {functions : List LinkedFunction}, (∀ function ∈ functions, function.function.name ≠ name) →
      ∀ table : FunctionTable, findSorted? name (functions.foldl addFunction table) = findSorted? name table
  | [], _, _ => rfl
  | function :: rest, absent, table => by
    rw [List.foldl_cons, findSorted?_foldl_addFunction_of_absent (fun other member => absent other (.tail _ member)),
      findSorted?_addFunction, if_neg (absent function List.mem_cons_self)]

theorem function?_addPackage_of_absent {id : ModuleId} {name : Name} :
    ∀ {modules : List LinkedModule},
      (∀ module ∈ modules, module.id = id → ∀ function ∈ module.functions, function.function.name ≠ name) →
      ∀ map : CoverageMap, (modules.foldl addModule map).function? id name = map.function? id name
  | [], _, _ => rfl
  | module :: rest, absent, map => by
    have restAbsent := fun other member => absent other (List.mem_cons_of_mem module member)
    rw [List.foldl_cons, function?_addPackage_of_absent restAbsent, addModule_eq, function?_setFunctions]
    split
    · rename_i same
      subst same
      have missing : ∀ function ∈ module.functions, function.function.name ≠ name :=
        absent module List.mem_cons_self rfl
      rw [findSorted?_foldl_addFunction_of_absent missing, function?]
      cases map.functions? module.id <;> rfl
    · rfl

theorem functions?_isSome_addPackage (map : CoverageMap) (package : Package) (id : ModuleId) :
    ((map.addPackage package).functions? id).isSome =
      ((map.functions? id).isSome || package.modules.any (·.id == id)) := by
  unfold CoverageMap.addPackage
  induction package.modules generalizing map with
  | nil => simp
  | cons module rest ih =>
    rw [List.foldl_cons, ih, functions?_addModule, List.any_cons]
    by_cases same : module.id = id
    · simp [same]
    · simp [same, beq_eq_false_iff_ne.mpr same]

variable {old : CoverageMap} {package : Package} {events : List Event}

/-- Each function of the package ends with its current shape, covering what the run ran and what
the held record covered when that had the current shape. -/
theorem function?_refreshed (formed : old.WellFormed) (wellLinked : package.WellLinked)
    (ids : (package.modules.map (·.id)).Nodup)
    (names : ∀ module ∈ package.modules, (module.functions.map (·.function.name)).Nodup)
    (on : ∀ event ∈ events, event.OnInstruction package) {module : LinkedModule} (member : module ∈ package.modules)
    {function : LinkedFunction} (listed : function ∈ module.functions) :
    ∃ record, ((old.addPackage package).merge ((({} : CoverageMap).addPackage package).apply events)).function?
        module.id function.function.name = some record ∧ record.ShapedAs function ∧
      ∀ offset, record.covered.bit offset = true ↔
        offset ∈ runOffsets events module.id function.function.name ∨
          ∃ previous, old.function? module.id function.function.name = some previous ∧
            previous.ShapedAs function ∧ previous.covered.bit offset = true := by
  have within := offsets_within_of_verified (wellLinked.verified module member) function listed
  have ran : ∀ offset ∈ runOffsets events module.id function.function.name, offset ∈ function.offsets := by
    intro offset offsetRan
    obtain ⟨event, eventMember, belongs, rfl⟩ := mem_runOffsets.mp offsetRan
    exact offset_mem_of_onInstruction wellLinked names member listed (on event eventMember) belongs
  have runSorted := (sorted_empty.addPackage package).apply events
  obtain ⟨refreshedFormed, refreshedShaped, refreshedCovered⟩ :=
    FunctionCoverage.refresh_spec within (formed.records module.id function.function.name)
  obtain ⟨shaped, bits⟩ := FunctionCoverage.merge_markAll_fresh within ran refreshedFormed refreshedShaped
  rw [function?_merge _ runSorted, function?_apply, function?_addPackage ids names member listed,
    function?_addPackage_refresh old ids names member listed, Option.map_some]
  refine ⟨_, rfl, shaped, fun offset => ?_⟩
  rw [bits, Bool.or_eq_true, refreshedCovered, decide_eq_true_iff, or_comm]

theorem function?_refreshed_of_absent {id : ModuleId} {name : Name}
    (absent : ∀ module ∈ package.modules, module.id = id → ∀ function ∈ module.functions,
      function.function.name ≠ name) :
    ((old.addPackage package).merge ((({} : CoverageMap).addPackage package).apply events)).function? id name =
      old.function? id name := by
  have runSorted := (sorted_empty.addPackage package).apply events
  have runAbsent : (({} : CoverageMap).addPackage package).function? id name = none :=
    function?_addPackage_of_absent absent {}
  rw [function?_merge _ runSorted, function?_apply, runAbsent, Option.map_none, mergeRecords_none_right]
  exact function?_addPackage_of_absent absent old

theorem functions?_isSome_refreshed (id : ModuleId) :
    (((old.addPackage package).merge ((({} : CoverageMap).addPackage package).apply events)).functions? id).isSome =
      ((old.functions? id).isSome || package.modules.any (·.id == id)) := by
  rw [functions?_isSome_merge, functions?_isSome_apply, functions?_isSome_addPackage,
    functions?_isSome_addPackage]
  cases (old.functions? id).isSome <;> cases package.modules.any (·.id == id) <;> rfl

end CoverageMap

end Testbench
