import Mathlib
import Testbench.Proofs.Coverage.Map
import Testbench.Proofs.Machine.Recorded
import Testbench.Proofs.Testing.Parallel

/-!
Recorded coverage is exact: over a package built from linked modules, each function's record
covers exactly the offsets its recorded events ran, against the function's own instructions.
-/

namespace Testbench

theorem Package.module?_of_mem {package : Package} (wellLinked : package.WellLinked) {module : LinkedModule}
    (member : module ∈ package.modules) : package.module? module.id = some module := by
  unfold Package.module?
  have present : (package.modules.find? (·.id == module.id)).isSome :=
    List.find?_isSome.mpr ⟨module, member, beq_self_eq_true _⟩
  obtain ⟨found, foundIs⟩ := Option.isSome_iff_exists.mp present
  have sameId : found.id = module.id := by simpa using List.find?_some foundIs
  rw [foundIs, wellLinked.ids_unique found (List.mem_of_find?_eq_some foundIs) module member sameId]

theorem LinkedModule.findFunction?_of_mem {module : LinkedModule}
    (unique : (module.functions.map (·.function.name)).Nodup) {function : LinkedFunction}
    (listed : function ∈ module.functions) : module.findFunction? function.function.name = some function := by
  unfold LinkedModule.findFunction?
  have present : (module.functions.find? (·.function.name == function.function.name)).isSome :=
    List.find?_isSome.mpr ⟨function, listed, beq_self_eq_true _⟩
  obtain ⟨found, foundIs⟩ := Option.isSome_iff_exists.mp present
  have sameName : found.function.name = function.function.name := by simpa using List.find?_some foundIs
  rw [foundIs, List.inj_on_of_nodup_map unique (List.mem_of_find?_eq_some foundIs) listed sameName]

namespace FunctionCoverage

variable {function : LinkedFunction}

theorem bit_instructions_fresh (within : ∀ offset ∈ function.offsets, offset < function.function.code.length)
    (index : Nat) : (fresh function).instructions.bit index = decide (index ∈ function.offsets) := by
  unfold fresh ofOffsets
  rw [BitField.bit_foldl_set_eq, BitField.bit_empty, BitField.length_empty, Bool.false_or]
  by_cases listed : index ∈ function.offsets
  · simp [listed, BitField.div_lt_wordCount (within index listed)]
  · simp [listed]

theorem bit_covered_fresh_markAll (within : ∀ offset ∈ function.offsets, offset < function.function.code.length)
    {offsets : List Nat} (onInstructions : ∀ offset ∈ offsets, offset ∈ function.offsets) (index : Nat) :
    ((fresh function).markAll offsets).covered.bit index = decide (index ∈ offsets) := by
  have none : (fresh function).covered = BitField.empty function.function.code.length := rfl
  rw [covered_bit_markAll, bit_instructions_fresh within, none, BitField.bit_empty,
    BitField.length_empty, Bool.false_or]
  by_cases ran : index ∈ offsets
  · have listed := onInstructions index ran
    simp [ran, listed, BitField.div_lt_wordCount (within index listed)]
  · simp [ran]

end FunctionCoverage

namespace CoverageMap

theorem function?_foldl_addModule_of_absent {id : ModuleId} (name : Name) :
    ∀ {modules : List LinkedModule}, (∀ module ∈ modules, (module.functions.map (·.function.name)).Nodup) →
      (∀ module ∈ modules, module.id ≠ id) → ∀ map : CoverageMap,
      (modules.foldl addModule map).function? id name = map.function? id name
  | [], _, _, _ => rfl
  | module :: rest, unique, absent, map => by
    rw [List.foldl_cons,
      function?_foldl_addModule_of_absent name (fun other member => unique other (.tail _ member))
        (fun other member => absent other (.tail _ member)),
      function?_addModule map (unique module List.mem_cons_self), if_neg (absent module List.mem_cons_self)]

theorem function?_addPackage_refresh (map : CoverageMap) {package : Package}
    (ids : (package.modules.map (·.id)).Nodup)
    (names : ∀ module ∈ package.modules, (module.functions.map (·.function.name)).Nodup)
    {module : LinkedModule} (member : module ∈ package.modules) {function : LinkedFunction}
    (listed : function ∈ module.functions) :
    (map.addPackage package).function? module.id function.function.name =
      some (FunctionCoverage.refresh (map.function? module.id function.function.name)
        (FunctionCoverage.fresh function)) := by
  obtain ⟨before, after, split⟩ := List.append_of_mem member
  rw [split, List.map_append, List.map_cons, List.nodup_append, List.nodup_cons] at ids
  rw [split] at names
  have beforeAbsent : ∀ other ∈ before, other.id ≠ module.id := fun other inBefore same =>
    ids.2.2 other.id (List.mem_map_of_mem inBefore) module.id List.mem_cons_self same
  have afterAbsent : ∀ other ∈ after, other.id ≠ module.id := fun other inAfter same =>
    ids.2.1.1 (same ▸ List.mem_map_of_mem inAfter)
  unfold CoverageMap.addPackage
  rw [split, List.foldl_append, List.foldl_cons,
    function?_foldl_addModule_of_absent _ (fun other inAfter => names other (by simp [inAfter])) afterAbsent,
    function?_addModule _ (names module (by simp)), if_pos rfl,
    LinkedModule.findFunction?_of_mem (names module (by simp)) listed,
    function?_foldl_addModule_of_absent _ (fun other inBefore => names other (by simp [inBefore])) beforeAbsent]

theorem function?_addPackage {package : Package} (ids : (package.modules.map (·.id)).Nodup)
    (names : ∀ module ∈ package.modules, (module.functions.map (·.function.name)).Nodup)
    {module : LinkedModule} (member : module ∈ package.modules) {function : LinkedFunction}
    (listed : function ∈ module.functions) :
    (({} : CoverageMap).addPackage package).function? module.id function.function.name =
      some (FunctionCoverage.fresh function) := by
  rw [function?_addPackage_refresh {} ids names member listed]
  rfl

end CoverageMap

theorem offset_mem_of_onInstruction {package : Package} (wellLinked : package.WellLinked)
    (names : ∀ module ∈ package.modules, (module.functions.map (·.function.name)).Nodup)
    {module : LinkedModule} (member : module ∈ package.modules) {function : LinkedFunction}
    (listed : function ∈ module.functions) {event : Event} (on : event.OnInstruction package)
    (belongs : event.isOf module.id function.function.name = true) : event.offset ∈ function.offsets := by
  obtain ⟨owner, ownerMember, called, calledListed, sameModule, sameName, onOffset⟩ := on
  simp only [Event.isOf, Bool.and_eq_true, beq_iff_eq] at belongs
  have sameOwner : owner = module :=
    wellLinked.ids_unique owner ownerMember module member (sameModule.symm.trans belongs.1)
  subst sameOwner
  have sameFunction : called = function :=
    List.inj_on_of_nodup_map (names owner member) calledListed listed (sameName.symm.trans belongs.2)
  rw [← sameFunction]
  exact onOffset

theorem Event.OnInstruction.found {package : Package} (wellLinked : package.WellLinked)
    (names : ∀ module ∈ package.modules, (module.functions.map (·.function.name)).Nodup)
    {event : Event} (on : event.OnInstruction package) :
    ∃ module function, package.module? event.module = some module ∧
      module.findFunction? event.function = some function ∧ event.offset ∈ function.offsets := by
  obtain ⟨module, moduleMember, function, listed, sameModule, sameName, onOffset⟩ := on
  refine ⟨module, function, ?_, ?_, onOffset⟩
  · rw [sameModule]
    exact Package.module?_of_mem wellLinked moduleMember
  · rw [sameName]
    exact LinkedModule.findFunction?_of_mem (names module moduleMember) listed

theorem apply_addPackage_exact {package : Package} (wellLinked : package.WellLinked)
    (ids : (package.modules.map (·.id)).Nodup)
    (names : ∀ module ∈ package.modules, (module.functions.map (·.function.name)).Nodup)
    {events : List Event} (on : ∀ event ∈ events, event.OnInstruction package)
    {module : LinkedModule} (member : module ∈ package.modules) {function : LinkedFunction}
    (listed : function ∈ module.functions) :
    ∃ record, ((({} : CoverageMap).addPackage package).apply events).function? module.id
        function.function.name = some record ∧
      (∀ offset, record.covered.bit offset = true ↔
        offset ∈ runOffsets events module.id function.function.name) ∧
      (∀ offset, record.instructions.bit offset = true ↔ offset ∈ function.offsets) ∧
      ((({} : CoverageMap).addPackage package).apply events).ratio? module.id function.function.name =
        some ((runOffsets events module.id function.function.name).toFinset.card, function.offsets.length) := by
  have within := CoverageMap.offsets_within_of_verified (wellLinked.verified module member) function listed
  have ran : ∀ offset ∈ runOffsets events module.id function.function.name, offset ∈ function.offsets := by
    intro offset offsetRan
    obtain ⟨event, eventMember, belongs, rfl⟩ := mem_runOffsets.mp offsetRan
    exact offset_mem_of_onInstruction wellLinked names member listed (on event eventMember) belongs
  have found : ((({} : CoverageMap).addPackage package).apply events).function? module.id
      function.function.name =
        some ((FunctionCoverage.fresh function).markAll (runOffsets events module.id function.function.name)) := by
    rw [CoverageMap.function?_apply, CoverageMap.function?_addPackage ids names member listed, Option.map_some]
  have covered : ∀ offset, ((FunctionCoverage.fresh function).markAll
      (runOffsets events module.id function.function.name)).covered.bit offset = true ↔
        offset ∈ runOffsets events module.id function.function.name := fun offset => by
    rw [FunctionCoverage.bit_covered_fresh_markAll within ran, decide_eq_true_iff]
  have instructions : ∀ offset, ((FunctionCoverage.fresh function).markAll
      (runOffsets events module.id function.function.name)).instructions.bit offset = true ↔
        offset ∈ function.offsets := fun offset => by
    rw [(FunctionCoverage.markAll_shape _ _).2.1, FunctionCoverage.bit_instructions_fresh within,
      decide_eq_true_iff]
  have counted : function.offsets.toFinset.card = function.offsets.length :=
    List.toFinset_card_of_nodup (Code.offsets_nodup
      (Module.verify_offsets ((wellLinked.verified module member).verify_ok function listed)).1)
  refine ⟨_, found, covered, instructions, ?_⟩
  rw [CoverageMap.ratio?, found, Option.map_some, FunctionCoverage.ratio,
    BitField.count_eq_card fun offset => (covered offset).trans List.mem_toFinset.symm,
    BitField.count_eq_card fun offset => (instructions offset).trans List.mem_toFinset.symm, counted]

theorem runTest_recorded (package : Package) (budget : Nat) (test : TestCase) :
    ∀ event ∈ (runTest package budget test).2, ∃ machine, package.Runs machine ∧ event ∈ machine.events.toList := by
  unfold runTest
  dsimp only
  split
  · intro event member
    cases member
  · rename_i loaded done
    intro event member
    exact ⟨_, .run (.load done), member⟩

/-- Over a package built from linked modules, every instruction recorded by its runs lies on an
instruction of the function its module id and function name find, and, from an empty map, adding
the package and applying recorded events gives every function of the package a record that covers
exactly the distinct offsets its events ran, whose instructions are exactly the function's offsets,
and whose ratio is the number of distinct offsets run against the number of instructions. -/
theorem recorded_coverage_exact {name : String} {resolution : Resolution}
    {candidates : List (Module ⊕ LinkedModule)} {package : Package}
    (built : Package.build name resolution candidates = .ok package)
    (produced : ∀ module, .inr module ∈ candidates →
      ∃ (written : Module) (linkedWith : Resolution), written.link linkedWith = .ok module)
    (events : List Event)
    (recorded : ∀ event ∈ events, ∃ machine, package.Runs machine ∧ event ∈ machine.events.toList) :
    (∀ event ∈ events, ∃ module function, package.module? event.module = some module ∧
      module.findFunction? event.function = some function ∧ event.offset ∈ function.offsets) ∧
    ∀ module ∈ package.modules, ∀ function ∈ module.functions,
      ∃ record, ((({} : CoverageMap).addPackage package).apply events).function? module.id
          function.function.name = some record ∧
        (∀ offset, record.covered.bit offset = true ↔
          offset ∈ runOffsets events module.id function.function.name) ∧
        (∀ offset, record.instructions.bit offset = true ↔ offset ∈ function.offsets) ∧
        ((({} : CoverageMap).addPackage package).apply events).ratio? module.id function.function.name =
          some ((runOffsets events module.id function.function.name).toFinset.card, function.offsets.length) := by
  have wellLinked := Package.build_wellLinked built produced
  have names := Package.build_names_nodup built produced
  have on : ∀ event ∈ events, event.OnInstruction package := fun event member => by
    obtain ⟨machine, runs, seen⟩ := recorded event member
    exact (runs.recording wellLinked).events_on event seen
  exact ⟨fun event member => (on event member).found wellLinked names,
    fun module member function listed =>
      apply_addPackage_exact wellLinked (Package.build_ids_nodup built) names on member listed⟩

/-- The function `f`: a no-op, then a return. -/
def nopFunction : Function := ⟨"f", 0, 0, 0, ⟨0⟩, 0, [], [0x21, 0x40]⟩

/-- A module published at `a` with `f` as its one function. -/
def nopModule : Module := ⟨"a", "m", [], [], 0, [nopFunction]⟩

/-- The module linked: the instructions of `f` start at 0 and 1. -/
def nopLinked : LinkedModule := ⟨nopModule, ⟨Address.zero, "m"⟩, [], [], [⟨nopFunction, [], [0, 1]⟩]⟩

def nopPackage : Package := ⟨"p", zeroResolution, [nopLinked]⟩

/-- What a test of `f` with a budget of ten records. -/
def nopEvents : List Event := (runTest nopPackage 10 (TestCase.ofFunction nopLinked ⟨nopFunction, [], [0, 1]⟩)).2

theorem nop_link : nopModule.link zeroResolution = .ok nopLinked := by
  have walked : Code.walk [0x21, 0x40] 0 = .ok ([0, 1], []) := by
    rw [Code.walk_cons_of_decodeHead rfl (Code.walk_cons_of_decodeHead rfl (Code.walk_nil 2))]
    rfl
  simp [Module.link, Module.lookupName, Resolution.lookupName, nopModule, zeroResolution,
    Module.linkFunctions, Module.verify, Code.offsets, walked, nopLinked, nopFunction, Function.isTest]
  exact ⟨[0, 1], rfl, rfl⟩

theorem nop_build : Package.build "p" zeroResolution [.inr nopLinked] = .ok nopPackage := by
  simp [Package.build, Package.collect, Package.checkImports, nopLinked]
  rfl

theorem nop_test_coverage_exact :
    Package.build "p" zeroResolution [.inr nopLinked] = .ok nopPackage ∧
    (∀ module, .inr module ∈ ([.inr nopLinked] : List (Module ⊕ LinkedModule)) →
      ∃ (written : Module) (linkedWith : Resolution), written.link linkedWith = .ok module) ∧
    (∀ event ∈ nopEvents, ∃ machine, nopPackage.Runs machine ∧ event ∈ machine.events.toList) ∧
    (∀ event ∈ nopEvents, ∃ module function, nopPackage.module? event.module = some module ∧
      module.findFunction? event.function = some function ∧ event.offset ∈ function.offsets) ∧
    ∀ module ∈ nopPackage.modules, ∀ function ∈ module.functions,
      ∃ record, ((({} : CoverageMap).addPackage nopPackage).apply nopEvents).function? module.id
          function.function.name = some record ∧
        (∀ offset, record.covered.bit offset = true ↔
          offset ∈ runOffsets nopEvents module.id function.function.name) ∧
        (∀ offset, record.instructions.bit offset = true ↔ offset ∈ function.offsets) ∧
        ((({} : CoverageMap).addPackage nopPackage).apply nopEvents).ratio? module.id function.function.name =
          some ((runOffsets nopEvents module.id function.function.name).toFinset.card, function.offsets.length) := by
  have produced : ∀ module, .inr module ∈ ([.inr nopLinked] : List (Module ⊕ LinkedModule)) →
      ∃ (written : Module) (linkedWith : Resolution), written.link linkedWith = .ok module := by
    intro module member
    simp only [List.mem_singleton, Sum.inr.injEq] at member
    subst member
    exact ⟨nopModule, zeroResolution, nop_link⟩
  have recorded := runTest_recorded nopPackage 10 (TestCase.ofFunction nopLinked ⟨nopFunction, [], [0, 1]⟩)
  exact ⟨nop_build, produced, recorded, recorded_coverage_exact nop_build produced nopEvents recorded⟩

end Testbench
