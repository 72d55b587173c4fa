import Mathlib
import Testbench.Proofs.Command.Merge
import Testbench.Proofs.Coverage.Refresh
import Testbench.Proofs.Files.Save

/-!
What a run with coverage leaves in its coverage file: the run's map, alone or merged over the map
the file held, with every function of the package at its current shape.
-/

namespace Testbench

theorem FileTree.run_load (tree : FileTree) (path : String) :
    (CoverageFile.load path : StateM FileTree _).run tree = (tree.coverage path, tree) := by
  simp [CoverageFile.load, FileTree.coverage, FileSystem.readFile]
  cases tree.readFile path <;> rfl

/-- The map a run saves: its own, merged into the map the file held when asked to and that map
loads. -/
def RunnerConfig.savedCoverage (config : RunnerConfig) (package : Package) (held : Except CoverageFile.LoadError CoverageMap)
    (coverage : CoverageMap) : CoverageMap :=
  if config.mergeCoverage then
    match held with
    | .ok old => (old.addPackage package).merge coverage
    | .error _ => coverage
  else coverage

theorem saveCoverage_run (config : RunnerConfig) (package : Package) (coverage : CoverageMap) (tree : FileTree) :
    (saveCoverage config package coverage : StateM FileTree _).run tree =
      (CoverageFile.save config.coverageFile
        (config.savedCoverage package (tree.coverage config.coverageFile) coverage)
        config.compressCoverage : StateM FileTree _).run tree := by
  unfold saveCoverage RunnerConfig.savedCoverage
  cases merging : config.mergeCoverage with
  | false => simp only [Bool.false_eq_true, if_false, pure_bind]
  | true =>
    simp only [if_true]
    rw [FileTree.run_bind_tree, FileTree.run_load]
    cases tree.coverage config.coverageFile <;> simp only [pure_bind]

theorem savedCoverage_wellFormed (config : RunnerConfig) {package : Package}
    (verified : ∀ module ∈ package.modules, module.Verified) {held : Except CoverageFile.LoadError CoverageMap}
    (reachable : ∀ old, held = .ok old → old.Reachable) {coverage : CoverageMap} (formed : coverage.WellFormed)
    (sorted : coverage.Sorted) :
    (config.savedCoverage package held coverage).WellFormed ∧ (config.savedCoverage package held coverage).Sorted := by
  unfold RunnerConfig.savedCoverage
  split
  · cases held with
    | ok old =>
      have oldReachable := reachable old rfl
      exact ⟨(oldReachable.wellFormed.addPackage verified).merge formed, (oldReachable.sorted.addPackage package).merge _⟩
    | error failure => exact ⟨formed, sorted⟩
  · exact ⟨formed, sorted⟩

/-- A run with coverage on saves its map to the coverage file, merged first into the map the file
held when asked to and that map loads. In a sound tree, with a file path that does not end in a
slash and a package built from linked modules, the file afterwards holds a map, which reads back
from the file whenever it fits the format, the compressed file when the compressor's output
decompresses to its input. Without merging, or when the file held no
map that loads, that map is the run's: the package's map marked with the events of every test.
Merged over a held map, each function of the package has the size and instructions of its code
and covers exactly the offsets the run ran, together with those the held record covered when that
record had the same size and instructions; the record of any function the package lacks is the
held one; and a module is present exactly when the held map or the package has it. -/
theorem coverage_save_refreshes {name : String} {resolution : Resolution}
    {candidates : List (Module ⊕ LinkedModule)} {package : Package}
    (built : Package.build name resolution candidates = .ok package)
    (produced : ∀ module, .inr module ∈ candidates →
      ∃ (written : Module) (linkedWith : Resolution), written.link linkedWith = .ok module)
    {config : RunnerConfig} (collecting : config.coverage = true) {tests : List TestCase} (given : tests ≠ [])
    {coverage : CoverageMap} (ran : (runAll config package tests).2 = some coverage)
    {tree after : FileTree} (sound : tree.Sound) (named : config.coverageFile.endsWith "/" = false)
    (saved : (saveCoverage config package coverage : StateM FileTree _).run tree = (.ok (), after)) :
    let events := (tests.map fun test => (runTest package config.budget test).2).flatten
    coverage = (({} : CoverageMap).addPackage package).apply events ∧
    ∃ map, after.readFile config.coverageFile = .ok (CoverageFile.encode map config.compressCoverage) ∧
      (map.Fits → CoverageFile.decode (CoverageFile.encode map false) = .ok map) ∧
      (map.Fits → Zstd.decompress (Zstd.compressRaw ⟨(CoverageFile.encodeBody map).toArray⟩) =
          .ok ⟨(CoverageFile.encodeBody map).toArray⟩ →
        CoverageFile.decode (CoverageFile.encode map config.compressCoverage) = .ok map) ∧
      ((config.mergeCoverage = false ∨ ∀ old, tree.coverage config.coverageFile ≠ .ok old) → map = coverage) ∧
      ∀ old, config.mergeCoverage = true → tree.coverage config.coverageFile = .ok old →
        (∀ module ∈ package.modules, ∀ function ∈ module.functions, ∃ record,
          map.function? module.id function.function.name = some record ∧ record.ShapedAs function ∧
          ∀ offset, record.covered.bit offset = true ↔
            offset ∈ runOffsets events module.id function.function.name ∨
              ∃ previous, old.function? module.id function.function.name = some previous ∧
                previous.ShapedAs function ∧ previous.covered.bit offset = true) ∧
        (∀ id name, (∀ module ∈ package.modules, module.id = id → ∀ function ∈ module.functions,
          function.function.name ≠ name) → map.function? id name = old.function? id name) ∧
        ∀ id, (map.functions? id).isSome = ((old.functions? id).isSome || package.modules.any (·.id == id)) := by
  intro events
  have wellLinked := Package.build_wellLinked built produced
  have ids := Package.build_ids_nodup built
  have names := Package.build_names_nodup built produced
  have runMap : coverage = (({} : CoverageMap).addPackage package).apply events :=
    Option.some.inj (ran.symm.trans (runAll_coverage collecting package given))
  have on : ∀ event ∈ events, event.OnInstruction package := by
    intro event member
    obtain ⟨trace, traced, held⟩ := List.mem_flatten.mp member
    obtain ⟨test, -, rfl⟩ := List.mem_map.mp traced
    obtain ⟨machine, runs, seen⟩ := runTest_recorded package config.budget test event held
    exact (runs.recording wellLinked).events_on event seen
  have runFormed : coverage.WellFormed := runMap ▸ (CoverageMap.wellFormed_empty.addPackage wellLinked.verified).apply events
  have runSorted : coverage.Sorted := runMap ▸ (CoverageMap.sorted_empty.addPackage package).apply events
  obtain ⟨formed, sorted⟩ := savedCoverage_wellFormed config wellLinked.verified
    (fun old loaded => FileTree.coverage_reachable loaded) runFormed runSorted
  rw [saveCoverage_run] at saved
  refine ⟨runMap, config.savedCoverage package (tree.coverage config.coverageFile) coverage,
    CoverageFile.readFile_save sound named saved, fun fits => CoverageFile.decode_encode formed sorted fits,
    fun fits inverse => ?_, fun alone => ?_, fun old merging loaded => ?_⟩
  · cases config.compressCoverage
    · exact CoverageFile.decode_encode formed sorted fits
    · exact CoverageFile.decode_encode_compressed formed sorted fits inverse
  · unfold RunnerConfig.savedCoverage
    split
    · rename_i merging
      have missing : ∀ old, tree.coverage config.coverageFile ≠ .ok old := by
        rcases alone with single | missing
        · rw [single] at merging
          cases merging
        · exact missing
      cases loaded : tree.coverage config.coverageFile with
      | ok old => exact absurd loaded (missing old)
      | error failure => rfl
    · rfl
  · have oldFormed := (FileTree.coverage_reachable loaded).wellFormed
    simp only [RunnerConfig.savedCoverage, merging, if_true, loaded]
    rw [runMap]
    exact ⟨fun module member function listed =>
        CoverageMap.function?_refreshed oldFormed wellLinked ids names on member listed,
      fun id name absent => CoverageMap.function?_refreshed_of_absent absent,
      CoverageMap.functions?_isSome_refreshed⟩

/-- Coverage on, the file “cov” merged into when it loads, and the test of `f`. -/
def nopCoverageConfig : RunnerConfig := { coverage := true, coverageFile := "cov", mergeCoverage := true }

/-- The map of the test of `f` run alone. -/
def nopRunCoverage : CoverageMap :=
  (({} : CoverageMap).addPackage nopPackage).apply
    ([TestCase.ofFunction nopLinked ⟨nopFunction, [], [0, 1]⟩].map
      fun test => (runTest nopPackage nopCoverageConfig.budget test).2).flatten

/-- Saving the coverage of the test of `f` into an empty tree, where “cov” holds no map to merge
into, leaves the run's map in “cov”. -/
theorem nop_coverage_saved :
    (Package.build "p" zeroResolution [.inr nopLinked] = .ok nopPackage ∧
      (∀ module, .inr module ∈ ([.inr nopLinked] : List (Module ⊕ LinkedModule)) →
        ∃ (written : Module) (linkedWith : Resolution), written.link linkedWith = .ok module) ∧
      nopCoverageConfig.coverage = true ∧ [TestCase.ofFunction nopLinked ⟨nopFunction, [], [0, 1]⟩] ≠ [] ∧
      (runAll nopCoverageConfig nopPackage [TestCase.ofFunction nopLinked ⟨nopFunction, [], [0, 1]⟩]).2 =
        some nopRunCoverage ∧
      ({} : FileTree).Sound ∧ nopCoverageConfig.coverageFile.endsWith "/" = false ∧
      (saveCoverage nopCoverageConfig nopPackage nopRunCoverage : StateM FileTree _).run {} =
        (.ok (), ((saveCoverage nopCoverageConfig nopPackage nopRunCoverage : StateM FileTree _).run {}).2)) ∧
    (((saveCoverage nopCoverageConfig nopPackage nopRunCoverage : StateM FileTree _).run {}).2).readFile "cov" =
      .ok (CoverageFile.encode nopRunCoverage false) := by
  have produced : ∀ module, .inr module ∈ ([.inr nopLinked] : List (Module ⊕ LinkedModule)) →
      ∃ (written : Module) (linkedWith : Resolution), written.link linkedWith = .ok module := by
    intro module member
    simp only [List.mem_singleton, Sum.inr.injEq] at member
    subst member
    exact ⟨nopModule, zeroResolution, nop_link⟩
  have ran : (runAll nopCoverageConfig nopPackage [TestCase.ofFunction nopLinked ⟨nopFunction, [], [0, 1]⟩]).2 =
      some nopRunCoverage :=
    runAll_coverage rfl nopPackage (List.cons_ne_nil _ _)
  have sound : ({} : FileTree).Sound := fun entry member => by cases member
  have named : nopCoverageConfig.coverageFile.endsWith "/" = false := by decide +kernel
  have succeeded : ((saveCoverage nopCoverageConfig nopPackage nopRunCoverage : StateM FileTree _).run {}).1 =
      .ok () := by
    decide +kernel
  have saved : (saveCoverage nopCoverageConfig nopPackage nopRunCoverage : StateM FileTree _).run {} =
      (.ok (), ((saveCoverage nopCoverageConfig nopPackage nopRunCoverage : StateM FileTree _).run {}).2) := by
    rw [← succeeded]
    rfl
  have unread : ({} : FileTree).readFile "cov" = .error ⟨"open", "cov", .noEntry⟩ := by decide +kernel
  have missing : ∀ old, ({} : FileTree).coverage nopCoverageConfig.coverageFile ≠ .ok old := by
    intro old loaded
    simp [nopCoverageConfig, FileTree.coverage, unread] at loaded
  obtain ⟨-, map, holds, -, -, alone, -⟩ :=
    coverage_save_refreshes nop_build produced rfl (List.cons_ne_nil _ _) ran sound named saved
  rw [alone (Or.inr missing)] at holds
  exact ⟨⟨nop_build, produced, rfl, List.cons_ne_nil _ _, ran, sound, named, saved⟩, holds⟩

end Testbench
