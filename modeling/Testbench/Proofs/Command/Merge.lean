import Mathlib
import Testbench.Command.Actions
import Testbench.Files.Tree
import Testbench.Proofs.Coverage.Join

/-!
`coverage merge` depends only on which files it is given: in any order, or with a file named
again, it leaves the same file tree and ends the same way.
-/

namespace Testbench

@[simp] theorem Flags.Reading.text_arguments (reading : Flags.Reading) (files : List String)
    (specs : List Flags.Spec) (name : String) :
    ({ reading with arguments := files } : Flags.Reading).text specs name = reading.text specs name := rfl

@[simp] theorem Flags.Reading.switch_arguments (reading : Flags.Reading) (files : List String)
    (specs : List Flags.Spec) (name : String) :
    ({ reading with arguments := files } : Flags.Reading).switch specs name = reading.switch specs name := rfl

/-- What loading the coverage file at a path of a tree gives. -/
def FileTree.coverage (tree : FileTree) (path : String) : Except CoverageFile.LoadError CoverageMap :=
  match tree.readFile path with
  | .error failure => .error (if failure.isNotFound then .notFound path else .unreadable failure)
  | .ok bytes => (CoverageFile.decode bytes).mapError (.corrupt path)

theorem FileTree.coverage_reachable {tree : FileTree} {path : String} {map : CoverageMap}
    (loaded : tree.coverage path = .ok map) : map.Reachable := by
  unfold FileTree.coverage at loaded
  split at loaded
  · cases loaded
  · exact .decoded (Except.mapError_eq_ok.mp loaded)

theorem load_run (tree : FileTree) (console : Console) (path : String) :
    ((CoverageFile.load path : CommandM (StateM FileTree) _).run console).run tree =
      ((tree.coverage path, console), tree) := by
  simp [CoverageFile.load, FileTree.coverage, FileSystem.readFile]
  cases read : tree.readFile path <;> rfl

theorem forIn_run {α β : Type} (tree : FileTree) (console : Console) (step : β → α → β)
    (body : α → β → CommandM (StateM FileTree) (ForInStep β)) :
    ∀ (items : List α) (start : β),
      (∀ item ∈ items, ∀ state, ((body item state).run console).run tree = ((.yield (step state item), console), tree)) →
      ((forIn items start body).run console).run tree = pure ((items.foldl step start, console), tree)
  | [], start, _ => rfl
  | item :: items, start, yields => by
    rw [List.forIn_cons]
    simp only [StateT.run_bind]
    rw [yields item List.mem_cons_self start]
    exact forIn_run tree console step body items (step start item)
      (fun later member => yields later (List.mem_cons_of_mem _ member))

/-- The map the coverage file at a path of a tree holds; the empty map if it does not load. -/
def FileTree.coverageOf (tree : FileTree) (path : String) : CoverageMap :=
  match tree.coverage path with
  | .ok map => map
  | .error _ => {}

/-- The maps of the files merged in turn into the empty map. -/
def FileTree.mergedCoverage (tree : FileTree) (files : List String) : CoverageMap :=
  (files.map tree.coverageOf).foldl CoverageMap.merge {}

theorem merge_run {reading : Flags.Reading} {files : List String} {tree : FileTree} {console : Console}
    (outGiven : reading.text Actions.mergeFlags "out" ≠ "") (given : files ≠ [])
    (loads : ∀ file ∈ files, ∃ map, tree.coverage file = .ok map) :
    ((Actions.merge { reading with arguments := files } : CommandM (StateM FileTree) _).run console).run tree =
      match ((CoverageFile.save (reading.text Actions.mergeFlags "out") (tree.mergedCoverage files)
          (reading.switch Actions.mergeFlags "compress") : CommandM (StateM FileTree) _).run console).run tree with
      | ((.error failure, saved), after) =>
        ((Actions.exitOne ("can't save " ++ reading.text Actions.mergeFlags "out" ++ ": " ++ failure.message), saved),
          after)
      | ((.ok (), saved), after) =>
        ((.ok (), { saved with
          out := saved.out ++ ("Merged " ++ toString files.length ++ " files into " ++
            reading.text Actions.mergeFlags "out" ++ "\n") }), after) := by
  have outSet : (reading.text Actions.mergeFlags "out").isEmpty = false := by
    simpa [String.isEmpty_iff] using outGiven
  have filesSet : files.isEmpty = false := by
    simpa [List.isEmpty_iff] using given
  unfold Actions.merge
  simp only [Flags.Reading.text_arguments, Flags.Reading.switch_arguments, outSet, filesSet,
    Bool.false_eq_true, if_false, StateT.run_bind]
  have folded : ∀ (later : List String) (start : CoverageMap),
      later.foldl (fun (state : Option (Except Failure Unit) × CoverageMap) file =>
        (none, state.2.merge (tree.coverageOf file))) (none, start) =
        (none, (later.map tree.coverageOf).foldl CoverageMap.merge start) := by
    intro later
    induction later with
    | nil => intro start; rfl
    | cons file rest ih => intro start; exact ih _
  rw [forIn_run tree console (fun state file => (none, state.2.merge (tree.coverageOf file))) _
    files ((none, ({} : CoverageMap)) : Option (Except Failure Unit) × CoverageMap) ?yields, folded]
  case yields =>
    intro file member state
    obtain ⟨map, found⟩ := loads file member
    simp only [StateT.run_bind, load_run, found, FileTree.coverageOf]
    rfl
  simp only [FileTree.mergedCoverage]
  rcases saving : ((CoverageFile.save (reading.text Actions.mergeFlags "out")
      ((files.map tree.coverageOf).foldl CoverageMap.merge {})
      (reading.switch Actions.mergeFlags "compress") : CommandM (StateM FileTree) _).run console).run tree with
    ⟨⟨result, saved⟩, after⟩
  simp only [pure_bind, StateT.run_bind, saving]
  cases result with
  | error failure => rfl
  | ok done => rfl

theorem FileTree.coverageOf_reachable {tree : FileTree} {files : List String}
    (loads : ∀ file ∈ files, ∃ map, tree.coverage file = .ok map) :
    ∀ map ∈ files.map tree.coverageOf, map.Reachable := by
  intro map member
  obtain ⟨file, listed, rfl⟩ := List.mem_map.mp member
  obtain ⟨loadedMap, found⟩ := loads file listed
  rw [FileTree.coverageOf, found]
  exact FileTree.coverage_reachable found

theorem FileTree.mergedCoverage_eq {tree : FileTree} {files others : List String}
    (same : ∀ file, file ∈ files ↔ file ∈ others) (loads : ∀ file ∈ files, ∃ map, tree.coverage file = .ok map) :
    tree.mergedCoverage files = tree.mergedCoverage others :=
  CoverageMap.foldl_merge_eq_of_mem_iff (fun map => by simp only [List.mem_map, same])
    (FileTree.coverageOf_reachable loads)

theorem merge_run_of_no_out {reading : Flags.Reading} {files : List String} {tree : FileTree}
    {console : Console} (noOut : reading.text Actions.mergeFlags "out" = "") :
    ((Actions.merge { reading with arguments := files } : CommandM (StateM FileTree) _).run console).run tree =
      ((Actions.exitOne "output file is required", console), tree) := by
  have outEmpty : (reading.text Actions.mergeFlags "out").isEmpty = true := by
    rw [noOut]
    rfl
  unfold Actions.merge
  simp only [Flags.Reading.text_arguments, outEmpty, if_true]
  rfl

/-- `coverage merge` depends only on which files it is given. For files that all load, naming
them in another order or naming some of them again ends the same way and leaves the same file
tree, so the same bytes in every file, compressed or not. With a file to write, that tree is what
saving the merge of the files' maps leaves; and that map is their join: it absorbs the map of
every file given, and every map a program can hold that absorbs them all absorbs it. -/
theorem coverage_merge_order_free {tree : FileTree} {console : Console} {reading : Flags.Reading}
    {files others : List String} (given : files ≠ []) (same : ∀ file, file ∈ files ↔ file ∈ others)
    (loads : ∀ file ∈ files, ∃ map, tree.coverage file = .ok map) :
    (((Actions.merge { reading with arguments := files } : CommandM (StateM FileTree) _).run console).run tree).1.1 =
        (((Actions.merge { reading with arguments := others } : CommandM (StateM FileTree) _).run console).run
          tree).1.1 ∧
      (((Actions.merge { reading with arguments := files } : CommandM (StateM FileTree) _).run console).run tree).2 =
        (((Actions.merge { reading with arguments := others } : CommandM (StateM FileTree) _).run console).run
          tree).2 ∧
      tree.mergedCoverage files = tree.mergedCoverage others ∧
      (reading.text Actions.mergeFlags "out" ≠ "" →
        (((Actions.merge { reading with arguments := files } : CommandM (StateM FileTree) _).run console).run tree).2 =
          (((CoverageFile.save (reading.text Actions.mergeFlags "out") (tree.mergedCoverage files)
            (reading.switch Actions.mergeFlags "compress") : CommandM (StateM FileTree) _).run console).run tree).2) ∧
      (∀ file ∈ files, (tree.mergedCoverage files).Absorbs (tree.coverageOf file)) ∧
      ∀ bound : CoverageMap, bound.Reachable → (∀ file ∈ files, bound.Absorbs (tree.coverageOf file)) →
        bound.Absorbs (tree.mergedCoverage files) := by
  have othersGiven : others ≠ [] := by
    obtain ⟨file, listed⟩ := List.exists_mem_of_ne_nil files given
    exact List.ne_nil_of_mem ((same file).mp listed)
  have othersLoad : ∀ file ∈ others, ∃ map, tree.coverage file = .ok map :=
    fun file listed => loads file ((same file).mpr listed)
  have joined := FileTree.mergedCoverage_eq same loads
  have reachable := FileTree.coverageOf_reachable loads
  have absorbsEach : ∀ file ∈ files, (tree.mergedCoverage files).Absorbs (tree.coverageOf file) :=
    fun file listed => CoverageMap.Reachable.empty.foldl_merge_absorbs reachable _ (List.mem_map_of_mem listed)
  have least : ∀ bound : CoverageMap, bound.Reachable → (∀ file ∈ files, bound.Absorbs (tree.coverageOf file)) →
      bound.Absorbs (tree.mergedCoverage files) := by
    intro bound boundReachable absorbs
    refine (CoverageMap.absorbs_empty bound).foldl_merge (fun map member => ?_) boundReachable
      CoverageMap.Reachable.empty reachable
    obtain ⟨file, listed, rfl⟩ := List.mem_map.mp member
    exact absorbs file listed
  by_cases noOut : reading.text Actions.mergeFlags "out" = ""
  · rw [merge_run_of_no_out noOut, merge_run_of_no_out noOut]
    exact ⟨rfl, rfl, joined, fun outGiven => absurd noOut outGiven, absorbsEach, least⟩
  · rw [merge_run noOut given loads, merge_run noOut othersGiven othersLoad, ← joined]
    refine ⟨?_, ?_, rfl, fun _ => ?_, absorbsEach, least⟩
    all_goals
      rcases ((CoverageFile.save (reading.text Actions.mergeFlags "out") (tree.mergedCoverage files)
        (reading.switch Actions.mergeFlags "compress") : CommandM (StateM FileTree) _).run console).run tree with
        ⟨⟨result, saved⟩, after⟩
      cases result <;> rfl

/-- A tree with two coverage files: “a” from a run of a three-byte build of “f” and “b” from a
run of a seventy-byte build. -/
def twoCoverageFiles : FileTree :=
  { entries := [(["a"], .file (CoverageFile.encode (sampleCoverage 3 [0, 1]) false)),
      (["b"], .file (CoverageFile.encode (sampleCoverage 70 [0, 65]) false))] }

theorem twoCoverageFiles_loads : ∀ file ∈ ["a", "b"], ∃ map, twoCoverageFiles.coverage file = .ok map := by
  have small := CoverageFile.decode_encode (sampleCoverage_wellFormed 3 [0, 1] (by decide))
    (sampleCoverage_sorted 3 [0, 1]) (sampleCoverage_fits 3 [0, 1] (by decide))
  have large := CoverageFile.decode_encode (sampleCoverage_wellFormed 70 [0, 65] (by decide))
    (sampleCoverage_sorted 70 [0, 65]) (sampleCoverage_fits 70 [0, 65] (by decide))
  have piecesA : Path.pieces "a" = ["a"] := by decide
  have piecesB : Path.pieces "b" = ["b"] := by decide
  have slashA : "a".endsWith "/" = false := by decide +kernel
  have slashB : "b".endsWith "/" = false := by decide +kernel
  intro file member
  rcases List.mem_pair.mp member with rfl | rfl
  · refine ⟨sampleCoverage 3 [0, 1], ?_⟩
    simp [twoCoverageFiles, FileTree.coverage, FileTree.readFile, FileTree.find, FileTree.locate, FileTree.walk,
      FileTree.get?, piecesA, slashA, bind, Except.bind, pure, Except.pure, small]
  · refine ⟨sampleCoverage 70 [0, 65], ?_⟩
    simp [twoCoverageFiles, FileTree.coverage, FileTree.readFile, FileTree.find, FileTree.locate, FileTree.walk,
      FileTree.get?, piecesB, slashB, bind, Except.bind, pure, Except.pure, large]

/-- Merging “a” and “b” into “merged”, and merging “b”, “a” and “a” again. -/
theorem two_files_merge_order_free :
    ["a", "b"] ≠ [] ∧ (∀ file, file ∈ ["a", "b"] ↔ file ∈ ["b", "a", "a"]) ∧
      (∀ file ∈ ["a", "b"], ∃ map, twoCoverageFiles.coverage file = .ok map) ∧
      let reading : Flags.Reading := { values := [("out", .text "merged")] }
      (((Actions.merge { reading with arguments := ["a", "b"] } : CommandM (StateM FileTree) _).run {}).run
          twoCoverageFiles).1.1 =
        (((Actions.merge { reading with arguments := ["b", "a", "a"] } : CommandM (StateM FileTree) _).run {}).run
          twoCoverageFiles).1.1 ∧
      (((Actions.merge { reading with arguments := ["a", "b"] } : CommandM (StateM FileTree) _).run {}).run
          twoCoverageFiles).2 =
        (((Actions.merge { reading with arguments := ["b", "a", "a"] } : CommandM (StateM FileTree) _).run {}).run
          twoCoverageFiles).2 := by
  have same : ∀ file, file ∈ ["a", "b"] ↔ file ∈ ["b", "a", "a"] := by
    intro file
    simp only [List.mem_cons, List.not_mem_nil, or_false]
    tauto
  obtain ⟨result, tree, -⟩ := @coverage_merge_order_free twoCoverageFiles {} { values := [("out", .text "merged")] }
    ["a", "b"] ["b", "a", "a"] (List.cons_ne_nil _ _) same twoCoverageFiles_loads
  exact ⟨List.cons_ne_nil _ _, same, twoCoverageFiles_loads, result, tree⟩

end Testbench
