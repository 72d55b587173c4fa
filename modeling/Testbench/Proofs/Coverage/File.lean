import Mathlib
import Testbench.Codec.Canonical
import Testbench.Coverage.File
import Testbench.Proofs.Coverage.Map

/-!
Coverage maps read from files keep the invariant, and so does every map a program can reach from
the empty map or a file by adding linked modules, marking runs and merging.
-/

namespace Testbench

namespace Codec.Decoder

theorem bind_ok {ε α β : Type} {first : Decoder ε α} {next : α → Decoder ε β}
    {input : List UInt8} {result : β × List UInt8} (done : (first >>= next) input = .ok result) :
    ∃ value rest, first input = .ok (value, rest) ∧ next value rest = .ok result := by
  rw [run_bind] at done
  cases read : first input with
  | error failure => rw [read] at done; cases done
  | ok pair => rw [read] at done; exact ⟨pair.1, pair.2, rfl, done⟩

theorem lift_ok {ε α : Type} [FromCodec ε] {decoder : Decoder Error α} {input : List UInt8}
    {result : α × List UInt8} (done : (liftM decoder : Decoder ε α) input = .ok result) :
    decoder input = .ok result :=
  Except.mapError_eq_ok.mp done

theorem times_length {ε α : Type} (decoder : Decoder ε α) :
    ∀ {count : Nat} {input : List UInt8} {values : List α} {rest : List UInt8},
      times decoder count input = .ok (values, rest) → values.length = count
  | 0, _, _, _, done => by
    cases done
    rfl
  | count + 1, _, _, _, done => by
    obtain ⟨first, afterFirst, -, done⟩ := bind_ok done
    obtain ⟨later, afterLater, laterOk, done⟩ := bind_ok done
    cases done
    simp [times_length decoder laterOk]

end Codec.Decoder

namespace CoverageFile

open Codec

theorem decodeWords_length {size : Nat} {input rest : List UInt8} {field : BitField}
    (decoded : decodeWords size input = .ok (field, rest)) :
    field.words.length = BitField.wordCount size := by
  unfold decodeWords at decoded
  obtain ⟨count, afterCount, -, decoded⟩ := Decoder.bind_ok decoded
  split at decoded
  · cases decoded
  rename_i counted
  obtain ⟨words, afterWords, wordsOk, decoded⟩ := Decoder.bind_ok decoded
  cases decoded
  simp only [List.length_map, Decoder.times_length _ (Decoder.lift_ok wordsOk)]
  exact Decidable.of_not_not counted

theorem decodeFunction_wellFormed {id : ModuleId} {previous : Option Name} {input rest : List UInt8}
    {name : Name} {function : FunctionCoverage}
    (decoded : decodeFunction id previous input = .ok ((name, function), rest)) :
    function.WellFormed := by
  unfold decodeFunction at decoded
  obtain ⟨nameBytes, afterName, -, decoded⟩ := Decoder.bind_ok decoded
  obtain ⟨size, afterSize, -, decoded⟩ := Decoder.bind_ok decoded
  split at decoded
  · cases decoded
  split at decoded
  · cases decoded
  obtain ⟨instructions, afterInstructions, instructionsOk, decoded⟩ := Decoder.bind_ok decoded
  obtain ⟨covered, afterCovered, coveredOk, decoded⟩ := Decoder.bind_ok decoded
  split at decoded
  · cases decoded
  rename_i subset
  split at decoded
  · cases decoded
  rename_i below
  cases decoded
  refine ⟨decodeWords_length instructionsOk, decodeWords_length coveredOk, ?_, ?_⟩
  · intro index held
    exact BitField.bit_of_isSubset (by simpa using subset) held
  · intro index held
    have listed := BitField.mem_toList_of_bit held
    simp only [List.any_eq_true, decide_eq_true_eq, not_exists, not_and] at below
    exact Nat.lt_of_not_le (below index listed)

theorem decodeFunctions_wellFormed (id : ModuleId) :
    ∀ {count : Nat} {previous : Option Name} {input rest : List UInt8} {table : FunctionTable},
      decodeFunctions id count previous input = .ok (table, rest) → TableWellFormed table
  | 0, _, _, _, _, decoded => by
    cases decoded
    exact fun _ member => by cases member
  | count + 1, _, _, _, _, decoded => by
    rw [decodeFunctions] at decoded
    obtain ⟨⟨name, function⟩, afterFunction, functionOk, decoded⟩ := Decoder.bind_ok decoded
    obtain ⟨later, afterLater, laterOk, decoded⟩ := Decoder.bind_ok decoded
    cases decoded
    intro entry member
    rcases List.mem_cons.mp member with rfl | listed
    · exact decodeFunction_wellFormed functionOk
    · exact decodeFunctions_wellFormed id laterOk entry listed

theorem decodeModule_wellFormed {previous : Option ModuleId} {input rest : List UInt8}
    {id : ModuleId} {table : FunctionTable}
    (decoded : decodeModule previous input = .ok ((id, table), rest)) : TableWellFormed table := by
  unfold decodeModule at decoded
  obtain ⟨bytes, afterAddress, -, decoded⟩ := Decoder.bind_ok decoded
  obtain ⟨nameBytes, afterName, -, decoded⟩ := Decoder.bind_ok decoded
  dsimp only at decoded
  split at decoded
  all_goals
    split at decoded
    · cases decoded
    obtain ⟨count, afterCount, -, decoded⟩ := Decoder.bind_ok decoded
    obtain ⟨functions, afterFunctions, functionsOk, decoded⟩ := Decoder.bind_ok decoded
    cases decoded
    exact decodeFunctions_wellFormed _ functionsOk

theorem decodeModules_wellFormed :
    ∀ {count : Nat} {previous : Option ModuleId} {input rest : List UInt8}
      {modules : List (ModuleId × FunctionTable)},
      decodeModules count previous input = .ok (modules, rest) →
        ∀ entry ∈ modules, TableWellFormed entry.2
  | 0, _, _, _, _, decoded => by
    cases decoded
    exact fun _ member => by cases member
  | count + 1, _, _, _, _, decoded => by
    rw [decodeModules] at decoded
    obtain ⟨⟨id, table⟩, afterModule, moduleOk, decoded⟩ := Decoder.bind_ok decoded
    obtain ⟨later, afterLater, laterOk, decoded⟩ := Decoder.bind_ok decoded
    cases decoded
    intro entry member
    rcases List.mem_cons.mp member with rfl | listed
    · exact decodeModule_wellFormed moduleOk
    · exact decodeModules_wellFormed laterOk entry listed

theorem decodeMap_wellFormed {input rest : List UInt8} {map : CoverageMap}
    (decoded : decodeMap input = .ok (map, rest)) : map.WellFormed := by
  unfold decodeMap at decoded
  obtain ⟨count, afterCount, -, decoded⟩ := Decoder.bind_ok decoded
  obtain ⟨modules, afterModules, modulesOk, decoded⟩ := Decoder.bind_ok decoded
  cases decoded
  exact decodeModules_wellFormed modulesOk

theorem decodeBody_wellFormed {input rest : List UInt8} {map : CoverageMap}
    (decoded : decodeBody input = .ok (map, rest)) : map.WellFormed := by
  unfold decodeBody at decoded
  obtain ⟨read, afterMap, mapOk, decoded⟩ := Decoder.bind_ok decoded
  obtain ⟨finished, afterEnd, -, decoded⟩ := Decoder.bind_ok decoded
  split at decoded
  · cases decoded
    exact decodeMap_wellFormed mapOk
  · cases decoded

theorem decode_body {file : List UInt8} {map : CoverageMap} (decoded : decode file = .ok map) :
    ∃ body rest, decodeBody body = .ok (map, rest) := by
  unfold decode at decoded
  dsimp only at decoded
  split at decoded
  · cases decoded
  split at decoded
  · cases decoded
  split at decoded
  · cases decoded
  have fromBody : ∀ {read : Except CoverageFileError (List UInt8)},
      (do let body ← read; let decoded ← decodeBody body; pure decoded.1) = Except.ok map →
        ∃ body rest, decodeBody body = .ok (map, rest) := by
    intro read done
    simp only [Except.bind_eq_ok, pure, Except.pure, Except.ok.injEq] at done
    obtain ⟨body, -, ⟨read, rest⟩, bodyOk, rfl⟩ := done
    exact ⟨body, rest, bodyOk⟩
  split at decoded
  · split at decoded
    · exact fromBody decoded
    · exact fromBody decoded
  · exact fromBody decoded

theorem decode_wellFormed {file : List UInt8} {map : CoverageMap} (decoded : decode file = .ok map) :
    map.WellFormed := by
  obtain ⟨body, rest, bodyOk⟩ := decode_body decoded
  exact decodeBody_wellFormed bodyOk

end CoverageFile

/-! ### Reachable maps -/

/-- The maps a program can come to hold: the empty map and the maps read from files or bodies,
and whatever adding linked modules or packages of them, marking runs and merging make of them. -/
inductive CoverageMap.Reachable : CoverageMap → Prop
  | empty : Reachable {}
  | decoded {file : List UInt8} {map : CoverageMap} : CoverageFile.decode file = .ok map → Reachable map
  | decodedMap {input rest : List UInt8} {map : CoverageMap} :
      CoverageFile.decodeMap input = .ok (map, rest) → Reachable map
  | addModule {map : CoverageMap} {module : LinkedModule} (written : Module) (resolution : Resolution) :
      Reachable map → written.link resolution = .ok module → Reachable (map.addModule module)
  | addPackage {map : CoverageMap} {package : Package} : Reachable map →
      (∀ module ∈ package.modules, ∃ (written : Module) (resolution : Resolution),
        written.link resolution = .ok module) → Reachable (map.addPackage package)
  | apply {map : CoverageMap} (events : List Event) : Reachable map → Reachable (map.apply events)
  | merge {map other : CoverageMap} : Reachable map → Reachable other → Reachable (map.merge other)

theorem CoverageMap.Reachable.wellFormed {map : CoverageMap} (reachable : map.Reachable) :
    map.WellFormed := by
  induction reachable with
  | empty => exact wellFormed_empty
  | decoded decodedOk => exact CoverageFile.decode_wellFormed decodedOk
  | decodedMap decodedOk => exact CoverageFile.decodeMap_wellFormed decodedOk
  | addModule written resolution _ linked formed =>
    exact formed.addModule (offsets_within_of_verified (Module.link_verified linked))
  | addPackage _ linked formed =>
    refine formed.addPackage fun module member => ?_
    obtain ⟨written, resolution, linkedOk⟩ := linked module member
    exact Module.link_verified linkedOk
  | apply events _ formed => exact formed.apply events
  | merge _ _ formed otherFormed => exact formed.merge otherFormed

/-- Every map a program can come to hold keeps the invariant, and none of its ratios or summaries
counts more instructions run than instructions, for a function, a module or the whole map. -/
theorem coverage_invariant_reachable {map : CoverageMap} (reachable : map.Reachable) :
    map.WellFormed ∧
      (∀ id name ratio, map.ratio? id name = some ratio → ratio.1 ≤ ratio.2) ∧
      (∀ id ratio, map.moduleRatio? id = some ratio → ratio.1 ≤ ratio.2) ∧
      (∀ module ∈ map.summary.modules,
        (∀ function ∈ module.functions, function.ratio.covered ≤ function.ratio.total) ∧
          module.ratio.covered ≤ module.ratio.total) ∧
      map.summary.ratio.covered ≤ map.summary.ratio.total := by
  have formed := reachable.wellFormed
  obtain ⟨summaryModules, summaryTotal⟩ := formed.summary_covered_le
  exact ⟨formed, fun _ _ _ found => formed.ratio?_le found, fun _ _ found => formed.moduleRatio?_le found,
    summaryModules, summaryTotal⟩

/-- A run of `f` of the module with a call and a jump: `f` calls, `g` returns, `f` jumps and
returns. -/
def callerEvents : List Event :=
  [⟨⟨Address.zero, "m"⟩, "f", 0, .call⟩, ⟨⟨Address.zero, "m"⟩, "g", 0, .ret⟩,
    ⟨⟨Address.zero, "m"⟩, "f", 3, .jump⟩, ⟨⟨Address.zero, "m"⟩, "f", 6, .ret⟩]

/-- The package of that module added to the empty map, marked with the run. -/
def callerCoverage : CoverageMap := (({} : CoverageMap).addPackage callerPackage).apply callerEvents

theorem caller_coverage_invariant :
    callerCoverage.Reachable ∧ callerCoverage.WellFormed ∧
      (∀ id name ratio, callerCoverage.ratio? id name = some ratio → ratio.1 ≤ ratio.2) ∧
      (∀ id ratio, callerCoverage.moduleRatio? id = some ratio → ratio.1 ≤ ratio.2) ∧
      (∀ module ∈ callerCoverage.summary.modules,
        (∀ function ∈ module.functions, function.ratio.covered ≤ function.ratio.total) ∧
          module.ratio.covered ≤ module.ratio.total) ∧
      callerCoverage.summary.ratio.covered ≤ callerCoverage.summary.ratio.total := by
  have linked : ∀ module ∈ callerPackage.modules, ∃ (written : Module) (resolution : Resolution),
      written.link resolution = .ok module := by
    intro module member
    rw [show callerPackage.modules = [callerLinked] from rfl, List.mem_singleton] at member
    exact ⟨callerModule, zeroResolution, member ▸ caller_link⟩
  have reachable : callerCoverage.Reachable := .apply callerEvents (.addPackage .empty linked)
  exact ⟨reachable, coverage_invariant_reachable reachable⟩

end Testbench
