import Mathlib
import Testbench.Testing.Runner
import Testbench.Proofs.Coverage.Merge

/-!
Running tests on a pool of workers gives what running them in order gives, for every order in
which the workers claim the tests: the results by index, and the coverage of all runs merged.
-/

namespace Testbench

namespace FunctionCoverage

theorem markAll_congr (function : FunctionCoverage) {first second : List Nat}
    (same : ∀ offset, offset ∈ first ↔ offset ∈ second) : function.markAll first = function.markAll second := by
  obtain ⟨firstSize, firstInstructions, firstLength⟩ := markAll_shape function first
  obtain ⟨secondSize, secondInstructions, secondLength⟩ := markAll_shape function second
  refine ext_bit (firstSize.trans secondSize.symm) (by rw [firstInstructions, secondInstructions])
    (firstLength.trans secondLength.symm) (fun index => by rw [firstInstructions, secondInstructions])
    (fun index => ?_)
  rw [covered_bit_markAll, covered_bit_markAll, decide_eq_decide.mpr (same index)]

theorem markAll_merge_markAll (function : FunctionCoverage) (first second : List Nat) :
    (function.markAll first).merge (function.markAll second) = function.markAll (first ++ second) := by
  obtain ⟨firstSize, firstInstructions, firstLength⟩ := markAll_shape function first
  obtain ⟨secondSize, secondInstructions, secondLength⟩ := markAll_shape function second
  obtain ⟨bothSize, bothInstructions, bothLength⟩ := markAll_shape function (first ++ second)
  have merged : (function.markAll first).merge (function.markAll second) =
      ⟨function.size, function.instructions.union function.instructions,
        (function.markAll first).covered.union (function.markAll second).covered⟩ := by
    unfold merge grow
    rw [if_pos (by rw [firstSize, secondSize])]
    dsimp only
    rw [firstSize, firstInstructions, secondInstructions]
  rw [merged]
  refine ext_bit bothSize.symm (by rw [BitField.length_union, bothInstructions])
    (by rw [BitField.length_union, firstLength, bothLength]) (fun index => by
      rw [BitField.union_self, bothInstructions]) (fun index => ?_)
  rw [BitField.bit_union_of_length_le (by rw [firstLength, secondLength]), covered_bit_markAll,
    covered_bit_markAll, covered_bit_markAll]
  by_cases inFirst : index ∈ first <;> by_cases inSecond : index ∈ second <;>
    cases function.covered.bit index <;> simp [inFirst, inSecond]

end FunctionCoverage

theorem mem_runOffsets {events : List Event} {id : ModuleId} {name : Name} {offset : Nat} :
    offset ∈ runOffsets events id name ↔ ∃ event ∈ events, event.isOf id name = true ∧ event.offset = offset := by
  simp [runOffsets, and_assoc]

theorem runOffsets_append (first second : List Event) (id : ModuleId) (name : Name) :
    runOffsets (first ++ second) id name = runOffsets first id name ++ runOffsets second id name := by
  simp [runOffsets]

namespace CoverageMap

variable {map : CoverageMap}

theorem apply_append (map : CoverageMap) (first second : List Event) :
    map.apply (first ++ second) = (map.apply first).apply second := by
  rw [apply_eq, apply_eq, apply_eq, List.foldl_append]

theorem Sorted.apply_congr (sorted : map.Sorted) {first second : List Event}
    (same : ∀ event, event ∈ first ↔ event ∈ second) : map.apply first = map.apply second := by
  refine (sorted.apply first).ext (sorted.apply second)
    (fun id => by rw [functions?_isSome_apply, functions?_isSome_apply]) (fun id name => ?_)
  rw [function?_apply, function?_apply]
  cases map.function? id name with
  | none => rfl
  | some function =>
    rw [Option.map_some, Option.map_some]
    congr 1
    apply function.markAll_congr
    intro offset
    rw [mem_runOffsets, mem_runOffsets]
    simp only [same]

theorem Sorted.apply_merge_apply (sorted : map.Sorted) (first second : List Event) :
    (map.apply first).merge (map.apply second) = map.apply (first ++ second) := by
  refine ((sorted.apply first).merge _).ext (sorted.apply _) (fun id => ?_) (fun id name => ?_)
  · rw [functions?_isSome_merge, functions?_isSome_apply, functions?_isSome_apply, functions?_isSome_apply,
      Bool.or_self]
  · rw [function?_merge _ (sorted.apply second), function?_apply, function?_apply, function?_apply,
      runOffsets_append]
    cases map.function? id name with
    | none => rfl
    | some function => exact congrArg some (function.markAll_merge_markAll _ _)

theorem Sorted.empty_merge (sorted : map.Sorted) : ({} : CoverageMap).merge map = map := by
  refine (sorted_empty.merge map).ext sorted (fun id => ?_) (fun id name => ?_)
  · rw [functions?_isSome_merge]
    rfl
  · rw [function?_merge _ sorted]
    rfl

end CoverageMap

/-! ### Workers and schedules -/

/-- The events of the test at an index; none beyond the tests. -/
def traceAt (runs : List (TestResult × List Event)) (index : Nat) : List Event :=
  (runs[index]?.map (·.2)).getD []

theorem mem_flatMap_traceAt {runs : List (TestResult × List Event)} {indices : List Nat}
    (covers : ∀ index, index ∈ indices ↔ index < runs.length) (event : Event) :
    event ∈ indices.flatMap (traceAt runs) ↔ ∃ run ∈ runs, event ∈ run.2 := by
  rw [List.mem_flatMap]
  constructor
  · rintro ⟨index, listed, held⟩
    have inside := (covers index).mp listed
    rw [traceAt, List.getElem?_eq_getElem inside, Option.map_some, Option.getD_some] at held
    exact ⟨runs[index], List.getElem_mem inside, held⟩
  · rintro ⟨run, member, held⟩
    obtain ⟨index, inside, rfl⟩ := List.getElem_of_mem member
    refine ⟨index, (covers index).mpr inside, ?_⟩
    rw [traceAt, List.getElem?_eq_getElem inside, Option.map_some, Option.getD_some]
    exact held

theorem workerCoverage_eq (package : Package) (runs : List (TestResult × List Event)) (tests : List Nat) :
    workerCoverage package runs tests =
      (({} : CoverageMap).addPackage package).apply (tests.flatMap (traceAt runs)) := by
  unfold workerCoverage
  suffices marks : ∀ (map : CoverageMap) (tests : List Nat),
      tests.foldl (fun map index => map.apply (traceAt runs index)) map = map.apply (tests.flatMap (traceAt runs)) from
    marks _ tests
  intro map tests
  induction tests generalizing map with
  | nil => rfl
  | cons index rest ih => rw [List.foldl_cons, ih, List.flatMap_cons, CoverageMap.apply_append]

theorem scheduleCoverage_eq (package : Package) (runs : List (TestResult × List Event)) :
    ∀ (schedule : Schedule), schedule ≠ [] →
      scheduleCoverage package runs schedule =
        (({} : CoverageMap).addPackage package).apply (schedule.flatten.flatMap (traceAt runs))
  | [], nonempty => absurd rfl nonempty
  | first :: rest, _ => by
    have sorted := CoverageMap.sorted_empty.addPackage package
    have merges : ∀ (schedule : Schedule) (events : List Event),
        schedule.foldl (fun total tests => total.merge (workerCoverage package runs tests))
            ((({} : CoverageMap).addPackage package).apply events) =
          (({} : CoverageMap).addPackage package).apply (events ++ schedule.flatten.flatMap (traceAt runs)) := by
      intro schedule
      induction schedule with
      | nil => intro events; rw [List.flatten_nil, List.flatMap_nil, List.append_nil]; rfl
      | cons tests later ih =>
        intro events
        rw [List.foldl_cons, workerCoverage_eq, sorted.apply_merge_apply, ih, List.flatten_cons,
          List.flatMap_append, List.append_assoc]
    unfold scheduleCoverage
    rw [List.foldl_cons, workerCoverage_eq, (sorted.apply _).empty_merge, merges, List.flatten_cons,
      List.flatMap_append]

/-- Whatever the schedule, as long as it has a worker and deals every test, its merged coverage is
the package's map marked with the events of all tests, in any order. -/
theorem scheduleCoverage_of_covers (package : Package) (runs : List (TestResult × List Event))
    {schedule : Schedule} (nonempty : schedule ≠ [])
    (covers : ∀ index, index ∈ schedule.flatten ↔ index < runs.length) {traces : List (List Event)}
    (reordered : traces.Perm (runs.map (·.2))) :
    scheduleCoverage package runs schedule = (({} : CoverageMap).addPackage package).apply traces.flatten := by
  rw [scheduleCoverage_eq package runs schedule nonempty]
  refine (CoverageMap.sorted_empty.addPackage package).apply_congr fun event => ?_
  rw [mem_flatMap_traceAt covers, List.mem_flatten]
  simp only [reordered.mem_iff, List.mem_map]
  constructor
  · rintro ⟨run, member, held⟩
    exact ⟨run.2, ⟨run, member, rfl⟩, held⟩
  · rintro ⟨trace, ⟨run, member, rfl⟩, held⟩
    exact ⟨run, member, held⟩

theorem workerCount_pos (config : RunnerConfig) {tests : Nat} (some : 0 < tests) : 0 < workerCount config tests := by
  unfold workerCount
  split <;> omega

theorem workerCount_staffed (config : RunnerConfig) (tests : List TestCase) :
    0 < workerCount config tests.length ∨ tests = [] := by
  by_cases empty : tests = []
  · exact .inr empty
  · exact .inl (workerCount_pos config (List.length_pos_iff.mpr empty))

/-! ### The pool -/

theorem Recorder.foldl_record (events : List Event) (recorder : Recorder) :
    events.foldl Recorder.record recorder = ⟨recorder.events ++ events.toArray⟩ := by
  induction events generalizing recorder with
  | nil => simp
  | cons event rest ih =>
    rw [List.foldl_cons, ih]
    simp [Recorder.record]

@[simp] theorem Recorder.reset_eq (recorder : Recorder) : recorder.reset = {} := by
  simp [Recorder.reset]

@[simp] theorem Worker.done_mark (worker : Worker) (events : List Event) :
    (worker.mark events).done = worker.done := rfl

theorem Worker.coverage_mark {worker : Worker} {map : CoverageMap} (holds : worker.coverage = some (map, {}))
    (events : List Event) : (worker.mark events).coverage = some (map.apply events, {}) := by
  simp [Worker.mark, holds, Recorder.foldl_record]

theorem Worker.coverage_mark_none {worker : Worker} (holds : worker.coverage = none) (events : List Event) :
    (worker.mark events).coverage = none := by
  simp [Worker.mark, holds]

namespace Pool

variable {package : Package} {budget : Nat} {tests : List TestCase} {pool : Pool} {worker : Nat}

theorem claim_idle (idle : ∀ current, pool.workers[worker]? = some current → current.done = true) :
    pool.claim package budget tests worker = pool := by
  unfold claim
  cases found : pool.workers[worker]? with
  | none => rfl
  | some current =>
    dsimp only
    rw [if_pos (idle current found)]

theorem claim_stops {current : Worker} (found : pool.workers[worker]? = some current)
    (going : current.done = false) (past : tests[pool.next]? = none) :
    pool.claim package budget tests worker =
      { pool with next := pool.next + 1, workers := pool.workers.set worker { current with done := true } } := by
  unfold claim
  rw [found]
  dsimp only
  rw [if_neg (by rw [going]; decide), past]

theorem claim_runs {current : Worker} {test : TestCase} (found : pool.workers[worker]? = some current)
    (going : current.done = false) (within : tests[pool.next]? = some test) :
    pool.claim package budget tests worker =
      { next := pool.next + 1, results := pool.results.set pool.next (some (runTest package budget test).1),
        workers := pool.workers.set worker (current.mark (runTest package budget test).2) } := by
  unfold claim
  rw [found]
  dsimp only
  rw [if_neg (by rw [going]; decide), within]

@[simp] theorem length_claim_workers (pool : Pool) (worker : Nat) :
    (pool.claim package budget tests worker).workers.length = pool.workers.length := by
  unfold claim
  split
  · rfl
  · split
    · rfl
    · split <;> simp

@[simp] theorem length_run_workers (pool : Pool) (claims : List Nat) :
    (pool.run package budget tests claims).workers.length = pool.workers.length := by
  induction claims generalizing pool with
  | nil => rfl
  | cons worker rest ih => exact (ih _).trans (length_claim_workers pool worker)

theorem run_append (pool : Pool) (first second : List Nat) :
    pool.run package budget tests (first ++ second) =
      (pool.run package budget tests first).run package budget tests second := by
  simp [run, List.foldl_append]

/-- What a pool holds after some claims: the result of each test claimed so far in its place and
none in the others; a worker that stopped claimed past the tests; and for a dealing of exactly
the claimed tests to the workers, each worker's map is the package's map marked with the runs of
its tests, its recorder empty. -/
structure Dealt (config : RunnerConfig) (package : Package) (runs : List (TestResult × List Event))
    (pool : Pool) (schedule : Schedule) : Prop where
  results : pool.results = (List.range runs.length).map fun index =>
    if index < pool.next then runs[index]?.map (·.1) else none
  stopped : ∀ worker ∈ pool.workers, worker.done = true → runs.length < pool.next
  maps : pool.workers.map (·.coverage) = schedule.map fun dealt =>
    if config.coverage then some (workerCoverage package runs dealt, {}) else none
  claimed : schedule.flatten.Perm (List.range (min pool.next runs.length))

theorem dealt_start (config : RunnerConfig) (package : Package) (budget : Nat) (tests : List TestCase)
    (count : Nat) :
    Dealt config package (tests.map (runTest package budget)) (start config package tests count)
      (List.replicate count []) := by
  refine ⟨?_, ?_, ?_, ?_⟩
  · simp [start, List.map_const']
  · simp [start]
  · simp [start, workerCoverage]
  · simp [start]

theorem flatten_modify_append (schedule : Schedule) {worker : Nat} (inside : worker < schedule.length)
    (index : Nat) : (schedule.modify worker (· ++ [index])).flatten.Perm (schedule.flatten ++ [index]) := by
  induction schedule generalizing worker with
  | nil => simp at inside
  | cons first rest ih =>
    cases worker with
    | zero =>
      rw [List.modify_zero_cons, List.flatten_cons, List.flatten_cons, List.append_assoc, List.append_assoc]
      exact List.Perm.append_left first List.perm_append_comm
    | succ worker =>
      rw [List.modify_succ_cons, List.flatten_cons, List.flatten_cons, List.append_assoc]
      exact List.Perm.append_left first (ih (by simpa using inside))

theorem workerCoverage_append (package : Package) (runs : List (TestResult × List Event)) (dealt : List Nat)
    (index : Nat) :
    workerCoverage package runs (dealt ++ [index]) =
      (workerCoverage package runs dealt).apply (traceAt runs index) := by
  simp [workerCoverage, List.foldl_append, traceAt]

theorem results_claim_next {runs : List (TestResult × List Event)} {next : Nat} {run : TestResult × List Event}
    (ran : runs[next]? = some run) :
    ((List.range runs.length).map fun index => if index < next then runs[index]?.map (·.1) else none).set next
        (some run.1) =
      (List.range runs.length).map fun index => if index < next + 1 then runs[index]?.map (·.1) else none := by
  apply List.ext_getElem (by simp)
  intro index inside _
  simp only [List.length_set, List.length_map, List.length_range] at inside
  rw [List.getElem_set, List.getElem_map, List.getElem_map, List.getElem_range]
  by_cases same : next = index
  · subst same
    rw [if_pos rfl, if_pos (Nat.lt_succ_self _), ran]
    simp
  · rw [if_neg same]
    by_cases earlier : index < next
    · rw [if_pos earlier, if_pos (by omega)]
    · rw [if_neg earlier, if_neg (by omega)]

theorem results_claim_past {runs : List (TestResult × List Event)} {next : Nat} (past : runs.length ≤ next) :
    ((List.range runs.length).map fun index => if index < next + 1 then runs[index]?.map (·.1) else none) =
      (List.range runs.length).map fun index => if index < next then runs[index]?.map (·.1) else none := by
  refine List.map_congr_left fun index member => ?_
  have below := List.mem_range.mp member
  rw [if_pos (by omega), if_pos (by omega)]

theorem Dealt.coverage_of_found {config : RunnerConfig} {runs : List (TestResult × List Event)}
    {schedule : Schedule} (dealt : Dealt config package runs pool schedule) {current : Worker}
    (found : pool.workers[worker]? = some current) :
    ∃ share, schedule[worker]? = some share ∧
      current.coverage = if config.coverage then some (workerCoverage package runs share, {}) else none := by
  have atWorker := congrArg (·[worker]?) dealt.maps
  simp only [List.getElem?_map, found, Option.map_some] at atWorker
  cases scheduled : schedule[worker]? with
  | none =>
    rw [scheduled] at atWorker
    cases atWorker
  | some share =>
    rw [scheduled, Option.map_some, Option.some.injEq] at atWorker
    exact ⟨share, rfl, atWorker⟩

theorem Dealt.stop {config : RunnerConfig} {schedule : Schedule} {current : Worker}
    (dealt : Dealt config package (tests.map (runTest package budget)) pool schedule)
    (found : pool.workers[worker]? = some current) (past : tests[pool.next]? = none) :
    Dealt config package (tests.map (runTest package budget))
      { pool with next := pool.next + 1, workers := pool.workers.set worker { current with done := true } }
      schedule := by
  have beyond : (tests.map (runTest package budget)).length ≤ pool.next := by
    simpa using List.getElem?_eq_none_iff.mp past
  refine ⟨?_, ?_, ?_, ?_⟩ <;> dsimp only
  · rw [dealt.results, results_claim_past beyond]
  · intro other member stopped
    rcases List.mem_or_eq_of_mem_set member with old | rfl
    · have := dealt.stopped other old stopped
      omega
    · omega
  · rw [List.map_set, ← dealt.maps]
    have inMap : worker < (pool.workers.map (·.coverage)).length := by
      simpa using (List.getElem?_eq_some_iff.mp found).1
    have atWorker : (pool.workers.map (·.coverage))[worker] = current.coverage := by
      simp [(List.getElem?_eq_some_iff.mp found).2]
    rw [← atWorker, List.set_getElem_self]
  · have claimed := dealt.claimed
    rw [Nat.min_eq_right beyond] at claimed
    rw [Nat.min_eq_right (by omega)]
    exact claimed

theorem Dealt.deal {config : RunnerConfig} {schedule : Schedule} {current : Worker} {test : TestCase}
    (dealt : Dealt config package (tests.map (runTest package budget)) pool schedule)
    (found : pool.workers[worker]? = some current) (going : current.done = false)
    (within : tests[pool.next]? = some test) :
    Dealt config package (tests.map (runTest package budget))
      { next := pool.next + 1, results := pool.results.set pool.next (some (runTest package budget test).1),
        workers := pool.workers.set worker (current.mark (runTest package budget test).2) }
      (schedule.modify worker (· ++ [pool.next])) := by
  have before : pool.next < tests.length := (List.getElem?_eq_some_iff.mp within).1
  have ran : (tests.map (runTest package budget))[pool.next]? = some (runTest package budget test) := by
    rw [List.getElem?_map, within, Option.map_some]
  obtain ⟨share, scheduled, currentMap⟩ := dealt.coverage_of_found found
  refine ⟨?_, ?_, ?_, ?_⟩ <;> dsimp only
  · rw [dealt.results, results_claim_next ran]
  · intro other member stopped
    rcases List.mem_or_eq_of_mem_set member with old | rfl
    · have := dealt.stopped other old stopped
      omega
    · rw [Worker.done_mark, going] at stopped
      cases stopped
  · rw [List.map_set]
    apply List.ext_getElem?
    intro index
    by_cases same : worker = index
    · subst same
      rw [List.getElem?_set_self (by simpa using (List.getElem?_eq_some_iff.mp found).1), List.getElem?_map,
        List.getElem?_modify_eq, scheduled]
      simp only [Option.map_some, Functor.map, Option.some.injEq, workerCoverage_append]
      cases collecting : config.coverage with
      | false =>
        rw [collecting, if_neg (by decide)] at currentMap
        simp [Worker.coverage_mark_none currentMap]
      | true =>
        rw [collecting, if_pos rfl] at currentMap
        simp [Worker.coverage_mark currentMap, traceAt, ran]
    · have earlier := congrArg (·[index]?) dealt.maps
      simp only [List.getElem?_map] at earlier
      rw [List.getElem?_set_ne same, List.getElem?_map, List.getElem?_map, List.getElem?_modify_ne _ _ same]
      exact earlier
  · have inSchedule : worker < schedule.length := (List.getElem?_eq_some_iff.mp scheduled).1
    have grown : min (pool.next + 1) (tests.map (runTest package budget)).length =
        min pool.next (tests.map (runTest package budget)).length + 1 := by
      simp only [List.length_map]
      omega
    rw [grown, List.range_succ]
    refine (flatten_modify_append schedule inSchedule pool.next).trans ?_
    rw [Nat.min_eq_left (by simp only [List.length_map]; omega)]
    exact List.Perm.append_right _ (by simpa [Nat.min_eq_left (Nat.le_of_lt before)] using dealt.claimed)

theorem Dealt.claim {config : RunnerConfig} {schedule : Schedule}
    (dealt : Dealt config package (tests.map (runTest package budget)) pool schedule) (worker : Nat) :
    ∃ later, Dealt config package (tests.map (runTest package budget))
      (pool.claim package budget tests worker) later := by
  by_cases idle : ∀ current, pool.workers[worker]? = some current → current.done = true
  · exact ⟨schedule, by rw [claim_idle idle]; exact dealt⟩
  push Not at idle
  obtain ⟨current, found, notDone⟩ := idle
  have going : current.done = false := by simpa using notDone
  cases within : tests[pool.next]? with
  | none => exact ⟨schedule, by rw [claim_stops found going within]; exact dealt.stop found within⟩
  | some test => exact ⟨_, by rw [claim_runs found going within]; exact dealt.deal found going within⟩

theorem Dealt.run {config : RunnerConfig} {schedule : Schedule}
    (dealt : Dealt config package (tests.map (runTest package budget)) pool schedule) (claims : List Nat) :
    ∃ later, Dealt config package (tests.map (runTest package budget))
      (pool.run package budget tests claims) later := by
  induction claims generalizing pool schedule with
  | nil => exact ⟨schedule, dealt⟩
  | cons worker rest ih =>
    obtain ⟨next, claimed⟩ := dealt.claim worker
    exact ih claimed

theorem Dealt.results_finished {config : RunnerConfig} {schedule : Schedule}
    (dealt : Dealt config package (tests.map (runTest package budget)) pool schedule)
    (finished : pool.finished = true) (staffed : pool.workers ≠ []) :
    pool.resultList = tests.map (fun test => (runTest package budget test).1) ∧ tests.length < pool.next := by
  obtain ⟨first, member⟩ := List.exists_mem_of_ne_nil pool.workers staffed
  have past : tests.length < pool.next := by
    simpa using dealt.stopped first member (List.all_eq_true.mp finished first member)
  refine ⟨?_, past⟩
  unfold resultList
  rw [dealt.results]
  apply List.ext_getElem
  · simp
  · intro index inside _
    simp only [List.length_map, List.length_range] at inside
    simp [inside, Nat.lt_trans inside past]

theorem coverage_eq_scheduleCoverage {config : RunnerConfig} (collecting : config.coverage = true)
    {runs : List (TestResult × List Event)} {schedule : Schedule}
    (maps : pool.workers.map (·.coverage) = schedule.map fun dealt =>
      if config.coverage then some (workerCoverage package runs dealt, {}) else none) :
    pool.coverage = scheduleCoverage package runs schedule := by
  unfold coverage scheduleCoverage
  rw [collecting] at maps
  simp only [if_true] at maps
  have folded : ∀ (workers : List Worker) (schedule : Schedule) (total : CoverageMap),
      workers.map (·.coverage) = schedule.map (fun dealt => some (workerCoverage package runs dealt, ({} : Recorder))) →
      workers.foldl Worker.mergeInto total =
        schedule.foldl (fun total dealt => total.merge (workerCoverage package runs dealt)) total := by
    intro workers
    induction workers with
    | nil =>
      intro schedule total same
      cases schedule with
      | nil => rfl
      | cons _ _ => simp at same
    | cons worker rest ih =>
      intro schedule total same
      cases schedule with
      | nil => simp at same
      | cons dealt later =>
        simp only [List.map_cons, List.cons.injEq] at same
        rw [List.foldl_cons, List.foldl_cons, Worker.mergeInto, same.1, ih later _ same.2]
  exact folded _ _ _ maps

theorem run_finished (config : RunnerConfig) (package : Package) (tests : List TestCase) {count : Nat}
    (staffed : 0 < count ∨ tests = []) (claims : List Nat)
    (finished : ((start config package tests count).run package config.budget tests claims).finished = true) :
    ((start config package tests count).run package config.budget tests claims).resultList =
        tests.map (fun test => (runTest package config.budget test).1) ∧
      (config.coverage = true → tests ≠ [] → ∀ traces : List (List Event),
        traces.Perm (tests.map fun test => (runTest package config.budget test).2) →
        ((start config package tests count).run package config.budget tests claims).coverage =
          (({} : CoverageMap).addPackage package).apply traces.flatten) := by
  obtain ⟨schedule, dealt⟩ := (dealt_start config package config.budget tests count).run claims
  have workers : ((start config package tests count).run package config.budget tests claims).workers.length =
      count := by
    simp [start]
  rcases staffed with positive | none
  · have staffedPool : ((start config package tests count).run package config.budget tests claims).workers ≠ [] := by
      rw [← List.length_pos_iff, workers]
      exact positive
    obtain ⟨results, past⟩ := dealt.results_finished finished staffedPool
    refine ⟨results, fun collecting given traces reordered => ?_⟩
    have covered := dealt.claimed
    rw [Nat.min_eq_right (by simp only [List.length_map]; omega)] at covered
    rw [coverage_eq_scheduleCoverage collecting dealt.maps]
    refine scheduleCoverage_of_covers package _ ?_ (fun index => by rw [covered.mem_iff, List.mem_range])
      (by simpa [Function.comp_def] using reordered)
    intro empty
    have := congrArg List.length dealt.maps
    simp only [List.length_map, empty, List.length_nil, workers] at this
    omega
  · subst none
    refine ⟨?_, fun _ given => absurd rfl given⟩
    unfold resultList
    rw [dealt.results]
    rfl

theorem run_dealing (config : RunnerConfig) (package : Package) (budget : Nat) (tests : List TestCase)
    {count : Nat} (positive : 0 < count) :
    ∀ claimed ≤ tests.length,
      ((start config package tests count).run package budget tests
          ((List.range claimed).map (· % count))).next = claimed ∧
        ∀ worker ∈ ((start config package tests count).run package budget tests
          ((List.range claimed).map (· % count))).workers, worker.done = false
  | 0, _ => ⟨rfl, by simp [start, run]⟩
  | claimed + 1, within => by
    obtain ⟨counted, going⟩ := run_dealing config package budget tests positive claimed (by omega)
    rw [List.range_succ, List.map_append, run_append]
    set pool := (start config package tests count).run package budget tests ((List.range claimed).map (· % count))
    have inside : claimed % count < pool.workers.length := by
      simp only [pool, length_run_workers]
      simpa [start] using Nat.mod_lt claimed positive
    have found := List.getElem?_eq_getElem inside
    have test : tests[pool.next]? = some tests[claimed] := by
      rw [counted, List.getElem?_eq_getElem (by omega)]
    simp only [run, List.map_cons, List.map_nil, List.foldl_cons, List.foldl_nil]
    rw [claim_runs found (going _ (List.getElem_mem inside)) test]
    refine ⟨by rw [counted], fun worker member => ?_⟩
    rcases List.mem_or_eq_of_mem_set member with old | rfl
    · exact going worker old
    · rw [Worker.done_mark]
      exact going _ (List.getElem_mem inside)

theorem run_stopping (pool : Pool) (past : tests.length ≤ pool.next)
    (going : ∀ worker ∈ pool.workers, worker.done = false) :
    ∀ stopping ≤ pool.workers.length,
      (pool.run package budget tests (List.range stopping)).next = pool.next + stopping ∧
      ∀ worker < pool.workers.length,
        ((pool.run package budget tests (List.range stopping)).workers[worker]?).map (·.done) =
          some (decide (worker < stopping))
  | 0, _ => ⟨rfl, fun worker inside => by
      simp [run, List.getElem?_eq_getElem inside, going _ (List.getElem_mem inside)]⟩
  | stopping + 1, within => by
    obtain ⟨counted, stoppedSoFar⟩ := run_stopping pool past going stopping (by omega)
    rw [List.range_succ, run_append]
    set later := pool.run package budget tests (List.range stopping)
    obtain ⟨current, found, notDone⟩ : ∃ current, later.workers[stopping]? = some current ∧ current.done = false := by
      have := stoppedSoFar stopping (by omega)
      rw [decide_eq_false (Nat.lt_irrefl _)] at this
      obtain ⟨current, found, done⟩ := Option.map_eq_some_iff.mp this
      exact ⟨current, found, done⟩
    have none : tests[later.next]? = none := List.getElem?_eq_none (by omega)
    simp only [run, List.foldl_cons, List.foldl_nil]
    rw [claim_stops found notDone none]
    refine ⟨by dsimp only; omega, fun worker inside => ?_⟩
    dsimp only
    rw [List.getElem?_set]
    split
    · rename_i same
      subst same
      rw [if_pos (by simpa [later] using inside)]
      simp
    · rename_i differ
      rw [stoppedSoFar worker inside]
      simp only [Option.some.injEq, decide_eq_decide]
      omega

theorem turns_finished (config : RunnerConfig) (package : Package) (budget : Nat) (tests : List TestCase)
    (count : Nat) :
    ((start config package tests count).run package budget tests (turns count tests.length)).finished = true := by
  rcases Nat.eq_zero_or_pos count with none | positive
  · have empty : ((start config package tests count).run package budget tests
        (turns count tests.length)).workers = [] := by
      rw [← List.length_eq_zero_iff, length_run_workers]
      simp [start, none]
    simp [finished, empty]
  · obtain ⟨counted, going⟩ := run_dealing config package budget tests positive tests.length (Nat.le_refl _)
    unfold turns
    rw [run_append]
    set dealtPool := (start config package tests count).run package budget tests
      ((List.range tests.length).map (· % count))
    have count_eq : dealtPool.workers.length = count := by simp [dealtPool, start]
    have stopped : ∀ worker < dealtPool.workers.length,
        ((dealtPool.run package budget tests (List.range count)).workers[worker]?).map (·.done) =
          some (decide (worker < count)) :=
      (run_stopping dealtPool (show tests.length ≤ dealtPool.next by omega) going count (by omega)).2
    unfold finished
    rw [List.all_eq_true]
    intro worker member
    obtain ⟨index, inside, rfl⟩ := List.getElem_of_mem member
    have below : index < count := by simpa [count_eq] using inside
    have := stopped index (by omega)
    rw [List.getElem?_eq_getElem inside, Option.map_some, decide_eq_true below] at this
    exact Option.some.inj this

end Pool

theorem runAll_results (config : RunnerConfig) (package : Package) (tests : List TestCase) :
    (runAll config package tests).1 = tests.map (fun test => (runTest package config.budget test).1) := by
  unfold runAll
  dsimp only
  exact (Pool.run_finished config package tests (workerCount_staffed config tests) _
    (Pool.turns_finished config package _ tests _)).1

theorem runAll_coverage {config : RunnerConfig} (collecting : config.coverage = true) (package : Package)
    {tests : List TestCase} (given : tests ≠ []) :
    (runAll config package tests).2 =
      some ((({} : CoverageMap).addPackage package).apply
        (tests.map fun test => (runTest package config.budget test).2).flatten) := by
  unfold runAll
  dsimp only
  rw [if_pos collecting]
  exact congrArg some ((Pool.run_finished config package tests (workerCount_staffed config tests) _
    (Pool.turns_finished config package _ tests _)).2 collecting given _ (List.Perm.refl _))

/-- Tests run on any number of workers give the results of a run on one worker, in the order of
the tests, however the workers claim them; and however the tests are dealt to workers, the merged
coverage is the package's map marked with the events of all tests, in any order. -/
theorem parallel_runs_match_sequential (config : RunnerConfig) (package : Package) (tests : List TestCase) :
    (runAll config package tests).1 = (runAll { config with workers := 1 } package tests).1 ∧
    (runAll config package tests).1 = tests.map (fun test => (runTest package config.budget test).1) ∧
    (∀ claims : List Nat,
      ((Pool.start config package tests (workerCount config tests.length)).run package config.budget tests
          claims).finished = true →
        ((Pool.start config package tests (workerCount config tests.length)).run package config.budget tests
          claims).resultList = tests.map (fun test => (runTest package config.budget test).1)) ∧
    ∀ traces : List (List Event), traces.Perm (tests.map fun test => (runTest package config.budget test).2) →
      (∀ schedule : Schedule, schedule ≠ [] → schedule.flatten.Perm (List.range tests.length) →
        scheduleCoverage package (tests.map (runTest package config.budget)) schedule =
          (({} : CoverageMap).addPackage package).apply traces.flatten) ∧
      (config.coverage = true → tests ≠ [] →
        (runAll config package tests).2 = some ((({} : CoverageMap).addPackage package).apply traces.flatten)) ∧
      (∀ claims : List Nat,
        ((Pool.start config package tests (workerCount config tests.length)).run package config.budget tests
            claims).finished = true → config.coverage = true → tests ≠ [] →
          ((Pool.start config package tests (workerCount config tests.length)).run package config.budget tests
            claims).coverage = (({} : CoverageMap).addPackage package).apply traces.flatten) := by
  have staffed := workerCount_staffed config tests
  refine ⟨?_, runAll_results config package tests, fun claims finished =>
    (Pool.run_finished config package tests staffed claims finished).1,
    fun traces reordered => ⟨fun schedule nonempty dealt => ?_, fun collecting given => ?_,
      fun claims finished collecting given =>
        (Pool.run_finished config package tests staffed claims finished).2 collecting given traces reordered⟩⟩
  · rw [runAll_results, runAll_results]
    rfl
  · refine scheduleCoverage_of_covers package _ nonempty (fun index => ?_)
      (by simpa [Function.comp_def] using reordered)
    rw [dealt.mem_iff, List.mem_range, List.length_map]
  · rw [runAll_coverage collecting package given]
    refine congrArg some ((CoverageMap.sorted_empty.addPackage package).apply_congr fun event => ?_)
    simp only [List.mem_flatten, reordered.mem_iff]

/-- Coverage on, two workers. -/
def pairConfig : RunnerConfig := { coverage := true, workers := 2 }

/-- The same test twice. -/
def pairTests : List TestCase := [default, default]

/-- Two tests on two workers: dealt with the second test first, or claimed with worker 1 taking
the first test and worker 0 the second, they give the results of one worker and the coverage of
both traces. -/
theorem two_workers_match_sequential :
    ((pairTests.map fun test => (runTest default pairConfig.budget test).2).Perm
        (pairTests.map fun test => (runTest default pairConfig.budget test).2) ∧
      ([[1], [0]] : Schedule) ≠ [] ∧ ([[1], [0]] : Schedule).flatten.Perm (List.range pairTests.length) ∧
      pairConfig.coverage = true ∧ pairTests ≠ [] ∧
      ((Pool.start pairConfig default pairTests (workerCount pairConfig pairTests.length)).run default
        pairConfig.budget pairTests [1, 0, 0, 1]).finished = true) ∧
    (runAll pairConfig default pairTests).1 = (runAll { pairConfig with workers := 1 } default pairTests).1 ∧
    ((Pool.start pairConfig default pairTests (workerCount pairConfig pairTests.length)).run default
        pairConfig.budget pairTests [1, 0, 0, 1]).resultList =
      pairTests.map (fun test => (runTest default pairConfig.budget test).1) ∧
    scheduleCoverage default (pairTests.map (runTest default pairConfig.budget)) [[1], [0]] =
      (({} : CoverageMap).addPackage default).apply
        (pairTests.map fun test => (runTest default pairConfig.budget test).2).flatten ∧
    (runAll pairConfig default pairTests).2 = some ((({} : CoverageMap).addPackage default).apply
        (pairTests.map fun test => (runTest default pairConfig.budget test).2).flatten) ∧
    ((Pool.start pairConfig default pairTests (workerCount pairConfig pairTests.length)).run default
        pairConfig.budget pairTests [1, 0, 0, 1]).coverage =
      (({} : CoverageMap).addPackage default).apply
        (pairTests.map fun test => (runTest default pairConfig.budget test).2).flatten := by
  have dealt : ([[1], [0]] : Schedule).flatten.Perm (List.range pairTests.length) := by decide
  have finished : ((Pool.start pairConfig default pairTests (workerCount pairConfig pairTests.length)).run
      default pairConfig.budget pairTests [1, 0, 0, 1]).finished = true := by decide
  obtain ⟨sequential, -, claimed, coverage⟩ := parallel_runs_match_sequential pairConfig default pairTests
  obtain ⟨scheduled, collected, pooled⟩ := coverage _ (List.Perm.refl _)
  exact ⟨⟨List.Perm.refl _, List.cons_ne_nil _ _, dealt, rfl, List.cons_ne_nil _ _, finished⟩, sequential,
    claimed _ finished, scheduled _ (List.cons_ne_nil _ _) dealt, collected rfl (List.cons_ne_nil _ _),
    pooled _ finished rfl (List.cons_ne_nil _ _)⟩

end Testbench
