import Testbench.Testing.Case
import Testbench.Testing.Outcome
import Testbench.Machine.Run
import Testbench.Coverage.Storage
import Testbench.Package.Loader
/-!
Running the tests of a package.

A run compiles the package in a directory with the caller's bindings, discovers its tests and
runs each in a fresh machine with the same budget, its signers' addresses as arguments. Each
test's outcome follows from how its run ended and what it expected. With coverage on, every
worker starts from a map of the package's functions and marks what its tests ran; the workers'
maps are merged and the result saved, merged first with the saved file if asked to. The
results are in discovery order whichever worker ran a test.
-/

namespace Testbench

/-- The budget of a test when none is given. -/
def defaultGasLimit : Nat := 100000

/-- How tests are run. -/
structure RunnerConfig where
  /-- The budget of each test; zero or less means the default. -/
  gasLimit : Int := defaultGasLimit
  /-- Collect coverage? -/
  coverage : Bool := false
  /-- Where coverage is saved; empty means nowhere. -/
  coverageFile : String := ""
  /-- Merge with the coverage already saved? -/
  mergeCoverage : Bool := false
  /-- Compress the saved coverage? -/
  compressCoverage : Bool := false
  /-- Only tests whose full names contain this. -/
  filter : String := ""
  /-- How many tests run at once; less than one means one. -/
  workers : Int := 0
  deriving Repr

/-- The budget a configuration gives each test. -/
def RunnerConfig.budget (config : RunnerConfig) : Nat :=
  if config.gasLimit ≤ 0 then defaultGasLimit else config.gasLimit.toNat

/-- How one test went. -/
structure TestResult where
  test : TestCase
  outcome : Outcome
  gasUsed : Nat
  /-- The messages it logged, in order. -/
  logs : List (List UInt8)
  deriving Inhabited

/-- Did the test pass? -/
def TestResult.passed (result : TestResult) : Bool := result.outcome.passed

/-- How a run of a loaded machine ended. -/
def endingOf : Option MachineError → Ending
  | none => .returned
  | some failure =>
    match failure with
    | .abort info => .failed failure.kinds failure.message (some info)
    | _ => .failed failure.kinds failure.message none

/-- Runs one test in a fresh machine: its result and the instructions it ran. -/
def runTest (package : Package) (budget : Nat) (test : TestCase) : TestResult × List Event :=
  let fresh := Machine.new package (some budget)
  let arguments := test.args.map fun address => Item.bytes address.bytes
  match fresh.load test.module test.function arguments with
  | .error failure =>
    (⟨test, reconcile test.expect (.failed failure.kinds failure.message none), 0, []⟩, [])
  | .ok loaded =>
    let (final, failure) := loaded.run
    (⟨test, reconcile test.expect (endingOf failure), final.gasUsed,
      final.logs.toList.map (·.message)⟩, final.events.toList)

/-- Which tests each worker runs, by index, in the order it runs them. -/
abbrev Schedule := List (List Nat)

/-- How many workers a run uses: at least one, and no more than there are tests. -/
def workerCount (config : RunnerConfig) (tests : Nat) : Nat :=
  min (if config.workers < 1 then 1 else config.workers.toNat) tests

/-- The coverage a worker collects: the package's functions, then the instructions of its
tests in order. -/
def workerCoverage (package : Package) (runs : List (TestResult × List Event)) (tests : List Nat) :
    CoverageMap :=
  tests.foldl (fun map index => map.apply ((runs[index]?.map (·.2)).getD []))
    (({} : CoverageMap).addPackage package)

/-- The merged coverage of the workers of a schedule. -/
def scheduleCoverage (package : Package) (runs : List (TestResult × List Event)) (schedule : Schedule) :
    CoverageMap :=
  schedule.foldl (fun total tests => total.merge (workerCoverage package runs tests)) {}

/-- A worker of a run: with coverage on, its own map and the recorder its machines report to. -/
structure Worker where
  /-- The map and the recorder, with coverage on. -/
  coverage : Option (CoverageMap × Recorder)
  /-- Has it found no test left to claim? -/
  done : Bool := false

/-- A worker marks the run of a test: its recorder takes the events, its map marks what the
recorder holds, and the recorder is reset. -/
def Worker.mark (worker : Worker) (events : List Event) : Worker :=
  { worker with coverage := worker.coverage.map fun (map, recorder) =>
      let recorder := events.foldl Recorder.record recorder
      (map.apply recorder.events.toList, recorder.reset) }

/-- Merges a worker's map, if it keeps one, into a total. -/
def Worker.mergeInto (total : CoverageMap) (worker : Worker) : CoverageMap :=
  match worker.coverage with
  | some (map, _) => total.merge map
  | none => total

/-- Workers running tests, and what they share: the counter tests are claimed from and a place
for the result of each test. -/
structure Pool where
  /-- The index the next claim gets. -/
  next : Nat := 0
  /-- The result of each test, once it ran. -/
  results : List (Option TestResult)
  workers : List Worker

namespace Pool

/-- `count` workers for the tests, none run yet; with coverage on each worker's map starts from
the package's functions. -/
def start (config : RunnerConfig) (package : Package) (tests : List TestCase) (count : Nat) : Pool where
  results := List.replicate tests.length none
  workers := List.replicate count
    { coverage := if config.coverage then some (({} : CoverageMap).addPackage package, {}) else none }

/-- Worker `worker` claims the next index from the counter. Within the tests it runs that test,
puts its result in the test's place and marks its run; past them it stops. A worker that has
stopped claims nothing. -/
def claim (package : Package) (budget : Nat) (tests : List TestCase) (pool : Pool) (worker : Nat) : Pool :=
  match pool.workers[worker]? with
  | none => pool
  | some current =>
    if current.done then pool
    else
      match tests[pool.next]? with
      | none => { pool with next := pool.next + 1, workers := pool.workers.set worker { current with done := true } }
      | some test =>
        let (result, events) := runTest package budget test
        { next := pool.next + 1, results := pool.results.set pool.next (some result),
          workers := pool.workers.set worker (current.mark events) }

/-- Claims in the order given, each by the worker it names. -/
def run (package : Package) (budget : Nat) (tests : List TestCase) (pool : Pool) (claims : List Nat) : Pool :=
  claims.foldl (claim package budget tests) pool

/-- Have all workers stopped? -/
def finished (pool : Pool) : Bool := pool.workers.all (·.done)

/-- The results in the order of the tests; a test that did not run has the empty result. -/
def resultList (pool : Pool) : List TestResult := pool.results.map (·.getD default)

/-- The workers' maps merged, worker after worker. -/
def coverage (pool : Pool) : CoverageMap := pool.workers.foldl Worker.mergeInto {}

/-- Workers claiming in turn until the tests are used up, then each once more to find none. -/
def turns (workers tests : Nat) : List Nat := (List.range tests).map (· % workers) ++ List.range workers

end Pool

/-- Runs tests on a pool of workers: their results in order, and with coverage on, the merged
coverage of the workers. -/
def runAll (config : RunnerConfig) (package : Package) (tests : List TestCase) :
    List TestResult × Option CoverageMap :=
  let count := workerCount config tests.length
  let pool := (Pool.start config package tests count).run package config.budget tests
    (Pool.turns count tests.length)
  (pool.resultList, if config.coverage then some pool.coverage else none)

/-- What a run found. -/
structure Report where
  /-- The package name. -/
  package : String
  /-- The results in discovery order; empty when there were no tests. -/
  results : List TestResult := []
  /-- The coverage, when collected. -/
  coverage : Option CoverageMap := none

namespace Report

/-- Were there no tests? -/
def noTests (report : Report) : Bool := report.results.isEmpty

/-- The results of the tests that did not pass. -/
def failed (report : Report) : List TestResult := report.results.filter (!·.passed)

/-- How many tests ended with each outcome kind, for the kinds that occurred. -/
def counts (report : Report) : List (OutcomeKind × Nat) :=
  OutcomeKind.all.filterMap fun kind =>
    let count := (report.results.filter (·.outcome.kind == kind)).length
    if count == 0 then none else some (kind, count)

/-- The failures as text, one `test: outcome` line each; none when all passed. -/
def errorText (report : Report) : Option String :=
  match report.failed with
  | [] => none
  | failed => some ("\n".intercalate (failed.map fun result => result.test.text ++ ": " ++ result.outcome.text))

end Report

/-- Why tests cannot be run. -/
inductive RunError where
  /-- The declared names cannot be read. -/
  | declarations (failure : Loader.DeclarationsError)
  /-- The names do not resolve. -/
  | resolution (failure : ResolveError)
  /-- The package is missing or uses a name that has no address. -/
  | missing (failure : Loader.LoadError)
  /-- The package does not compile. -/
  | compilation (failure : Loader.LoadError)

/-- The text of a failure. -/
def RunError.message : RunError → String
  | .declarations failure => failure.message
  | .resolution failure => failure.message
  | .missing failure => failure.message
  | .compilation failure => "compilation failed: " ++ failure.message

/-- The causes a failure is classified by. -/
def RunError.kinds : RunError → List ErrorKind
  | .declarations failure => failure.kinds
  | .resolution failure => failure.kinds
  | .missing failure => failure.kinds
  | .compilation failure => .compilation :: failure.kinds

/-- Why coverage was not saved. -/
def saveErrorMessage (failure : FileError) : String := "failed to save coverage: " ++ failure.message

variable {m : Type → Type} [Monad m] [FileSystem m]

/-- Compiles the package in a directory with bindings for its names. A missing package or
an unresolved name is reported as it is; any other failure as a failed compilation. -/
def compilePackage (directory : String) (bindings : List Binding) : m (Except RunError Package) := do
  match ← Loader.declarations directory with
  | .error failure => pure (.error (.declarations failure))
  | .ok declarations =>
    match resolve declarations bindings with
    | .error failure => pure (.error (.resolution failure))
    | .ok resolution =>
      match ← Loader.compile directory resolution with
      | .ok package => pure (.ok package)
      | .error failure =>
        let kinds := failure.kinds
        pure (.error (if kinds.contains .unresolvedAddress || kinds.contains .packageNotFound then
          .missing failure else .compilation failure))

/-- The tests a run would run. -/
def listTests (config : RunnerConfig) (directory : String) (bindings : List Binding) :
    m (Except RunError (List TestCase)) := do
  match ← compilePackage directory bindings with
  | .error failure => pure (.error failure)
  | .ok package => pure (.ok (discover package config.filter))

/-- Saves a run's coverage, first merged into the saved map when asked to and that map loads. -/
def saveCoverage (config : RunnerConfig) (package : Package) (coverage : CoverageMap) :
    m (Except FileError Unit) := do
  let merged ← if config.mergeCoverage then
      match ← CoverageFile.load config.coverageFile with
      | .ok old => pure ((old.addPackage package).merge coverage)
      | .error _ => pure coverage
    else pure coverage
  CoverageFile.save config.coverageFile merged config.compressCoverage

/-- Runs the tests of the package in a directory. Without a package there is no report; a
report may come with the reason its coverage was not saved. -/
def runTests (config : RunnerConfig) (directory : String) (bindings : List Binding) :
    m (Except RunError (Report × Option FileError)) := do
  match ← compilePackage directory bindings with
  | .error failure => pure (.error failure)
  | .ok package =>
    let tests := discover package config.filter
    if tests.isEmpty then return .ok ({ package := package.name }, none)
    let (results, coverage) := runAll config package tests
    let report : Report := { package := package.name, results, coverage }
    match coverage with
    | some map =>
      if config.coverageFile.isEmpty then return .ok (report, none)
      match ← saveCoverage config package map with
      | .ok () => pure (.ok (report, none))
      | .error failure => pure (.ok (report, some failure))
    | none => pure (.ok (report, none))

end Testbench
