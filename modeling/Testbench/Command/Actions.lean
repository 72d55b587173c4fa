import Testbench.Command.Console
import Testbench.Command.Flags
import Testbench.Command.Render
import Testbench.Settings
import Testbench.Text.Diff
/-!
The commands of the test runner.

`test` runs or lists the tests of a package. Its settings come from the file named with
`--config-file`, else from `neounit.yml` in the package directory if there is one, else the
defaults; flags then change them: `--address` binds names (twice the same name is refused),
and every other flag that is set replaces its setting. With a log file the file's directory is
made and the file opened before anything runs. A run prints its results and, with coverage,
the coverage listing; it fails when coverage could not be saved or a test failed, with both
reasons on separate lines.

`coverage summary` prints the listing of a coverage file, `coverage merge` merges files into
one, and `coverage diff` prints the unified difference of the listings of two files.
-/

namespace Testbench.Actions

open Console

/-- The flag every command has for its help. -/
def helpFlag : Flags.Spec := ⟨["help", "h"], .switch, "show help"⟩

/-- The flags of `test`. -/
def testFlags : List Flags.Spec := [
  ⟨["path", "p"], .text ".", "Package directory"⟩,
  ⟨["address", "a"], .texts, "Named address binding (name=address), can be repeated"⟩,
  ⟨["gas-limit", "g"], .integer 64, s!"Execution budget of every test (default {defaultGasLimit})"⟩,
  ⟨["coverage"], .switch, "Collect coverage and save it to the coverage file"⟩,
  ⟨["coverage-file", "c"], .text "", "Coverage file"⟩,
  ⟨["merge"], .switch, "Merge coverage with the existing coverage file"⟩,
  ⟨["compress"], .switch, "Compress the coverage file"⟩,
  ⟨["filter", "f"], .text "", "Only run tests with names containing this substring"⟩,
  ⟨["list", "l"], .switch, "List tests without running them"⟩,
  ⟨["workers", "w"], .integer 64, "Number of tests run concurrently"⟩,
  ⟨["config-file"], .text "", "path to the configuration file (neounit.yml in the package directory is used if present)"⟩,
  ⟨["debug", "d"], .switch, "enable debug logging (LOTS of output, overrides configuration)"⟩]

/-- The flags of `coverage summary`. -/
def summaryFlags : List Flags.Spec := [
  ⟨["coverage-file", "c"], .text CoverageFile.defaultName, "Coverage file to read"⟩,
  ⟨["module", "m"], .text "", "Only print modules containing this substring (0x1::name)"⟩]

/-- The flags of `coverage merge`. -/
def mergeFlags : List Flags.Spec := [
  ⟨["out", "o"], .text "", "Output file"⟩,
  ⟨["compress"], .switch, "Compress the output file"⟩]

/-- The name of the settings file in a package directory. -/
def settingsFileName : String := "neounit.yml"

/-- Fails with exit code one. -/
def exitOne {α : Type} (message : String) : Except Failure α := .error (.exit message 1)

/-- Arguments as a list prints them. -/
def argumentsText (arguments : List String) : String := "[" ++ " ".intercalate arguments ++ "]"

variable {m : Type → Type} [Monad m] [FileSystem m]

/-- The settings of a run: from the named file, else from the package's file if there is one,
else the defaults. -/
def settingsFor (settingsFile directory : String) : m (Except String Settings) := do
  if !settingsFile.isEmpty then return (← Settings.load settingsFile).mapError (·.message)
  let candidate := Path.join [directory, settingsFileName]
  match ← FileSystem.pathExists candidate with
  | .error failure => pure (.error failure.message)
  | .ok false => pure (.ok {})
  | .ok true => return (← Settings.load candidate).mapError (·.message)

/-- Test settings with every flag other than `--address` that is set in place of its setting. -/
def overrideSettings (reading : Flags.Reading) (settings : TestSettings) : TestSettings :=
  let isSet := reading.isSet testFlags
  { settings with
    gasLimit := if isSet "gas-limit" then reading.integer testFlags "gas-limit" else settings.gasLimit
    coverage := if isSet "coverage" then reading.switch testFlags "coverage" else settings.coverage
    coverageFile :=
      if isSet "coverage-file" then reading.text testFlags "coverage-file" else settings.coverageFile
    mergeCoverage := if isSet "merge" then reading.switch testFlags "merge" else settings.mergeCoverage
    compressCoverage :=
      if isSet "compress" then reading.switch testFlags "compress" else settings.compressCoverage
    filter := if isSet "filter" then reading.text testFlags "filter" else settings.filter
    workers := if isSet "workers" then reading.integer testFlags "workers" else settings.workers }

/-- Test settings changed by the flags of a command line, then checked. -/
def applyFlags (reading : Flags.Reading) (settings : TestSettings) : Except String TestSettings := do
  let mut changed := settings
  let mut seen : List String := []
  for text in reading.texts testFlags "address" do
    let binding ← (Binding.parse text).mapError (·.message)
    if seen.contains binding.name then throw ("duplicate named address: " ++ binding.name)
    seen := binding.name :: seen
    changed := changed.bind binding.name binding.address.short
  let overridden := overrideSettings reading changed
  overridden.validate.mapError (·.message)
  pure overridden

/-- Prepares logging: a known level, and the log file with its directory. -/
def openLog (settings : LogSettings) : m (Except String Unit) := do
  if !settings.logLevel.isEmpty && !isLogLevel settings.logLevel then
    return .error ("log setting: unrecognized level: " ++ Quoted.quote settings.logLevel)
  let path := settings.logPath
  if path.isEmpty then return .ok ()
  if let .error failure ← FileSystem.makeDirectories (Path.dir path) then
    return .error ("could not create dir for logger: " ++ failure.message)
  if path == "stdout" || path == "stderr" then return .ok ()
  match ← FileSystem.touch path with
  | .error failure => pure (.error ("open sink " ++ Quoted.quote path ++ ": " ++ failure.message))
  | .ok () => pure (.ok ())

/-- Writes the metrics file, if its directory exists. -/
def writeMetrics (path : String) : m Unit := do
  if path.isEmpty then return
  if let .ok .directory ← FileSystem.stat (Path.dir path) then
    match ← FileSystem.stat path with
    | .ok .directory => pure ()
    | _ => discard (FileSystem.writeFile path [])

/-- `test`: runs or lists the tests of a package. -/
def test (reading : Flags.Reading) : CommandM m (Except Failure Unit) := do
  if !reading.arguments.isEmpty then
    return exitOne ("unexpected arguments: " ++ argumentsText reading.arguments)
  let directory := reading.text testFlags "path"
  let settings ← match ← settingsFor (reading.text testFlags "config-file") directory with
    | .error message => return exitOne message
    | .ok settings => pure settings
  let testing ← match applyFlags reading settings.testing with
    | .error message => return exitOne message
    | .ok testing => pure testing
  if let .error message ← openLog settings.logging then return exitOne message
  let bindings ← match testing.bindings with
    | .error problem => return exitOne problem.message
    | .ok bindings => pure bindings
  let config := testing.runnerConfig
  if reading.switch testFlags "list" then
    match ← listTests config directory bindings with
    | .error failure => return exitOne failure.message
    | .ok tests => say (Render.testList tests); return .ok ()
  match ← runTests config directory bindings with
  | .error failure => return exitOne failure.message
  | .ok (report, saveError) =>
    say (Render.results report)
    if let some map := report.coverage then
      say "\n"
      say (Render.coverage map.summary "")
    writeMetrics settings.logging.metricsFile
    let reasons := (saveError.map saveErrorMessage).toList ++ report.errorText.toList
    if reasons.isEmpty then return .ok () else return exitOne ("\n".intercalate reasons)

/-- `coverage summary`: prints the listing of a coverage file. -/
def summary (reading : Flags.Reading) : CommandM m (Except Failure Unit) := do
  if !reading.arguments.isEmpty then
    return exitOne ("unexpected arguments: " ++ argumentsText reading.arguments)
  match ← CoverageFile.load (reading.text summaryFlags "coverage-file") with
  | .error failure => return exitOne failure.message
  | .ok map =>
    say (Render.coverage map.summary (reading.text summaryFlags "module"))
    return .ok ()

/-- `coverage merge`: merges coverage files into one. -/
def merge (reading : Flags.Reading) : CommandM m (Except Failure Unit) := do
  let out := reading.text mergeFlags "out"
  if out.isEmpty then return exitOne "output file is required"
  if reading.arguments.isEmpty then return exitOne "no files to merge"
  let mut merged : CoverageMap := {}
  for file in reading.arguments do
    match ← CoverageFile.load file with
    | .error failure => return exitOne failure.message
    | .ok map => merged := merged.merge map
  if let .error failure ← CoverageFile.save out merged (reading.switch mergeFlags "compress") then
    return exitOne ("can't save " ++ out ++ ": " ++ failure.message)
  say s!"Merged {reading.arguments.length} files into {out}\n"
  return .ok ()

/-- `coverage diff`: prints how the listing of one coverage file differs from another's. -/
def diff (reading : Flags.Reading) : CommandM m (Except Failure Unit) := do
  let [older, newer] := reading.arguments | return exitOne "two coverage files are expected"
  let mut listings : Array String := #[]
  for file in [older, newer] do
    match ← CoverageFile.load file with
    | .error failure => return exitOne failure.message
    | .ok map => listings := listings.push (Render.coverage map.summary "")
  let text := Diff.unified older newer 1 (listings.getD 0 "") (listings.getD 1 "")
  say (if text.isEmpty then "No coverage changes\n" else text)
  return .ok ()

end Testbench.Actions
