import Testbench.Yaml.Decode
import Testbench.Files.Basic
import Testbench.Address.Named
import Testbench.Testing.Runner
/-!
Settings of a test run, read from a YAML file.

The file has two sections. `ApplicationConfiguration` sets the log level, a log file and a
metrics file; `UnitTest` sets how tests run and binds named addresses. Settings the file leaves
out keep their defaults: a budget of 100000, one worker, and `.coverage_map.nvcov` as the
coverage file. An empty file gives the defaults. The settings must then be valid: a known log
level, a positive budget, no negative worker count, a coverage file when coverage is on, and
an address for every binding.
-/

namespace Testbench

/-- How the program logs. -/
structure LogSettings where
  /-- The least level logged; empty for the default. -/
  logLevel : String := ""
  /-- A file to log to; empty for the standard error stream. -/
  logPath : String := ""
  /-- A file to write metrics to; empty for none. -/
  metricsFile : String := ""
  deriving Repr, DecidableEq

/-- How tests run. -/
structure TestSettings where
  /-- The budget of each test. -/
  gasLimit : Int := defaultGasLimit
  /-- Collect coverage? -/
  coverage : Bool := false
  /-- Where coverage is saved. -/
  coverageFile : String := CoverageFile.defaultName
  /-- Merge coverage with the saved file? -/
  mergeCoverage : Bool := false
  /-- Compress the coverage file? -/
  compressCoverage : Bool := false
  /-- Only tests whose names contain this. -/
  filter : String := ""
  /-- How many tests run at once. -/
  workers : Int := 1
  /-- Named addresses and the addresses bound to them. -/
  addresses : List (String × String) := []
  deriving Repr, DecidableEq

/-- All settings. -/
structure Settings where
  logging : LogSettings := {}
  /-- Running tests. -/
  testing : TestSettings := {}
  deriving Repr, DecidableEq

/-- The names of the log levels. -/
def logLevels : List String := ["debug", "info", "warn", "error", "dpanic", "panic", "fatal"]

/-- The lower case of a character as far as log level names need it: the capital letters, the
capital I with a dot and the Kelvin sign. -/
def foldLevelChar (char : Char) : Char :=
  if char.toNat == 0x130 then 'i'
  else if char.toNat == 0x212A then 'k'
  else char.toLower

/-- Is the text a log level, in lower or upper case? -/
def isLogLevel (text : String) : Bool :=
  logLevels.contains text || logLevels.contains (text.map foldLevelChar)

/-- Why settings are invalid. -/
inductive SettingsProblem where
  /-- The log level is unknown. -/
  | logLevel (text : String)
  /-- The budget is not positive. -/
  | gasLimit (value : Int)
  /-- The worker count is negative. -/
  | workers (value : Int)
  /-- Coverage is on without a file. -/
  | coverageFile
  /-- A bound address cannot be read. -/
  | address (name : String) (failure : Address.ParseError)

/-- The text of a problem. -/
def SettingsProblem.message : SettingsProblem → String
  | .logLevel text => "invalid LogLevel: unrecognized level: " ++ Quoted.quote text
  | .gasLimit value => s!"GasLimit must be positive, got {value}"
  | .workers value => s!"Workers can't be negative, got {value}"
  | .coverageFile => "CoverageFile is required for Coverage"
  | .address name failure => "address " ++ name ++ ": " ++ failure.message

/-- The causes a problem is classified by. -/
def SettingsProblem.kinds : SettingsProblem → List ErrorKind
  | .address _ failure => failure.kinds
  | _ => []

namespace TestSettings

/-- The bindings, sorted by name, each address read. -/
def bindings (settings : TestSettings) : Except SettingsProblem (List Binding) :=
  let sorted := settings.addresses.mergeSort fun a b => decide (a.1 ≤ b.1)
  sorted.mapM fun (name, value) =>
    match Address.parse value with
    | .ok address => .ok ⟨name, address⟩
    | .error failure => .error (.address name failure)

/-- Checks the test settings. -/
def validate (settings : TestSettings) : Except SettingsProblem Unit := do
  if settings.gasLimit ≤ 0 then throw (.gasLimit settings.gasLimit)
  if settings.workers < 0 then throw (.workers settings.workers)
  if settings.coverage && settings.coverageFile.isEmpty then throw .coverageFile
  discard settings.bindings

/-- The settings a runner takes. -/
def runnerConfig (settings : TestSettings) : RunnerConfig :=
  { gasLimit := settings.gasLimit, coverage := settings.coverage,
    coverageFile := settings.coverageFile, mergeCoverage := settings.mergeCoverage,
    compressCoverage := settings.compressCoverage, filter := settings.filter,
    workers := settings.workers }

/-- Binds a name to an address, in place of a binding it had. -/
def bind (settings : TestSettings) (name value : String) : TestSettings :=
  if settings.addresses.any (·.1 == name) then
    { settings with addresses := settings.addresses.map fun entry =>
        if entry.1 == name then (name, value) else entry }
  else { settings with addresses := settings.addresses ++ [(name, value)] }

end TestSettings

/-- Checks the logging settings. -/
def LogSettings.validate (settings : LogSettings) : Except SettingsProblem Unit :=
  if settings.logLevel.isEmpty || isLogLevel settings.logLevel then .ok ()
  else .error (.logLevel settings.logLevel)

namespace Settings

/-- The settings as a value to decode a file into: their types and their defaults. -/
def defaults : Yaml.Setting :=
  let logging : LogSettings := {}
  let testing : TestSettings := {}
  .record "config.Config" [
    ("ApplicationConfiguration", .record "config.ApplicationConfiguration"
      [("LogLevel", .text logging.logLevel), ("LogPath", .text logging.logPath),
        ("MetricsFile", .text logging.metricsFile)]),
    ("UnitTest", .record "config.UnitTest"
      [("GasLimit", .integer "int64" testing.gasLimit), ("Coverage", .flag testing.coverage),
        ("CoverageFile", .text testing.coverageFile), ("MergeCoverage", .flag testing.mergeCoverage),
        ("CompressCoverage", .flag testing.compressCoverage), ("Filter", .text testing.filter),
        ("Workers", .integer "int" testing.workers), ("Addresses", .textMap none)])]

/-- The settings a decoded value holds. -/
def ofSetting (setting : Yaml.Setting) : Settings :=
  let logging := setting.field "ApplicationConfiguration"
  let testing := setting.field "UnitTest"
  { logging :=
      { logLevel := (logging.field "LogLevel").textValue
        logPath := (logging.field "LogPath").textValue
        metricsFile := (logging.field "MetricsFile").textValue }
    testing :=
      { gasLimit := (testing.field "GasLimit").integerValue
        coverage := (testing.field "Coverage").flagValue
        coverageFile := (testing.field "CoverageFile").textValue
        mergeCoverage := (testing.field "MergeCoverage").flagValue
        compressCoverage := (testing.field "CompressCoverage").flagValue
        filter := (testing.field "Filter").textValue
        workers := (testing.field "Workers").integerValue
        addresses := (testing.field "Addresses").entries } }

/-- Checks all settings, logging first. -/
def validate (settings : Settings) : Except SettingsProblem Unit := do
  settings.logging.validate
  settings.testing.validate

/-- Why settings cannot be loaded. -/
inductive LoadError where
  /-- There is no file. -/
  | missing (path : String)
  /-- The file cannot be read. -/
  | unreadable (failure : FileError)
  /-- The text does not fit the settings. -/
  | undecodable (failure : Yaml.DecodeError)
  /-- The settings are invalid. -/
  | invalid (problem : SettingsProblem)

/-- The text of a failure. -/
def LoadError.message : LoadError → String
  | .missing path => "config '" ++ path ++ "' doesn't exist"
  | .unreadable failure => "unable to read config: " ++ failure.message
  | .undecodable failure => "failed to unmarshal config YAML: " ++ failure.message
  | .invalid problem => "config is invalid: " ++ problem.message

/-- The causes a failure is classified by. -/
def LoadError.kinds : LoadError → List ErrorKind
  | .invalid problem => problem.kinds
  | _ => []

/-- Reads settings from a file's bytes: defaults changed by the first document, then checked. -/
def parse (bytes : List UInt8) : Except LoadError Settings := do
  let settings ← match Yaml.decodeDocument defaults bytes with
    | .error .noDocument => pure {}
    | .error failure => throw (.undecodable failure)
    | .ok setting => pure (ofSetting setting)
  match settings.validate with
  | .error problem => throw (.invalid problem)
  | .ok () => pure settings

/-- Reads settings from a file. -/
def load {m : Type → Type} [Monad m] [FileSystem m] (path : String) : m (Except LoadError Settings) := do
  match ← FileSystem.readFile path with
  | .error failure => pure (.error (if failure.isNotFound then .missing path else .unreadable failure))
  | .ok bytes => pure (parse bytes)

end Settings

end Testbench
