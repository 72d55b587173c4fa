import Testbench.Yaml.Decode
import Testbench.Yaml.Emit
import Testbench.Files.Operations
import Testbench.Files.Path
import Testbench.Address.Named
import Testbench.Bytes.Utf8
/-!
The package manifest.

A package directory holds `package.yml`: the package name, an optional version, and the named
addresses its modules use, each with an address or `_` for one the caller must bind. Reading
refuses a missing file (the package is not found), YAML that does not fit, and an empty name.
Saving writes the YAML form: `name`, `version` only when set, and the addresses in natural key
order.
-/

namespace Testbench

/-- What `package.yml` says about a package. -/
structure Manifest where
  /-- The package name. -/
  name : String
  /-- The version; empty when not given. -/
  version : String := ""
  /-- Named addresses and their values, an address or `_`. -/
  addresses : List (String × String) := []
  deriving Repr, DecidableEq

namespace Manifest

/-- The manifest's file name in a package directory. -/
def fileName : String := "package.yml"

/-- A manifest as a value to decode a file into: its type and empty settings. -/
def defaults : Yaml.Setting :=
  .record "bytecode.Manifest" [("name", .text ""), ("version", .text ""), ("addresses", .textMap none)]

/-- The manifest that a decoded value describes. -/
def ofSetting (setting : Yaml.Setting) : Manifest :=
  { name := (setting.field "name").textValue
    version := (setting.field "version").textValue
    addresses := (setting.field "addresses").entries }

/-- Why a manifest cannot be read. -/
inductive ReadError where
  /-- The directory has no manifest. -/
  | notFound (directory : String)
  /-- The manifest file cannot be read. -/
  | unreadable (failure : FileError)
  /-- The file is no manifest. -/
  | undecodable (path : String) (failure : Yaml.DecodeError)
  /-- The name is empty. -/
  | unnamed (path : String)

/-- The text of a failure. -/
def ReadError.message : ReadError → String
  | .notFound directory => "package not found: " ++ directory
  | .unreadable failure => failure.message
  | .undecodable path failure => "failed to decode " ++ path ++ ": " ++ failure.message
  | .unnamed path => path ++ ": package name is missing"

/-- The causes a failure is classified by. -/
def ReadError.kinds : ReadError → List ErrorKind
  | .notFound _ => [.packageNotFound]
  | .undecodable _ .noDocument => [.endOfInput]
  | _ => []

/-- Reads the bytes of the manifest file at `path`. -/
def parse (path : String) (bytes : List UInt8) : Except ReadError Manifest := do
  let manifest ← match Yaml.decodeDocument defaults bytes with
    | .error failure => throw (.undecodable path failure)
    | .ok setting => pure (ofSetting setting)
  if manifest.name.isEmpty then throw (.unnamed path)
  pure manifest

/-- Reads the manifest of the package in a directory. -/
def read {m : Type → Type} [Monad m] [FileSystem m] (directory : String) :
    m (Except ReadError Manifest) := do
  let path := Path.join [directory, fileName]
  match ← FileSystem.readFile path with
  | .error failure =>
    pure (.error (if failure.isNotFound then .notFound directory else .unreadable failure))
  | .ok bytes => pure (parse path bytes)

/-- The declared names, sorted by name, each read from its value. -/
def declarations (manifest : Manifest) : Except DeclarationError (List Declaration) :=
  let sorted := manifest.addresses.mergeSort fun a b => decide (a.1 ≤ b.1)
  sorted.mapM fun (name, value) => Declaration.parse name value

/-- A `key: value` line of a top-level string setting. -/
def settingText (key value : String) : String :=
  let shown := Yaml.scalarText value 0 false
  key ++ ": " ++ (if shown.startsWith "|" then shown else shown ++ "\n")

/-- The YAML text of a manifest. -/
def text (manifest : Manifest) : String :=
  settingText "name" manifest.name ++
    (if manifest.version.isEmpty then "" else settingText "version" manifest.version) ++
    "addresses:" ++ Yaml.mappingText manifest.addresses 4

/-- Writes the manifest into a directory, making the directory first. -/
def save {m : Type → Type} [Monad m] [FileSystem m] (manifest : Manifest) (directory : String) :
    m (Except FileError Unit) := do
  if let .error failure ← FileSystem.makeDirectories directory then return .error failure
  FileSystem.writeFile (Path.join [directory, fileName]) manifest.text.toUTF8.toList

end Manifest

end Testbench
