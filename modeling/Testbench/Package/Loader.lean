import Testbench.Package.Manifest
import Testbench.Module.Binary
import Testbench.Module.Package
/-!
Packages on a file system.

A package directory holds its manifest and, under `build/modules`, one `.nvm` file per compiled
module. Loading reads the manifest, then every module file in byte order of path, decodes and
links each with the resolution, and builds the package; a missing modules directory means a
package without modules. Saving a module writes its file there.
-/

namespace Testbench

namespace Loader

/-- Where module files lie in a package directory. -/
def modulesDirectory : String := "build/modules"

/-- The extension of module files. -/
def moduleExtension : String := ".nvm"

/-- Why a module file cannot be used. -/
inductive ModuleFileError where
  /-- The file cannot be read. -/
  | unreadable (failure : FileError)
  /-- The bytes are no module. -/
  | undecodable (failure : Module.DecodeError)
  /-- The module does not link. -/
  | unlinkable (failure : LinkError)

/-- The text of a failure. -/
def ModuleFileError.message : ModuleFileError → String
  | .unreadable failure => failure.message
  | .undecodable failure => failure.message
  | .unlinkable failure => failure.message

/-- The causes a failure is classified by. -/
def ModuleFileError.kinds : ModuleFileError → List ErrorKind
  | .unreadable _ => []
  | .undecodable failure => failure.kinds
  | .unlinkable failure => failure.kinds

/-- Why a package cannot be loaded. -/
inductive LoadError where
  /-- The manifest cannot be read. -/
  | manifest (failure : Manifest.ReadError)
  /-- The modules directory cannot be listed. -/
  | listing (failure : FileError)
  /-- A module file cannot be used. -/
  | moduleFile (path : String) (failure : ModuleFileError)
  /-- The modules do not form a package. -/
  | package (failure : PackageError)

/-- The text of a failure. -/
def LoadError.message : LoadError → String
  | .manifest failure => failure.message
  | .listing failure => "can't read modules: " ++ failure.message
  | .moduleFile path failure => path ++ ": " ++ failure.message
  | .package failure => failure.message

/-- The causes a failure is classified by. -/
def LoadError.kinds : LoadError → List ErrorKind
  | .manifest failure => failure.kinds
  | .listing _ => []
  | .moduleFile _ failure => failure.kinds
  | .package failure => failure.kinds

/-- Why the declared names of a package cannot be read. -/
inductive DeclarationsError where
  /-- The manifest cannot be read. -/
  | manifest (failure : Manifest.ReadError)
  /-- A declared value is no address. -/
  | declaration (failure : DeclarationError)

/-- The text of a failure. -/
def DeclarationsError.message : DeclarationsError → String
  | .manifest failure => failure.message
  | .declaration failure => failure.message

/-- The causes a failure is classified by. -/
def DeclarationsError.kinds : DeclarationsError → List ErrorKind
  | .manifest failure => failure.kinds
  | .declaration failure => failure.kinds

variable {m : Type → Type} [Monad m] [FileSystem m]

/-- The names a package declares, sorted by name. -/
def declarations (directory : String) : m (Except DeclarationsError (List Declaration)) := do
  match ← Manifest.read directory with
  | .error failure => pure (.error (.manifest failure))
  | .ok manifest => pure (manifest.declarations.mapError .declaration)

/-- Is a directory entry a module file? -/
def isModuleFile (entry : String × FileKind) : Bool :=
  entry.2 == .file && entry.1.endsWith moduleExtension

/-- The paths of the module files of a package, sorted; none when there is no modules
directory. -/
def moduleFiles (directory : String) : m (Except LoadError (List String)) := do
  let folder := Path.join [directory, modulesDirectory]
  match ← FileSystem.readDirectory folder with
  | .error failure => pure (if failure.isNotFound then .ok [] else .error (.listing failure))
  | .ok entries =>
    let paths := (entries.filter isModuleFile).map fun entry => Path.join [folder, entry.1]
    pure (.ok (paths.mergeSort fun a b => decide (a ≤ b)))

/-- Reads, decodes and links one module file. -/
def loadModule (resolution : Resolution) (path : String) : m (Except LoadError LinkedModule) := do
  match ← FileSystem.readFile path with
  | .error failure => pure (.error (.moduleFile path (.unreadable failure)))
  | .ok bytes =>
    pure <| match Module.decode bytes with
      | .error failure => .error (.moduleFile path (.undecodable failure))
      | .ok module =>
        (module.link resolution).mapError fun failure => .moduleFile path (.unlinkable failure)

/-- Loads every module of a package in a directory and builds the package. -/
def compile (directory : String) (resolution : Resolution) : m (Except LoadError Package) := do
  match ← Manifest.read directory with
  | .error failure => pure (.error (.manifest failure))
  | .ok manifest =>
    match ← moduleFiles directory with
    | .error failure => pure (.error failure)
    | .ok paths =>
      let mut modules : Array LinkedModule := #[]
      for path in paths do
        match ← loadModule resolution path with
        | .error failure => return .error failure
        | .ok module => modules := modules.push module
      pure ((Package.build manifest.name resolution (modules.toList.map .inr)).mapError .package)

/-- Writes a module's file into a package directory. -/
def saveModule (directory : String) (module : Module) : m (Except FileError Unit) := do
  let folder := Path.join [directory, modulesDirectory]
  if let .error failure ← FileSystem.makeDirectories folder then return .error failure
  FileSystem.writeFile (Path.join [folder, module.name.text ++ moduleExtension]) (Module.encode module)

end Loader

end Testbench
