import Testbench.Coverage.File
import Testbench.Files.Operations
import Testbench.Files.Path
import Testbench.Module.Package
/-!
Coverage files on a file system.

Loading tells a missing file from one that cannot be read or decoded. Saving makes the file's
directory, writes the bytes next to the file under the name with `.tmp` added, and moves them
over the file, so that a reader never sees half a file.
-/

namespace Testbench

namespace CoverageFile

/-- The file name used when none is given. -/
def defaultName : String := ".coverage_map.nvcov"

/-- Why a coverage file cannot be loaded. -/
inductive LoadError where
  /-- There is no file at the path. -/
  | notFound (path : String)
  /-- The file cannot be read. -/
  | unreadable (failure : FileError)
  /-- The bytes are no coverage file. -/
  | corrupt (path : String) (failure : CoverageFileError)

/-- The text of a failure. -/
def LoadError.message : LoadError → String
  | .notFound path => "coverage file not found: file does not exist: " ++ path
  | .unreadable failure => failure.message
  | .corrupt path failure => path ++ ": " ++ failure.message

/-- The causes a failure is classified by. -/
def LoadError.kinds : LoadError → List ErrorKind
  | .notFound _ => [.notFound]
  | .unreadable _ => []
  | .corrupt _ failure => failure.kinds

/-- Is the failure a missing file? -/
def LoadError.isNotFound : LoadError → Bool
  | .notFound _ => true
  | _ => false

variable {m : Type → Type} [Monad m] [FileSystem m]

/-- Reads and decodes the coverage file at a path. -/
def load (path : String) : m (Except LoadError CoverageMap) := do
  match ← FileSystem.readFile path with
  | .error failure => pure (.error (if failure.isNotFound then .notFound path else .unreadable failure))
  | .ok bytes => pure ((decode bytes).mapError (.corrupt path))

/-- Writes a map to a path through a file beside it. -/
def save (path : String) (map : CoverageMap) (compress : Bool) : m (Except FileError Unit) := do
  let folder := Path.dir path
  if !folder.isEmpty then
    if let .error failure ← FileSystem.makeDirectories folder then return .error failure
  let temporary := path ++ ".tmp"
  if let .error failure ← FileSystem.writeFile temporary (encode map compress) then
    return .error failure
  FileSystem.rename temporary path

end CoverageFile

/-- Adds every module of a package, keeping what ran in functions that did not change. -/
def CoverageMap.addPackage (map : CoverageMap) (package : Package) : CoverageMap :=
  package.modules.foldl CoverageMap.addModule map

end Testbench
