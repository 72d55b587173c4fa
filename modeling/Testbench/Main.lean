import Testbench.Command.Program
/-!
The `neounit` command line on the disk of the machine it runs on.

The file operations of the commands are carried out by the operating system and its failures
reported with the system's reasons. Listing a directory is not offered by the runtime without
its path library, so a package's modules directory reads as missing.
-/

namespace Testbench.Disk

/-- The reason of a failed system call. -/
def errnoOf (error : IO.Error) : Errno :=
  match error with
  | .noFileOrDirectory .. => .noEntry
  | .alreadyExists .. => .alreadyExists
  | .unsatisfiedConstraints .. => .notEmpty
  | .inappropriateType _ code _ =>
    if code == 21 then .isDirectory else if code == 20 then .notDirectory else .other (toString error)
  | .invalidArgument .. => .invalidArgument
  | other => .other (toString other)

/-- Runs a system call, naming the operation and path if it fails. -/
def attempt {α : Type} (operation path : String) (call : IO α) : IO (Except FileError α) := do
  try pure (.ok (← call))
  catch error => pure (.error ⟨operation, path, errnoOf error⟩)

/-- What a path names: a file that opens and reads, or a directory that opens but cannot be
read. -/
def stat (path : String) : IO (Except FileError FileKind) := do
  match ← attempt "stat" path (IO.FS.Handle.mk path .read) with
  | .error failure => pure (.error failure)
  | .ok handle =>
    match ← attempt "stat" path (handle.read 1) with
    | .error failure => pure (.ok (if failure.cause == .isDirectory then .directory else .file))
    | .ok _ => pure (.ok .file)

/-- The bytes of a file. -/
def readFile (path : String) : IO (Except FileError (List UInt8)) := do
  match ← attempt "open" path (IO.FS.Handle.mk path .read) with
  | .error failure => pure (.error failure)
  | .ok handle =>
    match ← attempt "read" path handle.readBinToEnd with
    | .error failure => pure (.error failure)
    | .ok bytes => pure (.ok bytes.toList)

/-- The disk is a file system. -/
instance : FileSystem IO where
  stat := stat
  readFile := readFile
  writeFile path bytes := attempt "open" path (IO.FS.writeBinFile path (ByteArray.mk bytes.toArray))
  touch path := attempt "open" path (discard (IO.FS.Handle.mk path .append))
  makeDirectory path := attempt "mkdir" path (IO.FS.createDir path)
  rename source target := attempt "rename" (source ++ " " ++ target) (IO.FS.rename source target)
  readDirectory path := pure (.error ⟨"open", path, .noEntry⟩)

end Testbench.Disk

/-- Runs the command line and exits with the code the command asked for. -/
def main (arguments : List String) : IO UInt32 := do
  let (_, console) ← (Testbench.Program.run arguments : Testbench.CommandM IO _).run {}
  IO.print console.out
  IO.eprint console.err
  pure (console.exitCode.getD 0).toUInt32
