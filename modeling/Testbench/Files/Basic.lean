/-!
File systems as the program sees them.

A file system holds files and directories under slash-separated paths. Every operation either
succeeds or fails with the system's reason and the operation and path it names, and the text of
that failure is `<operation> <path>: <reason>`. `FileSystem m` gives the operations in a monad
`m`, so the same commands run on an in-memory tree and on a real disk.
-/

namespace Testbench

/-- Why a file operation failed. -/
inductive Errno where
  /-- A component of the path does not exist. -/
  | noEntry
  /-- A component used as a directory is a file. -/
  | notDirectory
  /-- The file is a directory. -/
  | isDirectory
  /-- The file exists already. -/
  | alreadyExists
  /-- A directory to replace has entries. -/
  | notEmpty
  /-- A directory cannot move below itself. -/
  | invalidArgument
  /-- Any other reason, by its text. -/
  | other (text : String)
  deriving DecidableEq, Repr

/-- The system's text for a reason. -/
def Errno.text : Errno → String
  | .noEntry => "no such file or directory"
  | .notDirectory => "not a directory"
  | .isDirectory => "is a directory"
  | .alreadyExists => "file exists"
  | .notEmpty => "directory not empty"
  | .invalidArgument => "invalid argument"
  | .other text => text

/-- A failed file operation: the operation, the path or paths it names, and the reason. -/
structure FileError where
  /-- The operation, such as `open` or `mkdir`. -/
  operation : String
  /-- The path as given; for a rename, both paths with a space between. -/
  path : String
  /-- The reason. -/
  cause : Errno
  deriving DecidableEq, Repr

/-- The text of a failed operation. -/
def FileError.message (error : FileError) : String :=
  error.operation ++ " " ++ error.path ++ ": " ++ error.cause.text

/-- Did the operation fail because a file does not exist? -/
def FileError.isNotFound (error : FileError) : Bool := error.cause == .noEntry

/-- What a path names. -/
inductive FileKind where
  /-- A file of bytes. -/
  | file
  | directory
  deriving DecidableEq, Repr

/-- The operations on a file system in a monad. -/
class FileSystem (m : Type → Type) where
  /-- What the path names. -/
  stat : String → m (Except FileError FileKind)
  /-- The bytes of a file. -/
  readFile : String → m (Except FileError (List UInt8))
  /-- Creates or truncates a file and writes bytes to it. -/
  writeFile : String → List UInt8 → m (Except FileError Unit)
  /-- Creates a file that does not exist, and keeps one that does. -/
  touch : String → m (Except FileError Unit)
  /-- Creates a directory whose parent exists. -/
  makeDirectory : String → m (Except FileError Unit)
  /-- Moves a file or directory to another path, replacing a file there. -/
  rename : String → String → m (Except FileError Unit)
  /-- The entries of a directory, sorted by name. -/
  readDirectory : String → m (Except FileError (List (String × FileKind)))

end Testbench
