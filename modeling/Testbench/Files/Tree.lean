import Testbench.Files.Basic
import Testbench.Files.Operations
import Testbench.Files.Path
/-!
A file system held in memory.

A `FileTree` maps paths, as lists of components from the root, to files and directories; the
root is a directory that is always there. Paths are looked up as the system does: every
component before the last must be a directory (else `not a directory`, or `no such file or
directory` when it is missing), `.` stays and `..` goes up, and a path that ends in a slash
must name a directory. Relative paths start at the root too.
-/

namespace Testbench

/-- What a path of a tree holds. -/
inductive FileNode where
  /-- A file and its bytes. -/
  | file (bytes : List UInt8)
  | directory
  deriving DecidableEq, Repr

/-- Files and directories by their components from the root; every entry's parent is a
directory of the tree or the root. -/
structure FileTree where
  /-- The entries, in the order they were made. -/
  entries : List (List String × FileNode) := []
  deriving Repr

namespace FileTree

/-- What a list of components holds; the root is a directory. -/
def get? (tree : FileTree) (components : List String) : Option FileNode :=
  if components.isEmpty then some .directory
  else (tree.entries.find? (·.1 == components)).map (·.2)

/-- The tree with a node at the components, in place of what was there. -/
def set (tree : FileTree) (components : List String) (node : FileNode) : FileTree :=
  if tree.entries.any (·.1 == components) then
    { entries := tree.entries.map fun entry => if entry.1 == components then (components, node) else entry }
  else { entries := tree.entries ++ [(components, node)] }

/-- The tree without the entry at the components and everything below it. -/
def removeBelow (tree : FileTree) (components : List String) : FileTree :=
  { entries := tree.entries.filter fun entry => !components.isPrefixOf entry.1 }

/-- The names and kinds of the entries right below the components, sorted by name. -/
def children (tree : FileTree) (components : List String) : List (String × FileKind) :=
  let direct := tree.entries.filterMap fun (path, node) =>
    if path.length == components.length + 1 && components.isPrefixOf path then
      some (path.getLastD "", match node with | .file _ => FileKind.file | .directory => .directory)
    else none
  direct.mergeSort fun left right => left.1 ≤ right.1

/-- A path looked up: its components from the root, and whether it ended in a slash. -/
structure Location where
  /-- The components from the root. -/
  components : List String
  /-- Did the path end in a slash? -/
  trailingSlash : Bool

/-- Walks the pieces of a path from a directory; every piece but the last must lead to a
directory. -/
def walk (tree : FileTree) (current : List String) : List String → Except Errno (List String)
  | [] => .ok current
  | [last] =>
    if last == "." then .ok current
    else if last == ".." then .ok current.dropLast
    else .ok (current ++ [last])
  | piece :: rest =>
    if piece == "." then walk tree current rest
    else if piece == ".." then walk tree current.dropLast rest
    else
      let next := current ++ [piece]
      match tree.get? next with
      | none => .error .noEntry
      | some (.file _) => .error .notDirectory
      | some .directory => walk tree next rest

/-- Looks a path up. The empty path names nothing. -/
def locate (tree : FileTree) (path : String) : Except Errno Location := do
  if path.isEmpty then throw .noEntry
  let pieces := (Path.pieces path).filter (!·.isEmpty)
  let components ← tree.walk [] pieces
  pure ⟨components, path.endsWith "/" && !pieces.isEmpty⟩

/-- What a path holds, or why it cannot be reached. -/
def find (tree : FileTree) (path : String) : Except Errno (Location × Option FileNode) := do
  let location ← tree.locate path
  match tree.get? location.components with
  | some (.file bytes) =>
    if location.trailingSlash then throw .notDirectory else pure (location, some (.file bytes))
  | other => pure (location, other)

/-- Fails with an operation's name and path. -/
def failWith {α : Type} (operation path : String) (cause : Errno) : Except FileError α :=
  .error ⟨operation, path, cause⟩

/-- What a path names. -/
def stat (tree : FileTree) (path : String) : Except FileError FileKind :=
  match tree.find path with
  | .error cause => failWith "stat" path cause
  | .ok (_, none) => failWith "stat" path .noEntry
  | .ok (_, some (.file _)) => .ok .file
  | .ok (_, some .directory) => .ok .directory

/-- The bytes of a file; a directory opens but cannot be read. -/
def readFile (tree : FileTree) (path : String) : Except FileError (List UInt8) :=
  match tree.find path with
  | .error cause => failWith "open" path cause
  | .ok (_, none) => failWith "open" path .noEntry
  | .ok (_, some (.file bytes)) => .ok bytes
  | .ok (_, some .directory) => failWith "read" path .isDirectory

/-- Opens a path for writing, creating a missing file: the components of the file and its
bytes so far. -/
def openForWriting (tree : FileTree) (path : String) : Except FileError (List String × List UInt8) :=
  match tree.find path with
  | .error cause => failWith "open" path cause
  | .ok (location, none) =>
    if location.trailingSlash || location.components.isEmpty then failWith "open" path .isDirectory
    else .ok (location.components, [])
  | .ok (location, some (.file bytes)) => .ok (location.components, bytes)
  | .ok (_, some .directory) => failWith "open" path .isDirectory

/-- Creates or truncates a file and writes bytes to it. -/
def writeFile (tree : FileTree) (path : String) (bytes : List UInt8) : Except FileError FileTree := do
  let (components, _) ← tree.openForWriting path
  pure (tree.set components (.file bytes))

/-- Creates a missing file and keeps an existing one. -/
def touch (tree : FileTree) (path : String) : Except FileError FileTree := do
  let (components, bytes) ← tree.openForWriting path
  pure (tree.set components (.file bytes))

/-- Creates a directory whose parent exists. -/
def makeDirectory (tree : FileTree) (path : String) : Except FileError FileTree :=
  match tree.find path with
  | .error cause => failWith "mkdir" path cause
  | .ok (location, none) => .ok (tree.set location.components .directory)
  | .ok (_, some _) => failWith "mkdir" path .alreadyExists

/-- The entries of a directory, sorted by name. -/
def readDirectory (tree : FileTree) (path : String) : Except FileError (List (String × FileKind)) :=
  match tree.find path with
  | .error cause => failWith "open" path cause
  | .ok (_, none) => failWith "open" path .noEntry
  | .ok (_, some (.file _)) => failWith "readdirent" path .notDirectory
  | .ok (location, some .directory) => .ok (tree.children location.components)

/-- The tree with every entry at or below `source` moved below `target`. -/
def moveBelow (tree : FileTree) (source target : List String) : FileTree :=
  { entries := tree.entries.map fun (path, node) =>
      if source.isPrefixOf path then (target ++ path.drop source.length, node) else (path, node) }

/-- Moves a file or directory. A file replaces a file; a directory replaces an empty
directory and cannot move below itself. -/
def rename (tree : FileTree) (source target : String) : Except FileError FileTree := do
  let shown := source ++ " " ++ target
  let (origin, node) ← match tree.find source with
    | .error cause => failWith "rename" shown cause
    | .ok (_, none) => failWith "rename" shown .noEntry
    | .ok (location, some node) => pure (location.components, node)
  let (destination, existing) ← match tree.find target with
    | .error cause => failWith "rename" shown cause
    | .ok (location, existing) => pure (location.components, existing)
  if origin == destination then return tree
  if origin.isEmpty || destination.isEmpty then failWith "rename" shown .invalidArgument
  else
    match node, existing with
    | .file _, some .directory => failWith "rename" shown .isDirectory
    | .directory, some (.file _) => failWith "rename" shown .notDirectory
    | .directory, some .directory =>
      if origin.isPrefixOf destination then failWith "rename" shown .invalidArgument
      else if !(tree.children destination).isEmpty then failWith "rename" shown .notEmpty
      else pure ((tree.removeBelow destination).moveBelow origin destination)
    | .directory, none =>
      if origin.isPrefixOf destination then failWith "rename" shown .invalidArgument
      else pure (tree.moveBelow origin destination)
    | .file bytes, _ => pure ((tree.removeBelow origin).set destination (.file bytes))

end FileTree

/-- Runs an operation of a tree in the state of a tree. -/
def FileTree.change {α : Type} (operation : FileTree → Except FileError (FileTree × α)) :
    StateM FileTree (Except FileError α) :=
  modifyGet fun tree =>
    match operation tree with
    | .ok (next, value) => (.ok value, next)
    | .error failure => (.error failure, tree)

/-- A tree in a state monad is a file system. -/
instance : FileSystem (StateM FileTree) where
  stat path := do pure ((← get).stat path)
  readFile path := do pure ((← get).readFile path)
  writeFile path bytes := FileTree.change fun tree => (tree.writeFile path bytes).map (·, ())
  touch path := FileTree.change fun tree => (tree.touch path).map (·, ())
  makeDirectory path := FileTree.change fun tree => (tree.makeDirectory path).map (·, ())
  rename source target := FileTree.change fun tree => (tree.rename source target).map (·, ())
  readDirectory path := do pure ((← get).readDirectory path)

namespace FileTree

/-- The tree with a file written at a path, its missing directories made first. -/
def withFile (tree : FileTree) (path : String) (bytes : List UInt8) : FileTree :=
  let write : StateM FileTree Unit := do
    discard (FileSystem.makeDirectories (Path.dir path))
    discard (FileSystem.writeFile path bytes)
  (write.run tree).2

/-- The tree with a directory and its missing parents made. -/
def withDirectory (tree : FileTree) (path : String) : FileTree :=
  ((FileSystem.makeDirectories path : StateM FileTree _).run tree).2

/-- The bytes of the file at a path, if there is one. -/
def fileAt? (tree : FileTree) (path : String) : Option (List UInt8) := (tree.readFile path).toOption

/-- Does a path name something in the tree? -/
def holds (tree : FileTree) (path : String) : Bool := (tree.stat path).toOption.isSome

/-- The files of the tree, by their components joined with slashes, in the order made. -/
def files (tree : FileTree) : List (String × List UInt8) :=
  tree.entries.filterMap fun (components, node) =>
    match node with
    | .file bytes => some ("/".intercalate components, bytes)
    | .directory => none

end FileTree

end Testbench
