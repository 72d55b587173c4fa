import Testbench.Files.Basic
/-!
Operations built from those of every file system.

`makeDirectories` creates a directory with its missing parents: a path that is already a
directory is done, one that is a file fails with `not a directory`, and otherwise the parent
(the text before the last component) is made first and then the path itself, which may have
appeared meanwhile. `pathExists` tells a missing path from one that cannot be looked at.
-/

namespace Testbench.FileSystem

variable {m : Type → Type} [Monad m] [FileSystem m]

/-- The text before the last component of a path and the slashes around it. -/
def parentText (path : String) : String :=
  let trimmed := (path.toList.reverse.dropWhile (· == '/'))
  let upToSlash := (trimmed.dropWhile (· != '/')).reverse
  String.ofList upToSlash.dropLast

/-- Does the path have a parent to make first? Only when a component stands before its last
one, and not for the root alone. -/
def hasParent (path : String) : Bool :=
  let trimmed := (path.toList.reverse.dropWhile (· == '/'))
  (trimmed.dropWhile (· != '/')).length > 1

/-- Creates a directory and its missing parents, for paths of fewer than `fuel` characters. -/
def makeDirectoriesWithin : Nat → String → m (Except FileError Unit)
  | 0, _ => pure (.ok ())
  | fuel + 1, path => do
    match ← FileSystem.stat path with
    | .ok .directory => return .ok ()
    | .ok .file => return .error ⟨"mkdir", path, .notDirectory⟩
    | .error _ =>
      if hasParent path then
        if let .error failure ← makeDirectoriesWithin fuel (parentText path) then
          return .error failure
      match ← FileSystem.makeDirectory path with
      | .ok () => return .ok ()
      | .error failure =>
        match ← FileSystem.stat path with
        | .ok .directory => return .ok ()
        | _ => return .error failure

/-- Creates a directory and its missing parents. -/
def makeDirectories (path : String) : m (Except FileError Unit) :=
  makeDirectoriesWithin (path.length + 1) path

/-- Does the path name something? A failure other than a missing component is an error. -/
def pathExists (path : String) : m (Except FileError Bool) := do
  match ← FileSystem.stat path with
  | .ok _ => pure (.ok true)
  | .error failure => pure (if failure.isNotFound then .ok false else .error failure)

end Testbench.FileSystem

namespace Testbench

/-- A file system stays one under a state of any other kind. -/
instance {σ : Type} {m : Type → Type} [Monad m] [FileSystem m] : FileSystem (StateT σ m) where
  stat path := StateT.lift (FileSystem.stat path)
  readFile path := StateT.lift (FileSystem.readFile path)
  writeFile path bytes := StateT.lift (FileSystem.writeFile path bytes)
  touch path := StateT.lift (FileSystem.touch path)
  makeDirectory path := StateT.lift (FileSystem.makeDirectory path)
  rename source target := StateT.lift (FileSystem.rename source target)
  readDirectory path := StateT.lift (FileSystem.readDirectory path)

end Testbench
