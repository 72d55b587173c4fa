import Testbench.Module.Link
/-!
Packages: linked modules that call each other.

A package holds linked modules ordered by id. Building one refuses a module that is not linked,
two modules of one id, and an import whose module or function is not in the package.
-/

namespace Testbench

/-- A set of linked modules sharing one resolution, ordered by id. -/
structure Package where
  /-- The package name. -/
  name : String
  /-- The resolution its modules were linked with. -/
  resolution : Resolution
  /-- The modules, ordered by id. -/
  modules : List LinkedModule
  deriving Inhabited

/-- Why modules do not make a package. -/
inductive PackageError where
  /-- A module that was not linked, by address name and name. -/
  | notLinked (addressName name : Name)
  /-- Two modules of one id. -/
  | duplicateModule (id : ModuleId)
  /-- An import of a module that is not in the package. -/
  | missingModule (importer target : ModuleId)
  /-- An import of a function its module does not have. -/
  | missingFunction (importer target : ModuleId) (function : Name)
  deriving DecidableEq

/-- The text of a failure. -/
def PackageError.message : PackageError → String
  | .notLinked addressName name => "module " ++ addressName.text ++ "::" ++ name.text ++ " is not linked"
  | .duplicateModule id => "invalid module: duplicate module " ++ id.text
  | .missingModule importer target => "module not found: " ++ importer.text ++ " imports " ++ target.text
  | .missingFunction importer target function =>
    "invalid module: " ++ importer.text ++ " imports " ++ target.text ++ "::" ++ function.text ++
      " which doesn't exist"

/-- The causes a failure is classified by. -/
def PackageError.kinds : PackageError → List ErrorKind
  | .notLinked .. => []
  | .duplicateModule _ => [.invalidModule]
  | .missingModule .. => [.moduleNotFound]
  | .missingFunction .. => [.invalidModule]

namespace Package

/-- The module of an id. -/
def module? (package : Package) (id : ModuleId) : Option LinkedModule :=
  package.modules.find? (·.id == id)

/-- Checks the modules in order: each linked, no id twice. -/
def collect : List ModuleId → List (Module ⊕ LinkedModule) → Except PackageError (List LinkedModule)
  | _, [] => .ok []
  | _, .inl module :: _ => .error (.notLinked module.addressName module.name)
  | seen, .inr module :: rest =>
    if seen.contains module.id then .error (.duplicateModule module.id)
    else do
      let others ← collect (module.id :: seen) rest
      pure (module :: others)

/-- Checks that every import of a module names a module and function of the package. -/
def checkImports (modules : List LinkedModule) (module : LinkedModule) : Except PackageError Unit :=
  module.resolvedImports.forM fun entry =>
    match modules.find? (·.id == entry.module) with
    | none => .error (.missingModule module.id entry.module)
    | some target =>
      if (target.findFunction? entry.function).isSome then .ok ()
      else .error (.missingFunction module.id entry.module entry.function)

/-- Builds a package from modules, each of which must be linked. -/
def build (name : String) (resolution : Resolution) (candidates : List (Module ⊕ LinkedModule)) :
    Except PackageError Package := do
  let modules ← collect [] candidates
  let sorted := modules.mergeSort fun a b => ModuleId.compare a.id b.id != .gt
  sorted.forM (checkImports sorted)
  pure ⟨name, resolution, sorted⟩

end Package

end Testbench
