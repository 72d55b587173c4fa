import Testbench.Module.Basic
import Testbench.Address.Named
import Testbench.Code.Instruction
/-!
Linking: binding a module's names to addresses and verifying its code.

Linking looks up the module's address name, its address references, the address names of its
imports and the signers of its functions in a resolution. It refuses a function name used twice,
a test whose parameters are not its signers, a frame of more than 255 slots, code that does not
decode into instructions with jumps onto instruction starts, and an operand that indexes past the
module's functions, imports, address references, statics or the function's slots.
-/

namespace Testbench

/-- An import whose module is identified by address. -/
structure ResolvedImport where
  module : ModuleId
  function : Name
  deriving DecidableEq, Inhabited

/-- A function with its signers bound and its code verified. -/
structure LinkedFunction where
  /-- The function as written. -/
  function : Function
  /-- The addresses of its signers, in order. -/
  signerAddresses : List Address
  /-- The offsets of its instructions, ascending. -/
  offsets : List Nat
  deriving Inhabited

/-- A module with all names bound to addresses and all code verified. -/
structure LinkedModule where
  /-- The module as written. -/
  module : Module
  /-- Its address and name. -/
  id : ModuleId
  /-- The addresses of its address references, by index. -/
  addresses : List Address
  /-- Its imports with their modules identified, by index. -/
  resolvedImports : List ResolvedImport
  /-- Its functions, in order. -/
  functions : List LinkedFunction
  deriving Inhabited

namespace LinkedModule

/-- The function of a name; names are unique in a linked module. -/
def findFunction? (module : LinkedModule) (name : Name) : Option LinkedFunction :=
  module.functions.find? (·.function.name == name)

/-- The number of static slots. -/
def statics (module : LinkedModule) : Nat := module.module.statics

end LinkedModule

/-- What was checked when a function's code failed verification. -/
inductive VerifyError where
  /-- More than 255 parameters and locals. -/
  | tooManyLocals (count : Nat)
  /-- The code does not decode. -/
  | decode (failure : Code.DecodeError)
  /-- An operand indexes past its table. -/
  | indexOutOfRange (opcode : Opcode) (offset index limit : Nat)
  deriving DecidableEq

/-- The text of a failure. -/
def VerifyError.message : VerifyError → String
  | .tooManyLocals count => s!"too many locals: {count}"
  | .decode failure => failure.message
  | .indexOutOfRange opcode offset index limit =>
    s!"{opcode.name} at {offset}: index {index} is out of range [0, {limit})"

/-- Where a name without an address was met. -/
inductive NameUse where
  /-- The module's own address name or an address reference. -/
  | module
  /-- The address name of an import. -/
  | import (entry : Import)
  /-- A signer of a function. -/
  | signer (function : Name)
  deriving DecidableEq

/-- Why a module does not link. -/
inductive LinkError where
  /-- A name the resolution does not know. -/
  | unresolved (module : Name) (use : NameUse) (name : Name)
  /-- Two functions of one name. -/
  | duplicateFunction (module : ModuleId) (function : Name)
  /-- A test whose parameter count is not its signer count. -/
  | signerCount (module : ModuleId) (function : Name) (params signers : Nat)
  /-- A function whose code fails verification. -/
  | verify (module : ModuleId) (function : Name) (failure : VerifyError)
  deriving DecidableEq

/-- The text of a failure. -/
def LinkError.message : LinkError → String
  | .unresolved module use name =>
    let place := match use with
      | .module => ""
      | .import entry => "import " ++ entry.text ++ ": "
      | .signer function => "function " ++ function.text ++ ": "
    "module " ++ module.text ++ ": " ++ place ++ "unresolved named address: " ++ name.text
  | .duplicateFunction module function =>
    "invalid module: " ++ module.text ++ ": duplicate function " ++ function.text
  | .signerCount module function params signers =>
    "invalid module: " ++ module.text ++ "::" ++ function.text ++ s!": {params} parameters, {signers} signers"
  | .verify module function failure =>
    "invalid module: " ++ module.text ++ "::" ++ function.text ++ ": " ++ failure.message

/-- The causes a failure is classified by. -/
def LinkError.kinds : LinkError → List ErrorKind
  | .unresolved .. => [.unresolvedAddress]
  | _ => [.invalidModule]

namespace Module

/-- The table size an operand of the opcode indexes into, if it indexes one. -/
def operandLimit (module : Module) (function : Function) : Opcode → Option Nat
  | .call => some module.functions.length
  | .callImport => some module.imports.length
  | .pushAddress => some module.addressRefs.length
  | .loadStatic | .storeStatic => some module.statics
  | .loadLocal | .storeLocal => some (function.params + function.locals)
  | _ => none

/-- Checks one instruction's operand against its table. -/
def checkOperand (module : Module) (function : Function) (offset : Nat) :
    Except VerifyError Unit :=
  match Code.decode function.code offset with
  | .error failure => .error (.decode failure)
  | .ok decoded =>
    match module.operandLimit function decoded.opcode with
    | none => .ok ()
    | some limit =>
      if decoded.argument < limit then .ok ()
      else .error (.indexOutOfRange decoded.opcode offset decoded.argument limit)

/-- Verifies a function's frame and code; gives its instruction offsets. -/
def verify (module : Module) (function : Function) : Except VerifyError (List Nat) := do
  if function.params + function.locals > maxSlotCount then
    throw (.tooManyLocals (function.params + function.locals))
  let offsets ← (Code.offsets function.code).mapError .decode
  offsets.forM (module.checkOperand function)
  pure offsets
where
  /-- The most slots of a frame. -/
  maxSlotCount : Nat := 255

/-- Looks a name up, failing as an unresolved name of this module. -/
def lookupName (module : Module) (resolution : Resolution) (use : NameUse) (name : Name) :
    Except LinkError Address :=
  match resolution.lookupName name with
  | some address => .ok address
  | none => .error (.unresolved module.name use name)

/-- Links the functions in order, refusing a name already seen. -/
def linkFunctions (module : Module) (resolution : Resolution) (id : ModuleId) :
    List Name → List Function → Except LinkError (List LinkedFunction)
  | _, [] => .ok []
  | seen, function :: rest => do
    if seen.contains function.name then throw (.duplicateFunction id function.name)
    if function.isTest && function.params != function.signers.length then
      throw (.signerCount id function.name function.params function.signers.length)
    let signers ← function.signers.mapM (module.lookupName resolution (.signer function.name))
    let offsets ← (module.verify function).mapError (.verify id function.name)
    let linked ← module.linkFunctions resolution id (function.name :: seen) rest
    pure (⟨function, signers, offsets⟩ :: linked)

/-- Links a module with a resolution. -/
def link (module : Module) (resolution : Resolution) : Except LinkError LinkedModule := do
  let address ← module.lookupName resolution .module module.addressName
  let id : ModuleId := ⟨address, module.name⟩
  let addresses ← module.addressRefs.mapM (module.lookupName resolution .module)
  let imports ← module.imports.mapM fun entry => do
    let target ← module.lookupName resolution (.import entry) entry.addressName
    pure (⟨⟨target, entry.module⟩, entry.function⟩ : ResolvedImport)
  let functions ← module.linkFunctions resolution id [] module.functions
  pure ⟨module, id, addresses, imports, functions⟩

end Module

end Testbench
