import Testbench.Machine.Stack
import Testbench.Module.Basic
import Testbench.Code.Instruction
/-!
Why an instruction fails, and the failures of the machine.

An instruction fails on a stack that is too small or full, an item of the wrong kind, arithmetic
that leaves the 256-bit range, an exhausted budget, an unknown or failing service call, a return
with the wrong number of values, too many nested calls, or code and tables that do not fit
together (which linking rules out). An explicit abort or failed assertion is not such a failure
but an abort with a code. The machine reports either, with the place where it happened.
-/

namespace Testbench

/-- Arithmetic that leaves the range of unsigned 256-bit integers. -/
inductive ArithmeticError where
  | overflow
  | underflow
  | divisionByZero
  /-- An abort code of 64 bits or more. -/
  | wideAbortCode (code : Nat)
  deriving DecidableEq, Repr

/-- The text after `arithmetic error: `. -/
def ArithmeticError.detail : ArithmeticError → String
  | .overflow => "overflow"
  | .underflow => "underflow"
  | .divisionByZero => "division by zero"
  | .wideAbortCode code => s!"abort code {code} doesn't fit into 64 bits"

/-- Why a service call failed. -/
inductive ServiceError where
  /-- No service has the id. -/
  | notFound
  /-- The price exceeds the budget. -/
  | gasLimit
  deriving DecidableEq, Repr

/-- Why an instruction failed. -/
inductive Fault where
  | stack (failure : StackError)
  | conversion (failure : ConversionError)
  | arithmetic (failure : ArithmeticError)
  /-- The instruction's price exceeds the budget. -/
  | gasLimit
  /-- A service call failed. -/
  | service (id : Nat) (failure : ServiceError)
  /-- More than 1024 nested calls. -/
  | callDepth
  /-- A return with another number of values than the function declares. -/
  | returnCount (expected : Nat) (found : Int)
  /-- The code does not decode at the next offset. -/
  | decode (failure : Code.DecodeError)
  /-- A slot index past its slots. -/
  | slotIndex (index size : Nat)
  /-- An address reference past the module's. -/
  | addressIndex
  /-- A call index past the module's functions. -/
  | functionIndex
  /-- An import index past the module's imports. -/
  | importIndex
  /-- An import of a module the package does not have. -/
  | missingModule (id : ModuleId)
  /-- An import of a function its module does not have. -/
  | missingFunction (id : ModuleId) (function : Name)
  deriving DecidableEq

/-- The text of a failure. -/
def Fault.message : Fault → String
  | .stack failure => failure.message
  | .conversion failure => failure.message
  | .arithmetic failure => "arithmetic error: " ++ failure.detail
  | .gasLimit => "gas limit exceeded"
  | .service id failure =>
    s!"failed to invoke syscall {id}: " ++
      (match failure with
        | .notFound => "syscall not found"
        | .gasLimit => "gas limit exceeded")
  | .callDepth => "invocation stack is too big"
  | .returnCount expected found => s!"invalid return values count: expected {expected}, got {found}"
  | .decode failure => failure.message
  | .slotIndex index size => s!"runtime error: index out of range [{index}] with length {size}"
  | .addressIndex => "address index is out of range"
  | .functionIndex => "function index is out of range"
  | .importIndex => "import index is out of range"
  | .missingModule id => "module not found: " ++ id.text
  | .missingFunction id function => "function " ++ id.text ++ "::" ++ function.text ++ " not found"

/-- The causes a failure is classified by. -/
def Fault.kinds : Fault → List ErrorKind
  | .conversion _ => [.invalidConversion]
  | .arithmetic _ => [.arithmetic]
  | .gasLimit => [.gasLimitExceeded]
  | .service _ .gasLimit => [.gasLimitExceeded]
  | .decode failure => failure.kinds
  | .missingModule _ => [.moduleNotFound]
  | _ => []

/-- Where an instruction ran: module, function and offset. -/
structure Location where
  module : ModuleId
  function : Name
  /-- The offset of the instruction. -/
  offset : Nat
  deriving DecidableEq

/-- An explicit abort, or a failed assertion, with its code. -/
structure Abort where
  code : Nat
  /-- Whether an assertion failed. -/
  assertion : Bool
  /-- Where. -/
  location : Location
  deriving DecidableEq

/-- The text of an abort. -/
def Abort.message (abort : Abort) : String :=
  (if abort.assertion then "assertion failed" else "aborted") ++ s!" with code {abort.code} at " ++
    abort.location.module.text ++ "::" ++ abort.location.function.text ++ s!"+{abort.location.offset}"

/-- What the machine reports when it cannot go on. -/
inductive MachineError where
  /-- No function is loaded, or the loaded one has returned. -/
  | noProgram
  /-- A run was asked of a machine that failed before. -/
  | failed
  /-- A run was asked of a machine that has halted. -/
  | stopped
  /-- The code aborted. -/
  | abort (info : Abort)
  /-- An instruction failed. -/
  | fault (location : Location) (opcode : UInt8) (cause : Fault)
  deriving DecidableEq

/-- The text of a failure. -/
def MachineError.message : MachineError → String
  | .noProgram => "no program loaded"
  | .failed => "VM has failed"
  | .stopped => "VM has already stopped"
  | .abort info => info.message
  | .fault location opcode cause =>
    "at " ++ location.module.text ++ "::" ++ location.function.text ++ s!"+{location.offset} (" ++
      Opcode.byteName opcode ++ "): " ++ cause.message

/-- The causes a failure is classified by. -/
def MachineError.kinds : MachineError → List ErrorKind
  | .abort _ => [.abort]
  | .fault _ _ cause => cause.kinds ++ [.execution]
  | _ => []

end Testbench
