import Testbench.Machine.Fault
import Testbench.Machine.Status
import Testbench.Machine.Interop
import Testbench.Module.Package
/-!
The state of the machine.

A machine runs functions of one package. It has an evaluation stack shared by all calls, a stack
of frames (one per active call, each with its instruction pointers and local slots), the static
slots of every module entered so far, the gas used against an optional budget, and what the
hooks saw: every charged instruction and every logged message.
-/

namespace Testbench

/-- An instruction about to run, after its price was paid. -/
structure Event where
  module : ModuleId
  function : Name
  /-- The offset of the instruction. -/
  offset : Nat
  opcode : Opcode
  deriving DecidableEq

/-- A message logged by code. -/
structure LogEntry where
  /-- The module that logged it. -/
  module : ModuleId
  /-- The function that logged it. -/
  function : Name
  message : List UInt8
  deriving DecidableEq

/-- An active call. -/
structure Frame where
  /-- The module of the function. -/
  module : LinkedModule
  function : LinkedFunction
  /-- The offset of the instruction being run. -/
  ip : Nat
  /-- The offset of the instruction to run next. -/
  nextIp : Nat
  /-- The parameters and locals. -/
  locals : Array Item
  /-- The size of the evaluation stack when the call began, after its arguments were taken. -/
  base : Nat
  deriving Inhabited

namespace Frame

/-- The function's code. -/
def code (frame : Frame) : List UInt8 := frame.function.function.code

/-- The place of the instruction being run. -/
def location (frame : Frame) : Location :=
  ⟨frame.module.id, frame.function.function.name, frame.ip⟩

end Frame

/-- The most nested calls. -/
def maxCallDepth : Nat := 1024

/-- The gas every instruction costs. -/
def instructionPrice : Nat := 1

/-- A machine running functions of a package. -/
structure Machine where
  /-- The package whose functions run. -/
  package : Package
  /-- The state flags. -/
  status : Status
  /-- The active calls, innermost first. -/
  frames : List Frame
  /-- The evaluation stack. -/
  stack : Stack
  /-- The static slots of every module entered so far. -/
  statics : List (ModuleId × Array Item)
  /-- The gas charged so far, counted without bound; `gasCounter` is how the machine holds it. -/
  gasUsed : Nat
  /-- The budget; none means no limit. -/
  gasLimit : Option Nat
  /-- The instructions charged and run, in order. -/
  events : Array Event
  /-- The messages logged, in order. -/
  logs : Array LogEntry
  deriving Inhabited

namespace Machine

/-- A fresh machine for a package, with a budget. -/
def new (package : Package) (gasLimit : Option Nat) : Machine :=
  ⟨package, .none, [], ⟨"evaluation", []⟩, [], 0, gasLimit, #[], #[]⟩

/-- Is a function loaded and not yet returned? -/
def ready (machine : Machine) : Bool := !machine.frames.isEmpty

/-- Has the machine failed? -/
def hasFailed (machine : Machine) : Bool := machine.status.has .fault

/-- Has the machine halted? -/
def hasHalted (machine : Machine) : Bool := machine.status.has .halt

/-- The gas used as the machine's signed 64-bit counter holds it: past `2 ^ 63 - 1` the count
wraps to negative values. -/
def gasCounter (machine : Machine) : Int := (Int64.ofNat machine.gasUsed).toInt

/-- Is the gas used within the budget? It is the counter that is compared, so a count that
wrapped is within every budget. -/
def withinBudget (machine : Machine) : Bool :=
  match machine.gasLimit with
  | none => true
  | some limit => machine.gasCounter ≤ limit

end Machine

end Testbench
