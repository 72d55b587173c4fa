import Testbench.Machine.Step
/-!
Loading a function and running the machine.

Loading pushes the arguments and enters the function as the outermost call. A run steps until
the outermost call returns (the machine halts) or a step fails (the machine faults). A run of a
machine with nothing loaded faults; a run of a failed or halted machine is refused.

With a budget every run ends: each step either pays for an instruction or returns from a call,
and every call was paid for, so `2 * budget + calls + 2` steps suffice.
-/

namespace Testbench

/-- Why a function cannot be loaded. -/
inductive LoadError where
  /-- The package has no module of the id. -/
  | moduleNotFound (id : ModuleId)
  /-- The module has no function of the name. -/
  | functionNotFound (id : ModuleId) (function : Name)
  /-- Another number of arguments than the function's parameters. -/
  | argumentCount (id : ModuleId) (function : Name) (expected given : Nat)
  /-- The arguments do not fit on the stack. -/
  | stack (failure : StackError)
  deriving DecidableEq

/-- The text of a failure. -/
def LoadError.message : LoadError → String
  | .moduleNotFound id => "module not found: " ++ id.text
  | .functionNotFound id function => "function " ++ id.text ++ "::" ++ function.text ++ " not found"
  | .argumentCount id function expected given =>
    id.text ++ "::" ++ function.text ++ s!" expects {expected} arguments, got {given}"
  | .stack failure => failure.message

/-- The causes a failure is classified by. -/
def LoadError.kinds : LoadError → List ErrorKind
  | .moduleNotFound _ => [.moduleNotFound]
  | _ => []

namespace Machine

/-- Pushes items onto the evaluation stack in order. -/
def pushAll (machine : Machine) : List Item → Except LoadError Machine
  | [] => .ok machine
  | item :: rest =>
    match machine.stack.push item with
    | .ok stack => pushAll { machine with stack } rest
    | .error failure => .error (.stack failure)

/-- Loads a function of a module with its arguments, the last argument on top. -/
def load (machine : Machine) (id : ModuleId) (name : Name) (arguments : List Item) :
    Except LoadError Machine := do
  let some module := machine.package.module? id | throw (.moduleNotFound id)
  let some function := module.findFunction? name | throw (.functionNotFound id name)
  if arguments.length != function.function.params then
    throw (.argumentCount id name function.function.params arguments.length)
  let pushed ← machine.pushAll arguments
  match (ExceptT.run (Exec.call module function)).run pushed with
  | (.ok (), entered) => pure { entered with status := .none }
  | (.error _, entered) => pure { entered with status := .none }

/-- Steps until the machine halts or fails, at most `fuel` times. -/
def runSteps (machine : Machine) : Nat → Machine × Option MachineError
  | 0 => (machine, none)
  | fuel + 1 =>
    match machine.step with
    | (next, some failure) => (next, some failure)
    | (next, none) => if next.hasHalted then (next, none) else runSteps next fuel

/-- Enough steps for any run within the budget; without a budget, a bound no run reaches. -/
def stepBound (machine : Machine) : Nat :=
  match machine.gasLimit with
  | some limit => 2 * (limit - machine.gasUsed) + machine.frames.length + 2
  | none => Nat.pow 2 48

/-- Runs the loaded function to its end. -/
def run (machine : Machine) : Machine × Option MachineError :=
  if !machine.ready then ({ machine with status := .fault }, some .noProgram)
  else if machine.hasFailed then (machine, some .failed)
  else if machine.hasHalted then (machine, some .stopped)
  else machine.runSteps machine.stepBound

end Machine

end Testbench
