import Mathlib
import Testbench.Testing.Runner

/-!
A test's outcome follows the expectation table: the runner's reading of how a run ended is the
table, and a test passes exactly when its run is one its expectation admits.
-/

namespace Testbench

/-- Did the budget run out, on the price of an instruction or of a service? -/
def Fault.outOfGas : Fault → Bool
  | .gasLimit => true
  | .service _ .gasLimit => true
  | _ => false

/-- How a test's run ended, as its expectation reads it. -/
inductive RunEnd where
  /-- The function returned. -/
  | halted
  /-- The budget ran out; the failure's text. -/
  | outOfGas (message : String)
  /-- The code aborted, or an assertion failed. -/
  | aborted (info : Abort)
  /-- Anything else failed, loading the function included; the failure's text. -/
  | failed (message : String)

namespace Expectation

/-- The outcome of a test that passed. -/
def passedOutcome : Outcome := ⟨.passed, 0, none, ""⟩

/-- The expectation table. A return passes unless a failure or a code was expected. Running out
of gas is its own outcome. An abort passes with the expected code, or without one when a failure
was expected; with another code it is a failed assertion against the expected one. Any other
failure passes only when a failure without a code was expected. -/
def outcome (expect : Expectation) : RunEnd → Outcome
  | .halted =>
    if expect.failure = false ∧ expect.abortCode = none then passedOutcome
    else ⟨.unexpectedSuccess, 0, expect.abortCode, ""⟩
  | .outOfGas message => ⟨.outOfGas, 0, none, message⟩
  | .aborted info =>
    match expect.abortCode with
    | some code => if info.code = code then passedOutcome else ⟨.failedAssertion, info.code, some code, ""⟩
    | none =>
      if expect.failure then passedOutcome
      else if info.assertion then ⟨.failedAssertion, info.code, none, ""⟩
      else ⟨.aborted, info.code, none, ""⟩
  | .failed message =>
    if expect.failure = true ∧ expect.abortCode = none then passedOutcome else ⟨.error, 0, none, message⟩

end Expectation

end Testbench
