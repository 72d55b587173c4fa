import Testbench.Testing.Case
import Testbench.Machine.Fault
/-!
Test outcomes: how a run ended, compared with what the test expected.

A run that returns passes unless a failure was expected. Running out of gas is its own outcome
whatever was expected. An abort passes when it has the expected code, or when a failure without
a code was expected; otherwise it is a failed assertion or an abort. Any other failure passes
only when a failure without a code was expected, and is an error otherwise.
-/

namespace Testbench

/-- The kinds of outcome. -/
inductive OutcomeKind where
  | passed
  | failedAssertion
  | aborted
  | outOfGas
  | error
  | unexpectedSuccess
  deriving DecidableEq, Repr, Inhabited

namespace OutcomeKind

/-- All kinds, by code. -/
def all : List OutcomeKind := [.passed, .failedAssertion, .aborted, .outOfGas, .error, .unexpectedSuccess]

/-- The kind of a code. -/
def ofCode? (code : Nat) : Option OutcomeKind := all[code]?

/-- The name of a kind. -/
def name : OutcomeKind → String
  | .passed => "PASS"
  | .failedAssertion => "FAILED ASSERTION"
  | .aborted => "ABORTED"
  | .outOfGas => "OUT OF GAS"
  | .error => "ERROR"
  | .unexpectedSuccess => "UNEXPECTED SUCCESS"

/-- The name of a code; codes of no kind are `Kind(n)`. -/
def codeName (code : Nat) : String :=
  match ofCode? code with
  | some kind => kind.name
  | none => s!"Kind({code})"

end OutcomeKind

/-- The result of running one test. -/
structure Outcome where
  kind : OutcomeKind
  /-- The abort code, for failed assertions and aborts. -/
  code : Nat := 0
  /-- The abort code the test expected, if any. -/
  expected : Option Nat := none
  /-- The failure text, for running out of gas and errors. -/
  reason : String := ""
  deriving DecidableEq, Repr, Inhabited

namespace Outcome

/-- The text of an outcome. -/
def text (outcome : Outcome) : String :=
  let kind := outcome.kind.name
  match outcome.kind, outcome.expected with
  | .failedAssertion, some expected => s!"{kind} ({outcome.code} != {expected})"
  | .failedAssertion, none => s!"{kind} (code {outcome.code})"
  | .aborted, _ => s!"{kind} (code {outcome.code})"
  | .error, _ => s!"{kind} ({outcome.reason})"
  | .unexpectedSuccess, some expected => s!"{kind} (expected abort code {expected})"
  | .unexpectedSuccess, none => s!"{kind} (expected failure)"
  | _, _ => kind

/-- The text of an outcome given by the code of its kind. -/
def textOfCode (kind : Nat) (code : Nat) (expected : Option Nat) (reason : String) : String :=
  match OutcomeKind.ofCode? kind with
  | some known => text ⟨known, code, expected, reason⟩
  | none => OutcomeKind.codeName kind

/-- Did the test pass? -/
def passed (outcome : Outcome) : Bool := outcome.kind == .passed

end Outcome

/-- How a test's run ended. -/
inductive Ending where
  /-- The function returned. -/
  | returned
  /-- The run failed; the kinds and text of the failure. -/
  | failed (kinds : List ErrorKind) (message : String) (abort : Option Abort)

/-- The outcome of a run that ended so, for a test that expected `expect`. -/
def reconcile (expect : Expectation) : Ending → Outcome
  | .returned =>
    if expect.failure || expect.abortCode.isSome then ⟨.unexpectedSuccess, 0, expect.abortCode, ""⟩
    else ⟨.passed, 0, none, ""⟩
  | .failed kinds message abort =>
    if kinds.contains .gasLimitExceeded then ⟨.outOfGas, 0, none, message⟩
    else
      match abort with
      | some info =>
        match expect.abortCode with
        | some code =>
          if info.code == code then ⟨.passed, 0, none, ""⟩ else ⟨.failedAssertion, info.code, some code, ""⟩
        | none =>
          if expect.failure then ⟨.passed, 0, none, ""⟩
          else if info.assertion then ⟨.failedAssertion, info.code, none, ""⟩
          else ⟨.aborted, info.code, none, ""⟩
      | none =>
        if expect.failure && expect.abortCode.isNone then ⟨.passed, 0, none, ""⟩
        else ⟨.error, 0, none, message⟩

end Testbench
