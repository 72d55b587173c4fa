import Testbench.Module.Package
/-!
Test cases: the test functions of a package, in a fixed order.

Discovery walks the package's modules by id and each module's functions in the order they are
written, keeps the functions flagged as tests whose full name `0x…::module::function` contains
the filter, and numbers them from zero. A test takes its signers' addresses as arguments and
expects a failure when flagged so or when it expects an abort code.
-/

namespace Testbench

/-- How a test is expected to end. -/
structure Expectation where
  /-- The test is expected to fail somehow. -/
  failure : Bool
  /-- The abort code it is expected to fail with, if any. -/
  abortCode : Option Nat
  deriving DecidableEq, Repr, Inhabited

/-- A test function to run. -/
structure TestCase where
  module : ModuleId
  function : Name
  /-- Its position in discovery order. -/
  index : Nat
  /-- The addresses passed as its arguments. -/
  args : List Address
  /-- How it is expected to end. -/
  expect : Expectation
  deriving DecidableEq, Inhabited

/-- The full name `0x…::module::function`, as bytes. -/
def TestCase.fullName (test : TestCase) : Name :=
  Name.ofString (test.module.address.short ++ "::") ++ test.module.name ++ Name.ofString "::" ++ test.function

/-- The full name `0x…::module::function`. -/
def TestCase.text (test : TestCase) : String := test.fullName.text

/-- The test case of a test function, numbered later. -/
def TestCase.ofFunction (module : LinkedModule) (function : LinkedFunction) : TestCase :=
  ⟨module.id, function.function.name, 0, function.signerAddresses,
    ⟨function.function.expectsFailure, function.function.expectedAbortCode⟩⟩

/-- Numbers the cases in order from `start`. -/
def numberCases : Nat → List TestCase → List TestCase
  | _, [] => []
  | start, test :: rest => { test with index := start } :: numberCases (start + 1) rest

/-- The test functions of a package whose full names contain the filter, numbered. -/
def discover (package : Package) (filter : String) : List TestCase :=
  let candidates := package.modules.flatMap fun module =>
    (module.functions.filter (·.function.isTest)).map (TestCase.ofFunction module)
  numberCases 0 (candidates.filter fun test => filter.isEmpty || test.fullName.contains filter)

end Testbench
