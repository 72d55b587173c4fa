import Testbench.Address.Basic
import Testbench.Bytes.Name
/-!
Modules: named collections of functions published at a named address.

A module refers to addresses only by name: its own address, the addresses its code pushes, the
addresses of the modules whose functions it imports, and the signers its test functions take.
A function carries its code, the sizes of its frame and flags that make it a test.
-/

namespace Testbench

/-- Flags of a function, one bit each. -/
structure Attributes where
  bits : Nat
  deriving DecidableEq, Repr, Inhabited

namespace Attributes

/-- The function is a test. -/
def test : Nat := 1

/-- The test is expected to fail. -/
def expectedFailure : Nat := 2

/-- The test is expected to abort with the function's abort code; it is expected to fail. -/
def abortCode : Nat := 4

/-- The function exists in test builds only. -/
def testOnly : Nat := 8

/-- All defined bits. -/
def mask : Nat := 15

/-- Are all bits of `flag` set? -/
def has (attributes : Attributes) (flag : Nat) : Bool := attributes.bits &&& flag == flag

/-- Are bits outside the defined ones set? -/
def hasUnknown (attributes : Attributes) : Bool := attributes.bits &&& (255 - mask) != 0

end Attributes

/-- A function of another (or the same) module that code calls by index. -/
structure Import where
  /-- The named address of the module. -/
  addressName : Name
  module : Name
  function : Name
  deriving DecidableEq, Repr, Inhabited

/-- Written `address::module::function`. -/
def Import.text (entry : Import) : String :=
  entry.addressName.text ++ "::" ++ entry.module.text ++ "::" ++ entry.function.text

/-- A function: its code and frame. Offsets in code count from the start of the function. -/
structure Function where
  name : Name
  /-- How many arguments it takes. -/
  params : Nat
  /-- How many locals it has besides its arguments. -/
  locals : Nat
  /-- How many values it leaves on the stack. -/
  returns : Nat
  /-- Its flags. -/
  attributes : Attributes
  /-- The abort code a test expects, meaningful with the abort code flag only. -/
  abortCode : Nat
  /-- The named addresses a test takes as arguments. -/
  signers : List Name
  code : List UInt8
  deriving DecidableEq, Repr, Inhabited

namespace Function

/-- Is the function a test? -/
def isTest (function : Function) : Bool := function.attributes.has Attributes.test

/-- Is the function expected to fail? -/
def expectsFailure (function : Function) : Bool :=
  function.attributes.has Attributes.expectedFailure || function.attributes.has Attributes.abortCode

/-- The abort code the function is expected to fail with, if any. -/
def expectedAbortCode (function : Function) : Option Nat :=
  if function.attributes.has Attributes.abortCode then some function.abortCode else none

end Function

/-- A module as written in a file: names instead of addresses. -/
structure Module where
  /-- The named address the module is published at. -/
  addressName : Name
  /-- The module's name. -/
  name : Name
  /-- The named addresses its code pushes, by index. -/
  addressRefs : List Name
  /-- The functions its code calls by import index. -/
  imports : List Import
  /-- The number of static slots. -/
  statics : Nat
  functions : List Function
  deriving DecidableEq, Repr, Inhabited

/-- The first function of the given name. -/
def Module.findFunction? (module : Module) (name : Name) : Option Function :=
  module.functions.find? (·.name == name)

/-- A module identified by its address and name. -/
structure ModuleId where
  address : Address
  name : Name
  deriving DecidableEq, Inhabited

namespace ModuleId

/-- Written `0x…::name` with the short address. -/
def text (id : ModuleId) : String := id.address.short ++ "::" ++ id.name.text

instance : ToString ModuleId := ⟨text⟩

/-- Ordered by address, then by name. -/
def compare (left right : ModuleId) : Ordering :=
  (Address.compare left.address right.address).then (Name.compare left.name right.name)

instance : Ord ModuleId := ⟨compare⟩

end ModuleId

end Testbench
