import Testbench.Hash.Sha256
/-!
Services code reaches through `SYSCALL`.

A service is called by a 32-bit id: the first four bytes of the SHA-256 digest of its name, read
little-endian. Two services exist: the gas left, at a price of 4, and a log message, at a price
of 16, both paid on top of the instruction itself.
-/

namespace Testbench

/-- The services of the machine. -/
inductive Service where
  /-- Pushes the gas left. -/
  | gasLeft
  /-- Takes a byte string and logs it. -/
  | log
  deriving DecidableEq, Repr

namespace Service

/-- All services. -/
def all : List Service := [.gasLeft, .log]

/-- The name of a service. -/
def name : Service → String
  | .gasLeft => "System.Runtime.GasLeft"
  | .log => "System.Runtime.Log"

/-- The id of a name: its digest's first four bytes, little-endian. -/
def idOfName (name : String) : Nat :=
  Word.ofLittleEndian ((Sha256.digest name.toUTF8.toList).take 4)

/-- The id of a service. -/
def id (service : Service) : Nat := idOfName service.name

/-- The gas a call costs on top of the instruction. -/
def price : Service → Nat
  | .gasLeft => 4
  | .log => 16

/-- The service of an id. -/
def ofId? (value : Nat) : Option Service := all.find? (·.id == value)

/-- The text of a failed look-up by id. -/
def notFoundMessage : String := "interop not found"

end Service

end Testbench
