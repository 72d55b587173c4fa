import Testbench.Text.Space
/-!
The state flags of the machine: halted, faulted and stopped at a break.

The flags form a byte, one bit each. No flag is written `NONE`; otherwise the set flags are
written in the order HALT, FAULT, BREAK, joined by a comma and a space. Bits beyond the three
are not written.
-/

namespace Testbench

/-- The state flags of the machine, as the bits of a byte. -/
structure Status where
  bits : Nat
  deriving DecidableEq, Repr, Inhabited

namespace Status

/-- No flag: not started yet, or running. -/
def none : Status := ⟨0⟩

/-- Finished normally. -/
def halt : Status := ⟨1⟩

/-- Finished with a failure. -/
def fault : Status := ⟨2⟩

/-- Stopped at a break. -/
def breakpoint : Status := ⟨4⟩

/-- Is any bit of `flag` set? -/
def has (status flag : Status) : Bool := status.bits &&& flag.bits != 0

/-- The flags and their names, in the order they are written. -/
def named : List (Status × String) := [(halt, "HALT"), (fault, "FAULT"), (breakpoint, "BREAK")]

/-- The written form of the flags. -/
def text (status : Status) : String :=
  if status.bits == 0 then "NONE"
  else ", ".intercalate ((named.filter fun (flag, _) => status.has flag).map (·.2))

/-- Reads flags written as names joined by commas, or `NONE`; blanks around names are ignored. -/
def parse? (text : String) : Option Status :=
  let trimmed := Space.trim text
  if trimmed == "NONE" then some none
  else
    let addFlag (status : Status) (part : String) : Option Status :=
      match named.find? (·.2 == Space.trim part) with
      | some (flag, _) => some ⟨status.bits ||| flag.bits⟩
      | Option.none => Option.none
    List.foldlM addFlag none (trimmed.splitOn ",")

end Status

end Testbench
