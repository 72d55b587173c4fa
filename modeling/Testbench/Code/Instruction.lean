import Testbench.Code.Opcode
import Testbench.Bytes.Word
import Testbench.ErrorKind
/-!
Decoding instructions from code bytes, and the offsets of all instructions of a function.

An instruction is its opcode byte and its operand. Decoding at an offset fails outside the code,
on a byte that is no opcode, and on an operand that runs past the end. The offsets of a code are
those of its instructions read one after another from zero; they exist only if the whole code
decodes and every jump lands on one of them.
-/

namespace Testbench.Code

/-- Why code does not decode. -/
inductive DecodeError where
  /-- The offset is outside the code. -/
  | outOfBounds (offset : Int)
  /-- The byte at the offset is no opcode. -/
  | invalidOpcode (byte : UInt8) (offset : Nat)
  /-- The operand runs past the end of the code. -/
  | truncated (opcode : Opcode) (offset : Nat)
  /-- A jump whose target is not the start of an instruction. -/
  | badJump (target : Nat)
  deriving DecidableEq, Repr

/-- The text of a failure. -/
def DecodeError.message : DecodeError → String
  | .outOfBounds offset => s!"offset {offset} is out of code bounds"
  | .invalidOpcode byte offset => s!"invalid opcode {Opcode.byteName byte} at {offset}"
  | .truncated opcode offset => s!"truncated instruction: {opcode.name} at {offset}"
  | .badJump target => s!"jump to {target} is not an instruction boundary"

/-- The causes a failure is classified by. -/
def DecodeError.kinds : DecodeError → List ErrorKind
  | .truncated .. => [.truncated]
  | _ => []

/-- The opcode byte that decoding had read when it failed; zero when it read none. -/
def DecodeError.opcodeByte : DecodeError → UInt8
  | .invalidOpcode byte _ => byte
  | .truncated opcode _ => opcode.byte
  | _ => 0

/-- One decoded instruction. -/
structure Decoded where
  opcode : Opcode
  /-- The operand; for `PUSHDATA1` the data without its length byte. -/
  operand : List UInt8
  /-- The offset of the instruction after it. -/
  next : Nat
  deriving DecidableEq, Repr

/-- Decodes the instruction at the front of `bytes`, which stand at `offset` of a code; gives
the bytes after it too. -/
def decodeHead (bytes : List UInt8) (offset : Nat) :
    Except DecodeError (Decoded × { rest : List UInt8 // rest.length < bytes.length }) :=
  match bytes with
  | [] => .error (.outOfBounds offset)
  | first :: after =>
    match Opcode.ofByte? first with
    | none => .error (.invalidOpcode first offset)
    | some opcode =>
      let size := opcode.operandSize
      if after.length < size then .error (.truncated opcode offset)
      else if opcode == .pushData1 then
        let count := (after.headD 0).toNat
        if after.length < 1 + count then .error (.truncated opcode offset)
        else .ok (⟨opcode, (after.drop 1).take count, offset + 2 + count⟩,
          ⟨after.drop (1 + count), by rw [List.length_drop, List.length_cons]; omega⟩)
      else .ok (⟨opcode, after.take size, offset + 1 + size⟩, ⟨after.drop size, by rw [List.length_drop, List.length_cons]; omega⟩)

/-- Decodes the instruction at an offset of a code. -/
def decode (code : List UInt8) (offset : Nat) : Except DecodeError Decoded :=
  if offset < code.length then (decodeHead (code.drop offset) offset).map (·.1)
  else .error (.outOfBounds offset)

/-- Decodes at an offset that may be negative. -/
def decodeAt (code : List UInt8) (offset : Int) : Except DecodeError Decoded :=
  if offset < 0 then .error (.outOfBounds offset) else decode code offset.toNat

/-- The little-endian number of an operand. -/
def Decoded.argument (decoded : Decoded) : Nat := Word.ofLittleEndian decoded.operand

/-- Reads the instructions of `bytes`, which start at `offset`, one after another: their offsets
and the jump targets among them, in order. -/
def walk (bytes : List UInt8) (offset : Nat) : Except DecodeError (List Nat × List Nat) :=
  match bytes with
  | [] => .ok ([], [])
  | first :: after =>
    match decodeHead (first :: after) offset with
    | .error failure => .error failure
    | .ok (decoded, rest) =>
      match walk rest.val decoded.next with
      | .error failure => .error failure
      | .ok (offsets, targets) =>
        let targets := if decoded.opcode.isJump then decoded.argument :: targets else targets
        .ok (offset :: offsets, targets)
termination_by bytes.length
decreasing_by exact rest.property

/-- The first index in `[low, high)` of an ascending list whose value is at least `target`, or
`high` when there is none, found by halving the range. -/
def searchFrom (sorted : List Nat) (target low high : Nat) : Nat :=
  if low < high then
    let middle := (low + high) / 2
    if sorted.getD middle 0 < target then searchFrom sorted target (middle + 1) high
    else searchFrom sorted target low middle
  else low
termination_by high - low

/-- Whether an ascending list holds a value: the first index whose value is at least the value
holds exactly it. -/
def containsSorted (sorted : List Nat) (target : Nat) : Bool :=
  let index := searchFrom sorted target 0 sorted.length
  index < sorted.length && sorted.getD index 0 == target

/-- The offsets of all instructions of a code, ascending; refused if the code does not decode
or a jump lands elsewhere. -/
def offsets (code : List UInt8) : Except DecodeError (List Nat) := do
  let (starts, targets) ← walk code 0
  match targets.find? (fun target => !containsSorted starts target) with
  | some target => throw (.badJump target)
  | none => pure starts

end Testbench.Code
