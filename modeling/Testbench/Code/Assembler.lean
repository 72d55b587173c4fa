import Testbench.Code.Opcode
import Testbench.Codec.VarUint
import Testbench.Bytes.Word
import Testbench.Machine.Interop
/-!
Writing code: the instructions a compiler puts out, appended to a growing byte string.

Each primitive appends one or a few instructions. Integers up to sixteen are one `PUSHn`;
larger ones take the narrowest of the 1, 2, 4, 8, 16 and 32 byte pushes, little-endian. Byte
strings are pushed with a one-byte length prefix, so they hold at most 255 bytes. Two
primitives can fail: pushing a longer byte string and jumping with an opcode that is no jump.
A failure is kept, later ones replace it, and once there is one nothing more is written.
-/

namespace Testbench.Code

/-- Why code could not be written. -/
inductive AssembleError where
  /-- A pushed byte string longer than 255 bytes. -/
  | dataTooLong (length : Nat)
  /-- A jump written with an opcode that is no jump. -/
  | notJump (opcode : UInt8)
  deriving DecidableEq, Repr

/-- The text of an assembly error. -/
def AssembleError.message : AssembleError → String
  | .dataTooLong length => s!"byte string is too long: {length}"
  | .notJump opcode => s!"opcode {Opcode.byteName opcode} is not a jump"

/-- Code being written, with the failure that stopped it, if any. -/
structure Assembler where
  /-- The bytes written so far. -/
  code : List UInt8 := []
  /-- The last failure; once set nothing more is written. -/
  failure : Option AssembleError := none
  deriving DecidableEq, Repr, Inhabited

namespace Assembler

/-- Appends bytes unless writing has failed. -/
def raw (asm : Assembler) (bytes : List UInt8) : Assembler :=
  if asm.failure.isSome then asm else { asm with code := asm.code ++ bytes }

/-- Records a failure, replacing an earlier one. -/
def fail (asm : Assembler) (problem : AssembleError) : Assembler := { asm with failure := some problem }

/-- Appends opcode bytes. -/
def opcodes (asm : Assembler) (ops : List UInt8) : Assembler := asm.raw ops

/-- Appends one instruction: an opcode byte and its operand. -/
def instruction (asm : Assembler) (opcode : UInt8) (operand : List UInt8) : Assembler :=
  asm.raw (opcode :: operand)

/-- Pushes a boolean. -/
def boolean (asm : Assembler) (value : Bool) : Assembler :=
  asm.raw [(if value then Opcode.pushTrue else Opcode.pushFalse).byte]

/-- The push opcode and operand width of an integer: the narrowest that holds it, from the bytes
its binary digits fill. -/
def integerWidth (value : Nat) : Opcode × Nat :=
  let size := (Word.bitLength value + 7) / 8
  if size ≤ 1 then (.pushInt8, 1)
  else if size ≤ 2 then (.pushInt16, 2)
  else if size ≤ 4 then (.pushInt32, 4)
  else if size ≤ 8 then (.pushInt64, 8)
  else if size ≤ 16 then (.pushInt128, 16)
  else (.pushInt256, 32)

/-- Pushes an integer below `2 ^ 256` with a sized push. The operand is read off the end of the
integer's 32-byte big-endian form, so it is its low bytes, least significant first. -/
def bigInteger (asm : Assembler) (value : Nat) : Assembler :=
  let (opcode, width) := integerWidth value
  let bigEndian := Word.toBigEndian 32 value
  asm.instruction opcode.byte ((List.range width).map fun index => bigEndian.getD (31 - index) 0)

/-- Pushes an integer: `PUSH0` to `PUSH16` for the small ones, a sized push otherwise. -/
def integer (asm : Assembler) (value : Nat) : Assembler :=
  if value ≤ 16 then asm.raw [Opcode.push0.byte + value.toUInt8] else asm.bigInteger value

/-- The longest byte string one push holds. -/
def maxData : Nat := 255

/-- Pushes a byte string of at most 255 bytes. -/
def data (asm : Assembler) (bytes : List UInt8) : Assembler :=
  if bytes.length > maxData then asm.fail (.dataTooLong bytes.length)
  else asm.raw (Opcode.pushData1.byte :: Codec.encodeVarUint bytes.length ++ bytes)

/-- Pushes the bytes of a text. -/
def text (asm : Assembler) (value : String) : Assembler := asm.data value.toUTF8.toList

/-- Pushes the address of the module's reference at an index. -/
def address (asm : Assembler) (index : Nat) : Assembler :=
  asm.instruction Opcode.pushAddress.byte [index.toUInt8]

/-- A 16-bit operand. -/
def u16 (value : Nat) : List UInt8 := Word.toLittleEndian 2 value

/-- Jumps to a code offset; the opcode must be a jump. -/
def jump (asm : Assembler) (opcode : UInt8) (target : Nat) : Assembler :=
  match Opcode.ofByte? opcode with
  | some op => if op.isJump then asm.instruction opcode (u16 target) else asm.fail (.notJump opcode)
  | none => asm.fail (.notJump opcode)

/-- Calls a function of the module by index. -/
def call (asm : Assembler) (index : Nat) : Assembler := asm.instruction Opcode.call.byte (u16 index)

/-- Calls an imported function by index. -/
def callImport (asm : Assembler) (index : Nat) : Assembler :=
  asm.instruction Opcode.callImport.byte (u16 index)

/-- Invokes a service by name. -/
def syscall (asm : Assembler) (service : String) : Assembler :=
  asm.instruction Opcode.syscall.byte (Word.toLittleEndian 4 (Service.idOfName service))

/-- An instruction on a slot: a local or a static, by index. -/
def slot (asm : Assembler) (opcode : UInt8) (index : Nat) : Assembler :=
  asm.instruction opcode [index.toUInt8]

/-- Aborts with a code. -/
def abort (asm : Assembler) (code : Nat) : Assembler := (asm.integer code).raw [Opcode.abort.byte]

/-- Asserts the top of the stack, aborting with a code otherwise. -/
def assert (asm : Assembler) (code : Nat) : Assembler := (asm.integer code).raw [Opcode.assert.byte]

/-- The code written, or the failure. -/
def result (asm : Assembler) : Except AssembleError (List UInt8) :=
  match asm.failure with
  | some problem => .error problem
  | none => .ok asm.code

end Assembler

end Testbench.Code
