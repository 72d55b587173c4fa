/-!
The instruction set: opcodes, their bytes, names and operand sizes.

Every opcode is one byte. Most take no operand; the others take a fixed number of operand bytes
after the opcode, and `PUSHDATA1` takes a length byte followed by that many bytes of data. A
byte that is no opcode is shown as `Opcode(n)`.
-/

namespace Testbench

/-- The operations of the machine. -/
inductive Opcode where
  | pushInt8
  | pushInt16
  | pushInt32
  | pushInt64
  | pushInt128
  | pushInt256
  | pushTrue
  | pushFalse
  | pushAddress
  | pushData1
  | push0
  | push1
  | push2
  | push3
  | push4
  | push5
  | push6
  | push7
  | push8
  | push9
  | push10
  | push11
  | push12
  | push13
  | push14
  | push15
  | push16
  | nop
  | jump
  | jumpIf
  | jumpIfNot
  | call
  | callImport
  | abort
  | assert
  | ret
  | syscall
  | drop
  | dup
  | over
  | swap
  | loadStatic
  | storeStatic
  | loadLocal
  | storeLocal
  | equal
  | notEqual
  | inc
  | dec
  | add
  | sub
  | mul
  | div
  | mod
  | not
  | boolAnd
  | boolOr
  | lt
  | le
  | gt
  | ge
  deriving DecidableEq, Repr, Inhabited

namespace Opcode

/-- Every opcode, in the order of its byte. -/
def all : List Opcode :=
  [.pushInt8, .pushInt16, .pushInt32, .pushInt64, .pushInt128, .pushInt256,
    .pushTrue, .pushFalse, .pushAddress, .pushData1, .push0, .push1,
    .push2, .push3, .push4, .push5, .push6, .push7,
    .push8, .push9, .push10, .push11, .push12, .push13,
    .push14, .push15, .push16, .nop, .jump, .jumpIf,
    .jumpIfNot, .call, .callImport, .abort, .assert, .ret,
    .syscall, .drop, .dup, .over, .swap, .loadStatic,
    .storeStatic, .loadLocal, .storeLocal, .equal, .notEqual, .inc,
    .dec, .add, .sub, .mul, .div, .mod,
    .not, .boolAnd, .boolOr, .lt, .le, .gt,
    .ge]

/-- The byte of an opcode. -/
def byte : Opcode → UInt8
  | .pushInt8 => 0x00
  | .pushInt16 => 0x01
  | .pushInt32 => 0x02
  | .pushInt64 => 0x03
  | .pushInt128 => 0x04
  | .pushInt256 => 0x05
  | .pushTrue => 0x08
  | .pushFalse => 0x09
  | .pushAddress => 0x0a
  | .pushData1 => 0x0c
  | .push0 => 0x10
  | .push1 => 0x11
  | .push2 => 0x12
  | .push3 => 0x13
  | .push4 => 0x14
  | .push5 => 0x15
  | .push6 => 0x16
  | .push7 => 0x17
  | .push8 => 0x18
  | .push9 => 0x19
  | .push10 => 0x1a
  | .push11 => 0x1b
  | .push12 => 0x1c
  | .push13 => 0x1d
  | .push14 => 0x1e
  | .push15 => 0x1f
  | .push16 => 0x20
  | .nop => 0x21
  | .jump => 0x22
  | .jumpIf => 0x24
  | .jumpIfNot => 0x26
  | .call => 0x34
  | .callImport => 0x37
  | .abort => 0x38
  | .assert => 0x39
  | .ret => 0x40
  | .syscall => 0x41
  | .drop => 0x45
  | .dup => 0x4a
  | .over => 0x4b
  | .swap => 0x50
  | .loadStatic => 0x58
  | .storeStatic => 0x60
  | .loadLocal => 0x68
  | .storeLocal => 0x70
  | .equal => 0x97
  | .notEqual => 0x98
  | .inc => 0x9c
  | .dec => 0x9d
  | .add => 0x9e
  | .sub => 0x9f
  | .mul => 0xa0
  | .div => 0xa1
  | .mod => 0xa2
  | .not => 0xaa
  | .boolAnd => 0xab
  | .boolOr => 0xac
  | .lt => 0xb5
  | .le => 0xb6
  | .gt => 0xb7
  | .ge => 0xb8

/-- The name of an opcode. -/
def name : Opcode → String
  | .pushInt8 => "PUSHINT8"
  | .pushInt16 => "PUSHINT16"
  | .pushInt32 => "PUSHINT32"
  | .pushInt64 => "PUSHINT64"
  | .pushInt128 => "PUSHINT128"
  | .pushInt256 => "PUSHINT256"
  | .pushTrue => "PUSHT"
  | .pushFalse => "PUSHF"
  | .pushAddress => "PUSHADDR"
  | .pushData1 => "PUSHDATA1"
  | .push0 => "PUSH0"
  | .push1 => "PUSH1"
  | .push2 => "PUSH2"
  | .push3 => "PUSH3"
  | .push4 => "PUSH4"
  | .push5 => "PUSH5"
  | .push6 => "PUSH6"
  | .push7 => "PUSH7"
  | .push8 => "PUSH8"
  | .push9 => "PUSH9"
  | .push10 => "PUSH10"
  | .push11 => "PUSH11"
  | .push12 => "PUSH12"
  | .push13 => "PUSH13"
  | .push14 => "PUSH14"
  | .push15 => "PUSH15"
  | .push16 => "PUSH16"
  | .nop => "NOP"
  | .jump => "JMP"
  | .jumpIf => "JMPIF"
  | .jumpIfNot => "JMPIFNOT"
  | .call => "CALL"
  | .callImport => "CALLT"
  | .abort => "ABORT"
  | .assert => "ASSERT"
  | .ret => "RET"
  | .syscall => "SYSCALL"
  | .drop => "DROP"
  | .dup => "DUP"
  | .over => "OVER"
  | .swap => "SWAP"
  | .loadStatic => "LDSFLD"
  | .storeStatic => "STSFLD"
  | .loadLocal => "LDLOC"
  | .storeLocal => "STLOC"
  | .equal => "EQUAL"
  | .notEqual => "NOTEQUAL"
  | .inc => "INC"
  | .dec => "DEC"
  | .add => "ADD"
  | .sub => "SUB"
  | .mul => "MUL"
  | .div => "DIV"
  | .mod => "MOD"
  | .not => "NOT"
  | .boolAnd => "BOOLAND"
  | .boolOr => "BOOLOR"
  | .lt => "LT"
  | .le => "LE"
  | .gt => "GT"
  | .ge => "GE"

/-- The number of operand bytes after the opcode; for `PUSHDATA1` the length byte. -/
def operandSize : Opcode → Nat
  | .pushInt8 => 1
  | .pushInt16 => 2
  | .pushInt32 => 4
  | .pushInt64 => 8
  | .pushInt128 => 16
  | .pushInt256 => 32
  | .pushAddress => 1
  | .pushData1 => 1
  | .jump => 2
  | .jumpIf => 2
  | .jumpIfNot => 2
  | .call => 2
  | .callImport => 2
  | .syscall => 4
  | .loadStatic => 1
  | .storeStatic => 1
  | .loadLocal => 1
  | .storeLocal => 1
  | _ => 0

/-- Does the opcode take a jump target? -/
def isJump : Opcode → Bool
  | .jump | .jumpIf | .jumpIfNot => true
  | _ => false

/-- The opcode of a byte, if the byte is one. -/
def ofByte? (value : UInt8) : Option Opcode := all.find? (·.byte == value)

/-- The opcode of a name. -/
def ofName? (text : String) : Option Opcode := all.find? (·.name == text)

/-- The name of an opcode byte, or `Opcode(n)` for a byte that is none. -/
def byteName (value : UInt8) : String :=
  match ofByte? value with
  | some opcode => opcode.name
  | none => s!"Opcode({value.toNat})"

/-- Every opcode is found again from its byte. -/
theorem ofByte_byte (opcode : Opcode) : ofByte? opcode.byte = some opcode := by
  cases opcode <;> rfl

end Opcode

end Testbench
