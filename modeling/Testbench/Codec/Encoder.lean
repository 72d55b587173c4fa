import Testbench.Codec.VarUint
/-!
Writing values in the binary format.

Every writer gives the bytes of one value; a record is the concatenation of its fields. Numbers
are written least significant byte first, byte strings and texts after their length.
-/

namespace Testbench.Codec.Encode

/-- A flag as one byte, 1 for true. -/
def flag (value : Bool) : List UInt8 := [if value then 1 else 0]

/-- A two-byte number. -/
def u16 (value : Nat) : List UInt8 := Word.toLittleEndian 2 value

/-- A four-byte number. -/
def u32 (value : Nat) : List UInt8 := Word.toLittleEndian 4 value

/-- An eight-byte number. -/
def u64 (value : Nat) : List UInt8 := Word.toLittleEndian 8 value

/-- A byte string after its length. -/
def varBytes (bytes : List UInt8) : List UInt8 := encodeVarUint bytes.length ++ bytes

/-- A sequence after its count. -/
def array {α : Type} (element : α → List UInt8) (items : List α) : List UInt8 :=
  encodeVarUint items.length ++ items.flatMap element

end Testbench.Codec.Encode
