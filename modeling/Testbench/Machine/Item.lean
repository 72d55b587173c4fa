import Testbench.Bytes.Hex
import Testbench.ErrorKind
/-!
Stack items: unsigned 256-bit integers, booleans and byte strings.

An item converts only to its own kind; asking a boolean for an integer, or any other mismatch,
is an invalid conversion. Two items are equal when they are of one kind and hold the same value.
-/

namespace Testbench

/-- A value on the machine's stacks. -/
inductive Item where
  /-- An unsigned integer below `2 ^ 256`. -/
  | integer (value : Nat)
  | boolean (value : Bool)
  /-- A byte string. -/
  | bytes (value : List UInt8)
  deriving DecidableEq, Repr, Inhabited

/-- The kinds of items, with the codes the machine gives them. -/
inductive ItemType where
  | any
  | boolean
  | integer
  | byteString
  deriving DecidableEq, Repr

namespace ItemType

/-- The code of a kind. -/
def code : ItemType → Nat
  | .any => 0x00
  | .boolean => 0x20
  | .integer => 0x21
  | .byteString => 0x28

/-- The kind of a code, if it names one. -/
def ofCode? (code : Nat) : Option ItemType :=
  [ItemType.any, .boolean, .integer, .byteString].find? (·.code == code)

/-- The name of a kind. -/
def name : ItemType → String
  | .any => "Any"
  | .boolean => "Boolean"
  | .integer => "Integer"
  | .byteString => "ByteString"

/-- The name of a code; codes of no kind are `INVALID`. -/
def codeName (code : Nat) : String :=
  match ofCode? code with
  | some kind => kind.name
  | none => "INVALID"

end ItemType

/-- A conversion asked of an item of another kind. -/
structure ConversionError where
  /-- The kind of the item. -/
  source : ItemType
  /-- The kind asked for. -/
  target : ItemType
  deriving DecidableEq, Repr

/-- The text of a failure. -/
def ConversionError.message (error : ConversionError) : String :=
  "invalid conversion: " ++ error.source.name ++ "/" ++ error.target.name

/-- The causes a failure is classified by. -/
def ConversionError.kinds (_ : ConversionError) : List ErrorKind := [.invalidConversion]

namespace Item

/-- The kind of an item. -/
def type : Item → ItemType
  | .integer _ => .integer
  | .boolean _ => .boolean
  | .bytes _ => .byteString

/-- The integer of an integer item. -/
def toInteger : Item → Except ConversionError Nat
  | .integer value => .ok value
  | item => .error ⟨item.type, .integer⟩

/-- The boolean of a boolean item. -/
def toBoolean : Item → Except ConversionError Bool
  | .boolean value => .ok value
  | item => .error ⟨item.type, .boolean⟩

/-- The bytes of a byte string item. -/
def toBytes : Item → Except ConversionError (List UInt8)
  | .bytes value => .ok value
  | item => .error ⟨item.type, .byteString⟩

/-- The text of an item: decimal, `true`/`false`, or `0x` and hexadecimal digits. -/
def text : Item → String
  | .integer value => toString value
  | .boolean value => if value then "true" else "false"
  | .bytes value => "0x" ++ Hex.encode value

/-- Equality of kind and value. -/
def equals (left right : Item) : Bool := left == right

/-- The integer zero, the value of every fresh slot. -/
def zero : Item := .integer 0

end Item

/-- A value of the host given to make an item. -/
inductive Native where
  /-- A signed machine integer; negative ones have no item. -/
  | int (value : Int)
  /-- An unsigned integer. -/
  | unsigned (value : Nat)
  | boolean (value : Bool)
  /-- A text, stored as its UTF-8 bytes. -/
  | text (value : String)
  /-- A byte string. -/
  | bytes (value : List UInt8)
  /-- An item already. -/
  | item (value : Item)
  /-- A value of a type that has no item, shown with its type. -/
  | unsupported (shown typeName : String)

/-- Why a host value has no item. -/
inductive MakeError where
  | negative
  | unsupported (shown typeName : String)

/-- The text of a failure. -/
def MakeError.message : MakeError → String
  | .negative => "negative integers are not supported"
  | .unsupported shown typeName => "invalid stack item type: " ++ shown ++ " (" ++ typeName ++ ")"

/-- The item of a host value. -/
def Item.make : Native → Except MakeError Item
  | .int value => if value < 0 then .error .negative else .ok (.integer value.toNat)
  | .unsigned value => .ok (.integer value)
  | .boolean value => .ok (.boolean value)
  | .text value => .ok (.bytes value.toUTF8.toList)
  | .bytes value => .ok (.bytes value)
  | .item value => .ok value
  | .unsupported shown typeName => .error (.unsupported shown typeName)

end Testbench
