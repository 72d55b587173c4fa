import Testbench.Module.Basic
import Testbench.Codec.Encoder
import Testbench.Codec.Reader
/-!
The module file format.

A module file is the magic number `NVMM` (as a little-endian four-byte number), the format version
1, the address name and name, the address references, the imports, the number of statics and the
functions. Names are at most 64 bytes; there are at most 255 address references and signers
and at most 65535 imports and functions; code is at most 65535 bytes. Reading refuses anything
else, unknown attribute bits, a module without name or address name, and bytes after the module.
-/

namespace Testbench.Module

/-- The magic number that starts a module file. -/
def magic : Nat := 0x4d4d564e

/-- The only format version. -/
def version : Nat := 1

/-- The longest name. -/
def maxNameLength : Nat := 64

/-- The most address references, signers and slots. -/
def maxSlots : Nat := 0xff

/-- The most imports and functions. -/
def maxFunctions : Nat := 0xffff

/-- The longest code. -/
def maxCodeSize : Nat := 0xffff

/-- Why bytes are no module file. -/
inductive DecodeError where
  /-- The binary format itself failed. -/
  | codec (failure : Codec.Error)
  /-- The file does not start with the magic number. -/
  | invalidMagic
  /-- Another format version. -/
  | invalidVersion (found : Nat)
  /-- A function with attribute bits outside the defined ones. -/
  | unknownAttributes (function : Name) (bits : Nat)
  /-- The module has no name or no address name. -/
  | unnamed
  /-- Bytes follow the module. -/
  | trailingData
  deriving DecidableEq, Repr

instance : Codec.Decoder.FromCodec DecodeError := ⟨.codec⟩

/-- Eight binary digits of a byte. -/
def binaryDigits (value : Nat) : String :=
  String.ofList ((List.range 8).reverse.map fun bit => if value.testBit bit then '1' else '0')

/-- The text of a failure. -/
def DecodeError.message : DecodeError → String
  | .codec failure => failure.message
  | .invalidMagic => "invalid module magic"
  | .invalidVersion found => s!"unsupported module version: {found}"
  | .unknownAttributes function bits =>
    "function " ++ function.text ++ ": unknown attributes " ++ binaryDigits bits
  | .unnamed => "module without a name or address"
  | .trailingData => "trailing data after module"

/-- The causes a failure is classified by. -/
def DecodeError.kinds : DecodeError → List ErrorKind
  | .codec failure => failure.kinds
  | .invalidMagic => [.invalidMagic]
  | .invalidVersion _ => [.invalidVersion]
  | _ => []

open Codec

/-- A name after its length. -/
def encodeName (name : Name) : List UInt8 := Encode.varBytes name.bytes

/-- Names after their count. -/
def encodeNames (names : List Name) : List UInt8 := Encode.array encodeName names

/-- The bytes of an import. -/
def encodeImport (entry : Import) : List UInt8 :=
  encodeName entry.addressName ++ encodeName entry.module ++ encodeName entry.function

/-- The bytes of a function. -/
def encodeFunction (function : Function) : List UInt8 :=
  encodeName function.name ++
    [function.params.toUInt8, function.locals.toUInt8, function.returns.toUInt8,
      function.attributes.bits.toUInt8] ++
    (if function.attributes.has Attributes.abortCode then Encode.u64 function.abortCode else []) ++
    encodeNames function.signers ++ Encode.varBytes function.code

/-- The bytes of a module file. -/
def encode (module : Module) : List UInt8 :=
  Encode.u32 magic ++ [version.toUInt8] ++ encodeName module.addressName ++
    encodeName module.name ++ encodeNames module.addressRefs ++
    Encode.array encodeImport module.imports ++ [module.statics.toUInt8] ++
    Encode.array encodeFunction module.functions

/-- A name of at most 64 bytes. -/
def decodeName : Decoder Codec.Error Name := do
  let bytes ← Decoder.varBytes maxNameLength
  pure ⟨bytes⟩

/-- Names after their count, which is at most `limit`. -/
def decodeNames (limit : Nat) : Decoder Codec.Error (List Name) :=
  Decoder.array decodeName limit

/-- An import. -/
def decodeImport : Decoder Codec.Error Import := do
  let addressName ← decodeName
  let module ← decodeName
  let function ← decodeName
  pure ⟨addressName, module, function⟩

/-- A function. -/
def decodeFunction : Decoder DecodeError Function := do
  let name ← (decodeName : Decoder Codec.Error Name)
  let params ← (Decoder.byte : Decoder Codec.Error UInt8)
  let locals ← (Decoder.byte : Decoder Codec.Error UInt8)
  let returns ← (Decoder.byte : Decoder Codec.Error UInt8)
  let bits ← (Decoder.byte : Decoder Codec.Error UInt8)
  let attributes : Attributes := ⟨bits.toNat⟩
  if attributes.hasUnknown then Decoder.fail (.unknownAttributes name bits.toNat) else
  let abortCode ← if attributes.has Attributes.abortCode then
      (Decoder.u64 : Decoder Codec.Error Nat)
    else pure 0
  let signers ← (decodeNames maxSlots : Decoder Codec.Error (List Name))
  let code ← (Decoder.varBytes maxCodeSize : Decoder Codec.Error (List UInt8))
  pure ⟨name, params.toNat, locals.toNat, returns.toNat, attributes, abortCode, signers, code⟩

/-- A module, without the check for bytes after it. -/
def decodeModule : Decoder DecodeError Module := do
  let found ← (Decoder.u32 : Decoder Codec.Error Nat)
  if found != magic then Decoder.fail .invalidMagic else
  let format ← (Decoder.byte : Decoder Codec.Error UInt8)
  if format.toNat != version then Decoder.fail (.invalidVersion format.toNat) else
  let addressName ← (decodeName : Decoder Codec.Error Name)
  let name ← (decodeName : Decoder Codec.Error Name)
  let addressRefs ← (decodeNames maxSlots : Decoder Codec.Error (List Name))
  let imports ← (Decoder.array decodeImport maxFunctions : Decoder Codec.Error (List Import))
  let statics ← (Decoder.byte : Decoder Codec.Error UInt8)
  let functions ← Decoder.array decodeFunction maxFunctions
  if addressName.isEmpty || name.isEmpty then Decoder.fail .unnamed else
  pure ⟨addressName, name, addressRefs, imports, statics.toNat, functions⟩

/-- Reads a module file; the module must take all of the bytes. -/
def decode (bytes : List UInt8) : Except DecodeError Module :=
  match decodeModule bytes with
  | .error failure => .error failure
  | .ok (module, rest) => if rest.isEmpty then .ok module else .error .trailingData

end Testbench.Module
