import Testbench.Coverage.Map
import Testbench.Codec.VarUint
import Testbench.Codec.Encoder
import Testbench.Compression.Zstd.Frame
/-!
Coverage files.

A file is the magic `NCOV`, a version byte (1), a flags byte and the body; flag bit 0 says the
body is zstd-compressed, and no other flag is defined. The body lists the modules in strictly
rising order of id: address, name and functions, these in strictly rising order of name, each
with its code size and the words of its instruction and covered fields, one word per 64 bytes
of code. A file is refused when it breaks any of these rules, when a function covers what is
no instruction, when an instruction lies beyond the code, or when bytes follow the body.
-/

namespace Testbench

/-- Why a coverage file could not be read. -/
inductive CoverageFileError where
  /-- The file does not start with the magic. -/
  | badMagic
  /-- A version other than 1. -/
  | unsupportedVersion (version : Nat)
  /-- Flags other than compression. -/
  | unknownFlags (flags : Nat)
  /-- The compressed body could not be decoded. -/
  | compression (failure : Zstd.Error)
  /-- The body could not be read. -/
  | codec (failure : Codec.Error)
  /-- A module not after the one before. -/
  | moduleOrder (id : ModuleId)
  /-- A function not after the one before. -/
  | functionOrder (id : ModuleId) (name : Name)
  /-- A function larger than code may be. -/
  | functionTooBig (id : ModuleId) (name : Name)
  /-- A field with the wrong number of words for its size. -/
  | wordCount (words bits : Nat)
  /-- Covered offsets where no instruction starts. -/
  | coversNonInstructions (id : ModuleId) (name : Name)
  /-- Instructions at or beyond the code size. -/
  | beyondSize (id : ModuleId) (name : Name)
  /-- Bytes after the body. -/
  | trailingData

instance : Codec.Decoder.FromCodec CoverageFileError := ⟨.codec⟩

/-- Binary digits of a byte, eight of them. -/
def byteBinary (value : Nat) : String :=
  let digits := Nat.toDigits 2 value
  String.ofList (List.replicate (8 - digits.length) '0' ++ digits)

/-- The text of a coverage file error. -/
def CoverageFileError.message : CoverageFileError → String
  | .unsupportedVersion version => s!"unsupported coverage file version: {version}"
  | failure => "corrupt coverage file: " ++ match failure with
    | .badMagic => "bad magic"
    | .unknownFlags flags => s!"unknown flags {byteBinary flags}"
    | .compression failure => failure.message
    | .codec failure => failure.message
    | .moduleOrder id => s!"module {id.text} is out of order"
    | .functionOrder id name => s!"{id.text}::{name.text} is out of order"
    | .functionTooBig id name => s!"{id.text}::{name.text} is too big"
    | .wordCount words bits => s!"{words} words for {bits} bits"
    | .coversNonInstructions id name => s!"{id.text}::{name.text} covers non-instructions"
    | .beyondSize id name => s!"{id.text}::{name.text} has instructions beyond its size"
    | .trailingData => "trailing data"
    | .unsupportedVersion _ => ""

/-- The text of a failure to read a body on its own: failures of the encoding are not marked as
failures of a coverage file. -/
def CoverageFileError.bodyMessage : CoverageFileError → String
  | .codec failure => failure.message
  | failure => failure.message

/-- The kinds of a failure to read a body on its own. -/
def CoverageFileError.bodyKinds : CoverageFileError → List ErrorKind
  | .codec failure => failure.kinds
  | _ => [.corruptFile]

/-- The kinds of a coverage file error. -/
def CoverageFileError.kinds : CoverageFileError → List ErrorKind
  | .unsupportedVersion _ => [.unsupportedVersion]
  | _ => [.corruptFile]

namespace CoverageFile

/-- The magic at the start of a file. -/
def magic : List UInt8 := "NCOV".toUTF8.toList

/-- The version written and read. -/
def version : Nat := 1

/-- The flag of a compressed body. -/
def compressedFlag : Nat := 1

/-- The largest code size of a function. -/
def maxCodeSize : Nat := 0xffff

/-- The most words a field may have. -/
def maxWords : Nat := (maxCodeSize + 63) / 64

/-- The longest name. -/
def maxNameLength : Nat := 64

/-- The most functions of a module. -/
def maxFunctions : Nat := 0xffff

/-- The words of a field, after their count. -/
def encodeWords (field : BitField) : List UInt8 :=
  Codec.encodeVarUint field.words.length ++ field.words.flatMap fun word => Codec.Encode.u64 word.toNat

/-- The body of a map. -/
def encodeBody (map : CoverageMap) : List UInt8 :=
  Codec.encodeVarUint map.modules.length ++ map.modules.flatMap fun (id, table) =>
    id.address.bytes ++ Codec.Encode.varBytes id.name.bytes ++ Codec.encodeVarUint table.length ++
      table.flatMap fun (name, function) =>
        Codec.Encode.varBytes name.bytes ++ Codec.encodeVarUint function.size ++
          encodeWords function.instructions ++ encodeWords function.covered

/-- The file of a map, the body compressed or not. -/
def encode (map : CoverageMap) (compress : Bool) : List UInt8 :=
  let body := encodeBody map
  if compress then magic ++ [version.toUInt8, compressedFlag.toUInt8] ++ (Zstd.compressRaw ⟨body.toArray⟩).toList
  else magic ++ [version.toUInt8, 0] ++ body

open Codec.Decoder in
/-- A field for `size` bits: its word count must match. -/
def decodeWords (size : Nat) : Codec.Decoder CoverageFileError BitField := do
  let count ← (length maxWords : Codec.Decoder Codec.Error Nat)
  if count ≠ BitField.wordCount size then fail (.wordCount count size)
  else
    let words ← (times u64 count : Codec.Decoder Codec.Error (List Nat))
    pure ⟨words.map Nat.toUInt64⟩

open Codec.Decoder in
/-- One function of a module, after `previous`. -/
def decodeFunction (id : ModuleId) (previous : Option Name) :
    Codec.Decoder CoverageFileError (Name × FunctionCoverage) := do
  let name : Name := ⟨← (varBytes maxNameLength : Codec.Decoder Codec.Error (List UInt8))⟩
  let size ← (varUint : Codec.Decoder Codec.Error Nat)
  if previous.any (fun before => Name.compare before name != .lt) then fail (.functionOrder id name)
  else if size > maxCodeSize then fail (.functionTooBig id name)
  else
    let instructions ← decodeWords size
    let covered ← decodeWords size
    if !covered.isSubset instructions then fail (.coversNonInstructions id name)
    else if instructions.toList.any (· ≥ size) then fail (.beyondSize id name)
    else pure (name, ⟨size, instructions, covered⟩)

/-- `count` functions of a module, each after the one before. -/
def decodeFunctions (id : ModuleId) : Nat → Option Name → Codec.Decoder CoverageFileError FunctionTable
  | 0, _ => pure []
  | count + 1, previous => do
    let (name, function) ← decodeFunction id previous
    let rest ← decodeFunctions id count (some name)
    pure ((name, function) :: rest)

open Codec.Decoder in
/-- One module, after `previous`. -/
def decodeModule (previous : Option ModuleId) : Codec.Decoder CoverageFileError (ModuleId × FunctionTable) := do
  let bytes ← (exactly Address.size : Codec.Decoder Codec.Error (List UInt8))
  let name : Name := ⟨← (varBytes maxNameLength : Codec.Decoder Codec.Error (List UInt8))⟩
  let address : Address := if h : bytes.length = 20 then ⟨bytes, h⟩ else Address.zero
  let id : ModuleId := ⟨address, name⟩
  if previous.any (fun before => ModuleId.compare before id != .lt) then fail (.moduleOrder id)
  else
    let count ← (length maxFunctions : Codec.Decoder Codec.Error Nat)
    pure (id, ← decodeFunctions id count none)

/-- `count` modules, each after the one before. -/
def decodeModules : Nat → Option ModuleId → Codec.Decoder CoverageFileError (List (ModuleId × FunctionTable))
  | 0, _ => pure []
  | count + 1, previous => do
    let (id, table) ← decodeModule previous
    let rest ← decodeModules count (some id)
    pure ((id, table) :: rest)

open Codec.Decoder in
/-- The modules of a body; what follows them is left unread. -/
def decodeMap : Codec.Decoder CoverageFileError CoverageMap := do
  let count ← (length defaultLimit : Codec.Decoder Codec.Error Nat)
  pure ⟨← decodeModules count none⟩

open Codec.Decoder in
/-- A body: the modules and nothing after them. -/
def decodeBody : Codec.Decoder CoverageFileError CoverageMap := do
  let map ← decodeMap
  if ← atEnd then pure map else fail .trailingData

/-- Reads a coverage file. -/
def decode (file : List UInt8) : Except CoverageFileError CoverageMap := do
  if file.length < magic.length + 2 ∨ file.take magic.length ≠ magic then throw .badMagic
  let fileVersion := (file[magic.length]?.getD 0).toNat
  if fileVersion ≠ version then throw (.unsupportedVersion fileVersion)
  let flags := (file[magic.length + 1]?.getD 0).toNat
  if flags &&& (255 - compressedFlag) ≠ 0 then throw (.unknownFlags flags)
  let body := file.drop (magic.length + 2)
  let body ← if flags &&& compressedFlag ≠ 0 then
      match Zstd.decompress ⟨body.toArray⟩ with
      | .ok content => pure content.toList
      | .error failure => throw (.compression failure)
    else pure body
  let (map, _) ← decodeBody body
  pure map

end CoverageFile

end Testbench
