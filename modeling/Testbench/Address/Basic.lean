import Testbench.Bytes.Hex
import Testbench.Hash.Ripemd160
import Testbench.Address.Base58
import Testbench.ErrorKind
/-!
Account addresses: twenty bytes, read as a big-endian number.

An address is written as forty hexadecimal digits, in the short form `0x` followed by the digits
without leading zeros, or as a checked base58 text of the prefix byte `0x35` and the twenty
bytes. Addresses are ordered as byte strings, which is their order as numbers.
-/

namespace Testbench

/-- Twenty bytes that identify an account, most significant first. -/
structure Address where
  /-- The bytes, most significant first. -/
  bytes : List UInt8
  /-- An address has twenty bytes. -/
  length_eq : bytes.length = 20
  deriving DecidableEq

namespace Address

/-- The number of bytes of an address. -/
def size : Nat := 20

/-- The address zero. -/
def zero : Address := ⟨List.replicate 20 0, by simp⟩

instance : Inhabited Address := ⟨zero⟩

/-- Why a text or byte string is no address. -/
inductive ParseError where
  /-- A byte string of another length. -/
  | byteCount (count : Nat)
  /-- A text of forty digits expected, another length found. -/
  | textLength (count : Nat)
  /-- No digits after the `0x`. -/
  | emptyHex
  /-- More than forty digits. -/
  | hexTooLong (count : Nat)
  /-- The digits are no hexadecimal text. -/
  | hex (failure : Hex.DecodeError)
  /-- The text is no checked base58 text. -/
  | base58 (failure : Base58.DecodeError)
  /-- The checked bytes are not one prefix byte and twenty bytes. -/
  | encodedLength (count : Nat)
  /-- The checked bytes start with another prefix. -/
  | wrongPrefix
  deriving DecidableEq, Repr

/-- The text of a failure. -/
def ParseError.message : ParseError → String
  | .byteCount count => s!"expected byte size of 20 got {count}"
  | .textLength count => s!"expected string size of 40 got {count}"
  | .emptyHex => "empty hex string"
  | .hexTooLong count => s!"hex string is too long: {count} > 40"
  | .hex failure => failure.message
  | .base58 failure => failure.message
  | .encodedLength count => s!"invalid address length {count}"
  | .wrongPrefix => "wrong address prefix"

/-- The causes a failure is classified by. -/
def ParseError.kinds : ParseError → List ErrorKind
  | .hex _ => [.hex]
  | .base58 .checksumMismatch => [.checksum]
  | _ => []

/-- The address of twenty bytes, most significant first. -/
def ofBytes (bytes : List UInt8) : Except ParseError Address :=
  if h : bytes.length = 20 then .ok ⟨bytes, h⟩ else .error (.byteCount bytes.length)

/-- The address of a number below `2 ^ 160`. -/
def ofNat (value : Nat) : Address := ⟨Word.toBigEndian 20 value, by simp [Word.toBigEndian]⟩

/-- The number an address spells. -/
def toNat (address : Address) : Nat := Word.ofBigEndian address.bytes

/-- The bytes, least significant first. -/
def littleEndian (address : Address) : List UInt8 := address.bytes.reverse

/-- Forty lowercase hexadecimal digits. -/
def hex (address : Address) : String := Hex.encode address.bytes

/-- `0x` and the digits without leading zeros; `0x0` for zero. -/
def short (address : Address) : String :=
  let digits := (address.hex.toList.dropWhile (· == '0'))
  "0x" ++ (if digits.isEmpty then "0" else String.ofList digits)

/-- Reads exactly forty hexadecimal digits. -/
def ofHex40 (text : String) : Except ParseError Address := do
  if text.utf8ByteSize != 40 then throw (.textLength text.utf8ByteSize)
  let bytes ← (Hex.decode text).mapError .hex
  ofBytes bytes

/-- Reads hexadecimal digits, with or without `0x`, padded with zeros on the left. -/
def ofHex (text : String) : Except ParseError Address := do
  let bare := (text.dropPrefix "0x").toString
  let digits := (bare.dropPrefix "0X").toString
  if digits.isEmpty then throw .emptyHex
  if digits.utf8ByteSize > 40 then throw (.hexTooLong digits.utf8ByteSize)
  let even := if digits.utf8ByteSize % 2 == 1 then "0" ++ digits else digits
  let bytes ← (Hex.decode even).mapError .hex
  pure (ofNat (Word.ofBigEndian bytes))

/-- The prefix byte of checked address texts. -/
def textPrefix : UInt8 := 0x35

/-- The checked base58 text of an address, over a base58 codec. -/
def toBase58With (codec : Base58.Codec) (address : Address) : String :=
  Base58.checkEncode codec (textPrefix :: address.bytes)

/-- The checked base58 text of an address. -/
def toBase58 (address : Address) : String := toBase58With Base58.standard address

/-- Reads a checked base58 address text, over a base58 codec. -/
def ofBase58With (codec : Base58.Codec) (text : String) : Except ParseError Address := do
  let bytes ← (Base58.checkDecode codec text).mapError .base58
  if bytes.length != 21 then throw (.encodedLength bytes.length)
  if bytes.head? != some textPrefix then throw .wrongPrefix
  ofBytes (bytes.drop 1)

/-- Reads a checked base58 address text. -/
def ofBase58 (text : String) : Except ParseError Address := ofBase58With Base58.standard text

/-- Reads `0x`-prefixed hexadecimal digits or a checked base58 text, over a base58 codec. -/
def parseWith (codec : Base58.Codec) (text : String) : Except ParseError Address :=
  if text.startsWith "0x" || text.startsWith "0X" then ofHex text else ofBase58With codec text

/-- Reads `0x`-prefixed hexadecimal digits or a checked base58 text. -/
def parse (text : String) : Except ParseError Address := parseWith Base58.standard text

/-- The address that hashes a script: RIPEMD-160 of its SHA-256 digest. -/
def ofScript (script : List UInt8) : Address :=
  ⟨Ripemd160.digest (Sha256.digest script), Ripemd160.length_digest _⟩

/-- Byte-wise order. -/
def compare (left right : Address) : Ordering :=
  List.compareLex (fun a b => Ord.compare a b) left.bytes right.bytes

instance : Ord Address := ⟨compare⟩

end Address

end Testbench
