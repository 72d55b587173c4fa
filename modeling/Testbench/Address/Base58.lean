import Testbench.Hash.Sha256
import Testbench.Text.Quoted
/-!
Base58 text of byte strings, and its checked form.

The text is the number that the bytes spell, big-endian, in the digits
`123456789ABCDEFGHJKLMNPQRSTUVWXYZabcdefghijkmnopqrstuvwxyz`, after one `1` for each leading zero
byte. The checked form appends the first four bytes of the double SHA-256 digest before
writing, and reading checks them.
-/

namespace Testbench.Base58

/-- The fifty-eight digits. -/
def alphabet : List Char :=
  "123456789ABCDEFGHJKLMNPQRSTUVWXYZabcdefghijkmnopqrstuvwxyz".toList

/-- Why a text is no base58 or checked base58 text. -/
inductive DecodeError where
  /-- The text is empty. -/
  | empty
  /-- A character beyond ASCII. -/
  | highBit
  /-- An ASCII character that is no digit. -/
  | invalidDigit (char : Char)
  /-- The decoded bytes are too short to hold a checksum. -/
  | missingChecksum
  /-- The checksum does not match the bytes. -/
  | checksumMismatch
  deriving DecidableEq, Repr

/-- The text of a failure. -/
def DecodeError.message : DecodeError → String
  | .empty => "zero length string"
  | .highBit => "high-bit set on invalid digit"
  | .invalidDigit char => "invalid base58 digit (" ++ Quoted.quoteChar char ++ ")"
  | .missingChecksum => "invalid base-58 check string: missing checksum"
  | .checksumMismatch => "checksum mismatch"

/-- The base-58 digits of a number, most significant first, none for zero. -/
def digitsOf (value : Nat) : List Nat :=
  if value = 0 then [] else digitsOf (value / 58) ++ [value % 58]
termination_by value
decreasing_by omega

/-- The base58 text of a byte string. -/
def encode (bytes : List UInt8) : String :=
  let zeros := (bytes.takeWhile (· == 0)).length
  let value := Word.ofBigEndian bytes
  String.ofList (List.replicate zeros '1' ++ (digitsOf value).map fun digit => alphabet.getD digit '1')

/-- The value of a digit. -/
def digitValue (char : Char) : Except DecodeError Nat :=
  if char.toNat > 127 then .error .highBit
  else
    match alphabet.idxOf? char with
    | some value => .ok value
    | none => .error (.invalidDigit char)

/-- The bytes of a base58 text: one zero byte for each leading `1`, then the number. -/
def decode (text : String) : Except DecodeError (List UInt8) := do
  if text.isEmpty then throw .empty
  let chars := text.toList
  let mut value := 0
  for char in chars do
    value := value * 58 + (← digitValue char)
  let zeros := (chars.takeWhile (· == '1')).length
  let digits := Word.toBigEndian (Word.byteWidth value) value
  pure (List.replicate zeros 0 ++ digits)

/-- The four checksum bytes of a byte string. -/
def checksum (bytes : List UInt8) : List UInt8 :=
  (Sha256.digest (Sha256.digest bytes)).take 4

/-- A base58 codec: the text of a byte string, and the bytes of a text. The checked form is written
over any codec; the program's is `standard`. -/
structure Codec where
  encode : List UInt8 → String
  decode : String → Except DecodeError (List UInt8)

/-- The codec of the digits above. -/
def standard : Codec := ⟨encode, decode⟩

/-- The checked base58 text of a byte string. -/
def checkEncode (codec : Codec) (bytes : List UInt8) : String := codec.encode (bytes ++ checksum bytes)

/-- The bytes of a checked base58 text, without the checksum. -/
def checkDecode (codec : Codec) (text : String) : Except DecodeError (List UInt8) := do
  let bytes ← codec.decode text
  if bytes.length < 5 then throw .missingChecksum
  let payload := bytes.take (bytes.length - 4)
  if checksum payload != bytes.drop (bytes.length - 4) then throw .checksumMismatch
  pure payload

end Testbench.Base58
