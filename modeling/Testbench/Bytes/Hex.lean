/-!
Hexadecimal text of byte strings.

Bytes are written as two lowercase digits each, most significant nibble first. Reading accepts
both cases, reports the first byte that is no digit, and only then an odd number of digits.
-/

namespace Testbench.Hex

/-- Why a text is no hexadecimal byte string. -/
inductive DecodeError where
  /-- A character that is no hexadecimal digit; the byte is the first byte of its encoding. -/
  | invalidByte (byte : UInt8)
  /-- The text has an odd number of digits. -/
  | oddLength
  deriving DecidableEq, Repr

/-- A byte stands as a printable character when it is a printable code point of its own:
the visible ASCII range and the Latin-1 letters and signs, without the no-break space and the
soft hyphen. -/
def isPrintableByte (byte : UInt8) : Bool :=
  (0x20 ≤ byte && byte ≤ 0x7e) || (0xa1 ≤ byte && byte != 0xad)

/-- The digits of a code point as four or more uppercase hexadecimal digits. -/
def codePointDigits (value : Nat) : String :=
  let digits := (Nat.toDigits 16 value).map Char.toUpper
  String.ofList (List.replicate (4 - digits.length) '0' ++ digits)

/-- Error text: the byte as a code point, followed by the character itself in quotes when it
is printable. -/
def DecodeError.message : DecodeError → String
  | .invalidByte byte =>
    let point := "U+" ++ codePointDigits byte.toNat
    let shown := if isPrintableByte byte then point ++ " '" ++ (Char.ofNat byte.toNat).toString ++ "'"
      else point
    "encoding/hex: invalid byte: " ++ shown
  | .oddLength => "encoding/hex: odd length hex string"

/-- The lowercase digit for a value below sixteen. -/
def digit (value : Nat) : Char :=
  if value < 10 then Char.ofNat (48 + value) else Char.ofNat (87 + value)

/-- The value of a hexadecimal digit of either case. -/
def digitValue? (byte : UInt8) : Option Nat :=
  if 48 ≤ byte && byte ≤ 57 then some (byte.toNat - 48)
  else if 97 ≤ byte && byte ≤ 102 then some (byte.toNat - 87)
  else if 65 ≤ byte && byte ≤ 70 then some (byte.toNat - 55)
  else none

/-- Two lowercase digits of one byte. -/
def byteDigits (byte : UInt8) : List Char :=
  [digit (byte.toNat / 16), digit (byte.toNat % 16)]

/-- The hexadecimal text of a byte string. -/
def encode (bytes : List UInt8) : String :=
  String.ofList (bytes.flatMap byteDigits)

/-- Reads digit pairs from the bytes of a text. -/
def decodeBytes : List UInt8 → Except DecodeError (List UInt8)
  | [] => .ok []
  | [last] =>
    match digitValue? last with
    | some _ => .error .oddLength
    | none => .error (.invalidByte last)
  | high :: low :: rest =>
    match digitValue? high, digitValue? low with
    | none, _ => .error (.invalidByte high)
    | some _, none => .error (.invalidByte low)
    | some h, some l => do
      let tail ← decodeBytes rest
      pure ((h * 16 + l).toUInt8 :: tail)

/-- Reads a hexadecimal text. -/
def decode (text : String) : Except DecodeError (List UInt8) :=
  decodeBytes text.toUTF8.toList

end Testbench.Hex
