import Testbench.Yaml.Token
/-!
The characters of a YAML stream.

A stream is read as UTF-8 after dropping a leading byte order mark. Each character's leading
byte gives the length of its sequence; the sequence must be complete, its other bytes must be
continuation bytes, it must be the shortest one for its value, and the value must be a scalar
value of Unicode. The character must then be one YAML allows in a stream: tab, line feed,
carriage return, next line, printable ASCII, and everything from U+00A0 on but surrogates and
the two non-characters at the end of the basic plane. The first byte that breaks a rule names
the problem.
-/

namespace Testbench.Yaml

/-- May a character with this value stand in a stream? -/
def allowedInStream (value : Nat) : Bool :=
  value == 0x09 || value == 0x0A || value == 0x0D || (0x20 ≤ value && value ≤ 0x7E) ||
    value == 0x85 || (0xA0 ≤ value && value ≤ 0xD7FF) || (0xE000 ≤ value && value ≤ 0xFFFD) ||
    (0x10000 ≤ value && value ≤ 0x10FFFF)

/-- The length of the sequence a leading byte starts; zero for a byte that starts none. -/
def sequenceWidth (byte : UInt8) : Nat :=
  if byte &&& 0x80 == 0 then 1
  else if byte &&& 0xE0 == 0xC0 then 2
  else if byte &&& 0xF0 == 0xE0 then 3
  else if byte &&& 0xF8 == 0xF0 then 4
  else 0

/-- The value bits of a leading byte of a sequence of the given length. -/
def leadingBits (byte : UInt8) (width : Nat) : Nat :=
  if width = 1 then byte.toNat &&& 0x7F
  else if width = 2 then byte.toNat &&& 0x1F
  else if width = 3 then byte.toNat &&& 0x0F
  else byte.toNat &&& 0x07

/-- Is a value long enough for the length of its sequence? -/
def shortestFor (width value : Nat) : Bool :=
  width = 1 || (width = 2 && value ≥ 0x80) || (width = 3 && value ≥ 0x800) ||
    (width = 4 && value ≥ 0x10000)

/-- Decodes bytes onto the characters read so far, for at most `fuel` characters; the problem
of the first byte that breaks a rule. -/
def decodeStream : Nat → List UInt8 → Array Char → Except String (Array Char)
  | 0, _, chars => .ok chars
  | _, [], chars => .ok chars
  | fuel + 1, lead :: rest, chars =>
    let width := sequenceWidth lead
    let trailing := rest.take (width - 1)
    if width = 0 then .error "invalid leading UTF-8 octet"
    else if trailing.length < width - 1 then .error "incomplete UTF-8 octet sequence"
    else
      if trailing.any (fun byte => byte &&& 0xC0 != 0x80) then .error "invalid trailing UTF-8 octet"
      else
        let value := trailing.foldl (fun acc byte => acc * 64 + (byte.toNat &&& 0x3F)) (leadingBits lead width)
        if !shortestFor width value then .error "invalid length of a UTF-8 sequence"
        else if (0xD800 ≤ value && value ≤ 0xDFFF) || value > 0x10FFFF then .error "invalid Unicode character"
        else if !allowedInStream value then .error "control characters are not allowed"
        else decodeStream fuel (rest.drop (width - 1)) (chars.push (Char.ofNat value))

/-- The characters of a stream, or why it is not text YAML accepts. -/
def readStream (bytes : List UInt8) : Except SyntaxError (Array Char) :=
  let body := match bytes with
    | 0xEF :: 0xBB :: 0xBF :: rest => rest
    | _ => bytes
  (decodeStream (body.length + 1) body #[]).mapError SyntaxError.plain

end Testbench.Yaml
