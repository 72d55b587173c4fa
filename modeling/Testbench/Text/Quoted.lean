import Testbench.Bytes.Utf8
/-!
Quoted text in error messages.

A quoted text stands between double quotes; a quote or backslash inside gets a backslash, the
usual control characters their letter escapes (`\n`, `\t`, ...), other control characters a
`\x` escape with two hexadecimal digits, and a byte that is no UTF-8 also `\x` with its value.
A single character is quoted the same way between single quotes.
-/

namespace Testbench.Quoted

/-- Is the character printable? Controls, the no-break space, the soft hyphen and the
separators other than the plain space are not. -/
def isPrintable (char : Char) : Bool :=
  let code := char.toNat
  if code < 0x20 || code == 0x7f then false
  else if code < 0x7f then true
  else if code < 0xa0 then false
  else if code == 0xa0 || code == 0xad then false
  else if code == 0x1680 || (0x2000 ≤ code && code ≤ 0x200f) || (0x2028 ≤ code && code ≤ 0x202f)
    || (0x205f ≤ code && code ≤ 0x206f) || code == 0x3000 || code == 0xfeff then false
  else if 0xd800 ≤ code && code ≤ 0xdfff then false
  else if code == 0xfffe || code == 0xffff then false
  else true

/-- Lowercase hexadecimal digits of a number, at least `width` of them. -/
def hexDigits (width value : Nat) : String :=
  let digits := Nat.toDigits 16 value
  String.ofList (List.replicate (width - digits.length) '0' ++ digits)

/-- The escape of a character that is not written as itself. -/
def escapeControl (char : Char) : String :=
  match char with
  | '\x07' => "\\a"
  | '\x08' => "\\b"
  | '\x0c' => "\\f"
  | '\n' => "\\n"
  | '\r' => "\\r"
  | '\t' => "\\t"
  | '\x0b' => "\\v"
  | _ =>
    let code := char.toNat
    if code < 0x80 then "\\x" ++ hexDigits 2 code
    else if code < 0x10000 then "\\u" ++ hexDigits 4 code
    else "\\U" ++ hexDigits 8 code

/-- A character inside quotes of the given kind. -/
def escapeChar (quote : Char) (char : Char) : String :=
  if char == quote || char == '\\' then "\\" ++ char.toString
  else if isPrintable char then char.toString
  else escapeControl char

/-- The bytes of a text inside double quotes, escaped. -/
def escapeBytes (bytes : List UInt8) : String :=
  match bytes with
  | [] => ""
  | lead :: rest =>
    match Utf8.decodeOne? lead rest with
    | some (char, tail) => escapeChar '"' char ++ escapeBytes tail.val
    | none => "\\x" ++ hexDigits 2 lead.toNat ++ escapeBytes rest
termination_by bytes.length
decreasing_by
  · have := tail.property
    simp only [List.length_cons]
    omega
  · simp

/-- A byte string as quoted text. -/
def quoteBytes (bytes : List UInt8) : String := "\"" ++ escapeBytes bytes ++ "\""

/-- A text as quoted text. -/
def quote (text : String) : String := quoteBytes text.toUTF8.toList

/-- A character between single quotes. -/
def quoteChar (char : Char) : String := "'" ++ escapeChar '\'' char ++ "'"

end Testbench.Quoted
