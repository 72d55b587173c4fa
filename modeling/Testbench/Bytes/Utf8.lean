/-!
Text from bytes that need not be UTF-8.

Names read from module and coverage files are byte strings. They are shown as text by reading
UTF-8 and putting the replacement character U+FFFD for every byte that does not start a
complete, shortest, non-surrogate encoding of a code point; reading then goes on at the next
byte.
-/

namespace Testbench.Utf8

/-- The replacement character. -/
def replacement : Char := Char.ofNat 0xFFFD

/-- Is the byte a continuation byte in the given range? -/
def inRange (low high : UInt8) (byte : UInt8) : Bool :=
  low ≤ byte && byte ≤ high

/-- Reads one code point whose first byte is `lead`: its character and the bytes after it, or
`none` if `lead` starts no valid encoding. -/
def decodeOne? (lead : UInt8) (rest : List UInt8) :
    Option (Char × { tail : List UInt8 // tail.length ≤ rest.length }) :=
  if lead < 0x80 then some (Char.ofNat lead.toNat, ⟨rest, Nat.le_refl _⟩)
  else if lead < 0xC2 then none
  else if lead < 0xE0 then
    match rest with
    | b1 :: tail =>
      if inRange 0x80 0xBF b1 then
        some (Char.ofNat ((lead.toNat - 0xC0) * 64 + (b1.toNat - 0x80)), ⟨tail, by simp⟩)
      else none
    | _ => none
  else if lead < 0xF0 then
    let low : UInt8 := if lead == 0xE0 then 0xA0 else 0x80
    let high : UInt8 := if lead == 0xED then 0x9F else 0xBF
    match rest with
    | b1 :: b2 :: tail =>
      if inRange low high b1 && inRange 0x80 0xBF b2 then
        some (Char.ofNat ((lead.toNat - 0xE0) * 4096 + (b1.toNat - 0x80) * 64 +
          (b2.toNat - 0x80)), ⟨tail, by simp only [List.length_cons]; omega⟩)
      else none
    | _ => none
  else if lead < 0xF5 then
    let low : UInt8 := if lead == 0xF0 then 0x90 else 0x80
    let high : UInt8 := if lead == 0xF4 then 0x8F else 0xBF
    match rest with
    | b1 :: b2 :: b3 :: tail =>
      if inRange low high b1 && inRange 0x80 0xBF b2 && inRange 0x80 0xBF b3 then
        some (Char.ofNat ((lead.toNat - 0xF0) * 262144 + (b1.toNat - 0x80) * 4096 +
          (b2.toNat - 0x80) * 64 + (b3.toNat - 0x80)), ⟨tail, by simp only [List.length_cons]; omega⟩)
      else none
    | _ => none
  else none

/-- The characters of a byte string, with one replacement character per byte that starts no
valid encoding. -/
def decodeChars : List UInt8 → List Char
  | [] => []
  | lead :: rest =>
    match decodeOne? lead rest with
    | some (char, tail) => char :: decodeChars tail.val
    | none => replacement :: decodeChars rest
termination_by bytes => bytes.length
decreasing_by
  · have := tail.property
    simp only [List.length_cons]
    omega
  · simp

/-- The text of a byte string, read as UTF-8 with replacement. -/
def decodeLossy (bytes : List UInt8) : String :=
  String.ofList (decodeChars bytes)

end Testbench.Utf8
