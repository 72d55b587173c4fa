import Testbench.Bytes.Utf8
/-!
Names as byte strings.

Module, function and address names are byte strings: a file may hold bytes that are no UTF-8,
and writing the file again must give those bytes back. Names are ordered byte by byte, a proper
prefix first, which on UTF-8 text is the order of code points.
-/

namespace Testbench

/-- A name: the bytes of its text. -/
structure Name where
  /-- The bytes of the name. -/
  bytes : List UInt8
  deriving DecidableEq, Hashable, Inhabited, Repr

namespace Name

/-- The name spelled by a text. -/
def ofString (text : String) : Name := ⟨text.toUTF8.toList⟩

instance : Coe String Name := ⟨ofString⟩

/-- The text of a name; bytes that are no UTF-8 show as the replacement character. -/
def text (name : Name) : String := Utf8.decodeLossy name.bytes

instance : ToString Name := ⟨text⟩

/-- The length of a name in bytes. -/
def size (name : Name) : Nat := name.bytes.length

/-- Is the name empty? -/
def isEmpty (name : Name) : Bool := name.bytes.isEmpty

/-- Byte-wise order of two names. -/
def compare (left right : Name) : Ordering :=
  List.compareLex (fun a b => Ord.compare a b) left.bytes right.bytes

instance : Ord Name := ⟨compare⟩

/-- Does `part` occur inside `whole` as a contiguous run of bytes? -/
def bytesContain (whole part : List UInt8) : Bool :=
  match whole with
  | [] => part.isEmpty
  | _ :: rest => part.isPrefixOf whole || bytesContain rest part

/-- Does the name contain the given text? -/
def contains (name : Name) (part : String) : Bool :=
  bytesContain name.bytes part.toUTF8.toList

/-- The name followed by another. -/
def append (left right : Name) : Name := ⟨left.bytes ++ right.bytes⟩

instance : Append Name := ⟨append⟩

end Name

end Testbench
