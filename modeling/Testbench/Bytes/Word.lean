/-!
Unsigned numbers as fixed runs of bytes.

A number of `width` bytes is written least significant byte first (little-endian) or most
significant first (big-endian); reading takes the bytes back to the number.

Main statement: `ofLittleEndian_toLittleEndian`, a number below `Nat.pow 256 width` reads back.
-/

namespace Testbench.Word

/-- The `width` low bytes of a number, least significant first. -/
def toLittleEndian : Nat → Nat → List UInt8
  | 0, _ => []
  | width + 1, value => (value % 256).toUInt8 :: toLittleEndian width (value / 256)

/-- The number written least significant byte first. -/
def ofLittleEndian : List UInt8 → Nat
  | [] => 0
  | byte :: rest => byte.toNat + 256 * ofLittleEndian rest

/-- The fewest bytes that hold a number; none for zero. -/
def byteWidth (value : Nat) : Nat :=
  if value = 0 then 0 else byteWidth (value / 256) + 1
termination_by value
decreasing_by omega

/-- The number of binary digits of a number; none for zero. -/
def bitLength (value : Nat) : Nat := if value = 0 then 0 else Nat.log2 value + 1

/-- The `width` low bytes of a number, most significant first. -/
def toBigEndian (width value : Nat) : List UInt8 := (toLittleEndian width value).reverse

/-- The number written most significant byte first. -/
def ofBigEndian (bytes : List UInt8) : Nat := ofLittleEndian bytes.reverse

@[simp] theorem length_toLittleEndian (width value : Nat) :
    (toLittleEndian width value).length = width := by
  induction width generalizing value with
  | zero => rfl
  | succ width ih => simp [toLittleEndian, ih]

theorem ofLittleEndian_toLittleEndian (width value : Nat) :
    ofLittleEndian (toLittleEndian width value) = value % Nat.pow 256 width := by
  rw [Nat.pow_eq]
  induction width generalizing value with
  | zero => simp [toLittleEndian, ofLittleEndian, Nat.mod_one]
  | succ width ih =>
    simp only [toLittleEndian, ofLittleEndian, ih]
    rw [Nat.pow_succ', Nat.mod_mul]
    simp

theorem ofLittleEndian_lt (bytes : List UInt8) : ofLittleEndian bytes < Nat.pow 256 bytes.length := by
  rw [Nat.pow_eq]
  induction bytes with
  | nil => simp [ofLittleEndian]
  | cons byte rest ih =>
    simp only [ofLittleEndian, List.length_cons, Nat.pow_succ]
    have := byte.toNat_lt
    omega

end Testbench.Word
