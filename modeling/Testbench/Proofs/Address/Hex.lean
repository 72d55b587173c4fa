import Mathlib
import Testbench.Address.Basic
import Testbench.Codec.Canonical
import Testbench.Proofs.Bytes.Utf8

/-!
Hexadecimal address texts read back: digits written from bytes read back as the bytes, and the
short form of an address, which drops its leading zero digits, reads back as the address.
-/

namespace Testbench

/-! ### Numbers of bytes -/

namespace Word

theorem ofLittleEndian_append (low high : List UInt8) :
    ofLittleEndian (low ++ high) = ofLittleEndian low + 256 ^ low.length * ofLittleEndian high := by
  induction low with
  | nil => simp [ofLittleEndian]
  | cons byte rest ih =>
    simp only [List.cons_append, ofLittleEndian, ih, List.length_cons, pow_succ]
    ring

theorem ofBigEndian_cons (byte : UInt8) (rest : List UInt8) :
    ofBigEndian (byte :: rest) = byte.toNat * 256 ^ rest.length + ofBigEndian rest := by
  rw [ofBigEndian, List.reverse_cons, ofLittleEndian_append, ofBigEndian, List.length_reverse]
  simp only [ofLittleEndian]
  ring

theorem ofBigEndian_dropWhile_zero :
    ∀ bytes : List UInt8, ofBigEndian (bytes.dropWhile (· == 0)) = ofBigEndian bytes
  | [] => rfl
  | byte :: rest => by
    by_cases zero : byte = 0
    · subst zero
      rw [List.dropWhile_cons_of_pos rfl, ofBigEndian_dropWhile_zero rest, ofBigEndian_cons]
      simp
    · rw [List.dropWhile_cons_of_neg (by simpa using zero)]

theorem toBigEndian_ofBigEndian (bytes : List UInt8) :
    toBigEndian bytes.length (ofBigEndian bytes) = bytes := by
  rw [toBigEndian, ofBigEndian, ← List.length_reverse, Codec.toLittleEndian_ofLittleEndian,
    List.reverse_reverse]

end Word

theorem Address.ofNat_toNat (address : Address) : Address.ofNat address.toNat = address := by
  obtain ⟨bytes, sized⟩ := address
  have written := Word.toBigEndian_ofBigEndian bytes
  rw [sized] at written
  simp only [Address.ofNat, Address.toNat, written]

/-! ### Hexadecimal digits -/

namespace Hex

theorem digit_spec (value : Nat) (small : value < 16) :
    (digit value).toNat < 128 ∧ digitValue? (digit value).toUInt8 = some value ∧
      (digit value = '0' ↔ value = 0) ∧ digit value ≠ 'X' := by
  interval_cases value <;> decide

theorem high_lt (byte : UInt8) : byte.toNat / 16 < 16 := by
  have := byte.toNat_lt
  omega

theorem low_lt (byte : UInt8) : byte.toNat % 16 < 16 :=
  Nat.mod_lt _ (by decide)

theorem mem_flatMap_byteDigits {char : Char} {bytes : List UInt8} (member : char ∈ bytes.flatMap byteDigits) :
    ∃ value < 16, char = digit value := by
  obtain ⟨byte, -, digitMember⟩ := List.mem_flatMap.mp member
  rcases List.mem_pair.mp digitMember with rfl | rfl
  · exact ⟨_, high_lt byte, rfl⟩
  · exact ⟨_, low_lt byte, rfl⟩

@[simp] theorem length_flatMap_byteDigits (bytes : List UInt8) :
    (bytes.flatMap byteDigits).length = 2 * bytes.length := by
  induction bytes with
  | nil => rfl
  | cons byte rest ih =>
    rw [List.flatMap_cons, List.length_append, ih, byteDigits, List.length_cons, List.length_cons,
      List.length_nil, List.length_cons]
    omega

theorem decodeBytes_byteDigits :
    ∀ bytes : List UInt8, decodeBytes ((bytes.flatMap byteDigits).map Char.toUInt8) = .ok bytes
  | [] => rfl
  | byte :: rest => by
    have high := (digit_spec (byte.toNat / 16) (high_lt byte)).2.1
    have low := (digit_spec (byte.toNat % 16) (low_lt byte)).2.1
    have joined : (byte.toNat / 16 * 16 + byte.toNat % 16).toUInt8 = byte := by
      rw [Nat.div_add_mod']
      exact UInt8.ofNat_toNat
    rw [List.flatMap_cons, byteDigits, List.cons_append, List.cons_append, List.nil_append, List.map_cons,
      List.map_cons, decodeBytes, high, low]
    simp only [decodeBytes_byteDigits rest, joined]
    rfl

theorem decode_encode (bytes : List UInt8) : decode (encode bytes) = .ok bytes := by
  have ascii : Text.Ascii (encode bytes).toList := by
    intro char member
    rw [encode, String.toList_ofList] at member
    obtain ⟨value, small, rfl⟩ := mem_flatMap_byteDigits member
    exact (digit_spec value small).1
  rw [decode, Text.toUTF8_toList_of_ascii ascii, encode, String.toList_ofList, decodeBytes_byteDigits]

/-- Digits without their leading zeros, padded with one zero to an even count. -/
def padEven (digits : List Char) : List Char := if digits.length % 2 = 1 then '0' :: digits else digits

theorem padEven_dropWhile :
    ∀ bytes : List UInt8, padEven ((bytes.flatMap byteDigits).dropWhile (· == '0')) =
      (bytes.dropWhile (· == 0)).flatMap byteDigits
  | [] => rfl
  | byte :: rest => by
    have high := digit_spec (byte.toNat / 16) (high_lt byte)
    have low := digit_spec (byte.toNat % 16) (low_lt byte)
    rw [List.flatMap_cons, byteDigits, List.cons_append, List.cons_append, List.nil_append]
    by_cases zero : byte = 0
    · subst zero
      have zeroDigit : digit 0 = '0' := high.2.2.1.mpr rfl
      have skipped : (0 :: rest : List UInt8).dropWhile (· == 0) = rest.dropWhile (· == 0) :=
        List.dropWhile_cons_of_pos rfl
      simp only [UInt8.toNat_zero, Nat.zero_div, Nat.zero_mod, zeroDigit]
      rw [skipped, List.dropWhile_cons_of_pos rfl, List.dropWhile_cons_of_pos rfl]
      exact padEven_dropWhile rest
    · have kept : (byte :: rest).dropWhile (· == 0) = byte :: rest :=
        List.dropWhile_cons_of_neg (by simpa using zero)
      rw [kept, List.flatMap_cons, byteDigits, List.cons_append, List.cons_append, List.nil_append]
      have nonzero : byte.toNat ≠ 0 := fun same => zero (UInt8.toNat_inj.mp same)
      by_cases small : byte.toNat / 16 = 0
      · have lowNonzero : digit (byte.toNat % 16) ≠ '0' := fun same => by
          have := low.2.2.1.mp same
          omega
        rw [List.dropWhile_cons_of_pos (by simpa using high.2.2.1.mpr small),
          List.dropWhile_cons_of_neg (by simpa using lowNonzero), padEven, if_pos (by simp only [List.length_cons, length_flatMap_byteDigits]; omega),
          (high.2.2.1.mpr small)]
      · have highNonzero : digit (byte.toNat / 16) ≠ '0' := fun same => small (high.2.2.1.mp same)
        rw [List.dropWhile_cons_of_neg (by simpa using highNonzero), padEven, if_neg (by simp only [List.length_cons, length_flatMap_byteDigits]; omega)]

theorem padded_ofList {chars : List Char} (ascii : Text.Ascii chars) :
    (if (String.ofList chars).utf8ByteSize % 2 == 1 then "0" ++ String.ofList chars
      else String.ofList chars) = String.ofList (padEven chars) := by
  have ascii' : Text.Ascii (String.ofList chars).toList := by rwa [String.toList_ofList]
  rw [Text.utf8ByteSize_of_ascii ascii', String.length_ofList, padEven]
  by_cases odd : chars.length % 2 = 1
  · rw [if_pos (by simp [odd]), if_pos odd, ← String.toList_inj]
    simp
  · rw [if_neg (by simp [odd]), if_neg odd]

end Hex

/-! ### Texts with a prefix -/

theorem dropPrefix_append_toString (pre rest : String) : ((pre ++ rest).dropPrefix pre).toString = rest := by
  unfold String.dropPrefix String.Slice.dropPrefix
  cases dropped : (pre ++ rest).toSlice.dropPrefix? pre with
  | none => simp_all [String.Slice.dropPrefix?]
  | some remainder =>
    have split := String.eq_append_of_dropPrefix?_string_eq_some dropped
    simp only [String.append_right_inj, Option.getD_some] at split ⊢
    exact split.symm

theorem dropPrefix_toString_of_not {pre text : String} (absent : ¬ pre.toList <+: text.toList) :
    (text.dropPrefix pre).toString = text := by
  unfold String.dropPrefix String.Slice.dropPrefix
  cases dropped : text.toSlice.dropPrefix? pre with
  | none => simp
  | some remainder =>
    have split := String.eq_append_of_dropPrefix?_string_eq_some dropped
    exact absurd ⟨remainder.copy.toList, by rw [split, String.toList_append]⟩ absent

/-! ### The short form -/

namespace Address

theorem ofHex_eq_ok {text digits : String} {bytes : List UInt8}
    (bare : (((text.dropPrefix "0x").toString).dropPrefix "0X").toString = digits)
    (nonempty : digits.isEmpty = false) (fits : digits.utf8ByteSize ≤ 40)
    (decoded : Hex.decode (if digits.utf8ByteSize % 2 == 1 then "0" ++ digits else digits) = .ok bytes) :
    ofHex text = .ok (ofNat (Word.ofBigEndian bytes)) := by
  unfold ofHex
  simp only [bare, nonempty, Bool.false_eq_true, if_false]
  rw [if_neg (Nat.not_lt.mpr fits), decoded]
  rfl

theorem hex_toList (address : Address) : address.hex.toList = address.bytes.flatMap Hex.byteDigits := by
  rw [hex, Hex.encode, String.toList_ofList]

/-- The bytes of an address from its first nonzero byte on, or one zero byte for zero. -/
def significant (address : Address) : List UInt8 :=
  if (address.bytes.dropWhile (· == 0)).isEmpty then [0] else address.bytes.dropWhile (· == 0)

theorem ofBigEndian_significant (address : Address) : Word.ofBigEndian address.significant = address.toNat := by
  rw [toNat, ← Word.ofBigEndian_dropWhile_zero address.bytes, significant]
  split
  · rename_i empty
    rw [List.isEmpty_iff.mp empty]
    rfl
  · rfl

theorem short_eq (address : Address) :
    ∃ shown : List Char, address.short = "0x" ++ String.ofList shown ∧ shown ≠ [] ∧
      shown.length ≤ 40 ∧ (∀ char ∈ shown, char ∈ address.hex.toList ∨ char = '0') ∧
      Hex.padEven shown = address.significant.flatMap Hex.byteDigits := by
  have stripped := Hex.padEven_dropWhile address.bytes
  rw [← hex_toList] at stripped
  have zeroDigit : Hex.digit 0 = '0' := (Hex.digit_spec 0 (by decide)).2.2.1.mpr rfl
  by_cases empty : (address.hex.toList.dropWhile (· == '0')).isEmpty
  · have none : address.bytes.dropWhile (· == 0) = [] := by
      have counted := congrArg List.length stripped
      have nothing : (Hex.padEven []).length = 0 := rfl
      rw [List.isEmpty_iff.mp empty, Hex.length_flatMap_byteDigits, nothing] at counted
      exact List.eq_nil_of_length_eq_zero (by omega)
    refine ⟨['0'], by simp [short, empty], List.cons_ne_nil _ _, by simp, by simp, ?_⟩
    simp [significant, none, Hex.padEven, Hex.byteDigits, zeroDigit]
  · have kept : address.bytes.dropWhile (· == 0) ≠ [] := by
      intro none
      rw [none, List.flatMap_nil] at stripped
      have noDigits : address.hex.toList.dropWhile (· == '0') = [] := by
        unfold Hex.padEven at stripped
        split at stripped
        · cases stripped
        · exact stripped
      exact empty (List.isEmpty_iff.mpr noDigits)
    have within : (address.hex.toList.dropWhile (· == '0')).length ≤ address.hex.toList.length :=
      (List.dropWhile_sublist _).length_le
    rw [hex_toList, Hex.length_flatMap_byteDigits, address.length_eq] at within
    refine ⟨address.hex.toList.dropWhile (· == '0'), by simp [short, empty],
      fun none => empty (List.isEmpty_iff.mpr none), ?_, ?_, ?_⟩
    · rw [hex_toList]
      exact within
    · exact fun char member => Or.inl ((List.dropWhile_sublist _).subset member)
    · rw [significant, if_neg (by simpa using kept)]
      exact stripped

/-- An address reads back from its short form. -/
theorem parse_short (address : Address) : parse address.short = .ok address := by
  obtain ⟨shown, short, nonempty, fits, within, padded⟩ := short_eq address
  have shownChars : ∀ char ∈ shown, char.toNat < 128 ∧ char ≠ 'X' := by
    intro char member
    rcases within char member with inHex | isZero
    · rw [hex_toList] at inHex
      obtain ⟨value, small, rfl⟩ := Hex.mem_flatMap_byteDigits inHex
      have spec := Hex.digit_spec value small
      exact ⟨spec.1, spec.2.2.2⟩
    · rw [isZero]
      decide
  have ascii : Text.Ascii shown := fun char member => (shownChars char member).1
  have ascii' : Text.Ascii (String.ofList shown).toList := by rwa [String.toList_ofList]
  have noUpper : ¬ "0X".toList <+: (String.ofList shown).toList := by
    rintro ⟨rest, joined⟩
    have upper : 'X' ∈ (String.ofList shown).toList := by
      rw [← joined]
      simp
    rw [String.toList_ofList] at upper
    exact (shownChars 'X' upper).2 rfl
  have decoded : Hex.decode (String.ofList (Hex.padEven shown)) = .ok address.significant := by
    rw [padded, ← Hex.encode, Hex.decode_encode]
  rw [parse, parseWith, short, if_pos (by simp),
    ofHex_eq_ok (by rw [dropPrefix_append_toString, dropPrefix_toString_of_not noUpper])
      (by simpa using nonempty)
      (by rw [Text.utf8ByteSize_of_ascii ascii', String.length_ofList]; exact fits)
      (by rw [Hex.padded_ofList ascii]; exact decoded),
    ofBigEndian_significant, ofNat_toNat]

end Address

end Testbench
