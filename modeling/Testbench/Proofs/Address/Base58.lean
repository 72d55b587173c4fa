import Mathlib
import Testbench.Proofs.Address.Hex

/-!
Checked base58 address texts read back: the standard codec reads back what it writes, and over any
codec that does so and writes only base58 digits, an address text takes the base58 branch of parsing
and gives the address back.
-/

namespace Testbench

/-! ### The digest's length -/

namespace Sha256

theorem size_compress (state : Array UInt32) (block : List UInt8) : (compress state block).size = 8 := by
  unfold compress
  rfl

theorem size_foldl_compress :
    ∀ (blocks : List (List UInt8)) (state : Array UInt32), state.size = 8 →
      (blocks.foldl compress state).size = 8
  | [], _, sized => sized
  | block :: rest, state, _ => size_foldl_compress rest (compress state block) (size_compress state block)

@[simp] theorem length_digest (message : List UInt8) : (digest message).length = 32 := by
  have sized := size_foldl_compress (blocks (pad message)) initialState rfl
  simp only [digest, List.length_flatMap, Word.toBigEndian, List.length_reverse, Word.length_toLittleEndian]
  simp [sized]

end Sha256

/-! ### Widths of numbers -/

namespace Word

theorem byteWidth_zero : byteWidth 0 = 0 := by
  rw [byteWidth, if_pos rfl]

theorem byteWidth_of_ne_zero {value : Nat} (nonzero : value ≠ 0) : byteWidth value = byteWidth (value / 256) + 1 := by
  rw [byteWidth, if_neg nonzero]

theorem byteWidth_ofLittleEndian :
    ∀ (bytes : List UInt8), bytes.getLast? ≠ some 0 → byteWidth (ofLittleEndian bytes) = bytes.length
  | [], _ => byteWidth_zero
  | byte :: rest, topNonzero => by
    have restWidth : byteWidth (ofLittleEndian rest) = rest.length := by
      cases rest with
      | nil => exact byteWidth_zero
      | cons next later =>
        exact byteWidth_ofLittleEndian (next :: later) (by simpa [List.getLast?_cons_cons] using topNonzero)
    have nonzero : ofLittleEndian (byte :: rest) ≠ 0 := by
      rw [ofLittleEndian]
      intro zero
      cases rest with
      | nil =>
        have byteZero : byte = 0 := UInt8.toNat_inj.mp (by simp only [ofLittleEndian] at zero; simpa using zero)
        exact topNonzero (by simp [byteZero])
      | cons next later =>
        have : byteWidth (ofLittleEndian (next :: later)) = 0 := by
          rw [show ofLittleEndian (next :: later) = 0 by omega, byteWidth_zero]
        rw [restWidth] at this
        cases this
    have high : ofLittleEndian (byte :: rest) / 256 = ofLittleEndian rest := by
      rw [ofLittleEndian]
      have := byte.toNat_lt
      omega
    rw [byteWidth_of_ne_zero nonzero, high, restWidth, List.length_cons]

theorem byteWidth_ofBigEndian {bytes : List UInt8} (topNonzero : bytes.head? ≠ some 0) :
    byteWidth (ofBigEndian bytes) = bytes.length := by
  rw [ofBigEndian, byteWidth_ofLittleEndian bytes.reverse (by simpa using topNonzero), List.length_reverse]

end Word

/-! ### Base-58 digits -/

namespace Base58

theorem alphabet_eq : alphabet = ['1', '2', '3', '4', '5', '6', '7', '8', '9', 'A', 'B', 'C', 'D', 'E', 'F',
    'G', 'H', 'J', 'K', 'L', 'M', 'N', 'P', 'Q', 'R', 'S', 'T', 'U', 'V', 'W', 'X', 'Y', 'Z', 'a', 'b', 'c',
    'd', 'e', 'f', 'g', 'h', 'i', 'j', 'k', 'm', 'n', 'o', 'p', 'q', 'r', 's', 't', 'u', 'v', 'w', 'x', 'y',
    'z'] := by
  decide +kernel

theorem digit_spec (digit : Nat) (small : digit < 58) :
    digitValue (alphabet.getD digit '1') = .ok digit ∧ (alphabet.getD digit '1' = '1' ↔ digit = 0) ∧
      alphabet.getD digit '1' ≠ '0' := by
  rw [alphabet_eq]
  interval_cases digit <;> decide

theorem digitsOf_zero : digitsOf 0 = [] := by
  rw [digitsOf, if_pos rfl]

theorem digitsOf_of_ne_zero {value : Nat} (nonzero : value ≠ 0) :
    digitsOf value = digitsOf (value / 58) ++ [value % 58] := by
  rw [digitsOf, if_neg nonzero]

theorem lt_of_mem_digitsOf {value digit : Nat} (member : digit ∈ digitsOf value) : digit < 58 := by
  induction value using Nat.strong_induction_on with
  | _ value ih =>
    by_cases zero : value = 0
    · rw [zero, digitsOf_zero] at member
      cases member
    · rw [digitsOf_of_ne_zero zero] at member
      rcases List.mem_append.mp member with earlier | last
      · exact ih (value / 58) (by omega) earlier
      · rw [List.mem_singleton.mp last]
        omega

theorem foldl_digitsOf (value : Nat) : (digitsOf value).foldl (fun acc digit => acc * 58 + digit) 0 = value := by
  induction value using Nat.strong_induction_on with
  | _ value ih =>
    by_cases zero : value = 0
    · rw [zero, digitsOf_zero]
      rfl
    · rw [digitsOf_of_ne_zero zero, List.foldl_append, ih (value / 58) (by omega), List.foldl_cons,
        List.foldl_nil]
      omega

theorem digitsOf_head {value : Nat} (nonzero : value ≠ 0) :
    ∃ first rest, digitsOf value = first :: rest ∧ first ≠ 0 := by
  induction value using Nat.strong_induction_on with
  | _ value ih =>
    rw [digitsOf_of_ne_zero nonzero]
    by_cases single : value / 58 = 0
    · refine ⟨value % 58, [], by rw [single, digitsOf_zero]; rfl, by omega⟩
    · obtain ⟨first, rest, split, firstNonzero⟩ := ih (value / 58) (by omega) single
      exact ⟨first, rest ++ [value % 58], by rw [split]; rfl, firstNonzero⟩

/-! ### Reading base58 text -/

theorem forIn_digitValue {chars : List Char} {digits : List Nat}
    (valued : List.Forall₂ (fun char digit => digitValue char = .ok digit) chars digits) (start : Nat) :
    forIn chars start (fun char value => do
        let digit ← digitValue char
        pure (ForInStep.yield (value * 58 + digit))) =
      (.ok (digits.foldl (fun acc digit => acc * 58 + digit) start) : Except DecodeError Nat) := by
  induction valued generalizing start with
  | nil => rfl
  | cons first _ ih =>
    rw [List.forIn_cons, first]
    exact ih _

theorem decode_eq_ok {text : String} {digits : List Nat} (nonempty : text.isEmpty = false)
    (valued : List.Forall₂ (fun char digit => digitValue char = .ok digit) text.toList digits) :
    decode text = .ok (List.replicate (text.toList.takeWhile (· == '1')).length 0 ++
      Word.toBigEndian (Word.byteWidth (digits.foldl (fun acc digit => acc * 58 + digit) 0))
        (digits.foldl (fun acc digit => acc * 58 + digit) 0)) := by
  unfold decode
  simp only [nonempty, Bool.false_eq_true, if_false]
  rw [forIn_digitValue valued]
  rfl

theorem foldl_replicate_zero (count : Nat) :
    (List.replicate count 0).foldl (fun acc digit => acc * 58 + digit) 0 = 0 := by
  induction count with
  | zero => rfl
  | succ count ih => rw [List.replicate_succ', List.foldl_append, ih]; rfl

theorem replicate_append_dropWhile (bytes : List UInt8) :
    List.replicate (bytes.takeWhile (· == 0)).length 0 ++ bytes.dropWhile (· == 0) = bytes := by
  have leading : bytes.takeWhile (· == 0) = List.replicate (bytes.takeWhile (· == 0)).length 0 :=
    List.eq_replicate_iff.mpr ⟨rfl, fun byte member => by simpa using List.mem_takeWhile_imp member⟩
  rw [← leading]
  exact List.takeWhile_append_dropWhile

theorem head?_dropWhile_zero (bytes : List UInt8) : (bytes.dropWhile (· == 0)).head? ≠ some 0 := by
  intro headZero
  have notZero := List.head?_dropWhile_not (· == 0) bytes
  rw [show (bytes.dropWhile (· == 0)).head? = some 0 from headZero] at notZero
  simp at notZero

theorem byteWidth_ofBigEndian_dropWhile (bytes : List UInt8) :
    Word.byteWidth (Word.ofBigEndian bytes) = (bytes.dropWhile (· == 0)).length := by
  rw [← Word.ofBigEndian_dropWhile_zero bytes, Word.byteWidth_ofBigEndian (head?_dropWhile_zero bytes)]

theorem alphabet_getD_zero : alphabet.getD 0 '1' = '1' :=
  (digit_spec 0 (by decide)).2.1.mpr rfl

theorem encode_toList (bytes : List UInt8) :
    (encode bytes).toList = (List.replicate (bytes.takeWhile (· == 0)).length 0 ++
      digitsOf (Word.ofBigEndian bytes)).map (alphabet.getD · '1') := by
  rw [encode, String.toList_ofList, List.map_append, List.map_replicate, alphabet_getD_zero]

theorem forall₂_digitValue_encode (bytes : List UInt8) :
    List.Forall₂ (fun char digit => digitValue char = .ok digit) (encode bytes).toList
      (List.replicate (bytes.takeWhile (· == 0)).length 0 ++ digitsOf (Word.ofBigEndian bytes)) := by
  rw [encode_toList, List.forall₂_map_left_iff, List.forall₂_same]
  intro digit member
  rcases List.mem_append.mp member with leading | significant
  · rw [(List.mem_replicate.mp leading).2]
    exact (digit_spec 0 (by decide)).1
  · exact (digit_spec digit (lt_of_mem_digitsOf significant)).1

theorem takeWhile_one_encode (bytes : List UInt8) :
    ((encode bytes).toList.takeWhile (· == '1')).length = (bytes.takeWhile (· == 0)).length := by
  rw [encode_toList, List.map_append, List.map_replicate, alphabet_getD_zero,
    List.takeWhile_append_of_pos (by simp), List.length_append, List.length_replicate]
  by_cases zero : Word.ofBigEndian bytes = 0
  · rw [zero, digitsOf_zero]
    rfl
  · obtain ⟨first, later, digitsIs, firstNonzero⟩ := digitsOf_head zero
    have firstChar := (digit_spec first (lt_of_mem_digitsOf (digitsIs ▸ List.mem_cons_self))).2.1
    rw [digitsIs, List.map_cons,
      List.takeWhile_cons_of_neg (by simp only [beq_iff_eq]; rw [firstChar]; exact firstNonzero)]
    rfl

theorem encode_isEmpty {bytes : List UInt8} (nonempty : bytes ≠ []) : (encode bytes).isEmpty = false := by
  rw [Bool.eq_false_iff]
  intro empty
  have noChars : (encode bytes).toList = [] := by simpa using empty
  rw [encode_toList, List.map_eq_nil_iff, List.append_eq_nil_iff, List.replicate_eq_nil_iff] at noChars
  have whole := replicate_append_dropWhile bytes
  rw [noChars.1, List.replicate_zero, List.nil_append] at whole
  have width := byteWidth_ofBigEndian_dropWhile bytes
  rw [whole] at width
  have valueNonzero : Word.ofBigEndian bytes ≠ 0 := fun zero => by
    rw [zero, Word.byteWidth_zero] at width
    exact nonempty (List.eq_nil_of_length_eq_zero width.symm)
  obtain ⟨first, later, digitsIs, -⟩ := digitsOf_head valueNonzero
  rw [digitsIs] at noChars
  cases noChars.2

/-- Base58 text reads back as the bytes it was written from. -/
theorem decode_encode {bytes : List UInt8} (nonempty : bytes ≠ []) : decode (encode bytes) = .ok bytes := by
  have number : (List.replicate (bytes.takeWhile (· == 0)).length 0 ++ digitsOf (Word.ofBigEndian bytes)).foldl
      (fun acc digit => acc * 58 + digit) 0 = Word.ofBigEndian bytes := by
    rw [List.foldl_append, foldl_replicate_zero, foldl_digitsOf]
  rw [decode_eq_ok (encode_isEmpty nonempty) (forall₂_digitValue_encode bytes), number, takeWhile_one_encode,
    byteWidth_ofBigEndian_dropWhile, ← Word.ofBigEndian_dropWhile_zero bytes, Word.toBigEndian_ofBigEndian,
    replicate_append_dropWhile]

theorem mem_alphabet_encode (bytes : List UInt8) : ∀ char ∈ (encode bytes).toList, char ∈ alphabet := by
  rw [encode, String.toList_ofList]
  intro char member
  rcases List.mem_append.mp member with one | digit
  · rw [(List.mem_replicate.mp one).2]
    decide
  · obtain ⟨value, listed, rfl⟩ := List.mem_map.mp digit
    have small : value < alphabet.length := by
      rw [alphabet_eq]
      exact lt_of_mem_digitsOf listed
    rw [List.getD_eq_getElem _ _ small]
    exact List.getElem_mem small

theorem standard_inverts (bytes : List UInt8) (nonempty : bytes ≠ []) :
    standard.decode (standard.encode bytes) = .ok bytes :=
  decode_encode nonempty

@[simp] theorem length_checksum (bytes : List UInt8) : (checksum bytes).length = 4 := by
  simp [checksum]

section Codec

variable {codec : Codec}

theorem checkDecode_checkEncode
    (inverts : ∀ bytes : List UInt8, bytes ≠ [] → codec.decode (codec.encode bytes) = .ok bytes)
    {bytes : List UInt8} (nonempty : bytes ≠ []) :
    checkDecode codec (checkEncode codec bytes) = .ok bytes := by
  have decoded := inverts (bytes ++ checksum bytes) (by simp [nonempty])
  have sized := List.length_pos_iff.mpr nonempty
  have long : ¬ (bytes ++ checksum bytes).length < 5 := by
    rw [List.length_append, length_checksum]
    omega
  have cut : (bytes ++ checksum bytes).length - 4 = bytes.length := by
    rw [List.length_append, length_checksum]
    omega
  unfold checkDecode checkEncode
  simp only [decoded, bind, Except.bind, if_neg long, cut, List.take_left', List.drop_left',
    bne_self_eq_false, Bool.false_eq_true, if_false]
  rfl

end Codec

end Base58

namespace Address

theorem ofBytes_bytes (address : Address) : ofBytes address.bytes = .ok address := by
  rw [ofBytes, dif_pos address.length_eq]

section Codec

variable {codec : Base58.Codec}
  (inverts : ∀ bytes : List UInt8, bytes ≠ [] → codec.decode (codec.encode bytes) = .ok bytes)
include inverts

theorem ofBase58With_toBase58With (address : Address) :
    ofBase58With codec (toBase58With codec address) = .ok address := by
  unfold ofBase58With toBase58With
  simp only [Base58.checkDecode_checkEncode inverts (List.cons_ne_nil _ _), Except.mapError, bind,
    Except.bind, List.length_cons, address.length_eq, bne_self_eq_false, Bool.false_eq_true, if_false,
    List.head?_cons, List.drop_one, List.tail_cons]
  exact ofBytes_bytes address

/-- An address reads back from its checked base58 text, over a codec that reads back what it writes
and writes only base58 digits: such a text starts with no `0x`. -/
theorem parseWith_toBase58With
    (digits : ∀ bytes : List UInt8, ∀ char ∈ (codec.encode bytes).toList, char ∈ Base58.alphabet)
    (address : Address) : parseWith codec (toBase58With codec address) = .ok address := by
  have noZero : '0' ∉ (toBase58With codec address).toList := fun zero =>
    absurd (digits _ '0' zero) (by rw [Base58.alphabet_eq]; decide)
  have notHex : ∀ pre : String, pre.toList.head? = some '0' →
      (toBase58With codec address).startsWith pre = false := by
    intro pre startsZero
    rw [String.startsWith_string_eq_false_iff]
    rintro ⟨rest, joined⟩
    apply noZero
    rw [← joined]
    cases listed : pre.toList with
    | nil => rw [listed] at startsZero; cases startsZero
    | cons first later =>
      rw [listed] at startsZero
      cases startsZero
      exact List.mem_cons_self
  rw [parseWith, notHex "0x" rfl, notHex "0X" rfl]
  exact ofBase58With_toBase58With inverts address

end Codec

theorem parse_toBase58 (address : Address) : parse address.toBase58 = .ok address :=
  parseWith_toBase58With Base58.standard_inverts Base58.mem_alphabet_encode address

end Address

end Testbench
