import Mathlib
import Testbench.Bytes.Word
import Testbench.Proofs.Bytes.Utf8
import Testbench.Compression.Zstd.Frame

/-!
A frame of raw blocks decompresses to its content: the header, one raw block marked last and the
content's checksum read back as the content. Byte arrays are read here through their lists of bytes.
-/

namespace Testbench

-- proved by unfolding rather than by `rfl`: as a definitional lemma `simp` would leave each use
-- to the kernel, which then unfolds the decoder on the whole frame
theorem Except.ok_bind {ε α β : Type} (value : α) (next : α → Except ε β) :
    (Except.ok value >>= next) = next value := by
  simp only [bind, Except.bind]

namespace Zstd

theorem toUInt8_eq_mod (value : Nat) : value.toUInt8 = (value % 256).toUInt8 := by
  apply UInt8.toNat_inj.mp
  simp

theorem bytes_three (value : Nat) :
    [value.toUInt8, (value / 256).toUInt8, (value / 65536).toUInt8] = Word.toLittleEndian 3 value := by
  simp only [Word.toLittleEndian, Nat.div_div_eq_div_mul]
  rw [toUInt8_eq_mod value, toUInt8_eq_mod (value / 256), toUInt8_eq_mod (value / 65536)]

theorem bytes_four (value : Nat) :
    [value.toUInt8, (value / 256).toUInt8, (value / 65536).toUInt8, (value / 16777216).toUInt8] =
      Word.toLittleEndian 4 value := by
  simp only [Word.toLittleEndian, Nat.div_div_eq_div_mul]
  rw [toUInt8_eq_mod value, toUInt8_eq_mod (value / 256), toUInt8_eq_mod (value / 65536),
    toUInt8_eq_mod (value / 16777216)]

theorem rawChunks {content : ByteArray} (small : content.size ≤ maxBlockSize) :
    (if ((List.range ((content.size + maxBlockSize - 1) / maxBlockSize)).map fun index =>
      content.extract (index * maxBlockSize) ((index + 1) * maxBlockSize)).isEmpty then [ByteArray.empty]
    else ((List.range ((content.size + maxBlockSize - 1) / maxBlockSize)).map fun index =>
      content.extract (index * maxBlockSize) ((index + 1) * maxBlockSize))) = [content] := by
  by_cases empty : content.size = 0
  · have isEmpty : content = ByteArray.empty := ByteArray.size_eq_zero_iff.mp empty
    subst isEmpty
    have none : (ByteArray.empty.size + maxBlockSize - 1) / maxBlockSize = 0 := by decide
    rw [none]
    rfl
  · have one : (content.size + maxBlockSize - 1) / maxBlockSize = 1 := by
      unfold maxBlockSize at small ⊢
      omega
    rw [one]
    simp only [List.range_one, List.map_cons, List.map_nil, Nat.zero_mul, Nat.zero_add, Nat.one_mul,
      List.isEmpty_cons, Bool.false_eq_true, if_false]
    congr 1
    apply ByteArray.ext
    rw [ByteArray.data_extract, Array.extract_eq_self_of_le (by simpa using small)]

theorem compressRaw_toList {content : ByteArray} (small : content.size ≤ maxBlockSize) :
    (compressRaw content).data.toList = [0x28, 0xB5, 0x2F, 0xFD, 0x04, 0x58] ++
      Word.toLittleEndian 3 (content.size * 8 + 1) ++ content.data.toList ++
      Word.toLittleEndian 4 (Xxhash.hash64 content).toNat := by
  unfold compressRaw
  dsimp only
  rw [rawChunks small]
  simp only [List.zipIdx_cons, List.zipIdx_nil, List.foldl_cons, List.foldl_nil, List.length_singleton,
    Nat.zero_add, if_true, ByteArray.toList_data_append, ByteArray.data_empty]
  rw [bytes_three, bytes_four, List.nil_append]
  simp only [List.append_assoc]
  rfl

theorem byteAt_eq (data : ByteArray) (index : Nat) :
    byteAt data index = ((data.data.toList[index]?).getD 0).toNat := by
  unfold byteAt
  simp [getElem?_def, ByteArray.getElem_eq_getElem_data]

theorem byteAt_extract {data : ByteArray} {start stop index : Nat} (inside : start + index < stop) :
    byteAt (data.extract start stop) index = byteAt data (start + index) := by
  rw [byteAt_eq, byteAt_eq, ByteArray.data_extract, Array.toList_extract, List.extract_eq_take_drop,
    List.getElem?_take_of_lt (by omega), List.getElem?_drop]

theorem take_of_le {data : ByteArray} {position count : Nat} (inside : position + count ≤ data.size) :
    take data position count = .ok (data.extract position (position + count), position + count) := if_pos inside

theorem littleEndianAt_succ (data : ByteArray) (position count : Nat) :
    littleEndianAt data position (count + 1) = byteAt data position + 256 * littleEndianAt data (position + 1) count := by
  unfold littleEndianAt
  rw [List.range_succ_eq_map, List.foldr_cons, List.foldr_map, Nat.add_zero]
  have sameStep : (fun index acc => byteAt data (position + index.succ) + 256 * acc) =
      fun index acc => byteAt data (position + 1 + index) + 256 * acc := by
    funext index acc
    congr 2
    omega
  rw [sameStep]

theorem littleEndianAt_eq (data : ByteArray) (position count : Nat) :
    littleEndianAt data position count = Word.ofLittleEndian ((data.data.toList.drop position).take count) := by
  induction count generalizing position with
  | zero => rfl
  | succ count ih =>
    rw [littleEndianAt_succ, ih, byteAt_eq]
    by_cases inside : position < data.data.toList.length
    · rw [List.drop_eq_getElem_cons inside, List.take_succ_cons, List.getElem?_eq_getElem inside]
      rfl
    · have beyond : data.data.toList.length ≤ position := Nat.le_of_not_lt inside
      rw [List.drop_eq_nil_of_le beyond, List.drop_eq_nil_of_le (by omega), List.getElem?_eq_none beyond]
      simp [Word.ofLittleEndian]

theorem littleEndianAt_extract {data : ByteArray} {start stop count : Nat} (inside : start + count ≤ stop) :
    littleEndianAt (data.extract start stop) 0 count = littleEndianAt data start count := by
  rw [littleEndianAt_eq, littleEndianAt_eq, ByteArray.data_extract, Array.toList_extract,
    List.extract_eq_take_drop, List.drop_zero, List.take_take, Nat.min_eq_left (by omega)]

theorem compressRaw_size {content : ByteArray} (small : content.size ≤ maxBlockSize) :
    (compressRaw content).size = content.size + 13 := by
  rw [← ByteArray.size_data, ← Array.length_toList, compressRaw_toList small]
  simp
  omega

theorem decodeBlocks_compressRaw {content : ByteArray} (small : content.size ≤ maxBlockSize) (fuel : Nat) :
    decodeBlocks (compressRaw content) ⟨2 ^ 21, none, true⟩ (fuel + 1) 6 {} ByteArray.empty =
      .ok (content, content.size + 9) := by
  have layout := compressRaw_toList small
  have size := compressRaw_size small
  have head : littleEndianAt ((compressRaw content).extract 6 9) 0 3 = content.size * 8 + 1 := by
    rw [littleEndianAt_extract (by omega), littleEndianAt_eq, layout]
    simp only [List.append_assoc, List.cons_append, List.drop_succ_cons, List.drop_zero, List.nil_append]
    rw [List.take_left' (Word.length_toLittleEndian 3 _), Word.ofLittleEndian_toLittleEndian, Nat.mod_eq_of_lt]
    unfold maxBlockSize at small
    simp only [Nat.pow_eq]
    omega
  have chunk : (compressRaw content).extract 9 (9 + content.size) = content := by
    apply ByteArray.ext
    apply Array.toList_inj.mp
    rw [ByteArray.data_extract, Array.toList_extract, List.extract_eq_take_drop, layout]
    simp
  have last : (content.size * 8 + 1) % 2 = 1 := by omega
  have kind : (content.size * 8 + 1) / 2 % 4 = 0 := by omega
  have length : (content.size * 8 + 1) / 8 = content.size := by omega
  have block : take (compressRaw content) 9 content.size = .ok (content, 9 + content.size) := by
    rw [take_of_le (by omega), chunk]
  have fits : content.size ≤ 131072 := small
  rw [decodeBlocks]
  simp [Except.ok_bind, take_of_le, size, head, last, kind, length, block, maxBlockSize, maxDecodedSize]
  rw [if_neg (by omega), if_neg (by omega), Nat.add_comm]
  rfl

theorem readFrameStart_compressRaw {content : ByteArray} (small : content.size ≤ maxBlockSize) :
    readFrameStart (compressRaw content) 0 = .ok (.frame ⟨2 ^ 21, none, true⟩ 6) := by
  have layout := compressRaw_toList small
  have size := compressRaw_size small
  have descriptor : byteAt (compressRaw content) 4 = 4 := by
    rw [byteAt_eq, layout]
    rfl
  have windowByte : byteAt (compressRaw content) 5 = 88 := by
    rw [byteAt_eq, layout]
    rfl
  unfold readFrameStart
  simp [Except.ok_bind, take_of_le, size, byteAt_extract, descriptor, windowByte, layout, byteArray_toList,
    Array.toList_extract, frameMagic, littleEndianAt, maxDecodedSize, minWindow]

theorem decodeFrame_compressRaw {content : ByteArray} (small : content.size ≤ maxBlockSize) :
    decodeFrame (compressRaw content) ⟨2 ^ 21, none, true⟩ 6 = .ok (content, content.size + 13) := by
  have layout := compressRaw_toList small
  have size := compressRaw_size small
  have sum : littleEndianAt ((compressRaw content).extract (content.size + 9) (content.size + 9 + 4)) 0 4 =
      (Xxhash.hash64 content).toNat % Nat.pow 2 32 := by
    rw [littleEndianAt_extract (by omega), littleEndianAt_eq, layout,
      List.drop_left' (by simp; omega), List.take_of_length_le (by simp), Word.ofLittleEndian_toLittleEndian]
  unfold decodeFrame
  rw [decodeBlocks_compressRaw small]
  simp [Except.ok_bind, take_of_le, size, sum]
  rfl

theorem decompress_compressRaw {content : ByteArray} (small : content.size ≤ maxBlockSize) :
    decompress (compressRaw content) = .ok content := by
  have size := compressRaw_size small
  unfold decompress
  rw [decodeFrames, readFrameStart_compressRaw small]
  simp only [Except.ok_bind]
  rw [decodeFrame_compressRaw small]
  simp [Except.ok_bind, size, maxDecodedSize]
  rw [if_neg (by unfold maxBlockSize at small; omega)]
  rfl

end Zstd

end Testbench
