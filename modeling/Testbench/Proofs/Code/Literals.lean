import Mathlib
import Testbench.Code.Assembler
import Testbench.Proofs.Code.Offsets
import Testbench.Proofs.Machine.Arithmetic

/-!
Literals as the assembler writes them read back as one instruction that spans what was written
and pushes the same item. A byte string of 253 to 255 bytes is the exception: its three-byte length
is read as a length byte of 253.
-/

namespace Testbench

/-! ### Widths of numbers -/

namespace Word

theorem lt_two_pow_iff (value bits : Nat) : value < 2 ^ bits ↔ bitLength value ≤ bits := by
  unfold bitLength
  split
  · rename_i zero
    subst zero
    simp
  · rename_i nonzero
    rw [← Nat.log2_lt nonzero]
    omega

theorem lt_pow_iff_bytes_le (value width : Nat) :
    value < 256 ^ width ↔ (bitLength value + 7) / 8 ≤ width := by
  rw [show (256 : Nat) = 2 ^ 8 by norm_num, ← pow_mul, lt_two_pow_iff]
  omega

theorem take_toLittleEndian (value : Nat) {count width : Nat} (le : count ≤ width) :
    (toLittleEndian width value).take count = toLittleEndian count value := by
  induction count generalizing width value with
  | zero => simp [toLittleEndian]
  | succ count ih =>
    obtain ⟨width, rfl⟩ : ∃ smaller, width = smaller + 1 := ⟨width - 1, by omega⟩
    rw [toLittleEndian, toLittleEndian, List.take_succ_cons, ih (value / 256) (Nat.le_of_succ_le_succ le)]

theorem ofBigEndian_reverse (bytes : List UInt8) : ofBigEndian bytes.reverse = ofLittleEndian bytes := by
  rw [ofBigEndian, List.reverse_reverse]

theorem ofLittleEndian_toLittleEndian_of_lt {width value : Nat} (fits : value < 256 ^ width) :
    ofLittleEndian (toLittleEndian width value) = value := by
  rw [ofLittleEndian_toLittleEndian, Nat.pow_eq, Nat.mod_eq_of_lt fits]

end Word

/-! ### Decoding what is written -/

namespace Code

theorem decode_sized {opcode : Opcode} {operand : List UInt8} (sized : operand.length = opcode.operandSize)
    (notData : opcode ≠ .pushData1) :
    decode (opcode.byte :: operand) 0 = .ok ⟨opcode, operand, 1 + operand.length⟩ := by
  have formed : (⟨opcode, operand⟩ : Written).WellFormed := by
    rw [Written.WellFormed, if_neg notData]
    exact sized
  have decoded := decode_written formed [] []
  rw [Written.bytes_sized notData, List.nil_append, List.append_nil, List.length_nil, Nat.zero_add,
    List.length_cons, Nat.add_comm] at decoded
  exact decoded

theorem decode_pushData1 {data : List UInt8} (short : data.length < 256) :
    decode (Opcode.pushData1.byte :: data.length.toUInt8 :: data) 0 =
      .ok ⟨.pushData1, data, 2 + data.length⟩ := by
  have formed : (⟨.pushData1, data⟩ : Written).WellFormed := by
    rw [Written.WellFormed, if_pos rfl]
    exact short
  have spans : (Opcode.pushData1.byte :: data.length.toUInt8 :: data).length = 2 + data.length := by
    simp only [List.length_cons]
    omega
  have decoded := decode_written formed [] []
  rw [Written.bytes_data, List.nil_append, List.append_nil, List.length_nil, Nat.zero_add, spans] at decoded
  exact decoded

theorem decode_pushData1_marker {rest : List UInt8} (long : 253 ≤ rest.length) :
    decode (Opcode.pushData1.byte :: 0xfd :: rest) 0 = .ok ⟨.pushData1, rest.take 253, 255⟩ := by
  have taken : (rest.take 253).length = 253 := List.length_take_of_le long
  have formed : (⟨.pushData1, rest.take 253⟩ : Written).WellFormed := by
    rw [Written.WellFormed, if_pos rfl, taken]
    decide
  have decoded := decode_written formed [] (rest.drop 253)
  rw [Written.bytes_data, List.nil_append, List.length_nil, Nat.zero_add, List.length_cons, List.length_cons,
    taken, List.cons_append, List.cons_append, List.take_append_drop] at decoded
  exact decoded

end Code

/-! ### Running literals -/

namespace Exec

variable {decoded : Code.Decoded}

theorem outcome_perform_pushInt
    (sized : decoded.opcode ∈ [.pushInt8, .pushInt16, .pushInt32, .pushInt64, .pushInt128, .pushInt256])
    (machine : Machine) :
    outcome (perform decoded) machine =
      outcome (push (.integer (Word.ofBigEndian decoded.operand.reverse))) machine := by
  obtain ⟨current, framed⟩ := outcome_frame_self machine
  unfold perform
  rw [outcome_bind_of_ok framed]
  simp only [List.mem_cons, List.not_mem_nil, or_false] at sized
  rcases sized with opcodeIs | opcodeIs | opcodeIs | opcodeIs | opcodeIs | opcodeIs <;> simp only [opcodeIs]

/-- The opcodes that push the integers up to sixteen, in order. -/
def smallPushes : List Opcode :=
  [.push0, .push1, .push2, .push3, .push4, .push5, .push6, .push7, .push8, .push9, .push10, .push11,
    .push12, .push13, .push14, .push15, .push16]

theorem outcome_perform_smallPush (small : decoded.opcode ∈ smallPushes) (machine : Machine) :
    outcome (perform decoded) machine =
      outcome (push (.integer (decoded.opcode.byte.toNat - Opcode.push0.byte.toNat))) machine := by
  obtain ⟨current, framed⟩ := outcome_frame_self machine
  unfold perform
  rw [outcome_bind_of_ok framed]
  simp only [smallPushes, List.mem_cons, List.not_mem_nil, or_false] at small
  rcases small with opcodeIs | opcodeIs | opcodeIs | opcodeIs | opcodeIs | opcodeIs | opcodeIs | opcodeIs |
    opcodeIs | opcodeIs | opcodeIs | opcodeIs | opcodeIs | opcodeIs | opcodeIs | opcodeIs | opcodeIs <;>
    simp only [opcodeIs]

theorem outcome_perform_pushData1 (isData : decoded.opcode = .pushData1) (machine : Machine) :
    outcome (perform decoded) machine = outcome (push (.bytes decoded.operand)) machine := by
  obtain ⟨current, framed⟩ := outcome_frame_self machine
  unfold perform
  rw [outcome_bind_of_ok framed]
  simp only [isData]

end Exec

/-! ### What the assembler writes -/

namespace Code

/-- An instruction decoded at the start of `code` that spans the whole of it and, run on any
machine, pushes `item`. -/
structure Literal (code : List UInt8) (item : Item) (decoded : Decoded) : Prop where
  decodes : decode code 0 = .ok decoded
  spans : decoded.next = code.length
  pushes : ∀ machine, Exec.outcome (Exec.perform decoded) machine = Exec.outcome (Exec.push item) machine

namespace Assembler

theorem integerWidth_cases (value : Nat) :
    integerWidth value ∈ [(.pushInt8, 1), (.pushInt16, 2), (.pushInt32, 4), (.pushInt64, 8),
      (.pushInt128, 16), (.pushInt256, 32)] := by
  dsimp only [integerWidth]
  split_ifs <;> simp

theorem integerWidth_narrowest {value : Nat} (range : value < 2 ^ 256) :
    value < 256 ^ (integerWidth value).2 ∧
      ∀ width ∈ [1, 2, 4, 8, 16, 32], value < 256 ^ width → (integerWidth value).2 ≤ width := by
  have bytes32 := (Word.lt_pow_iff_bytes_le value 32).mp (by norm_num at range ⊢; exact range)
  simp only [List.mem_cons, List.not_mem_nil, or_false, forall_eq_or_imp, forall_eq, Word.lt_pow_iff_bytes_le]
  dsimp only [integerWidth]
  split_ifs <;> omega

theorem bigEndian_tail (value width : Nat) (within : width ≤ 32) :
    (List.range width).map (fun index => (Word.toBigEndian 32 value).getD (31 - index) 0) =
      Word.toLittleEndian width value := by
  rw [← Word.take_toLittleEndian value within]
  apply List.ext_getElem
  · simp [within]
  · intro index inMap inTake
    have below : index < width := by simpa using inMap
    rw [List.getElem_map, List.getElem_range, List.getElem_take, Word.toBigEndian,
      List.getD_eq_getElem _ _ (by simp; omega), List.getElem_reverse]
    congr 1
    simp
    omega

theorem bigInteger_code (value : Nat) :
    (({} : Assembler).bigInteger value).result =
      .ok ((integerWidth value).1.byte :: Word.toLittleEndian (integerWidth value).2 value) := by
  have within : (integerWidth value).2 ≤ 32 := by
    have cases := integerWidth_cases value
    simp only [List.mem_cons, List.not_mem_nil, or_false] at cases
    rcases cases with same | same | same | same | same | same <;> rw [same] <;> decide
  rcases widthIs : integerWidth value with ⟨opcode, width⟩
  rw [widthIs] at within
  simp only [bigInteger, widthIs]
  rw [bigEndian_tail value width within]
  rfl

theorem bigInteger_literal {value : Nat} (range : value < 2 ^ 256) :
    ∃ decoded, Literal ((integerWidth value).1.byte :: Word.toLittleEndian (integerWidth value).2 value)
        (.integer value) decoded ∧
      decoded.opcode ∈ [.pushInt8, .pushInt16, .pushInt32, .pushInt64, .pushInt128, .pushInt256] ∧
      decoded.operand.length = (integerWidth value).2 := by
  have cases := integerWidth_cases value
  obtain ⟨fits, -⟩ := integerWidth_narrowest range
  rcases widthIs : integerWidth value with ⟨opcode, width⟩
  rw [widthIs] at cases fits
  have sized : opcode.operandSize = width ∧
      opcode ∈ [.pushInt8, .pushInt16, .pushInt32, .pushInt64, .pushInt128, .pushInt256] ∧
      opcode ≠ .pushData1 := by
    simp only [List.mem_cons, List.not_mem_nil, or_false, Prod.mk.injEq] at cases
    rcases cases with ⟨rfl, rfl⟩ | ⟨rfl, rfl⟩ | ⟨rfl, rfl⟩ | ⟨rfl, rfl⟩ | ⟨rfl, rfl⟩ | ⟨rfl, rfl⟩ <;>
      decide
  have operandSized : (Word.toLittleEndian width value).length = opcode.operandSize := by
    rw [Word.length_toLittleEndian, sized.1]
  refine ⟨_, ⟨decode_sized operandSized sized.2.2, ?_, fun machine => ?_⟩, sized.2.1,
    Word.length_toLittleEndian width value⟩
  · simp only [List.length_cons, Word.length_toLittleEndian]
    omega
  · rw [Exec.outcome_perform_pushInt sized.2.1, Word.ofBigEndian_reverse,
      Word.ofLittleEndian_toLittleEndian_of_lt fits]

theorem smallPushes_table : ∀ small : Fin 17, ∃ opcode ∈ Exec.smallPushes,
    Opcode.ofByte? (Opcode.push0.byte + small.val.toUInt8) = some opcode ∧
      opcode.byte = Opcode.push0.byte + small.val.toUInt8 ∧ opcode.name = "PUSH" ++ toString small.val := by
  decide

theorem smallPushes_sized : ∀ opcode ∈ Exec.smallPushes, opcode.operandSize = 0 ∧ opcode ≠ .pushData1 := by
  decide

theorem small_literal {value : Nat} (small : value ≤ 16) :
    ∃ decoded, Literal [Opcode.push0.byte + value.toUInt8] (.integer value) decoded ∧
      decoded.opcode.name = "PUSH" ++ toString value := by
  obtain ⟨opcode, listed, -, byteIs, named⟩ := smallPushes_table ⟨value, by omega⟩
  obtain ⟨sized, notData⟩ := smallPushes_sized opcode listed
  have distance : opcode.byte.toNat - Opcode.push0.byte.toNat = value := by
    rw [byteIs, UInt8.toNat_add]
    simp only [Opcode.byte, Nat.toUInt8, UInt8.toNat_ofNat', UInt8.toNat_ofNat]
    omega
  refine ⟨⟨opcode, [], 1⟩, ⟨?_, rfl, fun machine => ?_⟩, named⟩
  · rw [← byteIs]
    exact decode_sized (by rw [sized]; rfl) notData
  · rw [Exec.outcome_perform_smallPush listed, distance]

theorem data_code {bytes : List UInt8} (short : bytes.length < 0xfd) :
    (({} : Assembler).data bytes).result = .ok (Opcode.pushData1.byte :: bytes.length.toUInt8 :: bytes) := by
  have fits : ¬ bytes.length > maxData := by
    unfold maxData
    omega
  simp [data, fits, raw, result, Codec.encodeVarUint, short]

theorem data_code_marked {bytes : List UInt8} (wide : 0xfd ≤ bytes.length) (most : bytes.length ≤ 255) :
    (({} : Assembler).data bytes).result =
      .ok (Opcode.pushData1.byte :: 0xfd :: (Word.toLittleEndian 2 bytes.length ++ bytes)) := by
  have fits : ¬ bytes.length > maxData := by
    unfold maxData
    omega
  have twoBytes : bytes.length ≤ 0xffff := by omega
  simp [data, fits, raw, result, Codec.encodeVarUint, Nat.not_lt.mpr wide, twoBytes]

theorem data_literal {bytes : List UInt8} (short : bytes.length < 0xfd) :
    ∃ decoded, Literal (Opcode.pushData1.byte :: bytes.length.toUInt8 :: bytes) (.bytes bytes) decoded :=
  ⟨_, decode_pushData1 (by omega), by simp only [List.length_cons]; omega,
    fun machine => Exec.outcome_perform_pushData1 rfl machine⟩

theorem data_marked_splits {bytes : List UInt8} (wide : 0xfd ≤ bytes.length) :
    ∃ decoded, decode (Opcode.pushData1.byte :: 0xfd :: (Word.toLittleEndian 2 bytes.length ++ bytes)) 0 =
        .ok decoded ∧
      decoded.next < (Opcode.pushData1.byte :: 0xfd :: (Word.toLittleEndian 2 bytes.length ++ bytes)).length := by
  refine ⟨_, decode_pushData1_marker (by simp; omega), ?_⟩
  simp only [List.length_cons, List.length_append, Word.length_toLittleEndian]
  omega

end Assembler

end Code

/-- The assembler and the machine agree on literals. An integer below `2 ^ 256` is written as
one instruction that spans what was written and pushes the integer, a sized push of the
narrowest of the widths 1, 2, 4, 8, 16 and 32 bytes that holds it. An integer below `2 ^ 64` is
written as one instruction that pushes it, `PUSHn` for an integer `n` up to sixteen. A byte
string of at most 252 bytes is written as one instruction that pushes it. A byte string of 253
to 255 bytes is written with a length the machine misreads: the instruction it decodes ends
before the bytes written do. -/
theorem literals_read_back (value : Nat) (bytes : List UInt8) :
    (value < 2 ^ 256 → ∃ code decoded, (({} : Code.Assembler).bigInteger value).result = .ok code ∧
      Code.Literal code (.integer value) decoded ∧
      decoded.opcode ∈ [.pushInt8, .pushInt16, .pushInt32, .pushInt64, .pushInt128, .pushInt256] ∧
      decoded.operand.length ∈ [1, 2, 4, 8, 16, 32] ∧ value < 256 ^ decoded.operand.length ∧
      ∀ width ∈ [1, 2, 4, 8, 16, 32], value < 256 ^ width → decoded.operand.length ≤ width) ∧
    (value < 2 ^ 64 → ∃ code decoded, (({} : Code.Assembler).integer value).result = .ok code ∧
      Code.Literal code (.integer value) decoded ∧
      (value ≤ 16 → code.length = 1 ∧ decoded.opcode.name = "PUSH" ++ toString value)) ∧
    (bytes.length ≤ 252 → ∃ code decoded,
      (({} : Code.Assembler).data bytes).result = .ok code ∧ Code.Literal code (.bytes bytes) decoded) ∧
    (253 ≤ bytes.length → bytes.length ≤ 255 → ∃ code decoded,
      (({} : Code.Assembler).data bytes).result = .ok code ∧ Code.decode code 0 = .ok decoded ∧
        decoded.next < code.length) := by
  refine ⟨fun range => ?_, fun range => ?_, fun short => ?_, fun wide most => ?_⟩
  · obtain ⟨decoded, literal, sized, width⟩ := Code.Assembler.bigInteger_literal range
    have cases := Code.Assembler.integerWidth_cases value
    obtain ⟨fits, narrowest⟩ := Code.Assembler.integerWidth_narrowest range
    refine ⟨_, decoded, Code.Assembler.bigInteger_code value, literal, sized, ?_, ?_, ?_⟩
    · rw [width]
      simp only [List.mem_cons, List.not_mem_nil, or_false] at cases ⊢
      rcases cases with same | same | same | same | same | same <;> simp [same]
    · rwa [width]
    · rwa [width]
  · by_cases small : value ≤ 16
    · obtain ⟨decoded, literal, named⟩ := Code.Assembler.small_literal small
      refine ⟨_, decoded, ?_, literal, fun _ => ⟨rfl, named⟩⟩
      simp [Code.Assembler.integer, small, Code.Assembler.raw, Code.Assembler.result]
    · have large : ({} : Code.Assembler).integer value = ({} : Code.Assembler).bigInteger value := by
        simp [Code.Assembler.integer, small]
      obtain ⟨decoded, literal, -⟩ := Code.Assembler.bigInteger_literal (Nat.lt_trans range (by norm_num))
      exact ⟨_, decoded, by rw [large, Code.Assembler.bigInteger_code], literal, fun atMost => absurd atMost small⟩
  · obtain ⟨decoded, literal⟩ := Code.Assembler.data_literal (show bytes.length < 0xfd by omega)
    exact ⟨_, decoded, Code.Assembler.data_code (by omega), literal⟩
  · obtain ⟨decoded, decodes, early⟩ := Code.Assembler.data_marked_splits wide
    exact ⟨_, decoded, Code.Assembler.data_code_marked wide most, decodes, early⟩

/-- One literal of each kind: `300` takes a two-byte push, `7` is `PUSH7`, three bytes are one
push, and 253 bytes are misread. -/
theorem literal_kinds_read_back :
    (300 < 2 ^ 256 ∧ ∃ code decoded, (({} : Code.Assembler).bigInteger 300).result = .ok code ∧
      Code.Literal code (.integer 300) decoded ∧
      decoded.opcode ∈ [.pushInt8, .pushInt16, .pushInt32, .pushInt64, .pushInt128, .pushInt256] ∧
      decoded.operand.length ∈ [1, 2, 4, 8, 16, 32] ∧ 300 < 256 ^ decoded.operand.length ∧
      ∀ width ∈ [1, 2, 4, 8, 16, 32], 300 < 256 ^ width → decoded.operand.length ≤ width) ∧
    (7 < 2 ^ 64 ∧ ∃ code decoded, (({} : Code.Assembler).integer 7).result = .ok code ∧
      Code.Literal code (.integer 7) decoded ∧
      (7 ≤ 16 → code.length = 1 ∧ decoded.opcode.name = "PUSH" ++ toString 7)) ∧
    ([1, 2, 3] : List UInt8).length ≤ 252 ∧ (∃ code decoded,
      (({} : Code.Assembler).data [1, 2, 3]).result = .ok code ∧ Code.Literal code (.bytes [1, 2, 3]) decoded) ∧
    253 ≤ (List.replicate 253 (0 : UInt8)).length ∧ (List.replicate 253 (0 : UInt8)).length ≤ 255 ∧
      ∃ code decoded, (({} : Code.Assembler).data (List.replicate 253 0)).result = .ok code ∧
        Code.decode code 0 = .ok decoded ∧ decoded.next < code.length := by
  have long : (List.replicate 253 (0 : UInt8)).length = 253 := List.length_replicate
  exact ⟨⟨by norm_num, (literals_read_back 300 []).1 (by norm_num)⟩,
    ⟨by norm_num, (literals_read_back 7 []).2.1 (by norm_num)⟩, by decide,
    (literals_read_back 0 [1, 2, 3]).2.2.1 (by decide), long.ge, by rw [long]; decide,
    (literals_read_back 0 (List.replicate 253 0)).2.2.2 long.ge (by rw [long]; decide)⟩

end Testbench
