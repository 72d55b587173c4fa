import Testbench.Codec.VarUint
/-!
Variable-length numbers have exactly one encoding.

Reading succeeds on exactly the inputs that start with the shortest form of a number below
`UInt64.size`, gives that number and leaves the rest unread; a form longer than needed is refused as
non-canonical. The proof reads each marker byte in turn: a wide form is a fixed run of bytes
read little-endian, and writing that number back in the same width gives the same run.
-/

namespace Testbench.Codec

open Decoder

theorem toLittleEndian_ofLittleEndian (bytes : List UInt8) :
    Word.toLittleEndian bytes.length (Word.ofLittleEndian bytes) = bytes := by
  induction bytes with
  | nil => rfl
  | cons byte rest ih =>
    simp only [List.length_cons, Word.toLittleEndian, Word.ofLittleEndian]
    have low : (byte.toNat + 256 * Word.ofLittleEndian rest) % 256 = byte.toNat := by
      have := byte.toNat_lt
      omega
    have high : (byte.toNat + 256 * Word.ofLittleEndian rest) / 256 = Word.ofLittleEndian rest := by
      have := byte.toNat_lt
      omega
    rw [low, high, ih]
    simp

theorem run_bind {ε α β : Type} (first : Decoder ε α) (next : α → Decoder ε β) (input : List UInt8) :
    (first >>= next) input =
      match first input with
      | .ok (value, rest) => next value rest
      | .error failure => .error failure := rfl

theorem run_pure {ε α : Type} (value : α) (input : List UInt8) :
    (pure value : Decoder ε α) input = .ok (value, input) := rfl

theorem littleEndian_ok (width : Nat) (input rest : List UInt8) (value : Nat) :
    littleEndian width input = .ok (value, rest) ↔
      ∃ bytes, bytes.length = width ∧ input = bytes ++ rest ∧ value = Word.ofLittleEndian bytes := by
  simp only [littleEndian, run_bind, run_pure, exactly]
  by_cases enough : width ≤ input.length
  · simp only [enough, if_true, Except.ok.injEq, Prod.mk.injEq]
    constructor
    · intro given
      obtain ⟨valueEq, restEq⟩ := given
      refine ⟨input.take width, by rw [List.length_take]; omega, ?_, valueEq.symm⟩
      rw [← restEq, List.take_append_drop]
    · intro given
      obtain ⟨bytes, lengthEq, inputEq, valueEq⟩ := given
      subst inputEq
      subst lengthEq
      simp [valueEq]
  · simp only [enough, if_false]
    constructor
    · intro failed
      by_cases empty : input.isEmpty <;> simp [empty] at failed
    · intro given
      obtain ⟨bytes, lengthEq, inputEq, _⟩ := given
      subst inputEq
      simp at enough
      omega

theorem wideVarUint_ok (width least : Nat) (marker : UInt8) (input rest : List UInt8) (value : Nat) :
    wideVarUint width least marker input = .ok (value, rest) ↔
      ∃ bytes, bytes.length = width ∧ input = bytes ++ rest ∧ value = Word.ofLittleEndian bytes ∧
        least ≤ value := by
  simp only [wideVarUint, run_bind]
  cases reading : littleEndian width input with
  | error failure =>
    constructor
    · intro failed
      cases failed
    · intro given
      obtain ⟨bytes, lengthEq, inputEq, valueEq, _⟩ := given
      have read := (littleEndian_ok width input rest value).mpr ⟨bytes, lengthEq, inputEq, valueEq⟩
      rw [reading] at read
      cases read
  | ok pair =>
    obtain ⟨read, after⟩ := pair
    obtain ⟨bytes, lengthEq, inputEq, readEq⟩ := (littleEndian_ok width input after read).mp reading
    simp only
    constructor
    · intro succeeded
      by_cases small : read < least
      · simp only [small, if_true, fail] at succeeded
        cases succeeded
      · simp only [small, if_false, run_pure, Except.ok.injEq, Prod.mk.injEq] at succeeded
        obtain ⟨valueEq, restEq⟩ := succeeded
        subst valueEq
        subst restEq
        exact ⟨bytes, lengthEq, inputEq, readEq, by omega⟩
    · intro given
      obtain ⟨bytes', lengthEq', inputEq', valueEq, large⟩ := given
      have same := List.append_inj (inputEq.symm.trans inputEq') (by omega)
      obtain ⟨bytesEq, afterEq⟩ := same
      subst bytesEq
      subst afterEq
      subst readEq
      subst valueEq
      have large' : ¬Word.ofLittleEndian bytes < least := by omega
      simp only [large', if_false, run_pure]

theorem wideVarUint_small (width least : Nat) (marker : UInt8) (bytes rest : List UInt8)
    (lengthEq : bytes.length = width) (small : Word.ofLittleEndian bytes < least) :
    wideVarUint width least marker (bytes ++ rest) =
      .error (.nonCanonical (Word.ofLittleEndian bytes) marker) := by
  have read := (littleEndian_ok width (bytes ++ rest) rest (Word.ofLittleEndian bytes)).mpr
    ⟨bytes, lengthEq, rfl, rfl⟩
  simp only [wideVarUint, run_bind, read, small, if_true, fail]

theorem varUint_marker (marker : UInt8) (tail : List UInt8) :
    varUint (marker :: tail) =
      (if marker == 0xfd then wideVarUint 2 0xfd marker
      else if marker == 0xfe then wideVarUint 4 0x10000 marker
      else if marker == 0xff then wideVarUint 8 0x100000000 marker
      else pure marker.toNat) tail := rfl

theorem varUint_encodeVarUint (value : Nat) (bounded : value < UInt64.size) (rest : List UInt8) :
    varUint (encodeVarUint value ++ rest) = .ok (value, rest) := by
  simp only [UInt64.size] at bounded
  unfold encodeVarUint
  by_cases oneByte : value < 0xfd
  · have toNatEq : value.toUInt8.toNat = value := by
      simp only [Nat.toUInt8, UInt8.toNat_ofNat']
      omega
    have notWide : ∀ marker : UInt8, 0xfd ≤ marker.toNat → value.toUInt8 ≠ marker := by
      intro marker wide same
      rw [← same, toNatEq] at wide
      omega
    simp only [oneByte, if_true, List.cons_append, List.nil_append, varUint_marker]
    simp only [beq_iff_eq, notWide 0xfd (by decide), notWide 0xfe (by decide),
      notWide 0xff (by decide), if_false, run_pure, toNatEq]
  · by_cases twoBytes : value ≤ 0xffff
    · simp only [oneByte, twoBytes, if_false, if_true, List.cons_append, varUint_marker]
      simp only [beq_self_eq_true, if_true]
      refine (wideVarUint_ok 2 0xfd 0xfd _ rest value).mpr
        ⟨Word.toLittleEndian 2 value, Word.length_toLittleEndian 2 value, rfl, ?_, by omega⟩
      rw [Word.ofLittleEndian_toLittleEndian, Nat.pow_eq]
      omega
    · by_cases fourBytes : value ≤ 0xffffffff
      · simp only [oneByte, twoBytes, fourBytes, if_false, if_true, List.cons_append, varUint_marker]
        simp only [beq_iff_eq, if_true]
        refine (wideVarUint_ok 4 0x10000 0xfe _ rest value).mpr
          ⟨Word.toLittleEndian 4 value, Word.length_toLittleEndian 4 value, rfl, ?_, by omega⟩
        rw [Word.ofLittleEndian_toLittleEndian, Nat.pow_eq]
        omega
      · simp only [oneByte, twoBytes, fourBytes, if_false, List.cons_append, varUint_marker]
        simp only [beq_iff_eq, if_true]
        refine (wideVarUint_ok 8 0x100000000 0xff _ rest value).mpr
          ⟨Word.toLittleEndian 8 value, Word.length_toLittleEndian 8 value, rfl, ?_, by omega⟩
        rw [Word.ofLittleEndian_toLittleEndian, Nat.pow_eq]
        omega


theorem encodeVarUint_ofLittleEndian (width : Nat) (marker : UInt8) (bytes : List UInt8)
    (lengthEq : bytes.length = width)
    (shape : encodeVarUint (Word.ofLittleEndian bytes) =
      marker :: Word.toLittleEndian width (Word.ofLittleEndian bytes)) :
    encodeVarUint (Word.ofLittleEndian bytes) = marker :: bytes := by
  rw [shape, ← lengthEq, toLittleEndian_ofLittleEndian]

theorem varUint_ok_encodeVarUint (input rest : List UInt8) (value : Nat)
    (succeeded : varUint input = .ok (value, rest)) :
    value < UInt64.size ∧ input = encodeVarUint value ++ rest := by
  cases input with
  | nil => cases succeeded
  | cons marker tail =>
    rw [varUint_marker] at succeeded
    by_cases two : marker = 0xfd
    · subst two
      simp only [beq_self_eq_true, if_true] at succeeded
      obtain ⟨bytes, lengthEq, tailEq, valueEq, large⟩ := (wideVarUint_ok _ _ _ _ _ _).mp succeeded
      have bound := Word.ofLittleEndian_lt bytes
      rw [lengthEq, Nat.pow_eq] at bound
      subst tailEq
      subst valueEq
      refine ⟨by unfold UInt64.size; omega, ?_⟩
      rw [encodeVarUint_ofLittleEndian 2 0xfd bytes lengthEq (by
        unfold encodeVarUint
        simp only [show ¬Word.ofLittleEndian bytes < 0xfd by omega,
          show Word.ofLittleEndian bytes ≤ 0xffff by omega, if_false, if_true])]
      rfl
    · by_cases four : marker = 0xfe
      · subst four
        simp only [beq_iff_eq, if_true] at succeeded
        obtain ⟨bytes, lengthEq, tailEq, valueEq, large⟩ := (wideVarUint_ok _ _ _ _ _ _).mp succeeded
        have bound := Word.ofLittleEndian_lt bytes
        rw [lengthEq, Nat.pow_eq] at bound
        subst tailEq
        subst valueEq
        refine ⟨by unfold UInt64.size; omega, ?_⟩
        rw [encodeVarUint_ofLittleEndian 4 0xfe bytes lengthEq (by
          unfold encodeVarUint
          simp only [show ¬Word.ofLittleEndian bytes < 0xfd by omega,
            show ¬Word.ofLittleEndian bytes ≤ 0xffff by omega,
            show Word.ofLittleEndian bytes ≤ 0xffffffff by omega, if_false, if_true])]
        rfl
      · by_cases eight : marker = 0xff
        · subst eight
          simp only [beq_iff_eq, if_true] at succeeded
          obtain ⟨bytes, lengthEq, tailEq, valueEq, large⟩ :=
            (wideVarUint_ok _ _ _ _ _ _).mp succeeded
          have bound := Word.ofLittleEndian_lt bytes
          rw [lengthEq, Nat.pow_eq] at bound
          subst tailEq
          subst valueEq
          refine ⟨by unfold UInt64.size; omega, ?_⟩
          rw [encodeVarUint_ofLittleEndian 8 0xff bytes lengthEq (by
            unfold encodeVarUint
            simp only [show ¬Word.ofLittleEndian bytes < 0xfd by omega,
              show ¬Word.ofLittleEndian bytes ≤ 0xffff by omega,
              show ¬Word.ofLittleEndian bytes ≤ 0xffffffff by omega, if_false])]
          rfl
        · simp only [beq_iff_eq, two, four, eight, if_false, run_pure, Except.ok.injEq,
            Prod.mk.injEq] at succeeded
          obtain ⟨valueEq, restEq⟩ := succeeded
          subst valueEq
          subst restEq
          have narrow : marker.toNat < 0xfd := by
            have := marker.toNat_lt
            have notTwo : marker.toNat ≠ 0xfd := fun same => two (UInt8.toNat_inj.mp same)
            have notFour : marker.toNat ≠ 0xfe := fun same => four (UInt8.toNat_inj.mp same)
            have notEight : marker.toNat ≠ 0xff := fun same => eight (UInt8.toNat_inj.mp same)
            omega
          refine ⟨by unfold UInt64.size; omega, ?_⟩
          unfold encodeVarUint
          simp only [narrow, if_true, List.cons_append, List.nil_append]
          simp

/-- Reading a variable-length number succeeds exactly on the shortest form of a number below
`UInt64.size` followed by anything, gives that number and leaves what follows; the shortest forms
are one, three, five or nine bytes long; and a marker followed by a number that a shorter form
holds is refused as non-canonical. -/
theorem varUint_canonical :
    (∀ (input rest : List UInt8) (value : Nat),
      varUint input = .ok (value, rest) ↔ value < UInt64.size ∧ input = encodeVarUint value ++ rest) ∧
    (∀ value, (encodeVarUint value).length ∈ [1, 3, 5, 9]) ∧
    (∀ bytes rest : List UInt8, bytes.length = 2 → Word.ofLittleEndian bytes < 0xfd →
      varUint (0xfd :: (bytes ++ rest)) = .error (.nonCanonical (Word.ofLittleEndian bytes) 0xfd)) ∧
    (∀ bytes rest : List UInt8, bytes.length = 4 → Word.ofLittleEndian bytes < 0x10000 →
      varUint (0xfe :: (bytes ++ rest)) = .error (.nonCanonical (Word.ofLittleEndian bytes) 0xfe)) ∧
    (∀ bytes rest : List UInt8, bytes.length = 8 → Word.ofLittleEndian bytes < 0x100000000 →
      varUint (0xff :: (bytes ++ rest)) =
        .error (.nonCanonical (Word.ofLittleEndian bytes) 0xff)) := by
  refine ⟨?_, ?_, ?_, ?_, ?_⟩
  · intro input rest value
    constructor
    · exact varUint_ok_encodeVarUint input rest value
    · intro given
      obtain ⟨bounded, inputEq⟩ := given
      subst inputEq
      exact varUint_encodeVarUint value bounded rest
  · intro value
    unfold encodeVarUint
    split
    · simp
    · split
      · simp
      · split <;> simp
  · intro bytes rest lengthEq small
    exact wideVarUint_small 2 0xfd 0xfd bytes rest lengthEq small
  · intro bytes rest lengthEq small
    exact wideVarUint_small 4 0x10000 0xfe bytes rest lengthEq small
  · intro bytes rest lengthEq small
    exact wideVarUint_small 8 0x100000000 0xff bytes rest lengthEq small

/-- The two-byte form of one is refused: one fits in a single byte. -/
theorem varUint_refuses_wide_one :
    Word.ofLittleEndian [1, 0] < 0xfd ∧
      varUint [0xfd, 1, 0] = .error (.nonCanonical (Word.ofLittleEndian [1, 0]) 0xfd) :=
  ⟨by decide, varUint_canonical.2.2.1 [1, 0] [] rfl (by decide)⟩

end Testbench.Codec
