import Testbench.Code.Instruction

/-!
The offsets of a code are the starts of its instructions, ascending, and exist exactly when every
jump lands on one of them; each decodes, and the instruction after it starts at another offset or
at the end of the code.
-/

namespace Testbench.Code

/-! ### Instructions as written -/

/-- An instruction as written in code: an opcode and its operand, for `PUSHDATA1` its data. -/
structure Written where
  /-- The opcode. -/
  opcode : Opcode
  /-- The operand, without the length byte of `PUSHDATA1`. -/
  operand : List UInt8
  deriving DecidableEq

namespace Written

/-- The bytes of an instruction: its opcode, the length of the data of a `PUSHDATA1`, and the
operand. -/
def bytes (instruction : Written) : List UInt8 :=
  instruction.opcode.byte ::
    if instruction.opcode = .pushData1 then instruction.operand.length.toUInt8 :: instruction.operand
    else instruction.operand

/-- An instruction that can be written: `PUSHDATA1` with at most 255 bytes of data, any other
opcode with exactly its operand size. -/
def WellFormed (instruction : Written) : Prop :=
  if instruction.opcode = .pushData1 then instruction.operand.length < 256
  else instruction.operand.length = instruction.opcode.operandSize

/-- The little-endian number of the operand. -/
def argument (instruction : Written) : Nat := Word.ofLittleEndian instruction.operand

theorem bytes_length_pos (instruction : Written) : 0 < instruction.bytes.length := by
  simp [bytes]

theorem bytes_data (operand : List UInt8) :
    (⟨.pushData1, operand⟩ : Written).bytes = Opcode.pushData1.byte :: operand.length.toUInt8 :: operand := by
  simp [bytes]

theorem bytes_sized {opcode : Opcode} (sized : opcode ≠ .pushData1) (operand : List UInt8) :
    (⟨opcode, operand⟩ : Written).bytes = opcode.byte :: operand := by
  simp [bytes, sized]

end Written

theorem ofByte?_byte {value : UInt8} {opcode : Opcode} (found : Opcode.ofByte? value = some opcode) :
    opcode.byte = value := by
  simpa using List.find?_some found

theorem decodeHead_written_ok {instruction : Written} (formed : instruction.WellFormed) {input rest : List UInt8}
    (shape : input = instruction.bytes ++ rest) (offset : Nat) :
    ∃ shorter, decodeHead input offset =
      .ok (⟨instruction.opcode, instruction.operand, offset + instruction.bytes.length⟩, ⟨rest, shorter⟩) := by
  obtain ⟨opcode, operand⟩ := instruction
  simp only [Written.WellFormed] at formed
  by_cases data : opcode = .pushData1
  · subst data
    rw [if_pos rfl] at formed
    have counted : operand.length.toUInt8.toNat = operand.length := by
      simp [Nat.toUInt8, Nat.mod_eq_of_lt formed]
    rw [Written.bytes_data] at shape ⊢
    subst shape
    refine ⟨by simp only [List.cons_append, List.length_cons, List.length_append]; omega, ?_⟩
    unfold decodeHead
    simp only [Opcode.ofByte_byte, Opcode.operandSize, List.cons_append, List.length_cons, List.headD_cons,
      counted, beq_self_eq_true, if_true]
    rw [if_neg (by omega), if_neg (by simp only [List.length_append]; omega)]
    simp only [Except.ok.injEq, Prod.mk.injEq, Decoded.mk.injEq, Subtype.mk.injEq, List.drop_succ_cons,
      List.drop_zero, List.take_left, true_and]
    refine ⟨by omega, ?_⟩
    rw [Nat.add_comm, List.drop_succ_cons, List.drop_left]
  · rw [if_neg data] at formed
    rw [Written.bytes_sized data] at shape ⊢
    subst shape
    refine ⟨by simp only [List.cons_append, List.length_cons, List.length_append]; omega, ?_⟩
    unfold decodeHead
    simp only [Opcode.ofByte_byte, List.cons_append, List.length_append]
    rw [if_neg (by omega), if_neg (by simpa using data)]
    simp only [List.take_left' formed, List.drop_left' formed, List.length_cons, Except.ok.injEq, Prod.mk.injEq,
      Decoded.mk.injEq, true_and, and_true]
    omega

theorem decodeHead_written {bytes : List UInt8} {offset : Nat} {decoded : Decoded}
    {rest : { rest : List UInt8 // rest.length < bytes.length }}
    (decodedOk : decodeHead bytes offset = .ok (decoded, rest)) :
    ∃ instruction : Written, instruction.WellFormed ∧ bytes = instruction.bytes ++ rest.val ∧
      decoded = ⟨instruction.opcode, instruction.operand, offset + instruction.bytes.length⟩ := by
  unfold decodeHead at decodedOk
  split at decodedOk
  · cases decodedOk
  rename_i first after
  split at decodedOk
  · cases decodedOk
  rename_i opcode found
  have byteIs := ofByte?_byte found
  subst byteIs
  dsimp only at decodedOk
  split at decodedOk
  · cases decodedOk
  rename_i long
  split at decodedOk
  · rename_i data
    have isData : opcode = .pushData1 := by simpa using data
    subst isData
    split at decodedOk
    · cases decodedOk
    rename_i enough
    simp only [Except.ok.injEq, Prod.mk.injEq] at decodedOk
    obtain ⟨rfl, rfl⟩ := decodedOk
    cases after with
    | nil => simp [Opcode.operandSize] at long
    | cons count tail =>
      simp only [List.headD_cons, List.length_cons] at enough ⊢
      have within : count.toNat ≤ tail.length := by omega
      have taken : (tail.take count.toNat).length = count.toNat := List.length_take_of_le within
      refine ⟨⟨.pushData1, tail.take count.toNat⟩, ?_, ?_, ?_⟩
      · simp only [Written.WellFormed, if_pos, taken]
        exact count.toNat_lt
      · rw [Written.bytes_data, taken, Nat.toUInt8, UInt8.ofNat_toNat, Nat.add_comm, List.drop_succ_cons]
        simp
      · simp only [Written.bytes_data, List.length_cons, taken, List.drop_succ_cons, List.drop_zero]
        congr 1
        omega
  · rename_i sized
    have notData : opcode ≠ .pushData1 := by simpa using sized
    simp only [Except.ok.injEq, Prod.mk.injEq] at decodedOk
    obtain ⟨rfl, rfl⟩ := decodedOk
    have taken : (after.take opcode.operandSize).length = opcode.operandSize :=
      List.length_take_of_le (by omega)
    refine ⟨⟨opcode, after.take opcode.operandSize⟩, ?_, ?_, ?_⟩
    · simp only [Written.WellFormed, if_neg notData, taken]
    · rw [Written.bytes_sized notData]
      simp
    · simp only [Written.bytes_sized notData, List.length_cons, taken]
      congr 1
      omega

theorem walk_nil (offset : Nat) : walk [] offset = .ok ([], []) := by
  rw [walk]

theorem walk_cons_of_decodeHead {first : UInt8} {after : List UInt8} {offset : Nat} {decoded : Decoded}
    {rest : { rest : List UInt8 // rest.length < (first :: after).length }} {starts targets : List Nat}
    (headOk : decodeHead (first :: after) offset = .ok (decoded, rest))
    (restWalked : walk rest.val decoded.next = .ok (starts, targets)) :
    walk (first :: after) offset =
      .ok (offset :: starts, if decoded.opcode.isJump then decoded.argument :: targets else targets) := by
  rw [walk, headOk]
  dsimp only
  rw [restWalked]

theorem decodeHead_ok {bytes : List UInt8} {offset : Nat} {decoded : Decoded}
    {rest : { rest : List UInt8 // rest.length < bytes.length }}
    (decodedOk : decodeHead bytes offset = .ok (decoded, rest)) :
    ∃ width, 0 < width ∧ width ≤ bytes.length ∧ decoded.next = offset + width ∧
      rest.val = bytes.drop width := by
  obtain ⟨instruction, -, bytesIs, rfl⟩ := decodeHead_written decodedOk
  have restIs := congrArg (List.drop instruction.bytes.length) bytesIs
  rw [List.drop_left] at restIs
  refine ⟨instruction.bytes.length, instruction.bytes_length_pos, ?_, rfl, restIs.symm⟩
  have whole := congrArg List.length bytesIs
  rw [List.length_append] at whole
  omega

/-- What a walk from `offset` tells about a code: it starts at `offset` when that lies inside
the code, and each start it lists decodes into an instruction after which the next start or the
end of the code follows, and whose jump target, if any, it lists among the targets. -/
def Walked (code : List UInt8) (offset : Nat) (starts targets : List Nat) : Prop :=
  (offset < code.length → offset ∈ starts) ∧
    ∀ start ∈ starts, ∃ decoded, decode code start = .ok decoded ∧
      (decoded.next ∈ starts ∨ decoded.next = code.length) ∧
      (decoded.opcode.isJump → decoded.argument ∈ targets)

theorem walk_walked (code : List UInt8) (bytes : List UInt8) (offset : Nat)
    (suffix : bytes = code.drop offset) {starts targets : List Nat}
    (walked : walk bytes offset = .ok (starts, targets)) : Walked code offset starts targets := by
  induction bytes, offset using walk.induct generalizing starts targets with
  | case1 offset =>
      rw [walk] at walked
      cases walked
      have beyond : code.length ≤ offset := List.drop_eq_nil_iff.mp suffix.symm
      exact ⟨fun inside => absurd inside (by omega), fun start member => by cases member⟩
  | case2 offset first after failure failed =>
      rw [walk, failed] at walked
      cases walked
  | case3 offset first after decoded rest headOk failure failed =>
      rw [walk, headOk] at walked
      simp only [failed] at walked
      cases walked
  | case4 offset first after decoded rest headOk offsets restTargets restWalked ih =>
      rw [walk, headOk] at walked
      simp only [restWalked, Except.ok.injEq, Prod.mk.injEq] at walked
      obtain ⟨rfl, rfl⟩ := walked
      obtain ⟨width, widthPos, widthBound, nextEq, restEq⟩ := decodeHead_ok headOk
      have restSuffix : rest.val = code.drop decoded.next := by
        rw [restEq, suffix, List.drop_drop, nextEq, Nat.add_comm]
      obtain ⟨restFirst, restStarts⟩ := ih restSuffix restWalked
      have remaining : code.length - offset = after.length + 1 := by
        have sameLength : (code.drop offset).length = (first :: after).length := by rw [suffix]
        rwa [List.length_drop, List.length_cons] at sameLength
      have inside : offset < code.length := by omega
      have nextBound : decoded.next ≤ code.length := by
        rw [List.length_cons] at widthBound
        omega
      have decodedHere : decode code offset = .ok decoded := by
        rw [decode, if_pos inside, ← suffix, headOk]
        rfl
      refine ⟨fun _ => List.mem_cons_self, ?_⟩
      intro start member
      rcases List.mem_cons.mp member with rfl | later
      · refine ⟨decoded, decodedHere, ?_, ?_⟩
        · by_cases nextInside : decoded.next < code.length
          · exact Or.inl (List.mem_cons_of_mem _ (restFirst nextInside))
          · exact Or.inr (by omega)
        · intro jump
          simp [jump]
      · obtain ⟨found, foundOk, foundNext, foundJump⟩ := restStarts start later
        refine ⟨found, foundOk, ?_, ?_⟩
        · rcases foundNext with member | atEnd
          · exact Or.inl (List.mem_cons_of_mem _ member)
          · exact Or.inr atEnd
        · intro jump
          have listed := foundJump jump
          split <;> simp [listed]

theorem walk_ascending (bytes : List UInt8) (offset : Nat) {starts targets : List Nat}
    (walked : walk bytes offset = .ok (starts, targets)) :
    starts.Pairwise (· < ·) ∧ ∀ start ∈ starts, offset ≤ start := by
  induction bytes, offset using walk.induct generalizing starts targets with
  | case1 offset =>
      rw [walk] at walked
      cases walked
      exact ⟨List.Pairwise.nil, fun start member => by cases member⟩
  | case2 offset first after failure failed =>
      rw [walk, failed] at walked
      cases walked
  | case3 offset first after decoded rest headOk failure failed =>
      rw [walk, headOk] at walked
      simp only [failed] at walked
      cases walked
  | case4 offset first after decoded rest headOk offsets restTargets restWalked ih =>
      rw [walk, headOk] at walked
      simp only [restWalked, Except.ok.injEq, Prod.mk.injEq] at walked
      obtain ⟨rfl, rfl⟩ := walked
      obtain ⟨width, widthPos, -, nextEq, -⟩ := decodeHead_ok headOk
      obtain ⟨restAscending, restAfter⟩ := ih restWalked
      have later : ∀ start ∈ offsets, offset < start := fun start member => by
        have atNext := restAfter start member
        omega
      refine ⟨List.pairwise_cons.mpr ⟨later, restAscending⟩, fun start member => ?_⟩
      rcases List.mem_cons.mp member with rfl | rest
      · exact Nat.le_refl _
      · exact Nat.le_of_lt (later start rest)

/-! ### Searching an ascending list -/

section Search

variable {sorted : List Nat} {target : Nat}

theorem getD_of_lt {index : Nat} (inside : index < sorted.length) : sorted.getD index 0 = sorted[index] := by
  simp [List.getD_eq_getElem?_getD, inside]

theorem getD_le_getD (ascending : sorted.Pairwise (· < ·)) {first second : Nat} (le : first ≤ second)
    (inside : second < sorted.length) : sorted.getD first 0 ≤ sorted.getD second 0 := by
  rw [getD_of_lt (by omega), getD_of_lt inside]
  rcases Nat.eq_or_lt_of_le le with same | below
  · subst same
    exact Nat.le_refl _
  · exact Nat.le_of_lt (List.pairwise_iff_getElem.mp ascending first second (by omega) inside below)

theorem searchFrom_spec (ascending : sorted.Pairwise (· < ·)) (low high : Nat) (within : high ≤ sorted.length)
    (ordered : low ≤ high) (below : ∀ index < low, sorted.getD index 0 < target)
    (above : high < sorted.length → target ≤ sorted.getD high 0) :
    searchFrom sorted target low high ≤ high ∧
      (∀ index < searchFrom sorted target low high, sorted.getD index 0 < target) ∧
      (searchFrom sorted target low high < sorted.length →
        target ≤ sorted.getD (searchFrom sorted target low high) 0) := by
  fun_induction searchFrom sorted target low high with
  | case1 low high inRange middle smaller ih =>
    have moved : ∀ index < middle + 1, sorted.getD index 0 < target := by
      intro index before
      by_cases early : index < low
      · exact below index early
      · exact Nat.lt_of_le_of_lt (getD_le_getD ascending (by omega) (by omega)) smaller
    obtain ⟨le, found, atLeast⟩ := ih within (by omega) moved above
    exact ⟨le, found, atLeast⟩
  | case2 low high inRange middle larger ih =>
    obtain ⟨le, found, atLeast⟩ := ih (by omega) (by omega) below fun _ => Nat.le_of_not_lt larger
    exact ⟨by omega, found, atLeast⟩
  | case3 low high empty =>
    have same : low = high := by omega
    subst same
    exact ⟨Nat.le_refl _, below, above⟩

theorem containsSorted_iff (ascending : sorted.Pairwise (· < ·)) :
    containsSorted sorted target = true ↔ target ∈ sorted := by
  obtain ⟨le, below, atLeast⟩ := @searchFrom_spec sorted target ascending 0 sorted.length
    (Nat.le_refl _) (Nat.zero_le _) (fun _ none => absurd none (Nat.not_lt_zero _))
    (fun beyond => absurd beyond (Nat.lt_irrefl _))
  unfold containsSorted
  simp only [Bool.and_eq_true, decide_eq_true_eq, beq_iff_eq]
  constructor
  · rintro ⟨inside, foundIs⟩
    rw [getD_of_lt inside] at foundIs
    exact foundIs ▸ List.getElem_mem inside
  · intro member
    obtain ⟨index, inside, valueIs⟩ := List.getElem_of_mem member
    have notBefore : ¬ index < searchFrom sorted target 0 sorted.length := fun early => by
      have := below index early
      rw [getD_of_lt inside, valueIs] at this
      exact Nat.lt_irrefl _ this
    have foundInside : searchFrom sorted target 0 sorted.length < sorted.length := by omega
    have atMost := getD_le_getD ascending (Nat.le_of_not_lt notBefore) inside
    rw [getD_of_lt inside, valueIs] at atMost
    exact ⟨foundInside, Nat.le_antisymm atMost (atLeast foundInside)⟩

end Search

theorem offsets_walk {code : List UInt8} {starts : List Nat} (found : offsets code = .ok starts) :
    ∃ targets, walk code 0 = .ok (starts, targets) ∧ ∀ target ∈ targets, target ∈ starts := by
  unfold offsets at found
  cases walked : walk code 0 with
  | error failure =>
      rw [walked] at found
      cases found
  | ok pair =>
      obtain ⟨walkedStarts, targets⟩ := pair
      rw [walked] at found
      simp only [bind, Except.bind] at found
      split at found
      · cases found
      · rename_i missing
        cases found
        refine ⟨targets, rfl, fun target member => ?_⟩
        have listed := List.find?_eq_none.mp missing target member
        exact (containsSorted_iff (walk_ascending code 0 walked).1).mp (by simpa using listed)

theorem offsets_decode {code : List UInt8} {starts : List Nat} (found : offsets code = .ok starts) :
    ∀ start ∈ starts, ∃ decoded, decode code start = .ok decoded ∧
      (decoded.next ∈ starts ∨ decoded.next = code.length) ∧
      (decoded.opcode.isJump → decoded.argument ∈ starts) := by
  obtain ⟨targets, walked, landed⟩ := offsets_walk found
  intro start member
  obtain ⟨decoded, decodedOk, next, jump⟩ :=
    (walk_walked code code 0 List.drop_zero.symm walked).2 start member
  exact ⟨decoded, decodedOk, next, fun isJump => landed _ (jump isJump)⟩

theorem offsets_entry {code : List UInt8} {starts : List Nat} (found : offsets code = .ok starts) :
    0 ∈ starts ∨ 0 = code.length := by
  obtain ⟨targets, walked, -⟩ := offsets_walk found
  by_cases empty : code.length = 0
  · exact Or.inr empty.symm
  · exact Or.inl ((walk_walked code code 0 List.drop_zero.symm walked).1 (by omega))

theorem offsets_nodup {code : List UInt8} {starts : List Nat} (found : offsets code = .ok starts) :
    starts.Nodup := by
  obtain ⟨targets, walked, -⟩ := offsets_walk found
  exact (walk_ascending code 0 walked).1.imp Nat.ne_of_lt

/-! ### Code as a sequence of instructions -/

/-- The instructions with their offsets, laid out one after another from `offset`. -/
def placed : Nat → List Written → List (Nat × Written)
  | _, [] => []
  | offset, instruction :: rest => (offset, instruction) :: placed (offset + instruction.bytes.length) rest

/-- The offsets at which the instructions start, laid out from `offset`. -/
def starts (offset : Nat) (instructions : List Written) : List Nat := (placed offset instructions).map Prod.fst

/-- A code written as a sequence of well-formed instructions, one after another. -/
structure Layout (code : List UInt8) (instructions : List Written) : Prop where
  wellFormed : ∀ instruction ∈ instructions, instruction.WellFormed
  concatenates : code = instructions.flatMap Written.bytes

/-- Every jump among the instructions lands on the start of one of them. -/
def JumpsLand (instructions : List Written) : Prop :=
  ∀ instruction ∈ instructions, instruction.opcode.isJump → instruction.argument ∈ starts 0 instructions

theorem mem_of_mem_placed {offset : Nat} {instructions : List Written} {entry : Nat × Written}
    (member : entry ∈ placed offset instructions) : entry.2 ∈ instructions := by
  induction instructions generalizing offset with
  | nil => cases member
  | cons instruction rest ih =>
    rcases List.mem_cons.mp member with rfl | later
    · exact List.mem_cons_self
    · exact List.mem_cons_of_mem _ (ih later)

theorem exists_mem_placed {offset : Nat} {instructions : List Written} {instruction : Written}
    (member : instruction ∈ instructions) : ∃ start, (start, instruction) ∈ placed offset instructions := by
  induction instructions generalizing offset with
  | nil => cases member
  | cons first rest ih =>
    rcases List.mem_cons.mp member with rfl | later
    · exact ⟨offset, List.mem_cons_self⟩
    · obtain ⟨start, placedLater⟩ : ∃ start, (start, instruction) ∈ placed (offset + first.bytes.length) rest :=
        ih later
      exact ⟨start, List.mem_cons_of_mem _ placedLater⟩

theorem walk_written {bytes : List UInt8} {offset : Nat} {found targets : List Nat}
    (walked : walk bytes offset = .ok (found, targets)) :
    ∃ instructions, Layout bytes instructions ∧ found = starts offset instructions ∧
      targets = (instructions.filter (·.opcode.isJump)).map Written.argument := by
  induction bytes, offset using walk.induct generalizing found targets with
  | case1 offset =>
    rw [walk] at walked
    cases walked
    exact ⟨[], ⟨fun _ member => (by cases member), rfl⟩, rfl, rfl⟩
  | case2 offset first after failure failed =>
    rw [walk, failed] at walked
    cases walked
  | case3 offset first after decoded rest headOk failure failed =>
    rw [walk, headOk] at walked
    simp only [failed] at walked
    cases walked
  | case4 offset first after decoded rest headOk offsets restTargets restWalked ih =>
    rw [walk, headOk] at walked
    simp only [restWalked, Except.ok.injEq, Prod.mk.injEq] at walked
    obtain ⟨rfl, rfl⟩ := walked
    obtain ⟨instruction, formed, bytesIs, rfl⟩ := decodeHead_written headOk
    obtain ⟨others, laid, startsIs, targetsIs⟩ := ih restWalked
    refine ⟨instruction :: others, ⟨?_, ?_⟩, ?_, ?_⟩
    · intro member listed
      rcases List.mem_cons.mp listed with rfl | later
      · exact formed
      · exact laid.wellFormed member later
    · rw [bytesIs, laid.concatenates, List.flatMap_cons]
    · rw [startsIs]
      rfl
    · rw [targetsIs, List.filter_cons]
      by_cases jump : instruction.opcode.isJump = true <;> simp [jump, Written.argument, Decoded.argument]

theorem walk_layout {bytes : List UInt8} {instructions : List Written} (laid : Layout bytes instructions)
    (offset : Nat) :
    walk bytes offset = .ok (starts offset instructions,
      (instructions.filter (·.opcode.isJump)).map Written.argument) := by
  induction instructions generalizing bytes offset with
  | nil =>
    rw [laid.concatenates, List.flatMap_nil, walk]
    rfl
  | cons instruction rest ih =>
    have formed := laid.wellFormed instruction List.mem_cons_self
    have restLaid : Layout (rest.flatMap Written.bytes) rest :=
      ⟨fun member listed => laid.wellFormed member (List.mem_cons_of_mem _ listed), rfl⟩
    obtain ⟨first, after, consIs⟩ : ∃ first after, bytes = first :: after :=
      ⟨instruction.opcode.byte, _, by rw [laid.concatenates, List.flatMap_cons]; rfl⟩
    have shape : first :: after = instruction.bytes ++ rest.flatMap Written.bytes := by
      rw [← consIs, laid.concatenates, List.flatMap_cons]
    subst consIs
    obtain ⟨shorter, headOk⟩ := decodeHead_written_ok formed shape offset
    rw [walk, headOk]
    simp only [ih restLaid, List.filter_cons]
    split <;> rfl

/-- The offsets of a code are the starts of the instructions it is written as, if every jump lands
on one of them. -/
theorem offsets_eq_ok_iff {code : List UInt8} {found : List Nat} :
    offsets code = .ok found ↔
      ∃ instructions, Layout code instructions ∧ JumpsLand instructions ∧ found = starts 0 instructions := by
  constructor
  · intro foundOk
    obtain ⟨targets, walked, landed⟩ := offsets_walk foundOk
    obtain ⟨instructions, laid, rfl, rfl⟩ := walk_written walked
    refine ⟨instructions, laid, fun instruction member jump => landed _ ?_, rfl⟩
    exact List.mem_map.mpr ⟨instruction, List.mem_filter.mpr ⟨member, jump⟩, rfl⟩
  · rintro ⟨instructions, laid, landed, rfl⟩
    have walked := walk_layout laid 0
    have ascending := (walk_ascending code 0 walked).1
    unfold offsets
    rw [walked]
    simp only [bind, Except.bind]
    rw [List.find?_eq_none.mpr]
    · rfl
    · intro target member
      obtain ⟨instruction, filtered, rfl⟩ := List.mem_map.mp member
      obtain ⟨listed, jump⟩ := List.mem_filter.mp filtered
      simpa [containsSorted_iff ascending] using landed instruction listed jump

theorem decode_written {instruction : Written} (formed : instruction.WellFormed) (front rest : List UInt8) :
    decode (front ++ (instruction.bytes ++ rest)) front.length =
      .ok ⟨instruction.opcode, instruction.operand, front.length + instruction.bytes.length⟩ := by
  have inside : front.length < (front ++ (instruction.bytes ++ rest)).length := by
    have := instruction.bytes_length_pos
    simp only [List.length_append]
    omega
  obtain ⟨shorter, headOk⟩ := decodeHead_written_ok formed rfl front.length
  rw [decode, if_pos inside, List.drop_left, headOk]
  rfl

theorem decode_placed {instructions : List Written} (formed : ∀ instruction ∈ instructions, instruction.WellFormed) :
    ∀ {front : List UInt8} {entry : Nat × Written}, entry ∈ placed front.length instructions →
      decode (front ++ instructions.flatMap Written.bytes) entry.1 =
        .ok ⟨entry.2.opcode, entry.2.operand, entry.1 + entry.2.bytes.length⟩ := by
  induction instructions with
  | nil => intro front entry member; cases member
  | cons instruction rest ih =>
    intro front entry member
    rw [List.flatMap_cons]
    rcases List.mem_cons.mp member with rfl | later
    · exact decode_written (formed instruction List.mem_cons_self) front _
    · have restFormed : ∀ other ∈ rest, other.WellFormed := fun other listed =>
        formed other (List.mem_cons_of_mem _ listed)
      rw [← List.append_assoc]
      exact ih restFormed (by rwa [List.length_append])

theorem starts_unique {code : List UInt8} {first second : List Written} (laidFirst : Layout code first)
    (laidSecond : Layout code second) : starts 0 first = starts 0 second := by
  have walked := walk_layout laidFirst 0
  rw [walk_layout laidSecond 0] at walked
  simp only [Except.ok.injEq, Prod.mk.injEq] at walked
  exact walked.1.symm

end Testbench.Code
