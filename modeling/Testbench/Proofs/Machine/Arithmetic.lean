import Mathlib
import Testbench.Proofs.Machine.Gas

/-!
Integer instructions compute exactly or fail: on 256-bit words the overflow tests are exact, so
each instruction pushes the true result when it fits and fails for arithmetic otherwise.
-/

namespace Testbench

/-! ### Words -/

namespace Exec

variable {a b : Nat}

theorem toNat_word (inRange : a < 2 ^ 256) : (word a).toNat = a := by
  simpa [word] using inRange

theorem word_lt_word (aRange : a < 2 ^ 256) (bRange : b < 2 ^ 256) : word a < word b ↔ a < b := by
  rw [BitVec.lt_def, toNat_word aRange, toNat_word bRange]

theorem word_eq_zero (aRange : a < 2 ^ 256) : word a = 0 ↔ a = 0 := by
  rw [BitVec.toNat_eq, toNat_word aRange]
  simp

theorem word_add_lt_iff (aRange : a < 2 ^ 256) (bRange : b < 2 ^ 256) :
    word a + word b < word a ↔ 2 ^ 256 ≤ a + b := by
  rw [BitVec.lt_def, BitVec.toNat_add, toNat_word aRange, toNat_word bRange]
  omega

theorem toNat_word_add (aRange : a < 2 ^ 256) (bRange : b < 2 ^ 256) (sumRange : a + b < 2 ^ 256) :
    (word a + word b).toNat = a + b := by
  rw [BitVec.toNat_add, toNat_word aRange, toNat_word bRange, Nat.mod_eq_of_lt sumRange]

theorem toNat_word_sub (aRange : a < 2 ^ 256) (bRange : b < 2 ^ 256) (le : b ≤ a) :
    (word a - word b).toNat = a - b := by
  rw [BitVec.toNat_sub, toNat_word aRange, toNat_word bRange]
  omega

theorem toNat_word_mul (aRange : a < 2 ^ 256) (bRange : b < 2 ^ 256) (productRange : a * b < 2 ^ 256) :
    (word a * word b).toNat = a * b := by
  rw [BitVec.toNat_mul, toNat_word aRange, toNat_word bRange, Nat.mod_eq_of_lt productRange]

theorem word_mul_overflows_iff (aRange : a < 2 ^ 256) (bRange : b < 2 ^ 256) :
    (word a ≠ 0 ∧ word a * word b / word a ≠ word b) ↔ 2 ^ 256 ≤ a * b := by
  rw [Ne, word_eq_zero aRange, Ne, BitVec.toNat_eq, BitVec.toNat_udiv, BitVec.toNat_mul,
    toNat_word aRange, toNat_word bRange]
  constructor
  · rintro ⟨nonzero, differs⟩
    by_contra fits
    rw [Nat.mod_eq_of_lt (Nat.lt_of_not_le fits), Nat.mul_div_cancel_left b (Nat.pos_of_ne_zero nonzero)]
      at differs
    exact differs rfl
  · intro exceeds
    have nonzero : a ≠ 0 := by
      rintro rfl
      rw [Nat.zero_mul] at exceeds
      omega
    refine ⟨nonzero, fun dividesBack => ?_⟩
    have wrapped : a * b % 2 ^ 256 < a * b := Nat.lt_of_lt_of_le (Nat.mod_lt _ (by positivity)) exceeds
    have above : a * b % 2 ^ 256 / a * a ≤ a * b % 2 ^ 256 := Nat.div_mul_le_self _ _
    rw [dividesBack, Nat.mul_comm] at above
    omega

theorem toNat_word_div (aRange : a < 2 ^ 256) (bRange : b < 2 ^ 256) :
    (word a / word b).toNat = a / b := by
  rw [BitVec.toNat_udiv, toNat_word aRange, toNat_word bRange]

theorem toNat_word_mod (aRange : a < 2 ^ 256) (bRange : b < 2 ^ 256) :
    (word a % word b).toNat = a % b := by
  rw [BitVec.toNat_umod, toNat_word aRange, toNat_word bRange]

theorem word_succ_eq_zero (aRange : a < 2 ^ 256) : word a + 1 = 0 ↔ a + 1 = 2 ^ 256 := by
  rw [BitVec.toNat_eq, BitVec.toNat_add, toNat_word aRange]
  simp only [BitVec.toNat_ofNat, BitVec.ofNat_eq_ofNat]
  omega

theorem toNat_word_succ (succRange : a + 1 < 2 ^ 256) : (word a + 1).toNat = a + 1 := by
  rw [BitVec.toNat_add, toNat_word (by omega)]
  simp only [BitVec.ofNat_eq_ofNat, BitVec.toNat_ofNat]
  omega

theorem toNat_word_pred (aRange : a < 2 ^ 256) (positive : 0 < a) : (word a - 1).toNat = a - 1 := by
  rw [BitVec.toNat_sub, toNat_word aRange]
  simp only [BitVec.ofNat_eq_ofNat, BitVec.toNat_ofNat]
  omega

/-! ### The arithmetic of words, exactly -/

theorem arithmetic_add (aRange : a < 2 ^ 256) (bRange : b < 2 ^ 256) :
    arithmetic .add a b = if a + b < 2 ^ 256 then .ok (a + b) else .error .overflow := by
  dsimp only [arithmetic]
  by_cases fits : a + b < 2 ^ 256
  · rw [if_neg ((word_add_lt_iff aRange bRange).not.mpr (by omega)), if_pos fits,
      toNat_word_add aRange bRange fits]
  · rw [if_pos ((word_add_lt_iff aRange bRange).mpr (by omega)), if_neg fits]

theorem arithmetic_sub (aRange : a < 2 ^ 256) (bRange : b < 2 ^ 256) :
    arithmetic .sub a b = if b ≤ a then .ok (a - b) else .error .underflow := by
  dsimp only [arithmetic]
  by_cases le : b ≤ a
  · rw [if_neg ((word_lt_word aRange bRange).not.mpr (by omega)), if_pos le,
      toNat_word_sub aRange bRange le]
  · rw [if_pos ((word_lt_word aRange bRange).mpr (by omega)), if_neg le]

theorem arithmetic_mul (aRange : a < 2 ^ 256) (bRange : b < 2 ^ 256) :
    arithmetic .mul a b = if a * b < 2 ^ 256 then .ok (a * b) else .error .overflow := by
  dsimp only [arithmetic]
  by_cases fits : a * b < 2 ^ 256
  · rw [if_neg ((word_mul_overflows_iff aRange bRange).not.mpr (by omega)), if_pos fits,
      toNat_word_mul aRange bRange fits]
  · rw [if_pos ((word_mul_overflows_iff aRange bRange).mpr (by omega)), if_neg fits]

theorem arithmetic_div (aRange : a < 2 ^ 256) (bRange : b < 2 ^ 256) :
    arithmetic .div a b = if b = 0 then .error .divisionByZero else .ok (a / b) := by
  dsimp only [arithmetic]
  simp only [word_eq_zero bRange, toNat_word_div aRange bRange]

theorem arithmetic_mod (aRange : a < 2 ^ 256) (bRange : b < 2 ^ 256) :
    arithmetic .mod a b = if b = 0 then .error .divisionByZero else .ok (a % b) := by
  dsimp only [arithmetic]
  simp only [word_eq_zero bRange, toNat_word_mod aRange bRange]

end Exec

/-! ### The exact results -/

namespace Opcode

/-- The exact result of an integer opcode on `a` and `b`, `b` being the top of the stack (the
opcodes of one operand read `a` alone): the sum, the difference, the product, the floor quotient
or the remainder, the successor or the predecessor, as an integer that may be negative or too
large for a word; none for a division by zero and for the other opcodes. -/
def exactResult? : Opcode → Nat → Nat → Option Int
  | .add, a, b => some ((a : Int) + b)
  | .sub, a, b => some ((a : Int) - b)
  | .mul, a, b => some ((a : Int) * b)
  | .div, a, b => if b = 0 then none else some ((a / b : Nat) : Int)
  | .mod, a, b => if b = 0 then none else some ((a % b : Nat) : Int)
  | .inc, a, _ => some ((a : Int) + 1)
  | .dec, a, _ => some ((a : Int) - 1)
  | _, _, _ => none

/-- The exact result of an integer opcode when it is an unsigned 256-bit integer. -/
def exactWord? (opcode : Opcode) (a b : Nat) : Option Nat :=
  match opcode.exactResult? a b with
  | some value => if 0 ≤ value ∧ value < 2 ^ 256 then some value.toNat else none
  | none => none

/-- The order of `a` and `b` that a comparison asks, `b` being the top of the stack. -/
def orders : Opcode → Nat → Nat → Bool
  | .lt, a, b => decide (a < b)
  | .le, a, b => decide (a ≤ b)
  | .gt, a, b => decide (a > b)
  | _, a, b => decide (a ≥ b)

variable {opcode : Opcode} {a b : Nat}

theorem exactWord?_of_natural (value : Nat) (exact : opcode.exactResult? a b = some value) :
    opcode.exactWord? a b = if value < 2 ^ 256 then some value else none := by
  unfold exactWord?
  rw [exact]
  simp

theorem exactWord?_of_negative {value : Int} (exact : opcode.exactResult? a b = some value)
    (negative : value < 0) : opcode.exactWord? a b = none := by
  unfold exactWord?
  rw [exact]
  dsimp only
  rw [if_neg (by omega)]

end Opcode

namespace Exec

variable {a b : Nat}

theorem toOption_arithmetic {opcode : Opcode} (binary : opcode ∈ [.add, .sub, .mul, .div, .mod])
    (aRange : a < 2 ^ 256) (bRange : b < 2 ^ 256) :
    (arithmetic opcode a b).toOption = opcode.exactWord? a b := by
  simp only [List.mem_cons, List.not_mem_nil, or_false] at binary
  rcases binary with rfl | rfl | rfl | rfl | rfl
  · rw [arithmetic_add aRange bRange, Opcode.exactWord?_of_natural (a + b) (by simp [Opcode.exactResult?])]
    split <;> rfl
  · rw [arithmetic_sub aRange bRange]
    by_cases le : b ≤ a
    · rw [Opcode.exactWord?_of_natural (a - b) (by simp [Opcode.exactResult?, le]), if_pos le,
        if_pos (by omega)]
      rfl
    · rw [Opcode.exactWord?_of_negative (by rfl) (by omega), if_neg le]
      rfl
  · rw [arithmetic_mul aRange bRange, Opcode.exactWord?_of_natural (a * b) (by simp [Opcode.exactResult?])]
    split <;> rfl
  · rw [arithmetic_div aRange bRange]
    by_cases zero : b = 0
    · simp [zero, Opcode.exactWord?, Opcode.exactResult?, Except.toOption]
    · rw [Opcode.exactWord?_of_natural (a / b) (by simp [Opcode.exactResult?, zero]), if_neg zero,
        if_pos (Nat.lt_of_le_of_lt (Nat.div_le_self a b) aRange)]
      rfl
  · rw [arithmetic_mod aRange bRange]
    by_cases zero : b = 0
    · simp [zero, Opcode.exactWord?, Opcode.exactResult?, Except.toOption]
    · rw [Opcode.exactWord?_of_natural (a % b) (by simp [Opcode.exactResult?, zero]), if_neg zero,
        if_pos (Nat.lt_of_le_of_lt (Nat.mod_le a b) aRange)]
      rfl

theorem exactWord?_inc :
    Opcode.exactWord? .inc a b = if a + 1 < 2 ^ 256 then some (a + 1) else none :=
  Opcode.exactWord?_of_natural _ (by simp [Opcode.exactResult?])

theorem exactWord?_dec (aRange : a < 2 ^ 256) :
    Opcode.exactWord? .dec a b = if a = 0 then none else some (a - 1) := by
  by_cases zero : a = 0
  · rw [if_pos zero, Opcode.exactWord?_of_negative (by rfl) (by omega)]
  · rw [if_neg zero, Opcode.exactWord?_of_natural (a - 1) (by simp [Opcode.exactResult?]; omega),
      if_pos (by omega)]

theorem comparison_eq_orders {opcode : Opcode} (compares : opcode ∈ [.lt, .le, .gt, .ge])
    (aRange : a < 2 ^ 256) (bRange : b < 2 ^ 256) : comparison opcode a b = opcode.orders a b := by
  simp only [List.mem_cons, List.not_mem_nil, or_false] at compares
  rcases compares with rfl | rfl | rfl | rfl <;>
    simp [comparison, Opcode.orders, word_lt_word aRange bRange, word_lt_word bRange aRange, ← decide_not]

end Exec

/-! ### Instructions on the evaluation stack -/

/-- The machine with other items on its evaluation stack. -/
def Machine.withItems (machine : Machine) (items : List Item) : Machine :=
  { machine with stack := { machine.stack with items } }

@[simp] theorem Machine.withItems_items (machine : Machine) (items : List Item) :
    (machine.withItems items).stack.items = items := rfl

namespace Exec

variable {machine : Machine} {decoded : Code.Decoded} {rest : List Item} {a b : Nat}

theorem outcome_frame_self (machine : Machine) : ∃ current, outcome frame machine = (.ok current, machine) := by
  simp only [frame, outcome_bind, outcome_get]
  split <;> exact ⟨_, rfl⟩

theorem outcome_pop {item : Item} (stackIs : machine.stack.items = item :: rest) :
    outcome pop machine = (.ok item, machine.withItems rest) := by
  have popped : machine.stack.pop = .ok (item, { machine.stack with items := rest }) := by
    simp [Stack.pop, stackIs]
  unfold pop
  rw [outcome_bind_of_ok (outcome_get machine)]
  simp only [popped]
  rfl

theorem outcome_pop_empty (stackIs : machine.stack.items = []) :
    outcome pop machine = (.error (.fault (.stack (.empty machine.stack.name))), machine) := by
  have popped : machine.stack.pop = .error (.empty machine.stack.name) := by
    simp [Stack.pop, stackIs]
  unfold pop
  rw [outcome_bind_of_ok (outcome_get machine)]
  simp only [popped]
  rfl

theorem outcome_popInteger (stackIs : machine.stack.items = .integer a :: rest) :
    outcome popInteger machine = (.ok a, machine.withItems rest) := by
  unfold popInteger
  rw [outcome_bind_of_ok (outcome_pop stackIs)]
  rfl

theorem popBoolean_not_arithmetic {cause : Fault}
    (stopped : (outcome popBoolean machine).1 = .error (.fault cause)) (failure : ArithmeticError) :
    cause ≠ .arithmetic failure := by
  unfold popBoolean at stopped
  rw [outcome_bind] at stopped
  rcases itemsAre : machine.stack.items with _ | ⟨item, rest⟩
  · rw [outcome_pop_empty itemsAre] at stopped
    cases stopped
    exact Fault.noConfusion
  · rw [outcome_pop itemsAre] at stopped
    cases item <;> simp only [Item.toBoolean, outcome_fail, outcome_pure, reduceCtorEq,
      Except.error.injEq, Stop.fault.injEq] at stopped
    all_goals
      subst stopped
      exact Fault.noConfusion

theorem length_lt_capacity_of_cons {item : Item} (stackIs : machine.stack.items = item :: rest)
    (bounded : machine.stack.size ≤ Stack.capacity) : rest.length < Stack.capacity := by
  simp only [Stack.size, stackIs, List.length_cons] at bounded
  omega

theorem outcome_push_withItems (item : Item) (room : rest.length < Stack.capacity) :
    outcome (push item) (machine.withItems rest) = (.ok (), machine.withItems (item :: rest)) := by
  have pushed : (machine.withItems rest).stack.push item =
      .ok { (machine.withItems rest).stack with items := item :: rest } := by
    simp [Stack.push, Stack.size, Nat.not_le.mpr room]
  simp only [push, outcome_bind, outcome_get, pushed, outcome_set]
  rfl

theorem outcome_perform_arithmetic (binary : decoded.opcode ∈ [.add, .sub, .mul, .div, .mod])
    (stackIs : machine.stack.items = .integer b :: .integer a :: rest)
    (bounded : machine.stack.size ≤ Stack.capacity) :
    outcome (perform decoded) machine = match arithmetic decoded.opcode a b with
      | .ok value => (.ok (), machine.withItems (.integer value :: rest))
      | .error failure => (.error (.fault (.arithmetic failure)), machine.withItems rest) := by
  obtain ⟨current, framed⟩ := outcome_frame_self machine
  have popped : outcome popInteger (machine.withItems (.integer a :: rest)) =
      (.ok a, machine.withItems rest) := outcome_popInteger rfl
  generalize resultIs : arithmetic decoded.opcode a b = result
  unfold perform
  rw [outcome_bind_of_ok framed]
  simp only [List.mem_cons, List.not_mem_nil, or_false] at binary
  rcases binary with opcodeIs | opcodeIs | opcodeIs | opcodeIs | opcodeIs
  all_goals
    simp only [opcodeIs] at resultIs ⊢
    rw [outcome_bind_of_ok (outcome_popInteger stackIs), outcome_bind_of_ok popped, resultIs]
    cases result with
    | ok value =>
      have room := length_lt_capacity_of_cons stackIs bounded
      exact outcome_push_withItems _ (by simp only [List.length_cons] at room; omega)
    | error failure => rfl

theorem outcome_perform_inc (opcodeIs : decoded.opcode = .inc)
    (stackIs : machine.stack.items = .integer a :: rest) (bounded : machine.stack.size ≤ Stack.capacity)
    (aRange : a < 2 ^ 256) :
    outcome (perform decoded) machine = match Opcode.exactWord? .inc a 0 with
      | some value => (.ok (), machine.withItems (.integer value :: rest))
      | none => (.error (.fault (.arithmetic .overflow)), machine.withItems rest) := by
  obtain ⟨current, framed⟩ := outcome_frame_self machine
  unfold perform
  rw [outcome_bind_of_ok framed]
  simp only [opcodeIs]
  rw [outcome_bind_of_ok (outcome_popInteger stackIs), exactWord?_inc]
  by_cases fits : a + 1 < 2 ^ 256
  · rw [if_neg ((word_succ_eq_zero aRange).not.mpr (by omega)), if_pos fits, toNat_word_succ fits]
    exact outcome_push_withItems _ (length_lt_capacity_of_cons stackIs bounded)
  · rw [if_pos ((word_succ_eq_zero aRange).mpr (by omega)), if_neg fits]
    rfl

theorem outcome_perform_dec (opcodeIs : decoded.opcode = .dec)
    (stackIs : machine.stack.items = .integer a :: rest) (bounded : machine.stack.size ≤ Stack.capacity)
    (aRange : a < 2 ^ 256) :
    outcome (perform decoded) machine = match Opcode.exactWord? .dec a 0 with
      | some value => (.ok (), machine.withItems (.integer value :: rest))
      | none => (.error (.fault (.arithmetic .underflow)), machine.withItems rest) := by
  obtain ⟨current, framed⟩ := outcome_frame_self machine
  unfold perform
  rw [outcome_bind_of_ok framed]
  simp only [opcodeIs]
  rw [outcome_bind_of_ok (outcome_popInteger stackIs), exactWord?_dec aRange]
  by_cases zero : a = 0
  · rw [if_pos ((word_eq_zero aRange).mpr zero), if_pos zero]
    rfl
  · rw [if_neg ((word_eq_zero aRange).not.mpr zero), if_neg zero, toNat_word_pred aRange (by omega)]
    exact outcome_push_withItems _ (length_lt_capacity_of_cons stackIs bounded)

theorem outcome_perform_comparison (compares : decoded.opcode ∈ [.lt, .le, .gt, .ge])
    (stackIs : machine.stack.items = .integer b :: .integer a :: rest)
    (bounded : machine.stack.size ≤ Stack.capacity) (aRange : a < 2 ^ 256) (bRange : b < 2 ^ 256) :
    outcome (perform decoded) machine =
      (.ok (), machine.withItems (.boolean (decoded.opcode.orders a b) :: rest)) := by
  obtain ⟨current, framed⟩ := outcome_frame_self machine
  have popped : outcome popInteger (machine.withItems (.integer a :: rest)) =
      (.ok a, machine.withItems rest) := outcome_popInteger rfl
  have room := length_lt_capacity_of_cons stackIs bounded
  rw [← comparison_eq_orders compares aRange bRange]
  unfold perform
  rw [outcome_bind_of_ok framed]
  simp only [List.mem_cons, List.not_mem_nil, or_false] at compares
  rcases compares with opcodeIs | opcodeIs | opcodeIs | opcodeIs
  all_goals
    simp only [opcodeIs]
    rw [outcome_bind_of_ok (outcome_popInteger stackIs), outcome_bind_of_ok popped]
    exact outcome_push_withItems _ (by simp only [List.length_cons] at room; omega)

theorem outcome_abortWith_wide (assertion : Bool) (stackIs : machine.stack.items = .integer a :: rest)
    (wide : 2 ^ 64 ≤ a) :
    outcome (abortWith assertion) machine =
      (.error (.fault (.arithmetic (.wideAbortCode a))), machine.withItems rest) := by
  obtain ⟨current, framed⟩ := outcome_frame_self machine
  unfold abortWith
  rw [outcome_bind_of_ok framed]
  dsimp only
  rw [outcome_bind_of_ok (outcome_popInteger stackIs), if_pos (by simpa using wide)]
  rfl

theorem outcome_abortWith_narrow (assertion : Bool) (stackIs : machine.stack.items = .integer a :: rest)
    (narrow : a < 2 ^ 64) :
    ∃ location, outcome (abortWith assertion) machine = (.ok ⟨a, assertion, location⟩, machine.withItems rest) := by
  obtain ⟨current, framed⟩ := outcome_frame_self machine
  refine ⟨current.location, ?_⟩
  unfold abortWith
  rw [outcome_bind_of_ok framed]
  dsimp only
  rw [outcome_bind_of_ok (outcome_popInteger stackIs), if_neg (by simpa using narrow)]
  rfl

theorem outcome_perform_abort_wide (aborts : decoded.opcode ∈ [.abort, .assert])
    (stackIs : machine.stack.items = .integer a :: rest) (wide : 2 ^ 64 ≤ a) :
    outcome (perform decoded) machine =
      (.error (.fault (.arithmetic (.wideAbortCode a))), machine.withItems rest) := by
  obtain ⟨current, framed⟩ := outcome_frame_self machine
  unfold perform
  rw [outcome_bind_of_ok framed]
  simp only [List.mem_cons, List.not_mem_nil, or_false] at aborts
  rcases aborts with opcodeIs | opcodeIs
  all_goals
    simp only [opcodeIs]
    rw [outcome_bind, outcome_abortWith_wide _ stackIs wide]

theorem perform_abort_narrow (aborts : decoded.opcode ∈ [.abort, .assert])
    (stackIs : machine.stack.items = .integer a :: rest) (narrow : a < 2 ^ 64) {cause : Fault}
    (stopped : (outcome (perform decoded) machine).1 = .error (.fault cause)) (failure : ArithmeticError) :
    cause ≠ .arithmetic failure := by
  obtain ⟨current, framed⟩ := outcome_frame_self machine
  obtain ⟨location, aborted⟩ := outcome_abortWith_narrow false stackIs narrow
  obtain ⟨location', asserted⟩ := outcome_abortWith_narrow true stackIs narrow
  unfold perform at stopped
  rw [outcome_bind_of_ok framed] at stopped
  simp only [List.mem_cons, List.not_mem_nil, or_false] at aborts
  rcases aborts with opcodeIs | opcodeIs
  · simp only [opcodeIs] at stopped
    rw [outcome_bind_of_ok aborted] at stopped
    cases stopped
  · simp only [opcodeIs] at stopped
    rw [outcome_bind_of_ok asserted, outcome_bind] at stopped
    rcases taken : outcome popBoolean (machine.withItems rest) with ⟨result, after⟩
    rw [taken] at stopped
    cases result with
    | ok held =>
      dsimp only at stopped
      split at stopped <;> cases stopped
    | error stop =>
      cases stopped
      exact popBoolean_not_arithmetic (by rw [taken]) failure

end Exec

/-! ### Steps -/

namespace Machine

variable {machine : Machine} {decoded : Code.Decoded} {rest : List Item}

theorem step_of_next (next : machine.nextInstruction? = some decoded)
    (paid : machine.unitWithinBudget = true) :
    ∃ start : Machine, start.stack = machine.stack ∧ ∃ location : Location,
      (∀ after, Exec.outcome (Exec.perform decoded) start = (.ok (), after) → machine.step = (after, none)) ∧
      (∀ info after, Exec.outcome (Exec.perform decoded) start = (.error (.abort info), after) →
        machine.step = ({ after with status := .fault }, some (.abort info))) ∧
      (∀ cause after, Exec.outcome (Exec.perform decoded) start = (.error (.fault cause), after) →
        machine.step = ({ after with status := .fault }, some (.fault location decoded.opcode.byte cause))) := by
  rcases step_spec machine with ⟨empty, -⟩ | ⟨-, -, noNext, -⟩ | ⟨-, -, -, noNext, -⟩ |
    ⟨moved, rest, found, foundNext, -, inside, stepped⟩
  · simp [nextInstruction?, empty] at next
  · rw [next] at noNext
    cases noNext
  · rw [next] at noNext
    cases noNext
  · rw [next] at foundNext
    cases foundNext
    have within : { ({ machine with frames := moved :: rest } : Machine) with
        gasUsed := machine.gasUsed + instructionPrice }.withinBudget = true :=
      (withinBudget_congr rfl rfl).trans paid
    have stepEq := stepped.trans (execute_eq rfl)
    rw [Exec.outcome_instruction_within inside within] at stepEq
    refine ⟨Exec.recorded moved decoded { machine with frames := moved :: rest }, rfl, moved.location,
      fun after done => ?_, fun info after done => ?_, fun cause after done => ?_⟩ <;> rw [stepEq, done]

theorem step_pushes (next : machine.nextInstruction? = some decoded) (paid : machine.unitWithinBudget = true)
    {item : Item} (performs : ∀ start : Machine, start.stack = machine.stack →
      Exec.outcome (Exec.perform decoded) start = (.ok (), start.withItems (item :: rest))) :
    machine.step.2 = none ∧ machine.step.1.stack.items = item :: rest := by
  obtain ⟨start, sameStack, location, done, -, -⟩ := step_of_next next paid
  rw [done _ (performs start sameStack)]
  exact ⟨rfl, rfl⟩

theorem step_fails (next : machine.nextInstruction? = some decoded) (paid : machine.unitWithinBudget = true)
    {cause : Fault} (performs : ∀ start : Machine, start.stack = machine.stack →
      Exec.outcome (Exec.perform decoded) start = (.error (.fault cause), start.withItems rest)) :
    (∃ location, machine.step.2 = some (.fault location decoded.opcode.byte cause)) ∧
      machine.step.1.stack.items = rest := by
  obtain ⟨start, sameStack, location, -, -, faulted⟩ := step_of_next next paid
  rw [faulted _ _ (performs start sameStack)]
  exact ⟨⟨location, rfl⟩, rfl⟩

theorem perform_of_step_fault (next : machine.nextInstruction? = some decoded)
    (paid : machine.unitWithinBudget = true) {location : Location} {opcode : UInt8} {cause : Fault}
    (failed : machine.step.2 = some (.fault location opcode cause)) :
    ∃ start : Machine, start.stack = machine.stack ∧
      (Exec.outcome (Exec.perform decoded) start).1 = .error (.fault cause) := by
  obtain ⟨start, sameStack, location', done, aborted, faulted⟩ := step_of_next next paid
  refine ⟨start, sameStack, ?_⟩
  rcases performed : Exec.outcome (Exec.perform decoded) start with ⟨result, after⟩
  cases result with
  | ok =>
    rw [done after performed] at failed
    cases failed
  | error stop =>
    cases stop with
    | abort info =>
      rw [aborted info after performed] at failed
      cases failed
    | fault found =>
      rw [faulted found after performed] at failed
      cases failed
      rfl

/-- How a step ends on an integer opcode whose exact result, where it is a word, is `result?`:
it takes the operands off the stack down to `rest` and pushes the result; where there is no
result, it fails for arithmetic and pushes nothing. -/
def StepsExactly (machine : Machine) (opcode : Opcode) (rest : List Item) : Option Item → Prop
  | some item => machine.step.2 = none ∧ machine.step.1.stack.items = item :: rest
  | none => (∃ location failure, machine.step.2 = some (.fault location opcode.byte (.arithmetic failure))) ∧
      machine.step.1.stack.items = rest

section Integers

variable {a b : Nat}

theorem step_arithmetic (next : machine.nextInstruction? = some decoded)
    (paid : machine.unitWithinBudget = true) (bounded : machine.stack.size ≤ Stack.capacity)
    (binary : decoded.opcode ∈ [.add, .sub, .mul, .div, .mod])
    (stackIs : machine.stack.items = .integer b :: .integer a :: rest)
    (aRange : a < 2 ^ 256) (bRange : b < 2 ^ 256) :
    machine.StepsExactly decoded.opcode rest ((decoded.opcode.exactWord? a b).map .integer) := by
  have performs := fun (start : Machine) (sameStack : start.stack = machine.stack) =>
    Exec.outcome_perform_arithmetic binary (by rw [sameStack]; exact stackIs) (by rw [Stack.size, sameStack]; exact bounded)
  rw [← Exec.toOption_arithmetic binary aRange bRange]
  cases result : Exec.arithmetic decoded.opcode a b with
  | ok value => exact step_pushes next paid fun start sameStack => by rw [performs start sameStack, result]
  | error failure =>
    obtain ⟨⟨location, failed⟩, itemsAre⟩ :=
      step_fails next paid fun start sameStack => by rw [performs start sameStack, result]
    exact ⟨⟨location, failure, failed⟩, itemsAre⟩

theorem step_successor (next : machine.nextInstruction? = some decoded)
    (paid : machine.unitWithinBudget = true) (bounded : machine.stack.size ≤ Stack.capacity)
    (steps : decoded.opcode ∈ [.inc, .dec]) (stackIs : machine.stack.items = .integer a :: rest)
    (aRange : a < 2 ^ 256) :
    machine.StepsExactly decoded.opcode rest ((decoded.opcode.exactWord? a 0).map .integer) := by
  have stackAt : ∀ start : Machine, start.stack = machine.stack → start.stack.items = .integer a :: rest :=
    fun start sameStack => by rw [sameStack]; exact stackIs
  have boundedAt : ∀ start : Machine, start.stack = machine.stack → start.stack.size ≤ Stack.capacity :=
    fun start sameStack => by rw [Stack.size, sameStack]; exact bounded
  simp only [List.mem_cons, List.not_mem_nil, or_false] at steps
  rcases steps with opcodeIs | opcodeIs
  · have performs := fun (start : Machine) (sameStack : start.stack = machine.stack) =>
      Exec.outcome_perform_inc opcodeIs (stackAt start sameStack) (boundedAt start sameStack) aRange
    rw [show decoded.opcode.exactWord? a 0 = Opcode.exactWord? .inc a 0 by rw [opcodeIs]]
    cases result : Opcode.exactWord? .inc a 0 with
    | some value => exact step_pushes next paid fun start sameStack => by rw [performs start sameStack, result]
    | none =>
      obtain ⟨⟨location, failed⟩, itemsAre⟩ :=
        step_fails next paid fun start sameStack => by rw [performs start sameStack, result]
      exact ⟨⟨location, .overflow, failed⟩, itemsAre⟩
  · have performs := fun (start : Machine) (sameStack : start.stack = machine.stack) =>
      Exec.outcome_perform_dec opcodeIs (stackAt start sameStack) (boundedAt start sameStack) aRange
    rw [show decoded.opcode.exactWord? a 0 = Opcode.exactWord? .dec a 0 by rw [opcodeIs]]
    cases result : Opcode.exactWord? .dec a 0 with
    | some value => exact step_pushes next paid fun start sameStack => by rw [performs start sameStack, result]
    | none =>
      obtain ⟨⟨location, failed⟩, itemsAre⟩ :=
        step_fails next paid fun start sameStack => by rw [performs start sameStack, result]
      exact ⟨⟨location, .underflow, failed⟩, itemsAre⟩

theorem step_comparison (next : machine.nextInstruction? = some decoded)
    (paid : machine.unitWithinBudget = true) (bounded : machine.stack.size ≤ Stack.capacity)
    (compares : decoded.opcode ∈ [.lt, .le, .gt, .ge])
    (stackIs : machine.stack.items = .integer b :: .integer a :: rest)
    (aRange : a < 2 ^ 256) (bRange : b < 2 ^ 256) :
    machine.StepsExactly decoded.opcode rest (some (.boolean (decoded.opcode.orders a b))) :=
  step_pushes next paid fun start sameStack =>
    Exec.outcome_perform_comparison compares (by rw [sameStack]; exact stackIs)
      (by rw [Stack.size, sameStack]; exact bounded) aRange bRange

theorem step_abort_arithmetic_iff (next : machine.nextInstruction? = some decoded)
    (paid : machine.unitWithinBudget = true) (aborts : decoded.opcode ∈ [.abort, .assert])
    (stackIs : machine.stack.items = .integer a :: rest) :
    (∃ location failure, machine.step.2 = some (.fault location decoded.opcode.byte (.arithmetic failure))) ↔
      2 ^ 64 ≤ a := by
  constructor
  · rintro ⟨location, failure, failed⟩
    by_contra narrow
    obtain ⟨start, sameStack, stopped⟩ := perform_of_step_fault next paid failed
    exact Exec.perform_abort_narrow aborts (by rw [sameStack]; exact stackIs) (by omega) stopped failure rfl
  · intro wide
    obtain ⟨⟨location, failed⟩, -⟩ := step_fails next paid fun start sameStack =>
      Exec.outcome_perform_abort_wide aborts (by rw [sameStack]; exact stackIs) wide
    exact ⟨location, _, failed⟩

end Integers

end Machine

/-- Unsigned 256-bit integer instructions are exact or fail. Take a step whose next instruction
decodes, whose unit of gas is within the budget and whose stack has room as every stack of the
machine has, with integers `a` and `b` below `2 ^ 256` (`b` on top). An addition, subtraction,
multiplication, division or remainder pushes the exact natural-number result in place of its
operands when that result is a word (and a divisor is not zero), and otherwise fails for
arithmetic and pushes nothing; so do the successor and predecessor of `a`. A comparison pushes
the true order of `a` and `b`. An abort or an assertion fails for arithmetic exactly when its
code `a` needs more than 64 bits. -/
theorem integer_instructions_exact {machine : Machine} {decoded : Code.Decoded} {rest : List Item}
    {a b : Nat} (next : machine.nextInstruction? = some decoded) (paid : machine.unitWithinBudget = true)
    (bounded : machine.stack.size ≤ Stack.capacity) (aRange : a < 2 ^ 256) (bRange : b < 2 ^ 256) :
    (decoded.opcode ∈ [.add, .sub, .mul, .div, .mod] →
      machine.stack.items = .integer b :: .integer a :: rest →
      machine.StepsExactly decoded.opcode rest ((decoded.opcode.exactWord? a b).map .integer)) ∧
    (decoded.opcode ∈ [.inc, .dec] → machine.stack.items = .integer a :: rest →
      machine.StepsExactly decoded.opcode rest ((decoded.opcode.exactWord? a 0).map .integer)) ∧
    (decoded.opcode ∈ [.lt, .le, .gt, .ge] → machine.stack.items = .integer b :: .integer a :: rest →
      machine.StepsExactly decoded.opcode rest (some (.boolean (decoded.opcode.orders a b)))) ∧
    (decoded.opcode ∈ [.abort, .assert] → machine.stack.items = .integer a :: rest →
      ((∃ location failure,
          machine.step.2 = some (.fault location decoded.opcode.byte (.arithmetic failure))) ↔
        2 ^ 64 ≤ a)) :=
  ⟨fun binary stackIs => Machine.step_arithmetic next paid bounded binary stackIs aRange bRange,
    fun steps stackIs => Machine.step_successor next paid bounded steps stackIs aRange,
    fun compares stackIs => Machine.step_comparison next paid bounded compares stackIs aRange bRange,
    fun aborts stackIs => Machine.step_abort_arithmetic_iff next paid aborts stackIs⟩

/-- A call of a function whose code is one addition, at its start, with the largest word under
one on the stack. -/
def overflowingAddition : Machine :=
  ⟨default, .none, [⟨default, ⟨⟨"add", 0, 0, 1, ⟨0⟩, 0, [], [Opcode.add.byte]⟩, [], [0]⟩, 0, 0, #[], 0⟩],
    ⟨"evaluation", [.integer 1, .integer (2 ^ 256 - 1)]⟩, [], 0, none, #[], #[]⟩

theorem overflowing_addition_exact :
    overflowingAddition.nextInstruction? = some ⟨.add, [], 1⟩ ∧
    overflowingAddition.unitWithinBudget = true ∧
    overflowingAddition.stack.size ≤ Stack.capacity ∧ 2 ^ 256 - 1 < 2 ^ 256 ∧ 1 < 2 ^ 256 ∧
    ((⟨.add, [], 1⟩ : Code.Decoded).opcode ∈ [.add, .sub, .mul, .div, .mod] →
      overflowingAddition.stack.items = .integer 1 :: .integer (2 ^ 256 - 1) :: [] →
      overflowingAddition.StepsExactly Opcode.add []
        ((Opcode.exactWord? .add (2 ^ 256 - 1) 1).map .integer)) ∧
    ((⟨.add, [], 1⟩ : Code.Decoded).opcode ∈ [.inc, .dec] →
      overflowingAddition.stack.items = .integer (2 ^ 256 - 1) :: [] →
      overflowingAddition.StepsExactly Opcode.add [] ((Opcode.exactWord? .add (2 ^ 256 - 1) 0).map .integer)) ∧
    ((⟨.add, [], 1⟩ : Code.Decoded).opcode ∈ [.lt, .le, .gt, .ge] →
      overflowingAddition.stack.items = .integer 1 :: .integer (2 ^ 256 - 1) :: [] →
      overflowingAddition.StepsExactly Opcode.add [] (some (.boolean (Opcode.orders .add (2 ^ 256 - 1) 1)))) ∧
    ((⟨.add, [], 1⟩ : Code.Decoded).opcode ∈ [.abort, .assert] →
      overflowingAddition.stack.items = .integer (2 ^ 256 - 1) :: [] →
      ((∃ location failure,
          overflowingAddition.step.2 = some (.fault location Opcode.add.byte (.arithmetic failure))) ↔
        2 ^ 64 ≤ 2 ^ 256 - 1)) := by
  have next : overflowingAddition.nextInstruction? = some ⟨.add, [], 1⟩ := by decide
  exact ⟨next, rfl, by decide, by norm_num, by norm_num,
    integer_instructions_exact next rfl (by decide) (by norm_num) (by norm_num)⟩

end Testbench
