import Mathlib
import Testbench.Proofs.Machine.Triple

/-!
What a step charges and how it changes the calls: a unit for an instruction of the code, a
service's price on top, and nothing for the return past the end of the code.
-/

namespace Testbench

/-- A stop for gas: a fault that the budget ran out, for an instruction or for a service. -/
def Stop.IsGas : Stop → Prop
  | .abort _ => False
  | .fault cause => ErrorKind.gasLimitExceeded ∈ cause.kinds

theorem Stop.IsLocal.not_isGas {stop : Stop} (isLocal : stop.IsLocal) : ¬ stop.IsGas := by
  cases stop with
  | abort info => exact id
  | fault cause => cases cause <;> simp_all [Stop.IsLocal, Stop.IsGas, Fault.kinds]

/-- What the budget and the hooks see of a machine: the gas used, the budget and the
instructions recorded. -/
def Machine.meter (machine : Machine) : Nat × Option Nat × Array Event :=
  (machine.gasUsed, machine.gasLimit, machine.events)

namespace Machine

/-- The instruction the next step charges for. There is none when no call runs, when the code of
the innermost call has run out (the return past its end is free) or when the next offset does
not decode. -/
def nextInstruction? (machine : Machine) : Option Code.Decoded :=
  match machine.frames with
  | [] => none
  | current :: _ =>
    if current.code.length ≤ current.nextIp then none
    else (Code.decode current.code current.nextIp).toOption

/-- Is the gas used within the budget once an instruction's unit is paid? -/
def unitWithinBudget (machine : Machine) : Bool :=
  { machine with gasUsed := machine.gasUsed + instructionPrice }.withinBudget

/-- The service an instruction pays for: it calls a known service, and its unit of gas was
within the budget. -/
def paidService? (machine : Machine) (decoded : Code.Decoded) : Option Service :=
  if decoded.opcode = .syscall ∧ machine.unitWithinBudget = true then Service.ofId? decoded.argument
  else none

/-- The service the next step pays for. -/
def nextService? (machine : Machine) : Option Service :=
  machine.nextInstruction?.bind machine.paidService?

/-- The gas the next step charges: a unit for an instruction of the code, and the price of the
service it pays for. -/
def stepGas (machine : Machine) : Nat :=
  (if machine.nextInstruction?.isSome then instructionPrice else 0) +
    (machine.nextService?.map Service.price).getD 0

end Machine

namespace Exec

variable {α : Type} {rest : List Frame} {reading : Nat × Option Nat × Array Event}

/-- A machine with the meter `reading` and the calls `rest` under its innermost call. -/
def Level (rest : List Frame) (reading : Nat × Option Nat × Array Event) (machine : Machine) :
    Prop :=
  machine.meter = reading ∧ ∃ head, machine.frames = head :: rest

/-- Where an instruction run over the calls `rest` leaves a machine with the meter `reading`:
the innermost call changed in place, one more call entered, or the innermost returned, halting
the machine when it was the last. -/
def Moved (rest : List Frame) (reading : Nat × Option Nat × Array Event) (machine : Machine) :
    Prop :=
  machine.meter = reading ∧
    ((∃ head, machine.frames = head :: rest) ∨ (∃ entered head, machine.frames = entered :: head :: rest) ∨
      (machine.frames = rest ∧ (rest = [] → machine.hasHalted = true)))

/-- How a plain instruction may stop: where `Moved` says, and not for gas. -/
def StopsPlain (rest : List Frame) (reading : Nat × Option Nat × Array Event) (stop : Stop)
    (machine : Machine) : Prop :=
  Moved rest reading machine ∧ ¬ stop.IsGas

theorem Moved.length_le {machine : Machine} (moved : Moved rest reading machine) :
    machine.frames.length ≤ rest.length + 2 := by
  rcases moved.2 with ⟨head, framesAre⟩ | ⟨entered, head, framesAre⟩ | ⟨framesAre, -⟩ <;>
    simp [framesAre]

theorem Moved.halted {machine : Machine} (moved : Moved rest reading machine)
    (empty : machine.frames = []) : machine.hasHalted = true := by
  rcases moved.2 with ⟨head, framesAre⟩ | ⟨entered, head, framesAre⟩ | ⟨framesAre, halts⟩
  · rw [framesAre] at empty
    cases empty
  · rw [framesAre] at empty
    cases empty
  · exact halts (framesAre ▸ empty)

theorem Level.moved {machine : Machine} (level : Level rest reading machine) :
    Moved rest reading machine :=
  ⟨level.1, Or.inl level.2⟩

theorem Triple.moved {part : Exec α}
    (triple : Triple (Level rest reading) part (fun _ => Level rest reading) (StopsPlain rest reading)) :
    Triple (Level rest reading) part (fun _ => Moved rest reading) (StopsPlain rest reading) :=
  triple.mono (fun _ level => level) (fun _ _ level => level.moved) fun _ _ stopped => stopped

theorem OnStack.level {part : Exec α} (onStack : OnStack part) :
    Triple (Level rest reading) part (fun _ => Level rest reading) (StopsPlain rest reading) :=
  (onStack.triple fun _ _ level => level).mono (fun _ level => level) (fun _ _ level => level)
    fun _ _ stopped => ⟨stopped.1.moved, stopped.2.not_isGas⟩

theorem fail_plain {cause : Fault} (notGas : ¬ (Stop.fault cause).IsGas) {post : α → Machine → Prop} :
    Triple (Level rest reading) (fail cause) post (StopsPlain rest reading) :=
  fun _ level => ⟨level.moved, notGas⟩

theorem modifyFrame_level (change : Frame → Frame) :
    Triple (Level rest reading) (modifyFrame change) (fun _ => Level rest reading)
      (StopsPlain rest reading) := by
  intro machine ⟨metered, head, framesAre⟩
  rw [outcome_modifyFrame framesAre]
  exact ⟨metered, _, rfl⟩

theorem staticsOf_level (id : ModuleId) :
    Triple (Level rest reading) (staticsOf id) (fun _ => Level rest reading) (StopsPlain rest reading) := by
  intro machine level
  obtain ⟨slots, same⟩ : ∃ slots, outcome (staticsOf id) machine = (.ok slots, machine) := by
    simp only [staticsOf, outcome_bind, outcome_get]
    split <;> exact ⟨_, rfl⟩
  rw [same]
  exact level

theorem readSlot_level (slots : Array Item) (index : Nat) :
    Triple (Level rest reading) (readSlot slots index) (fun _ => Level rest reading)
      (StopsPlain rest reading) := by
  unfold readSlot
  split
  · exact fun _ level => level
  · exact fail_plain (by simp [Stop.IsGas, Fault.kinds])

theorem checkSlot_level (slots : Array Item) (index : Nat) :
    Triple (Level rest reading) (checkSlot slots index) (fun _ => Level rest reading)
      (StopsPlain rest reading) := by
  unfold checkSlot
  split
  · exact fun _ level => level
  · exact fail_plain (by simp [Stop.IsGas, Fault.kinds])

theorem setStatics_level (id : ModuleId) (slots : Array Item) :
    Triple (Level rest reading) (setStatics id slots) (fun _ => Level rest reading)
      (StopsPlain rest reading) := by
  intro machine level
  rw [outcome_setStatics]
  exact level

@[simp] theorem entered_meter (module : LinkedModule) (machine : Machine) :
    (entered module machine).meter = machine.meter := by
  unfold entered
  split <;> rfl

theorem call_moved (module : LinkedModule) (function : LinkedFunction) :
    Triple (Level rest reading) (call module function) (fun _ => Moved rest reading)
      (StopsPlain rest reading) := by
  intro machine ⟨metered, head, framesAre⟩
  rcases call_spec module function machine with
    ⟨-, tooDeep⟩ | ⟨-, stack, ⟨locals, sized, called⟩ | ⟨stop, isLocal, stopped⟩⟩
  · rw [tooDeep]
    exact ⟨⟨metered, Or.inl ⟨head, framesAre⟩⟩, by simp [Stop.IsGas, Fault.kinds]⟩
  · rw [called]
    refine ⟨(entered_meter module machine).trans metered,
      Or.inr (Or.inl ⟨⟨module, function, 0, 0, locals, stack.size⟩, head, ?_⟩)⟩
    show _ :: machine.frames = _
    rw [framesAre]
  · rw [stopped]
    refine ⟨⟨(entered_meter module machine).trans metered, Or.inl ⟨head, ?_⟩⟩, isLocal.not_isGas⟩
    show (entered module machine).frames = head :: rest
    rw [entered_frames, framesAre]

/-- Where a return leaves the machine: the innermost call is gone, and the machine halted when it
was the last. -/
def Returned (rest : List Frame) (reading : Nat × Option Nat × Array Event) (machine : Machine) :
    Prop :=
  machine.meter = reading ∧ machine.frames = rest ∧ (rest = [] → machine.hasHalted = true)

theorem ret_returns :
    Triple (Level rest reading) ret (fun _ => Returned rest reading) (StopsPlain rest reading) := by
  intro machine ⟨metered, head, framesAre⟩
  rcases ret_spec framesAre with ⟨-, mismatch⟩ | ⟨-, returned⟩
  · rw [mismatch]
    exact ⟨⟨metered, Or.inl ⟨head, framesAre⟩⟩, by simp [Stop.IsGas, Fault.kinds]⟩
  · rw [returned]
    refine ⟨metered, rfl, fun empty => ?_⟩
    simp [empty, Machine.hasHalted, Status.has, Status.halt]

theorem ret_moved :
    Triple (Level rest reading) ret (fun _ => Moved rest reading) (StopsPlain rest reading) :=
  ret_returns.mono (fun _ level => level)
    (fun _ _ returned => ⟨returned.1, Or.inr (Or.inr returned.2)⟩) fun _ _ stopped => stopped

theorem perform_moved {decoded : Code.Decoded} (notService : decoded.opcode ≠ .syscall) :
    Triple (Level rest reading) (perform decoded) (fun _ => Moved rest reading)
      (StopsPlain rest reading) := by
  cases plain : decoded.opcode.reachesFrame
  · exact (perform_onStack plain).level.moved
  unfold perform
  refine Triple.bind frame_onStack.level fun current => ?_
  cases opcodeIs : decoded.opcode <;>
    simp only [opcodeIs, Opcode.reachesFrame, Bool.false_eq_true, ne_eq, not_true_eq_false] at plain notService ⊢
  case pushAddress =>
    split
    · exact (push_onStack _).level.moved
    · exact fail_plain (by simp [Stop.IsGas, Fault.kinds])
  case jump => exact (modifyFrame_level _).moved
  case jumpIf | jumpIfNot =>
    refine Triple.bind popBoolean_onStack.level fun value => ?_
    split
    · exact (modifyFrame_level _).moved
    · exact Triple.done () fun _ level => level.moved
  case call =>
    split
    · exact call_moved _ _
    · exact fail_plain (by simp [Stop.IsGas, Fault.kinds])
  case callImport =>
    split
    · exact fail_plain (by simp [Stop.IsGas, Fault.kinds])
    · refine Triple.get_bind fun machine _ => ?_
      split
      · exact fail_plain (by simp [Stop.IsGas, Fault.kinds])
      · split
        · exact fail_plain (by simp [Stop.IsGas, Fault.kinds])
        · exact call_moved _ _
  case ret => exact ret_moved
  case loadStatic =>
    exact Triple.bind (staticsOf_level _) fun slots => Triple.bind (readSlot_level _ _) fun item =>
      (push_onStack item).level.moved
  case storeStatic =>
    exact Triple.bind pop_onStack.level fun item => Triple.bind (staticsOf_level _) fun slots =>
      Triple.bind (checkSlot_level _ _) fun _ => (setStatics_level _ _).moved
  case loadLocal =>
    exact Triple.bind (readSlot_level _ _) fun item => (push_onStack item).level.moved
  case storeLocal =>
    exact Triple.bind pop_onStack.level fun item => Triple.bind (checkSlot_level _ _) fun _ =>
      (modifyFrame_level _).moved

/-! A charged instruction pays its unit first, then, once within the budget, is recorded and
performed; a service call pays the service's price on top. -/

/-- The machine once an instruction's unit is paid and the instruction recorded. -/
def recorded (current : Frame) (decoded : Code.Decoded) (machine : Machine) : Machine :=
  let event : Event := ⟨current.module.id, current.function.function.name, current.ip, decoded.opcode⟩
  { machine with gasUsed := machine.gasUsed + instructionPrice, events := machine.events.push event }

theorem outcome_instruction_over {current : Frame} {decoded : Code.Decoded} {machine : Machine}
    (charged : current.ip < current.code.length)
    (spent : { machine with gasUsed := machine.gasUsed + instructionPrice }.withinBudget = false) :
    outcome (instruction current decoded) machine =
      (.error (.fault .gasLimit), { machine with gasUsed := machine.gasUsed + instructionPrice }) := by
  unfold instruction
  rw [if_pos charged, outcome_bind, outcome_charge, if_neg (by simp [spent])]

theorem outcome_instruction_within {current : Frame} {decoded : Code.Decoded} {machine : Machine}
    (charged : current.ip < current.code.length)
    (within : { machine with gasUsed := machine.gasUsed + instructionPrice }.withinBudget = true) :
    outcome (instruction current decoded) machine =
      outcome (perform decoded) (recorded current decoded machine) := by
  unfold instruction
  rw [if_pos charged, outcome_bind, outcome_charge, if_pos within]
  dsimp only
  rw [outcome_bind, outcome_modify]
  rfl

theorem outcome_instruction_free {current : Frame} {decoded : Code.Decoded} {machine : Machine}
    (free : ¬ current.ip < current.code.length) :
    outcome (instruction current decoded) machine = outcome (perform decoded) machine := by
  unfold instruction
  rw [if_neg free]

theorem outcome_perform_service {decoded : Code.Decoded} (isService : decoded.opcode = .syscall)
    (machine : Machine) :
    outcome (perform decoded) machine = outcome (service decoded.argument) machine := by
  obtain ⟨current, framed⟩ : ∃ current, outcome frame machine = (.ok current, machine) := by
    simp only [frame, outcome_bind, outcome_get]
    split <;> exact ⟨_, rfl⟩
  unfold perform
  rw [outcome_bind_of_ok framed]
  simp only [isService]

theorem outcome_push_ok {item : Item} {machine : Machine}
    (ok : (outcome (push item) machine).1 = .ok ()) :
    (outcome (push item) machine).2.stack.items = item :: machine.stack.items ∧
      (outcome (push item) machine).2.gasUsed = machine.gasUsed := by
  unfold push at ok ⊢
  rw [outcome_bind_of_ok (outcome_get machine)] at ok ⊢
  cases pushedIs : machine.stack.push item with
  | error failure => simp [pushedIs] at ok
  | ok stack =>
    simp only [outcome_set]
    unfold Stack.push at pushedIs
    split at pushedIs
    · cases pushedIs
    · cases pushedIs
      simp

theorem service_meter (id : Nat) (machine : Machine) :
    (outcome (service id) machine).2.meter =
        (machine.gasUsed + ((Service.ofId? id).map Service.price).getD 0, machine.gasLimit,
          machine.events) ∧
      (outcome (service id) machine).2.frames = machine.frames ∧
      ((∃ stop, (outcome (service id) machine).1 = .error stop ∧ stop.IsGas) ↔
        ∃ which, Service.ofId? id = some which ∧ (charged which machine).withinBudget = false) := by
  rcases service_spec id machine with
    ⟨missing, notFound⟩ | ⟨which, found, ⟨spent, overBudget⟩ | ⟨within, ⟨-, gasLeft⟩ | ⟨-, stack, logs, after, stops⟩⟩⟩
  · rw [notFound, missing]
    simp [Stop.IsGas, Fault.kinds, Machine.meter]
  · rw [overBudget, found]
    refine ⟨rfl, rfl, ?_⟩
    simp [Stop.IsGas, Fault.kinds, spent]
  · obtain ⟨stack, pushed, pushStops⟩ := push_onStack _ (charged which machine)
    rw [gasLeft, found, pushed]
    refine ⟨rfl, rfl, fun ⟨stop, stopped, gas⟩ => absurd gas (pushStops stop stopped).not_isGas, ?_⟩
    rintro ⟨_, ⟨⟩, overBudget⟩
    simp [within] at overBudget
  · rw [after, found]
    refine ⟨rfl, rfl, fun ⟨stop, stopped, gas⟩ => absurd gas (stops stop stopped).not_isGas, ?_⟩
    rintro ⟨_, ⟨⟩, overBudget⟩
    simp [within] at overBudget

/-- What a charged instruction leaves on the meter: its unit and the price of the service it
paid for on the gas used, and itself recorded once its unit was within the budget. -/
def chargedMeter (current : Frame) (decoded : Code.Decoded) (machine : Machine) :
    Nat × Option Nat × Array Event :=
  (machine.gasUsed + instructionPrice + ((machine.paidService? decoded).map Service.price).getD 0,
    machine.gasLimit,
    if machine.unitWithinBudget then (recorded current decoded machine).events else machine.events)

theorem Triple.plain_outcome {part : Exec α}
    (triple : Triple (Level rest reading) part (fun _ => Moved rest reading) (StopsPlain rest reading))
    (machine : Machine) (level : Level rest reading machine) :
    Moved rest reading (outcome part machine).2 ∧
      ∀ stop, (outcome part machine).1 = .error stop → ¬ stop.IsGas := by
  have ran := triple machine level
  rcases ranIs : outcome part machine with ⟨result, after⟩
  rw [ranIs] at ran
  cases result with
  | ok value => exact ⟨ran, fun _ stopped => by cases stopped⟩
  | error stop => exact ⟨ran.1, fun _ stopped => by cases stopped; exact ran.2⟩

section Charged

variable (machine : Machine) (decoded : Code.Decoded) {current : Frame}

theorem instruction_charged_cases (inCode : current.ip < current.code.length) :
    (machine.unitWithinBudget = false ∧ machine.paidService? decoded = none ∧
      outcome (instruction current decoded) machine =
        (.error (.fault .gasLimit), { machine with gasUsed := machine.gasUsed + instructionPrice })) ∨
    (machine.unitWithinBudget = true ∧ decoded.opcode = .syscall ∧
      machine.paidService? decoded = Service.ofId? decoded.argument ∧
      outcome (instruction current decoded) machine =
        outcome (service decoded.argument) (recorded current decoded machine)) ∨
    (machine.unitWithinBudget = true ∧ decoded.opcode ≠ .syscall ∧
      machine.paidService? decoded = none ∧
      outcome (instruction current decoded) machine =
        outcome (perform decoded) (recorded current decoded machine)) := by
  cases within : machine.unitWithinBudget
  · exact Or.inl ⟨rfl, by simp [Machine.paidService?, within], outcome_instruction_over inCode within⟩
  · right
    rw [outcome_instruction_within inCode within]
    by_cases isService : decoded.opcode = .syscall
    · exact Or.inl ⟨rfl, isService, by simp [Machine.paidService?, within, isService],
        outcome_perform_service isService _⟩
    · exact Or.inr ⟨rfl, isService, by simp [Machine.paidService?, isService], rfl⟩

theorem instruction_meter (framesAre : machine.frames = current :: rest)
    (inCode : current.ip < current.code.length) :
    (outcome (instruction current decoded) machine).2.meter = chargedMeter current decoded machine := by
  rcases instruction_charged_cases machine decoded inCode with
    ⟨spent, unpaid, failed⟩ | ⟨within, -, paid, serviced⟩ | ⟨within, notService, unpaid, performed⟩
  · rw [failed]
    simp [chargedMeter, Machine.meter, spent, unpaid]
  · rw [serviced, (service_meter _ _).1, ← paid]
    simp [chargedMeter, within, recorded]
  · rw [performed,
      ((perform_moved notService).plain_outcome (recorded current decoded machine)
        ⟨rfl, current, framesAre⟩).1.1]
    simp [chargedMeter, Machine.meter, within, unpaid, recorded]

theorem instruction_stops_for_gas (framesAre : machine.frames = current :: rest)
    (inCode : current.ip < current.code.length) :
    (∃ stop, (outcome (instruction current decoded) machine).1 = .error stop ∧ stop.IsGas) ↔
      { machine with gasUsed := (chargedMeter current decoded machine).1 }.withinBudget = false := by
  rcases instruction_charged_cases machine decoded inCode with
    ⟨spent, unpaid, failed⟩ | ⟨within, -, paid, serviced⟩ | ⟨within, notService, unpaid, performed⟩
  · rw [failed]
    simp only [chargedMeter, unpaid, Option.map_none, Option.getD_none, Nat.add_zero]
    exact ⟨fun _ => spent, fun _ => ⟨_, rfl, by simp [Stop.IsGas, Fault.kinds]⟩⟩
  · rw [serviced, (service_meter _ _).2.2]
    simp only [chargedMeter, paid]
    cases Service.ofId? decoded.argument with
    | none => simpa [Machine.unitWithinBudget] using within
    | some which => simp [Machine.withinBudget, Machine.gasCounter, charged, recorded]
  · have plain := (perform_moved notService).plain_outcome (recorded current decoded machine)
      ⟨rfl, current, framesAre⟩
    rw [performed]
    simp only [chargedMeter, unpaid, Option.map_none, Option.getD_none, Nat.add_zero]
    constructor
    · rintro ⟨stop, stopped, gas⟩
      exact absurd gas (plain.2 stop stopped)
    · intro spent
      have unitSpent : machine.unitWithinBudget = false := spent
      rw [within] at unitSpent
      cases unitSpent

theorem instruction_moved (framesAre : machine.frames = current :: rest)
    (inCode : current.ip < current.code.length)
    (ok : (outcome (instruction current decoded) machine).1 = .ok ()) :
    Moved rest (chargedMeter current decoded machine) (outcome (instruction current decoded) machine).2 := by
  refine ⟨instruction_meter machine decoded framesAre inCode, ?_⟩
  rcases instruction_charged_cases machine decoded inCode with
    ⟨-, -, failed⟩ | ⟨-, -, -, serviced⟩ | ⟨-, notService, -, performed⟩
  · rw [failed] at ok
    cases ok
  · rw [serviced, (service_meter _ _).2.1]
    exact Or.inl ⟨current, framesAre⟩
  · rw [performed]
    exact ((perform_moved notService).plain_outcome (recorded current decoded machine)
      ⟨rfl, current, framesAre⟩).1.2

theorem instruction_gasLeft (inCode : current.ip < current.code.length) {limit : Nat}
    (budget : machine.gasLimit = some limit) (paid : machine.paidService? decoded = some .gasLeft)
    (ok : (outcome (instruction current decoded) machine).1 = .ok ()) :
    ∃ below, (outcome (instruction current decoded) machine).2.stack.items =
      .integer (Int64.ofNat limit -
        Int64.ofNat (outcome (instruction current decoded) machine).2.gasUsed).toUInt64.toNat :: below := by
  rcases instruction_charged_cases machine decoded inCode with
    ⟨-, unpaid, -⟩ | ⟨-, -, known, serviced⟩ | ⟨-, -, unpaid, -⟩
  · rw [unpaid] at paid
    cases paid
  · rw [paid] at known
    rw [serviced] at ok ⊢
    rcases service_spec decoded.argument (recorded current decoded machine) with
      ⟨missing, -⟩ | ⟨which, found, ⟨-, overBudget⟩ | ⟨-, ⟨-, gasLeft⟩ | ⟨isLog, -⟩⟩⟩
    · rw [missing] at known
      cases known
    · rw [overBudget] at ok
      cases ok
    · have budgeted : (recorded current decoded machine).gasLimit = some limit := budget
      rw [gasLeft, budgeted] at ok ⊢
      dsimp only at ok ⊢
      obtain ⟨pushedItems, sameGas⟩ := outcome_push_ok ok
      rw [pushedItems, sameGas]
      exact ⟨_, rfl⟩
    · rw [← known, isLog] at found
      cases Option.some.inj found
  · rw [unpaid] at paid
    cases paid

end Charged

theorem instruction_implicitReturn (machine : Machine) (next : Nat) {current : Frame}
    (framesAre : machine.frames = current :: rest) (free : ¬ current.ip < current.code.length) :
    (outcome (instruction current (Machine.implicitReturn next)) machine).2.meter = machine.meter ∧
      (∀ stop, (outcome (instruction current (Machine.implicitReturn next)) machine).1 = .error stop →
        ¬ stop.IsGas) ∧
      ((outcome (instruction current (Machine.implicitReturn next)) machine).1 = .ok () →
        Returned rest machine.meter (outcome (instruction current (Machine.implicitReturn next)) machine).2) := by
  obtain ⟨current', framed⟩ : ∃ current', outcome frame machine = (.ok current', machine) := by
    simp only [frame, outcome_bind, outcome_get]
    split <;> exact ⟨_, rfl⟩
  have returned := ret_returns machine ⟨rfl, current, framesAre⟩
  rw [outcome_instruction_free free]
  unfold perform
  rw [outcome_bind_of_ok framed]
  simp only [Machine.implicitReturn]
  rcases ranIs : outcome ret machine with ⟨result, after⟩
  rw [ranIs] at returned
  cases result with
  | ok value => exact ⟨returned.1, fun _ stopped => (by cases stopped), fun _ => returned⟩
  | error stop => exact ⟨returned.1.1, fun _ stopped => by cases stopped; exact returned.2,
      fun ok => by cases ok⟩

end Exec

namespace Machine

open Exec

theorem stepGas_of_next {machine : Machine} {decoded : Code.Decoded}
    (next : machine.nextInstruction? = some decoded) :
    machine.stepGas = instructionPrice + ((machine.paidService? decoded).map Service.price).getD 0 := by
  simp [stepGas, nextService?, next]

theorem stepGas_of_none {machine : Machine} (none : machine.nextInstruction? = none) :
    machine.stepGas = 0 := by
  simp [stepGas, nextService?, none]

@[simp] theorem unitWithinBudget_frames (machine : Machine) (frames : List Frame) :
    { machine with frames }.unitWithinBudget = machine.unitWithinBudget := rfl

@[simp] theorem paidService?_frames (machine : Machine) (frames : List Frame) (decoded : Code.Decoded) :
    { machine with frames }.paidService? decoded = machine.paidService? decoded := rfl

theorem withinBudget_congr {machine other : Machine} (sameGas : machine.gasUsed = other.gasUsed)
    (sameLimit : machine.gasLimit = other.gasLimit) : machine.withinBudget = other.withinBudget := by
  simp [withinBudget, gasCounter, sameGas, sameLimit]

@[simp] theorem hasFailed_fault (machine : Machine) : { machine with status := .fault }.hasFailed = true := by
  simp [hasFailed, Status.has, Status.fault]

theorem execute_spec (machine : Machine) (decoded : Code.Decoded) {current : Frame} {rest : List Frame}
    (framesAre : machine.frames = current :: rest) :
    ((outcome (instruction current decoded) machine).1 = .ok () ∧
        machine.execute decoded = ((outcome (instruction current decoded) machine).2, none)) ∨
      ∃ stop failure, (outcome (instruction current decoded) machine).1 = .error stop ∧
        machine.execute decoded =
          ({ (outcome (instruction current decoded) machine).2 with status := .fault }, some failure) ∧
        (ErrorKind.gasLimitExceeded ∈ failure.kinds ↔ stop.IsGas) := by
  rw [execute_eq framesAre]
  rcases outcome (instruction current decoded) machine with ⟨result, next⟩
  cases result with
  | ok value => exact Or.inl ⟨rfl, rfl⟩
  | error stop =>
    right
    cases stop with
    | abort info => exact ⟨_, _, rfl, rfl, by simp [MachineError.kinds, Stop.IsGas]⟩
    | fault cause => exact ⟨_, _, rfl, rfl, by simp [MachineError.kinds, Stop.IsGas]⟩

theorem execute_meter (machine : Machine) (decoded : Code.Decoded) {current : Frame}
    {rest : List Frame} (framesAre : machine.frames = current :: rest) :
    (machine.execute decoded).1.meter = (outcome (instruction current decoded) machine).2.meter := by
  rcases execute_spec machine decoded framesAre with ⟨-, executed⟩ | ⟨_, _, -, executed, -⟩
  · rw [executed]
  · rw [executed]
    rfl

theorem execute_ok (machine : Machine) (decoded : Code.Decoded) {current : Frame}
    {rest : List Frame} (framesAre : machine.frames = current :: rest)
    (ok : (machine.execute decoded).2 = none) :
    (outcome (instruction current decoded) machine).1 = .ok () ∧
      (machine.execute decoded).1 = (outcome (instruction current decoded) machine).2 := by
  rcases execute_spec machine decoded framesAre with ⟨done, executed⟩ | ⟨_, _, -, executed, -⟩
  · rw [executed]
    exact ⟨done, rfl⟩
  · rw [executed] at ok
    cases ok

theorem execute_faults (machine : Machine) (decoded : Code.Decoded) {current : Frame}
    {rest : List Frame} (framesAre : machine.frames = current :: rest) {failure : MachineError}
    (failed : (machine.execute decoded).2 = some failure) : (machine.execute decoded).1.hasFailed = true := by
  rcases execute_spec machine decoded framesAre with ⟨-, executed⟩ | ⟨_, _, -, executed, -⟩
  · rw [executed] at failed
    cases failed
  · rw [executed]
    exact hasFailed_fault _

/-- How a step goes, by what comes next in the innermost call: no call runs, the free return past
the end of the code, an offset that does not decode, or a decoded instruction, which is charged.
The step runs the innermost call moved to the offset it reads. -/
theorem step_spec (machine : Machine) :
    (machine.frames = [] ∧ machine.step = (machine, some .noProgram)) ∨
    (∃ moved rest, machine.nextInstruction? = none ∧ machine.frames.length = rest.length + 1 ∧
      ¬ moved.ip < moved.code.length ∧
      machine.step = execute { machine with frames := moved :: rest } (implicitReturn moved.ip)) ∨
    (∃ moved rest failure, machine.nextInstruction? = none ∧ machine.frames ≠ [] ∧
      machine.step = ({ machine with frames := moved :: rest, status := .fault },
        some (.fault moved.location failure.opcodeByte (.decode failure)))) ∨
    (∃ moved rest decoded, machine.nextInstruction? = some decoded ∧
      machine.frames.length = rest.length + 1 ∧ moved.ip < moved.code.length ∧
      machine.step = execute { machine with frames := moved :: rest } decoded) := by
  unfold step
  split
  · rename_i empty
    exact Or.inl ⟨empty, rfl⟩
  · rename_i current rest framesAre
    have nextIs : machine.nextInstruction? =
        if current.code.length ≤ current.nextIp then none
        else (Code.decode current.code current.nextIp).toOption := by
      simp [nextInstruction?, framesAre]
    have length : machine.frames.length = rest.length + 1 := by simp [framesAre]
    dsimp only
    split
    · rename_i past
      exact Or.inr (Or.inl ⟨_, rest, by simp [nextIs, past], length, Nat.not_lt.mpr past, rfl⟩)
    · rename_i inside
      split
      · rename_i failure decodeFailed
        exact Or.inr (Or.inr (Or.inl ⟨_, rest, failure,
          by simp [nextIs, inside, decodeFailed, Except.toOption], by simp [framesAre], rfl⟩))
      · rename_i decoded decodedOk
        exact Or.inr (Or.inr (Or.inr ⟨_, rest, decoded,
          by simp [nextIs, inside, decodedOk, Except.toOption], length,
          show current.nextIp < current.code.length by omega, rfl⟩))

theorem step_meter (machine : Machine) :
    machine.step.1.gasUsed = machine.gasUsed + machine.stepGas ∧
      machine.step.1.gasLimit = machine.gasLimit ∧
      machine.step.1.events.size = machine.events.size +
        if machine.nextInstruction?.isSome ∧ machine.unitWithinBudget then 1 else 0 := by
  rcases step_spec machine with ⟨empty, stepped⟩ | ⟨moved, rest, noNext, -, past, stepped⟩ |
    ⟨moved, rest, failure, noNext, -, stepped⟩ | ⟨moved, rest, decoded, next, -, inside, stepped⟩
  · simp [stepped, stepGas_of_none, nextInstruction?, empty]
  · have metered := (instruction_implicitReturn { machine with frames := moved :: rest } moved.ip rfl past).1
    have sameMeter : machine.step.1.meter = machine.meter := by
      rw [stepped, execute_meter _ _ rfl, metered]
      rfl
    simp only [Machine.meter, Prod.mk.injEq] at sameMeter
    simp [sameMeter, stepGas_of_none noNext, noNext]
  · simp [stepped, stepGas_of_none noNext, noNext]
  · have sameMeter : machine.step.1.meter =
        chargedMeter moved decoded { machine with frames := moved :: rest } := by
      rw [stepped, execute_meter _ _ rfl, instruction_meter _ _ rfl inside]
    simp only [Machine.meter, chargedMeter, paidService?_frames, unitWithinBudget_frames,
      Prod.mk.injEq] at sameMeter
    obtain ⟨gasIs, limitIs, eventsIs⟩ := sameMeter
    refine ⟨by rw [gasIs, stepGas_of_next next, Nat.add_assoc], limitIs, ?_⟩
    rw [eventsIs]
    by_cases within : machine.unitWithinBudget = true
    · simp [within, next, recorded]
    · simp [within]

theorem step_stops_for_gas (machine : Machine) :
    (∃ failure, machine.step.2 = some failure ∧ ErrorKind.gasLimitExceeded ∈ failure.kinds) ↔
      machine.nextInstruction?.isSome ∧
        { machine with gasUsed := machine.gasUsed + machine.stepGas }.withinBudget = false := by
  rcases step_spec machine with ⟨empty, stepped⟩ | ⟨moved, rest, noNext, -, past, stepped⟩ |
    ⟨moved, rest, failure, noNext, -, stepped⟩ | ⟨moved, rest, decoded, next, -, inside, stepped⟩
  · simp [stepped, nextInstruction?, empty, MachineError.kinds]
  · have notGas := (instruction_implicitReturn { machine with frames := moved :: rest } moved.ip rfl past).2.1
    simp only [noNext, Option.isSome_none, Bool.false_eq_true, false_and, iff_false, not_exists, not_and]
    intro failure failed gas
    rw [stepped] at failed
    rcases execute_spec { machine with frames := moved :: rest } (implicitReturn moved.ip) rfl with
      ⟨-, executed⟩ | ⟨stop, _, stopped, executed, kinds⟩
    · rw [executed] at failed
      cases failed
    · rw [executed] at failed
      cases failed
      exact notGas stop stopped (kinds.mp gas)
  · simp only [noNext, Option.isSome_none, Bool.false_eq_true, false_and, iff_false, not_exists, not_and]
    intro failure' failed gas
    rw [stepped] at failed
    cases failed
    cases failure <;> simp [MachineError.kinds, Fault.kinds, Code.DecodeError.kinds] at gas
  · have stops := instruction_stops_for_gas { machine with frames := moved :: rest } decoded rfl inside
    have budgetIs : { machine with gasUsed := machine.gasUsed + machine.stepGas }.withinBudget =
        { ({ machine with frames := moved :: rest } : Machine) with
          gasUsed := (chargedMeter moved decoded { machine with frames := moved :: rest }).1 }.withinBudget :=
      withinBudget_congr (by simp [stepGas_of_next next, chargedMeter, Nat.add_assoc]) rfl
    simp only [next, Option.isSome_some, true_and]
    rw [budgetIs, ← stops, stepped]
    rcases execute_spec { machine with frames := moved :: rest } decoded rfl with
      ⟨done, executed⟩ | ⟨stop, failure, stopped, executed, kinds⟩
    · simp [executed, done]
    · simp [executed, stopped, kinds]

theorem step_gasLeft {machine : Machine} {limit : Nat} (budget : machine.gasLimit = some limit)
    (calls : machine.nextService? = some .gasLeft) (ok : machine.step.2 = none) :
    ∃ below, machine.step.1.stack.items =
      .integer (Int64.ofNat limit - Int64.ofNat machine.step.1.gasUsed).toUInt64.toNat :: below := by
  rcases step_spec machine with ⟨-, stepped⟩ | ⟨-, -, noNext, -⟩ | ⟨-, -, -, noNext, -⟩ |
    ⟨moved, rest, decoded, next, -, inside, stepped⟩
  · rw [stepped] at ok
    cases ok
  · simp [nextService?, noNext] at calls
  · simp [nextService?, noNext] at calls
  · have paid : machine.paidService? decoded = some .gasLeft := by simpa [nextService?, next] using calls
    rw [stepped] at ok ⊢
    obtain ⟨done, executed⟩ := execute_ok { machine with frames := moved :: rest } decoded rfl ok
    rw [executed]
    exact instruction_gasLeft { machine with frames := moved :: rest } decoded inside budget paid done

theorem step_calls {machine : Machine} (ok : machine.step.2 = none) :
    (machine.step.1.frames = [] → machine.step.1.hasHalted = true) ∧
      (machine.nextInstruction? = none → machine.step.1.frames.length + 1 = machine.frames.length) ∧
      machine.step.1.frames.length ≤ machine.frames.length + 1 := by
  rcases step_spec machine with ⟨-, stepped⟩ | ⟨moved, rest, -, length, past, stepped⟩ |
    ⟨_, _, _, -, -, stepped⟩ | ⟨moved, rest, decoded, next, length, inside, stepped⟩
  · rw [stepped] at ok
    cases ok
  · rw [stepped] at ok ⊢
    obtain ⟨done, executed⟩ := execute_ok { machine with frames := moved :: rest } _ rfl ok
    obtain ⟨-, framesAre, halts⟩ := (instruction_implicitReturn _ moved.ip rfl past).2.2 done
    rw [executed, framesAre, length]
    exact ⟨halts, fun _ => rfl, by omega⟩
  · rw [stepped] at ok
    cases ok
  · rw [stepped] at ok ⊢
    obtain ⟨done, executed⟩ := execute_ok { machine with frames := moved :: rest } decoded rfl ok
    have moves := instruction_moved _ decoded rfl inside done
    rw [executed, length]
    refine ⟨moves.halted, fun noNext => ?_, ?_⟩
    · rw [next] at noNext
      cases noNext
    · have bounded := moves.length_le
      omega

theorem step_faults {machine : Machine} {failure : MachineError} (running : machine.frames ≠ [])
    (failed : machine.step.2 = some failure) : machine.step.1.hasFailed = true := by
  rcases step_spec machine with ⟨empty, -⟩ | ⟨moved, rest, -, -, -, stepped⟩ |
    ⟨moved, rest, _, -, -, stepped⟩ | ⟨moved, rest, decoded, -, -, -, stepped⟩
  · exact absurd empty running
  · rw [stepped] at failed ⊢
    exact execute_faults _ _ rfl failed
  · rw [stepped]
    exact hasFailed_fault { machine with frames := moved :: rest }
  · rw [stepped] at failed ⊢
    exact execute_faults _ _ rfl failed

end Machine

end Testbench
