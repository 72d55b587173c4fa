import Mathlib
import Testbench.Proofs.Machine.Gas

/-!
Runs within a budget. The gas used counts the units and prices charged and never wraps while the
budget leaves room for the dearest charge below `2 ^ 63`; every run within the budget ends.
-/

namespace Testbench

namespace Machine

/-- The machine after `steps` steps, whatever each step returned. -/
def afterSteps (machine : Machine) : Nat → Machine
  | 0 => machine
  | steps + 1 => machine.step.1.afterSteps steps

theorem afterSteps_succ (machine : Machine) (steps : Nat) :
    machine.afterSteps (steps + 1) = (machine.afterSteps steps).step.1 := by
  induction steps generalizing machine with
  | zero => rfl
  | succ steps ih => exact ih machine.step.1

/-- How many of the first `steps` steps start from a machine where `counted` holds. -/
def countSteps (machine : Machine) (steps : Nat) (counted : Machine → Bool) : Nat :=
  (List.range steps).countP fun earlier => counted (machine.afterSteps earlier)

theorem countSteps_succ (machine : Machine) (steps : Nat) (counted : Machine → Bool) :
    machine.countSteps (steps + 1) counted =
      machine.countSteps steps counted + if counted (machine.afterSteps steps) then 1 else 0 := by
  simp [countSteps, List.range_succ, List.countP_append]

/-! ### The counter -/

theorem gasCounter_of_lt {machine : Machine} (small : machine.gasUsed < 2 ^ 63) :
    machine.gasCounter = machine.gasUsed :=
  Int64.toInt_ofNat_of_lt small

theorem withinBudget_iff (machine : Machine) {limit : Nat} (budget : machine.gasLimit = some limit)
    (small : machine.gasUsed < 2 ^ 63) : machine.withinBudget = true ↔ machine.gasUsed ≤ limit := by
  simp [withinBudget, budget, gasCounter_of_lt small]

theorem gasLeft_word {limit used : Nat} (within : used ≤ limit) (small : limit < 2 ^ 63) :
    (Int64.ofNat limit - Int64.ofNat used).toUInt64.toNat = limit - used := by
  rw [← Int64.ofNat_sub limit used within, Int64.toUInt64_ofNat', UInt64.toNat_ofNat']
  omega

theorem nextService?_some {machine : Machine} {which : Service}
    (paid : machine.nextService? = some which) :
    machine.nextInstruction?.isSome ∧ machine.unitWithinBudget = true := by
  cases next : machine.nextInstruction? with
  | none => simp [nextService?, next] at paid
  | some decoded =>
    simp only [nextService?, next, Option.bind_some, paidService?] at paid
    split at paid
    · rename_i paying
      exact ⟨rfl, paying.2⟩
    · cases paid

theorem Service.price_le (which : Service) : which.price ≤ 16 := by
  cases which <;> simp [Service.price]

theorem gasUsed_add_stepGas_lt {machine : Machine} {limit : Nat}
    (budget : machine.gasLimit = some limit) (within : machine.gasUsed ≤ limit)
    (noWrap : limit + 16 < 2 ^ 63) : machine.gasUsed + machine.stepGas < 2 ^ 63 := by
  unfold stepGas
  cases paid : machine.nextService? with
  | none =>
    have unit : (if machine.nextInstruction?.isSome = true then instructionPrice else 0) ≤ 1 := by
      split <;> simp [instructionPrice]
    simp only [Option.map_none, Option.getD_none]
    omega
  | some which =>
    obtain ⟨-, unitWithin⟩ := nextService?_some paid
    have unitFits : machine.gasUsed + instructionPrice ≤ limit := by
      have small : machine.gasUsed + instructionPrice < 2 ^ 63 := by simp [instructionPrice]; omega
      exact (withinBudget_iff { machine with gasUsed := machine.gasUsed + instructionPrice } budget small).mp unitWithin
    have unit : (if machine.nextInstruction?.isSome = true then instructionPrice else 0) ≤ instructionPrice := by
      split <;> simp
    have priced := Service.price_le which
    simp only [Option.map_some, Option.getD_some]
    omega

/-! ### A step within the budget -/

section Step

variable {machine : Machine} {limit : Nat} (budget : machine.gasLimit = some limit)
  (within : machine.gasUsed ≤ limit) (noWrap : limit + 16 < 2 ^ 63)
include budget within noWrap

theorem step_stops_for_gas_iff :
    (∃ failure, machine.step.2 = some failure ∧ ErrorKind.gasLimitExceeded ∈ failure.kinds) ↔
      machine.nextInstruction?.isSome ∧ limit < machine.step.1.gasUsed := by
  have small := gasUsed_add_stepGas_lt budget within noWrap
  have reached := withinBudget_iff { machine with gasUsed := machine.gasUsed + machine.stepGas } budget small
  rw [step_stops_for_gas, (step_meter machine).1]
  constructor
  · rintro ⟨charged, spent⟩
    refine ⟨charged, ?_⟩
    rcases Nat.lt_or_ge limit (machine.gasUsed + machine.stepGas) with past | fits
    · exact past
    · rw [reached.mpr fits] at spent
      cases spent
  · rintro ⟨charged, past⟩
    refine ⟨charged, ?_⟩
    cases fits : ({ machine with gasUsed := machine.gasUsed + machine.stepGas } : Machine).withinBudget
    · rfl
    · have fitting : machine.gasUsed + machine.stepGas ≤ limit := reached.mp fits
      omega

theorem step_gasUsed_le (ok : machine.step.2 = none) : machine.step.1.gasUsed ≤ limit := by
  by_cases charged : machine.nextInstruction?.isSome
  · rcases Nat.lt_or_ge limit machine.step.1.gasUsed with past | fits
    · obtain ⟨failure, failed, -⟩ := (step_stops_for_gas_iff budget within noWrap).mpr ⟨charged, past⟩
      rw [ok] at failed
      cases failed
    · exact fits
  · have free : machine.stepGas = 0 := stepGas_of_none (by simpa using charged)
    rw [(step_meter machine).1, free]
    omega

theorem step_events_le (paidFor : machine.events.size ≤ machine.gasUsed) :
    machine.step.1.events.size ≤ machine.step.1.gasUsed ∧ machine.step.1.events.size ≤ limit := by
  obtain ⟨gasIs, -, eventsIs⟩ := step_meter machine
  rw [gasIs, eventsIs]
  by_cases recordsOne : machine.nextInstruction?.isSome ∧ machine.unitWithinBudget
  · have small : machine.gasUsed + instructionPrice < 2 ^ 63 := by simp [instructionPrice]; omega
    have unitFits := (withinBudget_iff { machine with gasUsed := machine.gasUsed + instructionPrice } budget small).mp recordsOne.2
    have paysUnit : instructionPrice ≤ machine.stepGas := by
      simp [stepGas, recordsOne.1]
    simp only [recordsOne, and_self, if_true]
    simp only [instructionPrice] at unitFits paysUnit
    omega
  · simp only [recordsOne, if_false]
    omega

theorem step_gasLeft_exact (calls : machine.nextService? = some .gasLeft)
    (ok : machine.step.2 = none) :
    machine.step.1.gasUsed ≤ limit ∧
      ∃ below, machine.step.1.stack.items = .integer (limit - machine.step.1.gasUsed) :: below := by
  have fits := step_gasUsed_le budget within noWrap ok
  obtain ⟨below, pushed⟩ := step_gasLeft budget calls ok
  rw [gasLeft_word fits (by omega)] at pushed
  exact ⟨fits, below, pushed⟩

end Step

/-! ### Runs within the budget -/

/-- A machine within a budget of `limit`: the budget is set, the gas used is within it, and every
instruction recorded was paid for. -/
structure Budgeted (limit : Nat) (machine : Machine) : Prop where
  budget : machine.gasLimit = some limit
  within : machine.gasUsed ≤ limit
  paidFor : machine.events.size ≤ machine.gasUsed

theorem Budgeted.step {limit : Nat} {machine : Machine} (budgeted : Budgeted limit machine)
    (noWrap : limit + 16 < 2 ^ 63) (ok : machine.step.2 = none) : Budgeted limit machine.step.1 :=
  ⟨(step_meter machine).2.1.trans budgeted.budget,
    step_gasUsed_le budgeted.budget budgeted.within noWrap ok,
    (step_events_le budgeted.budget budgeted.within noWrap budgeted.paidFor).1⟩

theorem Budgeted.afterSteps {limit : Nat} {machine : Machine} (budgeted : Budgeted limit machine)
    (noWrap : limit + 16 < 2 ^ 63) :
    ∀ steps, (∀ earlier < steps, (machine.afterSteps earlier).step.2 = none) →
      Budgeted limit (machine.afterSteps steps)
  | 0, _ => budgeted
  | steps + 1, going => by
    rw [afterSteps_succ]
    exact (budgeted.afterSteps noWrap steps fun earlier early => going earlier (by omega)).step noWrap
      (going steps (by omega))

theorem load_ok {machine : Machine} {id : ModuleId} {name : Name} {arguments : List Item}
    {loaded : Machine} (done : machine.load id name arguments = .ok loaded) :
    ∃ (module : LinkedModule) (function : LinkedFunction) (stack : Stack),
      loaded = { (Exec.outcome (Exec.call module function) { machine with stack }).2 with status := .none } := by
  unfold load at done
  split at done
  · rename_i module found
    split at done
    · rename_i function functionFound
      dsimp only at done
      split at done
      · cases done
      cases pushedOk : machine.pushAll arguments with
      | error failure =>
        rw [pushedOk] at done
        cases done
      | ok pushed =>
        obtain ⟨stack, rfl⟩ := pushAll_stack pushedOk
        rw [pushedOk] at done
        simp only [bind, Except.bind] at done
        refine ⟨module, function, stack, ?_⟩
        split at done <;>
          · rename_i next calledIs
            cases done
            unfold Exec.outcome
            rw [calledIs]
    · cases done
  · cases done

theorem load_fresh {package : Package} {gasLimit : Option Nat} {id : ModuleId} {name : Name}
    {arguments : List Item} {loaded : Machine}
    (done : (Machine.new package gasLimit).load id name arguments = .ok loaded) :
    loaded.meter = (0, gasLimit, #[]) ∧ loaded.status = .none ∧ loaded.frames.length ≤ 1 := by
  obtain ⟨module, function, stack, rfl⟩ := load_ok done
  rcases Exec.call_spec module function { Machine.new package gasLimit with stack } with
    ⟨-, tooDeep⟩ | ⟨-, stack', ⟨locals, -, enters⟩ | ⟨stop, -, stopped⟩⟩
  · rw [tooDeep]
    exact ⟨rfl, rfl, by simp [Machine.new]⟩
  · rw [enters]
    exact ⟨Exec.entered_meter _ _, rfl, by simp [Machine.new]⟩
  · rw [stopped]
    exact ⟨Exec.entered_meter _ _, rfl, by simp [Machine.new]⟩

theorem load_budgeted {package : Package} {limit : Nat} {id : ModuleId} {name : Name}
    {arguments : List Item} {loaded : Machine}
    (done : (Machine.new package (some limit)).load id name arguments = .ok loaded) :
    Budgeted limit loaded := by
  obtain ⟨metered, -, -⟩ := load_fresh done
  simp only [meter, Prod.mk.injEq] at metered
  obtain ⟨noGas, budget, noEvents⟩ := metered
  exact ⟨budget, by omega, by simp [noEvents, noGas]⟩

/-! ### The account of a run -/

theorem afterSteps_gasUsed (machine : Machine) (steps : Nat) :
    (machine.afterSteps steps).gasUsed = machine.gasUsed +
      machine.countSteps steps (fun state => state.nextInstruction?.isSome) +
      4 * machine.countSteps steps (fun state => state.nextService? == some .gasLeft) +
      16 * machine.countSteps steps (fun state => state.nextService? == some .log) := by
  induction steps with
  | zero => simp [afterSteps, countSteps]
  | succ steps ih =>
    rw [afterSteps_succ, (step_meter _).1, ih, countSteps_succ, countSteps_succ, countSteps_succ]
    unfold stepGas
    cases (machine.afterSteps steps).nextInstruction?.isSome <;>
      rcases (machine.afterSteps steps).nextService? with _ | _ | _ <;>
      simp [Service.price, instructionPrice] <;> omega

theorem afterSteps_events (machine : Machine) (steps : Nat) :
    (machine.afterSteps steps).events.size = machine.events.size +
      machine.countSteps steps (fun state => state.nextInstruction?.isSome && state.unitWithinBudget) := by
  induction steps with
  | zero => simp [afterSteps, countSteps]
  | succ steps ih =>
    rw [afterSteps_succ, (step_meter _).2.2, ih, countSteps_succ]
    simp only [Bool.and_eq_true]
    omega

/-! ### Every run within the budget ends -/

/-- Twice the gas left plus the calls running: every step that goes through lowers it. -/
def potential (limit : Nat) (machine : Machine) : Nat :=
  2 * (limit - machine.gasUsed) + machine.frames.length

theorem Budgeted.step_potential_lt {limit : Nat} {machine : Machine} (budgeted : Budgeted limit machine)
    (noWrap : limit + 16 < 2 ^ 63) (ok : machine.step.2 = none) :
    potential limit machine.step.1 < potential limit machine := by
  have fits := step_gasUsed_le budgeted.budget budgeted.within noWrap ok
  obtain ⟨-, returns, entersAtMost⟩ := step_calls ok
  have gasIs := (step_meter machine).1
  unfold potential
  cases next : machine.nextInstruction? with
  | none =>
    have free := stepGas_of_none next
    have dropped := returns next
    omega
  | some decoded =>
    have paysUnit : instructionPrice ≤ machine.stepGas := by simp [stepGas_of_next next]
    simp only [instructionPrice] at paysUnit
    omega

theorem finishes_within_potential {limit : Nat} (noWrap : limit + 16 < 2 ^ 63) (fuel : Nat) :
    ∀ machine : Machine, Budgeted limit machine → machine.frames ≠ [] →
      potential limit machine ≤ fuel →
      ∃ steps < potential limit machine,
        (∀ earlier < steps, (machine.afterSteps earlier).step.2 = none ∧
          (machine.afterSteps (earlier + 1)).hasHalted = false) ∧
        (machine.afterSteps steps).frames ≠ [] ∧
        ((machine.afterSteps steps).step.2 ≠ none ∨ (machine.afterSteps steps).step.1.hasHalted = true) := by
  induction fuel with
  | zero =>
    intro machine _ running bounded
    have : machine.frames.length ≠ 0 := by simpa using running
    unfold potential at bounded
    omega
  | succ fuel ih =>
    intro machine budgeted running bounded
    have positive : 0 < potential limit machine := by
      have : machine.frames.length ≠ 0 := by simpa using running
      unfold potential
      omega
    by_cases ends : machine.step.2 ≠ none ∨ machine.step.1.hasHalted = true
    · exact ⟨0, positive, fun _ early => absurd early (Nat.not_lt_zero _), running, ends⟩
    · simp only [ne_eq, not_or, Decidable.not_not, Bool.not_eq_true] at ends
      obtain ⟨ok, goesOn⟩ := ends
      have lower := budgeted.step_potential_lt noWrap ok
      have stillRunning : machine.step.1.frames ≠ [] := fun empty => by
        rw [(step_calls ok).1 empty] at goesOn
        cases goesOn
      obtain ⟨steps, early, going, lastRunning, ends⟩ :=
        ih machine.step.1 (budgeted.step noWrap ok) stillRunning (by omega)
      refine ⟨steps + 1, by omega, fun earlier earlyEnough => ?_, lastRunning, ends⟩
      cases earlier with
      | zero => exact ⟨ok, goesOn⟩
      | succ earlier => exact going earlier (by omega)

theorem runSteps_of_ends {machine : Machine} {steps fuel : Nat}
    (going : ∀ earlier < steps, (machine.afterSteps earlier).step.2 = none ∧
      (machine.afterSteps (earlier + 1)).hasHalted = false)
    (ends : (machine.afterSteps steps).step.2 ≠ none ∨ (machine.afterSteps steps).step.1.hasHalted = true)
    (enough : steps < fuel) : machine.runSteps fuel = (machine.afterSteps steps).step := by
  induction steps generalizing machine fuel with
  | zero =>
    obtain ⟨fuel, rfl⟩ : ∃ rest, fuel = rest + 1 := ⟨fuel - 1, by omega⟩
    unfold runSteps
    rcases stepIs : machine.step with ⟨next, _ | failure⟩
    · simp only [afterSteps, stepIs, ne_eq, not_true_eq_false, false_or] at ends
      simp [ends, afterSteps, stepIs]
    · simp [afterSteps, stepIs]
  | succ steps ih =>
    obtain ⟨fuel, rfl⟩ : ∃ rest, fuel = rest + 1 := ⟨fuel - 1, by omega⟩
    obtain ⟨ok, goesOn⟩ := going 0 (by omega)
    unfold runSteps
    rcases stepIs : machine.step with ⟨next, result⟩
    simp only [afterSteps, stepIs] at ok goesOn
    subst ok
    simp only [goesOn, Bool.false_eq_true, if_false]
    rw [show machine.afterSteps (steps + 1) = next.afterSteps steps by simp [afterSteps, stepIs]]
    exact ih (fun earlier early => by simpa [afterSteps, stepIs] using going (earlier + 1) (by omega))
      (by simpa [afterSteps, stepIs] using ends) (by omega)

end Machine

open Machine in
/-- Over a run of a function loaded on a fresh machine, as long as no step has failed and the
budget leaves room below `2 ^ 63` for the dearest charge: the gas used is exactly what the steps
charged, a unit for each instruction of the code, 4 for each call of the gas left and 16 for each
log; the counter stays within the budget and reads as the gas used; a step fails for gas exactly
when it charged for an instruction and took the gas past the budget; each instruction whose unit
was within the budget is recorded once, and no more than the budget are; and a call of the gas
left pushes the budget less the gas used. -/
theorem gas_accounting_exact {package : Package} {limit : Nat} {id : ModuleId} {entry : Name}
    {arguments : List Item} {loaded : Machine}
    (done : (Machine.new package (some limit)).load id entry arguments = .ok loaded)
    (noWrap : limit + 16 < 2 ^ 63) (steps : Nat)
    (going : ∀ earlier < steps, (loaded.afterSteps earlier).step.2 = none) :
    (loaded.afterSteps (steps + 1)).gasUsed =
        loaded.countSteps (steps + 1) (fun state => state.nextInstruction?.isSome) +
          4 * loaded.countSteps (steps + 1) (fun state => state.nextService? == some .gasLeft) +
          16 * loaded.countSteps (steps + 1) (fun state => state.nextService? == some .log) ∧
      0 ≤ (loaded.afterSteps steps).gasCounter ∧ (loaded.afterSteps steps).gasCounter ≤ limit ∧
      (loaded.afterSteps (steps + 1)).gasCounter = (loaded.afterSteps (steps + 1)).gasUsed ∧
      ((∃ failure, (loaded.afterSteps steps).step.2 = some failure ∧
          ErrorKind.gasLimitExceeded ∈ failure.kinds) ↔
        (loaded.afterSteps steps).nextInstruction?.isSome ∧
          limit < (loaded.afterSteps (steps + 1)).gasUsed) ∧
      (loaded.afterSteps (steps + 1)).events.size =
        loaded.countSteps (steps + 1)
          (fun state => state.nextInstruction?.isSome && state.unitWithinBudget) ∧
      (loaded.afterSteps (steps + 1)).events.size ≤ limit ∧
      ((loaded.afterSteps steps).nextService? = some .gasLeft →
        (loaded.afterSteps steps).step.2 = none →
        (loaded.afterSteps (steps + 1)).gasUsed ≤ limit ∧
          ∃ below, (loaded.afterSteps (steps + 1)).stack.items =
            .integer (limit - (loaded.afterSteps (steps + 1)).gasUsed) :: below) := by
  obtain ⟨metered, -, -⟩ := load_fresh done
  simp only [meter, Prod.mk.injEq] at metered
  obtain ⟨noGas, -, noEvents⟩ := metered
  have budgeted := (load_budgeted done).afterSteps noWrap steps going
  have reached := (step_meter (loaded.afterSteps steps)).1
  have small := gasUsed_add_stepGas_lt budgeted.budget budgeted.within noWrap
  refine ⟨?_, ?_, ?_, ?_, ?_, ?_, ?_, ?_⟩
  · rw [afterSteps_gasUsed, noGas, Nat.zero_add]
  · rw [gasCounter_of_lt (by omega)]
    omega
  · rw [gasCounter_of_lt (by omega)]
    exact_mod_cast budgeted.within
  · rw [gasCounter_of_lt (by rw [afterSteps_succ, reached]; exact small)]
  · rw [afterSteps_succ]
    exact step_stops_for_gas_iff budgeted.budget budgeted.within noWrap
  · rw [afterSteps_events, noEvents]
    simp
  · rw [afterSteps_succ]
    exact (step_events_le budgeted.budget budgeted.within noWrap budgeted.paidFor).2
  · rw [afterSteps_succ]
    exact step_gasLeft_exact budgeted.budget budgeted.within noWrap

/-- A function that jumps to itself forever. -/
def spinFunction : Function := ⟨"spin", 0, 0, 0, ⟨0⟩, 0, [], [0x22, 0, 0]⟩

/-- A module of the spinning function alone. -/
def spinModule : LinkedModule :=
  ⟨⟨"a", "m", [], [], 0, [spinFunction]⟩, ⟨Address.zero, "m"⟩, [], [], [⟨spinFunction, [], [0]⟩]⟩

/-- The spinning function loaded on a fresh machine with a budget of ten. -/
def spinLoaded : Machine :=
  ⟨⟨"p", ⟨[]⟩, [spinModule]⟩, .none, [⟨spinModule, ⟨spinFunction, [], [0]⟩, 0, 0, #[], 0⟩],
    ⟨"evaluation", []⟩, [(⟨Address.zero, "m"⟩, #[])], 0, some 10, #[], #[]⟩

theorem spin_loads :
    (Machine.new ⟨"p", ⟨[]⟩, [spinModule]⟩ (some 10)).load ⟨Address.zero, "m"⟩ "spin" [] =
      .ok spinLoaded := by
  simp [Machine.load, Machine.new, Package.module?, spinModule, LinkedModule.findFunction?,
    Machine.pushAll, Exec.call, Exec.takeArguments, maxCallDepth, spinLoaded, spinFunction]
  rfl

/-- Three jumps of the spinning function go through, and the fourth step's accounting holds. -/
theorem spin_gas_accounting :
    (∀ earlier < 3, (spinLoaded.afterSteps earlier).step.2 = none) ∧
    (spinLoaded.afterSteps 4).gasUsed =
        spinLoaded.countSteps 4 (fun state => state.nextInstruction?.isSome) +
          4 * spinLoaded.countSteps 4 (fun state => state.nextService? == some .gasLeft) +
          16 * spinLoaded.countSteps 4 (fun state => state.nextService? == some .log) ∧
      0 ≤ (spinLoaded.afterSteps 3).gasCounter ∧ (spinLoaded.afterSteps 3).gasCounter ≤ 10 ∧
      (spinLoaded.afterSteps 4).gasCounter = (spinLoaded.afterSteps 4).gasUsed ∧
      ((∃ failure, (spinLoaded.afterSteps 3).step.2 = some failure ∧
          ErrorKind.gasLimitExceeded ∈ failure.kinds) ↔
        (spinLoaded.afterSteps 3).nextInstruction?.isSome ∧ 10 < (spinLoaded.afterSteps 4).gasUsed) ∧
      (spinLoaded.afterSteps 4).events.size =
        spinLoaded.countSteps 4 (fun state => state.nextInstruction?.isSome && state.unitWithinBudget) ∧
      (spinLoaded.afterSteps 4).events.size ≤ 10 ∧
      ((spinLoaded.afterSteps 3).nextService? = some .gasLeft →
        (spinLoaded.afterSteps 3).step.2 = none →
        (spinLoaded.afterSteps 4).gasUsed ≤ 10 ∧
          ∃ below, (spinLoaded.afterSteps 4).stack.items =
            .integer (10 - (spinLoaded.afterSteps 4).gasUsed) :: below) := by
  have going : ∀ earlier < 3, (spinLoaded.afterSteps earlier).step.2 = none := by
    intro earlier early
    interval_cases earlier <;> rfl
  exact ⟨going, gas_accounting_exact spin_loads (by decide) 3 going⟩

open Machine in
/-- A run of a function loaded on a fresh machine, with a budget that leaves room below `2 ^ 63`
for the dearest charge, ends: either it goes through with the machine halted, or it fails with the
machine faulted. When a function was loaded, the run is its steps up to the first that fails or
halts the machine, at most twice the budget and two of them. -/
theorem budgeted_run_ends {package : Package} {limit : Nat} {id : ModuleId} {entry : Name}
    {arguments : List Item} {loaded : Machine}
    (done : (Machine.new package (some limit)).load id entry arguments = .ok loaded)
    (noWrap : limit + 16 < 2 ^ 63) :
    (loaded.run.2 = none ∧ loaded.run.1.hasHalted = true ∨
        ∃ failure, loaded.run.2 = some failure ∧ loaded.run.1.hasFailed = true) ∧
      (loaded.ready = true → ∃ steps, steps + 1 ≤ 2 * limit + 2 ∧
        (∀ earlier < steps, (loaded.afterSteps earlier).step.2 = none ∧
          (loaded.afterSteps (earlier + 1)).hasHalted = false) ∧
        loaded.run = (loaded.afterSteps steps).step) := by
  obtain ⟨metered, fresh, single⟩ := load_fresh done
  simp only [meter, Prod.mk.injEq] at metered
  have budgeted := load_budgeted done
  by_cases ready : loaded.ready = true
  · have running : loaded.frames ≠ [] := by simpa [Machine.ready] using ready
    obtain ⟨steps, early, going, lastRunning, ends⟩ :=
      finishes_within_potential noWrap _ loaded budgeted running (Nat.le_refl _)
    have bound : steps + 1 ≤ 2 * limit + 1 := by
      unfold potential at early
      omega
    have runIs : loaded.run = (loaded.afterSteps steps).step := by
      unfold run
      rw [if_neg (by simp [ready]), if_neg (by simp [hasFailed, fresh, Status.has, Status.none]),
        if_neg (by simp [hasHalted, fresh, Status.has, Status.none])]
      refine runSteps_of_ends going ends ?_
      unfold stepBound potential at *
      rw [budgeted.budget]
      dsimp only
      omega
    refine ⟨?_, fun _ => ⟨steps, by omega, going, runIs⟩⟩
    rw [runIs]
    cases result : (loaded.afterSteps steps).step.2 with
    | none =>
      simp only [result, ne_eq, not_true_eq_false, false_or] at ends
      exact Or.inl ⟨rfl, ends⟩
    | some failure => exact Or.inr ⟨failure, rfl, step_faults lastRunning result⟩
  · have runIs : loaded.run = ({ loaded with status := .fault }, some .noProgram) := by
      unfold run
      rw [if_pos (by simpa using ready)]
    rw [runIs]
    exact ⟨Or.inr ⟨.noProgram, rfl, hasFailed_fault loaded⟩, fun readyNow => absurd readyNow ready⟩

theorem spin_run_ends :
    (spinLoaded.run.2 = none ∧ spinLoaded.run.1.hasHalted = true ∨
        ∃ failure, spinLoaded.run.2 = some failure ∧ spinLoaded.run.1.hasFailed = true) ∧
      (spinLoaded.ready = true → ∃ steps, steps + 1 ≤ 2 * 10 + 2 ∧
        (∀ earlier < steps, (spinLoaded.afterSteps earlier).step.2 = none ∧
          (spinLoaded.afterSteps (earlier + 1)).hasHalted = false) ∧
        spinLoaded.run = (spinLoaded.afterSteps steps).step) :=
  budgeted_run_ends spin_loads (by decide)

end Testbench
