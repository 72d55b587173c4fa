import Mathlib
import Testbench.Proofs.Machine.Budget
import Testbench.Proofs.Machine.Linked

/-!
What the hooks see of a run: every instruction a step records is an instruction of the package,
at the offset where the innermost call stands.
-/

namespace Testbench

/-- An event on an instruction of a package: its module is one of the package's, its function
one of that module's, and its offset one where an instruction of the function starts. -/
def Event.OnInstruction (package : Package) (event : Event) : Prop :=
  ∃ module ∈ package.modules, ∃ function ∈ module.functions,
    event.module = module.id ∧ event.function = function.function.name ∧ event.offset ∈ function.offsets

namespace Exec

variable {α β : Type}

/-- A part that leaves the package of the machine alone, whether it goes through or stops. -/
def KeepsPackage (part : Exec α) : Prop :=
  ∀ machine, (outcome part machine).2.package = machine.package

namespace KeepsPackage

theorem bind {first : Exec α} {next : α → Exec β} (firstKeeps : KeepsPackage first)
    (nextKeeps : ∀ value, KeepsPackage (next value)) : KeepsPackage (first >>= next) := by
  intro machine
  have kept := firstKeeps machine
  rw [outcome_bind]
  rcases firstOutcome : outcome first machine with ⟨result, after⟩
  rw [firstOutcome] at kept
  cases result with
  | ok value => exact (nextKeeps value after).trans kept
  | error stop => exact kept

theorem get_bind {next : Machine → Exec α} (nextKeeps : ∀ machine, KeepsPackage (next machine)) :
    KeepsPackage (get >>= next) := by
  intro machine
  rw [outcome_bind_of_ok (outcome_get machine)]
  exact nextKeeps machine machine

theorem pure (value : α) : KeepsPackage (Pure.pure value : Exec α) := fun _ => rfl

theorem fail (cause : Fault) : KeepsPackage (Exec.fail cause : Exec α) := fun _ => rfl

end KeepsPackage

theorem OnStack.keepsPackage {part : Exec α} (onStack : OnStack part) : KeepsPackage part := by
  intro machine
  obtain ⟨stack, after, -⟩ := onStack machine
  rw [after]

theorem modifyFrame_keepsPackage (change : Frame → Frame) : KeepsPackage (modifyFrame change) := by
  intro machine
  simp only [modifyFrame, outcome_modify]
  split <;> rfl

theorem staticsOf_keepsPackage (id : ModuleId) : KeepsPackage (staticsOf id) := by
  unfold staticsOf
  refine KeepsPackage.get_bind fun machine => ?_
  split
  · exact KeepsPackage.pure _
  · exact KeepsPackage.pure _

theorem readSlot_keepsPackage (slots : Array Item) (index : Nat) : KeepsPackage (readSlot slots index) := by
  unfold readSlot
  split
  · exact KeepsPackage.pure _
  · exact KeepsPackage.fail _

theorem checkSlot_keepsPackage (slots : Array Item) (index : Nat) : KeepsPackage (checkSlot slots index) := by
  unfold checkSlot
  split
  · exact KeepsPackage.pure _
  · exact KeepsPackage.fail _

theorem setStatics_keepsPackage (id : ModuleId) (slots : Array Item) : KeepsPackage (setStatics id slots) :=
  fun _ => rfl

theorem charge_keepsPackage (amount : Nat) (failure : Fault) : KeepsPackage (charge amount failure) := by
  intro machine
  rw [outcome_charge]
  split <;> rfl

theorem call_keepsPackage (module : LinkedModule) (function : LinkedFunction) :
    KeepsPackage (call module function) := by
  intro machine
  rcases call_spec module function machine with
    ⟨-, tooDeep⟩ | ⟨-, stack, ⟨locals, -, called⟩ | ⟨stop, -, stopped⟩⟩
  · rw [tooDeep]
  · rw [called]
    exact entered_package module machine
  · rw [stopped]
    exact entered_package module machine

theorem ret_keepsPackage : KeepsPackage ret := by
  intro machine
  obtain ⟨current, framed⟩ : ∃ current, outcome frame machine = (.ok current, machine) := by
    simp only [frame, outcome_bind, outcome_get]
    split <;> exact ⟨_, rfl⟩
  unfold ret
  rw [outcome_bind_of_ok framed, outcome_bind_of_ok (outcome_get machine)]
  dsimp only
  split <;> simp [outcome_bind]

theorem service_keepsPackage (id : Nat) : KeepsPackage (service id) := by
  intro machine
  rcases service_spec id machine with
    ⟨-, missing⟩ | ⟨which, -, ⟨-, overBudget⟩ | ⟨-, ⟨-, gasLeft⟩ | ⟨-, stack, logs, after, -⟩⟩⟩
  · rw [missing]
  · rw [overBudget]
    rfl
  · rw [gasLeft]
    exact (push_onStack _).keepsPackage _
  · rw [after]
    rfl

theorem perform_keepsPackage (decoded : Code.Decoded) : KeepsPackage (perform decoded) := by
  cases plain : decoded.opcode.reachesFrame
  · exact (perform_onStack plain).keepsPackage
  unfold perform
  refine KeepsPackage.bind frame_onStack.keepsPackage fun current => ?_
  cases opcodeIs : decoded.opcode <;>
    simp only [opcodeIs, Opcode.reachesFrame, Bool.false_eq_true] at plain ⊢
  case pushAddress =>
    split
    · exact (push_onStack _).keepsPackage
    · exact KeepsPackage.fail _
  case jump => exact modifyFrame_keepsPackage _
  case jumpIf | jumpIfNot =>
    refine KeepsPackage.bind popBoolean_onStack.keepsPackage fun value => ?_
    split
    · exact modifyFrame_keepsPackage _
    · exact KeepsPackage.pure _
  case call =>
    split
    · exact call_keepsPackage _ _
    · exact KeepsPackage.fail _
  case callImport =>
    split
    · exact KeepsPackage.fail _
    · refine KeepsPackage.get_bind fun machine => ?_
      split
      · exact KeepsPackage.fail _
      · split
        · exact KeepsPackage.fail _
        · exact call_keepsPackage _ _
  case ret => exact ret_keepsPackage
  case syscall => exact service_keepsPackage _
  case loadStatic =>
    exact (staticsOf_keepsPackage _).bind fun slots => (readSlot_keepsPackage _ _).bind fun item =>
      (push_onStack item).keepsPackage
  case storeStatic =>
    exact pop_onStack.keepsPackage.bind fun item => (staticsOf_keepsPackage _).bind fun slots =>
      (checkSlot_keepsPackage _ _).bind fun _ => setStatics_keepsPackage _ _
  case loadLocal =>
    exact (readSlot_keepsPackage _ _).bind fun item => (push_onStack item).keepsPackage
  case storeLocal =>
    exact pop_onStack.keepsPackage.bind fun item => (checkSlot_keepsPackage _ _).bind fun _ =>
      modifyFrame_keepsPackage _

theorem instruction_keepsPackage (current : Frame) (decoded : Code.Decoded) :
    KeepsPackage (instruction current decoded) := by
  unfold instruction
  split
  · exact (charge_keepsPackage _ _).bind fun _ =>
      KeepsPackage.bind (fun _ => rfl) fun _ => perform_keepsPackage decoded
  · exact perform_keepsPackage decoded

theorem call_events (module : LinkedModule) (function : LinkedFunction) (machine : Machine) :
    (outcome (call module function) machine).2.events = machine.events := by
  rcases call_spec module function machine with
    ⟨-, tooDeep⟩ | ⟨-, stack, ⟨locals, -, called⟩ | ⟨stop, -, stopped⟩⟩
  · rw [tooDeep]
  · rw [called]
    exact congrArg (·.2.2) (entered_meter module machine)
  · rw [stopped]
    exact congrArg (·.2.2) (entered_meter module machine)

end Exec

namespace Machine

open Exec

theorem execute_package (machine : Machine) (decoded : Code.Decoded) :
    (machine.execute decoded).1.package = machine.package := by
  cases framesAre : machine.frames with
  | nil =>
    unfold execute
    rw [framesAre]
  | cons current rest =>
    have kept := instruction_keepsPackage current decoded machine
    rcases execute_spec machine decoded framesAre with ⟨-, executed⟩ | ⟨_, _, -, executed, -⟩
    · rw [executed]
      exact kept
    · rw [executed]
      exact kept

theorem step_package (machine : Machine) : machine.step.1.package = machine.package := by
  rcases step_spec machine with ⟨-, stepped⟩ | ⟨moved, rest, -, -, -, stepped⟩ |
    ⟨moved, rest, failure, -, -, stepped⟩ | ⟨moved, rest, decoded, -, -, -, stepped⟩
  · rw [stepped]
  · rw [stepped, execute_package]
  · rw [stepped]
  · rw [stepped, execute_package]

theorem execute_events (machine : Machine) (decoded : Code.Decoded) {current : Frame} {rest : List Frame}
    (framesAre : machine.frames = current :: rest) (inCode : current.ip < current.code.length) :
    (machine.execute decoded).1.events = machine.events ∨
      (machine.execute decoded).1.events =
        machine.events.push ⟨current.module.id, current.function.function.name, current.ip, decoded.opcode⟩ := by
  have metered := (execute_meter machine decoded framesAre).trans
    (instruction_meter machine decoded framesAre inCode)
  have events : (machine.execute decoded).1.events = (chargedMeter current decoded machine).2.2 :=
    congrArg (·.2.2) metered
  rw [events, chargedMeter]
  split
  · exact Or.inr rfl
  · exact Or.inl rfl

theorem step_events {machine : Machine} (linked : machine.Linked) :
    machine.step.1.events = machine.events ∨
      ∃ event, event.OnInstruction machine.package ∧ machine.step.1.events = machine.events.push event := by
  unfold step
  split
  · exact Or.inl rfl
  · rename_i current rest framesAre
    have frameLinked := linked.frames_linked current (framesAre ▸ List.mem_cons_self)
    dsimp only
    split
    · rename_i past
      left
      have metered := (execute_meter _ _ rfl).trans (instruction_implicitReturn
        { machine with frames := { current with ip := current.nextIp } :: rest } current.nextIp rfl
        (Nat.not_lt_of_le past)).1
      exact congrArg (·.2.2) metered
    · rename_i inside
      split
      · exact Or.inl rfl
      · rename_i decoded _
        have onOffset : current.nextIp ∈ current.function.offsets :=
          frameLinked.next_boundary.resolve_right (by omega)
        rcases execute_events { machine with
            frames := { current with ip := current.nextIp, nextIp := decoded.next } :: rest } decoded rfl
            (show current.nextIp < current.code.length by omega) with same | pushed
        · exact Or.inl same
        · exact Or.inr ⟨_, ⟨current.module, frameLinked.module_mem, current.function,
            frameLinked.function_mem, rfl, rfl, onOffset⟩, pushed⟩

theorem load_record {machine : Machine} {id : ModuleId} {name : Name} {arguments : List Item}
    {loaded : Machine} (done : machine.load id name arguments = .ok loaded) :
    loaded.package = machine.package ∧ loaded.events = machine.events := by
  obtain ⟨module, function, stack, rfl⟩ := load_ok done
  exact ⟨call_keepsPackage module function { machine with stack }, call_events module function _⟩

end Machine

/-- A machine running a package whose hooks saw instructions of the package alone. -/
structure Machine.Recording (package : Package) (machine : Machine) : Prop where
  package_eq : machine.package = package
  linked : machine.Linked
  events_on : ∀ event ∈ machine.events.toList, event.OnInstruction package

namespace Machine.Recording

variable {package : Package} {machine : Machine}

theorem step (recording : machine.Recording package) : machine.step.1.Recording package := by
  refine ⟨(step_package machine).trans recording.package_eq, (step_linked recording.linked).1, ?_⟩
  rcases step_events recording.linked with same | ⟨added, on, pushed⟩
  · rw [same]
    exact recording.events_on
  · intro event member
    rw [pushed, Array.toList_push, List.mem_append, List.mem_singleton] at member
    rcases member with earlier | rfl
    · exact recording.events_on event earlier
    · rw [← recording.package_eq]
      exact on

theorem runSteps (recording : machine.Recording package) (fuel : Nat) :
    (machine.runSteps fuel).1.Recording package := by
  induction fuel generalizing machine with
  | zero => exact recording
  | succ fuel ih =>
    unfold Machine.runSteps
    have stepped := recording.step
    split
    · rename_i next failure same
      rw [same] at stepped
      exact stepped
    · rename_i next same
      rw [same] at stepped
      split
      · exact stepped
      · exact ih stepped

theorem run (recording : machine.Recording package) : machine.run.1.Recording package := by
  unfold Machine.run
  split
  · exact ⟨recording.package_eq, recording.linked, recording.events_on⟩
  · split
    · exact recording
    · split
      · exact recording
      · exact recording.runSteps _

end Machine.Recording

/-- The machines a run of a package passes through: a fresh machine for the package with a
function loaded, and what a step or a whole run makes of one. -/
inductive Package.Runs (package : Package) : Machine → Prop
  | load {limit : Option Nat} {id : ModuleId} {name : Name} {arguments : List Item} {loaded : Machine} :
    (Machine.new package limit).load id name arguments = .ok loaded → package.Runs loaded
  | step {machine : Machine} : package.Runs machine → package.Runs machine.step.1
  | run {machine : Machine} : package.Runs machine → package.Runs machine.run.1

/-- Every machine a run of a well-linked package passes through is linked, runs the package and
has recorded instructions of the package alone. -/
theorem Package.Runs.recording {package : Package} (wellLinked : package.WellLinked) {machine : Machine}
    (runs : package.Runs machine) : machine.Recording package := by
  induction runs with
  | @load limit id name arguments loaded done =>
    have fresh : (Machine.new package limit).Linked := CallsLinked.empty wellLinked
    obtain ⟨samePackage, sameEvents⟩ := Machine.load_record done
    refine ⟨samePackage, Machine.load_linked fresh done, ?_⟩
    intro event member
    rw [sameEvents] at member
    cases member
  | step _ ih => exact ih.step
  | run _ ih => exact ih.run

end Testbench
