import Mathlib.Logic.Function.Iterate
import Testbench.Proofs.Machine.Triple
import Testbench.Proofs.Module.Verified

/-!
Linking rules out the structural faults of the machine: every call stays at an instruction
boundary of a verified function, so a step can fail only with a fault of run time.
-/

namespace Testbench

/-- The faults an instruction of linked code can still meet. -/
def Fault.isRuntime : Fault → Bool
  | .stack _ | .conversion _ | .arithmetic _ | .gasLimit | .service _ _ | .returnCount _ _
  | .callDepth => true
  | .decode _ | .slotIndex _ _ | .addressIndex | .functionIndex | .importIndex | .missingModule _
  | .missingFunction _ _ => false

/-- A stop of run time: an abort, or a fault of run time. -/
def Stop.IsRuntime : Stop → Prop
  | .abort _ => True
  | .fault cause => cause.isRuntime = true

theorem Stop.IsLocal.isRuntime {stop : Stop} (isLocal : stop.IsLocal) : stop.IsRuntime := by
  cases stop with
  | abort info => trivial
  | fault cause => cases cause <;> simp_all [Stop.IsLocal, Stop.IsRuntime, Fault.isRuntime]

/-- A failure of run time: an abort, or a fault of run time. -/
def MachineError.IsRuntime : MachineError → Prop
  | .abort _ => True
  | .fault _ _ cause => cause.isRuntime = true
  | .noProgram | .failed | .stopped => False

/-! Calls and statics over a well-linked package. -/

/-- A call of a function of a package: the function is one of its module's, the module one of
the package's, the call has as many slots as the function declares, and its next instruction
starts at an offset of the function or at the end of its code. -/
structure Frame.Linked (package : Package) (frame : Frame) : Prop where
  module_mem : frame.module ∈ package.modules
  function_mem : frame.function ∈ frame.module.functions
  locals_size : frame.locals.size = frame.function.function.params + frame.function.function.locals
  next_boundary : frame.nextIp ∈ frame.function.offsets ∨ frame.nextIp = frame.code.length

namespace Frame.Linked

variable {package : Package} {frame : Frame}

theorem verify_ok (wellLinked : package.WellLinked) (linked : frame.Linked package) :
    frame.module.module.verify frame.function.function = .ok frame.function.offsets :=
  (wellLinked.verified _ linked.module_mem).verify_ok _ linked.function_mem

theorem checked_next (wellLinked : package.WellLinked) (linked : frame.Linked package)
    (inside : frame.nextIp < frame.code.length) :
    ∃ decoded, frame.module.module.CheckedAt frame.function.function frame.function.offsets
      frame.nextIp decoded := by
  have member : frame.nextIp ∈ frame.function.offsets := by
    rcases linked.next_boundary with member | atEnd
    · exact member
    · omega
  exact Module.verify_checkedAt (linked.verify_ok wellLinked) _ member

theorem withIp (linked : frame.Linked package) (ip : Nat) : { frame with ip }.Linked package :=
  ⟨linked.module_mem, linked.function_mem, linked.locals_size, linked.next_boundary⟩

theorem withNext (linked : frame.Linked package) {nextIp : Nat}
    (boundary : nextIp ∈ frame.function.offsets ∨ nextIp = frame.code.length) :
    { frame with nextIp }.Linked package :=
  ⟨linked.module_mem, linked.function_mem, linked.locals_size, boundary⟩

theorem withLocals (linked : frame.Linked package) {locals : Array Item}
    (sized : locals.size = frame.locals.size) : { frame with locals }.Linked package :=
  ⟨linked.module_mem, linked.function_mem, sized.trans linked.locals_size, linked.next_boundary⟩

end Frame.Linked

theorem Frame.linked_entry {package : Package} {module : LinkedModule} {function : LinkedFunction}
    {locals : Array Item} {base : Nat} (wellLinked : package.WellLinked)
    (member : module ∈ package.modules) (listed : function ∈ module.functions)
    (sized : locals.size = function.function.params + function.function.locals) :
    (⟨module, function, 0, 0, locals, base⟩ : Frame).Linked package :=
  ⟨member, listed, sized, Module.verify_entry ((wellLinked.verified _ member).verify_ok _ listed)⟩

/-- The calls and statics of a machine over a well-linked package: every call is linked, every
module entered has its statics as many as it declares, and the module of every call was
entered. -/
structure CallsLinked (package : Package) (frames : List Frame)
    (statics : List (ModuleId × Array Item)) : Prop where
  wellLinked : package.WellLinked
  frames_linked : ∀ frame ∈ frames, frame.Linked package
  statics_size : ∀ entry ∈ statics, ∀ module ∈ package.modules, module.id = entry.1 →
    entry.2.size = module.statics
  statics_entered : ∀ frame ∈ frames, ∃ slots, (frame.module.id, slots) ∈ statics

namespace CallsLinked

variable {package : Package} {frames : List Frame} {statics : List (ModuleId × Array Item)}

theorem empty (wellLinked : package.WellLinked) : CallsLinked package [] [] :=
  ⟨wellLinked, fun _ member => (by cases member), fun _ member => (by cases member),
    fun _ member => (by cases member)⟩

theorem tail {current : Frame} {rest : List Frame} (linked : CallsLinked package frames statics)
    (framesAre : frames = current :: rest) : CallsLinked package rest statics := by
  subst framesAre
  exact ⟨linked.wellLinked, fun frame member => linked.frames_linked frame (.tail _ member),
    linked.statics_size, fun frame member => linked.statics_entered frame (.tail _ member)⟩

theorem replaceHead {current changed : Frame} {rest : List Frame}
    (linked : CallsLinked package frames statics) (framesAre : frames = current :: rest)
    (changedLinked : changed.Linked package) (sameModule : changed.module = current.module) :
    CallsLinked package (changed :: rest) statics := by
  subst framesAre
  refine ⟨linked.wellLinked, ?_, linked.statics_size, ?_⟩
  · intro frame member
    rcases List.mem_cons.mp member with rfl | later
    · exact changedLinked
    · exact linked.frames_linked frame (.tail _ later)
  · intro frame member
    rcases List.mem_cons.mp member with rfl | later
    · rw [sameModule]
      exact linked.statics_entered current List.mem_cons_self
    · exact linked.statics_entered frame (.tail _ later)

theorem push {frame : Frame} (linked : CallsLinked package frames statics)
    (frameLinked : frame.Linked package) (present : ∃ slots, (frame.module.id, slots) ∈ statics) :
    CallsLinked package (frame :: frames) statics := by
  refine ⟨linked.wellLinked, ?_, linked.statics_size, ?_⟩
  · intro other member
    rcases List.mem_cons.mp member with rfl | later
    · exact frameLinked
    · exact linked.frames_linked other later
  · intro other member
    rcases List.mem_cons.mp member with rfl | later
    · exact present
    · exact linked.statics_entered other later

theorem setStatics (linked : CallsLinked package frames statics) {id : ModuleId}
    {slots : Array Item} (sized : ∀ module ∈ package.modules, module.id = id → slots.size = module.statics) :
    CallsLinked package frames
      (statics.map fun entry => if entry.1 == id then (id, slots) else entry) := by
  refine ⟨linked.wellLinked, linked.frames_linked, ?_, ?_⟩
  · intro entry member module moduleMember sameId
    obtain ⟨original, originalMember, replaced⟩ := List.mem_map.mp member
    subst replaced
    by_cases same : (original.1 == id) = true
    · rw [if_pos same] at sameId ⊢
      exact sized module moduleMember sameId
    · rw [if_neg same] at sameId ⊢
      exact linked.statics_size original originalMember module moduleMember sameId
  · intro frame member
    obtain ⟨slotsBefore, present⟩ := linked.statics_entered frame member
    refine ⟨if frame.module.id == id then slots else slotsBefore, List.mem_map.mpr ⟨_, present, ?_⟩⟩
    split
    · rename_i same
      simp only [beq_iff_eq] at same
      rw [same]
    · rfl

end CallsLinked

/-- A machine whose calls and statics fit its well-linked package. -/
def Machine.Linked (machine : Machine) : Prop :=
  CallsLinked machine.package machine.frames machine.statics

namespace Exec

theorem entered_linked {module : LinkedModule} {machine : Machine} (linked : machine.Linked)
    (member : module ∈ machine.package.modules) :
    CallsLinked machine.package machine.frames (entered module machine).statics ∧
      ∃ slots, (module.id, slots) ∈ (entered module machine).statics := by
  unfold entered
  split
  · rename_i present
    obtain ⟨entry, entryMember, sameId⟩ := List.any_eq_true.mp present
    refine ⟨linked, entry.2, ?_⟩
    rw [← (beq_iff_eq.mp sameId)]
    exact entryMember
  · refine ⟨⟨linked.wellLinked, linked.frames_linked, ?_, fun frame member =>
      (linked.statics_entered frame member).imp fun _ present => List.mem_append_left _ present⟩,
      _, List.mem_append_right _ List.mem_cons_self⟩
    intro entry entryMember other otherMember sameId
    rcases List.mem_append.mp entryMember with old | added
    · exact linked.statics_size entry old other otherMember sameId
    · rw [List.mem_singleton.mp added] at sameId ⊢
      rw [linked.wellLinked.ids_unique other otherMember module member sameId]
      exact Array.size_replicate

/-! Each part an instruction is made of keeps a machine linked. -/

/-- A linked machine whose innermost call is `current`. -/
def Headed (current : Frame) (machine : Machine) : Prop :=
  machine.Linked ∧ ∃ rest, machine.frames = current :: rest

/-- How a part may stop on a linked machine: the machine stays linked and the stop is one of
run time. -/
def StopsLinked (stop : Stop) (machine : Machine) : Prop :=
  machine.Linked ∧ stop.IsRuntime

variable {α : Type} {current : Frame} {machine : Machine}

theorem Headed.linkedFrame (held : Headed current machine) : current.Linked machine.package := by
  obtain ⟨linked, rest, framesAre⟩ := held
  exact linked.frames_linked current (framesAre ▸ List.mem_cons_self)

theorem Headed.staticsOf (held : Headed current machine) :
    ∃ slots, outcome (staticsOf current.module.id) machine = (.ok slots, machine) ∧
      slots.size = current.module.statics := by
  have frameLinked := held.linkedFrame
  obtain ⟨linked, rest, framesAre⟩ := held
  obtain ⟨slots, present⟩ := linked.statics_entered current (framesAre ▸ List.mem_cons_self)
  cases found : machine.statics.find? (·.1 == current.module.id) with
  | none =>
      have missing := List.find?_eq_none.mp found _ present
      simp at missing
  | some entry =>
      refine ⟨entry.2, outcome_staticsOf found, ?_⟩
      have sameId : entry.1 = current.module.id := by simpa using List.find?_some found
      exact linked.statics_size entry (List.mem_of_find?_eq_some found) current.module
        frameLinked.module_mem sameId.symm

theorem Headed.verified (held : Headed current machine) : current.module.Verified :=
  held.1.wellLinked.verified _ held.linkedFrame.module_mem

theorem Headed.frame_bind {next : Frame → Exec α} {post : α → Machine → Prop}
    {stops : Stop → Machine → Prop} (nextTriple : Triple (Headed current) (next current) post stops) :
    Triple (Headed current) (frame >>= next) post stops := by
  intro machine held
  obtain ⟨rest, framesAre⟩ := held.2
  rw [outcome_bind_of_ok (outcome_frame framesAre)]
  exact nextTriple machine held

theorem OnStack.keeps {part : Exec α} (onStack : OnStack part) {holds : Machine → Prop}
    (stackFree : ∀ machine stack, holds machine → holds { machine with stack })
    (linkedOf : ∀ machine, holds machine → machine.Linked) :
    Triple holds part (fun _ => holds) StopsLinked :=
  (onStack.triple stackFree).mono (fun _ held => held) (fun _ _ held => held)
    fun _ machine held => ⟨linkedOf machine held.1, held.2.isRuntime⟩

theorem OnStack.linked {part : Exec α} (onStack : OnStack part) :
    Triple Machine.Linked part (fun _ => Machine.Linked) StopsLinked :=
  onStack.keeps (fun _ _ held => held) fun _ held => held

theorem OnStack.headed {part : Exec α} (onStack : OnStack part) :
    Triple (Headed current) part (fun _ => Headed current) StopsLinked :=
  onStack.keeps (fun _ _ held => held) fun _ held => held.1

theorem Triple.headed {part : Exec α} {post : α → Machine → Prop} {stops : Stop → Machine → Prop}
    (triple : Triple Machine.Linked part post stops) : Triple (Headed current) part post stops :=
  fun machine held => triple machine held.1

theorem jump_linked {target : Nat} (lands : target ∈ current.function.offsets) :
    Triple (Headed current) (modifyFrame fun frame => { frame with nextIp := target })
      (fun _ => Machine.Linked) StopsLinked := by
  intro machine held
  have frameLinked := held.linkedFrame
  obtain ⟨linked, rest, framesAre⟩ := held
  rw [outcome_modifyFrame framesAre]
  exact linked.replaceHead framesAre (frameLinked.withNext (Or.inl lands)) rfl

theorem ret_linked : Triple (Headed current) ret (fun _ => Machine.Linked) StopsLinked := by
  intro machine held
  obtain ⟨linked, rest, framesAre⟩ := held
  rcases ret_spec framesAre with ⟨-, mismatch⟩ | ⟨-, returned⟩
  · rw [mismatch]
    exact ⟨linked, rfl⟩
  · rw [returned]
    exact linked.tail framesAre

theorem call_linked {module : LinkedModule} {function : LinkedFunction}
    (listed : function ∈ module.functions) :
    Triple (fun machine => machine.Linked ∧ module ∈ machine.package.modules) (call module function)
      (fun _ => Machine.Linked) StopsLinked := by
  intro machine ⟨linked, member⟩
  obtain ⟨enteredLinked, present⟩ := entered_linked linked member
  rcases call_spec module function machine with
    ⟨-, tooDeep⟩ | ⟨-, stack, ⟨locals, sized, called⟩ | ⟨stop, isLocal, stopped⟩⟩
  · rw [tooDeep]
    exact ⟨linked, rfl⟩
  · rw [called]
    show CallsLinked (entered module machine).package _ (entered module machine).statics
    rw [entered_package]
    exact enteredLinked.push (Frame.linked_entry linked.wellLinked member listed sized) present
  · rw [stopped]
    refine ⟨?_, isLocal.isRuntime⟩
    show CallsLinked (entered module machine).package (entered module machine).frames
      (entered module machine).statics
    rw [entered_package, entered_frames]
    exact enteredLinked

theorem service_linked (id : Nat) :
    Triple Machine.Linked (service id) (fun _ => Machine.Linked) StopsLinked := by
  intro machine linked
  rcases service_spec id machine with
    ⟨-, missing⟩ | ⟨which, -, ⟨-, overBudget⟩ | ⟨-, ⟨-, gasLeft⟩ | ⟨-, stack, logs, after, stops⟩⟩⟩
  · rw [missing]
    exact ⟨linked, rfl⟩
  · rw [overBudget]
    exact ⟨linked, rfl⟩
  · rw [gasLeft]
    exact (push_onStack _).keeps (fun _ _ held => held) (fun _ held => held) _ linked
  · rcases serviceOutcome : outcome (service id) machine with ⟨result, next⟩
    rw [serviceOutcome] at after stops
    dsimp only at after
    subst after
    cases result with
    | ok value => exact linked
    | error stop => exact ⟨linked, (stops stop rfl).isRuntime⟩

theorem perform_linked {decoded : Code.Decoded}
    (checked : current.module.module.CheckedAt current.function.function current.function.offsets
      current.ip decoded) :
    Triple (Headed current) (perform decoded) (fun _ => Machine.Linked) StopsLinked := by
  cases plain : decoded.opcode.reachesFrame
  · exact (perform_onStack plain).linked.headed
  have bound := checked.operand_lt
  have lands := checked.jump_lands
  unfold perform
  refine Headed.frame_bind ?_
  cases opcodeIs : decoded.opcode <;>
    simp only [opcodeIs, Opcode.reachesFrame, Opcode.isJump, Module.operandLimit,
      Bool.false_eq_true, Option.some.injEq, forall_eq', forall_const] at plain bound lands ⊢
  case pushAddress =>
    intro machine held
    have inside : decoded.argument < current.module.addresses.length := by
      rw [held.verified.addresses_length]
      exact bound
    rw [List.getElem?_eq_getElem inside]
    exact (push_onStack _).linked machine held.1
  case jump => exact jump_linked lands
  case jumpIf | jumpIfNot =>
    refine Triple.bind popBoolean_onStack.headed fun value => ?_
    split
    · exact jump_linked lands
    · exact Triple.done () fun _ held => held.1
  case call =>
    intro machine held
    have inside : decoded.argument < current.module.functions.length := by
      rw [held.verified.functions_length]
      exact bound
    rw [List.getElem?_eq_getElem inside]
    exact call_linked (List.getElem_mem inside) machine ⟨held.1, held.linkedFrame.module_mem⟩
  case callImport =>
    intro machine held
    have inside : decoded.argument < current.module.resolvedImports.length := by
      rw [held.verified.imports_length]
      exact bound
    obtain ⟨target, function, found, functionFound⟩ := held.1.wellLinked.imports_found
      current.module held.linkedFrame.module_mem _ (List.getElem_mem inside)
    rw [List.getElem?_eq_getElem inside]
    dsimp only
    rw [outcome_bind_of_ok (outcome_get machine)]
    simp only [found, functionFound]
    exact call_linked (List.mem_of_find?_eq_some functionFound) machine
      ⟨held.1, List.mem_of_find?_eq_some found⟩
  case ret => exact ret_linked
  case syscall => exact (service_linked _).headed
  case loadStatic =>
    intro machine held
    obtain ⟨slots, found, sized⟩ := held.staticsOf
    have inside : decoded.argument < slots.size := by
      rw [sized]
      exact bound
    rw [outcome_bind_of_ok found, outcome_bind_of_ok (outcome_readSlot inside machine)]
    exact (push_onStack _).linked machine held.1
  case storeStatic =>
    refine Triple.bind pop_onStack.headed fun item => ?_
    intro machine held
    obtain ⟨slots, found, sized⟩ := held.staticsOf
    have inside : decoded.argument < slots.size := by
      rw [sized]
      exact bound
    rw [outcome_bind_of_ok found, outcome_bind_of_ok (outcome_checkSlot inside machine),
      outcome_setStatics]
    refine held.1.setStatics fun module member sameId => ?_
    rw [held.1.wellLinked.ids_unique module member current.module held.linkedFrame.module_mem sameId,
      Array.size_set!, sized]
  case loadLocal =>
    intro machine held
    have inside : decoded.argument < current.locals.size := by
      rw [held.linkedFrame.locals_size]
      exact bound
    rw [outcome_bind_of_ok (outcome_readSlot inside machine)]
    exact (push_onStack _).linked machine held.1
  case storeLocal =>
    refine Triple.bind pop_onStack.headed fun item => ?_
    intro machine held
    have frameLinked := held.linkedFrame
    have inside : decoded.argument < current.locals.size := by
      rw [frameLinked.locals_size]
      exact bound
    obtain ⟨linked, rest, framesAre⟩ := held
    rw [outcome_bind_of_ok (outcome_checkSlot inside machine), outcome_modifyFrame framesAre]
    exact linked.replaceHead framesAre (frameLinked.withLocals (Array.size_set! ..)) rfl

theorem perform_implicitReturn_linked (next : Nat) :
    Triple (Headed current) (perform (Machine.implicitReturn next)) (fun _ => Machine.Linked)
      StopsLinked := by
  unfold perform
  exact Headed.frame_bind ret_linked

theorem charge_headed {amount : Nat} {failure : Fault} (isRuntime : failure.isRuntime = true) :
    Triple (Headed current) (charge amount failure) (fun _ => Headed current) StopsLinked := by
  intro machine held
  rw [outcome_charge]
  by_cases within : ({ machine with gasUsed := machine.gasUsed + amount } : Machine).withinBudget
  · rw [if_pos within]
    exact held
  · rw [if_neg within]
    exact ⟨held.1, isRuntime⟩

theorem recordEvent_headed (event : Event) :
    Triple (Headed current)
      (modify fun machine : Machine => { machine with events := machine.events.push event })
      (fun _ => Headed current) StopsLinked :=
  fun _ held => held

theorem instruction_linked {decoded : Code.Decoded}
    (performs : Triple (Headed current) (perform decoded) (fun _ => Machine.Linked) StopsLinked) :
    Triple (Headed current) (instruction current decoded) (fun _ => Machine.Linked) StopsLinked := by
  unfold instruction
  split
  · exact Triple.bind (charge_headed rfl) fun _ =>
      Triple.bind (recordEvent_headed _) fun _ => performs
  · exact performs

end Exec

namespace Machine

open Exec

theorem execute_linked {machine : Machine} {current : Frame} {rest : List Frame}
    {decoded : Code.Decoded} (linked : machine.Linked) (framesAre : machine.frames = current :: rest)
    (performs : Triple (Headed current) (perform decoded) (fun _ => Machine.Linked) StopsLinked) :
    (machine.execute decoded).1.Linked ∧
      ∀ failure, (machine.execute decoded).2 = some failure → failure.IsRuntime := by
  have ran := instruction_linked performs machine ⟨linked, rest, framesAre⟩
  rw [execute_eq framesAre]
  rcases ranIs : outcome (instruction current decoded) machine with ⟨result, next⟩
  rw [ranIs] at ran
  cases result with
  | ok value => exact ⟨ran, fun failure none => by cases none⟩
  | error stop =>
      cases stop with
      | abort info => exact ⟨ran.1, fun failure same => by cases same; trivial⟩
      | fault cause => exact ⟨ran.1, fun failure same => by cases same; exact ran.2⟩

theorem step_linked {machine : Machine} (linked : machine.Linked) :
    machine.step.1.Linked ∧ ∀ failure, machine.step.2 = some failure →
      (failure = .noProgram ∧ machine.frames = []) ∨ failure.IsRuntime := by
  unfold step
  split
  · rename_i empty
    exact ⟨linked, fun failure same => by cases same; exact Or.inl ⟨rfl, empty⟩⟩
  · rename_i current rest framesAre
    have frameLinked := linked.frames_linked current (framesAre ▸ List.mem_cons_self)
    dsimp only
    split
    · have movedLinked : Machine.Linked
          { machine with frames := { current with ip := current.nextIp } :: rest } :=
        linked.replaceHead framesAre (frameLinked.withIp current.nextIp) rfl
      obtain ⟨afterLinked, fails⟩ :=
        execute_linked movedLinked rfl (perform_implicitReturn_linked current.nextIp)
      exact ⟨afterLinked, fun failure same => Or.inr (fails failure same)⟩
    · rename_i inside
      obtain ⟨decoded, checked⟩ := frameLinked.checked_next linked.wellLinked (by omega)
      have decodedOk : Code.decode current.code current.nextIp = .ok decoded := checked.decode_ok
      rw [decodedOk]
      dsimp only
      have movedLinked : Machine.Linked { machine with
          frames := { current with ip := current.nextIp, nextIp := decoded.next } :: rest } :=
        linked.replaceHead framesAre
          ((frameLinked.withIp current.nextIp).withNext checked.next_boundary) rfl
      obtain ⟨afterLinked, fails⟩ := execute_linked movedLinked rfl (perform_linked checked)
      exact ⟨afterLinked, fun failure same => Or.inr (fails failure same)⟩

theorem iterate_step_linked {machine : Machine} (linked : machine.Linked) (steps : Nat) :
    ((fun machine : Machine => machine.step.1)^[steps] machine).Linked := by
  induction steps generalizing machine with
  | zero => exact linked
  | succ steps ih => exact ih (step_linked linked).1

theorem load_linked {machine : Machine} {id : ModuleId} {name : Name} {arguments : List Item}
    {loaded : Machine} (linked : machine.Linked) (done : machine.load id name arguments = .ok loaded) :
    loaded.Linked := by
  unfold load at done
  split at done
  · rename_i module found
    split at done
    · rename_i function functionFound
      dsimp only at done
      split at done
      · cases done
      simp only [Except.bind_eq_ok] at done
      obtain ⟨pushed, pushedOk, entered⟩ := done
      obtain ⟨stack, rfl⟩ := pushAll_stack pushedOk
      have called := call_linked (List.mem_of_find?_eq_some functionFound) { machine with stack }
        ⟨linked, List.mem_of_find?_eq_some found⟩
      unfold outcome at called
      split at entered
      all_goals
        rename_i next calledIs
        cases entered
        rw [calledIs] at called
      · exact called
      · exact called.1
    · cases done
  · cases done

end Machine

/-- Over a package built from linked modules, a function loaded on a fresh machine keeps every
call at an instruction boundary of its function, however many steps are taken; and a step fails
only when no call is active, by an abort, or with a fault of run time. It never meets code that
does not decode, a slot, address, function or import index out of range, or an import the
package lacks. -/
theorem linked_steps_fail_only_at_run_time {name : String} {resolution : Resolution}
    {candidates : List (Module ⊕ LinkedModule)} {package : Package}
    (built : Package.build name resolution candidates = .ok package)
    (produced : ∀ module, .inr module ∈ candidates →
      ∃ (written : Module) (linkedWith : Resolution), written.link linkedWith = .ok module)
    {limit : Option Nat} {id : ModuleId} {entry : Name} {arguments : List Item} {loaded : Machine}
    (done : (Machine.new package limit).load id entry arguments = .ok loaded) (steps : Nat) :
    (∀ frame ∈ ((fun machine : Machine => machine.step.1)^[steps] loaded).frames,
      ∃ starts, Code.offsets frame.code = .ok starts ∧
        (frame.nextIp ∈ starts ∨ frame.nextIp = frame.code.length)) ∧
    ∀ failure, ((fun machine : Machine => machine.step.1)^[steps] loaded).step.2 = some failure →
      (failure = .noProgram ∧ ((fun machine : Machine => machine.step.1)^[steps] loaded).frames = []) ∨
        failure.IsRuntime := by
  have fresh : (Machine.new package limit).Linked :=
    CallsLinked.empty (Package.build_wellLinked built produced)
  have linked := Machine.iterate_step_linked (Machine.load_linked fresh done) steps
  refine ⟨fun frame member => ?_, (Machine.step_linked linked).2⟩
  have frameLinked := linked.frames_linked frame member
  exact ⟨frame.function.offsets, (Module.verify_offsets (frameLinked.verify_ok linked.wellLinked)).1,
    frameLinked.next_boundary⟩

theorem caller_load : ∃ loaded,
    (Machine.new callerPackage (some 10)).load ⟨Address.zero, "m"⟩ "f" [] = .ok loaded := by
  have moduleFound : callerPackage.module? ⟨Address.zero, "m"⟩ = some callerLinked := by
    simp [Package.module?, callerPackage, callerLinked]
  have found : callerLinked.findFunction? "f" = some ⟨callerFunction, [], [0, 3, 6]⟩ := by
    simp [LinkedModule.findFunction?, callerLinked, callerFunction]
  have fresh : (Machine.new callerPackage (some 10)).package = callerPackage := rfl
  unfold Machine.load
  rw [fresh, moduleFound]
  dsimp only
  rw [found]
  exact ⟨_, rfl⟩

/-- `f` calls `g`, which returns, jumps to its own return and returns: loaded with a budget of ten,
its first five steps keep every call at an instruction boundary and meet no fault of linking. -/
theorem call_and_jump_steps_fail_only_at_run_time :
    Package.build "p" zeroResolution [.inr callerLinked] = .ok callerPackage ∧
    ∃ loaded, (Machine.new callerPackage (some 10)).load ⟨Address.zero, "m"⟩ "f" [] = .ok loaded ∧
      (∀ frame ∈ ((fun machine : Machine => machine.step.1)^[5] loaded).frames,
        ∃ starts, Code.offsets frame.code = .ok starts ∧
          (frame.nextIp ∈ starts ∨ frame.nextIp = frame.code.length)) ∧
      ∀ failure, ((fun machine : Machine => machine.step.1)^[5] loaded).step.2 = some failure →
        (failure = .noProgram ∧
          ((fun machine : Machine => machine.step.1)^[5] loaded).frames = []) ∨
          failure.IsRuntime := by
  have produced : ∀ module, .inr module ∈ ([.inr callerLinked] : List (Module ⊕ LinkedModule)) →
      ∃ (written : Module) (linkedWith : Resolution), written.link linkedWith = .ok module := by
    intro module member
    simp only [List.mem_singleton, Sum.inr.injEq] at member
    subst member
    exact ⟨callerModule, zeroResolution, caller_link⟩
  obtain ⟨loaded, loading⟩ := caller_load
  exact ⟨caller_build, loaded, loading, linked_steps_fail_only_at_run_time caller_build produced loading 5⟩

end Testbench
