import Mathlib
import Testbench.Proofs.Machine.Arithmetic
import Testbench.Proofs.Machine.Recorded
import Testbench.Proofs.Module.Linkable

/-!
How a call enters a function: slot `j` of the new frame holds argument `j`, and the statics of a
module are one array per machine, made by the first call into it and shared by every later one.
-/

namespace Testbench

/-- The call of `function` of `module` with `arguments` in its first slots and zero in the slots
of its locals, over an evaluation stack of `base` items. -/
def Frame.enter (module : LinkedModule) (function : LinkedFunction) (arguments : List Item)
    (base : Nat) : Frame :=
  ⟨module, function, 0, 0, (arguments ++ List.replicate function.function.locals Item.zero).toArray, base⟩

/-- The statics once `module` is entered: an array of zeros of the module's size the first time,
the arrays as they were after that. -/
def enterStatics (module : LinkedModule) (statics : List (ModuleId × Array Item)) :
    List (ModuleId × Array Item) :=
  if statics.any (·.1 == module.id) then statics
  else statics ++ [(module.id, Array.replicate module.statics Item.zero)]

/-- The module and function an instruction of a call in `module` enters: a call by index names
a function of `module`, a call through an import the function its entry names in the package.
None for other instructions, and for an index or a name that finds nothing. -/
def LinkedModule.callee? (module : LinkedModule) (package : Package) (decoded : Code.Decoded) :
    Option (LinkedModule × LinkedFunction) :=
  match decoded.opcode with
  | .call => module.functions[decoded.argument]?.map fun function => (module, function)
  | .callImport => do
    let entry ← module.resolvedImports[decoded.argument]?
    let target ← package.module? entry.module
    let function ← target.findFunction? entry.function
    pure (target, function)
  | _ => none

namespace Exec

variable {machine : Machine}

theorem entered_eq (module : LinkedModule) (machine : Machine) :
    entered module machine = { machine with statics := enterStatics module machine.statics } := by
  unfold entered enterStatics
  split <;> rfl

@[simp] theorem withItems_withItems (machine : Machine) (items items' : List Item) :
    (machine.withItems items).withItems items' = machine.withItems items' := rfl

theorem withItems_self (machine : Machine) : machine.withItems machine.stack.items = machine := rfl

theorem drop_set_self (items : List Item) {index : Nat} (inside : index < items.length) (item : Item) :
    (items.set index item).drop index = item :: items.drop (index + 1) := by
  rw [List.drop_eq_getElem_cons (by simpa using inside)]
  simp [List.drop_set]

theorem outcome_takeArguments :
    ∀ (popped : List Item) (slots : Array Item) (machine : Machine) {rest : List Item},
      popped.length ≤ slots.size → machine.stack.items = popped ++ rest →
      outcome (takeArguments slots popped.length) machine =
        (.ok (popped.reverse ++ slots.toList.drop popped.length).toArray, machine.withItems rest)
  | [], slots, machine, rest, _, stackIs => by
      rw [List.nil_append] at stackIs
      rw [← stackIs, withItems_self]
      simp [takeArguments]
  | top :: others, slots, machine, rest, fits, stackIs => by
      have inside : others.length < slots.size := by simpa using fits
      simp only [List.length_cons, takeArguments]
      rw [outcome_bind_of_ok (outcome_pop stackIs)]
      rw [outcome_takeArguments others (slots.set! others.length top) _ (by simp; omega) rfl]
      simp [Array.set!, drop_set_self slots.toList (by simpa using inside) top]

theorem outcome_call_enters (module : LinkedModule) (function : LinkedFunction) (machine : Machine)
    {arguments rest : List Item} (counted : arguments.length = function.function.params)
    (stackIs : machine.stack.items = arguments.reverse ++ rest)
    (shallow : machine.frames.length < maxCallDepth) :
    outcome (call module function) machine =
      (.ok (), { entered module machine with
        stack := { machine.stack with items := rest },
        frames := Frame.enter module function arguments rest.length :: machine.frames }) := by
  have taken := outcome_takeArguments arguments.reverse
    (Array.replicate (function.function.params + function.function.locals) Item.zero)
    (entered module machine) (by simp [counted]) (by rw [entered_eq]; simpa using stackIs)
  rw [List.length_reverse, counted] at taken
  have locals : (arguments.reverse.reverse ++ (Array.replicate (function.function.params +
      function.function.locals) Item.zero).toList.drop function.function.params).toArray =
      (arguments ++ List.replicate function.function.locals Item.zero).toArray := by
    simp [List.drop_replicate]
  rw [locals] at taken
  unfold call
  rw [outcome_bind_of_ok (outcome_get machine), if_neg (by simpa using shallow)]
  by_cases present : machine.statics.any (·.1 == module.id) = true
  · have same : entered module machine = machine := by simp [entered, present]
    rw [same] at taken ⊢
    simp only [present, Bool.not_true, Bool.false_eq_true, if_false]
    rw [outcome_bind_of_ok taken, outcome_modify]
    rfl
  · have added : entered module machine = { machine with statics :=
        machine.statics ++ [(module.id, Array.replicate module.statics Item.zero)] } := by
      simp [entered, present]
    rw [added] at taken ⊢
    simp only [Bool.not_eq_true] at present
    simp only [present, Bool.not_false, if_true]
    rw [outcome_bind, outcome_set]
    dsimp only
    rw [outcome_bind_of_ok taken, outcome_modify]
    rfl

theorem outcome_perform_callee {current : Frame} {callers : List Frame} {decoded : Code.Decoded}
    {target : LinkedModule} {function : LinkedFunction} (framesAre : machine.frames = current :: callers)
    (calls : current.module.callee? machine.package decoded = some (target, function)) :
    outcome (perform decoded) machine = outcome (call target function) machine := by
  unfold perform
  rw [outcome_bind_of_ok (outcome_frame framesAre)]
  unfold LinkedModule.callee? at calls
  cases opcodeIs : decoded.opcode <;> simp only [opcodeIs, reduceCtorEq] at calls ⊢
  case call =>
    obtain ⟨found, foundIs, same⟩ := Option.map_eq_some_iff.mp calls
    cases same
    simp only [foundIs]
  case callImport =>
    simp only [Option.bind_eq_bind, Option.bind_eq_some_iff, Option.pure_def, Option.some.injEq] at calls
    obtain ⟨entry, entryIs, found, foundIs, named, namedIs, same⟩ := calls
    cases same
    simp only [entryIs]
    rw [outcome_bind_of_ok (outcome_get machine)]
    simp only [foundIs, namedIs]

end Exec

/-! ### One array of statics per module -/

/-- Each module has at most one array of statics. -/
def Machine.StaticsKeyed (machine : Machine) : Prop := (machine.statics.map (·.1)).Nodup

theorem enterStatics_nodup {statics : List (ModuleId × Array Item)} (keyed : (statics.map (·.1)).Nodup)
    (module : LinkedModule) : ((enterStatics module statics).map (·.1)).Nodup := by
  unfold enterStatics
  split
  · exact keyed
  · rename_i present
    have fresh : module.id ∉ statics.map (·.1) := by
      intro listed
      obtain ⟨entry, member, sameId⟩ := List.mem_map.mp listed
      exact present (List.any_eq_true.mpr ⟨entry, member, by simp [sameId]⟩)
    rw [List.map_append, List.nodup_append]
    refine ⟨keyed, by simp, fun key listed other single same => fresh ?_⟩
    simp only [List.map_singleton, List.mem_singleton] at single
    subst single
    rw [← same]
    exact listed

theorem map_replace_keys (statics : List (ModuleId × Array Item)) (id : ModuleId) (slots : Array Item) :
    (statics.map fun entry => if entry.1 == id then (id, slots) else entry).map (·.1) =
      statics.map (·.1) := by
  rw [List.map_map]
  refine List.map_congr_left fun entry _ => ?_
  by_cases same : entry.1 = id <;> simp [same]

namespace Exec

variable {α β : Type}

/-- A part that keeps one array of statics per module, whether it goes through or stops. -/
def KeepsKeyed (part : Exec α) : Prop :=
  Triple Machine.StaticsKeyed part (fun _ => Machine.StaticsKeyed) (fun _ => Machine.StaticsKeyed)

theorem KeepsKeyed.bind {first : Exec α} {next : α → Exec β} (firstKeeps : KeepsKeyed first)
    (nextKeeps : ∀ value, KeepsKeyed (next value)) : KeepsKeyed (first >>= next) :=
  Triple.bind firstKeeps nextKeeps

theorem KeepsKeyed.get_bind {next : Machine → Exec α} (nextKeeps : ∀ machine, KeepsKeyed (next machine)) :
    KeepsKeyed (get >>= next) :=
  Triple.get_bind fun machine _ => nextKeeps machine

theorem keepsKeyed_of_statics {part : Exec α}
    (same : ∀ machine, (outcome part machine).2.statics = machine.statics) : KeepsKeyed part := by
  intro machine keyed
  have kept : (outcome part machine).2.StaticsKeyed := by
    unfold Machine.StaticsKeyed
    rw [same]
    exact keyed
  rcases partOutcome : outcome part machine with ⟨result, after⟩
  rw [partOutcome] at kept
  cases result <;> exact kept

theorem OnStack.keepsKeyed {part : Exec α} (onStack : OnStack part) : KeepsKeyed part :=
  keepsKeyed_of_statics fun machine => by
    obtain ⟨stack, after, -⟩ := onStack machine
    rw [after]

theorem pure_keepsKeyed (value : α) : KeepsKeyed (pure value : Exec α) :=
  (OnStack.pure value).keepsKeyed

theorem fail_keepsKeyed (cause : Fault) : KeepsKeyed (fail cause : Exec α) :=
  keepsKeyed_of_statics fun _ => rfl

theorem modifyFrame_keepsKeyed (change : Frame → Frame) : KeepsKeyed (modifyFrame change) :=
  keepsKeyed_of_statics fun machine => by
    simp only [modifyFrame, outcome_modify]
    split <;> rfl

theorem staticsOf_keepsKeyed (id : ModuleId) : KeepsKeyed (staticsOf id) := by
  unfold staticsOf
  refine KeepsKeyed.get_bind fun machine => ?_
  split <;> exact pure_keepsKeyed _

theorem readSlot_keepsKeyed (slots : Array Item) (index : Nat) : KeepsKeyed (readSlot slots index) := by
  unfold readSlot
  split
  · exact pure_keepsKeyed _
  · exact fail_keepsKeyed _

theorem checkSlot_keepsKeyed (slots : Array Item) (index : Nat) : KeepsKeyed (checkSlot slots index) := by
  unfold checkSlot
  split
  · exact pure_keepsKeyed _
  · exact fail_keepsKeyed _

theorem setStatics_keepsKeyed (id : ModuleId) (slots : Array Item) : KeepsKeyed (setStatics id slots) := by
  intro machine keyed
  rw [outcome_setStatics]
  show ((machine.statics.map fun entry => if entry.1 == id then (id, slots) else entry).map (·.1)).Nodup
  rw [map_replace_keys]
  exact keyed

theorem charge_keepsKeyed (amount : Nat) (failure : Fault) : KeepsKeyed (charge amount failure) :=
  keepsKeyed_of_statics fun machine => by
    rw [outcome_charge]
    split <;> rfl

theorem call_keepsKeyed (module : LinkedModule) (function : LinkedFunction) :
    KeepsKeyed (call module function) := by
  intro machine keyed
  have enteredKeyed : (entered module machine).StaticsKeyed := by
    unfold Machine.StaticsKeyed
    rw [entered_eq]
    exact enterStatics_nodup keyed module
  rcases call_spec module function machine with
    ⟨-, tooDeep⟩ | ⟨-, stack, ⟨locals, -, called⟩ | ⟨stop, -, stopped⟩⟩
  · rw [tooDeep]
    exact keyed
  · rw [called]
    exact enteredKeyed
  · rw [stopped]
    exact enteredKeyed

theorem ret_keepsKeyed : KeepsKeyed ret :=
  keepsKeyed_of_statics fun machine => by
    obtain ⟨current, framed⟩ := outcome_frame_self machine
    unfold ret
    rw [outcome_bind_of_ok framed, outcome_bind_of_ok (outcome_get machine)]
    dsimp only
    split <;> simp [outcome_bind]

theorem service_keepsKeyed (id : Nat) : KeepsKeyed (service id) :=
  keepsKeyed_of_statics fun machine => by
    rcases service_spec id machine with
      ⟨-, missing⟩ | ⟨which, -, ⟨-, overBudget⟩ | ⟨-, ⟨-, gasLeft⟩ | ⟨-, stack, logs, after, -⟩⟩⟩
    · rw [missing]
    · rw [overBudget]
      rfl
    · rw [gasLeft]
      obtain ⟨stack, after, -⟩ := push_onStack _ (charged which machine)
      rw [after]
      rfl
    · rw [after]
      rfl

theorem perform_keepsKeyed (decoded : Code.Decoded) : KeepsKeyed (perform decoded) := by
  cases plain : decoded.opcode.reachesFrame
  · exact (perform_onStack plain).keepsKeyed
  unfold perform
  refine KeepsKeyed.bind frame_onStack.keepsKeyed fun current => ?_
  cases opcodeIs : decoded.opcode <;>
    simp only [opcodeIs, Opcode.reachesFrame, Bool.false_eq_true] at plain ⊢
  case pushAddress =>
    split
    · exact (push_onStack _).keepsKeyed
    · exact fail_keepsKeyed _
  case jump => exact modifyFrame_keepsKeyed _
  case jumpIf | jumpIfNot =>
    refine KeepsKeyed.bind popBoolean_onStack.keepsKeyed fun value => ?_
    split
    · exact modifyFrame_keepsKeyed _
    · exact pure_keepsKeyed _
  case call =>
    split
    · exact call_keepsKeyed _ _
    · exact fail_keepsKeyed _
  case callImport =>
    split
    · exact fail_keepsKeyed _
    · refine KeepsKeyed.get_bind fun machine => ?_
      split
      · exact fail_keepsKeyed _
      · split
        · exact fail_keepsKeyed _
        · exact call_keepsKeyed _ _
  case ret => exact ret_keepsKeyed
  case syscall => exact service_keepsKeyed _
  case loadStatic =>
    exact (staticsOf_keepsKeyed _).bind fun slots => (readSlot_keepsKeyed _ _).bind fun item =>
      (push_onStack item).keepsKeyed
  case storeStatic =>
    exact pop_onStack.keepsKeyed.bind fun item => (staticsOf_keepsKeyed _).bind fun slots =>
      (checkSlot_keepsKeyed _ _).bind fun _ => setStatics_keepsKeyed _ _
  case loadLocal =>
    exact (readSlot_keepsKeyed _ _).bind fun item => (push_onStack item).keepsKeyed
  case storeLocal =>
    exact pop_onStack.keepsKeyed.bind fun item => (checkSlot_keepsKeyed _ _).bind fun _ =>
      modifyFrame_keepsKeyed _

theorem instruction_keepsKeyed (current : Frame) (decoded : Code.Decoded) :
    KeepsKeyed (instruction current decoded) := by
  unfold instruction
  split
  · exact (charge_keepsKeyed _ _).bind fun _ =>
      KeepsKeyed.bind (keepsKeyed_of_statics fun _ => rfl) fun _ => perform_keepsKeyed decoded
  · exact perform_keepsKeyed decoded

end Exec

namespace Machine

open Exec

theorem step_of_decoded {machine : Machine} {current : Frame} {callers : List Frame}
    {decoded : Code.Decoded} (framesAre : machine.frames = current :: callers)
    (next : machine.nextInstruction? = some decoded) :
    current.nextIp < current.code.length ∧ machine.step = execute { machine with
      frames := { current with ip := current.nextIp, nextIp := decoded.next } :: callers } decoded := by
  have found := next
  simp only [nextInstruction?, framesAre] at found
  split at found
  · cases found
  · rename_i inside
    cases decodedIs : Code.decode current.code current.nextIp with
    | error failure => simp [decodedIs, Except.toOption] at found
    | ok same =>
      simp only [decodedIs, Except.toOption, Option.some.injEq] at found
      subst found
      refine ⟨by omega, ?_⟩
      unfold step
      rw [framesAre]
      dsimp only
      rw [if_neg inside, decodedIs]

theorem step_enters_callee {machine : Machine} {current : Frame} {callers : List Frame}
    {decoded : Code.Decoded} {target : LinkedModule} {function : LinkedFunction}
    {arguments rest : List Item} (framesAre : machine.frames = current :: callers)
    (next : machine.nextInstruction? = some decoded) (paid : machine.unitWithinBudget = true)
    (calls : current.module.callee? machine.package decoded = some (target, function))
    (counted : arguments.length = function.function.params)
    (stackIs : machine.stack.items = arguments.reverse ++ rest)
    (shallow : machine.frames.length < maxCallDepth) :
    machine.step = ({ machine with
      frames := Frame.enter target function arguments rest.length ::
        { current with ip := current.nextIp, nextIp := decoded.next } :: callers,
      stack := { machine.stack with items := rest },
      statics := enterStatics target machine.statics,
      gasUsed := machine.gasUsed + instructionPrice,
      events := machine.events.push
        ⟨current.module.id, current.function.function.name, current.nextIp, decoded.opcode⟩ }, none) := by
  obtain ⟨inside, stepped⟩ := step_of_decoded framesAre next
  let moved : Frame := { current with ip := current.nextIp, nextIp := decoded.next }
  have within : { ({ machine with frames := moved :: callers } : Machine) with
      gasUsed := machine.gasUsed + instructionPrice }.withinBudget = true :=
    (withinBudget_congr rfl rfl).trans paid
  have performed : outcome (instruction moved decoded) { machine with frames := moved :: callers } =
      outcome (perform decoded) (recorded moved decoded { machine with frames := moved :: callers }) :=
    outcome_instruction_within inside within
  have entering : outcome (perform decoded) (recorded moved decoded { machine with frames := moved :: callers }) =
      outcome (call target function) (recorded moved decoded { machine with frames := moved :: callers }) :=
    outcome_perform_callee rfl calls
  rw [entering, outcome_call_enters target function
    (recorded moved decoded { machine with frames := moved :: callers }) counted stackIs
    (by simpa [recorded, framesAre] using shallow)] at performed
  rw [stepped, execute_eq rfl, performed, entered_eq]
  rfl

theorem pushAll_ok : ∀ (machine : Machine) (items : List Item),
    machine.stack.size + items.length ≤ Stack.capacity →
      machine.pushAll items = .ok (machine.withItems (items.reverse ++ machine.stack.items))
  | machine, [], _ => by
      rw [pushAll, List.reverse_nil, List.nil_append, withItems_self]
  | machine, item :: rest, fits => by
      have room : ¬ machine.stack.size ≥ Stack.capacity := by
        simp only [List.length_cons] at fits
        omega
      rw [pushAll, Stack.push, if_neg room]
      dsimp only
      rw [pushAll_ok _ rest (by simp only [List.length_cons, Stack.size] at fits ⊢; omega)]
      simp [Machine.withItems]

theorem load_fresh_enters {package : Package} {limit : Option Nat} {id : ModuleId} {name : Name}
    {module : LinkedModule} {function : LinkedFunction} {arguments : List Item}
    (found : package.module? id = some module) (named : module.findFunction? name = some function)
    (counted : arguments.length = function.function.params)
    (fits : arguments.length ≤ Stack.capacity) :
    (Machine.new package limit).load id name arguments = .ok { Machine.new package limit with
      frames := [Frame.enter module function arguments 0],
      statics := [(module.id, Array.replicate module.statics Item.zero)] } := by
  have pushed := pushAll_ok (Machine.new package limit) arguments (by simpa [Machine.new, Stack.size] using fits)
  have entered := outcome_call_enters module function
    ((Machine.new package limit).withItems (arguments.reverse ++ [])) counted rfl
    (by simp [Machine.withItems, Machine.new, maxCallDepth])
  rw [entered_eq] at entered
  simp only [Machine.new, List.append_nil] at pushed entered
  unfold load
  simp only [Machine.new, found, named, counted, bne_self_eq_false, Bool.false_eq_true, if_false,
    pushed, bind, Except.bind]
  rw [show StateT.run (ExceptT.run (call module function)) _ = outcome (call module function) _ from rfl,
    entered]
  simp [pure, Except.pure, Machine.withItems, enterStatics]

theorem execute_keyed (machine : Machine) (keyed : machine.StaticsKeyed) (decoded : Code.Decoded) :
    (machine.execute decoded).1.StaticsKeyed := by
  cases framesAre : machine.frames with
  | nil =>
    unfold execute
    rw [framesAre]
    exact keyed
  | cons current rest =>
    have kept := instruction_keepsKeyed current decoded machine keyed
    rw [execute_eq framesAre]
    rcases ranIs : outcome (instruction current decoded) machine with ⟨result, next⟩
    rw [ranIs] at kept
    cases result with
    | ok value => exact kept
    | error stop => cases stop <;> exact kept

theorem step_keyed {machine : Machine} (keyed : machine.StaticsKeyed) : machine.step.1.StaticsKeyed := by
  rcases step_spec machine with ⟨-, stepped⟩ | ⟨moved, rest, -, -, -, stepped⟩ |
    ⟨moved, rest, failure, -, -, stepped⟩ | ⟨moved, rest, decoded, -, -, -, stepped⟩
  · rw [stepped]
    exact keyed
  · rw [stepped]
    exact execute_keyed { machine with frames := moved :: rest } keyed _
  · rw [stepped]
    exact keyed
  · rw [stepped]
    exact execute_keyed { machine with frames := moved :: rest } keyed _

theorem runSteps_keyed {machine : Machine} (keyed : machine.StaticsKeyed) (fuel : Nat) :
    (machine.runSteps fuel).1.StaticsKeyed := by
  induction fuel generalizing machine with
  | zero => exact keyed
  | succ fuel ih =>
    unfold runSteps
    have stepped := step_keyed keyed
    split
    · rename_i next failure same
      rw [same] at stepped
      exact stepped
    · rename_i next same
      rw [same] at stepped
      split
      · exact stepped
      · exact ih stepped

theorem run_keyed {machine : Machine} (keyed : machine.StaticsKeyed) : machine.run.1.StaticsKeyed := by
  unfold run
  split
  · exact keyed
  · split
    · exact keyed
    · split
      · exact keyed
      · exact runSteps_keyed keyed _

theorem load_keyed {machine : Machine} {id : ModuleId} {name : Name} {arguments : List Item}
    {loaded : Machine} (keyed : machine.StaticsKeyed) (done : machine.load id name arguments = .ok loaded) :
    loaded.StaticsKeyed := by
  obtain ⟨module, function, stack, rfl⟩ := load_ok done
  have kept := call_keepsKeyed module function { machine with stack } keyed
  rcases calledIs : outcome (call module function) { machine with stack } with ⟨result, after⟩
  rw [calledIs] at kept
  cases result <;> exact kept

end Machine

theorem Package.Runs.staticsKeyed {package : Package} {machine : Machine} (runs : package.Runs machine) :
    machine.StaticsKeyed := by
  induction runs with
  | @load limit id name arguments loaded done =>
    exact Machine.load_keyed (show (Machine.new package limit).StaticsKeyed from List.nodup_nil) done
  | step _ ih => exact Machine.step_keyed ih
  | run _ ih => exact Machine.run_keyed ih

theorem Package.Runs.statics_shared {package : Package} (wellLinked : package.WellLinked)
    {machine : Machine} (runs : package.Runs machine) :
    ∀ frame ∈ machine.frames, ∃! slots, (frame.module.id, slots) ∈ machine.statics ∧
      slots.size = frame.module.statics := by
  have recording := runs.recording wellLinked
  have linked := recording.linked
  intro frame member
  obtain ⟨slots, present⟩ := linked.statics_entered frame member
  have frameLinked := linked.frames_linked frame member
  refine ⟨slots, ⟨present, linked.statics_size _ present frame.module frameLinked.module_mem rfl⟩, ?_⟩
  rintro other ⟨otherPresent, -⟩
  have same := List.inj_on_of_nodup_map runs.staticsKeyed otherPresent present rfl
  exact (Prod.mk.inj same).2

theorem Package.WellLinked.params_le {package : Package} (wellLinked : package.WellLinked)
    {module : LinkedModule} (member : module ∈ package.modules) {function : LinkedFunction}
    (listed : function ∈ module.functions) : function.function.params ≤ 255 := by
  obtain ⟨instructions, verifies, -⟩ :=
    Module.verify_eq_ok_iff.mp ((wellLinked.verified module member).verify_ok function listed)
  have slots := verifies.slots_le
  omega

/-- Calls bind their parameters in order and share their module's statics. Over a package built
from linked modules, loading a function on a fresh machine enters it with the arguments in its
first slots and zeros after them, an empty stack, and its module's statics, all zero, as the
machine's only ones. A call by index or through an import, paid for and with room for another
frame, takes the callee's arguments off the stack into the new frame's first slots in order, sets
its base to the size of the stack left, moves the caller past the call, and gives the callee's
module its statics, all zero, only if it had none. Along every run each call reads and writes the
one array of its module's statics, as many slots as the module declares. -/
theorem calls_bind_parameters_share_statics {name : String} {resolution : Resolution}
    {candidates : List (Module ⊕ LinkedModule)} {package : Package}
    (built : Package.build name resolution candidates = .ok package)
    (produced : ∀ module, .inr module ∈ candidates →
      ∃ (written : Module) (linkedWith : Resolution), written.link linkedWith = .ok module) :
    (∀ (limit : Option Nat) (id : ModuleId) (entry : Name) (module : LinkedModule)
        (function : LinkedFunction) (arguments : List Item),
      package.module? id = some module → module.findFunction? entry = some function →
      arguments.length = function.function.params →
      (Machine.new package limit).load id entry arguments = .ok { Machine.new package limit with
        frames := [Frame.enter module function arguments 0],
        statics := [(module.id, Array.replicate module.statics Item.zero)] }) ∧
    (∀ (machine : Machine) (current : Frame) (callers : List Frame) (decoded : Code.Decoded)
        (target : LinkedModule) (function : LinkedFunction) (arguments rest : List Item),
      machine.package = package → machine.frames = current :: callers →
      machine.nextInstruction? = some decoded → machine.unitWithinBudget = true →
      current.module.callee? package decoded = some (target, function) →
      arguments.length = function.function.params → machine.stack.items = arguments.reverse ++ rest →
      machine.frames.length < maxCallDepth →
      machine.step = ({ machine with
        frames := Frame.enter target function arguments rest.length ::
          { current with ip := current.nextIp, nextIp := decoded.next } :: callers,
        stack := { machine.stack with items := rest },
        statics := enterStatics target machine.statics,
        gasUsed := machine.gasUsed + instructionPrice,
        events := machine.events.push
          ⟨current.module.id, current.function.function.name, current.nextIp, decoded.opcode⟩ }, none)) ∧
    (∀ machine, package.Runs machine → ∀ frame ∈ machine.frames,
      ∃! slots, (frame.module.id, slots) ∈ machine.statics ∧ slots.size = frame.module.statics) := by
  have wellLinked := Package.build_wellLinked built produced
  refine ⟨fun limit id entry module function arguments found named counted => ?_,
    fun machine current callers decoded target function arguments rest samePackage framesAre next
      paid calls counted stackIs shallow => ?_,
    fun machine runs => runs.statics_shared wellLinked⟩
  · have fits : arguments.length ≤ Stack.capacity := by
      have bounded := wellLinked.params_le (List.mem_of_find?_eq_some found)
        (List.mem_of_find?_eq_some named)
      simp only [Stack.capacity]
      omega
    exact Machine.load_fresh_enters found named counted fits
  · rw [← samePackage] at calls
    exact Machine.step_enters_callee framesAre next paid calls counted stackIs shallow

/-- A module at `a` whose function `pair` takes two arguments and has one local. -/
def pairModule : Module := ⟨"a", "m", [], [], 1, [⟨"pair", 2, 1, 0, ⟨0⟩, 0, [], []⟩]⟩

/-- A resolution binding `a` to the zero address. -/
def pairResolution : Resolution := ⟨[⟨"a", Address.zero⟩]⟩

/-- The module linked. -/
def pairLinked : LinkedModule :=
  ⟨pairModule, ⟨Address.zero, "m"⟩, [], [], [⟨⟨"pair", 2, 1, 0, ⟨0⟩, 0, [], []⟩, [], []⟩]⟩

/-- Loading `pair` with `7` and `true` gives it the two in order, then a zero, and the module's
one static slot. -/
theorem pair_load_binds_in_order :
    (Machine.new ⟨"p", pairResolution, [pairLinked]⟩ none).load ⟨Address.zero, "m"⟩ "pair"
        [.integer 7, .boolean true] =
      .ok { Machine.new ⟨"p", pairResolution, [pairLinked]⟩ none with
        frames := [⟨pairLinked, ⟨⟨"pair", 2, 1, 0, ⟨0⟩, 0, [], []⟩, [], []⟩, 0, 0,
          #[.integer 7, .boolean true, .zero], 0⟩],
        statics := [(⟨Address.zero, "m"⟩, #[.zero])] } :=
  (calls_bind_parameters_share_statics
    (show Package.build "p" pairResolution [.inr pairLinked] = .ok ⟨"p", pairResolution, [pairLinked]⟩ by
      simp [Package.build, Package.collect, Package.checkImports, pairLinked]
      rfl)
    (fun module member => ⟨pairModule, pairResolution, by
      simp only [List.mem_singleton, Sum.inr.injEq] at member
      subst member
      simp [Module.link, Module.lookupName, Resolution.lookupName, pairModule, pairResolution,
        Module.linkFunctions, Module.verify, Module.verify.maxSlotCount, Code.offsets, Code.walk,
        pairLinked, Function.isTest, Attributes.has, Attributes.test]
      exact ⟨[], rfl, rfl⟩⟩)).1 none ⟨Address.zero, "m"⟩ "pair" pairLinked _ _
    (by simp [Package.module?, pairLinked]) (by simp [LinkedModule.findFunction?, pairLinked]) rfl

end Testbench
