import Testbench.Machine.Run

/-!
Reasoning about the parts an instruction is made of: a triple says what the outcome of a part and
the machine it leaves satisfy for every machine a precondition admits.
-/

namespace Testbench

/-- The stops of a part that works on the evaluation stack alone: an abort, or a fault of the
stack, of an item's kind or of arithmetic. -/
def Stop.IsLocal : Stop → Prop
  | .abort _ => True
  | .fault (.stack _) | .fault (.conversion _) | .fault (.arithmetic _) => True
  | .fault _ => False

/-- The opcodes that reach past the evaluation stack: address references, jumps, calls,
returns, services and slots. -/
def Opcode.reachesFrame : Opcode → Bool
  | .pushAddress | .jump | .jumpIf | .jumpIfNot | .call | .callImport | .ret | .syscall
  | .loadStatic | .storeStatic | .loadLocal | .storeLocal => true
  | _ => false

namespace Exec

variable {α β : Type}

def outcome (part : Exec α) (machine : Machine) : Except Stop α × Machine :=
  (ExceptT.run part).run machine

theorem outcome_bind (first : Exec α) (next : α → Exec β) (machine : Machine) :
    outcome (first >>= next) machine = match outcome first machine with
      | (.ok value, after) => outcome (next value) after
      | (.error stop, after) => (.error stop, after) := by
  simp only [outcome, ExceptT.run_bind, StateT.run_bind]
  generalize (ExceptT.run first).run machine = firstOutcome
  obtain ⟨result, after⟩ := firstOutcome
  cases result <;> rfl

theorem outcome_bind_of_ok {first : Exec α} {next : α → Exec β} {machine after : Machine} {value : α}
    (firstOk : outcome first machine = (.ok value, after)) :
    outcome (first >>= next) machine = outcome (next value) after := by
  rw [outcome_bind, firstOk]

@[simp] theorem outcome_pure (value : α) (machine : Machine) :
    outcome (pure value : Exec α) machine = (.ok value, machine) := rfl

@[simp] theorem outcome_get (machine : Machine) : outcome (get : Exec Machine) machine = (.ok machine, machine) := rfl

@[simp] theorem outcome_set (machine next : Machine) :
    outcome (set next : Exec PUnit) machine = (.ok ⟨⟩, next) := rfl

@[simp] theorem outcome_modify (change : Machine → Machine) (machine : Machine) :
    outcome (modify change : Exec PUnit) machine = (.ok ⟨⟩, change machine) := rfl

@[simp] theorem outcome_throw (stop : Stop) (machine : Machine) :
    outcome (throw stop : Exec α) machine = (.error stop, machine) := rfl

@[simp] theorem outcome_fail (cause : Fault) (machine : Machine) :
    outcome (fail cause : Exec α) machine = (.error (.fault cause), machine) := rfl

def Triple (pre : Machine → Prop) (part : Exec α) (post : α → Machine → Prop)
    (stops : Stop → Machine → Prop) : Prop :=
  ∀ machine, pre machine → match outcome part machine with
    | (.ok value, after) => post value after
    | (.error stop, after) => stops stop after

theorem Triple.bind {pre : Machine → Prop} {first : Exec α} {middle : α → Machine → Prop}
    {next : α → Exec β} {post : β → Machine → Prop} {stops : Stop → Machine → Prop}
    (firstTriple : Triple pre first middle stops)
    (nextTriple : ∀ value, Triple (middle value) (next value) post stops) :
    Triple pre (first >>= next) post stops := by
  intro machine holds
  have firstHolds := firstTriple machine holds
  rw [outcome_bind]
  rcases firstOutcome : outcome first machine with ⟨result, after⟩
  rw [firstOutcome] at firstHolds
  cases result with
  | ok value => exact nextTriple value after firstHolds
  | error stop => exact firstHolds

theorem Triple.mono {pre pre' : Machine → Prop} {part : Exec α} {post post' : α → Machine → Prop}
    {stops stops' : Stop → Machine → Prop} (triple : Triple pre part post stops)
    (strengthen : ∀ machine, pre' machine → pre machine)
    (weakenPost : ∀ value machine, post value machine → post' value machine)
    (weakenStops : ∀ stop machine, stops stop machine → stops' stop machine) :
    Triple pre' part post' stops' := by
  intro machine holds
  have result := triple machine (strengthen machine holds)
  rcases partOutcome : outcome part machine with ⟨outcomeResult, after⟩
  rw [partOutcome] at result
  cases outcomeResult with
  | ok value => exact weakenPost value after result
  | error stop => exact weakenStops stop after result

theorem Triple.done {pre : Machine → Prop} {post : α → Machine → Prop}
    {stops : Stop → Machine → Prop} (value : α) (holds : ∀ machine, pre machine → post value machine) :
    Triple pre (pure value) post stops :=
  holds

theorem Triple.get_bind {pre : Machine → Prop} {next : Machine → Exec α}
    {post : α → Machine → Prop} {stops : Stop → Machine → Prop}
    (nextTriple : ∀ machine, pre machine → Triple pre (next machine) post stops) :
    Triple pre (get >>= next) post stops := by
  intro machine held
  rw [outcome_bind_of_ok (outcome_get machine)]
  exact nextTriple machine held machine held

/-- A part that works on the evaluation stack alone: it leaves the rest of the machine as it
was, and it stops only by an abort or by a fault of the stack, of an item's kind or of
arithmetic. -/
def OnStack (part : Exec α) : Prop :=
  ∀ machine, ∃ stack, (outcome part machine).2 = { machine with stack } ∧
    ∀ stop, (outcome part machine).1 = .error stop → stop.IsLocal

theorem OnStack.bind {first : Exec α} {next : α → Exec β} (firstOn : OnStack first)
    (nextOn : ∀ value, OnStack (next value)) : OnStack (first >>= next) := by
  intro machine
  obtain ⟨stack, firstAfter, firstStops⟩ := firstOn machine
  rw [outcome_bind]
  rcases firstOutcome : outcome first machine with ⟨result, after⟩
  rw [firstOutcome] at firstAfter firstStops
  dsimp only at firstAfter
  subst firstAfter
  cases result with
  | ok value =>
      obtain ⟨nextStack, nextAfter, nextStops⟩ := nextOn value { machine with stack }
      exact ⟨nextStack, nextAfter, nextStops⟩
  | error stop =>
      refine ⟨stack, rfl, fun stopped same => ?_⟩
      cases same
      exact firstStops stop rfl

theorem OnStack.pure (value : α) : OnStack (pure value : Exec α) :=
  fun machine => ⟨machine.stack, rfl, fun stop stopped => by cases stopped⟩

theorem OnStack.abort (info : Abort) : OnStack (throw (.abort info) : Exec α) :=
  fun machine => ⟨machine.stack, rfl, fun stop stopped => by cases stopped; trivial⟩

theorem OnStack.fail {cause : Fault} (isLocal : (Stop.fault cause).IsLocal) :
    OnStack (fail cause : Exec α) :=
  fun machine => ⟨machine.stack, rfl, fun stop stopped => by cases stopped; exact isLocal⟩

theorem pop_onStack : OnStack pop := by
  intro machine
  simp only [pop, outcome_bind, outcome_get]
  split
  · exact ⟨_, rfl, fun stop stopped => by cases stopped⟩
  · exact ⟨machine.stack, rfl, fun stop stopped => by cases stopped; trivial⟩

theorem push_onStack (item : Item) : OnStack (push item) := by
  intro machine
  simp only [push, outcome_bind, outcome_get]
  split
  · exact ⟨_, rfl, fun stop stopped => by cases stopped⟩
  · exact ⟨machine.stack, rfl, fun stop stopped => by cases stopped; trivial⟩

theorem peek_onStack (depth : Nat) : OnStack (peek depth) := by
  intro machine
  simp only [peek, outcome_bind, outcome_get]
  split
  · exact ⟨machine.stack, rfl, fun stop stopped => by cases stopped⟩
  · exact ⟨machine.stack, rfl, fun stop stopped => by cases stopped; trivial⟩

theorem popInteger_onStack : OnStack popInteger := by
  refine OnStack.bind pop_onStack fun item => ?_
  split
  · exact OnStack.pure _
  · exact OnStack.fail trivial

theorem popBoolean_onStack : OnStack popBoolean := by
  refine OnStack.bind pop_onStack fun item => ?_
  split
  · exact OnStack.pure _
  · exact OnStack.fail trivial

theorem popBytes_onStack : OnStack popBytes := by
  refine OnStack.bind pop_onStack fun item => ?_
  split
  · exact OnStack.pure _
  · exact OnStack.fail trivial

theorem frame_onStack : OnStack frame := by
  intro machine
  simp only [frame, outcome_bind, outcome_get]
  split <;> exact ⟨machine.stack, rfl, fun stop stopped => by cases stopped⟩

theorem abortWith_onStack (assertion : Bool) : OnStack (abortWith assertion) := by
  refine OnStack.bind frame_onStack fun current => OnStack.bind popInteger_onStack fun code => ?_
  split
  · exact OnStack.bind (OnStack.fail trivial) fun _ => OnStack.pure _
  · exact OnStack.pure _


theorem perform_onStack {decoded : Code.Decoded} (plain : decoded.opcode.reachesFrame = false) :
    OnStack (perform decoded) := by
  unfold perform
  refine OnStack.bind frame_onStack fun current => ?_
  cases opcodeIs : decoded.opcode <;> simp only [opcodeIs, Opcode.reachesFrame, Bool.true_eq_false] at plain
  case pushInt8 | pushInt16 | pushInt32 | pushInt64 | pushInt128 | pushInt256 | push0 | push1 | push2
      | push3 | push4 | push5 | push6 | push7 | push8 | push9 | push10 | push11 | push12 | push13
      | push14 | push15 | push16 | pushTrue | pushFalse | pushData1 =>
    exact push_onStack _
  case nop => exact OnStack.pure _
  case abort => exact OnStack.bind (abortWith_onStack false) fun info => OnStack.abort info
  case assert =>
    refine OnStack.bind (abortWith_onStack true) fun info => OnStack.bind popBoolean_onStack fun held => ?_
    split
    · exact OnStack.abort info
    · exact OnStack.pure _
  case drop => exact OnStack.bind pop_onStack fun _ => OnStack.pure _
  case dup => exact OnStack.bind (peek_onStack 0) fun item => push_onStack item
  case «over» => exact OnStack.bind (peek_onStack 1) fun item => push_onStack item
  case swap =>
    intro machine
    simp only [outcome_bind, outcome_get]
    split
    · exact ⟨_, rfl, fun stop stopped => by cases stopped⟩
    · exact ⟨machine.stack, rfl, fun stop stopped => by cases stopped; trivial⟩
  case equal | notEqual =>
    exact OnStack.bind pop_onStack fun _ => OnStack.bind pop_onStack fun _ => push_onStack _
  case not => exact OnStack.bind popBoolean_onStack fun _ => push_onStack _
  case boolAnd | boolOr =>
    exact OnStack.bind popBoolean_onStack fun _ => OnStack.bind popBoolean_onStack fun _ =>
      push_onStack _
  case inc | dec =>
    refine OnStack.bind popInteger_onStack fun value => ?_
    dsimp only
    split
    · exact OnStack.bind (OnStack.fail trivial) fun _ => push_onStack _
    · exact push_onStack _
  case add | sub | mul | div | mod =>
    refine OnStack.bind popInteger_onStack fun right => OnStack.bind popInteger_onStack fun left => ?_
    split
    · exact push_onStack _
    · exact OnStack.fail trivial
  case lt | le | gt | ge =>
    exact OnStack.bind popInteger_onStack fun _ => OnStack.bind popInteger_onStack fun _ =>
      push_onStack _

theorem OnStack.triple {part : Exec α} (onStack : OnStack part) {holds : Machine → Prop}
    (stackFree : ∀ machine stack, holds machine → holds { machine with stack }) :
    Triple holds part (fun _ => holds) (fun stop machine => holds machine ∧ stop.IsLocal) := by
  intro machine held
  obtain ⟨stack, after, stops⟩ := onStack machine
  rcases partOutcome : outcome part machine with ⟨result, next⟩
  rw [partOutcome] at after stops
  dsimp only at after
  subst after
  cases result with
  | ok value => exact stackFree machine stack held
  | error stop => exact ⟨stackFree machine stack held, stops stop rfl⟩

theorem outcome_frame {machine : Machine} {current : Frame} {rest : List Frame}
    (framesAre : machine.frames = current :: rest) : outcome frame machine = (.ok current, machine) := by
  simp only [frame, outcome_bind, outcome_get, framesAre]
  rfl

theorem outcome_modifyFrame {machine : Machine} {current : Frame} {rest : List Frame}
    (framesAre : machine.frames = current :: rest) (change : Frame → Frame) :
    outcome (modifyFrame change) machine = (.ok (), { machine with frames := change current :: rest }) := by
  simp only [modifyFrame, outcome_modify, framesAre]

theorem outcome_staticsOf {machine : Machine} {id : ModuleId} {entry : ModuleId × Array Item}
    (found : machine.statics.find? (·.1 == id) = some entry) :
    outcome (staticsOf id) machine = (.ok entry.2, machine) := by
  simp only [staticsOf, outcome_bind, outcome_get, found]
  rfl

theorem outcome_setStatics (machine : Machine) (id : ModuleId) (slots : Array Item) :
    outcome (setStatics id slots) machine = (.ok (), { machine with
      statics := machine.statics.map fun entry => if entry.1 == id then (id, slots) else entry }) :=
  rfl

theorem outcome_readSlot {slots : Array Item} {index : Nat} (inside : index < slots.size)
    (machine : Machine) : outcome (readSlot slots index) machine = (.ok slots[index], machine) := by
  simp [readSlot, inside]

theorem outcome_checkSlot {slots : Array Item} {index : Nat} (inside : index < slots.size)
    (machine : Machine) : outcome (checkSlot slots index) machine = (.ok (), machine) := by
  simp [checkSlot, inside]

theorem outcome_charge (amount : Nat) (failure : Fault) (machine : Machine) :
    outcome (charge amount failure) machine =
      if { machine with gasUsed := machine.gasUsed + amount }.withinBudget then
        (.ok (), { machine with gasUsed := machine.gasUsed + amount })
      else (.error (.fault failure), { machine with gasUsed := machine.gasUsed + amount }) := by
  simp only [charge, outcome_bind, outcome_modify, outcome_get]
  split <;> simp_all

theorem takeArguments_spec (slots : Array Item) (count : Nat) (machine : Machine) :
    ∃ stack, (outcome (takeArguments slots count) machine).2 = { machine with stack } ∧
      (∀ stop, (outcome (takeArguments slots count) machine).1 = .error stop → stop.IsLocal) ∧
      ∀ locals, (outcome (takeArguments slots count) machine).1 = .ok locals →
        locals.size = slots.size := by
  induction count generalizing slots machine with
  | zero =>
      refine ⟨machine.stack, rfl, fun stop stopped => (by cases stopped), ?_⟩
      intro locals taken
      cases taken
      rfl
  | succ count ih =>
      simp only [takeArguments, outcome_bind]
      obtain ⟨popped, poppedAfter, poppedStops⟩ := pop_onStack machine
      rcases popOutcome : outcome pop machine with ⟨result, afterPop⟩
      rw [popOutcome] at poppedAfter poppedStops
      dsimp only at poppedAfter
      subst poppedAfter
      cases result with
      | ok item =>
          obtain ⟨stack, after, stops, sized⟩ := ih (slots.set! count item) { machine with stack := popped }
          refine ⟨stack, after, stops, fun locals taken => ?_⟩
          rw [sized locals taken]
          simp
      | error stop =>
          refine ⟨popped, rfl, fun stopped same => ?_, fun locals taken => (by cases taken)⟩
          cases same
          exact poppedStops stop rfl

/-- The machine once a call has entered a module: the module gets its static slots, all zero,
the first time. -/
def entered (module : LinkedModule) (machine : Machine) : Machine :=
  if machine.statics.any (·.1 == module.id) then machine
  else { machine with statics := machine.statics ++ [(module.id, Array.replicate module.statics Item.zero)] }

@[simp] theorem entered_package (module : LinkedModule) (machine : Machine) :
    (entered module machine).package = machine.package := by
  unfold entered
  split <;> rfl

@[simp] theorem entered_frames (module : LinkedModule) (machine : Machine) :
    (entered module machine).frames = machine.frames := by
  unfold entered
  split <;> rfl

theorem takeArguments_enter (module : LinkedModule) (function : LinkedFunction) (machine : Machine) :
    ∃ stack : Stack,
      (∃ locals : Array Item,
        locals.size = function.function.params + function.function.locals ∧
        outcome (do
          let locals ← takeArguments
            (Array.replicate (function.function.params + function.function.locals) Item.zero)
            function.function.params
          modify fun machine : Machine =>
            { machine with frames := ⟨module, function, 0, 0, locals, machine.stack.size⟩ :: machine.frames })
          machine = (.ok (), { machine with
            stack, frames := ⟨module, function, 0, 0, locals, stack.size⟩ :: machine.frames })) ∨
      (∃ stop, stop.IsLocal ∧
        outcome (do
          let locals ← takeArguments
            (Array.replicate (function.function.params + function.function.locals) Item.zero)
            function.function.params
          modify fun machine : Machine =>
            { machine with frames := ⟨module, function, 0, 0, locals, machine.stack.size⟩ :: machine.frames })
          machine = (.error stop, { machine with stack })) := by
  obtain ⟨stack, after, stops, sized⟩ := takeArguments_spec
    (Array.replicate (function.function.params + function.function.locals) Item.zero)
    function.function.params machine
  rw [outcome_bind]
  rcases taken : outcome (takeArguments _ _) machine with ⟨result, next⟩
  rw [taken] at after stops sized
  dsimp only at after
  subst after
  refine ⟨stack, ?_⟩
  cases result with
  | ok locals =>
      left
      refine ⟨locals, by simpa using sized locals rfl, ?_⟩
      simp only [outcome_modify]
  | error stop =>
      right
      exact ⟨stop, stops stop rfl, rfl⟩

theorem call_spec (module : LinkedModule) (function : LinkedFunction) (machine : Machine) :
    (maxCallDepth ≤ machine.frames.length ∧
      outcome (call module function) machine = (.error (.fault .callDepth), machine)) ∨
    (machine.frames.length < maxCallDepth ∧ ∃ stack : Stack,
      (∃ locals : Array Item,
        locals.size = function.function.params + function.function.locals ∧
        outcome (call module function) machine = (.ok (), { entered module machine with
          stack, frames := ⟨module, function, 0, 0, locals, stack.size⟩ :: machine.frames })) ∨
      (∃ stop, stop.IsLocal ∧
        outcome (call module function) machine = (.error stop, { entered module machine with stack }))) := by
  unfold call
  rw [outcome_bind, outcome_get]
  dsimp only
  split
  · rename_i tooDeep
    left
    refine ⟨by simpa using tooDeep, ?_⟩
    simp [outcome_bind]
  · rename_i shallow
    right
    refine ⟨by simpa using shallow, ?_⟩
    by_cases present : machine.statics.any (·.1 == module.id) = true
    · have same : entered module machine = machine := by simp [entered, present]
      simp only [present, Bool.not_true, Bool.false_eq_true, if_false]
      rw [same]
      exact takeArguments_enter module function machine
    · simp only [Bool.not_eq_true] at present
      simp only [present, Bool.not_false, if_true]
      rw [outcome_bind, outcome_set]
      have added : entered module machine = { machine with statics :=
          machine.statics ++ [(module.id, Array.replicate module.statics Item.zero)] } := by
        simp [entered, present]
      rw [added]
      exact takeArguments_enter module function _

theorem ret_spec {machine : Machine} {current : Frame} {rest : List Frame}
    (framesAre : machine.frames = current :: rest) :
    ((machine.stack.size : Int) - current.base ≠ current.function.function.returns ∧
      outcome ret machine = (.error (.fault (.returnCount current.function.function.returns
        ((machine.stack.size : Int) - current.base))), machine)) ∨
    ((machine.stack.size : Int) - current.base = current.function.function.returns ∧
      outcome ret machine = (.ok (), { machine with
        frames := rest, status := if rest.isEmpty then .halt else machine.status })) := by
  unfold ret
  rw [outcome_bind, outcome_frame framesAre]
  dsimp only
  rw [outcome_bind, outcome_get]
  dsimp only
  split
  · rename_i mismatch
    left
    refine ⟨by simpa using mismatch, ?_⟩
    simp [outcome_bind]
  · rename_i matching
    right
    refine ⟨by simpa using matching, ?_⟩
    simp [framesAre]

/-- The machine once a service has been paid for. -/
def charged (service : Service) (machine : Machine) : Machine :=
  { machine with gasUsed := machine.gasUsed + service.price }

theorem service_spec (id : Nat) (machine : Machine) :
    (Service.ofId? id = none ∧
      outcome (service id) machine = (.error (.fault (.service id .notFound)), machine)) ∨
    (∃ which, Service.ofId? id = some which ∧
      (((charged which machine).withinBudget = false ∧
        outcome (service id) machine = (.error (.fault (.service id .gasLimit)), charged which machine)) ∨
      ((charged which machine).withinBudget = true ∧
        ((which = .gasLeft ∧ outcome (service id) machine = outcome (push (.integer
            (match machine.gasLimit with
              | none => maxInteger
              | some limit => (Int64.ofNat limit - Int64.ofNat (charged which machine).gasUsed).toUInt64.toNat)))
            (charged which machine)) ∨
          (which = .log ∧ ∃ stack logs,
            (outcome (service id) machine).2 = { charged which machine with stack, logs } ∧
            ∀ stop, (outcome (service id) machine).1 = .error stop → stop.IsLocal))))) := by
  unfold service
  split
  · rename_i missing
    exact Or.inl ⟨missing, rfl⟩
  · rename_i which found
    right
    refine ⟨which, found, ?_⟩
    have chargeOutcome : outcome (charge which.price (.service id .gasLimit)) machine =
        if (charged which machine).withinBudget then (.ok (), charged which machine)
        else (.error (.fault (.service id .gasLimit)), charged which machine) :=
      outcome_charge _ _ machine
    rw [outcome_bind, chargeOutcome]
    by_cases within : (charged which machine).withinBudget = true
    · right
      refine ⟨within, ?_⟩
      simp only [within, if_true]
      cases which with
      | gasLeft =>
          left
          refine ⟨rfl, ?_⟩
          simp only [outcome_bind, outcome_get]
          have sameLimit : (charged .gasLeft machine).gasLimit = machine.gasLimit := rfl
          split
          all_goals
            rename_i limitIs
            rw [sameLimit] at limitIs
            simp [charged, limitIs]
      | log =>
          right
          refine ⟨rfl, ?_⟩
          rw [outcome_bind]
          obtain ⟨stack, popped, poppedStops⟩ := popBytes_onStack (charged .log machine)
          rcases poppedOutcome : outcome popBytes (charged .log machine) with ⟨result, afterPop⟩
          rw [poppedOutcome] at popped poppedStops
          dsimp only at popped
          subst popped
          cases result with
          | ok message =>
              obtain ⟨current, framed⟩ : ∃ current,
                  outcome frame { charged .log machine with stack } =
                    (.ok current, { charged .log machine with stack }) := by
                simp only [frame, outcome_bind, outcome_get]
                split <;> exact ⟨_, rfl⟩
              dsimp only
              rw [outcome_bind, framed]
              exact ⟨stack, _, rfl, fun stop stopped => by cases stopped⟩
          | error stop =>
              refine ⟨stack, (charged .log machine).logs, rfl, fun stopped same => ?_⟩
              cases same
              exact poppedStops stop rfl
    · left
      simp only [Bool.not_eq_true] at within
      refine ⟨within, ?_⟩
      simp only [within, if_false, Bool.false_eq_true]

end Exec

theorem Machine.execute_eq {machine : Machine} {current : Frame} {rest : List Frame}
    {decoded : Code.Decoded} (framesAre : machine.frames = current :: rest) :
    machine.execute decoded = match Exec.outcome (Exec.instruction current decoded) machine with
      | (.ok (), next) => (next, none)
      | (.error (.abort info), next) => ({ next with status := .fault }, some (.abort info))
      | (.error (.fault cause), next) =>
        ({ next with status := .fault }, some (.fault current.location decoded.opcode.byte cause)) := by
  unfold Machine.execute
  rw [framesAre]
  rfl

theorem Machine.pushAll_stack : ∀ {machine : Machine} {items : List Item} {pushed : Machine},
    machine.pushAll items = .ok pushed → ∃ stack, pushed = { machine with stack }
  | machine, [], pushed, done => by
      rw [Machine.pushAll] at done
      cases done
      exact ⟨machine.stack, rfl⟩
  | machine, item :: rest, pushed, done => by
      rw [Machine.pushAll] at done
      split at done
      · obtain ⟨stack, rfl⟩ := Machine.pushAll_stack done
        exact ⟨stack, rfl⟩
      · cases done

end Testbench
