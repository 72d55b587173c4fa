import Testbench.Machine.Basic
/-!
One step of the machine.

A step takes the next instruction of the innermost call. Past the end of the code it is a
return that costs nothing and is not seen by hooks. Otherwise the instruction is decoded, its
price is paid (a price beyond the budget fails the step), hooks see it, and it runs. A failed
step leaves the machine faulted with the stack as the instruction left it.
-/

namespace Testbench

/-- How an instruction stops short: by an abort of the code, or by a fault. -/
inductive Stop where
  | abort (info : Abort)
  | fault (cause : Fault)

/-- Running an instruction: it changes the machine and may stop short. -/
abbrev Exec := ExceptT Stop (StateM Machine)

namespace Exec

/-- Stops with a fault. -/
def fail {α : Type} (cause : Fault) : Exec α := throw (.fault cause)

/-- Takes the top item of the evaluation stack. -/
def pop : Exec Item := do
  let machine ← get
  match machine.stack.pop with
  | .ok (item, stack) =>
    set { machine with stack }
    pure item
  | .error failure => fail (.stack failure)

/-- Puts an item on the evaluation stack. -/
def push (item : Item) : Exec Unit := do
  let machine ← get
  match machine.stack.push item with
  | .ok stack => set { machine with stack }
  | .error failure => fail (.stack failure)

/-- An item below the top, without taking it. -/
def peek (depth : Nat) : Exec Item := do
  match (← get).stack.peek depth with
  | .ok item => pure item
  | .error failure => fail (.stack failure)

/-- Takes an item that must be an integer. -/
def popInteger : Exec Nat := do
  match (← pop).toInteger with
  | .ok value => pure value
  | .error failure => fail (.conversion failure)

/-- Takes an item that must be a boolean. -/
def popBoolean : Exec Bool := do
  match (← pop).toBoolean with
  | .ok value => pure value
  | .error failure => fail (.conversion failure)

/-- Takes an item that must be a byte string. -/
def popBytes : Exec (List UInt8) := do
  match (← pop).toBytes with
  | .ok value => pure value
  | .error failure => fail (.conversion failure)

/-- Pays gas; fails with `failure` when the gas used goes past the budget. The gas is counted
even then. -/
def charge (amount : Nat) (failure : Fault) : Exec Unit := do
  modify fun machine => { machine with gasUsed := machine.gasUsed + amount }
  if !(← get).withinBudget then fail failure

/-- Changes the innermost call. -/
def modifyFrame (change : Frame → Frame) : Exec Unit :=
  modify fun machine =>
    match machine.frames with
    | frame :: rest => { machine with frames := change frame :: rest }
    | [] => machine

/-- The innermost call. -/
def frame : Exec Frame := do
  match (← get).frames with
  | frame :: _ => pure frame
  | [] => pure default

/-- The static slots of a module. -/
def staticsOf (id : ModuleId) : Exec (Array Item) := do
  match (← get).statics.find? (·.1 == id) with
  | some (_, slots) => pure slots
  | none => pure #[]

/-- Replaces the static slots of a module. -/
def setStatics (id : ModuleId) (slots : Array Item) : Exec Unit :=
  modify fun machine =>
    { machine with statics := machine.statics.map fun entry =>
        if entry.1 == id then (id, slots) else entry }

/-- Takes `count` arguments from the stack into the first slots, the last argument from the top. -/
def takeArguments (slots : Array Item) : Nat → Exec (Array Item)
  | 0 => pure slots
  | count + 1 => do
    let item ← pop
    takeArguments (slots.set! count item) count

/-- Enters a function: creates its module's statics on first entry, takes its arguments and
pushes its frame. -/
def call (module : LinkedModule) (function : LinkedFunction) : Exec Unit := do
  let machine ← get
  if machine.frames.length ≥ maxCallDepth then fail .callDepth
  if !(machine.statics.any (·.1 == module.id)) then
    set { machine with statics := machine.statics ++ [(module.id, Array.replicate module.statics Item.zero)] }
  let fresh := Array.replicate (function.function.params + function.function.locals) Item.zero
  let locals ← takeArguments fresh function.function.params
  modify fun machine =>
    { machine with frames := ⟨module, function, 0, 0, locals, machine.stack.size⟩ :: machine.frames }

/-- Takes an abort code from the stack and makes the abort. -/
def abortWith (assertion : Bool) : Exec Abort := do
  let location := (← frame).location
  let code ← popInteger
  if code ≥ Nat.pow 2 64 then fail (.arithmetic (.wideAbortCode code))
  pure ⟨code, assertion, location⟩

/-- The largest integer item. -/
def maxInteger : Nat := Nat.pow 2 256 - 1

/-- Runs a service. -/
def service (id : Nat) : Exec Unit := do
  match Service.ofId? id with
  | none => fail (.service id .notFound)
  | some which =>
    charge which.price (.service id .gasLimit)
    match which with
    | .gasLeft =>
      let machine ← get
      match machine.gasLimit with
      | none => push (.integer maxInteger)
      -- the budget less the counter, in 64-bit words, read as an unsigned word
      | some limit => push (.integer (Int64.ofNat limit - Int64.ofNat machine.gasUsed).toUInt64.toNat)
    | .log =>
      let message ← popBytes
      let current ← frame
      let entry : LogEntry := ⟨current.module.id, current.function.function.name, message⟩
      modify fun machine => { machine with logs := machine.logs.push entry }

/-- Reads a slot. -/
def readSlot (slots : Array Item) (index : Nat) : Exec Item :=
  match slots[index]? with
  | some item => pure item
  | none => fail (.slotIndex index slots.size)

/-- Checks that a slot exists. -/
def checkSlot (slots : Array Item) (index : Nat) : Exec Unit :=
  if index < slots.size then pure () else fail (.slotIndex index slots.size)

/-- Ends the innermost call, which must leave exactly its declared number of values. -/
def ret : Exec Unit := do
  let current ← frame
  let machine ← get
  let found : Int := (machine.stack.size : Int) - current.base
  if found != current.function.function.returns then
    fail (.returnCount current.function.function.returns found)
  let rest := machine.frames.drop 1
  set { machine with frames := rest, status := if rest.isEmpty then .halt else machine.status }

/-- An integer as the machine computes with it: an unsigned 256-bit word, on which addition,
subtraction and multiplication wrap. -/
def word (value : Nat) : BitVec 256 := BitVec.ofNat 256 value

/-- The result of unsigned 256-bit arithmetic. The words wrap, so an overflow is told from the
wrapped result: a sum below its first operand, or a product that divided by a nonzero first
operand does not give back the second. -/
def arithmetic (opcode : Opcode) (left right : Nat) : Except ArithmeticError Nat :=
  let a := word left
  let b := word right
  match opcode with
  | .add =>
    let sum := a + b
    if sum < a then .error .overflow else .ok sum.toNat
  | .sub => if a < b then .error .underflow else .ok (a - b).toNat
  | .mul =>
    let product := a * b
    if a ≠ 0 ∧ product / a ≠ b then .error .overflow else .ok product.toNat
  | .div => if b = 0 then .error .divisionByZero else .ok (a / b).toNat
  | .mod => if b = 0 then .error .divisionByZero else .ok (a % b).toNat
  | _ => .ok 0

/-- The order of two integers as an opcode asks it, on their words; less-or-equal is the
negation of greater-than, and greater-or-equal the negation of less-than. -/
def comparison (opcode : Opcode) (left right : Nat) : Bool :=
  let a := word left
  let b := word right
  match opcode with
  | .lt => decide (a < b)
  | .le => !decide (b < a)
  | .gt => decide (b < a)
  | _ => !decide (a < b)

/-- Runs a decoded instruction of the innermost call. -/
def perform (decoded : Code.Decoded) : Exec Unit := do
  let current ← frame
  let argument := decoded.argument
  match decoded.opcode with
  | .pushInt8 | .pushInt16 | .pushInt32 | .pushInt64 | .pushInt128 | .pushInt256 =>
    -- the operand is least significant byte first: reversed, it is read most significant first
    push (.integer (Word.ofBigEndian decoded.operand.reverse))
  | .push0 | .push1 | .push2 | .push3 | .push4 | .push5 | .push6 | .push7 | .push8 | .push9
  | .push10 | .push11 | .push12 | .push13 | .push14 | .push15 | .push16 =>
    push (.integer (decoded.opcode.byte.toNat - Opcode.push0.byte.toNat))
  | .pushTrue => push (.boolean true)
  | .pushFalse => push (.boolean false)
  | .pushAddress =>
    match current.module.addresses[argument]? with
    | some address => push (.bytes address.bytes)
    | none => fail .addressIndex
  | .pushData1 => push (.bytes decoded.operand)
  | .nop => pure ()
  | .jump => modifyFrame fun frame => { frame with nextIp := argument }
  | .jumpIf | .jumpIfNot =>
    let value ← popBoolean
    if value == (decoded.opcode == .jumpIf) then
      modifyFrame fun frame => { frame with nextIp := argument }
  | .call =>
    match current.module.functions[argument]? with
    | some function => call current.module function
    | none => fail .functionIndex
  | .callImport =>
    match current.module.resolvedImports[argument]? with
    | none => fail .importIndex
    | some entry =>
      match (← get).package.module? entry.module with
      | none => fail (.missingModule entry.module)
      | some target =>
        match target.findFunction? entry.function with
        | none => fail (.missingFunction entry.module entry.function)
        | some function => call target function
  | .abort => throw (.abort (← abortWith false))
  | .assert =>
    let info ← abortWith true
    if !(← popBoolean) then throw (.abort info)
  | .ret => ret
  | .syscall => service argument
  | .drop => discard pop
  | .dup => push (← peek 0)
  | .over => push (← peek 1)
  | .swap =>
    let machine ← get
    match machine.stack.swap 0 with
    | .ok stack => set { machine with stack }
    | .error failure => fail (.stack failure)
  | .loadStatic => push (← readSlot (← staticsOf current.module.id) argument)
  | .storeStatic =>
    let item ← pop
    let slots ← staticsOf current.module.id
    checkSlot slots argument
    setStatics current.module.id (slots.set! argument item)
  | .loadLocal => push (← readSlot current.locals argument)
  | .storeLocal =>
    let item ← pop
    checkSlot current.locals argument
    modifyFrame fun frame => { frame with locals := frame.locals.set! argument item }
  | .equal | .notEqual =>
    let right ← pop
    let left ← pop
    push (.boolean ((left == right) == (decoded.opcode == .equal)))
  | .not => push (.boolean !(← popBoolean))
  | .boolAnd | .boolOr =>
    let right ← popBoolean
    let left ← popBoolean
    push (.boolean (if decoded.opcode == .boolAnd then left && right else left || right))
  | .inc =>
    -- the successor wraps to zero exactly past the largest word
    let next := word (← popInteger) + 1
    if next = 0 then fail (.arithmetic .overflow)
    push (.integer next.toNat)
  | .dec =>
    let value := word (← popInteger)
    if value = 0 then fail (.arithmetic .underflow)
    push (.integer (value - 1).toNat)
  | .add | .sub | .mul | .div | .mod =>
    let right ← popInteger
    let left ← popInteger
    match arithmetic decoded.opcode left right with
    | .ok result => push (.integer result)
    | .error failure => fail (.arithmetic failure)
  | .lt | .le | .gt | .ge =>
    let right ← popInteger
    let left ← popInteger
    push (.boolean (comparison decoded.opcode left right))

/-- An instruction of the innermost call `current`, which stands at its `ip`: paid for and shown
to the hooks unless it is the free return past the end of the code, then performed. -/
def instruction (current : Frame) (decoded : Code.Decoded) : Exec Unit := do
  if current.ip < current.code.length then
    charge instructionPrice .gasLimit
    let event : Event := ⟨current.module.id, current.function.function.name, current.ip, decoded.opcode⟩
    modify fun machine => { machine with events := machine.events.push event }
  perform decoded

end Exec

namespace Machine

/-- Runs an instruction of the innermost call; a failed instruction leaves the machine faulted. -/
def execute (machine : Machine) (decoded : Code.Decoded) : Machine × Option MachineError :=
  match machine.frames with
  | [] => (machine, some .noProgram)
  | current :: _ =>
    match (ExceptT.run (Exec.instruction current decoded)).run machine with
    | (.ok (), next) => (next, none)
    | (.error (.abort info), next) => ({ next with status := .fault }, some (.abort info))
    | (.error (.fault cause), next) =>
      ({ next with status := .fault }, some (.fault current.location decoded.opcode.byte cause))

/-- The return that ends a call whose code has run out. -/
def implicitReturn (next : Nat) : Code.Decoded := ⟨.ret, [], next⟩

/-- One step: decodes and runs the next instruction of the innermost call. -/
def step (machine : Machine) : Machine × Option MachineError :=
  match machine.frames with
  | [] => (machine, some .noProgram)
  | current :: rest =>
    let ip := current.nextIp
    if current.code.length ≤ ip then
      execute { machine with frames := { current with ip } :: rest } (implicitReturn ip)
    else
      match Code.decode current.code ip with
      | .error failure =>
        let moved := { current with ip }
        ({ machine with frames := moved :: rest, status := .fault },
          some (.fault moved.location failure.opcodeByte (.decode failure)))
      | .ok decoded =>
        execute { machine with frames := { current with ip, nextIp := decoded.next } :: rest } decoded

end Machine

end Testbench
