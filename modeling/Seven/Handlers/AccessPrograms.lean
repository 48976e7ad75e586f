import Seven.Lib.Failure
import Seven.Lib.Requests
import Seven.Handlers.DataAccess

/-!
# Handlers as programs

A program is given its context without the memory, and can only ask for
loads and stores. `toHandler` carries it out, `accesses` lists the loads and
stores of a run.

The stack instructions and the read-modify-write instructions again, as
programs: the same helpers in the same order, where a helper that takes an
address now takes the form of one. What each computes is its handler,
name by name (`StackShape.toHandler_program`, `RmwCode.toHandler_program`).
-/

namespace Seven

open Seven.Lib

/-! ## Programs -/

/-- A context as a handler sees it that does not touch the memory. -/
def ExecutionContext.withoutMemory (ctx : ExecutionContext) : ExecutionContext :=
  { ctx with memory := {} }

/-- The memory is not the state's. -/
@[simp] theorem ExecutionContext.withoutMemory_state (ctx : ExecutionContext) :
    ctx.withoutMemory.state = ctx.state := rfl

/-- Nor the instruction's. -/
@[simp] theorem ExecutionContext.withoutMemory_instr (ctx : ExecutionContext) :
    ctx.withoutMemory.instr = ctx.instr := rfl

/-- Nor the next address's. -/
@[simp] theorem ExecutionContext.withoutMemory_nextRip (ctx : ExecutionContext) :
    ctx.withoutMemory.nextRip = ctx.nextRip := rfl

/-- What a program may ask for. -/
inductive DataOp where
  | look
  | change (f : ExecutionContext → ExecutionContext)
  | raise (r : ExecutionResult)
  | load (form : AddressForm) (size : Nat)
  | store (form : AddressForm) (bytes : List Byte)
  /-- `has_permissions`, which transfers nothing. -/
  | probe (address : U64) (size : Nat) (required : MemoryPermissionMask)

namespace DataOp

/-- What the operation answers with. -/
def Answer : DataOp → Type
  | .look => ExecutionContext
  | .change _ => Unit
  | .raise _ => Empty
  | .load _ _ => Option (List Byte)
  | .store _ _ => Bool
  | .probe _ _ _ => Bool

/-- The operation on a context: the look hides the memory, so that a program sees it through its
loads only. -/
def serve : (op : DataOp) → HandlerM op.Answer
  | .look => fun ctx => .ok ctx.withoutMemory ctx
  | .change f => fun ctx => .ok () { f ctx.withoutMemory with memory := ctx.memory }
  | .raise r => fun ctx => .error r ctx
  | .load form size => fun ctx =>
    .ok (ctx.memory.read (form.address ctx.state ctx.instr) size .dataRead) ctx
  | .store form bytes => fun ctx =>
    let r := ctx.memory.write (form.address ctx.state ctx.instr) bytes .dataWrite
    .ok r.2 { ctx with memory := r.1 }
  | .probe address size required => fun ctx =>
    .ok (ctx.memory.hasPermissions address size required) ctx

/-- The access a request makes in a context. -/
def access (ctx : ExecutionContext) : DataOp → Option DataAccess
  | .load form size => some ⟨ctx.state, ctx.instr, form, size⟩
  | .store form bytes => some ⟨ctx.state, ctx.instr, form, bytes.length⟩
  | _ => none

end DataOp

/-- A program of data operations. -/
abbrev AccessM := Requests DataOp DataOp.Answer

namespace AccessM

variable {α β : Type}

/-- The handler a program is. -/
def toHandler (p : AccessM α) : HandlerM α := p.run DataOp.serve

/-- The loads and stores of its run. -/
def accesses (p : AccessM α) (ctx : ExecutionContext) : List DataAccess :=
  (p.trace DataOp.serve ctx).filterMap fun e => e.2.access e.1

/-- A value. -/
@[simp] theorem toHandler_pure (a : α) : toHandler (pure a) = pure a := rfl

/-- One after the other. -/
@[simp] theorem toHandler_bind (p : AccessM α) (f : α → AccessM β) :
    toHandler (p >>= f) = toHandler p >>= fun a => toHandler (f a) :=
  Requests.run_bind DataOp.serve p f

/-- The accesses of a program whose first part succeeds. -/
theorem accesses_bind_ok {p : AccessM α} {f : α → AccessM β} {ctx ctx' : ExecutionContext} {a : α}
    (h : p.toHandler ctx = .ok a ctx') :
    (p >>= f).accesses ctx = p.accesses ctx ++ (f a).accesses ctx' := by
  unfold accesses
  rw [Requests.trace_bind_ok h, List.filterMap_append]

/-- The accesses of a program whose first part fails. -/
theorem accesses_bind_error {p : AccessM α} {f : α → AccessM β} {ctx ctx' : ExecutionContext}
    {r : ExecutionResult} (h : p.toHandler ctx = .error r ctx') :
    (p >>= f).accesses ctx = p.accesses ctx := by
  unfold accesses
  rw [Requests.trace_bind_error h]

/-! ## Helpers -/

/-- The state, the instruction and the next address. -/
def look : AccessM ExecutionContext := Requests.request DataOp.look

/-- The end of the handler. -/
def raise (r : ExecutionResult) : AccessM α := .ask (DataOp.raise r) Empty.elim

/-- Bytes read at a form's address. -/
def load (form : AddressForm) (size : Nat) : AccessM (Option (List Byte)) :=
  Requests.request (DataOp.load form size)

/-- Bytes written at a form's address. -/
def store (form : AddressForm) (bytes : List Byte) : AccessM Bool :=
  Requests.request (DataOp.store form bytes)

/-- A change of everything but the memory. -/
def change (f : ExecutionContext → ExecutionContext) : AccessM Unit :=
  Requests.request (DataOp.change f)

/-- `state` changed. -/
def modifyState (f : CpuState → CpuState) : AccessM Unit :=
  change fun ctx => { ctx with state := f ctx.state }

/-- `control_flow_taken`. -/
def takeControlFlow : AccessM Unit := change fun ctx => { ctx with controlFlowTaken := true }

/-- A fault at the instruction. -/
def faultHere (reason : StopReason) (errorCode : BitVec 32) : AccessM α := do
  let ctx ← look
  raise
    { reason := reason
      exception := some ⟨reason, ctx.state.rip, errorCode⟩
      code := some ctx.instr.code }

/-- The result of an instruction the emulator does not support. -/
def unsupportedInstruction : AccessM α := faultHere .unsupportedInstruction 0#32

/-- `memory_fault` at the form's address. -/
def memoryFault (form : AddressForm) : AccessM α := do
  let ctx ← look
  raise (pageFaultAt ctx (form.address ctx.state ctx.instr))

/-- `read_memory_checked`. -/
def readMemoryChecked (form : AddressForm) (width : Nat) : AccessM U64 := do
  match ← load form width with
  | some bytes => return fromBytes bytes
  | none => memoryFault form

/-- `write_memory_checked`. -/
def writeMemoryChecked (form : AddressForm) (value : U64) (width : Nat) : AccessM Unit := do
  if ← store form (toBytes value width) then pure () else memoryFault form

/-- `read_operand`: the registers are looked at, the memory is asked. -/
def readOperand (operandIndex width : Nat) : AccessM (Option U64) := do
  let ctx ← look
  match ctx.instr.opKind operandIndex with
  | .register => return some (readRegister ctx.state (ctx.instr.opRegister operandIndex))
  | .memory =>
    let bytes ← load (.operand 0#16) width
    return bytes.map fun bytes => truncate (fromBytes bytes) width
  | _ => return some (truncate (immediateValue ctx.instr operandIndex) width)

/-- `write_operand`. -/
def writeOperand (operandIndex : Nat) (value : U64) (width : Nat) : AccessM Bool := do
  let ctx ← look
  match ctx.instr.opKind operandIndex with
  | .register =>
    modifyState fun s =>
      writeRegister s (ctx.instr.opRegister operandIndex) (truncate value width) 0
    return true
  | .memory => store (.operand 0#16) (toBytes (truncate value width) width)
  | _ => return false

/-- `read_operand_checked`; the fault names the operand's own address. -/
def readOperandChecked (operandIndex width : Nat) : AccessM U64 := do
  match ← readOperand operandIndex width with
  | some value => return value
  | none => memoryFault (.operand 0#16)

/-- `write_operand_checked`. -/
def writeOperandChecked (operandIndex : Nat) (value : U64) (width : Nat) : AccessM Unit := do
  if ← writeOperand operandIndex value width then pure () else memoryFault (.operand 0#16)

/-! ## The helpers are the helpers -/

/-- A look is a read of the context, less its memory. -/
@[simp] theorem toHandler_look :
    look.toHandler = get >>= fun ctx => pure ctx.withoutMemory := rfl

@[simp] theorem toHandler_modifyState (f : CpuState → CpuState) :
    (modifyState f).toHandler = Seven.modifyState f := rfl

@[simp] theorem toHandler_takeControlFlow : takeControlFlow.toHandler = Seven.takeControlFlow := rfl

@[simp] theorem toHandler_faultHere (reason : StopReason) (errorCode : BitVec 32) :
    (faultHere reason errorCode : AccessM α).toHandler = Seven.faultHere reason errorCode := rfl

@[simp] theorem toHandler_unsupportedInstruction :
    (unsupportedInstruction : AccessM α).toHandler = Seven.unsupportedInstruction := rfl

/-- The operand's form is its address. -/
theorem operand_zero (s : CpuState) (instr : Instruction) :
    (AddressForm.operand 0#16).address s instr = memoryAddress s instr := BitVec.add_zero _

theorem toHandler_memoryFault (form : AddressForm) (ctx : ExecutionContext) :
    (memoryFault form : AccessM α).toHandler ctx =
      Seven.memoryFault (form.address ctx.state ctx.instr) ctx := rfl

/-- The program is the handler, at the form's address. -/
theorem toHandler_readMemoryChecked (form : AddressForm) (width : Nat) (ctx : ExecutionContext) :
    (readMemoryChecked form width).toHandler ctx =
      Seven.readMemoryChecked (form.address ctx.state ctx.instr) width ctx := by
  unfold readMemoryChecked
  rw [toHandler_bind, bind_ok (show (load form width).toHandler ctx =
    .ok (ctx.memory.read (form.address ctx.state ctx.instr) width .dataRead) ctx from rfl)]
  unfold Seven.readMemoryChecked
  cases ctx.memory.read (form.address ctx.state ctx.instr) width .dataRead with
  | some bytes => rfl
  | none => rfl

/-- The program is the handler, at the form's address. -/
theorem toHandler_writeMemoryChecked (form : AddressForm) (value : U64) (width : Nat)
    (ctx : ExecutionContext) :
    (writeMemoryChecked form value width).toHandler ctx =
      Seven.writeMemoryChecked (form.address ctx.state ctx.instr) value width ctx := by
  unfold writeMemoryChecked Seven.writeMemoryChecked
  rw [toHandler_bind, bind_ok (show (store form (toBytes value width)).toHandler ctx = .ok _ _ from rfl)]
  rcases ctx.memory.write (form.address ctx.state ctx.instr) (toBytes value width) .dataWrite with
    ⟨memory, ok⟩
  cases ok with
  | true => rfl
  | false => rfl

/-- A program that looks first. -/
theorem look_bind (f : ExecutionContext → AccessM α) (ctx : ExecutionContext) :
    (look >>= f).toHandler ctx = (f ctx.withoutMemory).toHandler ctx := rfl

/-- An operand read, against the function of the context. -/
theorem toHandler_readOperand (operandIndex width : Nat) (ctx : ExecutionContext) :
    (readOperand operandIndex width).toHandler ctx =
      .ok (Seven.readOperand ctx operandIndex width) ctx := by
  unfold readOperand Seven.readOperand
  rw [look_bind, ctx.withoutMemory_instr]
  cases ctx.instr.opKind operandIndex with
  | memory =>
    rw [← operand_zero]
    rfl
  | _ => rfl

/-- An operand write, against the function of the context. -/
theorem toHandler_writeOperand (operandIndex : Nat) (value : U64) (width : Nat)
    (ctx : ExecutionContext) :
    (writeOperand operandIndex value width).toHandler ctx =
      .ok (Seven.writeOperand ctx operandIndex value width).2
        (Seven.writeOperand ctx operandIndex value width).1 := by
  unfold writeOperand Seven.writeOperand
  rw [look_bind, ctx.withoutMemory_instr]
  cases ctx.instr.opKind operandIndex with
  | memory =>
    rw [← operand_zero]
    rfl
  | _ => rfl

@[simp] theorem toHandler_readOperandChecked (operandIndex width : Nat) :
    (readOperandChecked operandIndex width).toHandler =
      Seven.readOperandChecked operandIndex width := by
  funext ctx
  unfold readOperandChecked Seven.readOperandChecked
  rw [toHandler_bind, bind_ok (toHandler_readOperand operandIndex width ctx)]
  cases Seven.readOperand ctx operandIndex width with
  | some value => rfl
  | none =>
    show (memoryFault (.operand 0#16) : AccessM U64).toHandler ctx = _
    rw [toHandler_memoryFault, operand_zero]

@[simp] theorem toHandler_writeOperandChecked (operandIndex : Nat) (value : U64) (width : Nat) :
    (writeOperandChecked operandIndex value width).toHandler =
      Seven.writeOperandChecked operandIndex value width := by
  funext ctx
  unfold writeOperandChecked Seven.writeOperandChecked
  rw [toHandler_bind, bind_ok (toHandler_writeOperand operandIndex value width ctx)]
  rcases Seven.writeOperand ctx operandIndex value width with ⟨ctx', ok⟩
  cases ok with
  | true => rfl
  | false =>
    show (memoryFault (.operand 0#16) : AccessM Unit).toHandler ctx' = _
    rw [toHandler_memoryFault, operand_zero]

/-! ## Stack and interrupts -/

/-- A push that takes these widths and refuses the others. -/
def pushSlot (widths : List Nat) (refuse : AccessM Unit) (value : U64) (width : Nat) :
    AccessM Unit := do
  modifyState fun s => s.setRsp (maskStackPointer s (s.rsp - BitVec.ofNat 64 width))
  if width ∈ widths then writeMemoryChecked .stackTop value width else refuse

/-- `push_width`. -/
def pushWidth (value : U64) (width : Nat) : AccessM Unit :=
  pushSlot [1, 2, 4, 8] unsupportedInstruction value width

/-- `pop_width`. -/
def popWidth (width : Nat) : AccessM U64 := do
  if width ∈ [1, 2, 4, 8] then
    let value ← readMemoryChecked .stackTop width
    modifyState fun s => s.setRsp (maskStackPointer s (s.rsp + BitVec.ofNat 64 width))
    return value
  else
    unsupportedInstruction

/-- A general protection fault for the vector. -/
def gpFault (vector : BitVec 8) : AccessM α := faultHere .generalProtection (vector.setWidth 32)

/-- The gate of a descriptor, or the fault of a bad one. -/
def descriptorGate (vector : BitVec 8) (targetRip descriptor : U64) : AccessM InterruptGate :=
  let typeAttr := (descriptor >>> 40) &&& 0xFF#64
  let present := typeAttr &&& 0x80#64 != 0#64
  let gateType := typeAttr &&& 0x0F#64
  if !present || (gateType != 0x0E#64 && gateType != 0x0F#64) then gpFault vector
  else pure ⟨targetRip, (descriptor >>> 16).setWidth 16, gateType⟩

/-- `read_idt_gate`. -/
def readGate (vector : BitVec 8) : AccessM InterruptGate := do
  let state := (← look).state
  if !idtHasEntry state vector then
    gpFault vector
  else
    match state.mode with
    | .real16 =>
      let ip ← readMemoryChecked (.idtEntry vector 0#16) 2
      let cs ← readMemoryChecked (.idtEntry vector 2#16) 2
      return ⟨ip, cs.setWidth 16, 0x0E#64⟩
    | .compat32 =>
      let descriptor ← readMemoryChecked (.idtEntry vector 0#16) 8
      descriptorGate vector (descriptorOffset descriptor &&& 0xFFFFFFFF#64) descriptor
    | .long64 =>
      let descLo ← readMemoryChecked (.idtEntry vector 0#16) 8
      let descHi ← readMemoryChecked (.idtEntry vector 8#16) 8
      descriptorGate vector
        (descriptorOffset descLo ||| ((descHi &&& 0xFFFFFFFF#64) <<< 32)) descLo

/-- Pushes one after the other. -/
def pushAllOf (widths : List Nat) (refuse : AccessM Unit) : List (U64 × Nat) → AccessM Unit
  | [] => pure ()
  | (value, width) :: rest => do
    pushSlot widths refuse value width
    pushAllOf widths refuse rest

/-- `dispatch_interrupt`. -/
def dispatchInterrupt (vector : BitVec 8) (returnRip : U64) (errorCode : Option (BitVec 32))
    (pushRfInFrame : Bool) : AccessM Unit := do
  let gate ← readGate vector
  let state := (← look).state
  pushAllOf [2, 4, 8] (gpFault vector) (interruptFrame state returnRip errorCode pushRfInFrame)
  modifyState (enterGate gate)
  takeControlFlow

/-- `push_operand_width`. -/
def pushOperandWidth (width : Nat) : AccessM Unit := do
  let value ← readOperandChecked 0 width
  pushWidth value width

/-- `push_imm_width`. -/
def pushImmWidth (immWidth stackWidth : Nat) (signExtendImm : Bool) : AccessM Unit := do
  let value ← readOperandChecked 0 immWidth
  pushWidth (if signExtendImm then signExtend value immWidth else value) stackWidth

/-- `push_segment`. -/
def pushSegment (index stackWidth : Nat) : AccessM Unit := do
  if h : index < 6 then
    pushWidth (((← look).state.sreg ⟨index, h⟩).setWidth 64) stackWidth
  else
    unsupportedInstruction

/-- `push_flags_width`. -/
def pushFlagsWidth (stackWidth : Nat) : AccessM Unit := do
  pushWidth (← look).state.rflags stackWidth

/-- `push_all_width`. -/
def pushAllWidth (width : Nat) : AccessM Unit := do
  let state := (← look).state
  pushAllOf [1, 2, 4, 8] unsupportedInstruction
    ((pushAllRegisters state).map fun value => (value, width))

/-- `POP SS` and the debug exceptions it withholds. -/
def notePopSs (oldSp : U64) (width : Nat) : AccessM Unit :=
  change fun ctx =>
    if ctx.instr.opKind 0 = .register ∧ ctx.instr.opRegister 0 = .ss then
      let s := { ctx.state with
        debugSuppression := 1#8
        pendingSingleStep := ctx.state.pendingSingleStep || flagSet ctx.state.rflags kFlagTF }
      let hits := debugDataBreakpointHits s oldSp (BitVec.ofNat 64 width) true false
      { ctx with state := s, debugHitBits := ctx.debugHitBits ||| hits }
    else ctx

/-- `pop_operand_width`. -/
def popOperandWidth (width : Nat) : AccessM Unit := do
  let oldSp := (← look).state.rsp
  let value ← popWidth width
  writeOperandChecked 0 value width
  notePopSs oldSp width

/-- `handle_code_POPFQ`. -/
def handlePopfq : AccessM Unit := do
  let value ← readMemoryChecked .stackTop 8
  modifyState fun s =>
    let s := { s with rflags := popfqFlags s.rflags value }
    s.setRsp (maskStackPointer s (s.rsp + 8#64))

/-- `read_near_target_width`. -/
def readNearTargetWidth (width : Nat) : AccessM U64 := do
  let ctx ← look
  if width = 8 ∧ ctx.state.mode = .long64 ∧ ctx.instr.opKind 0 = .register then
    return readRegister ctx.state (promoteGpr32To64 (ctx.instr.opRegister 0))
  else
    readOperandChecked 0 width

/-- `RIP` set, as a jump. -/
def jumpTo (target : U64) : AccessM Unit := do
  modifyState fun s => { s with rip := target }
  takeControlFlow

/-- `call_rm_width`. -/
def callRmWidth (width : Nat) : AccessM Unit := do
  let target ← readNearTargetWidth width
  pushWidth (← look).nextRip width
  jumpTo target

/-- `handle_code_CALL_RM32`. -/
def handleCallRm32 : AccessM Unit := do
  if (← look).state.mode = .long64 then callRmWidth 8 else callRmWidth 4

/-- `call_rel_width`. -/
def callRelWidth (width : Nat) : AccessM Unit := do
  let ctx ← look
  pushWidth ctx.nextRip width
  jumpTo ctx.instr.nearBranch64

/-- The two slots of a far return. -/
def pushFarReturn (selector : BitVec 16) (offset : U64) (offsetWidth : Nat) : AccessM Unit :=
  pushAllOf [1, 2, 4, 8] unsupportedInstruction
    [(offset, offsetWidth), (selector.setWidth 64, 2)]

/-- The far pointer in memory: the offset, and the selector behind it. -/
def readFarMem (offsetWidth : Nat) : AccessM (U64 × BitVec 16) := do
  let offset ← readOperandChecked 0 offsetWidth
  let selector ← readMemoryChecked (.operand (BitVec.ofNat 16 offsetWidth)) 2
  return (offset, selector.setWidth 16)

/-- The jump of a far transfer. -/
def farJumpTo (mode : ExecutionMode) (selector : BitVec 16) (target : U64) : AccessM Unit := do
  modifyState fun s =>
    let s := { s with mode := mode }
    let s := s.setSreg 1 selector
    { s with rip := target }
  takeControlFlow

/-- `call_far_mem`. -/
def callFarMem (offsetWidth : Nat) : AccessM Unit := do
  let (target, selector) ← readFarMem offsetWidth
  pushFarReturn selector (← look).nextRip offsetWidth
  farJumpTo (modeForFarWidth offsetWidth) selector target

/-- `call_far_ptr`. -/
def callFarPtr (offsetWidth : Nat) : AccessM Unit := do
  let ctx ← look
  let selector := ctx.instr.farBranchSelector
  let target := if offsetWidth = 2 then ctx.instr.farBranch16 else ctx.instr.farBranch32
  pushFarReturn selector ctx.nextRip offsetWidth
  farJumpTo (modeForFarWidth offsetWidth) selector target

/-- `ret_width`. -/
def retWidth (width : Nat) (withImm : Bool) : AccessM Unit := do
  let target ← popWidth width
  let imm16 := retImm withImm (← look).instr
  modifyState fun s =>
    let s := { s with rip := maskInstructionPointer s target }
    s.setRsp (maskStackPointer s (s.rsp + imm16))
  takeControlFlow

/-- `retf_width`. -/
def retfWidth (offsetWidth : Nat) (withImm : Bool) : AccessM Unit := do
  let target ← popWidth offsetWidth
  let selector ← popWidth 2
  let imm16 := retImm withImm (← look).instr
  modifyState fun s =>
    let s := { s with mode := modeForFarWidth offsetWidth }
    let s := s.setSreg 1 (selector.setWidth 16)
    let s := { s with rip := maskInstructionPointer s target }
    s.setRsp (maskStackPointer s (s.rsp + imm16))
  takeControlFlow

/-- `iret_width`. -/
def iretWidth (offsetWidth flagsWidth : Nat) : AccessM Unit := do
  let target ← popWidth offsetWidth
  let selector ← popWidth 2
  let flags ← popWidth flagsWidth
  modifyState fun s =>
    let s := { s with mode := modeForFarWidth offsetWidth }
    let s := s.setSreg 1 (selector.setWidth 16)
    let s := { s with rip := maskInstructionPointer s target }
    { s with rflags := iretFlags s.rflags flags flagsWidth }
  takeControlFlow

/-- `INT n`, `INT1` and `INT3`. -/
def handleInt (vector : Option (BitVec 8)) : AccessM Unit := do
  let ctx ← look
  dispatchInterrupt (vector.getD (ctx.instr.immediate8.setWidth 8)) ctx.nextRip none false

/-- `INTO`. -/
def handleInto : AccessM Unit := do
  let ctx ← look
  if flagSet ctx.state.rflags kFlagOF then dispatchInterrupt 4#8 ctx.nextRip none false
  else pure ()

/-! ## They are the handlers -/

theorem toHandler_ite {c : Prop} [Decidable c] (p q : AccessM α) :
    (if c then p else q).toHandler = if c then p.toHandler else q.toHandler :=
  apply_ite toHandler c p q

@[simp] theorem toHandler_gpFault (vector : BitVec 8) :
    (gpFault vector : AccessM α).toHandler = Seven.gpFault vector := rfl

@[simp] theorem toHandler_storeTop (value : U64) (width : Nat) :
    (writeMemoryChecked .stackTop value width).toHandler =
      get >>= fun ctx => Seven.writeMemoryChecked ctx.state.rsp value width := by
  funext ctx
  exact toHandler_writeMemoryChecked .stackTop value width ctx

@[simp] theorem toHandler_loadTop (width : Nat) :
    (readMemoryChecked .stackTop width).toHandler =
      get >>= fun ctx => Seven.readMemoryChecked ctx.state.rsp width := by
  funext ctx
  exact toHandler_readMemoryChecked .stackTop width ctx

@[simp] theorem toHandler_pushSlot (widths : List Nat) (refuse : AccessM Unit) (value : U64)
    (width : Nat) :
    (pushSlot widths refuse value width).toHandler =
      Seven.pushSlot widths refuse.toHandler value width := by
  simp only [pushSlot, Seven.pushSlot, toHandler_bind, toHandler_modifyState, toHandler_ite,
    toHandler_storeTop]

@[simp] theorem toHandler_pushWidth (value : U64) (width : Nat) :
    (pushWidth value width).toHandler = Seven.pushWidth value width :=
  toHandler_pushSlot _ _ value width

@[simp] theorem toHandler_popWidth (width : Nat) :
    (popWidth width).toHandler = Seven.popWidth width := by
  simp only [popWidth, Seven.popWidth, toHandler_ite, toHandler_bind, toHandler_loadTop,
    toHandler_modifyState, toHandler_pure, toHandler_unsupportedInstruction, bind_assoc]

@[simp] theorem toHandler_pushAllOf (widths : List Nat) (refuse : AccessM Unit)
    (values : List (U64 × Nat)) :
    (pushAllOf widths refuse values).toHandler =
      Seven.pushAllOf widths refuse.toHandler values := by
  induction values with
  | nil => rfl
  | cons head rest ih =>
    obtain ⟨value, width⟩ := head
    simp only [pushAllOf, Seven.pushAllOf, toHandler_bind, toHandler_pushSlot, ih]

@[simp] theorem toHandler_descriptorGate (vector : BitVec 8) (targetRip descriptor : U64) :
    (descriptorGate vector targetRip descriptor).toHandler =
      Seven.descriptorGate vector targetRip descriptor := by
  unfold descriptorGate Seven.descriptorGate
  exact toHandler_ite _ _

/-- What follows a request runs in the context the request leaves. -/
theorem request_bind {β : Type} {p : AccessM β} {h : HandlerM β} {f : β → AccessM α}
    {g : β → HandlerM α} {ctx : ExecutionContext} (hp : p.toHandler ctx = h ctx)
    (hf : ∀ b c, h ctx = .ok b c → (f b).toHandler c = g b c) :
    (p >>= f).toHandler ctx = (h >>= g) ctx := by
  rw [toHandler_bind]
  cases hrun : h ctx with
  | ok b c => rw [bind_ok (hp.trans hrun), bind_ok hrun, hf b c hrun]
  | error r c => rw [bind_error (hp.trans hrun), bind_error hrun]

/-- A load leaves the context as it was. -/
theorem load_bind {form : AddressForm} {width : Nat} {address : U64} {f : U64 → AccessM α}
    {g : U64 → HandlerM α} {ctx : ExecutionContext}
    (haddress : form.address ctx.state ctx.instr = address)
    (h : ∀ value, (f value).toHandler ctx = g value ctx) :
    (readMemoryChecked form width >>= f).toHandler ctx =
      (Seven.readMemoryChecked address width >>= g) ctx := by
  subst haddress
  refine request_bind (toHandler_readMemoryChecked form width ctx) fun value c hread => ?_
  rw [readMemoryChecked_ok hread]
  exact h value

/-- A checked store in front of equal rests. -/
theorem store_bind {form : AddressForm} {address value : U64} {width : Nat} {f : Unit → AccessM α}
    {g : Unit → HandlerM α} {ctx : ExecutionContext}
    (haddress : form.address ctx.state ctx.instr = address)
    (h : ∀ c, (f ()).toHandler c = g () c) :
    (writeMemoryChecked form value width >>= f).toHandler ctx =
      (Seven.writeMemoryChecked address value width >>= g) ctx := by
  subst haddress
  exact request_bind (toHandler_writeMemoryChecked form value width ctx) fun _ c _ => h c

@[simp] theorem toHandler_readGate (vector : BitVec 8) :
    (readGate vector).toHandler = Seven.readGate vector := by
  funext ctx
  have hfirst : (AddressForm.idtEntry vector 0#16).address ctx.state ctx.instr =
      idtEntryBase ctx.state vector := BitVec.add_zero _
  unfold readGate Seven.readGate
  rw [look_bind]
  show (toHandler (ite _ _ _)) ctx = (ite _ _ _ : HandlerM InterruptGate) ctx
  rw [toHandler_ite, ctx.withoutMemory_state]
  by_cases hentry : (!idtHasEntry ctx.state vector) = true
  · rw [if_pos hentry, if_pos hentry]
    rfl
  · rw [if_neg hentry, if_neg hentry]
    cases ctx.state.mode with
    | real16 => exact load_bind hfirst fun ip => load_bind rfl fun cs => rfl
    | compat32 =>
      exact load_bind hfirst fun descriptor => by rw [toHandler_descriptorGate]
    | long64 =>
      exact load_bind hfirst fun descLo => load_bind rfl fun descHi => by
        rw [toHandler_descriptorGate]

/-- The program is the handler, gate and frame included. -/
@[simp] theorem toHandler_dispatchInterrupt (vector : BitVec 8) (returnRip : U64)
    (errorCode : Option (BitVec 32)) (pushRfInFrame : Bool) :
    (dispatchInterrupt vector returnRip errorCode pushRfInFrame).toHandler =
      Seven.dispatchInterrupt vector returnRip errorCode pushRfInFrame := by
  simp only [dispatchInterrupt, Seven.dispatchInterrupt, toHandler_bind, toHandler_readGate,
    toHandler_look, toHandler_pushAllOf, toHandler_gpFault, toHandler_modifyState,
    toHandler_takeControlFlow, bind_assoc, pure_bind, ExecutionContext.withoutMemory_state]

@[simp] theorem toHandler_pushOperandWidth (width : Nat) :
    (pushOperandWidth width).toHandler = Seven.pushOperandWidth width := by
  simp only [pushOperandWidth, Seven.pushOperandWidth, toHandler_bind, toHandler_readOperandChecked,
    toHandler_pushWidth]

@[simp] theorem toHandler_pushImmWidth (immWidth stackWidth : Nat) (signExtendImm : Bool) :
    (pushImmWidth immWidth stackWidth signExtendImm).toHandler =
      Seven.pushImmWidth immWidth stackWidth signExtendImm := by
  simp only [pushImmWidth, Seven.pushImmWidth, toHandler_bind, toHandler_readOperandChecked,
    toHandler_pushWidth]

@[simp] theorem toHandler_pushSegment (index stackWidth : Nat) :
    (pushSegment index stackWidth).toHandler = Seven.pushSegment index stackWidth := by
  unfold pushSegment Seven.pushSegment
  split
  · simp only [toHandler_bind, toHandler_look, toHandler_pushWidth, bind_assoc, pure_bind,
      ExecutionContext.withoutMemory_state]
  · rfl

@[simp] theorem toHandler_pushFlagsWidth (stackWidth : Nat) :
    (pushFlagsWidth stackWidth).toHandler = Seven.pushFlagsWidth stackWidth := by
  simp only [pushFlagsWidth, Seven.pushFlagsWidth, toHandler_bind, toHandler_look,
    toHandler_pushWidth, bind_assoc, pure_bind, ExecutionContext.withoutMemory_state]

@[simp] theorem toHandler_pushAllWidth (width : Nat) :
    (pushAllWidth width).toHandler = Seven.pushAllWidth width := by
  simp only [pushAllWidth, Seven.pushAllWidth, toHandler_bind, toHandler_look,
    toHandler_pushAllOf, toHandler_unsupportedInstruction, bind_assoc, pure_bind,
    ExecutionContext.withoutMemory_state]

@[simp] theorem toHandler_notePopSs (oldSp : U64) (width : Nat) :
    (notePopSs oldSp width).toHandler = Seven.notePopSs oldSp width := by
  funext ctx
  unfold notePopSs Seven.notePopSs
  show EStateM.Result.ok () { (ite _ _ _ : ExecutionContext) with memory := ctx.memory } = _
  by_cases hss : ctx.instr.opKind 0 = .register ∧ ctx.instr.opRegister 0 = .ss
  · rw [if_pos hss, if_pos (show ctx.withoutMemory.instr.opKind 0 = .register ∧
      ctx.withoutMemory.instr.opRegister 0 = .ss from hss)]
    rfl
  · rw [if_neg hss, if_neg (show ¬(ctx.withoutMemory.instr.opKind 0 = .register ∧
      ctx.withoutMemory.instr.opRegister 0 = .ss) from hss)]
    rfl

@[simp] theorem toHandler_popOperandWidth (width : Nat) :
    (popOperandWidth width).toHandler = Seven.popOperandWidth width := by
  simp only [popOperandWidth, Seven.popOperandWidth, toHandler_bind, toHandler_look,
    toHandler_popWidth, toHandler_writeOperandChecked, toHandler_notePopSs, bind_assoc, pure_bind,
    ExecutionContext.withoutMemory_state]

@[simp] theorem toHandler_handlePopfq : handlePopfq.toHandler = Seven.handlePopfq := by
  simp only [handlePopfq, Seven.handlePopfq, toHandler_bind, toHandler_loadTop,
    toHandler_modifyState, bind_assoc]

@[simp] theorem toHandler_readNearTargetWidth (width : Nat) :
    (readNearTargetWidth width).toHandler = Seven.readNearTargetWidth width := by
  simp only [readNearTargetWidth, Seven.readNearTargetWidth, toHandler_bind, toHandler_look,
    toHandler_ite, toHandler_pure, toHandler_readOperandChecked, bind_assoc, pure_bind,
    ExecutionContext.withoutMemory_state, ExecutionContext.withoutMemory_instr]
  rfl

@[simp] theorem toHandler_jumpTo (target : U64) : (jumpTo target).toHandler = Seven.jumpTo target :=
  toHandler_bind _ _

@[simp] theorem toHandler_callRmWidth (width : Nat) :
    (callRmWidth width).toHandler = Seven.callRmWidth width := by
  simp only [callRmWidth, Seven.callRmWidth, toHandler_bind, toHandler_readNearTargetWidth,
    toHandler_look, toHandler_pushWidth, toHandler_jumpTo, bind_assoc, pure_bind,
    ExecutionContext.withoutMemory_nextRip]

@[simp] theorem toHandler_handleCallRm32 : handleCallRm32.toHandler = Seven.handleCallRm32 := by
  simp only [handleCallRm32, Seven.handleCallRm32, toHandler_bind, toHandler_look, toHandler_ite,
    toHandler_callRmWidth, bind_assoc, pure_bind, ExecutionContext.withoutMemory_state]
  rfl

@[simp] theorem toHandler_callRelWidth (width : Nat) :
    (callRelWidth width).toHandler = Seven.callRelWidth width := by
  simp only [callRelWidth, Seven.callRelWidth, toHandler_bind, toHandler_look,
    toHandler_pushWidth, toHandler_jumpTo, bind_assoc, pure_bind,
    ExecutionContext.withoutMemory_nextRip, ExecutionContext.withoutMemory_instr]

@[simp] theorem toHandler_pushFarReturn (selector : BitVec 16) (offset : U64) (offsetWidth : Nat) :
    (pushFarReturn selector offset offsetWidth).toHandler =
      Seven.pushFarReturn selector offset offsetWidth :=
  toHandler_pushAllOf _ _ _

@[simp] theorem toHandler_farJumpTo (mode : ExecutionMode) (selector : BitVec 16) (target : U64) :
    (farJumpTo mode selector target).toHandler = Seven.farJumpTo mode selector target :=
  toHandler_bind _ _

/-- A far pointer's selector lies behind the offset. -/
@[simp] theorem toHandler_readFarMem (width : StackWidth) :
    (readFarMem width.bytes).toHandler = Seven.readFarMem width.bytes := by
  have haddress (ctx : ExecutionContext) :
      (AddressForm.operand (BitVec.ofNat 16 width.bytes)).address ctx.state ctx.instr =
        memoryAddress ctx.state ctx.instr + BitVec.ofNat 64 width.bytes := by
    cases width <;> rfl
  have hrest (offset : U64) :
      (readMemoryChecked (.operand (BitVec.ofNat 16 width.bytes)) 2 >>= fun selector =>
        pure (offset, selector.setWidth 16)).toHandler =
      (get >>= fun ctx =>
        Seven.readMemoryChecked (memoryAddress ctx.state ctx.instr + BitVec.ofNat 64 width.bytes) 2
          >>= fun selector => pure (offset, selector.setWidth 16)) := by
    funext ctx
    exact load_bind (haddress ctx) fun selector => rfl
  unfold readFarMem Seven.readFarMem
  rw [toHandler_bind, toHandler_readOperandChecked]
  congr 1
  funext offset
  exact hrest offset

@[simp] theorem toHandler_callFarMem (width : StackWidth) :
    (callFarMem width.bytes).toHandler = Seven.callFarMem width.bytes := by
  simp only [callFarMem, Seven.callFarMem, toHandler_bind, toHandler_readFarMem, toHandler_look,
    toHandler_pushFarReturn, toHandler_farJumpTo, bind_assoc, pure_bind,
    ExecutionContext.withoutMemory_nextRip]

@[simp] theorem toHandler_callFarPtr (offsetWidth : Nat) :
    (callFarPtr offsetWidth).toHandler = Seven.callFarPtr offsetWidth := by
  simp only [callFarPtr, Seven.callFarPtr, toHandler_bind, toHandler_look,
    toHandler_pushFarReturn, toHandler_farJumpTo, bind_assoc, pure_bind,
    ExecutionContext.withoutMemory_nextRip, ExecutionContext.withoutMemory_instr]

@[simp] theorem toHandler_retWidth (width : Nat) (withImm : Bool) :
    (retWidth width withImm).toHandler = Seven.retWidth width withImm := by
  simp only [retWidth, Seven.retWidth, toHandler_bind, toHandler_popWidth, toHandler_look,
    toHandler_modifyState, toHandler_takeControlFlow, bind_assoc, pure_bind,
    ExecutionContext.withoutMemory_instr]

@[simp] theorem toHandler_retfWidth (offsetWidth : Nat) (withImm : Bool) :
    (retfWidth offsetWidth withImm).toHandler = Seven.retfWidth offsetWidth withImm := by
  simp only [retfWidth, Seven.retfWidth, toHandler_bind, toHandler_popWidth, toHandler_look,
    toHandler_modifyState, toHandler_takeControlFlow, bind_assoc, pure_bind,
    ExecutionContext.withoutMemory_instr]

@[simp] theorem toHandler_iretWidth (offsetWidth flagsWidth : Nat) :
    (iretWidth offsetWidth flagsWidth).toHandler = Seven.iretWidth offsetWidth flagsWidth := by
  simp only [iretWidth, Seven.iretWidth, toHandler_bind, toHandler_popWidth,
    toHandler_modifyState, toHandler_takeControlFlow]

@[simp] theorem toHandler_handleInt (vector : Option (BitVec 8)) :
    (handleInt vector).toHandler = Seven.handleInt vector := by
  simp only [handleInt, Seven.handleInt, toHandler_bind, toHandler_look,
    toHandler_dispatchInterrupt, bind_assoc, pure_bind, ExecutionContext.withoutMemory_nextRip,
    ExecutionContext.withoutMemory_instr]

@[simp] theorem toHandler_handleInto : handleInto.toHandler = Seven.handleInto := by
  simp only [handleInto, Seven.handleInto, toHandler_bind, toHandler_look, toHandler_ite,
    toHandler_dispatchInterrupt, toHandler_pure, bind_assoc, pure_bind,
    ExecutionContext.withoutMemory_state, ExecutionContext.withoutMemory_nextRip]
  rfl

end AccessM

/-- The program of a stack instruction. -/
def StackShape.program : StackShape → AccessM Unit
  | .pushOperand w => AccessM.pushOperandWidth w.bytes
  | .pushImm i w sx => AccessM.pushImmWidth i w.bytes sx
  | .pushSegment i w => AccessM.pushSegment i w.bytes
  | .pushFlags w => AccessM.pushFlagsWidth w.bytes
  | .pushAll w => AccessM.pushAllWidth w.bytes
  | .popOperand w => AccessM.popOperandWidth w.bytes
  | .popfq => AccessM.handlePopfq
  | .callRm w => AccessM.callRmWidth w.bytes
  | .callRm32 => AccessM.handleCallRm32
  | .callRel w => AccessM.callRelWidth w.bytes
  | .callFarMem w => AccessM.callFarMem w.bytes
  | .callFarPtr w => AccessM.callFarPtr w.bytes
  | .ret w withImm => AccessM.retWidth w.bytes withImm
  | .retf w withImm => AccessM.retfWidth w.bytes withImm
  | .iret w => AccessM.iretWidth w.bytes w.bytes
  | .int vector => AccessM.handleInt vector
  | .into => AccessM.handleInto

/-- Every stack program is its handler. -/
theorem StackShape.toHandler_program (shape : StackShape) :
    shape.program.toHandler = shape.handler := by
  cases shape with
  | pushOperand w => exact AccessM.toHandler_pushOperandWidth w.bytes
  | pushImm i w sx => exact AccessM.toHandler_pushImmWidth i w.bytes sx
  | pushSegment i w => exact AccessM.toHandler_pushSegment i w.bytes
  | pushFlags w => exact AccessM.toHandler_pushFlagsWidth w.bytes
  | pushAll w => exact AccessM.toHandler_pushAllWidth w.bytes
  | popOperand w => exact AccessM.toHandler_popOperandWidth w.bytes
  | popfq => exact AccessM.toHandler_handlePopfq
  | callRm w => exact AccessM.toHandler_callRmWidth w.bytes
  | callRm32 => exact AccessM.toHandler_handleCallRm32
  | callRel w => exact AccessM.toHandler_callRelWidth w.bytes
  | callFarMem w => exact AccessM.toHandler_callFarMem w
  | callFarPtr w => exact AccessM.toHandler_callFarPtr w.bytes
  | ret w withImm => exact AccessM.toHandler_retWidth w.bytes withImm
  | retf w withImm => exact AccessM.toHandler_retfWidth w.bytes withImm
  | iret w => exact AccessM.toHandler_iretWidth w.bytes w.bytes
  | int vector => exact AccessM.toHandler_handleInt vector
  | into => exact AccessM.toHandler_handleInto

/-- Every stack code's program is its handler. -/
theorem StackCode.toHandler_program (c : StackCode) : c.shape.program.toHandler = c.handler :=
  c.shape.toHandler_program

namespace AccessM

/-! ## Read-modify-write -/

/-- `RFLAGS`, then the destination. -/
def flagsThenWrite (width : Nat) (out : U64 × U64) : AccessM Unit := do
  modifyState fun s => setFlags s out.2
  writeOperandChecked 0 out.1 width

/-- Read, compute, write. -/
def rmwOperand (width : Nat) (compute : ExecutionContext → U64 → U64 × U64) : AccessM Unit := do
  let lhs ← readOperandChecked 0 width
  let ctx ← look
  flagsThenWrite width (compute ctx lhs)

/-- The source of `ADD`, `CMP` and the others. -/
def aluSource (form : AluForm) : AccessM U64 := do
  let instr := (← look).instr
  match form with
  | .rm8R8 | .rm16R16 | .rm32R32 | .rm64R64 => readOperandChecked 1 form.width
  | .rm8Imm8 => return instr.immediate8
  | .rm8Imm8_82 | .rm16Imm8 | .rm32Imm8 | .rm64Imm8 => return signExtend instr.immediate8 1
  | .rm16Imm16 => return instr.immediate16
  | .rm32Imm32 => return instr.immediate32
  | .rm64Imm32 => return signExtend instr.immediate32 4

/-- `handle_code_ADD` and the others. -/
def handleAlu (op : AluOp) (form : AluForm) : AccessM Unit := do
  let lhs ← readOperandChecked 0 form.width
  let rhs ← aluSource form
  let ctx ← look
  flagsThenWrite form.width (aluCompute op form.width ctx.state.rflags lhs rhs)

/-- `INC`, `DEC`, `NEG`, `NOT`. -/
def handleUnary (op : UnaryOp) (width : RmWidth) : AccessM Unit :=
  rmwOperand width.bytes fun ctx lhs => unaryCompute op width.bytes ctx.state.rflags lhs

/-- A shift. -/
def shiftRm (width : Nat) (kind : ShiftKind) (source : ShiftCountSource) : AccessM Unit :=
  rmwOperand width fun ctx value =>
    shiftCompute kind width (readShiftCount source ctx width) ctx.state.rflags value

/-- `ROL` and `ROR`. -/
def rotate (left : Bool) (width : Nat) (source : ShiftCountSource) : AccessM Unit :=
  rmwOperand width fun ctx value =>
    let masked := maskedCount width (rawShiftCount source ctx)
    let writesOf := masked == 1 || source == .cl || ctx.instr.opKind 0 != .register
    rotateCompute left width masked writesOf ctx.state.rflags value

/-- `RCL` and `RCR`. -/
def rotateCarry (left : Bool) (width : Nat) (source : ShiftCountSource) : AccessM Unit :=
  rmwOperand width fun ctx value =>
    rotateCarryCompute left width (maskedCount width (rawShiftCount source ctx))
      ctx.state.rflags value

/-- The shift group. -/
def handleShift (op : ShiftOp) (width : RmWidth) (source : ShiftCountSource) : AccessM Unit :=
  match op with
  | .shl | .sal => shiftRm width.bytes .left source
  | .shr => shiftRm width.bytes .logicalRight source
  | .sar => shiftRm width.bytes .arithmeticRight source
  | .rol => rotate true width.bytes source
  | .ror => rotate false width.bytes source
  | .rcl => rotateCarry true width.bytes source
  | .rcr => rotateCarry false width.bytes source

/-- `SHLD` and `SHRD`. -/
def handleDoubleShift (op : DoubleShiftOp) (width : RmWideWidth) (source : DoubleShiftCount) :
    AccessM Unit :=
  rmwOperand width.bytes fun ctx dst =>
    doubleShiftCompute op width.bytes
      (maskedCount width.bytes (rawShiftCount (doubleShiftSource source) ctx))
      ctx.state.rflags dst (readRegister ctx.state (ctx.instr.opRegister 1))

/-- `XADD`. -/
def handleXadd (width : RmWidth) : AccessM Unit := do
  let w := width.bytes
  let lhs ← readOperandChecked 0 w
  let ctx ← look
  let rhs := readRegister ctx.state (ctx.instr.opRegister 1)
  flagsThenWrite w (lhs + rhs, setAddFlags ctx.state.rflags lhs rhs (lhs + rhs) w false)
  writeOperandChecked 1 lhs w

/-- `CMPXCHG` with its flags. -/
def compareExchange (width : RmWidth) (flags : U64 → U64 → U64 → Bool → U64) : AccessM Unit := do
  let w := width.bytes
  let lhs ← readOperandChecked 0 w
  let ctx ← look
  let rhs := readRegister ctx.state (ctx.instr.opRegister 1)
  let acc := readRegister ctx.state (accumulator width)
  if lhs = acc then
    writeOperandChecked 0 rhs w
    modifyState fun s => setFlags s (flags s.rflags acc lhs true)
  else
    modifyState fun s =>
      let s := writeRegister s (accumulator width) lhs w
      setFlags s (flags s.rflags acc lhs false)

/-- `CMPXCHG`. -/
def handleCmpxchg (width : RmWidth) : AccessM Unit :=
  compareExchange width fun rflags acc lhs success =>
    setCmpxchgFlags rflags acc lhs width.bytes success

/-- `CMPXCHG` as the 486 had it. -/
def handleCmpxchg486 (width : RmNarrowWidth) : AccessM Unit :=
  compareExchange (narrowRm width) fun rflags _ _ success => setFlag rflags kFlagZF success

/-- `BTS`, `BTR` and `BTC`. -/
def handleBit (op : BitOp) (width : RmWideWidth) (source : BitIndexSource) : AccessM Unit := do
  let w := width.bytes
  let ctx ← look
  let index := bitIndex source w ctx
  let bit := (index &&& BitVec.ofNat 64 (8 * w - 1)).toNat
  if ctx.instr.opKind 0 = .memory then
    let value ← readMemoryChecked (.bitElement width index) w
    writeMemoryChecked (.bitElement width index) (bitCompute op value bit) w
    modifyState fun s => setFlags s (setFlag s.rflags kFlagCF (flagSet (value >>> bit) 1#64))
  else
    let value ← readOperandChecked 0 w
    writeOperandChecked 0 (bitCompute op value bit) w
    modifyState fun s => setFlags s (setFlag s.rflags kFlagCF (flagSet (value >>> bit) 1#64))

@[simp] theorem toHandler_flagsThenWrite (width : Nat) (out : U64 × U64) :
    (flagsThenWrite width out).toHandler = Seven.flagsThenWrite width out := by
  simp only [flagsThenWrite, Seven.flagsThenWrite, toHandler_bind, toHandler_modifyState,
    toHandler_writeOperandChecked]

/-- The program is the handler when the computation does not look at the memory. -/
theorem toHandler_rmwOperand (width : Nat) {compute : ExecutionContext → U64 → U64 × U64}
    (h : ∀ ctx lhs, compute ctx.withoutMemory lhs = compute ctx lhs) :
    (rmwOperand width compute).toHandler = Seven.rmwOperand width compute := by
  simp only [rmwOperand, Seven.rmwOperand, toHandler_bind, toHandler_readOperandChecked,
    toHandler_look, toHandler_flagsThenWrite, bind_assoc, pure_bind, h]

@[simp] theorem toHandler_aluSource (form : AluForm) :
    (aluSource form).toHandler = Seven.aluSource form := by
  funext ctx
  unfold aluSource Seven.aluSource
  rw [look_bind]
  cases form with
  | rm8R8 => exact congrFun (toHandler_readOperandChecked 1 1) ctx
  | rm16R16 => exact congrFun (toHandler_readOperandChecked 1 2) ctx
  | rm32R32 => exact congrFun (toHandler_readOperandChecked 1 4) ctx
  | rm64R64 => exact congrFun (toHandler_readOperandChecked 1 8) ctx
  | _ => rfl

/-- A count does not come from memory. -/
theorem rawShiftCount_withoutMemory (source : ShiftCountSource) (ctx : ExecutionContext) :
    rawShiftCount source ctx.withoutMemory = rawShiftCount source ctx := by
  cases source <;> rfl

/-- Nor does the masked count. -/
theorem readShiftCount_withoutMemory (source : ShiftCountSource) (ctx : ExecutionContext)
    (width : Nat) : readShiftCount source ctx.withoutMemory width = readShiftCount source ctx width := by
  cases source <;> rfl

/-- Nor the bit's index. -/
theorem bitIndex_withoutMemory (source : BitIndexSource) (width : Nat) (ctx : ExecutionContext) :
    bitIndex source width ctx.withoutMemory = bitIndex source width ctx := by
  cases source <;> rfl

theorem toHandler_handleAlu (op : AluOp) (form : AluForm) :
    (handleAlu op form).toHandler = Seven.handleAlu op form := by
  simp only [handleAlu, Seven.handleAlu, toHandler_bind, toHandler_readOperandChecked,
    toHandler_aluSource, toHandler_look, toHandler_flagsThenWrite, bind_assoc, pure_bind,
    ExecutionContext.withoutMemory_state]

theorem toHandler_handleShift (op : ShiftOp) (width : RmWidth) (source : ShiftCountSource) :
    (handleShift op width source).toHandler = Seven.handleShift op width source := by
  have hshift (kind : ShiftKind) : (shiftRm width.bytes kind source).toHandler =
      Seven.shiftRm width.bytes kind source :=
    toHandler_rmwOperand _ fun ctx lhs => by rw [readShiftCount_withoutMemory]; rfl
  have hrotate (left : Bool) : (rotate left width.bytes source).toHandler =
      Seven.rotate left width.bytes source :=
    toHandler_rmwOperand _ fun ctx lhs => by rw [rawShiftCount_withoutMemory]; rfl
  have hcarry (left : Bool) : (rotateCarry left width.bytes source).toHandler =
      Seven.rotateCarry left width.bytes source :=
    toHandler_rmwOperand _ fun ctx lhs => by rw [rawShiftCount_withoutMemory]; rfl
  cases op with
  | shl => exact hshift .left
  | sal => exact hshift .left
  | shr => exact hshift .logicalRight
  | sar => exact hshift .arithmeticRight
  | rol => exact hrotate true
  | ror => exact hrotate false
  | rcl => exact hcarry true
  | rcr => exact hcarry false

theorem toHandler_handleXadd (width : RmWidth) :
    (handleXadd width).toHandler = Seven.handleXadd width := by
  simp only [handleXadd, Seven.handleXadd, toHandler_bind, toHandler_readOperandChecked,
    toHandler_look, toHandler_flagsThenWrite, toHandler_writeOperandChecked, bind_assoc, pure_bind,
    ExecutionContext.withoutMemory_state, ExecutionContext.withoutMemory_instr]

theorem toHandler_compareExchange (width : RmWidth) (flags : U64 → U64 → U64 → Bool → U64) :
    (compareExchange width flags).toHandler = Seven.compareExchange width flags := by
  simp only [compareExchange, Seven.compareExchange, toHandler_bind, toHandler_readOperandChecked,
    toHandler_look, toHandler_ite, toHandler_writeOperandChecked, toHandler_modifyState, bind_assoc,
    pure_bind, ExecutionContext.withoutMemory_state, ExecutionContext.withoutMemory_instr]
  rfl

theorem toHandler_handleBit (op : BitOp) (width : RmWideWidth) (source : BitIndexSource) :
    (handleBit op width source).toHandler = Seven.handleBit op width source := by
  funext ctx
  unfold handleBit Seven.handleBit
  dsimp only
  rw [look_bind, bitIndex_withoutMemory]
  show (toHandler (ite _ _ _)) ctx = (ite _ _ _ : Handler) ctx
  rw [toHandler_ite, ctx.withoutMemory_instr]
  by_cases hmemory : ctx.instr.opKind 0 = .memory
  · rw [if_pos hmemory, if_pos hmemory]
    exact load_bind rfl fun value => store_bind rfl fun c => rfl
  · rw [if_neg hmemory, if_neg hmemory]
    simp only [toHandler_bind, toHandler_readOperandChecked, toHandler_writeOperandChecked,
      toHandler_modifyState]

end AccessM

/-- The program of a read-modify-write instruction. -/
def RmwCode.program : RmwCode → AccessM Unit
  | .alu op form => AccessM.handleAlu op form
  | .unary op width => AccessM.handleUnary op width
  | .shift op width source => AccessM.handleShift op width source
  | .doubleShift op width source => AccessM.handleDoubleShift op width source
  | .xadd width => AccessM.handleXadd width
  | .cmpxchg width => AccessM.handleCmpxchg width
  | .cmpxchg486 width => AccessM.handleCmpxchg486 width
  | .bit op width source => AccessM.handleBit op width source

/-- Every read-modify-write program is its handler. -/
theorem RmwCode.toHandler_program (c : RmwCode) : c.program.toHandler = c.handler := by
  cases c with
  | alu op form => exact AccessM.toHandler_handleAlu op form
  | unary op width => exact AccessM.toHandler_rmwOperand _ fun ctx lhs => rfl
  | shift op width source => exact AccessM.toHandler_handleShift op width source
  | doubleShift op width source =>
    exact AccessM.toHandler_rmwOperand _ fun ctx lhs => by
      rw [AccessM.rawShiftCount_withoutMemory]
      rfl
  | xadd width => exact AccessM.toHandler_handleXadd width
  | cmpxchg width =>
    exact AccessM.toHandler_compareExchange width fun rflags acc lhs success =>
      setCmpxchgFlags rflags acc lhs width.bytes success
  | cmpxchg486 width =>
    exact AccessM.toHandler_compareExchange (narrowRm width) fun rflags _ _ success =>
      setFlag rflags kFlagZF success
  | bit op width source => exact AccessM.toHandler_handleBit op width source

end Seven
