import Seven.Cpu.Context

/-!
# Pushes, pops, calls, returns, interrupts

Every instruction that moves the stack pointer, as the handlers under
`handlers/control_flow` and `handlers/misc/system.cpp` write it. The two
primitives differ in their order: `pushWidth` moves the stack pointer and
then stores, `popWidth` loads and then moves it. Everything else is a
sequence of these, and where a sequence can fail in the middle it leaves the
stack pointer where it got to.

The handlers of one family differ in a width or an index only. `StackShape`
is the family with those values, `StackCode.shape` the table of the source's
`handle_code_*` functions.
-/

namespace Seven

/-! ## The two primitives -/

/-- Move the stack pointer down, then store. A width the function has no
case for refuses after the move. -/
def pushSlot (widths : List Nat) (refuse : Handler) (value : U64) (width : Nat) : Handler := do
  modifyState fun s => s.setRsp (maskStackPointer s (s.rsp - BitVec.ofNat 64 width))
  if width ∈ widths then
    writeMemoryChecked (← get).state.rsp value width
  else
    refuse

/-- `push_width`. -/
def pushWidth (value : U64) (width : Nat) : Handler :=
  pushSlot [1, 2, 4, 8] unsupportedInstruction value width

/-- Load, then move the stack pointer up. -/
def popWidth (width : Nat) : HandlerM U64 := do
  if width ∈ [1, 2, 4, 8] then
    let value ← readMemoryChecked (← get).state.rsp width
    modifyState fun s => s.setRsp (maskStackPointer s (s.rsp + BitVec.ofNat 64 width))
    return value
  else
    unsupportedInstruction

/-! ## Interrupt delivery -/

/-- `InterruptGate`. -/
structure InterruptGate where
  targetRip : U64
  targetCs : BitVec 16
  gateType : U64

/-- A general protection fault for the vector. -/
def gpFault {α : Type} (vector : BitVec 8) : HandlerM α :=
  faultHere .generalProtection (vector.setWidth 32)

/-- `kEntrySize` of the mode. -/
def idtEntrySize : ExecutionMode → Nat
  | .real16 => 4
  | .compat32 => 8
  | .long64 => 16

/-- `idt_has_entry`. -/
def idtHasEntry (state : CpuState) (vector : BitVec 8) : Bool :=
  decide ((vector.toNat + 1) * idtEntrySize state.mode - 1 ≤ state.idtr.limit.toNat)

/-- `idt_entry_base`. -/
def idtEntryBase (state : CpuState) (vector : BitVec 8) : U64 :=
  state.idtr.base + vector.setWidth 64 * BitVec.ofNat 64 (idtEntrySize state.mode)

/-- The gate of a protected-mode descriptor; a general protection fault when
it is absent or neither an interrupt nor a trap gate. -/
def descriptorGate (vector : BitVec 8) (targetRip descriptor : U64) : HandlerM InterruptGate :=
  let typeAttr := (descriptor >>> 40) &&& 0xFF#64
  let present := typeAttr &&& 0x80#64 != 0#64
  let gateType := typeAttr &&& 0x0F#64
  if !present || (gateType != 0x0E#64 && gateType != 0x0F#64) then gpFault vector
  else pure ⟨targetRip, (descriptor >>> 16).setWidth 16, gateType⟩

/-- The part of the gate's target a descriptor's low half holds. -/
def descriptorOffset (descriptor : U64) : U64 :=
  (descriptor &&& 0xFFFF#64) ||| (((descriptor >>> 48) &&& 0xFFFF#64) <<< 16)

/-- `read_idt_gate`. -/
def readGate (vector : BitVec 8) : HandlerM InterruptGate := do
  let state := (← get).state
  if !idtHasEntry state vector then
    gpFault vector
  else
    let entryBase := idtEntryBase state vector
    match state.mode with
    | .real16 =>
      let ip ← readMemoryChecked entryBase 2
      let cs ← readMemoryChecked (entryBase + 2#64) 2
      return ⟨ip, cs.setWidth 16, 0x0E#64⟩
    | .compat32 =>
      let descriptor ← readMemoryChecked entryBase 8
      descriptorGate vector (descriptorOffset descriptor &&& 0xFFFFFFFF#64) descriptor
    | .long64 =>
      let descLo ← readMemoryChecked entryBase 8
      let descHi ← readMemoryChecked (entryBase + 8#64) 8
      descriptorGate vector
        (descriptorOffset descLo ||| ((descHi &&& 0xFFFFFFFF#64) <<< 32)) descLo

/-- Pushes one after the other. -/
def pushAllOf (widths : List Nat) (refuse : Handler) : List (U64 × Nat) → Handler
  | [] => pure ()
  | (value, width) :: rest => do
    pushSlot widths refuse value width
    pushAllOf widths refuse rest

/-- The frame of `dispatch_interrupt`: flags, code segment, return address
and, when there is one, the error code. -/
def interruptFrame (state : CpuState) (returnRip : U64) (errorCode : Option (BitVec 32))
    (pushRfInFrame : Bool) : List (U64 × Nat) :=
  let width := instructionPointerWidth state.mode
  let rflags := if pushRfInFrame then state.rflags ||| kFlagRF else state.rflags
  [(rflags, width), ((state.sreg 1).setWidth 64, 2), (returnRip, width)] ++
    errorCode.toList.map fun code => (code.setWidth 64, width)

/-- The state the interrupt handler starts in. -/
def enterGate (gate : InterruptGate) (s : CpuState) : CpuState :=
  let rflags := if gate.gateType = 0x0E#64 then setFlag s.rflags kFlagIF false else s.rflags
  let s := { s with rflags := rflags &&& ~~~kFlagTF }
  let s := s.setSreg 1 gate.targetCs
  { s with rip := maskInstructionPointer s gate.targetRip }

/-- `dispatch_interrupt`. -/
def dispatchInterrupt (vector : BitVec 8) (returnRip : U64) (errorCode : Option (BitVec 32))
    (pushRfInFrame : Bool) : Handler := do
  let gate ← readGate vector
  let state := (← get).state
  pushAllOf [2, 4, 8] (gpFault vector) (interruptFrame state returnRip errorCode pushRfInFrame)
  modifyState (enterGate gate)
  takeControlFlow

/-! ## Push -/

/-- `push_operand_width`. -/
def pushOperandWidth (width : Nat) : Handler := do
  let value ← readOperandChecked 0 width
  pushWidth value width

/-- `push_imm_width`. -/
def pushImmWidth (immWidth stackWidth : Nat) (signExtendImm : Bool) : Handler := do
  let value ← readOperandChecked 0 immWidth
  pushWidth (if signExtendImm then signExtend value immWidth else value) stackWidth

/-- `push_segment`. -/
def pushSegment (index stackWidth : Nat) : Handler := do
  if h : index < 6 then
    pushWidth (((← get).state.sreg ⟨index, h⟩).setWidth 64) stackWidth
  else
    unsupportedInstruction

/-- `PUSHF`, `PUSHFD`, `PUSHFQ`. The last writes through `memory.write` itself;
the fault it builds is `memory_fault` at the new stack pointer, that of
`push_width`. -/
def pushFlagsWidth (stackWidth : Nat) : Handler := do
  pushWidth (← get).state.rflags stackWidth

/-- The eight registers of `PUSHA`, the stack pointer as it was. -/
def pushAllRegisters (state : CpuState) : List U64 :=
  [state.gpr 0, state.gpr 1, state.gpr 2, state.gpr 3, state.rsp, state.gpr 5, state.gpr 6,
    state.gpr 7]

/-- `push_all_width`. -/
def pushAllWidth (width : Nat) : Handler := do
  let state := (← get).state
  pushAllOf [1, 2, 4, 8] unsupportedInstruction
    ((pushAllRegisters state).map fun value => (value, width))

/-! ## Pop -/

/-- After a pop into `SS` the debug exceptions wait for one instruction. -/
def notePopSs (oldSp : U64) (width : Nat) : Handler := fun ctx =>
  if ctx.instr.opKind 0 = .register ∧ ctx.instr.opRegister 0 = .ss then
    let s := { ctx.state with
      debugSuppression := 1#8
      pendingSingleStep := ctx.state.pendingSingleStep || flagSet ctx.state.rflags kFlagTF }
    let hits := debugDataBreakpointHits s oldSp (BitVec.ofNat 64 width) true false
    .ok () { ctx with state := s, debugHitBits := ctx.debugHitBits ||| hits }
  else .ok () ctx

/-- `pop_operand_width`. -/
def popOperandWidth (width : Nat) : Handler := do
  let oldSp := (← get).state.rsp
  let value ← popWidth width
  writeOperandChecked 0 value width
  notePopSs oldSp width

/-- IF, IOPL, VM, VIF and VIP, which user-mode `POPF` cannot change. -/
def kSysBits : U64 :=
  kFlagIF ||| (3#64 <<< 12) ||| (1#64 <<< 17) ||| (1#64 <<< 19) ||| (1#64 <<< 20)

/-- What `POPFQ` makes of the popped value: the system bits stay, IF and bit 1 are set. -/
def popfqFlags (rflags value : U64) : U64 :=
  ((value &&& ~~~kSysBits &&& ~~~kFlagRF) ||| (rflags &&& kSysBits)) ||| (kFlagIF ||| 2#64)

/-- `handle_code_POPFQ`. -/
def handlePopfq : Handler := do
  let value ← readMemoryChecked (← get).state.rsp 8
  modifyState fun s =>
    let s := { s with rflags := popfqFlags s.rflags value }
    s.setRsp (maskStackPointer s (s.rsp + 8#64))

/-! ## Call -/

/-- The 64-bit register of a 32-bit name. -/
def promoteGpr32To64 : Register → Register
  | .r32 i => .r64 i
  | reg => reg

/-- `read_near_target_width`. -/
def readNearTargetWidth (width : Nat) : HandlerM U64 := do
  let ctx ← get
  if width = 8 ∧ ctx.state.mode = .long64 ∧ ctx.instr.opKind 0 = .register then
    return readRegister ctx.state (promoteGpr32To64 (ctx.instr.opRegister 0))
  else
    readOperandChecked 0 width

/-- `state.rip = target` and the control transfer. -/
def jumpTo (target : U64) : Handler := do
  modifyState fun s => { s with rip := target }
  takeControlFlow

/-- `call_rm_width`. -/
def callRmWidth (width : Nat) : Handler := do
  let target ← readNearTargetWidth width
  pushWidth (← get).nextRip width
  jumpTo target

/-- `CALL_RM32` is a 64-bit call in long mode. -/
def handleCallRm32 : Handler := do
  if (← get).state.mode = .long64 then callRmWidth 8 else callRmWidth 4

/-- `call_rel_width`. -/
def callRelWidth (width : Nat) : Handler := do
  let ctx ← get
  pushWidth ctx.nextRip width
  jumpTo ctx.instr.nearBranch64

/-- The selector is pushed as the callee's, and above the offset. -/
def pushFarReturn (selector : BitVec 16) (offset : U64) (offsetWidth : Nat) : Handler :=
  pushAllOf [1, 2, 4, 8] unsupportedInstruction
    [(offset, offsetWidth), (selector.setWidth 64, 2)]

/-- The far pointer in memory. -/
def readFarMem (offsetWidth : Nat) : HandlerM (U64 × BitVec 16) := do
  let offset ← readOperandChecked 0 offsetWidth
  let ctx ← get
  let address := memoryAddress ctx.state ctx.instr + BitVec.ofNat 64 offsetWidth
  let selector ← readMemoryChecked address 2
  return (offset, selector.setWidth 16)

/-- `mode_for_far_width`. -/
def modeForFarWidth (width : Nat) : ExecutionMode :=
  if width = 2 then .real16 else if width = 4 then .compat32 else .long64

/-- The jump of a far transfer. -/
def farJumpTo (mode : ExecutionMode) (selector : BitVec 16) (target : U64) : Handler := do
  modifyState fun s =>
    let s := { s with mode := mode }
    let s := s.setSreg 1 selector
    { s with rip := target }
  takeControlFlow

/-- `CALL_M1616`, `CALL_M1632`, `CALL_M1664`; the mode each sets is the one
of its offset width. -/
def callFarMem (offsetWidth : Nat) : Handler := do
  let (target, selector) ← readFarMem offsetWidth
  pushFarReturn selector (← get).nextRip offsetWidth
  farJumpTo (modeForFarWidth offsetWidth) selector target

/-- `call_far_ptr`. -/
def callFarPtr (offsetWidth : Nat) : Handler := do
  let ctx ← get
  let selector := ctx.instr.farBranchSelector
  let target := if offsetWidth = 2 then ctx.instr.farBranch16 else ctx.instr.farBranch32
  pushFarReturn selector ctx.nextRip offsetWidth
  farJumpTo (modeForFarWidth offsetWidth) selector target

/-! ## Return -/

/-- The immediate of `RET imm16`, 0 for the forms without one. -/
def retImm (withImm : Bool) (instr : Instruction) : U64 :=
  if withImm then instr.immediate16 &&& 0xFFFF#64 else 0#64

/-- `ret_width`. -/
def retWidth (width : Nat) (withImm : Bool) : Handler := do
  let target ← popWidth width
  let imm16 := retImm withImm (← get).instr
  modifyState fun s =>
    let s := { s with rip := maskInstructionPointer s target }
    s.setRsp (maskStackPointer s (s.rsp + imm16))
  takeControlFlow

/-- `retf_width`. -/
def retfWidth (offsetWidth : Nat) (withImm : Bool) : Handler := do
  let target ← popWidth offsetWidth
  let selector ← popWidth 2
  let imm16 := retImm withImm (← get).instr
  modifyState fun s =>
    let s := { s with mode := modeForFarWidth offsetWidth }
    let s := s.setSreg 1 (selector.setWidth 16)
    let s := { s with rip := maskInstructionPointer s target }
    s.setRsp (maskStackPointer s (s.rsp + imm16))
  takeControlFlow

/-- The flags `IRET` loads, by width. -/
def iretFlags (rflags flags : U64) (flagsWidth : Nat) : U64 :=
  if flagsWidth = 8 then flags
  else if flagsWidth = 4 then (rflags &&& ~~~0xFFFFFFFF#64) ||| (flags &&& 0xFFFFFFFF#64)
  else (rflags &&& ~~~0xFFFF#64) ||| (flags &&& 0xFFFF#64)

/-- `iret_width`. -/
def iretWidth (offsetWidth flagsWidth : Nat) : Handler := do
  let target ← popWidth offsetWidth
  let selector ← popWidth 2
  let flags ← popWidth flagsWidth
  modifyState fun s =>
    let s := { s with mode := modeForFarWidth offsetWidth }
    let s := s.setSreg 1 (selector.setWidth 16)
    let s := { s with rip := maskInstructionPointer s target }
    { s with rflags := iretFlags s.rflags flags flagsWidth }
  takeControlFlow

/-! ## Software interrupts -/

/-- `INT1`, `INT3`, and `INT imm8` when there is no fixed vector. -/
def handleInt (vector : Option (BitVec 8)) : Handler := do
  let ctx ← get
  dispatchInterrupt (vector.getD (ctx.instr.immediate8.setWidth 8)) ctx.nextRip none false

/-- `INTO`. -/
def handleInto : Handler := do
  let ctx ← get
  if flagSet ctx.state.rflags kFlagOF then dispatchInterrupt 4#8 ctx.nextRip none false
  else pure ()

/-! ## The table -/

/-- The widths of stack operands. -/
inductive StackWidth where
  | w16 | w32 | w64
deriving DecidableEq, Repr

/-- The slot's bytes. -/
def StackWidth.bytes : StackWidth → Nat
  | .w16 => 2
  | .w32 => 4
  | .w64 => 8

/-- A handler family with the values its members differ in. -/
inductive StackShape where
  | pushOperand (width : StackWidth)
  | pushImm (immWidth : Nat) (width : StackWidth) (signExtendImm : Bool)
  | pushSegment (index : Fin 6) (width : StackWidth)
  | pushFlags (width : StackWidth)
  | pushAll (width : StackWidth)
  | popOperand (width : StackWidth)
  | popfq
  | callRm (width : StackWidth)
  | callRm32
  | callRel (width : StackWidth)
  | callFarMem (width : StackWidth)
  | callFarPtr (width : StackWidth)
  | ret (width : StackWidth) (withImm : Bool)
  | retf (width : StackWidth) (withImm : Bool)
  | iret (width : StackWidth)
  | int (vector : Option (BitVec 8))
  | into
deriving DecidableEq

/-- The handler of a shape. -/
def StackShape.handler : StackShape → Handler
  | .pushOperand w => pushOperandWidth w.bytes
  | .pushImm i w sx => pushImmWidth i w.bytes sx
  | .pushSegment i w => Seven.pushSegment i w.bytes
  | .pushFlags w => pushFlagsWidth w.bytes
  | .pushAll w => pushAllWidth w.bytes
  | .popOperand w => popOperandWidth w.bytes
  | .popfq => handlePopfq
  | .callRm w => callRmWidth w.bytes
  | .callRm32 => handleCallRm32
  | .callRel w => callRelWidth w.bytes
  | .callFarMem w => Seven.callFarMem w.bytes
  | .callFarPtr w => Seven.callFarPtr w.bytes
  | .ret w withImm => retWidth w.bytes withImm
  | .retf w withImm => retfWidth w.bytes withImm
  | .iret w => iretWidth w.bytes w.bytes
  | .int vector => handleInt vector
  | .into => handleInto

/-- What each `handle_code_*` function of the family calls. -/
def StackCode.shape : StackCode → StackShape
  | .pushR16 => .pushOperand .w16
  | .pushR32 => .pushOperand .w32
  | .pushR64 => .pushOperand .w64
  | .pushRm16 => .pushOperand .w16
  | .pushRm32 => .pushOperand .w32
  | .pushRm64 => .pushOperand .w64
  | .pushImm16 => .pushImm 2 .w16 false
  | .pushwImm8 => .pushImm 1 .w16 true
  | .pushdImm8 => .pushImm 1 .w32 true
  | .pushdImm32 => .pushImm 4 .w32 true
  | .pushqImm8 => .pushImm 1 .w64 true
  | .pushqImm32 => .pushImm 4 .w64 true
  | .pushwEs => .pushSegment 0 .w16
  | .pushwCs => .pushSegment 1 .w16
  | .pushwSs => .pushSegment 2 .w16
  | .pushwDs => .pushSegment 3 .w16
  | .pushwFs => .pushSegment 4 .w16
  | .pushwGs => .pushSegment 5 .w16
  | .pushdEs => .pushSegment 0 .w32
  | .pushdCs => .pushSegment 1 .w32
  | .pushdSs => .pushSegment 2 .w32
  | .pushdDs => .pushSegment 3 .w32
  | .pushdFs => .pushSegment 4 .w32
  | .pushdGs => .pushSegment 5 .w32
  | .pushqFs => .pushSegment 4 .w64
  | .pushqGs => .pushSegment 5 .w64
  | .pushfw => .pushFlags .w16
  | .pushfd => .pushFlags .w32
  | .pushfq => .pushFlags .w64
  | .pushaw => .pushAll .w16
  | .pushad => .pushAll .w32
  | .popR16 => .popOperand .w16
  | .popR32 => .popOperand .w32
  | .popR64 => .popOperand .w64
  | .popRm16 => .popOperand .w16
  | .popRm32 => .popOperand .w32
  | .popRm64 => .popOperand .w64
  | .popwSs => .popOperand .w16
  | .popdSs => .popOperand .w32
  | .popfq => .popfq
  | .callRm16 => .callRm .w16
  | .callRm32 => .callRm32
  | .callRm64 => .callRm .w64
  | .callRel16 => .callRel .w16
  | .callRel32_32 => .callRel .w32
  | .callRel32_64 => .callRel .w64
  | .callM1616 => .callFarMem .w16
  | .callM1632 => .callFarMem .w32
  | .callM1664 => .callFarMem .w64
  | .callPtr1616 => .callFarPtr .w16
  | .callPtr1632 => .callFarPtr .w32
  | .retnw => .ret .w16 false
  | .retnd => .ret .w32 false
  | .retnq => .ret .w64 false
  | .retnwImm16 => .ret .w16 true
  | .retndImm16 => .ret .w32 true
  | .retnqImm16 => .ret .w64 true
  | .retfw => .retf .w16 false
  | .retfd => .retf .w32 false
  | .retfq => .retf .w64 false
  | .retfwImm16 => .retf .w16 true
  | .retfdImm16 => .retf .w32 true
  | .retfqImm16 => .retf .w64 true
  | .iretw => .iret .w16
  | .iretd => .iret .w32
  | .iretq => .iret .w64
  | .int1 => .int (some 1#8)
  | .int3 => .int (some 3#8)
  | .intImm8 => .int none
  | .into => .into

/-- The handler of a code. -/
def StackCode.handler (c : StackCode) : Handler := c.shape.handler

end Seven
