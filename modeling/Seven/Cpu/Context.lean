import Seven.Cpu.Instruction

/-!
# The handler context and its helpers

A handler runs in an `ExecutionContext`: the CPU state, the memory and the
decoded instruction, with the three things it may tell the executor back.
It returns nothing or fails with a result — and a failed handler keeps
every change it made before failing, which is what the restart questions
are about. That is `EStateM`: an error carries the state it stopped in.

The helpers below are the ones every handler is written with: register and
operand access, the checked memory accesses that turn a refused access into
a page fault, and the flag updates of the ALU.
-/

namespace Seven

/-- `ExecutionResult`. -/
structure ExecutionResult where
  reason : StopReason := .none
  retired : Nat := 0
  exception : Option ExceptionInfo := none
  code : Option Code := none
deriving DecidableEq

/-- Nothing happened, or the processor halted. -/
def ExecutionResult.ok (r : ExecutionResult) : Bool := r.reason == .none || r.reason == .halted

/-- `ExecutionContext`: what a handler reads and writes. -/
structure ExecutionContext where
  state : CpuState
  memory : Memory
  instr : Instruction
  nextRip : U64
  controlFlowTaken : Bool := false
  debugHitBits : U64 := 0#64
  pushRfForDebug : Bool := false

/-- A part of a handler: it ends with a value, or with the result that ends the handler. -/
abbrev HandlerM (α : Type) := EStateM ExecutionResult ExecutionContext α

/-- A handler of the dispatch table. -/
abbrev Handler := HandlerM Unit

/-- The result a handler hands to the executor. -/
def Handler.run (h : Handler) (ctx : ExecutionContext) : ExecutionResult × ExecutionContext :=
  match h ctx with
  | .ok () ctx' => ({}, ctx')
  | .error r ctx' => (r, ctx')

/-! ## Words and bytes -/

/-- Little-endian bytes of a word. -/
def toBytes (value : U64) (n : Nat) : List Byte :=
  (List.range n).map fun i => (value >>> (8 * i)).setWidth 8

/-- The word whose little-endian bytes these are. -/
def fromBytes (bytes : List Byte) : U64 :=
  bytes.foldr (fun b acc => (acc <<< 8) ||| b.setWidth 64) 0#64

/-- As many bytes as asked for. -/
theorem toBytes_length (value : U64) (n : Nat) : (toBytes value n).length = n := by
  simp [toBytes]

/-- One byte is itself. -/
theorem toBytes_one (b : Byte) : toBytes (b.setWidth 64) 1 = [b] := by
  show [(b.setWidth 64 >>> 0).setWidth 8] = _
  rw [BitVec.ushiftRight_zero, BitVec.setWidth_setWidth_of_le _ (by decide), BitVec.setWidth_eq]

/-- One byte back. -/
theorem fromBytes_one (b : Byte) : fromBytes [b] = b.setWidth 64 := by
  show 0#64 <<< 8 ||| b.setWidth 64 = b.setWidth 64
  rw [BitVec.zero_shiftLeft, BitVec.zero_or]

/-! ## Registers -/

/-- `register_width`. -/
def registerWidth : Register → Nat
  | .r8 _ | .r8h _ => 1
  | .r16 _ | .sreg _ => 2
  | .r32 _ => 4
  | _ => 8

/-- `read_register`; the high byte registers lie in the first four. -/
def readRegister (state : CpuState) : Register → U64
  | .r8 i => state.gpr i &&& 0xFF#64
  | .r8h i => (state.gpr (lowIndex i) >>> 8) &&& 0xFF#64
  | .r16 i => state.gpr i &&& 0xFFFF#64
  | .r32 i => state.gpr i &&& 0xFFFFFFFF#64
  | .r64 i => state.gpr i
  | .sreg i => (state.sreg i).setWidth 64
  | .cr i => state.cr i
  | .dr i => state.dr i
  | .tr i => state.tr i
  | .mm i => state.mmx i
  | .none | .other _ => state.gpr 0

/-- The general register a name belongs to, index 0 when it is none. -/
def Register.gprIndex : Register → Fin 16
  | .r8 i | .r16 i | .r32 i | .r64 i => i
  | .r8h i => lowIndex i
  | _ => 0

/-- The merge of a value into a general register, by width. -/
def mergeGpr (raw value : U64) (high : Bool) : Nat → U64
  | 1 =>
    if high then (raw &&& ~~~0xFF00#64) ||| ((value &&& 0xFF#64) <<< 8)
    else (raw &&& ~~~0xFF#64) ||| (value &&& 0xFF#64)
  | 2 => (raw &&& ~~~0xFFFF#64) ||| (value &&& 0xFFFF#64)
  | 4 => value &&& 0xFFFFFFFF#64
  | _ => value

/-- `write_register`; a width override of 0 means the register's own. -/
def writeRegister (state : CpuState) (reg : Register) (value : U64) (widthOverride : Nat) :
    CpuState :=
  match reg with
  | .sreg i => state.setSreg i (value.setWidth 16)
  | .cr i => { state with cr := fun j => if j = i then value else state.cr j }
  | .dr i => state.setDr i value
  | .tr i => { state with tr := fun j => if j = i then value else state.tr j }
  | .mm i =>
    { state with
      mmx := fun j => if j = i then value else state.mmx j
      x87Tags := fun j => if j = i then 0#8 else state.x87Tags j }
  | reg =>
    let width := if widthOverride ≠ 0 then widthOverride else registerWidth reg
    let high := match reg with
      | .r8h _ => true
      | _ => false
    state.setGpr reg.gprIndex (mergeGpr (state.gpr reg.gprIndex) value high width)

/-! ## Operands -/

/-- `memory_address`: base, index times scale, displacement and the segment's base. -/
def memoryAddress (state : CpuState) (instr : Instruction) : U64 :=
  if instr.isIpRelMemoryOperand then maskLinearAddress state instr.ipRelMemoryAddress
  else
    let base := if instr.memoryBase = .none then 0#64 else readRegister state instr.memoryBase
    let index :=
      if instr.memoryIndex = .none then 0#64
      else readRegister state instr.memoryIndex * instr.memoryIndexScale
    let segment :=
      if instr.segmentPrefix = .fs then state.fsBase
      else if instr.segmentPrefix = .gs then state.gsBase
      else 0#64
    maskLinearAddress state (base + index + instr.memoryDisplacement64 + segment)

/-- `immediate_value`, extended as the operand's kind says. -/
def immediateValue (instr : Instruction) (operandIndex : Nat) : U64 :=
  match instr.opKind operandIndex with
  | .immediate8 => instr.immediate8
  | .immediate8_2nd => instr.immediate8_2nd
  | .immediate16 => instr.immediate16
  | .immediate32 => instr.immediate32
  | .immediate64 => instr.immediate64
  | .immediate8to16 => instr.immediate8to16
  | .immediate8to32 => instr.immediate8to32
  | .immediate8to64 => instr.immediate8to64
  | .immediate32to64 => instr.immediate32to64
  | .nearBranch16 => instr.nearBranch16
  | .nearBranch32 => instr.nearBranch32
  | .nearBranch64 => instr.nearBranch64
  | .register | .memory | .other _ => 0#64

/-- `read_operand`; `none` when the memory read is refused. -/
def readOperand (ctx : ExecutionContext) (operandIndex width : Nat) : Option U64 :=
  match ctx.instr.opKind operandIndex with
  | .register => some (readRegister ctx.state (ctx.instr.opRegister operandIndex))
  | .memory =>
    (ctx.memory.read (memoryAddress ctx.state ctx.instr) width .dataRead).map fun bytes =>
      truncate (fromBytes bytes) width
  | _ => some (truncate (immediateValue ctx.instr operandIndex) width)

/-- `write_operand`; an operand that is neither a register nor memory
refuses. -/
def writeOperand (ctx : ExecutionContext) (operandIndex : Nat) (value : U64) (width : Nat) :
    ExecutionContext × Bool :=
  match ctx.instr.opKind operandIndex with
  | .register =>
    let reg := ctx.instr.opRegister operandIndex
    ({ ctx with state := writeRegister ctx.state reg (truncate value width) 0 }, true)
  | .memory =>
    let r := ctx.memory.write (memoryAddress ctx.state ctx.instr)
      (toBytes (truncate value width) width) .dataWrite
    ({ ctx with memory := r.1 }, r.2)
  | _ => (ctx, false)

/-! ## Checked accesses -/

/-- What `memory_fault` reports. -/
def pageFaultAt (ctx : ExecutionContext) (address : U64) : ExecutionResult :=
  { reason := .pageFault
    exception := some ⟨.pageFault, address, 0#32⟩
    code := some ctx.instr.code }

/-- `memory_fault`. -/
def memoryFault {α : Type} (address : U64) : HandlerM α := fun ctx =>
  .error (pageFaultAt ctx address) ctx

/-- `read_memory_checked`. -/
def readMemoryChecked (address : U64) (width : Nat) : HandlerM U64 := fun ctx =>
  match ctx.memory.read address width .dataRead with
  | some bytes => .ok (fromBytes bytes) ctx
  | none => memoryFault address ctx

/-- `write_memory_checked`. -/
def writeMemoryChecked (address value : U64) (width : Nat) : Handler := fun ctx =>
  match ctx.memory.write address (toBytes value width) .dataWrite with
  | (memory, true) => .ok () { ctx with memory := memory }
  | (memory, false) => memoryFault address { ctx with memory := memory }

/-- `read_operand_checked`. -/
def readOperandChecked (operandIndex width : Nat) : HandlerM U64 := fun ctx =>
  match readOperand ctx operandIndex width with
  | some value => .ok value ctx
  | none => memoryFault (memoryAddress ctx.state ctx.instr) ctx

/-- `write_operand_checked`. -/
def writeOperandChecked (operandIndex : Nat) (value : U64) (width : Nat) : Handler := fun ctx =>
  match writeOperand ctx operandIndex value width with
  | (ctx', true) => .ok () ctx'
  | (ctx', false) => memoryFault (memoryAddress ctx'.state ctx'.instr) ctx'

/-- The state changed by `f`. -/
def modifyState (f : CpuState → CpuState) : Handler := fun ctx =>
  .ok () { ctx with state := f ctx.state }

/-- `ctx.control_flow_taken = true`. -/
def takeControlFlow : Handler := fun ctx => .ok () { ctx with controlFlowTaken := true }

/-- Fail with a fault that names the current instruction pointer. -/
def faultHere {α : Type} (reason : StopReason) (errorCode : BitVec 32) : HandlerM α := fun ctx =>
  .error
    { reason := reason
      exception := some ⟨reason, ctx.state.rip, errorCode⟩
      code := some ctx.instr.code } ctx

/-- The result of an instruction the emulator does not support. -/
def unsupportedInstruction {α : Type} : HandlerM α := faultHere .unsupportedInstruction 0#32

/-! ## Flags of the ALU -/

/-- `RFLAGS` replaced. -/
def setFlags (state : CpuState) (rflags : U64) : CpuState := { state with rflags := rflags }

/-- ZF, SF and PF of a result. -/
def setResultFlags (rflags result : U64) (width : Nat) : U64 :=
  let r := setFlag rflags kFlagZF (result == 0#64)
  let r := setFlag r kFlagSF (flagSet result (signBitForWidth width))
  setFlag r kFlagPF (evenParity result)

/-- `set_logic_flags`. -/
def setLogicFlags (rflags value : U64) (width : Nat) : U64 :=
  let value := truncate value width
  let r := setFlag rflags kFlagCF false
  let r := setFlag r kFlagOF false
  let r := setFlag r kFlagAF false
  setResultFlags r value width

/-- `set_add_flags`. -/
def setAddFlags (rflags lhs rhs result : U64) (width : Nat) (carryIn : Bool) : U64 :=
  let mask := maskForWidth width
  let lhs := lhs &&& mask
  let rhs := rhs &&& mask
  let result := result &&& mask
  let partialSum := lhs + rhs
  let finalResult := partialSum + (if carryIn then 1#64 else 0#64)
  let carry := partialSum < lhs || (carryIn && finalResult == 0#64) ||
    (width < 8 && finalResult &&& ~~~mask != 0#64)
  let r := setFlag rflags kFlagCF carry
  let r := setFlag r kFlagAF (flagSet (lhs ^^^ rhs ^^^ result) 0x10#64)
  let r := setResultFlags r result width
  setFlag r kFlagOF (flagSet (~~~(lhs ^^^ rhs) &&& (lhs ^^^ result)) (signBitForWidth width))

/-- `set_sub_flags`. -/
def setSubFlags (rflags lhs rhs result : U64) (width : Nat) (borrowIn : Bool) : U64 :=
  let mask := maskForWidth width
  let lhs := lhs &&& mask
  let rhs := rhs &&& mask
  let result := result &&& mask
  let borrow := if borrowIn then 1#64 else 0#64
  let subtrahendOverflowed := width == 8 && borrowIn && rhs == mask
  let r := setFlag rflags kFlagCF (subtrahendOverflowed || lhs < rhs + borrow)
  let r := setFlag r kFlagAF (flagSet (lhs ^^^ rhs ^^^ result) 0x10#64)
  let r := setResultFlags r result width
  setFlag r kFlagOF (flagSet ((lhs ^^^ rhs) &&& (lhs ^^^ result)) (signBitForWidth width))

/-! ## Data breakpoints -/

/-- The length field of `DR7`. -/
def drLenFromEncoding (len : U64) : U64 :=
  if len &&& 3#64 = 0#64 then 1#64
  else if len &&& 3#64 = 1#64 then 2#64
  else if len &&& 3#64 = 2#64 then 8#64
  else 4#64

/-- One breakpoint register against one access. -/
def dataBreakpointHit (state : CpuState) (address size : U64) (isRead isWrite : Bool)
    (i : Fin 4) : Bool :=
  let dr7 := state.dr 7
  let enabled := (dr7 >>> (i.val * 2)) &&& 3#64 != 0#64
  let rw := (dr7 >>> (16 + i.val * 4)) &&& 3#64
  let accessMatches := (rw == 1#64 && isWrite) || (rw == 3#64 && (isRead || isWrite))
  let watchBase := maskLinearAddress state (state.dr (lowIndex i))
  let watchSize := drLenFromEncoding (dr7 >>> (18 + i.val * 4))
  enabled && accessMatches && watchSize != 0#64 && size != 0#64 &&
    decide (watchBase < address + size) && decide (address < watchBase + watchSize)

/-- `debug_data_breakpoint_hits`: a bit for each register that watches the access. -/
def debugDataBreakpointHits (state : CpuState) (address size : U64) (isRead isWrite : Bool) :
    U64 :=
  (List.finRange 4).foldl (fun bits i =>
    if dataBreakpointHit state address size isRead isWrite i then bits ||| (1#64 <<< i.val)
    else bits) 0#64

/-- `note_debug_break`: does the handler have to stop here? -/
def noteDebugBreak (ctx : ExecutionContext) (hitBits : U64) (willContinue : Bool) :
    ExecutionContext × Bool :=
  if hitBits = 0#64 then (ctx, false)
  else
    ({ ctx with
       debugHitBits := ctx.debugHitBits ||| hitBits
       pushRfForDebug := ctx.pushRfForDebug || willContinue
       controlFlowTaken := ctx.controlFlowTaken || willContinue }, true)

end Seven
