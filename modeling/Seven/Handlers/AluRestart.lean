import Seven.Cpu.Checked
import Seven.Handlers.Alu

/-!
# Which read-modify-write instructions can be run again

An instruction of this family makes at most one store (`RmwCode.store`), to
memory it has just read. What a refused store leaves behind depends on the
order of the handler: `CMPXCHG` and the bit operations store before they
touch a flag, all the others have set RFLAGS already (`RmwStore.flags`). No
handler has written a general register by then. `RmwCode.failsAt_iff` says
so for every view of the context.
-/

namespace Seven

open Seven.Lib

/-! ## The store of an instruction -/

/-- A store, with the flags that are set before it. -/
structure RmwStore where
  address : U64
  value : U64
  width : Nat
  flags : Option U64

namespace RmwStore

/-- The memory takes the store. -/
def accepted (st : RmwStore) (m : Memory) : Bool := m.accepts st.address st.value st.width

/-- The context when the store has been tried. -/
def after (st : RmwStore) (ctx : ExecutionContext) : ExecutionContext :=
  { ctx with
    state := (st.flags.map (setFlags ctx.state)).getD ctx.state
    memory := ctx.memory.stored st.address st.value st.width }

end RmwStore

/-- The right-hand side of a two-operand form, when it can be read. -/
def aluSourceValue (form : AluForm) (ctx : ExecutionContext) : Option U64 :=
  match form with
  | .rm8R8 | .rm16R16 | .rm32R32 | .rm64R64 => readOperand ctx 1 form.width
  | .rm8Imm8 => some ctx.instr.immediate8
  | .rm8Imm8_82 | .rm16Imm8 | .rm32Imm8 | .rm64Imm8 => some (signExtend ctx.instr.immediate8 1)
  | .rm16Imm16 => some ctx.instr.immediate16
  | .rm32Imm32 => some ctx.instr.immediate32
  | .rm64Imm32 => some (signExtend ctx.instr.immediate32 4)

/-- Result and flags of a shift or rotate. -/
def shiftOperation (op : ShiftOp) (width : Nat) (source : ShiftCountSource)
    (ctx : ExecutionContext) (value : U64) : U64 × U64 :=
  let rflags := ctx.state.rflags
  let masked := maskedCount width (rawShiftCount source ctx)
  let writesOf := masked == 1 || source == .cl || ctx.instr.opKind 0 != .register
  match op with
  | .shl | .sal => shiftCompute .left width (readShiftCount source ctx width) rflags value
  | .shr => shiftCompute .logicalRight width (readShiftCount source ctx width) rflags value
  | .sar => shiftCompute .arithmeticRight width (readShiftCount source ctx width) rflags value
  | .rol => rotateCompute true width masked writesOf rflags value
  | .ror => rotateCompute false width masked writesOf rflags value
  | .rcl => rotateCarryCompute true width masked rflags value
  | .rcr => rotateCarryCompute false width masked rflags value

/-- The store of a handler that sets the flags first. -/
def operandStore (ctx : ExecutionContext) (width : Nat) (out : U64 × U64) : RmwStore :=
  ⟨memoryAddress ctx.state ctx.instr, truncate out.1 width, width, some out.2⟩

/-- The store of `CMPXCHG`: the source operand, on a match. -/
def exchangeStore (ctx : ExecutionContext) (width : RmWidth) (lhs : U64) : Option RmwStore :=
  if lhs = readRegister ctx.state (accumulator width) then
    some ⟨memoryAddress ctx.state ctx.instr,
      truncate (readRegister ctx.state (ctx.instr.opRegister 1)) width.bytes, width.bytes, none⟩
  else none

/-- The store the instruction gets to, when its operands can be read. -/
def RmwCode.store (ctx : ExecutionContext) : RmwCode → Option RmwStore
  | .alu op form =>
    (readOperand ctx 0 form.width).bind fun lhs =>
      (aluSourceValue form ctx).map fun rhs =>
        operandStore ctx form.width (aluCompute op form.width ctx.state.rflags lhs rhs)
  | .unary op width =>
    (readOperand ctx 0 width.bytes).map fun lhs =>
      operandStore ctx width.bytes (unaryCompute op width.bytes ctx.state.rflags lhs)
  | .shift op width source =>
    (readOperand ctx 0 width.bytes).map fun lhs =>
      operandStore ctx width.bytes (shiftOperation op width.bytes source ctx lhs)
  | .doubleShift op width source =>
    (readOperand ctx 0 width.bytes).map fun lhs =>
      operandStore ctx width.bytes
        (doubleShiftCompute op width.bytes
          (maskedCount width.bytes (rawShiftCount (doubleShiftSource source) ctx))
          ctx.state.rflags lhs (readRegister ctx.state (ctx.instr.opRegister 1)))
  | .xadd width =>
    (readOperand ctx 0 width.bytes).map fun lhs =>
      let rhs := readRegister ctx.state (ctx.instr.opRegister 1)
      operandStore ctx width.bytes
        (lhs + rhs, setAddFlags ctx.state.rflags lhs rhs (lhs + rhs) width.bytes false)
  | .cmpxchg width => (readOperand ctx 0 width.bytes).bind (exchangeStore ctx width)
  | .cmpxchg486 width =>
    (readOperand ctx 0 (narrowRm width).bytes).bind (exchangeStore ctx (narrowRm width))
  | .bit op width source =>
    let index := bitIndex source width.bytes ctx
    let bit := (index &&& BitVec.ofNat 64 (8 * width.bytes - 1)).toNat
    let address := bitAddress ctx width.bytes index
    ((ctx.memory.read address width.bytes .dataRead).map fromBytes).map fun value =>
      ⟨address, bitCompute op value bit, width.bytes, none⟩

/-- The operands of a form with a memory destination. -/
def RmwCode.MemoryForm (c : RmwCode) (instr : Instruction) : Prop :=
  instr.opKind 0 = .memory ∧ ∀ width, c = .xadd width → instr.opKind 1 = .register

/-! ## Flags, then the store -/

variable {τ : Type} {v : ExecutionContext → τ} {t : τ} {ctx : ExecutionContext}

/-- A memory destination is written at the operand's address. -/
theorem writeOperand_memory (hmem : ctx.instr.opKind 0 = .memory) (value : U64) (width : Nat) :
    writeOperand ctx 0 value width =
      ({ ctx with
        memory := ctx.memory.stored (memoryAddress ctx.state ctx.instr) (truncate value width)
          width },
        ctx.memory.accepts (memoryAddress ctx.state ctx.instr) (truncate value width) width) := by
  unfold writeOperand
  rw [hmem]
  rfl

/-- Flags and destination, the store accepted. -/
theorem flagsThenWrite_ok (hmem : ctx.instr.opKind 0 = .memory) {width : Nat} {out : U64 × U64}
    (h : (operandStore ctx width out).accepted ctx.memory = true) :
    flagsThenWrite width out ctx = .ok () ((operandStore ctx width out).after ctx) := by
  have hset : (modifyState fun s => setFlags s out.2) ctx =
      .ok () { ctx with state := setFlags ctx.state out.2 } := rfl
  have hwrite := @writeOperand_memory { ctx with state := setFlags ctx.state out.2 } hmem out.1 width
  unfold flagsThenWrite
  rw [bind_ok hset]
  refine (writeOperandChecked_ok ?_).trans (congrArg (EStateM.Result.ok ()) ?_)
  · unfold operandAccepts
    rw [hwrite]
    exact h
  · rw [hwrite]
    rfl

/-- Flags and destination, the store refused: the flags are gone. -/
theorem flagsThenWrite_error (hmem : ctx.instr.opKind 0 = .memory) {width : Nat}
    {out : U64 × U64} (h : (operandStore ctx width out).accepted ctx.memory = false) :
    ∃ r, flagsThenWrite width out ctx = .error r ((operandStore ctx width out).after ctx) ∧
      PageFault r := by
  have hset : (modifyState fun s => setFlags s out.2) ctx =
      .ok () { ctx with state := setFlags ctx.state out.2 } := rfl
  have hwrite := @writeOperand_memory { ctx with state := setFlags ctx.state out.2 } hmem out.1 width
  have hrefused : operandAccepts { ctx with state := setFlags ctx.state out.2 } 0 out.1 width =
      false := by
    unfold operandAccepts
    rw [hwrite]
    exact h
  obtain ⟨r, ctx', herr, hpf, _, hctx⟩ := writeOperandChecked_error hrefused
  refine ⟨r, ?_, hpf⟩
  unfold flagsThenWrite
  rw [bind_ok hset, herr, hctx, hwrite]
  rfl

/-- A refused store leaves the context of `RmwStore.after`. -/
theorem failsAt_flagsThenWrite (hmem : ctx.instr.opKind 0 = .memory) (width : Nat)
    (out : U64 × U64) :
    FailsAt PageFault v (flagsThenWrite width out) ctx t ↔
      (operandStore ctx width out).accepted ctx.memory = true ∨
        v ((operandStore ctx width out).after ctx) = t := by
  cases h : (operandStore ctx width out).accepted ctx.memory with
  | true => exact iff_of_true (failsAt_ok (flagsThenWrite_ok hmem h)) (Or.inl rfl)
  | false =>
    obtain ⟨r, herr, hpf⟩ := flagsThenWrite_error hmem h
    rw [failsAt_error_iff herr hpf]
    simp only [Bool.false_eq_true, false_or]

/-- The question for an instruction: its store is accepted, or the refused
store does not show. -/
def StoreSafe (v : ExecutionContext → τ) (t : τ) (ctx : ExecutionContext)
    (store : Option RmwStore) : Prop :=
  ∀ st, store = some st → st.accepted ctx.memory = true ∨ v (st.after ctx) = t

/-- A store that depends on a value read. -/
theorem storeSafe_map {α : Type} {value : Option α} {f : α → RmwStore} :
    StoreSafe v t ctx (value.map f) ↔
      ∀ a, value = some a → (f a).accepted ctx.memory = true ∨ v ((f a).after ctx) = t := by
  cases value with
  | none =>
    constructor
    · intro _ a h
      cases h
    · intro _ st h
      cases h
  | some a =>
    constructor
    · intro h a' ha
      cases ha
      exact h _ rfl
    · intro h st hst
      cases hst
      exact h a rfl

/-- A store that depends on two. -/
theorem storeSafe_bind {α : Type} {value : Option α} {f : α → Option RmwStore} :
    StoreSafe v t ctx (value.bind f) ↔ ∀ a, value = some a → StoreSafe v t ctx (f a) := by
  cases value with
  | none =>
    constructor
    · intro _ a h
      cases h
    · intro _ st h
      cases h
  | some a =>
    constructor
    · intro h a' ha
      cases ha
      exact h
    · intro h
      exact h a rfl

/-- Read, compute, set the flags, store. -/
theorem failsAt_rmwOperand (hmem : ctx.instr.opKind 0 = .memory) (width : Nat)
    (compute : ExecutionContext → U64 → U64 × U64) :
    FailsAt PageFault v (rmwOperand width compute) ctx (v ctx) ↔
      StoreSafe v (v ctx) ctx
        ((readOperand ctx 0 width).map fun lhs => operandStore ctx width (compute ctx lhs)) := by
  have hget : (get : HandlerM ExecutionContext) ctx = .ok ctx ctx := rfl
  unfold rmwOperand
  rw [failsAt_quiet_bind (readOperandChecked_quiet 0 width), storeSafe_map]
  refine forall_congr' fun lhs => ?_
  rw [readOperandChecked_ok_iff, failsAt_bind_ok hget]
  exact imp_congr_right fun _ => failsAt_flagsThenWrite hmem width _

/-! ## The families -/

/-- The source is read without a change. -/
theorem aluSource_quiet (form : AluForm) : Quiet (aluSource form) := by
  refine Quiet.bind Quiet.get fun ctx => ?_
  cases form <;> first | exact readOperandChecked_quiet 1 _ | exact Quiet.pure _

/-- When the source is read. -/
theorem aluSource_ok_iff (form : AluForm) {rhs : U64} :
    aluSource form ctx = .ok rhs ctx ↔ aluSourceValue form ctx = some rhs := by
  have hget : (get : HandlerM ExecutionContext) ctx = .ok ctx ctx := rfl
  have hpure (a : U64) : (pure a : HandlerM U64) ctx = .ok rhs ctx ↔ some a = some rhs := by
    constructor
    · intro h
      cases h
      rfl
    · intro h
      cases h
      rfl
  unfold aluSource
  rw [bind_ok hget]
  cases form <;> first | exact readOperandChecked_ok_iff | exact hpure _

/-- The ALU group: only its store can fail behind a change. -/
theorem failsAt_alu (hmem : ctx.instr.opKind 0 = .memory) (op : AluOp) (form : AluForm) :
    FailsAt PageFault v (handleAlu op form) ctx (v ctx) ↔
      StoreSafe v (v ctx) ctx ((RmwCode.alu op form).store ctx) := by
  have hget : (get : HandlerM ExecutionContext) ctx = .ok ctx ctx := rfl
  unfold handleAlu
  rw [failsAt_quiet_bind (readOperandChecked_quiet 0 form.width)]
  refine Iff.trans (forall_congr' fun lhs => ?_) storeSafe_bind.symm
  rw [readOperandChecked_ok_iff]
  refine imp_congr_right fun _ => ?_
  rw [failsAt_quiet_bind (aluSource_quiet form), storeSafe_map]
  refine forall_congr' fun rhs => ?_
  rw [aluSource_ok_iff, failsAt_bind_ok hget]
  exact imp_congr_right fun _ => failsAt_flagsThenWrite hmem form.width _

/-- A shift is read, compute, write. -/
theorem handleShift_eq (op : ShiftOp) (width : RmWidth) (source : ShiftCountSource) :
    handleShift op width source =
      rmwOperand width.bytes (shiftOperation op width.bytes source) := by
  cases op <;> rfl

/-- `XADD` stores before it writes the register, which cannot fail. -/
theorem failsAt_xadd (hmem : ctx.instr.opKind 0 = .memory)
    (hreg : ctx.instr.opKind 1 = .register) (width : RmWidth) :
    FailsAt PageFault v (handleXadd width) ctx (v ctx) ↔
      StoreSafe v (v ctx) ctx ((RmwCode.xadd width).store ctx) := by
  have hget : (get : HandlerM ExecutionContext) ctx = .ok ctx ctx := rfl
  unfold handleXadd
  dsimp only
  rw [failsAt_quiet_bind (readOperandChecked_quiet 0 width.bytes)]
  refine Iff.trans (forall_congr' fun lhs => ?_) storeSafe_map.symm
  rw [readOperandChecked_ok_iff, failsAt_bind_ok hget]
  refine imp_congr_right fun _ => ?_
  dsimp only
  rw [← failsAt_flagsThenWrite hmem]
  set out := (lhs + readRegister ctx.state (ctx.instr.opRegister 1),
    setAddFlags ctx.state.rflags lhs (readRegister ctx.state (ctx.instr.opRegister 1))
      (lhs + readRegister ctx.state (ctx.instr.opRegister 1)) width.bytes false) with hout
  -- Only the first store can fault: behind it a register is written.
  cases h : (operandStore ctx width.bytes out).accepted ctx.memory with
  | false =>
    obtain ⟨r, herr, _⟩ := flagsThenWrite_error hmem h
    exact failsAt_bind_error herr
  | true =>
    have hok := flagsThenWrite_ok hmem h
    rw [failsAt_bind_ok hok]
    refine iff_of_true (failsAt_ok (writeOperandChecked_ok ?_)) (failsAt_ok hok)
    have hreg' : ((operandStore ctx width.bytes out).after ctx).instr.opKind 1 = .register := hreg
    unfold operandAccepts writeOperand
    rw [hreg']

/-- `CMPXCHG` stores before the flags, and only on a match. -/
theorem failsAt_compareExchange (hmem : ctx.instr.opKind 0 = .memory) (width : RmWidth)
    (flags : U64 → U64 → U64 → Bool → U64) :
    FailsAt PageFault v (compareExchange width flags) ctx (v ctx) ↔
      StoreSafe v (v ctx) ctx ((readOperand ctx 0 width.bytes).bind (exchangeStore ctx width)) := by
  have hget : (get : HandlerM ExecutionContext) ctx = .ok ctx ctx := rfl
  unfold compareExchange
  dsimp only
  rw [failsAt_quiet_bind (readOperandChecked_quiet 0 width.bytes), storeSafe_bind]
  refine forall_congr' fun lhs => ?_
  rw [readOperandChecked_ok_iff, failsAt_bind_ok hget]
  refine imp_congr_right fun _ => ?_
  unfold exchangeStore
  split
  next =>
    -- equal: the store can fail, the flags behind it cannot
    rw [failsAt_bind_total fun _ => modifyState_total _]
    set rhs := readRegister ctx.state (ctx.instr.opRegister 1)
    have hwrite := writeOperand_memory hmem rhs width.bytes
    cases h : operandAccepts ctx 0 rhs width.bytes with
    | true =>
      refine iff_of_true (failsAt_ok (writeOperandChecked_ok h)) ?_
      rintro st ⟨⟩
      refine Or.inl ?_
      unfold operandAccepts at h
      rw [hwrite] at h
      exact h
    | false =>
      obtain ⟨r, ctx', herr, hpf, _, hctx⟩ := writeOperandChecked_error h
      rw [failsAt_error_iff herr hpf, hctx, hwrite]
      unfold operandAccepts at h
      rw [hwrite] at h
      constructor
      · rintro hv st ⟨⟩
        exact Or.inr hv
      · intro hsafe
        rcases hsafe _ rfl with haccepted | hv
        · exact absurd (h.symm.trans haccepted) (by decide)
        · exact hv
  next =>
    refine iff_of_true (Total.failsAt (modifyState_total _) _) ?_
    rintro st ⟨⟩

/-- The bit operations address an element of their own. -/
theorem failsAt_bit (hmem : ctx.instr.opKind 0 = .memory) (op : BitOp) (width : RmWideWidth)
    (source : BitIndexSource) :
    FailsAt PageFault v (handleBit op width source) ctx (v ctx) ↔
      StoreSafe v (v ctx) ctx ((RmwCode.bit op width source).store ctx) := by
  have hget : (get : HandlerM ExecutionContext) ctx = .ok ctx ctx := rfl
  unfold handleBit
  dsimp only
  rw [failsAt_bind_ok hget, if_pos hmem]
  set address := bitAddress ctx width.bytes (bitIndex source width.bytes ctx)
  rw [failsAt_quiet_bind (readMemoryChecked_quiet address width.bytes)]
  refine Iff.trans (forall_congr' fun value => ?_) storeSafe_map.symm
  rw [readMemoryChecked_ok_iff, failsAt_bind_total fun _ => modifyState_total _]
  refine imp_congr_right fun _ => ?_
  set stored := bitCompute op value
    (bitIndex source width.bytes ctx &&& BitVec.ofNat 64 (8 * width.bytes - 1)).toNat
  -- CF is set before the store, so a refused store leaves it changed.
  cases h : ctx.memory.accepts address stored width.bytes with
  | true => exact iff_of_true (failsAt_ok (writeMemoryChecked_ok h)) (Or.inl h)
  | false =>
    rw [failsAt_error_iff (writeMemoryChecked_error h) (pageFaultAt_pageFault _ _)]
    constructor
    · intro hv
      exact Or.inr hv
    · rintro (haccepted | hv)
      · exact absurd (h.symm.trans haccepted) (by decide)
      · exact hv

/-- **A page fault leaves the context its refused store leaves**, whichever
instruction of the family it is. -/
theorem RmwCode.failsAt_iff (c : RmwCode) (hform : c.MemoryForm ctx.instr) :
    FailsAt PageFault v c.handler ctx (v ctx) ↔ StoreSafe v (v ctx) ctx (c.store ctx) := by
  obtain ⟨hmem, hxadd⟩ := hform
  cases c with
  | alu op form => exact failsAt_alu hmem op form
  | unary op width => exact failsAt_rmwOperand hmem width.bytes _
  | shift op width source =>
    show FailsAt PageFault v (handleShift op width source) ctx (v ctx) ↔ _
    rw [handleShift_eq]
    exact failsAt_rmwOperand hmem width.bytes _
  | doubleShift op width source => exact failsAt_rmwOperand hmem width.bytes _
  | xadd width => exact failsAt_xadd hmem (hxadd width rfl) width
  | cmpxchg width =>
    show FailsAt PageFault v (handleCmpxchg width) ctx (v ctx) ↔ _
    unfold handleCmpxchg
    exact failsAt_compareExchange hmem width _
  | cmpxchg486 width =>
    show FailsAt PageFault v (handleCmpxchg486 width) ctx (v ctx) ↔ _
    unfold handleCmpxchg486
    exact failsAt_compareExchange hmem (narrowRm width) _
  | bit op width source => exact failsAt_bit hmem op width source

/-! ## Flags and general registers -/

/-- The registers a read-modify-write instruction works on. -/
def flagsAndRegisters (ctx : ExecutionContext) : U64 × (Fin 16 → U64) :=
  (ctx.state.rflags, ctx.state.gpr)

/-- What a refused store leaves of the flags and registers. -/
theorem flagsAndRegisters_after (st : RmwStore) (ctx : ExecutionContext) :
    flagsAndRegisters (st.after ctx) = flagsAndRegisters ctx ↔
      ∀ flags, st.flags = some flags → flags = ctx.state.rflags := by
  unfold RmwStore.after
  cases hf : st.flags with
  | none =>
    refine iff_of_true rfl ?_
    rintro flags ⟨⟩
  | some flags =>
    show (flags, ctx.state.gpr) = (ctx.state.rflags, ctx.state.gpr) ↔ _
    rw [Prod.mk.injEq]
    constructor
    · rintro ⟨h, _⟩ flags' ⟨⟩
      exact h
    · intro h
      exact ⟨h flags rfl, rfl⟩

/-- The store is accepted, or no flag has been changed before it. -/
def RmwCode.RestartSafe (c : RmwCode) (ctx : ExecutionContext) : Prop :=
  ∀ st, c.store ctx = some st →
    st.accepted ctx.memory = true ∨ ∀ flags, st.flags = some flags → flags = ctx.state.rflags

/-- The condition, code by code. -/
theorem RmwCode.restartSafe_iff (c : RmwCode) (hform : c.MemoryForm ctx.instr) :
    FailsAt PageFault flagsAndRegisters c.handler ctx (flagsAndRegisters ctx) ↔
      c.RestartSafe ctx := by
  rw [c.failsAt_iff hform]
  unfold StoreSafe RmwCode.RestartSafe
  simp only [flagsAndRegisters_after]

/-- A refused store that copied nothing before it was refused. -/
def RmwCode.StoreAtomic (c : RmwCode) (ctx : ExecutionContext) : Prop :=
  ∀ st, c.store ctx = some st →
    st.accepted ctx.memory = true ∨
      ctx.memory.stored st.address st.value st.width = ctx.memory

/-- With both, a page fault leaves no trace at all. -/
theorem RmwCode.failsAt_id (c : RmwCode) (hform : c.MemoryForm ctx.instr)
    (hsafe : c.RestartSafe ctx) (hatomic : c.StoreAtomic ctx) :
    FailsAt PageFault id c.handler ctx ctx := by
  refine (c.failsAt_iff hform).mpr fun st hst => ?_
  rcases hsafe st hst with haccepted | hflags
  · exact Or.inl haccepted
  rcases hatomic st hst with haccepted | hmemory
  · exact Or.inl haccepted
  refine Or.inr ?_
  show st.after ctx = ctx
  unfold RmwStore.after
  rw [hmemory]
  cases hf : st.flags with
  | none => rfl
  | some flags =>
    rw [hflags flags hf]
    rfl

end Seven
