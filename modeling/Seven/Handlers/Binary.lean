import Seven.Cpu.Plain
import Seven.Handlers.AluRestart

/-!
# Two-operand instructions, all forms

`handleAlu` covers the forms with an `RM` destination. The same operations
have a register destination (`R8_RM8` …) and an immediate to the accumulator
(`AL_IMM8` …), and `CMP` has all of them without the store. They differ only
in where the operands come from and where the result goes: a form is read by
`binaryOperands`, computed by `aluCompute` and stored by `storeBinary`.

A destination that is a register of the form's width or plain memory
(`WholeDestination`) takes every result, and reads as that result afterwards
(`WholeDestination.stores`).
-/

namespace Seven

open Seven.Lib

/-- The twenty forms of `ADD`, `ADC`, `SUB`, `SBB` and `CMP`. -/
inductive BinaryForm where
  | rm (form : AluForm)
  /-- `R8_RM8`, `R16_RM16`, `R32_RM32`, `R64_RM64`. -/
  | regRm (width : RmWidth)
  /-- `AL_IMM8`, `AX_IMM16`, `EAX_IMM32`, `RAX_IMM32`. -/
  | accImm (width : RmWidth)
deriving DecidableEq, Repr

/-- The operands' bytes. -/
def BinaryForm.width : BinaryForm → Nat
  | .rm form => form.width
  | .regRm width | .accImm width => width.bytes

/-- An operand has bytes. -/
theorem BinaryForm.width_pos (form : BinaryForm) : 0 < form.width := by
  cases form with
  | rm form => cases form <;> decide
  | regRm width => cases width <;> decide
  | accImm width => cases width <;> decide

/-- At most eight. -/
theorem BinaryForm.width_le (form : BinaryForm) : form.width ≤ 8 := by
  cases form with
  | rm form => cases form <;> decide
  | regRm width => cases width <;> decide
  | accImm width => cases width <;> decide

/-- The immediate of an accumulator form. -/
def accumulatorImmediate (instr : Instruction) : RmWidth → U64
  | .rm8 => instr.immediate8
  | .rm16 => instr.immediate16
  | .rm32 => instr.immediate32
  | .rm64 => signExtend instr.immediate32 4

/-- Both operands, destination first. -/
def binaryOperands (form : BinaryForm) : HandlerM (U64 × U64) := do
  match form with
  | .rm form =>
    let lhs ← readOperandChecked 0 form.width
    let rhs ← aluSource form
    return (lhs, rhs)
  | .regRm width =>
    let ctx ← get
    let rhs ← readOperandChecked 1 width.bytes
    return (readRegister ctx.state (ctx.instr.opRegister 0), rhs)
  | .accImm width =>
    let ctx ← get
    return (readRegister ctx.state (ctx.instr.opRegister 0), accumulatorImmediate ctx.instr width)

/-- Set the flags, then store the result. -/
def storeBinary (form : BinaryForm) (out : U64 × U64) : Handler :=
  match form with
  | .rm form => flagsThenWrite form.width out
  | .regRm width | .accImm width => fun ctx =>
    .ok () { ctx with
      state := writeRegister (setFlags ctx.state out.2) (ctx.instr.opRegister 0) out.1 width.bytes }

/-- `ADD`, `ADC`, `SUB`, `SBB`, `AND`, `OR`, `XOR` of every form. -/
def handleBinary (op : AluOp) (form : BinaryForm) : Handler := do
  let operands ← binaryOperands form
  let ctx ← get
  storeBinary form (aluCompute op form.width ctx.state.rflags operands.1 operands.2)

/-- `CMP`: a `SUB` that stores nothing. -/
def handleCmp (form : BinaryForm) : Handler := do
  let operands ← binaryOperands form
  modifyState fun s => setFlags s
    (setSubFlags s.rflags operands.1 operands.2 (operands.1 - operands.2) form.width false)

/-- The `RM` forms are the handlers that are dispatched under their codes. -/
theorem handleBinary_rm (op : AluOp) (form : AluForm) :
    handleBinary op (.rm form) = handleAlu op form := by
  funext ctx
  unfold handleBinary handleAlu binaryOperands
  rcases readOperandChecked_quiet 0 form.width ctx with ⟨lhs, hl⟩ | ⟨e, he⟩
  · rw [bind_ok hl]
    show ((readOperandChecked 0 form.width >>= fun lhs => aluSource form >>= fun rhs =>
      pure (lhs, rhs)) >>= _) ctx = _
    rcases aluSource_quiet form ctx with ⟨rhs, hr⟩ | ⟨e, he⟩
    · have hboth : (readOperandChecked 0 form.width >>= fun lhs => aluSource form >>= fun rhs =>
          pure (lhs, rhs)) ctx = .ok (lhs, rhs) ctx := by
        rw [bind_ok hl, bind_ok hr]
        rfl
      rw [bind_ok hboth, bind_ok hr]
      rfl
    · have hnone : (readOperandChecked 0 form.width >>= fun lhs => aluSource form >>= fun rhs =>
          (pure (lhs, rhs) : HandlerM (U64 × U64))) ctx = .error e ctx := by
        rw [bind_ok hl, bind_error he]
      rw [bind_error hnone, bind_error he]
  · rw [bind_error he]
    exact bind_error (bind_error he)

/-! ## Registers read back -/

/-- The registers a result is written to. -/
def Register.General : Register → Prop
  | .r8 _ | .r8h _ | .r16 _ | .r32 _ | .r64 _ => True
  | _ => False

/-- A register write leaves the flags. -/
theorem writeRegister_rflags (s : CpuState) (reg : Register) (value : U64) (w : Nat) :
    (writeRegister s reg value w).rflags = s.rflags := by
  cases reg <;> rfl

/-- The high byte of a merge into AH, CH, DH or BH. -/
theorem highByte_merge (raw value : U64) :
    (((raw &&& ~~~0xFF00#64) ||| ((value &&& 0xFF#64) <<< 8)) >>> 8) &&& 0xFF#64 =
      value &&& 0xFF#64 := by
  have hhole : ∀ j < 64, (0xFF#64).getLsbD j = true →
      8 + j < 64 ∧ (0xFF00#64).getLsbD (8 + j) = true := by decide
  apply BitVec.eq_of_getLsbD_eq
  intro j hj
  simp only [BitVec.getLsbD_and, BitVec.getLsbD_ushiftRight, BitVec.getLsbD_or,
    BitVec.getLsbD_shiftLeft, BitVec.getLsbD_not]
  cases hbit : (0xFF#64).getLsbD j with
  | false => rw [Bool.and_false, Bool.and_false]
  | true =>
    obtain ⟨hlt, hset⟩ := hhole j hj hbit
    rw [show 8 + j - 8 = j by omega, hset, hbit, decide_eq_true hlt,
      decide_eq_false (by omega : ¬ 8 + j < 8)]
    simp

/-- Under the mask a merge has the new value. -/
theorem merge_and_mask (raw value mask : U64) :
    (raw &&& ~~~mask ||| value &&& mask) &&& mask = value &&& mask := by
  apply BitVec.eq_of_getElem_eq
  intro i hi
  simp only [BitVec.getElem_and, BitVec.getElem_or, BitVec.getElem_not]
  cases raw[i] <;> cases mask[i] <;> cases value[i] <;> rfl

/-- A general register holds the value written to it, at its own width. -/
theorem readRegister_writeRegister (s : CpuState) {reg : Register} (hreg : reg.General)
    (value : U64) {w : Nat} (hw : w = 0 ∨ w = registerWidth reg) :
    readRegister (writeRegister s reg value w) reg = truncate value (registerWidth reg) := by
  have hwidth : (if w ≠ 0 then w else registerWidth reg) = registerWidth reg := by
    rcases hw with rfl | rfl
    · rfl
    · split <;> rfl
  -- the merge keeps the bits outside the register, and reading drops them
  unfold truncate
  cases reg with
  | r8 i =>
    show ((s.setGpr i (mergeGpr (s.gpr i) value false _)).gpr i) &&& 0xFF#64 = _
    rw [hwidth, CpuState.setGpr_self]
    exact (merge_and_mask (s.gpr i) value 0xFF#64).trans
      (congrArg _ (by decide : 0xFF#64 = maskForWidth 1))
  | r8h i =>
    show ((s.setGpr (lowIndex i) (mergeGpr (s.gpr (lowIndex i)) value true _)).gpr (lowIndex i)
      >>> 8) &&& 0xFF#64 = _
    rw [hwidth, CpuState.setGpr_self]
    exact (highByte_merge _ value).trans (congrArg _ (by decide : 0xFF#64 = maskForWidth 1))
  | r16 i =>
    show ((s.setGpr i (mergeGpr (s.gpr i) value false _)).gpr i) &&& 0xFFFF#64 = _
    rw [hwidth, CpuState.setGpr_self]
    exact (merge_and_mask (s.gpr i) value 0xFFFF#64).trans
      (congrArg _ (by decide : 0xFFFF#64 = maskForWidth 2))
  | r32 i =>
    show ((s.setGpr i (mergeGpr (s.gpr i) value false _)).gpr i) &&& 0xFFFFFFFF#64 = _
    rw [hwidth, CpuState.setGpr_self]
    have hself : value &&& 0xFFFFFFFF#64 &&& 0xFFFFFFFF#64 = value &&& 0xFFFFFFFF#64 := by
      rw [BitVec.and_assoc, BitVec.and_self]
    exact hself.trans (congrArg _ (by decide : 0xFFFFFFFF#64 = maskForWidth 4))
  | r64 i =>
    show ((s.setGpr i (mergeGpr (s.gpr i) value false _)).gpr i) = _
    rw [hwidth, CpuState.setGpr_self]
    exact BitVec.and_allOnes.symm
  | none | sreg _ | cr _ | dr _ | tr _ | mm _ | other _ => exact hreg.elim

/-! ## What a form leaves in its destination -/

/-- What the destination reads as. -/
def destination (form : BinaryForm) (ctx : ExecutionContext) : Option U64 :=
  match form with
  | .rm form => readOperand ctx 0 form.width
  | .regRm _ | .accImm _ => some (readRegister ctx.state (ctx.instr.opRegister 0))

/-- A store to the destination can be read back. -/
def ReadsBack (form : BinaryForm) (ctx : ExecutionContext) : Prop :=
  ∀ out ctx', storeBinary form out ctx = .ok () ctx' →
    destination form ctx' = some (truncate out.1 form.width)

section

variable {form : BinaryForm} {ctx ctx' : ExecutionContext} {out operands : U64 × U64}

/-- An operand write leaves the flags. -/
theorem writeOperand_rflags (ctx : ExecutionContext) (operandIndex : Nat) (value : U64)
    (width : Nat) : (writeOperand ctx operandIndex value width).1.state.rflags =
      ctx.state.rflags := by
  unfold writeOperand
  split
  · exact writeRegister_rflags _ _ _ _
  · rfl
  · rfl

/-- The flags are in the state before the store. -/
theorem storeBinary_rflags (h : storeBinary form out ctx = .ok () ctx') :
    ctx'.state.rflags = out.2 := by
  cases form with
  | rm form =>
    change writeOperandChecked 0 out.1 form.width { ctx with state := setFlags ctx.state out.2 } =
      .ok () ctx' at h
    rw [of_writeOperandChecked_ok h, writeOperand_rflags]
    rfl
  | regRm width =>
    cases h
    exact writeRegister_rflags _ _ _ _
  | accImm width =>
    cases h
    exact writeRegister_rflags _ _ _ _

/-- The instruction stays. -/
theorem storeBinary_instr (h : storeBinary form out ctx = .ok () ctx') : ctx'.instr = ctx.instr := by
  cases form with
  | rm form =>
    change writeOperandChecked 0 out.1 form.width { ctx with state := setFlags ctx.state out.2 } =
      .ok () ctx' at h
    rw [of_writeOperandChecked_ok h]
    unfold writeOperand
    split <;> rfl
  | regRm width =>
    cases h
    rfl
  | accImm width =>
    cases h
    rfl

/-- A register of the form's width reads back. -/
theorem readsBack_register (hkind : ctx.instr.opKind 0 = .register)
    (hreg : (ctx.instr.opRegister 0).General)
    (hwidth : registerWidth (ctx.instr.opRegister 0) = form.width) : ReadsBack form ctx := by
  intro out ctx' h
  have hwritten : ∀ s : CpuState, readRegister (writeRegister s (ctx.instr.opRegister 0) out.1
      form.width) (ctx.instr.opRegister 0) = truncate out.1 form.width := by
    intro s
    rw [readRegister_writeRegister s hreg out.1 (Or.inr hwidth.symm), hwidth]
  -- The three forms store through the operand, the register and the accumulator.
  cases form with
  | rm form =>
    change writeOperandChecked 0 out.1 form.width { ctx with state := setFlags ctx.state out.2 } =
      .ok () ctx' at h
    rw [of_writeOperandChecked_ok h]
    unfold writeOperand destination readOperand
    simp only [hkind]
    rw [readRegister_writeRegister _ hreg _ (Or.inl rfl), hwidth]
    exact congrArg some (truncate_truncate out.1 form.width)
  | regRm width =>
    cases h
    exact congrArg some (hwritten _)
  | accImm width =>
    cases h
    exact congrArg some (hwritten _)

/-- Plain memory reads back. -/
theorem readsBack_plain {form : AluForm} (hkind : ctx.instr.opKind 0 = .memory)
    (hplain : ctx.memory.PlainSpan (memoryAddress ctx.state ctx.instr) form.width) :
    ReadsBack (.rm form) ctx := by
  intro out ctx' h
  have hpos : 0 < form.width := (BinaryForm.rm form).width_pos
  have hle : form.width ≤ 8 := (BinaryForm.rm form).width_le
  -- The bytes stored are in memory, and the store leaves the page readable.
  obtain ⟨haccepts, hbytes, -⟩ := hplain.stored hpos hle (truncate out.1 form.width)
  rw [show storeBinary (.rm form) out = flagsThenWrite form.width out from rfl,
    flagsThenWrite_ok hkind haccepts] at h
  cases h
  have hplain' := hplain.sameAccess (ctx.memory.stored_sameAccess
    (memoryAddress ctx.state ctx.instr) (truncate out.1 form.width) hle)
  have hread := hplain'.read hpos (toBytes_length (truncate out.1 form.width) form.width) hbytes
  show readOperand _ 0 form.width = _
  unfold readOperand
  have hkind' : ((operandStore ctx form.width out).after ctx).instr.opKind 0 = .memory := hkind
  simp only [hkind']
  have hread' : ((operandStore ctx form.width out).after ctx).memory.read
      (memoryAddress ((operandStore ctx form.width out).after ctx).state
        ((operandStore ctx form.width out).after ctx).instr) form.width .dataRead =
      some (toBytes (truncate out.1 form.width) form.width) := hread
  rw [hread', Option.map_some, fromBytes_toBytes_of_le _ hle, truncate_truncate, truncate_truncate]
  rfl

/-- The destination is a register of the form's width, or memory that nothing
stands in the way of. -/
inductive WholeDestination (form : BinaryForm) (ctx : ExecutionContext) : Prop
  | register (hkind : ctx.instr.opKind 0 = .register)
      (hreg : (ctx.instr.opRegister 0).General)
      (hwidth : registerWidth (ctx.instr.opRegister 0) = form.width)
  | memory {alu : AluForm} (hform : form = .rm alu) (hkind : ctx.instr.opKind 0 = .memory)
      (hplain : ctx.memory.PlainSpan (memoryAddress ctx.state ctx.instr) form.width)

/-- A whole destination reads back what it was given. -/
theorem WholeDestination.readsBack (h : WholeDestination form ctx) : ReadsBack form ctx := by
  cases h with
  | register hkind hreg hwidth => exact readsBack_register hkind hreg hwidth
  | memory hform hkind hplain =>
    subst hform
    exact readsBack_plain hkind hplain

/-- Nothing refuses the store. -/
theorem WholeDestination.accepts (h : WholeDestination form ctx) (out : U64 × U64) :
    ∃ ctx', storeBinary form out ctx = .ok () ctx' := by
  cases h with
  | register hkind hreg hwidth =>
    cases form with
    | rm form =>
      have haccepts : (writeOperand { ctx with state := setFlags ctx.state out.2 } 0 out.1
          form.width).2 = true := by
        unfold writeOperand
        simp only [hkind]
      exact ⟨_, writeOperandChecked_ok haccepts⟩
    | regRm width => exact ⟨_, rfl⟩
    | accImm width => exact ⟨_, rfl⟩
  | @memory alu hform hkind hplain =>
    subst hform
    have hpos : 0 < alu.width := (BinaryForm.rm alu).width_pos
    have hle : alu.width ≤ 8 := (BinaryForm.rm alu).width_le
    obtain ⟨haccepts, _⟩ := hplain.stored hpos hle (truncate out.1 alu.width)
    exact ⟨_, flagsThenWrite_ok hkind haccepts⟩

/-- **A store to a whole destination** goes through, leaves its flags, and
reads back. -/
theorem WholeDestination.stores (h : WholeDestination form ctx) (out : U64 × U64) :
    ∃ ctx', storeBinary form out ctx = .ok () ctx' ∧ ctx'.state.rflags = out.2 ∧
      destination form ctx' = some (truncate out.1 form.width) := by
  obtain ⟨ctx', hstore⟩ := h.accepts out
  exact ⟨ctx', hstore, storeBinary_rflags hstore, h.readsBack _ _ hstore⟩

/-- The handler reads its operands and stores what `aluCompute` makes of them. -/
theorem handleBinary_store (op : AluOp) (hoperands : binaryOperands form ctx = .ok operands ctx) :
    handleBinary op form ctx =
      storeBinary form (aluCompute op form.width ctx.state.rflags operands.1 operands.2) ctx := by
  have hget : (get : HandlerM ExecutionContext) ctx = .ok ctx ctx := rfl
  unfold handleBinary
  rw [bind_ok hoperands, bind_ok hget]

/-- A run that succeeds has stored its result. -/
theorem of_handleBinary_ok {op : AluOp} (hoperands : binaryOperands form ctx = .ok operands ctx)
    (h : handleBinary op form ctx = .ok () ctx') :
    storeBinary form (aluCompute op form.width ctx.state.rflags operands.1 operands.2) ctx =
      .ok () ctx' := by
  rw [← handleBinary_store op hoperands]
  exact h

/-- `CMP` stores nothing. -/
theorem handleCmp_ok (hoperands : binaryOperands form ctx = .ok operands ctx) :
    handleCmp form ctx = .ok () { ctx with
      state := setFlags ctx.state (setSubFlags ctx.state.rflags operands.1 operands.2
        (operands.1 - operands.2) form.width false) } := by
  unfold handleCmp
  rw [bind_ok hoperands]
  rfl

end

end Seven
