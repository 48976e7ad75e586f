import Seven.Cpu.Checked
import Seven.Handlers.Binary

/-!
# `MOV`

`MOV` reads one operand and writes another. The forms differ in which of the
two goes through `write_operand`, and the byte store reads its destination
first. What they have in common is `MovForm.moves`: where the source can be
read and nothing stands in the way of the destination, the destination reads
back as the source, and RFLAGS stay; a source that cannot be read leaves all as
it was (`MovForm.faults`).

The stores of the accumulator to a direct address are no stores. They read
operand 0 and write operand 1, which is the other way round, and so they load
the accumulator (`handleMovMoffsAcc_loads`).

A `MOV` to a segment register may load `SS`. That puts the next instruction in
its shadow, as `POP SS` does (`notePopSs`): the debug exceptions of both wait
for the end of that instruction.
-/

namespace Seven

open Seven.Lib

/-! ## The handlers -/

/-- `MOV_RM8_R8` and its siblings; the byte form reads its destination
first. -/
def handleMovRmR (width : RmWidth) : Handler := do
  if width = .rm8 then
    let _ ← readOperandChecked 0 1
  let value ← readOperandChecked 1 width.bytes
  writeOperandChecked 0 value width.bytes

/-- `MOV_R8_RM8` and its siblings. -/
def handleMovRRm (width : RmWidth) : Handler := do
  let value ← readOperandChecked 1 width.bytes
  let ctx ← get
  modifyState fun s => writeRegister s (ctx.instr.opRegister 0) value width.bytes

/-- `MOV_AL_MOFFS8` and its siblings. -/
def handleMovAccMoffs (width : RmWidth) : Handler := handleMovRRm width

/-- `MOV_MOFFS8_AL` and its siblings: operand 0 is read and operand 1 is
written, although the destination is operand 0. -/
def handleMovMoffsAcc (width : RmWidth) : Handler := do
  let value ← readOperandChecked 0 width.bytes
  writeOperandChecked 1 value width.bytes

/-- `MOV_R8_IMM8` and its siblings. -/
def handleMovRImm (width : RmWidth) : Handler := do
  let ctx ← get
  let value := match width with
    | .rm8 => ctx.instr.immediate8
    | .rm16 => ctx.instr.immediate16
    | .rm32 => ctx.instr.immediate32
    | .rm64 => ctx.instr.immediate64
  modifyState fun s => writeRegister s (ctx.instr.opRegister 0) value width.bytes

/-- `MOV_RM8_IMM8` and its siblings; the wide form extends its immediate. -/
def handleMovRmImm (width : RmWidth) : Handler := do
  let ctx ← get
  let value := match width with
    | .rm8 => ctx.instr.immediate8
    | .rm16 => ctx.instr.immediate16
    | .rm32 => ctx.instr.immediate32
    | .rm64 => signExtend ctx.instr.immediate32 4
  writeOperandChecked 0 value width.bytes

/-! ## What they have in common -/

/-- The forms that move a value to operand 0. -/
inductive MovForm where
  | rmR (width : RmWidth)
  | rRm (width : RmWidth)
  | accMoffs (width : RmWidth)
  | rImm (width : RmWidth)
  | rmImm (width : RmWidth)
deriving DecidableEq, Repr

/-- The `RM, R` form of a width. -/
def RmWidth.store : RmWidth → AluForm
  | .rm8 => .rm8R8
  | .rm16 => .rm16R16
  | .rm32 => .rm32R32
  | .rm64 => .rm64R64

namespace MovForm

/-- The handler of a form. -/
def handler : MovForm → Handler
  | rmR width => handleMovRmR width
  | rRm width => handleMovRRm width
  | accMoffs width => handleMovAccMoffs width
  | rImm width => handleMovRImm width
  | rmImm width => handleMovRmImm width

/-- How the form writes its destination: as a store of the arithmetic does. -/
def target : MovForm → BinaryForm
  | rmR width | rmImm width => .rm width.store
  | rRm width | accMoffs width | rImm width => .regRm width

/-- The value that is moved, when all that is read can be. -/
def source (form : MovForm) (ctx : ExecutionContext) : Option U64 :=
  match form with
  -- the byte store reads its destination too
  | rmR .rm8 => (readOperand ctx 0 1).bind fun _ => readOperand ctx 1 1
  | rmR width | rRm width | accMoffs width => readOperand ctx 1 width.bytes
  | rImm .rm8 | rmImm .rm8 => some ctx.instr.immediate8
  | rImm .rm16 | rmImm .rm16 => some ctx.instr.immediate16
  | rImm .rm32 | rmImm .rm32 => some ctx.instr.immediate32
  | rImm .rm64 => some ctx.instr.immediate64
  | rmImm .rm64 => some (signExtend ctx.instr.immediate32 4)

variable {ctx : ExecutionContext}

/-- An operand that cannot be read. -/
theorem readOperandChecked_none {operandIndex width : Nat}
    (h : readOperand ctx operandIndex width = none) :
    ∃ e, readOperandChecked operandIndex width ctx = .error e ctx := by
  unfold readOperandChecked
  rw [h]
  exact ⟨_, rfl⟩

/-- A move stores its source with the flags as they are. -/
theorem handler_eq (form : MovForm) {value : U64} (h : form.source ctx = some value) :
    form.handler ctx = storeBinary form.target (value, ctx.state.rflags) ctx := by
  have hget : (get : HandlerM ExecutionContext) ctx = .ok ctx ctx := rfl
  cases form with
  | rmR width =>
    cases width with
    | rm8 =>
      obtain ⟨old, hold, hvalue⟩ := Option.bind_eq_some_iff.mp h
      exact (bind_ok (readOperandChecked_ok_iff.mpr hold)).trans
        (bind_ok (readOperandChecked_ok_iff.mpr hvalue))
    | rm16 | rm32 | rm64 => exact bind_ok (readOperandChecked_ok_iff.mpr h)
  | rRm width =>
    exact (bind_ok (readOperandChecked_ok_iff.mpr h)).trans (bind_ok hget)
  | accMoffs width =>
    exact (bind_ok (readOperandChecked_ok_iff.mpr h)).trans (bind_ok hget)
  | rImm width =>
    cases width <;> cases h <;> rfl
  | rmImm width =>
    cases width <;> cases h <;> rfl

/-- **Where a move goes**: the destination reads back as the source. -/
theorem moves (form : MovForm) {value : U64} (hsource : form.source ctx = some value)
    (hwhole : WholeDestination form.target ctx) :
    ∃ after, form.handler ctx = .ok () after ∧ after.state.rflags = ctx.state.rflags ∧
      destination form.target after = some (truncate value form.target.width) := by
  rw [form.handler_eq hsource]
  exact hwhole.stores (value, ctx.state.rflags)

/-- A source that cannot be read stops the move before it writes. -/
theorem faults (form : MovForm) (h : form.source ctx = none) :
    ∃ e, form.handler ctx = .error e ctx := by
  have hread (width : Nat) (hnone : readOperand ctx 1 width = none) (rest : U64 → Handler) :
      ∃ e, (readOperandChecked 1 width >>= rest) ctx = .error e ctx := by
    obtain ⟨e, he⟩ := readOperandChecked_none hnone
    exact ⟨e, bind_error he⟩
  cases form with
  | rmR width =>
    cases width with
    -- The byte form reads its destination before the source, so either read can fault.
    | rm8 =>
      cases hold : readOperand ctx 0 1 with
      | none =>
        obtain ⟨e, he⟩ := readOperandChecked_none hold
        exact ⟨e, bind_error he⟩
      | some old =>
        have hnone : readOperand ctx 1 1 = none := by
          unfold source at h
          rw [hold] at h
          exact h
        obtain ⟨e, he⟩ := hread 1 hnone fun value => writeOperandChecked 0 value 1
        exact ⟨e, (bind_ok (readOperandChecked_ok_iff.mpr hold)).trans he⟩
    | rm16 | rm32 | rm64 => exact hread _ h _
  | rRm width => exact hread _ h _
  | accMoffs width => exact hread _ h _
  | rImm width => cases width <;> cases h
  | rmImm width => cases width <;> cases h

end MovForm

/-- The store of the accumulator to a direct address: operand 1, a register,
takes what operand 0 holds, and the memory stays. -/
theorem handleMovMoffsAcc_loads (width : RmWidth) {ctx after : ExecutionContext}
    (hacc : ctx.instr.opKind 1 = .register) (h : handleMovMoffsAcc width ctx = .ok () after) :
    ∃ value, readOperand ctx 0 width.bytes = some value ∧
      after = { ctx with
        state := writeRegister ctx.state (ctx.instr.opRegister 1) (truncate value width.bytes) 0 } := by
  cases hread : readOperand ctx 0 width.bytes with
  | none =>
    obtain ⟨e, he⟩ := MovForm.readOperandChecked_none hread
    have herror : handleMovMoffsAcc width ctx = .error e ctx := bind_error he
    rw [herror] at h
    cases h
  | some value =>
    refine ⟨value, rfl, ?_⟩
    have hrun : handleMovMoffsAcc width ctx = writeOperandChecked 1 value width.bytes ctx :=
      bind_ok (readOperandChecked_ok_iff.mpr hread)
    rw [hrun] at h
    rw [of_writeOperandChecked_ok h]
    unfold writeOperand
    simp only [hacc]

/-! ## Segment registers -/

/-- The state in the shadow of a load of `SS`. -/
def shadowSs (s : CpuState) : CpuState :=
  { s with
    debugSuppression := 1#8
    pendingSingleStep := s.pendingSingleStep || flagSet s.rflags kFlagTF }

/-- The note of a `MOV` to `SS`; a memory source is checked against the data
breakpoints. -/
def noteMovSs (width : Nat) : Handler := fun ctx =>
  if ctx.instr.opRegister 0 = .ss then
    let s := shadowSs ctx.state
    let hits :=
      if ctx.instr.opKind 1 = .memory then
        debugDataBreakpointHits s (memoryAddress s ctx.instr) (BitVec.ofNat 64 width) true false
      else 0#64
    .ok () { ctx with state := s, debugHitBits := ctx.debugHitBits ||| hits }
  else .ok () ctx

/-- A `MOV` to a segment register from a source of this width. -/
def movSreg (width : Nat) : Handler := do
  let value ← readOperandChecked 1 width
  let instr := (← get).instr
  modifyState fun s => writeRegister s (instr.opRegister 0) value 2
  noteMovSs width

/-- `handle_code_MOV_SREG_RM16`. -/
def handleMovSregRm16 : Handler := movSreg 2

/-- `handle_code_MOV_SREG_R32M16`, which reads four bytes. -/
def handleMovSregR32M16 : Handler := movSreg 4

end Seven
