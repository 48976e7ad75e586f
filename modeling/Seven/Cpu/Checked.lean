import Seven.Lib.Failure
import Seven.Cpu.Context
import Seven.Memory.Effect

/-!
# The checked accesses as computations that may fail

The reads leave the context alone whether they succeed or not (`Quiet`).
The writes change the memory first and then report: a refused write is a
page fault whose context already has whatever the write stored. Whether a
write is refused is asked of the memory by `Memory.accepts`, and it is a
question about access rights only, so the answer for a later write can be
read off the memory an instruction started with (`accepts_congr`).
-/

namespace Seven

open Seven.Lib

/-- The failures that fault hooks repair. -/
def PageFault (r : ExecutionResult) : Prop := r.reason = .pageFault

/-- A view of the context that shows the CPU state. -/
def SeesState {τ : Type} (v : ExecutionContext → τ) : Prop :=
  ∀ ctx ctx', v ctx = v ctx' → ctx.state = ctx'.state

/-- The context itself sees the state. -/
theorem seesState_id : SeesState id := fun _ _ h => congrArg ExecutionContext.state h

/-- The state sees the state. -/
theorem seesState_state : SeesState ExecutionContext.state := fun _ _ h => h

/-- `memory_fault` answers with a page fault. -/
theorem pageFaultAt_pageFault (ctx : ExecutionContext) (address : U64) :
    PageFault (pageFaultAt ctx address) := rfl

/-! ## Reads -/

/-- A checked read changes nothing. -/
theorem readMemoryChecked_quiet (address : U64) (width : Nat) :
    Quiet (readMemoryChecked address width) := by
  intro ctx
  unfold readMemoryChecked
  cases ctx.memory.read address width .dataRead with
  | some bytes => exact Or.inl ⟨_, rfl⟩
  | none => exact Or.inr ⟨_, rfl⟩

/-- A read that succeeds leaves the context alone. -/
theorem readMemoryChecked_ok {ctx c : ExecutionContext} {address value : U64} {width : Nat}
    (h : readMemoryChecked address width ctx = .ok value c) : c = ctx := by
  rcases readMemoryChecked_quiet address width ctx with ⟨v, hv⟩ | ⟨r, hr⟩
  · rw [hv] at h
    cases h
    rfl
  · rw [hr] at h
    cases h

/-- A read the memory answers. -/
theorem readMemoryChecked_some {ctx : ExecutionContext} {address : U64} {width : Nat}
    {bytes : List Byte} (h : ctx.memory.read address width .dataRead = some bytes) :
    readMemoryChecked address width ctx = .ok (fromBytes bytes) ctx := by
  unfold readMemoryChecked
  rw [h]

/-- A read the memory refuses. -/
theorem readMemoryChecked_none {ctx : ExecutionContext} {address : U64} {width : Nat}
    (h : ctx.memory.read address width .dataRead = none) :
    readMemoryChecked address width ctx = .error (pageFaultAt ctx address) ctx := by
  unfold readMemoryChecked
  rw [h]
  rfl

/-- When a checked read gives a value. -/
theorem readMemoryChecked_ok_iff {ctx : ExecutionContext} {address : U64} {width : Nat}
    {value : U64} :
    readMemoryChecked address width ctx = .ok value ctx ↔
      (ctx.memory.read address width .dataRead).map fromBytes = some value := by
  unfold readMemoryChecked
  cases ctx.memory.read address width .dataRead with
  | some bytes =>
    constructor
    · intro h
      cases h
      rfl
    · intro h
      cases h
      rfl
  | none =>
    constructor
    · intro h
      cases h
    · intro h
      cases h

/-- A checked operand read changes nothing. -/
theorem readOperandChecked_quiet (operandIndex width : Nat) :
    Quiet (readOperandChecked operandIndex width) := by
  intro ctx
  unfold readOperandChecked
  cases readOperand ctx operandIndex width with
  | some value => exact Or.inl ⟨_, rfl⟩
  | none => exact Or.inr ⟨_, rfl⟩

/-- When a checked operand read gives a value. -/
theorem readOperandChecked_ok_iff {ctx : ExecutionContext} {operandIndex width : Nat}
    {value : U64} :
    readOperandChecked operandIndex width ctx = .ok value ctx ↔
      readOperand ctx operandIndex width = some value := by
  unfold readOperandChecked
  cases readOperand ctx operandIndex width with
  | some w =>
    constructor
    · intro h
      cases h
      rfl
    · intro h
      cases h
      rfl
  | none =>
    constructor
    · intro h
      cases h
    · intro h
      cases h

/-- A fault on the spot changes nothing. -/
theorem faultHere_quiet {α : Type} (reason : StopReason) (errorCode : BitVec 32) :
    Quiet (faultHere reason errorCode : HandlerM α) := fun _ => Or.inr ⟨_, rfl⟩

/-! ## State updates -/

/-- A change of the state cannot fail. -/
theorem modifyState_total (f : CpuState → CpuState) : Total (modifyState f) :=
  fun _ => ⟨(), _, rfl⟩

/-- Noting a jump cannot fail. -/
theorem takeControlFlow_total : Total takeControlFlow := fun _ => ⟨(), _, rfl⟩

/-! ## Writes -/

/-- Does the memory take this store? -/
def Memory.accepts (m : Memory) (address value : U64) (width : Nat) : Bool :=
  (m.write address (toBytes value width) .dataWrite).2

/-- The memory after the store. -/
def Memory.stored (m : Memory) (address value : U64) (width : Nat) : Memory :=
  (m.write address (toBytes value width) .dataWrite).1

/-- A store moves no page, region or hook. -/
theorem Memory.stored_sameAccess (m : Memory) (address value : U64) {width : Nat}
    (hwidth : width ≤ 8) : SameAccess m (m.stored address value width) :=
  write_sameAccess m address (by rw [toBytes_length]; omega) .dataWrite

/-- Whether a store is accepted does not depend on the bytes. -/
theorem Memory.accepts_congr {m m' : Memory} (h : SameAccess m m') (address value : U64)
    {width : Nat} (hwidth : width ≤ 8) :
    m'.accepts address value width = m.accepts address value width :=
  write_ok_congr h address (by rw [toBytes_length]; omega) .dataWrite

/-- A store the memory accepts. -/
theorem writeMemoryChecked_ok {ctx : ExecutionContext} {address value : U64} {width : Nat}
    (h : ctx.memory.accepts address value width = true) :
    writeMemoryChecked address value width ctx =
      .ok () { ctx with memory := ctx.memory.stored address value width } := by
  unfold writeMemoryChecked Memory.stored
  unfold Memory.accepts at h
  cases hw : ctx.memory.write address (toBytes value width) .dataWrite with
  | mk m b =>
    rw [hw] at h
    subst h
    rfl

/-- A store the memory refuses; the pages in front of the fault are written. -/
theorem writeMemoryChecked_error {ctx : ExecutionContext} {address value : U64} {width : Nat}
    (h : ctx.memory.accepts address value width = false) :
    writeMemoryChecked address value width ctx =
      .error (pageFaultAt ctx address)
        { ctx with memory := ctx.memory.stored address value width } := by
  unfold writeMemoryChecked Memory.stored
  unfold Memory.accepts at h
  cases hw : ctx.memory.write address (toBytes value width) .dataWrite with
  | mk m b =>
    rw [hw] at h
    subst h
    rfl

/-- A store that succeeded was accepted, and changed the memory only. -/
theorem of_writeMemoryChecked_ok {ctx c : ExecutionContext} {address value : U64} {width : Nat}
    (h : writeMemoryChecked address value width ctx = .ok () c) :
    ctx.memory.accepts address value width = true ∧
      c = { ctx with memory := ctx.memory.stored address value width } := by
  cases haccepts : ctx.memory.accepts address value width with
  | true =>
    rw [writeMemoryChecked_ok haccepts] at h
    cases h
    exact ⟨rfl, rfl⟩
  | false =>
    rw [writeMemoryChecked_error haccepts] at h
    cases h

/-- Does the destination take this value? A register does, an immediate does
not. -/
def operandAccepts (ctx : ExecutionContext) (operandIndex : Nat) (value : U64) (width : Nat) :
    Bool :=
  (writeOperand ctx operandIndex value width).2

/-- A destination that accepts the value. -/
theorem writeOperandChecked_ok {ctx : ExecutionContext} {operandIndex width : Nat} {value : U64}
    (h : operandAccepts ctx operandIndex value width = true) :
    writeOperandChecked operandIndex value width ctx =
      .ok () (writeOperand ctx operandIndex value width).1 := by
  unfold writeOperandChecked
  unfold operandAccepts at h
  cases hw : writeOperand ctx operandIndex value width with
  | mk ctx' b =>
    rw [hw] at h
    subst h
    rfl

/-- What a successful store to an operand leaves. -/
theorem of_writeOperandChecked_ok {ctx c : ExecutionContext} {operandIndex width : Nat}
    {value : U64} (h : writeOperandChecked operandIndex value width ctx = .ok () c) :
    c = (writeOperand ctx operandIndex value width).1 := by
  unfold writeOperandChecked at h
  cases hw : writeOperand ctx operandIndex value width with
  | mk ctx' b =>
    rw [hw] at h
    cases b with
    | true =>
      cases h
      rfl
    | false => cases h

/-- A refused operand write changes no register. -/
theorem writeOperandChecked_error {ctx : ExecutionContext} {operandIndex width : Nat} {value : U64}
    (h : operandAccepts ctx operandIndex value width = false) :
    ∃ r ctx', writeOperandChecked operandIndex value width ctx = .error r ctx' ∧ PageFault r ∧
      ctx'.state = ctx.state ∧ ctx' = (writeOperand ctx operandIndex value width).1 := by
  unfold writeOperandChecked
  unfold operandAccepts at h
  cases hw : writeOperand ctx operandIndex value width with
  | mk ctx' b =>
    rw [hw] at h
    subst h
    refine ⟨_, _, rfl, rfl, ?_, rfl⟩
    unfold writeOperand at hw
    split at hw
    next => cases hw
    next =>
      simp only [Prod.mk.injEq] at hw
      rw [← hw.1]
    next =>
      cases hw
      rfl

/-! ## Data breakpoints -/

/-- Noting a data breakpoint leaves the state and the instruction. -/
theorem noteDebugBreak_frame (ctx : ExecutionContext) (hits : U64) (goOn : Bool) :
    (noteDebugBreak ctx hits goOn).1.state = ctx.state ∧
      (noteDebugBreak ctx hits goOn).1.instr = ctx.instr := by
  unfold noteDebugBreak
  split <;> exact ⟨rfl, rfl⟩

/-- Noting a data breakpoint leaves the memory. -/
theorem noteDebugBreak_memory (ctx : ExecutionContext) (hits : U64) (goOn : Bool) :
    (noteDebugBreak ctx hits goOn).1.memory = ctx.memory := by
  unfold noteDebugBreak
  split <;> rfl

/-- A loop is broken off when a breakpoint was hit. -/
theorem noteDebugBreak_snd (ctx : ExecutionContext) (hits : U64) (goOn : Bool) :
    (noteDebugBreak ctx hits goOn).2 = decide (hits ≠ 0#64) := by
  unfold noteDebugBreak
  by_cases h : hits = 0#64
  · rw [if_pos h, decide_eq_false (not_not_intro h)]
  · rw [if_neg h, decide_eq_true h]

/-- An iteration that is to be continued counts as a jump. -/
theorem noteDebugBreak_taken (ctx : ExecutionContext) (hits : U64) (goOn : Bool) :
    (noteDebugBreak ctx hits goOn).1.controlFlowTaken =
      (ctx.controlFlowTaken || (decide (hits ≠ 0#64) && goOn)) := by
  unfold noteDebugBreak
  by_cases h : hits = 0#64
  · rw [if_pos h, decide_eq_false (not_not_intro h), Bool.false_and, Bool.or_false]
  · rw [if_neg h, decide_eq_true h, Bool.true_and]

end Seven
