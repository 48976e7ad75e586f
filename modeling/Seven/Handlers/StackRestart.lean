import Seven.Cpu.Checked
import Seven.Handlers.Stack

/-!
# Which stack instructions can be run again

An instruction is restartable when a page fault leaves the CPU state as it
was. The primitives are not: `pushWidth` has moved the stack pointer when
its store is refused, and whatever follows a successful `popWidth` finds it
moved. So an instruction of this family is restartable exactly when no
access behind the first move of the stack pointer is refused;
`StackShape.RestartSafe` says this family by family, as a question about the
memory the instruction starts with, and `StackShape.failsAt_iff` is the
equivalence.

A moved stack pointer is a changed one because its low sixteen bits, which
no mode masks off, have moved by less than `2 ^ 16` (`lowSp`).
-/

namespace Seven

open Seven.Lib

/-! ## The low bits of the stack pointer -/

/-- The part of the stack pointer that every mode keeps. -/
def CpuState.lowSp (s : CpuState) : BitVec 16 := s.rsp.setWidth 16

/-- The low sixteen bits survive the mask of every mode. -/
theorem lowSp_setRsp_mask (s s' : CpuState) (value : U64) :
    (s.setRsp (maskStackPointer s' value)).lowSp = value.setWidth 16 := by
  apply BitVec.eq_of_toNat_eq
  have hdvd : 2 ^ 16 ∣ 2 ^ (8 * stackPointerWidth s'.mode) := by
    apply Nat.pow_dvd_pow
    cases s'.mode <;> decide
  unfold CpuState.lowSp
  rw [CpuState.setRsp_rsp, BitVec.toNat_setWidth, BitVec.toNat_setWidth, maskStackPointer_toNat]
  exact Nat.mod_mod_of_dvd _ hdvd

/-- A push moves them down. -/
theorem lowSp_push (s : CpuState) (width : Nat) :
    (s.setRsp (maskStackPointer s (s.rsp - BitVec.ofNat 64 width))).lowSp =
      s.lowSp - BitVec.ofNat 16 width := by
  rw [lowSp_setRsp_mask]
  unfold CpuState.lowSp
  apply BitVec.eq_of_toNat_eq
  simp only [BitVec.toNat_setWidth, BitVec.toNat_sub, BitVec.toNat_ofNat]
  omega

/-- A pop moves them up. -/
theorem lowSp_pop (s : CpuState) (width : Nat) :
    (s.setRsp (maskStackPointer s (s.rsp + BitVec.ofNat 64 width))).lowSp =
      s.lowSp + BitVec.ofNat 16 width := by
  rw [lowSp_setRsp_mask]
  unfold CpuState.lowSp
  apply BitVec.eq_of_toNat_eq
  simp only [BitVec.toNat_setWidth, BitVec.toNat_add, BitVec.toNat_ofNat]
  omega

/-- Moved down, the state is another. -/
theorem lowSp_moved_down {s s' : CpuState} {k : Nat} (hpos : 0 < k) (hlt : k < 2 ^ 16)
    (h : s'.lowSp = s.lowSp - BitVec.ofNat 16 k) : s' ≠ s := by
  rintro rfl
  have hnat := congrArg BitVec.toNat h
  simp only [BitVec.toNat_sub, BitVec.toNat_ofNat] at hnat
  have hb := s'.lowSp.isLt
  omega

/-- Moved up, the state is another. -/
theorem lowSp_moved_up {s s' : CpuState} {k : Nat} (hpos : 0 < k) (hlt : k < 2 ^ 16)
    (h : s'.lowSp = s.lowSp + BitVec.ofNat 16 k) : s' ≠ s := by
  rintro rfl
  have hnat := congrArg BitVec.toNat h
  simp only [BitVec.toNat_add, BitVec.toNat_ofNat] at hnat
  have hb := s'.lowSp.isLt
  omega

/-! ## Pushes -/

/-- The state with the stack pointer moved down by a slot. -/
def CpuState.pushed (s : CpuState) (width : Nat) : CpuState :=
  s.setRsp (maskStackPointer s (s.rsp - BitVec.ofNat 64 width))

/-- The state with the stack pointer moved up by a slot. -/
def CpuState.popped (s : CpuState) (width : Nat) : CpuState :=
  s.setRsp (maskStackPointer s (s.rsp + BitVec.ofNat 64 width))

/-- Does the memory take these slots, pushed one after the other from the
state? -/
def frameAccepted (m : Memory) : CpuState → List (U64 × Nat) → Prop
  | _, [] => True
  | s, (value, width) :: rest =>
    m.accepts (s.pushed width).rsp value width = true ∧ frameAccepted m (s.pushed width) rest

/-- The bytes a frame takes. -/
def frameSize (slots : List (U64 × Nat)) : Nat := (slots.map Prod.snd).sum

/-- The slots have widths the push has a case for. -/
def FrameWidths (widths : List Nat) (slots : List (U64 × Nat)) : Prop :=
  ∀ width ∈ slots.map Prod.snd, width ∈ widths ∧ 0 < width ∧ width ≤ 8

variable {widths : List Nat} {refuse : Handler}

/-- A push of a width it takes. -/
theorem pushSlot_eq {value : U64} {width : Nat} (hwidth : width ∈ widths) (ctx : ExecutionContext) :
    pushSlot widths refuse value width ctx =
      writeMemoryChecked (ctx.state.pushed width).rsp value width
        { ctx with state := ctx.state.pushed width } := by
  unfold pushSlot
  rw [if_pos hwidth]
  rfl

/-- A push whose slot is accepted. -/
theorem pushSlot_ok {value : U64} {width : Nat} (hwidth : width ∈ widths) {ctx : ExecutionContext}
    (h : ctx.memory.accepts (ctx.state.pushed width).rsp value width = true) :
    pushSlot widths refuse value width ctx =
      .ok () { ctx with
        state := ctx.state.pushed width
        memory := ctx.memory.stored (ctx.state.pushed width).rsp value width } := by
  rw [pushSlot_eq hwidth]
  exact writeMemoryChecked_ok h

/-- A refused push has moved the stack pointer. -/
theorem pushSlot_error {value : U64} {width : Nat} (hwidth : width ∈ widths)
    {ctx : ExecutionContext}
    (h : ctx.memory.accepts (ctx.state.pushed width).rsp value width = false) :
    ∃ r ctx', pushSlot widths refuse value width ctx = .error r ctx' ∧ PageFault r ∧
      ctx'.state = ctx.state.pushed width := by
  have hmoved : ({ ctx with state := ctx.state.pushed width } : ExecutionContext).memory.accepts
      (ctx.state.pushed width).rsp value width = false := h
  have herr := (@pushSlot_eq widths refuse value width hwidth ctx).trans
    (writeMemoryChecked_error hmoved)
  exact ⟨_, _, herr, rfl, rfl⟩

/-- **A frame is pushed whole or the stack pointer is left moved.** The
question is asked of a memory `m` with the rights of the one written to, so
that it stays the same along the frame. -/
theorem pushAllOf_cases (m : Memory) :
    ∀ (slots : List (U64 × Nat)) (ctx : ExecutionContext), FrameWidths widths slots →
      Memory.SameAccess m ctx.memory →
      (frameAccepted m ctx.state slots ∧
        ∃ ctx', pushAllOf widths refuse slots ctx = .ok () ctx') ∨
      (¬ frameAccepted m ctx.state slots ∧
        ∃ r ctx' k, pushAllOf widths refuse slots ctx = .error r ctx' ∧ PageFault r ∧
          0 < k ∧ k ≤ frameSize slots ∧
          ctx'.state.lowSp = ctx.state.lowSp - BitVec.ofNat 16 k) := by
  intro slots
  induction slots with
  | nil =>
    intro ctx _ _
    exact Or.inl ⟨trivial, ctx, rfl⟩
  | cons slot rest ih =>
    intro ctx hwidths hsame
    obtain ⟨value, width⟩ := slot
    obtain ⟨hmem, hpos, hle⟩ := hwidths width (List.mem_cons_self ..)
    have haccepts := Memory.accepts_congr hsame (ctx.state.pushed width).rsp value hle
    have hsize : frameSize ((value, width) :: rest) = width + frameSize rest := by
      simp only [frameSize, List.map_cons, List.sum_cons]
    cases hslot : m.accepts (ctx.state.pushed width).rsp value width with
    | false =>
      -- this slot is refused
      rw [hslot] at haccepts
      obtain ⟨r, ctx', herr, hpf, hstate⟩ :=
        @pushSlot_error widths refuse value width hmem ctx haccepts
      refine Or.inr ⟨fun h => ?_, r, ctx', width, bind_error herr, hpf, hpos, by omega, ?_⟩
      · have h1 := h.1
        rw [hslot] at h1
        cases h1
      · rw [hstate]
        exact lowSp_push ctx.state width
    | true =>
      rw [hslot] at haccepts
      have hok := @pushSlot_ok widths refuse value width hmem ctx haccepts
      have hsame' := hsame.trans
        (ctx.memory.stored_sameAccess (ctx.state.pushed width).rsp value hle)
      rcases ih { ctx with
          state := ctx.state.pushed width
          memory := ctx.memory.stored (ctx.state.pushed width).rsp value width }
        (fun w hw => hwidths w (List.mem_cons_of_mem _ hw)) hsame' with
        ⟨hrest, ctx', hrun⟩ | ⟨hrest, r, ctx', k, hrun, hpf, hk, hkle, hlow⟩
      · exact Or.inl ⟨⟨hslot, hrest⟩, ctx', (bind_ok hok).trans hrun⟩
      · refine Or.inr ⟨fun h => hrest h.2, r, ctx', width + k, (bind_ok hok).trans hrun, hpf,
          by omega, by omega, ?_⟩
        have hone : (ctx.state.pushed width).lowSp = ctx.state.lowSp - BitVec.ofNat 16 width :=
          lowSp_push ctx.state width
        rw [hlow, hone]
        apply BitVec.eq_of_toNat_eq
        simp only [BitVec.toNat_sub, BitVec.toNat_ofNat]
        have hb := ctx.state.lowSp.isLt
        omega

section view

variable {τ : Type} {v : ExecutionContext → τ}

/-- A failed frame shows, whatever follows the frame without failing. -/
theorem failsAt_frame_iff (hv : SeesState v) {slots : List (U64 × Nat)}
    (hwidths : FrameWidths widths slots) (hsize : frameSize slots < 2 ^ 16)
    (ctx : ExecutionContext) :
    FailsAt PageFault v (pushAllOf widths refuse slots) ctx (v ctx) ↔
      frameAccepted ctx.memory ctx.state slots := by
  rcases @pushAllOf_cases widths refuse ctx.memory slots ctx hwidths
      (Memory.SameAccess.refl _) with
    ⟨haccepted, ctx', hrun⟩ | ⟨hrefused, r, ctx', k, hrun, hpf, hpos, hle, hlow⟩
  · exact iff_of_true (failsAt_ok hrun) haccepted
  · rw [failsAt_error_iff hrun hpf]
    refine iff_of_false (fun hsame => ?_) hrefused
    exact lowSp_moved_down hpos (by omega) hlow (hv _ _ hsame)

/-- One push is a frame of one slot. -/
theorem failsAt_push_iff (hv : SeesState v) (value : U64) {width : Nat}
    (hwidth : width ∈ [2, 4, 8]) (ctx : ExecutionContext) :
    FailsAt PageFault v (pushWidth value width) ctx (v ctx) ↔
      frameAccepted ctx.memory ctx.state [(value, width)] := by
  have hwidths : FrameWidths [1, 2, 4, 8] [(value, width)] := by
    intro w hw
    rw [List.mem_singleton.mp hw]
    simp only [List.mem_cons, List.not_mem_nil, or_false] at hwidth ⊢
    omega
  have hsize : frameSize [(value, width)] < 2 ^ 16 := by
    simp only [List.mem_cons, List.not_mem_nil, or_false] at hwidth
    simp only [frameSize, List.map_cons, List.map_nil, List.sum_cons, List.sum_nil]
    omega
  rw [← @failsAt_frame_iff _ unsupportedInstruction _ _ hv _ hwidths hsize ctx]
  exact (failsAt_bind_total fun _ => Total.pure ()).symm

/-! ## Pops -/

/-- A pop whose slot cannot be read. -/
theorem popWidth_none {width : Nat} (hwidth : width ∈ [1, 2, 4, 8]) {ctx : ExecutionContext}
    (h : ctx.memory.read ctx.state.rsp width .dataRead = none) :
    popWidth width ctx = .error (pageFaultAt ctx ctx.state.rsp) ctx := by
  unfold popWidth
  rw [if_pos hwidth]
  have hget : (get : HandlerM ExecutionContext) ctx = .ok ctx ctx := rfl
  exact (bind_ok hget).trans (bind_error (readMemoryChecked_none h))

/-- A pop whose slot can. -/
theorem popWidth_some {width : Nat} (hwidth : width ∈ [1, 2, 4, 8]) {ctx : ExecutionContext}
    {bytes : List Byte} (h : ctx.memory.read ctx.state.rsp width .dataRead = some bytes) :
    popWidth width ctx =
      .ok (fromBytes bytes) { ctx with state := ctx.state.popped width } := by
  unfold popWidth
  rw [if_pos hwidth]
  exact bind_ok (readMemoryChecked_some h)

/-- The first pop of an instruction: its own failure changes nothing. -/
theorem failsAt_pop_bind {α : Type} {width : Nat} (hwidth : width ∈ [1, 2, 4, 8])
    {f : U64 → HandlerM α} (ctx : ExecutionContext) :
    FailsAt PageFault v (popWidth width >>= f) ctx (v ctx) ↔
      ∀ bytes, ctx.memory.read ctx.state.rsp width .dataRead = some bytes →
        FailsAt PageFault v (f (fromBytes bytes))
          { ctx with state := ctx.state.popped width } (v ctx) := by
  cases hread : ctx.memory.read ctx.state.rsp width .dataRead with
  | none =>
    have hpop := popWidth_none hwidth hread
    rw [failsAt_bind_error hpop, failsAt_error_iff hpop (pageFaultAt_pageFault _ _)]
    exact iff_of_true rfl fun bytes h => by cases h
  | some bytes =>
    rw [failsAt_bind_ok (popWidth_some hwidth hread)]
    constructor
    · intro h bytes' hbytes
      cases hbytes
      exact h
    · intro h
      exact h bytes rfl

/-- A pop after the stack pointer has moved: it has to succeed. -/
theorem failsAt_pop_moved (hv : SeesState v) {α : Type} {width : Nat}
    (hwidth : width ∈ [1, 2, 4, 8]) {f : U64 → HandlerM α} {ctx ctx₁ : ExecutionContext}
    (hmoved : ctx₁.state ≠ ctx.state) :
    FailsAt PageFault v (popWidth width >>= f) ctx₁ (v ctx) ↔
      ∃ bytes, ctx₁.memory.read ctx₁.state.rsp width .dataRead = some bytes ∧
        FailsAt PageFault v (f (fromBytes bytes))
          { ctx₁ with state := ctx₁.state.popped width } (v ctx) := by
  cases hread : ctx₁.memory.read ctx₁.state.rsp width .dataRead with
  | none =>
    have hpop := popWidth_none hwidth hread
    rw [failsAt_bind_error hpop, failsAt_error_iff hpop (pageFaultAt_pageFault _ _)]
    refine iff_of_false (fun hsame => hmoved (hv _ _ hsame)) ?_
    rintro ⟨bytes, h, _⟩
    cases h
  | some bytes =>
    rw [failsAt_bind_ok (popWidth_some hwidth hread)]
    constructor
    · intro h
      exact ⟨bytes, rfl, h⟩
    · rintro ⟨bytes', hbytes, h⟩
      cases hbytes
      exact h

/-- A pop leaves another state. -/
theorem popped_ne (s : CpuState) {width : Nat} (hpos : 0 < width) (hlt : width < 2 ^ 16) :
    s.popped width ≠ s :=
  lowSp_moved_up hpos hlt (lowSp_pop s width)

/-- So do two. -/
theorem popped_popped_ne (s : CpuState) {width width' : Nat} (hpos : 0 < width + width')
    (hlt : width + width' < 2 ^ 16) : (s.popped width).popped width' ≠ s := by
  have h1 : (s.popped width).lowSp = s.lowSp + BitVec.ofNat 16 width := lowSp_pop s width
  have h2 : ((s.popped width).popped width').lowSp =
      (s.popped width).lowSp + BitVec.ofNat 16 width' := lowSp_pop _ width'
  refine lowSp_moved_up hpos hlt ?_
  rw [h2, h1]
  apply BitVec.eq_of_toNat_eq
  simp only [BitVec.toNat_add, BitVec.toNat_ofNat]
  omega

end view

/-! ## The condition -/

/-- The target of an indirect near call, when it can be read. -/
def nearTarget (ctx : ExecutionContext) (width : Nat) : Option U64 :=
  if width = 8 ∧ ctx.state.mode = .long64 ∧ ctx.instr.opKind 0 = .register then
    some (readRegister ctx.state (promoteGpr32To64 (ctx.instr.opRegister 0)))
  else readOperand ctx 0 width

/-- Do the slots take this frame? -/
def ExecutionContext.takesFrame (ctx : ExecutionContext) (slots : List (U64 × Nat)) : Prop :=
  frameAccepted ctx.memory ctx.state slots

/-- The bytes at the top of the stack. -/
def ExecutionContext.stackTop (ctx : ExecutionContext) (s : CpuState) (width : Nat) :
    Option (List Byte) :=
  ctx.memory.read s.rsp width .dataRead

/-- A call through an operand is safe when the slot takes the return address. -/
def callRmSafe (ctx : ExecutionContext) (width : Nat) : Prop :=
  ∀ target, nearTarget ctx width = some target → ctx.takesFrame [(ctx.nextRip, width)]

/-- Delivery of an interrupt: no usable gate, or room for the frame. -/
def deliverySafe (ctx : ExecutionContext) (vector : BitVec 8) : Prop :=
  ∀ gate, readGate vector ctx = .ok gate ctx →
    ctx.takesFrame (interruptFrame ctx.state ctx.nextRip none false)

/-- No access behind the first move of the stack pointer is refused. -/
def StackShape.RestartSafe (ctx : ExecutionContext) : StackShape → Prop
  | .pushOperand w =>
    ∀ value, readOperand ctx 0 w.bytes = some value → ctx.takesFrame [(value, w.bytes)]
  | .pushImm i w sx =>
    ∀ value, readOperand ctx 0 i = some value →
      ctx.takesFrame [(if sx then signExtend value i else value, w.bytes)]
  | .pushSegment i w => ctx.takesFrame [((ctx.state.sreg i).setWidth 64, w.bytes)]
  | .pushFlags w => ctx.takesFrame [(ctx.state.rflags, w.bytes)]
  | .pushAll w =>
    ctx.takesFrame ((pushAllRegisters ctx.state).map fun value => (value, w.bytes))
  | .popOperand w =>
    ∀ bytes, ctx.stackTop ctx.state w.bytes = some bytes →
      operandAccepts { ctx with state := ctx.state.popped w.bytes } 0 (fromBytes bytes) w.bytes =
        true
  | .popfq => True
  -- In long mode the 32-bit form pushes eight bytes.
  | .callRm w => callRmSafe ctx w.bytes
  | .callRm32 => callRmSafe ctx (if ctx.state.mode = .long64 then 8 else 4)
  | .callRel w => ctx.takesFrame [(ctx.nextRip, w.bytes)]
  | .callFarMem w =>
    ∀ offset selector,
      readFarMem w.bytes ctx = .ok (offset, selector) ctx →
      ctx.takesFrame [(ctx.nextRip, w.bytes), (selector.setWidth 64, 2)]
  | .callFarPtr w =>
    ctx.takesFrame [(ctx.nextRip, w.bytes), (ctx.instr.farBranchSelector.setWidth 64, 2)]
  | .ret _ _ => True
  | .retf w _ =>
    ∀ offset, ctx.stackTop ctx.state w.bytes = some offset →
      ∃ selector, ctx.stackTop (ctx.state.popped w.bytes) 2 = some selector
  -- The selector has to be there once the offset has been popped; IRET asks for the flags as
  -- well.
  | .iret w =>
    ∀ offset, ctx.stackTop ctx.state w.bytes = some offset →
      ∃ selector, ctx.stackTop (ctx.state.popped w.bytes) 2 = some selector ∧
        ∃ flags, ctx.stackTop ((ctx.state.popped w.bytes).popped 2) w.bytes = some flags
  | .int vector => deliverySafe ctx (vector.getD (ctx.instr.immediate8.setWidth 8))
  | .into => flagSet ctx.state.rflags kFlagOF = true → deliverySafe ctx 4#8

/-! ## Quiet parts -/

/-- The target is read without a change. -/
theorem readNearTargetWidth_quiet (width : Nat) : Quiet (readNearTargetWidth width) := by
  refine Quiet.bind Quiet.get fun ctx => ?_
  split
  · exact Quiet.pure _
  · exact readOperandChecked_quiet 0 width

/-- When it is read. -/
theorem readNearTargetWidth_ok_iff {ctx : ExecutionContext} {width : Nat} {target : U64} :
    readNearTargetWidth width ctx = .ok target ctx ↔ nearTarget ctx width = some target := by
  have hget : (get : HandlerM ExecutionContext) ctx = .ok ctx ctx := rfl
  unfold readNearTargetWidth nearTarget
  rw [bind_ok hget]
  split
  next =>
    constructor
    · intro h
      cases h
      rfl
    · intro h
      cases h
      rfl
  next => exact readOperandChecked_ok_iff

/-- The far pointer is read without a change. -/
theorem readFarMem_quiet (offsetWidth : Nat) : Quiet (readFarMem offsetWidth) :=
  Quiet.bind (readOperandChecked_quiet 0 offsetWidth) fun _ =>
    Quiet.bind Quiet.get fun _ =>
      Quiet.bind (readMemoryChecked_quiet _ 2) fun _ => Quiet.pure _

/-- A descriptor is tested without a change. -/
theorem descriptorGate_quiet (vector : BitVec 8) (targetRip descriptor : U64) :
    Quiet (descriptorGate vector targetRip descriptor) := by
  unfold descriptorGate
  dsimp only
  split
  · exact faultHere_quiet _ _
  · exact Quiet.pure _

/-- A gate is read without a change. -/
theorem readGate_quiet (vector : BitVec 8) : Quiet (readGate vector) := by
  refine Quiet.bind Quiet.get fun ctx => ?_
  dsimp only
  split
  next => exact faultHere_quiet _ _
  next =>
    -- the descriptor's shape depends on the mode
    split
    next =>
      exact Quiet.bind (readMemoryChecked_quiet _ 2) fun _ =>
        Quiet.bind (readMemoryChecked_quiet _ 2) fun _ => Quiet.pure _
    next => exact Quiet.bind (readMemoryChecked_quiet _ 8) fun _ => descriptorGate_quiet _ _ _
    next =>
      exact Quiet.bind (readMemoryChecked_quiet _ 8) fun _ =>
        Quiet.bind (readMemoryChecked_quiet _ 8) fun _ => descriptorGate_quiet _ _ _

/-- A jump cannot fail. -/
theorem jumpTo_total (target : U64) : Total (jumpTo target) :=
  (modifyState_total _).bind fun _ => takeControlFlow_total

/-- Nor can a far jump. -/
theorem farJumpTo_total (mode : ExecutionMode) (selector : BitVec 16) (target : U64) :
    Total (farJumpTo mode selector target) :=
  (modifyState_total _).bind fun _ => takeControlFlow_total

/-- Nor can the note of `POP SS`. -/
theorem notePopSs_total (oldSp : U64) (width : Nat) : Total (notePopSs oldSp width) := by
  intro ctx
  unfold notePopSs
  split
  · exact ⟨(), _, rfl⟩
  · exact ⟨(), _, rfl⟩

/-! ## The families -/

/-- The widths of slots. -/
theorem StackWidth.bytes_mem (w : StackWidth) : w.bytes ∈ [2, 4, 8] := by
  cases w <;> decide

/-- As a pop takes them. -/
theorem StackWidth.bytes_mem_pop (w : StackWidth) : w.bytes ∈ [1, 2, 4, 8] := by
  cases w <;> decide

/-- A slot has bytes. -/
theorem StackWidth.bytes_pos (w : StackWidth) : 0 < w.bytes := by
  cases w <;> decide

/-- At most eight. -/
theorem StackWidth.bytes_le (w : StackWidth) : w.bytes ≤ 8 := by
  cases w <;> decide

/-- A frame of one width. -/
theorem frameWidths_map (values : List U64) {width : Nat} (hwidth : width ∈ widths)
    (hpos : 0 < width) (hle : width ≤ 8) :
    FrameWidths widths (values.map fun value => (value, width)) := by
  intro w hw
  rw [List.map_map] at hw
  obtain ⟨value, _, rfl⟩ := List.mem_map.mp hw
  exact ⟨hwidth, hpos, hle⟩

/-- And its size. -/
theorem frameSize_map (values : List U64) (width : Nat) :
    frameSize (values.map fun value => (value, width)) = values.length * width := by
  induction values with
  | nil => simp only [frameSize, List.map_nil, List.sum_nil, List.length_nil, Nat.zero_mul]
  | cons value rest ih =>
    simp only [frameSize, List.map_cons, List.sum_cons, List.length_cons] at ih ⊢
    rw [ih, Nat.succ_mul]
    omega

/-- The two slots of a far return address. -/
theorem farFrame_shape (offset selector : U64) (w : StackWidth) :
    FrameWidths [1, 2, 4, 8] [(offset, w.bytes), (selector, 2)] ∧
      frameSize [(offset, w.bytes), (selector, 2)] < 2 ^ 16 := by
  show (∀ width ∈ [w.bytes, 2], width ∈ [1, 2, 4, 8] ∧ 0 < width ∧ width ≤ 8) ∧
    [w.bytes, 2].sum < 2 ^ 16
  cases w <;> decide

/-- An interrupt's frame. -/
theorem interruptFrame_shape (state : CpuState) (returnRip : U64) (pushRfInFrame : Bool) :
    FrameWidths [2, 4, 8] (interruptFrame state returnRip none pushRfInFrame) ∧
      frameSize (interruptFrame state returnRip none pushRfInFrame) < 2 ^ 16 := by
  show (∀ width ∈ [instructionPointerWidth state.mode, 2, instructionPointerWidth state.mode],
      width ∈ [2, 4, 8] ∧ 0 < width ∧ width ≤ 8) ∧
    [instructionPointerWidth state.mode, 2, instructionPointerWidth state.mode].sum < 2 ^ 16
  cases state.mode <;> decide

/-- `POPFQ` reads before it writes. -/
theorem failsAt_popfq {τ : Type} (v : ExecutionContext → τ) (ctx : ExecutionContext) :
     FailsAt PageFault v handlePopfq ctx (v ctx) := by
  have hget : (get : HandlerM ExecutionContext) ctx = .ok ctx ctx := rfl
  unfold handlePopfq
  rw [failsAt_bind_ok hget, failsAt_quiet_bind (readMemoryChecked_quiet _ 8)]
  intro value _
  exact (modifyState_total _).failsAt _

/-- `RET` pops once. -/
theorem failsAt_ret {τ : Type} (v : ExecutionContext → τ) (ctx : ExecutionContext)
    (w : StackWidth) (withImm : Bool) :
    FailsAt PageFault v (retWidth w.bytes withImm) ctx (v ctx) := by
  unfold retWidth
  rw [failsAt_pop_bind w.bytes_mem_pop]
  intro target _
  refine Total.failsAt ?_ _
  exact Total.bind (fun s => ⟨s, s, rfl⟩) fun _ =>
    (modifyState_total _).bind fun _ => takeControlFlow_total

section families

variable {τ : Type} {v : ExecutionContext → τ} (hv : SeesState v) (ctx : ExecutionContext)
include hv

/-- A near call through an operand. -/
theorem failsAt_callRm_iff {width : Nat} (hwidth : width ∈ [2, 4, 8]) :
    FailsAt PageFault v (callRmWidth width) ctx (v ctx) ↔ callRmSafe ctx width := by
  have hget : (get : HandlerM ExecutionContext) ctx = .ok ctx ctx := rfl
  unfold callRmWidth callRmSafe
  rw [failsAt_quiet_bind (readNearTargetWidth_quiet width)]
  refine forall_congr' fun target => ?_
  rw [readNearTargetWidth_ok_iff]
  refine imp_congr_right fun _ => ?_
  rw [failsAt_bind_ok hget, failsAt_bind_total fun _ => jumpTo_total target]
  exact failsAt_push_iff hv ctx.nextRip hwidth ctx

/-- A far call, its pointer read. -/
theorem failsAt_farReturn_iff (w : StackWidth) (selector : BitVec 16) (offset : U64)
    {k : Unit → Handler} (hk : ∀ a, Total (k a)) :
    FailsAt PageFault v (pushFarReturn selector offset w.bytes >>= k) ctx (v ctx) ↔
      ctx.takesFrame [(offset, w.bytes), (selector.setWidth 64, 2)] := by
  rw [failsAt_bind_total hk]
  obtain ⟨hwidths, hsize⟩ := farFrame_shape offset (selector.setWidth 64) w
  exact failsAt_frame_iff hv hwidths hsize ctx

/-- **Delivery of an interrupt without an error code.** -/
theorem failsAt_dispatch_iff (vector : BitVec 8) :
    FailsAt PageFault v (dispatchInterrupt vector ctx.nextRip none false) ctx (v ctx) ↔
      deliverySafe ctx vector := by
  have hget : (get : HandlerM ExecutionContext) ctx = .ok ctx ctx := rfl
  obtain ⟨hwidths, hsize⟩ := interruptFrame_shape ctx.state ctx.nextRip false
  unfold dispatchInterrupt deliverySafe
  rw [failsAt_quiet_bind (readGate_quiet vector)]
  refine forall_congr' fun gate => imp_congr_right fun _ => ?_
  rw [failsAt_bind_ok hget, failsAt_bind_total fun _ =>
    (modifyState_total _).bind fun _ => takeControlFlow_total]
  exact failsAt_frame_iff hv hwidths hsize ctx

/-- `POP` to an operand: the store fails behind the pop. -/
theorem failsAt_popOperand_iff (w : StackWidth) :
    FailsAt PageFault v (popOperandWidth w.bytes) ctx (v ctx) ↔
      (StackShape.popOperand w).RestartSafe ctx := by
  have hget : (get : HandlerM ExecutionContext) ctx = .ok ctx ctx := rfl
  unfold popOperandWidth
  rw [failsAt_bind_ok hget, failsAt_pop_bind w.bytes_mem_pop]
  refine forall_congr' fun bytes => imp_congr_right fun _ => ?_
  rw [failsAt_bind_total fun _ => notePopSs_total _ _]
  cases hwrite : operandAccepts { ctx with state := ctx.state.popped w.bytes } 0 (fromBytes bytes)
      w.bytes with
  | true => exact iff_of_true (failsAt_ok (writeOperandChecked_ok hwrite)) rfl
  | false =>
    -- the pop has moved the stack pointer and the write is refused
    obtain ⟨r, ctx', herr, hpf, hstate, _⟩ := writeOperandChecked_error hwrite
    rw [failsAt_error_iff herr hpf]
    refine iff_of_false (fun hsame => ?_) (by decide)
    have hlt := w.bytes_le
    exact popped_ne ctx.state w.bytes_pos (by omega) (hstate.symm.trans (hv _ _ hsame))

/-- `RETF`: the second pop fails behind the first. -/
theorem failsAt_retf_iff (w : StackWidth) (withImm : Bool) :
    FailsAt PageFault v (retfWidth w.bytes withImm) ctx (v ctx) ↔
      (StackShape.retf w withImm).RestartSafe ctx := by
  have hlt := w.bytes_le
  unfold retfWidth
  rw [failsAt_pop_bind w.bytes_mem_pop]
  refine forall_congr' fun offset => imp_congr_right fun _ => ?_
  rw [failsAt_pop_moved hv (by decide) (popped_ne ctx.state w.bytes_pos (by omega))]
  refine exists_congr fun selector => and_iff_left (Total.failsAt ?_ _)
  exact Total.bind (fun s => ⟨s, s, rfl⟩) fun _ =>
    (modifyState_total _).bind fun _ => takeControlFlow_total

/-- `IRET`: the second and the third. -/
theorem failsAt_iret_iff (w : StackWidth) :
    FailsAt PageFault v (iretWidth w.bytes w.bytes) ctx (v ctx) ↔
      (StackShape.iret w).RestartSafe ctx := by
  have hpos := w.bytes_pos
  have hlt := w.bytes_le
  unfold iretWidth
  rw [failsAt_pop_bind w.bytes_mem_pop]
  refine forall_congr' fun offset => imp_congr_right fun _ => ?_
  rw [failsAt_pop_moved hv (by decide) (popped_ne ctx.state hpos (by omega))]
  refine exists_congr fun selector => and_congr_right fun _ => ?_
  rw [failsAt_pop_moved hv w.bytes_mem_pop (popped_popped_ne ctx.state (by omega) (by omega))]
  refine exists_congr fun flags => and_iff_left (Total.failsAt ?_ _)
  exact (modifyState_total _).bind fun _ => takeControlFlow_total

/-- **A stack instruction leaves the state alone on a page fault exactly
when it is restart safe**, for every view that shows the CPU state. -/
theorem StackShape.failsAt_iff (shape : StackShape) :
    FailsAt PageFault v shape.handler ctx (v ctx) ↔ shape.RestartSafe ctx := by
  have hget : (get : HandlerM ExecutionContext) ctx = .ok ctx ctx := rfl
  cases shape with
  | pushOperand w =>
    -- reading the operand leaves the context alone, whatever it finds
    show FailsAt PageFault v (pushOperandWidth w.bytes) ctx (v ctx) ↔ _
    unfold pushOperandWidth
    rw [failsAt_quiet_bind (readOperandChecked_quiet 0 w.bytes)]
    refine forall_congr' fun value => ?_
    rw [readOperandChecked_ok_iff]
    exact imp_congr_right fun _ => failsAt_push_iff hv value w.bytes_mem ctx
  | pushImm i w sx =>
    show FailsAt PageFault v (pushImmWidth i w.bytes sx) ctx (v ctx) ↔ _
    unfold pushImmWidth
    rw [failsAt_quiet_bind (readOperandChecked_quiet 0 i)]
    refine forall_congr' fun value => ?_
    rw [readOperandChecked_ok_iff]
    exact imp_congr_right fun _ => failsAt_push_iff hv _ w.bytes_mem ctx
  | pushSegment i w =>
    show FailsAt PageFault v (Seven.pushSegment i w.bytes) ctx (v ctx) ↔ _
    unfold Seven.pushSegment
    rw [dif_pos i.isLt, failsAt_bind_ok hget]
    exact failsAt_push_iff hv _ w.bytes_mem ctx
  | pushFlags w =>
    show FailsAt PageFault v (pushFlagsWidth w.bytes) ctx (v ctx) ↔ _
    unfold pushFlagsWidth
    rw [failsAt_bind_ok hget]
    exact failsAt_push_iff hv _ w.bytes_mem ctx
  | pushAll w =>
    show FailsAt PageFault v (pushAllWidth w.bytes) ctx (v ctx) ↔ _
    unfold pushAllWidth
    rw [failsAt_bind_ok hget]
    refine failsAt_frame_iff hv (frameWidths_map _ w.bytes_mem_pop w.bytes_pos w.bytes_le) ?_ ctx
    rw [frameSize_map]
    have hle := w.bytes_le
    simp only [pushAllRegisters, List.length_cons, List.length_nil]
    omega
  | popOperand w => exact failsAt_popOperand_iff hv ctx w
  | popfq => exact iff_of_true (failsAt_popfq v ctx) trivial
  | callRm w => exact failsAt_callRm_iff hv ctx w.bytes_mem
  | callRm32 =>
    show FailsAt PageFault v handleCallRm32 ctx (v ctx) ↔ callRmSafe ctx _
    unfold handleCallRm32
    rw [failsAt_bind_ok hget]
    split
    · exact failsAt_callRm_iff hv ctx (by decide)
    · exact failsAt_callRm_iff hv ctx (by decide)
  | callRel w =>
    show FailsAt PageFault v (callRelWidth w.bytes) ctx (v ctx) ↔ _
    unfold callRelWidth
    rw [failsAt_bind_ok hget, failsAt_bind_total fun _ => jumpTo_total _]
    exact failsAt_push_iff hv _ w.bytes_mem ctx
  | callFarMem w =>
    show FailsAt PageFault v (Seven.callFarMem w.bytes) ctx (v ctx) ↔ _
    unfold Seven.callFarMem
    rw [failsAt_quiet_bind (readFarMem_quiet w.bytes)]
    refine Prod.forall.trans (forall_congr' fun offset => forall_congr' fun selector =>
      imp_congr_right fun _ => ?_)
    -- the pointer is read: the two pushes of the return address are what can fail
    dsimp only
    rw [failsAt_bind_ok hget]
    exact failsAt_farReturn_iff hv ctx w selector ctx.nextRip fun _ => farJumpTo_total _ _ _
  | callFarPtr w =>
    show FailsAt PageFault v (Seven.callFarPtr w.bytes) ctx (v ctx) ↔ _
    unfold Seven.callFarPtr
    rw [failsAt_bind_ok hget]
    exact failsAt_farReturn_iff hv ctx w _ ctx.nextRip fun _ => farJumpTo_total _ _ _
  | ret w withImm => exact iff_of_true (failsAt_ret v ctx w withImm) trivial
  | retf w withImm => exact failsAt_retf_iff hv ctx w withImm
  | iret w => exact failsAt_iret_iff hv ctx w
  | int vector =>
    show FailsAt PageFault v (handleInt vector) ctx (v ctx) ↔ _
    unfold handleInt
    rw [failsAt_bind_ok hget]
    exact failsAt_dispatch_iff hv ctx _
  | into =>
    show FailsAt PageFault v handleInto ctx (v ctx) ↔
      (flagSet ctx.state.rflags kFlagOF = true → deliverySafe ctx 4#8)
    unfold handleInto
    rw [failsAt_bind_ok hget]
    -- without OF nothing is delivered
    split
    next hof =>
      rw [failsAt_dispatch_iff hv ctx 4#8]
      constructor
      · intro h _
        exact h
      · intro h
        exact h hof
    next hof => exact iff_of_true (Total.pure () |>.failsAt _) fun h => absurd h hof

end families

end Seven
