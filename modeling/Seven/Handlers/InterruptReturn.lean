import Seven.Handlers.StackFrame

/-!
# Delivering an interrupt and returning from it

`dispatch_interrupt` pushes flags, code segment and return address at the
widths of the mode and enters the gate; `iret_width` pops them in the other
order. On a plain stack the two are inverse:

> `iret_dispatchInterrupt`: after delivery through a present gate, the `IRET`
> of the mode's width restores everything but the instruction pointer, which
> becomes the return address; stack and instruction pointer come back masked.

What narrow modes do not push of the flags, the delivery does not change: it
clears IF and TF only, which lie in the low sixteen bits.
-/

namespace Seven

open Seven.Lib

/-! ## Flags -/

/-- Entering a gate keeps all flags but two of the low sixteen bits. -/
theorem enterGate_rflags (gate : InterruptGate) (s : CpuState) :
    ∃ kept : U64, kept &&& ~~~0xFFFF#64 = ~~~0xFFFF#64 ∧
      (enterGate gate s).rflags = s.rflags &&& kept := by
  show ∃ kept : U64, kept &&& ~~~0xFFFF#64 = ~~~0xFFFF#64 ∧
    (if gate.gateType = 0x0E#64 then setFlag s.rflags kFlagIF false else s.rflags) &&&
      ~~~kFlagTF = s.rflags &&& kept
  by_cases hgate : gate.gateType = 0x0E#64
  · refine ⟨~~~kFlagIF &&& ~~~kFlagTF, by decide, ?_⟩
    rw [if_pos hgate, ← BitVec.and_assoc]
    rfl
  · refine ⟨~~~kFlagTF, by decide, ?_⟩
    rw [if_neg hgate]

/-- Flags above the mask that were kept, and flags below it that were popped. -/
theorem merge_flags {rflags kept mask : U64} (h : kept &&& ~~~mask = ~~~mask) :
    ((rflags &&& kept) &&& ~~~mask) ||| ((rflags &&& mask) &&& mask) = rflags := by
  calc ((rflags &&& kept) &&& ~~~mask) ||| ((rflags &&& mask) &&& mask)
      = (rflags &&& ~~~mask) ||| (rflags &&& mask) := by
        rw [BitVec.and_assoc, h, BitVec.and_assoc, BitVec.and_self]
    _ = rflags &&& (~~~mask ||| mask) := BitVec.and_or_distrib_left.symm
    _ = rflags := by rw [BitVec.or_comm, BitVec.or_not_self, BitVec.and_allOnes]

/-- **The flags come back** at every width. -/
theorem iretFlags_pushed {rflags kept : U64} (h : kept &&& ~~~0xFFFF#64 = ~~~0xFFFF#64)
    (mode : ExecutionMode) :
    iretFlags (rflags &&& kept) (truncate rflags (instructionPointerWidth mode))
      (instructionPointerWidth mode) = rflags := by
  cases mode with
  | real16 => exact merge_flags h
  | compat32 =>
    have hwide : kept &&& ~~~0xFFFFFFFF#64 = ~~~0xFFFFFFFF#64 := by
      have hsub : ~~~0xFFFFFFFF#64 = ~~~0xFFFF#64 &&& ~~~0xFFFFFFFF#64 := by decide
      rw [hsub, ← BitVec.and_assoc, h]
    exact merge_flags hwide
  | long64 => exact BitVec.and_allOnes

/-- A selector in its slot of two bytes. -/
theorem selector_pushed (selector : BitVec 16) :
    (fromBytes (toBytes (selector.setWidth 64) 2)).setWidth 16 = selector := by
  rw [fromBytes_toBytes _ (by decide)]
  have hlt := selector.isLt
  apply BitVec.eq_of_toNat_eq
  show ((selector.setWidth 64 &&& 0xFFFF#64).setWidth 16).toNat = selector.toNat
  rw [BitVec.toNat_setWidth, BitVec.toNat_and, BitVec.toNat_setWidth]
  have hmask : (selector.toNat % 2 ^ 64) &&& (0xFFFF#64).toNat = selector.toNat % 2 ^ 64 % 2 ^ 16 :=
    Nat.and_two_pow_sub_one_eq_mod _ 16
  rw [hmask]
  omega

/-! ## Delivery and return -/

/-- The vector has a usable gate: in the table, readable, present, and an
interrupt or trap gate where the mode has a type. -/
def HasGate (ctx : ExecutionContext) (vector : BitVec 8) : Prop :=
  ∃ gate, readGate vector ctx = .ok gate ctx

/-- The `IRET` of the mode's width. -/
def iretCode : ExecutionMode → StackCode
  | .real16 => .iretw
  | .compat32 => .iretd
  | .long64 => .iretq

/-- The mode's own `IRET`. -/
theorem iretCode_handler (mode : ExecutionMode) :
    (iretCode mode).handler =
      iretWidth (instructionPointerWidth mode) (instructionPointerWidth mode) := by
  cases mode <;> rfl

/-- The mode of its width is the mode. -/
theorem modeForFarWidth_self (mode : ExecutionMode) :
    modeForFarWidth (instructionPointerWidth mode) = mode := by
  cases mode <;> rfl

/-- The three widths. -/
theorem instructionPointerWidth_mem (mode : ExecutionMode) :
    instructionPointerWidth mode ∈ [2, 4, 8] := by
  cases mode <;> decide

/-- What delivery leaves: the frame in the stack, and the state below it at
the gate's target. -/
theorem dispatchInterrupt_holds {ctx : ExecutionContext} {vector : BitVec 8}
    (hgate : HasGate ctx vector) {returnRip : U64}
    (hstack : PlainFrame ctx.memory ctx.state (interruptFrame ctx.state returnRip none false)) :
    ∃ gate m, dispatchInterrupt vector returnRip none false ctx =
        .ok () { ctx with
          state := enterGate gate
            (ctx.state.pushedAll (interruptFrame ctx.state returnRip none false))
          memory := m
          controlFlowTaken := true } ∧
      HoldsFrame m ctx.state (interruptFrame ctx.state returnRip none false) := by
  obtain ⟨gate, hread⟩ := hgate
  obtain ⟨hwidths, hsize⟩ := interruptFrame_shape ctx.state returnRip false
  obtain ⟨m, hpush, _, hholds, _⟩ :=
    @pushAllOf_holds [2, 4, 8] (gpFault vector) _ ctx hwidths hsize hstack
  have hget : (get : HandlerM ExecutionContext) ctx = .ok ctx ctx := rfl
  refine ⟨gate, m, ?_, hholds⟩
  unfold dispatchInterrupt
  rw [bind_ok hread, bind_ok hget, bind_ok hpush]
  rfl

/-- The state `IRET` makes of what it popped. -/
def iretState (width : Nat) (target selector flags : U64) (s : CpuState) : CpuState :=
  let s := { s with mode := modeForFarWidth width }
  let s := s.setSreg 1 (selector.setWidth 16)
  let s := { s with rip := maskInstructionPointer s target }
  { s with rflags := iretFlags s.rflags flags width }

/-- Three pops, in the frame's order from below. -/
theorem iretWidth_ok {width : Nat} (hwidth : width ∈ [1, 2, 4, 8]) {ctx : ExecutionContext}
    {target selector flags : List Byte}
    (htarget : ctx.memory.read ctx.state.rsp width .dataRead = some target)
    (hselector : ctx.memory.read (ctx.state.popped width).rsp 2 .dataRead = some selector)
    (hflags : ctx.memory.read ((ctx.state.popped width).popped 2).rsp width .dataRead =
      some flags) :
    iretWidth width width ctx = .ok () { ctx with
      state := iretState width (fromBytes target) (fromBytes selector) (fromBytes flags)
        (((ctx.state.popped width).popped 2).popped width)
      controlFlowTaken := true } := by
  have hpop₁ := popWidth_some hwidth htarget
  have hpop₂ := @popWidth_some 2 (by decide) { ctx with state := ctx.state.popped width } _ hselector
  have hpop₃ := @popWidth_some width hwidth
    { ctx with state := (ctx.state.popped width).popped 2 } _ hflags
  unfold iretWidth
  rw [bind_ok hpop₁, bind_ok hpop₂, bind_ok hpop₃]
  rfl

/-- From the state in the interrupt handler, whatever the stack pointer was on
the way, back to the interrupted one. -/
theorem iretState_enterGate (gate : InterruptGate) (s : CpuState) (returnRip below rsp : U64) :
    iretState (instructionPointerWidth s.mode)
        (fromBytes (toBytes returnRip (instructionPointerWidth s.mode)))
        (fromBytes (toBytes ((s.sreg 1).setWidth 64) 2))
        (fromBytes (toBytes s.rflags (instructionPointerWidth s.mode)))
        ((enterGate gate (s.setRsp below)).setRsp rsp) =
      { s with rip := maskInstructionPointer s returnRip }.setRsp rsp := by
  have hmem := instructionPointerWidth_mem s.mode
  obtain ⟨kept, hkept, hentered⟩ := enterGate_rflags gate (s.setRsp below)
  -- the gate replaced CS, RIP and some flags: each popped value undoes one of them
  have hgpr : ((enterGate gate (s.setRsp below)).setRsp rsp).gpr = (s.setRsp rsp).gpr := by
    have hrsp := congrArg CpuState.gpr (CpuState.setRsp_setRsp s below rsp)
    exact hrsp
  have hsreg : (fun j => if j = 1 then (fromBytes (toBytes ((s.sreg 1).setWidth 64) 2)).setWidth 16
      else if j = 1 then gate.targetCs else s.sreg j) = s.sreg := by
    funext j
    by_cases hj : j = 1
    · rw [if_pos hj, selector_pushed, hj]
    · rw [if_neg hj, if_neg hj]
  have hflags : iretFlags (enterGate gate (s.setRsp below)).rflags
      (fromBytes (toBytes s.rflags (instructionPointerWidth s.mode)))
      (instructionPointerWidth s.mode) = s.rflags := by
    rw [hentered, fromBytes_toBytes _ hmem]
    exact iretFlags_pushed hkept s.mode
  have hrip : fromBytes (toBytes returnRip (instructionPointerWidth s.mode)) &&&
      modeAddressMask s.mode = maskInstructionPointer s returnRip := by
    rw [fromBytes_toBytes _ hmem]
    unfold truncate maskInstructionPointer modeAddressMask
    rw [BitVec.and_assoc, BitVec.and_self]
  have hfields : iretState (instructionPointerWidth s.mode)
        (fromBytes (toBytes returnRip (instructionPointerWidth s.mode)))
        (fromBytes (toBytes ((s.sreg 1).setWidth 64) 2))
        (fromBytes (toBytes s.rflags (instructionPointerWidth s.mode)))
        ((enterGate gate (s.setRsp below)).setRsp rsp) =
      { s with
        gpr := ((enterGate gate (s.setRsp below)).setRsp rsp).gpr
        mode := modeForFarWidth (instructionPointerWidth s.mode)
        sreg := fun j =>
          if j = 1 then (fromBytes (toBytes ((s.sreg 1).setWidth 64) 2)).setWidth 16
          else if j = 1 then gate.targetCs else s.sreg j
        rip := fromBytes (toBytes returnRip (instructionPointerWidth s.mode)) &&&
          modeAddressMask (modeForFarWidth (instructionPointerWidth s.mode))
        rflags := iretFlags (enterGate gate (s.setRsp below)).rflags
          (fromBytes (toBytes s.rflags (instructionPointerWidth s.mode)))
          (instructionPointerWidth s.mode) } := rfl
  rw [hfields, hgpr, hsreg, hflags, modeForFarWidth_self, hrip]
  rfl

/-- **Interrupt delivery and `IRET` are inverse.** -/
theorem iret_dispatchInterrupt {ctx : ExecutionContext} {vector : BitVec 8}
    (hgate : HasGate ctx vector) {returnRip : U64}
    (hstack : PlainFrame ctx.memory ctx.state (interruptFrame ctx.state returnRip none false)) :
    ∃ entered, dispatchInterrupt vector returnRip none false ctx = .ok () entered ∧
      ∀ handler : ExecutionContext, handler.state = entered.state →
        handler.memory = entered.memory →
        ∃ returned, (iretCode ctx.state.mode).handler handler = .ok () returned ∧
          returned.state =
            { ctx.state with rip := maskInstructionPointer ctx.state returnRip }.setRsp
              (maskStackPointer ctx.state ctx.state.rsp) ∧
          returned.memory = handler.memory := by
  obtain ⟨gate, m, hdispatch, hholds⟩ := dispatchInterrupt_holds hgate hstack
  refine ⟨_, hdispatch, ?_⟩
  intro handler hstate hmemory
  have hmem := instructionPointerWidth_mem ctx.state.mode
  have hmem' : instructionPointerWidth ctx.state.mode ∈ [1, 2, 4, 8] := List.mem_cons_of_mem 1 hmem
  obtain ⟨hflags, hselector, htarget, _⟩ := hholds
  -- the stack pointer goes up through the slots it came down by
  generalize hs : ctx.state = s at *
  generalize hw : instructionPointerWidth s.mode = width at *
  have hmode : handler.state.mode = s.mode := by
    rw [hstate]
    rfl
  have hrsp₃ : handler.state.rsp = (((s.pushed width).pushed 2).pushed width).rsp := by
    rw [hstate, ← hw]
    rfl
  have hrsp₂ : (handler.state.popped width).rsp = ((s.pushed width).pushed 2).rsp :=
    (@popped_rsp ((s.pushed width).pushed 2) handler.state hmode width hrsp₃).trans
      (maskStackPointer_pushed rfl 2)
  have hrsp₁ : ((handler.state.popped width).popped 2).rsp = (s.pushed width).rsp :=
    (@popped_rsp (s.pushed width) (handler.state.popped width) hmode 2 hrsp₂).trans
      (maskStackPointer_pushed rfl width)
  have hrsp₀ : (((handler.state.popped width).popped 2).popped width).rsp =
      maskStackPointer s s.rsp :=
    @popped_rsp s ((handler.state.popped width).popped 2) hmode width hrsp₁
  have hiret := @iretWidth_ok width hmem' handler (toBytes returnRip width)
    (toBytes ((s.sreg 1).setWidth 64) 2) (toBytes s.rflags width)
    (by rw [hmemory, hrsp₃]; exact htarget) (by rw [hmemory, hrsp₂]; exact hselector)
    (by rw [hmemory, hrsp₁]; exact hflags)
  have hpopped : ((handler.state.popped width).popped 2).popped width =
      handler.state.setRsp (maskStackPointer s s.rsp) := by
    rw [← hrsp₀]
    simp only [CpuState.popped, CpuState.setRsp_setRsp, CpuState.setRsp_rsp]
  have hbelow : handler.state = enterGate gate
      (s.setRsp (((s.pushed width).pushed 2).pushed width).rsp) := by
    have hpushed : ((s.pushed width).pushed 2).pushed width =
        s.setRsp (((s.pushed width).pushed 2).pushed width).rsp := by
      simp only [CpuState.pushed, CpuState.setRsp_setRsp, CpuState.setRsp_rsp]
    rw [← hpushed, hstate, ← hw]
    rfl
  rw [iretCode_handler, hw]
  refine ⟨_, hiret, ?_, rfl⟩
  show iretState width _ _ _ (((handler.state.popped width).popped 2).popped width) = _
  rw [hpopped, hbelow, ← hw]
  exact iretState_enterGate gate s returnRip _ _

/-! ## A stack that wraps -/

/-- The last page of a real-mode segment and the one behind it. -/
def segmentEnd : Memory := ({} : Memory).map 0xF000#64 0x2000#64 kMemoryPermissionReadWrite

/-- A real-mode machine with a gate for vector 3 and the stack pointer at the
bottom of its segment: the first slot of a frame wraps. -/
def wrappingContext : ExecutionContext where
  state := { mode := .real16, rip := 0x100#64, rflags := 0x346#64
             gpr := fun i => if i = 4 then 0x1#64 else 0#64
             sreg := fun i => if i = 1 then 0x1234#16 else 0#16
             idtr := ⟨0xF000#64, 0x3FF#16⟩ }
  memory := segmentEnd.stored 0xF00C#64 0x20000400#64 4
  instr := { code := .other 0xCC, length := 1 }
  nextRip := 0x101#64

/-- The vector has a gate. -/
theorem wrappingContext_hasGate : HasGate wrappingContext 3#8 := by
  have hoffset : wrappingContext.memory.read 0xF00C#64 2 .dataRead = some [0x00#8, 0x04#8] := by
    decide +kernel
  have hselector : wrappingContext.memory.read 0xF00E#64 2 .dataRead = some [0x00#8, 0x20#8] := by
    decide +kernel
  refine ⟨⟨0x400#64, 0x2000#16, 0x0E#64⟩, ?_⟩
  show (readMemoryChecked 0xF00C#64 2 >>= fun ip => readMemoryChecked 0xF00E#64 2 >>= fun cs =>
    (pure ⟨ip, cs.setWidth 16, 0x0E#64⟩ : HandlerM InterruptGate)) wrappingContext = _
  rw [bind_ok (readMemoryChecked_some hoffset), bind_ok (readMemoryChecked_some hselector)]
  rfl

/-- The frame is plain, though it wraps. -/
theorem wrappingContext_plain :
    PlainFrame wrappingContext.memory wrappingContext.state
      (interruptFrame wrappingContext.state 0x101#64 none false) := by
  have hplain : ∀ a, (∀ i < 2,
        accessible (hasPermission · .dataWrite) segmentEnd.pages (a + BitVec.ofNat 64 i) = true) →
      wrappingContext.memory.PlainSpan a 2 := by
    intro a hwritable
    have hbefore : segmentEnd.PlainSpan a 2 :=
      ⟨⟨rfl, rfl⟩, rfl, fun _ _ _ => rfl, hwritable⟩
    exact hbefore.sameAccess (segmentEnd.stored_sameAccess 0xF00C#64 0x20000400#64 (by decide))
  refine ⟨hplain 0xFFFF#64 ?_, hplain 0xFFFD#64 ?_, hplain 0xFFFB#64 ?_, trivial⟩
  · decide +kernel
  · decide +kernel
  · decide +kernel

/-- A frame across the top of the 16-bit stack. -/
theorem iret_dispatchInterrupt_wraps :
    ∃ entered, dispatchInterrupt 3#8 0x101#64 none false wrappingContext = .ok () entered ∧
      ∃ returned, StackCode.iretw.handler entered = .ok () returned ∧
        returned.state.rip = 0x101#64 ∧ returned.state.rsp = 0x1#64 ∧
        returned.state.sreg 1 = 0x1234#16 ∧ returned.state.rflags = 0x346#64 := by
  obtain ⟨entered, hdispatch, hiret⟩ :=
    iret_dispatchInterrupt wrappingContext_hasGate wrappingContext_plain
  obtain ⟨returned, hreturn, hstate, _⟩ := hiret entered rfl rfl
  refine ⟨entered, hdispatch, returned, hreturn, ?_⟩
  rw [hstate]
  decide

end Seven
