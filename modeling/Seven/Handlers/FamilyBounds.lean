import Seven.Handlers.AccessBounds

/-!
# Where the instruction families stay in the address space

For each family the condition on the context in front of it under which the
whole instruction stays in the address space of the mode, and the proof that
it is the exact one:

> `StackShape.stays_iff`, `RmwCode.stays_iff`, `stays_stringImpl`: the
> program stays exactly when the condition holds.

The conditions ask of the operands that `memory_address` forms that they do
not straddle the top, of pushes that no slot does, of pops that the whole
stack pointer fits, and of the pointers of a string instruction that they fit
in front of every turn that the repeat takes. What is not accessed is not
asked for: a slot behind one that is refused, the turns behind the end of a
search.
-/

namespace Seven

open Seven.Lib

/-! ## Interrupt delivery -/

/-- The entry of the descriptor table is read inside the address space. -/
def GateFits (vector : BitVec 8) (ctx : ExecutionContext) : Prop :=
  idtHasEntry ctx.state vector = true →
    match ctx.state.mode with
    | .real16 =>
      (AddressForm.idtEntry vector 0#16).FitsAt 2 ctx ∧
        ((AddressForm.idtEntry vector 0#16).Reads 2 ctx →
          (AddressForm.idtEntry vector 2#16).FitsAt 2 ctx)
    | .compat32 => (AddressForm.idtEntry vector 0#16).FitsAt 8 ctx
    | .long64 => True

/-- So is the entry, and if there is a gate the frame is pushed inside it. -/
def DeliveryFits (vector : BitVec 8) (returnRip : U64) (pushRfInFrame : Bool)
    (ctx : ExecutionContext) : Prop :=
  GateFits vector ctx ∧
    ((∃ gate, readGate vector ctx = .ok gate ctx) →
      FrameFits ctx.memory ctx.state (interruptFrame ctx.state returnRip none pushRfInFrame))

/-! ## Stack instructions -/

/-- An operand is read, and then pushed. -/
def PushOperandFits (operandWidth width : Nat) (ctx : ExecutionContext) : Prop :=
  OperandFits 0 operandWidth ctx ∧
    ((readOperand ctx 0 operandWidth).isSome = true → SlotFits ctx.state width)

/-- A far return address is pushed: the offset, and below it the selector. -/
def FarReturnFits (width : StackWidth) (ctx : ExecutionContext) : Prop :=
  SlotFits ctx.state width.bytes ∧
    (ctx.memory.accepts (ctx.state.pushed width.bytes).rsp ctx.nextRip width.bytes = true →
      SlotFits (ctx.state.pushed width.bytes) 2)

/-- The offset and the selector of a far pointer are read first. -/
def CallFarMemFits (width : StackWidth) (ctx : ExecutionContext) : Prop :=
  OperandFits 0 width.bytes ctx ∧
    ((readOperand ctx 0 width.bytes).isSome = true →
      (AddressForm.operand (BitVec.ofNat 16 width.bytes)).FitsAt 2 ctx ∧
        ((AddressForm.operand (BitVec.ofNat 16 width.bytes)).Reads 2 ctx →
          FarReturnFits width ctx))

/-- A value is popped, and then stored: where, is said of the stack pointer
behind the pop. -/
def PopOperandFits (width : Nat) (ctx : ExecutionContext) : Prop :=
  PopFits ctx.state width ∧
    ((ctx.memory.read ctx.state.rsp width .dataRead).isSome = true →
      OperandFits 0 width { ctx with state := ctx.state.popped width })

/-- A stack instruction fits. In 64-bit mode, where `CALL` is wider, nothing
is asked for. -/
def StackShape.Fits (ctx : ExecutionContext) : StackShape → Prop
  | .pushOperand w => PushOperandFits w.bytes w.bytes ctx
  | .pushImm i w _ => PushOperandFits i w.bytes ctx
  | .pushSegment _ w => SlotFits ctx.state w.bytes
  | .pushFlags w => SlotFits ctx.state w.bytes
  | .pushAll w =>
    FrameFits ctx.memory ctx.state
      ((pushAllRegisters ctx.state).map fun value => (value, w.bytes))
  | .popOperand w => PopOperandFits w.bytes ctx
  | .popfq => PopFits ctx.state 8
  | .callRm w => PushOperandFits w.bytes w.bytes ctx
  | .callRm32 => PushOperandFits 4 4 ctx
  | .callRel w => SlotFits ctx.state w.bytes
  | .callFarMem w => CallFarMemFits w ctx
  | .callFarPtr w => FarReturnFits w ctx
  | .ret w _ => PopsFit ctx.memory ctx.state [w.bytes]
  | .retf w _ => PopsFit ctx.memory ctx.state [w.bytes, 2]
  | .iret w => PopsFit ctx.memory ctx.state [w.bytes, 2, w.bytes]
  | .int vector =>
    DeliveryFits (vector.getD (ctx.instr.immediate8.setWidth 8)) ctx.nextRip false ctx
  | .into => flagSet ctx.state.rflags kFlagOF = true → DeliveryFits 4#8 ctx.nextRip false ctx

namespace AccessM

section stack

variable {ctx : ExecutionContext}

theorem silent_faultHere {α : Type} (reason : StopReason) (errorCode : BitVec 32) :
    Silent (faultHere reason errorCode : AccessM α) := fun _ => rfl

/-- A gate's fields are tested, not read. -/
theorem silent_descriptorGate (vector : BitVec 8) (targetRip descriptor : U64) :
    Silent (descriptorGate vector targetRip descriptor) := by
  unfold descriptorGate
  dsimp only
  split
  · exact silent_faultHere _ _
  · exact silent_pure _

/-- A gate stays inside when both its words do. -/
theorem stays_readGate (vector : BitVec 8) :
    (readGate vector).Stays ctx ↔ GateFits vector ctx := by
  unfold readGate GateFits
  rw [stays_look_bind]
  dsimp only
  rw [ctx.withoutMemory_state]
  by_cases hentry : idtHasEntry ctx.state vector = true
  · rw [hentry, Bool.not_true, if_neg Bool.false_ne_true, forall_prop_of_true rfl]
    -- The gate is read as a vector, a descriptor of eight bytes, or one of two halves.
    cases hmode : ctx.state.mode with
    | real16 =>
      refine stays_load_bind fun ip => ?_
      rw [stays_bind_silent fun cs => silent_pure _, stays_readMemoryChecked]
    | compat32 =>
      dsimp only
      rw [stays_bind_silent fun descriptor => silent_descriptorGate _ _ _,
        stays_readMemoryChecked]
    | long64 =>
      refine iff_of_true ((stays_load_bind fun lo => ?_).mpr ⟨AddressForm.fitsAt_long64 hmode,
        fun _ => trivial⟩) trivial
      rw [stays_bind_silent fun hi => silent_descriptorGate _ _ _, stays_readMemoryChecked]
      exact iff_true_intro (AddressForm.fitsAt_long64 hmode)
  · rw [Bool.not_eq_true] at hentry
    rw [hentry]
    exact iff_of_true ((silent_faultHere _ _).stays ctx) fun h => nomatch h

/-- **An interrupt is delivered inside the address space when its gate and its
frame fit.** -/
theorem stays_dispatchInterrupt (vector : BitVec 8) (returnRip : U64) (pushRfInFrame : Bool) :
    (dispatchInterrupt vector returnRip none pushRfInFrame).Stays ctx ↔
      DeliveryFits vector returnRip pushRfInFrame ctx := by
  unfold dispatchInterrupt DeliveryFits
  rw [stays_bind, stays_readGate, toHandler_readGate]
  refine and_congr_right fun _ => ?_
  have hframe (gate : InterruptGate) : (do
      let state := (← look).state
      pushAllOf [2, 4, 8] (gpFault vector) (interruptFrame state returnRip none pushRfInFrame)
      modifyState (enterGate gate)
      takeControlFlow : AccessM Unit).Stays ctx ↔
      FrameFits ctx.memory ctx.state
        (interruptFrame ctx.state returnRip none pushRfInFrame) := by
    rw [stays_look_bind, stays_bind_silent fun _ => fun _ => rfl, ctx.withoutMemory_state]
    exact stays_frame _ (interruptFrame_shape ctx.state returnRip pushRfInFrame).1
  constructor
  · rintro h ⟨gate, hgate⟩
    exact (hframe gate).mp (h gate ctx hgate)
  · intro h gate c hrun
    have hc := (readGate_quiet vector).ok_eq hrun
    subst hc
    exact (hframe gate).mpr (h ⟨gate, hrun⟩)

/-! ### The families -/

/-- In long mode every slot fits: the space is all of it. -/
theorem slotFits_long64 {s : CpuState} (h : s.mode = .long64) (width : Nat) : SlotFits s width :=
  fun hmode => absurd h hmode

theorem silent_jumpTo (target : U64) : Silent (jumpTo target) := fun _ => rfl

/-- The two slots of a far return address; what the second holds does not
matter. -/
theorem stays_pushFarReturn (width : StackWidth) (selector : BitVec 16) :
    (pushFarReturn selector ctx.nextRip width.bytes).Stays ctx ↔ FarReturnFits width ctx := by
  unfold pushFarReturn FarReturnFits
  rw [stays_frame _ (farFrame_shape ctx.nextRip (selector.setWidth 64) width).1]
  unfold FrameFits
  refine and_congr_right fun _ => forall_congr' fun _ => ?_
  exact and_iff_left fun _ => trivial

/-- An operand and a push. -/
theorem stays_operand_push {operandWidth width : Nat} (hwidth : width ∈ [1, 2, 4, 8])
    (value : U64 → U64) :
    (readOperandChecked 0 operandWidth >>= fun v => pushWidth (value v) width).Stays ctx ↔
      PushOperandFits operandWidth width ctx :=
  stays_operand_bind fun v _ => stays_pushWidth (value v) hwidth

/-- A near call through an operand. -/
theorem stays_callRmWidth {width : Nat} (hwidth : width ∈ [1, 2, 4, 8]) :
    (callRmWidth width).Stays ctx ↔ PushOperandFits width width ctx := by
  have hrest (target : U64) : (look >>= fun c => pushWidth c.nextRip width >>= fun _ =>
      jumpTo target).Stays ctx ↔ SlotFits ctx.state width := by
    rw [stays_look_bind, stays_bind_silent fun _ => silent_jumpTo target]
    exact stays_pushWidth _ hwidth
  unfold callRmWidth readNearTargetWidth
  rw [bind_assoc, stays_look_bind, ctx.withoutMemory_state, ctx.withoutMemory_instr]
  by_cases hwide : width = 8 ∧ ctx.state.mode = .long64 ∧ ctx.instr.opKind 0 = .register
  · -- the register form of 64-bit mode
    rw [if_pos hwide, pure_bind, hrest]
    obtain ⟨-, hmode, hregister⟩ := hwide
    refine iff_of_true (slotFits_long64 hmode width) ⟨fun hmemory => ?_, fun _ =>
      slotFits_long64 hmode width⟩
    rw [hregister] at hmemory
    cases hmemory
  · rw [if_neg hwide]
    exact stays_operand_bind fun target _ => hrest target

/-- In long mode as well as outside. -/
theorem stays_handleCallRm32 : handleCallRm32.Stays ctx ↔ PushOperandFits 4 4 ctx := by
  unfold handleCallRm32
  rw [stays_look_bind, ctx.withoutMemory_state]
  by_cases hmode : ctx.state.mode = .long64
  · rw [if_pos hmode, stays_callRmWidth (by decide)]
    have hfits (width : Nat) : PushOperandFits width width ctx :=
      ⟨fun _ => AddressForm.fitsAt_long64 hmode, fun _ => slotFits_long64 hmode width⟩
    exact iff_of_true (hfits 8) (hfits 4)
  · rw [if_neg hmode]
    exact stays_callRmWidth (by decide)

/-- A far call through memory. -/
theorem stays_callFarMem (width : StackWidth) :
    (callFarMem width.bytes).Stays ctx ↔ CallFarMemFits width ctx := by
  unfold callFarMem readFarMem CallFarMemFits
  simp only [bind_assoc, pure_bind]
  refine stays_operand_bind fun target _ => stays_load_bind fun selector => ?_
  rw [stays_look_bind, stays_bind_silent fun _ => fun _ => rfl]
  exact stays_pushFarReturn width _

/-- A pop to an operand, which is addressed with the stack pointer already moved. -/
theorem stays_popOperandWidth (width : StackWidth) :
    (popOperandWidth width.bytes).Stays ctx ↔ PopOperandFits width.bytes ctx := by
  unfold popOperandWidth
  rw [stays_look_bind]
  refine stays_pop_bind width.bytes_mem_pop fun value => ?_
  rw [stays_bind_silent fun _ => fun _ => rfl, stays_writeOperandChecked]

/-- `POPFQ`. -/
theorem stays_handlePopfq : handlePopfq.Stays ctx ↔ PopFits ctx.state 8 := by
  unfold handlePopfq
  rw [stays_bind_silent fun value => silent_modifyState _, stays_readMemoryChecked]
  exact forall_congr' fun _ => forall_prop_of_true (Nat.succ_ne_zero 7)

/-- `RET`. -/
theorem stays_retWidth (width : StackWidth) (withImm : Bool) :
    (retWidth width.bytes withImm).Stays ctx ↔ PopsFit ctx.memory ctx.state [width.bytes] :=
  stays_pop_bind width.bytes_mem_pop fun _ =>
    iff_of_true (Silent.stays (fun _ => rfl) _) trivial

/-- `RETF`. -/
theorem stays_retfWidth (width : StackWidth) (withImm : Bool) :
    (retfWidth width.bytes withImm).Stays ctx ↔ PopsFit ctx.memory ctx.state [width.bytes, 2] :=
  stays_pop_bind width.bytes_mem_pop fun _ => stays_pop_bind (by decide) fun _ =>
    iff_of_true (Silent.stays (fun _ => rfl) _) trivial

/-- `IRET`. -/
theorem stays_iretWidth (width : StackWidth) :
    (iretWidth width.bytes width.bytes).Stays ctx ↔
      PopsFit ctx.memory ctx.state [width.bytes, 2, width.bytes] :=
  stays_pop_bind width.bytes_mem_pop fun _ => stays_pop_bind (by decide) fun _ =>
    stays_pop_bind width.bytes_mem_pop fun _ => iff_of_true (Silent.stays (fun _ => rfl) _) trivial

end stack

end AccessM

/-- **A stack instruction stays in the address space exactly when it fits.** -/
theorem StackShape.stays_iff (shape : StackShape) (ctx : ExecutionContext) :
    -- The accesses of each shape in the order it makes them; what only changes the state adds
    -- none.
    shape.program.Stays ctx ↔ shape.Fits ctx := by
  cases shape with
  | pushOperand w => exact AccessM.stays_operand_push w.bytes_mem_pop id
  | pushImm i w sx =>
    exact AccessM.stays_operand_push w.bytes_mem_pop fun v => if sx then signExtend v i else v
  | pushSegment i w =>
    show (AccessM.pushSegment i w.bytes).Stays ctx ↔ _
    unfold AccessM.pushSegment
    rw [dif_pos i.isLt]
    exact AccessM.stays_look_bind.trans (AccessM.stays_pushWidth _ w.bytes_mem_pop)
  | pushFlags w =>
    exact AccessM.stays_look_bind.trans (AccessM.stays_pushWidth _ w.bytes_mem_pop)
  | pushAll w =>
    exact AccessM.stays_look_bind.trans
      (AccessM.stays_frame _ (frameWidths_map _ w.bytes_mem_pop w.bytes_pos w.bytes_le))
  | popOperand w => exact AccessM.stays_popOperandWidth w
  | popfq => exact AccessM.stays_handlePopfq
  | callRm w => exact AccessM.stays_callRmWidth w.bytes_mem_pop
  | callRm32 => exact AccessM.stays_handleCallRm32
  | callRel w =>
    refine AccessM.stays_look_bind.trans ?_
    exact (AccessM.stays_bind_silent fun _ => AccessM.silent_jumpTo _).trans
      (AccessM.stays_pushWidth _ w.bytes_mem_pop)
  | callFarMem w => exact AccessM.stays_callFarMem w
  | callFarPtr w =>
    refine AccessM.stays_look_bind.trans ?_
    exact (AccessM.stays_bind_silent fun _ => fun _ => rfl).trans
      (AccessM.stays_pushFarReturn w ctx.instr.farBranchSelector)
  | ret w withImm => exact AccessM.stays_retWidth w withImm
  | retf w withImm => exact AccessM.stays_retfWidth w withImm
  | iret w => exact AccessM.stays_iretWidth w
  | int vector =>
    exact AccessM.stays_look_bind.trans (AccessM.stays_dispatchInterrupt _ _ _)
  | into =>
    show AccessM.handleInto.Stays ctx ↔ _
    unfold AccessM.handleInto
    rw [AccessM.stays_look_bind, ctx.withoutMemory_state]
    -- INTO without overflow makes no access.
    by_cases hof : flagSet ctx.state.rflags kFlagOF = true
    · rw [if_pos hof, AccessM.stays_dispatchInterrupt]
      exact ⟨fun h _ => h, fun h => h hof⟩
    · rw [if_neg hof]
      exact iff_of_true ((AccessM.silent_pure ()).stays ctx) fun h => absurd h hof

/-! ## Read-modify-write -/

/-- Does the form read its second operand? The others hold an immediate. -/
def AluForm.readsSource : AluForm → Bool
  | .rm8R8 | .rm16R16 | .rm32R32 | .rm64R64 => true
  | _ => false

/-- The operand of a read-modify-write instruction fits, or the element of
the bit string. An operand of `XADD` that is in memory and second, which no
encoding has, is stored to behind the first. -/
def RmwCode.Fits (ctx : ExecutionContext) : RmwCode → Prop
  | .alu _ form =>
    OperandFits 0 form.width ctx ∧
      ((readOperand ctx 0 form.width).isSome = true → form.readsSource = true →
        OperandFits 1 form.width ctx)
  | .unary _ width => OperandFits 0 width.bytes ctx
  | .shift _ width _ => OperandFits 0 width.bytes ctx
  | .doubleShift _ width _ => OperandFits 0 width.bytes ctx
  | .xadd width =>
    OperandFits 0 width.bytes ctx ∧
      ∀ lhs, readOperand ctx 0 width.bytes = some lhs →
        let rhs := readRegister ctx.state (ctx.instr.opRegister 1)
        ∀ c, flagsThenWrite width.bytes (lhs + rhs,
            setAddFlags ctx.state.rflags lhs rhs (lhs + rhs) width.bytes false) ctx = .ok () c →
          OperandFits 1 width.bytes c
  | .cmpxchg width => OperandFits 0 width.bytes ctx
  | .cmpxchg486 width => OperandFits 0 (narrowRm width).bytes ctx
  | .bit _ width source =>
    ctx.instr.opKind 0 = .memory →
      (AddressForm.bitElement width (bitIndex source width.bytes ctx)).FitsAt width.bytes ctx

namespace AccessM

section rmw

variable {ctx : ExecutionContext}

/-- The flags do not move an operand. -/
theorem operandFits_setFlags (operandIndex n : Nat) (rflags : U64) :
    OperandFits operandIndex n { ctx with state := setFlags ctx.state rflags } ↔
      OperandFits operandIndex n ctx :=
  forall_congr' fun _ => AddressForm.fitsAt_congr rfl rfl

/-- The destination's bytes. -/
theorem stays_flagsThenWrite (width : Nat) (out : U64 × U64) :
    (flagsThenWrite width out).Stays ctx ↔ OperandFits 0 width ctx := by
  unfold flagsThenWrite
  rw [stays_modify_bind, stays_writeOperandChecked, operandFits_setFlags]

/-- What follows the read of an operand reaches no further than the operand. -/
theorem stays_operand_then {operandIndex n : Nat} {f : U64 → AccessM Unit}
    (hf : ∀ value, OperandFits operandIndex n ctx → (f value).Stays ctx) :
    (readOperandChecked operandIndex n >>= f).Stays ctx ↔ OperandFits operandIndex n ctx := by
  rw [stays_bind, stays_readOperandChecked, toHandler_readOperandChecked]
  refine and_iff_left_of_imp fun hfits value c hrun => ?_
  have hc := (readOperandChecked_quiet operandIndex n).ok_eq hrun
  subst hc
  exact hf value hfits

/-- Read, compute, write: one operand. -/
theorem stays_rmwOperand (width : Nat) (compute : ExecutionContext → U64 → U64 × U64) :
    (rmwOperand width compute).Stays ctx ↔ OperandFits 0 width ctx :=
  stays_operand_then fun _ hfits => stays_look_bind.mpr ((stays_flagsThenWrite width _).mpr hfits)

/-- `CMPXCHG`: one operand. -/
theorem stays_compareExchange (width : RmWidth) (flags : U64 → U64 → U64 → Bool → U64) :
    (compareExchange width flags).Stays ctx ↔ OperandFits 0 width.bytes ctx := by
  refine stays_operand_then fun lhs hfits => ?_
  rw [stays_look_bind]
  dsimp only
  split
  next =>
    rw [stays_bind_silent fun _ => silent_modifyState _]
    exact (stays_writeOperandChecked 0 _ _).mpr hfits
  next => exact (silent_modifyState _).stays ctx

/-- The source, where it is an operand. -/
theorem stays_aluSource (form : AluForm) :
    (aluSource form).Stays ctx ↔ (form.readsSource = true → OperandFits 1 form.width ctx) := by
  unfold aluSource
  rw [stays_look_bind]
  have hread : (readOperandChecked 1 form.width).Stays ctx ↔
      (true = true → OperandFits 1 form.width ctx) := by
    rw [stays_readOperandChecked, forall_prop_of_true rfl]
  have hnone (value : U64) {P : Prop} :
      (pure value : AccessM U64).Stays ctx ↔ (false = true → P) :=
    iff_of_true ((silent_pure value).stays ctx) fun h => nomatch h
  cases form with
  | rm8R8 => exact hread
  | rm16R16 => exact hread
  | rm32R32 => exact hread
  | rm64R64 => exact hread
  | _ => exact hnone _

/-- The ALU group. -/
theorem stays_handleAlu (op : AluOp) (form : AluForm) :
    (handleAlu op form).Stays ctx ↔ (RmwCode.alu op form).Fits ctx := by
  unfold handleAlu RmwCode.Fits
  rw [stays_bind, stays_readOperandChecked, toHandler_readOperandChecked]
  refine and_congr_right fun hfits => ?_
  have hrest (lhs : U64) : (aluSource form >>= fun rhs => look >>= fun c =>
      flagsThenWrite form.width (aluCompute op form.width c.state.rflags lhs rhs)).Stays ctx ↔
      (form.readsSource = true → OperandFits 1 form.width ctx) := by
    rw [stays_bind, stays_aluSource]
    -- The source is read from the same context, since a read moves nothing.
    refine and_iff_left fun rhs c hrun => ?_
    rw [toHandler_aluSource] at hrun
    have hc := (aluSource_quiet form).ok_eq hrun
    subst hc
    exact stays_look_bind.mpr ((stays_flagsThenWrite form.width _).mpr hfits)
  constructor
  · intro h hsome
    obtain ⟨lhs, hread⟩ := Option.isSome_iff_exists.mp hsome
    exact (hrest lhs).mp (h lhs ctx (readOperandChecked_ok_iff.mpr hread))
  · intro h lhs c hrun
    have hc := (readOperandChecked_quiet 0 form.width).ok_eq hrun
    subst hc
    exact (hrest lhs).mpr (h (by rw [readOperandChecked_ok_iff.mp hrun]; rfl))

/-- `XADD`. -/
theorem stays_handleXadd (width : RmWidth) :
    (handleXadd width).Stays ctx ↔ (RmwCode.xadd width).Fits ctx := by
  unfold handleXadd RmwCode.Fits
  dsimp only
  rw [stays_bind, stays_readOperandChecked, toHandler_readOperandChecked]
  refine and_congr_right fun hfits => ?_
  have hrest (lhs : U64) : (look >>= fun c =>
      flagsThenWrite width.bytes (lhs + readRegister c.state (c.instr.opRegister 1),
        -- The second store goes to the register operand, from the context the first one left.
        setAddFlags c.state.rflags lhs (readRegister c.state (c.instr.opRegister 1))
          (lhs + readRegister c.state (c.instr.opRegister 1)) width.bytes false) >>= fun _ =>
        writeOperandChecked 1 lhs width.bytes).Stays ctx ↔
      ∀ c, Seven.flagsThenWrite width.bytes
        (lhs + readRegister ctx.state (ctx.instr.opRegister 1),
          setAddFlags ctx.state.rflags lhs (readRegister ctx.state (ctx.instr.opRegister 1))
            (lhs + readRegister ctx.state (ctx.instr.opRegister 1)) width.bytes false) ctx =
          .ok () c → OperandFits 1 width.bytes c := by
    rw [stays_look_bind, stays_bind, stays_flagsThenWrite, toHandler_flagsThenWrite]
    simp only [stays_writeOperandChecked]
    exact ⟨fun h => h.2 (), fun h => ⟨hfits, fun _ => h⟩⟩
  constructor
  · intro h lhs hread
    exact (hrest lhs).mp (h lhs ctx (readOperandChecked_ok_iff.mpr hread))
  · intro h lhs c hrun
    have hc := (readOperandChecked_quiet 0 width.bytes).ok_eq hrun
    subst hc
    exact (hrest lhs).mpr (h lhs (readOperandChecked_ok_iff.mp hrun))

/-- The bit instructions: the word of the bit. -/
theorem stays_handleBit (op : BitOp) (width : RmWideWidth) (source : BitIndexSource) :
    (handleBit op width source).Stays ctx ↔ (RmwCode.bit op width source).Fits ctx := by
  unfold handleBit RmwCode.Fits
  dsimp only
  rw [stays_look_bind, bitIndex_withoutMemory, ctx.withoutMemory_instr]
  by_cases hmemory : ctx.instr.opKind 0 = .memory
  · rw [if_pos hmemory, forall_prop_of_true hmemory]
    refine (stays_load_bind fun value => ?_).trans (and_iff_left_of_imp fun h _ => h)
    rw [stays_bind_silent fun _ => silent_modifyState _]
    exact stays_writeMemoryChecked _ _ _
  · rw [if_neg hmemory]
    have hregister : OperandFits 0 width.bytes ctx := fun h => absurd h hmemory
    refine iff_of_true ((stays_operand_then fun value _ => ?_).mpr hregister)
      fun h => absurd h hmemory
    rw [stays_bind_silent fun _ => silent_modifyState _]
    exact (stays_writeOperandChecked 0 _ _).mpr hregister

end rmw

end AccessM

/-- **A read-modify-write instruction stays in the address space exactly when
it fits.** -/
theorem RmwCode.stays_iff (c : RmwCode) (ctx : ExecutionContext) :
    c.program.Stays ctx ↔ c.Fits ctx := by
  cases c with
  | alu op form => exact AccessM.stays_handleAlu op form
  | unary op width => exact AccessM.stays_rmwOperand width.bytes _
  | shift op width source => cases op <;> exact AccessM.stays_rmwOperand width.bytes _
  | doubleShift op width source => exact AccessM.stays_rmwOperand width.bytes _
  | xadd width => exact AccessM.stays_handleXadd width
  | cmpxchg width =>
    show (AccessM.handleCmpxchg width).Stays ctx ↔ OperandFits 0 width.bytes ctx
    unfold AccessM.handleCmpxchg
    exact AccessM.stays_compareExchange width _
  | cmpxchg486 width =>
    show (AccessM.handleCmpxchg486 width).Stays ctx ↔ OperandFits 0 (narrowRm width).bytes ctx
    unfold AccessM.handleCmpxchg486
    exact AccessM.stays_compareExchange (narrowRm width) _
  | bit op width source => exact AccessM.stays_handleBit op width source

/-! ## String instructions -/

/-- The element of a string instruction fits, its pointers so far from the
registers. The second of two accesses is made if the first was granted. -/
structure ElementInside (op : StringOp) (width : Nat) (moved : StringPointers)
    (ctx : ExecutionContext) : Prop where
  source : op.usesRsi = true → (AddressForm.source moved.rsi).FitsAt width ctx
  destination : op.usesRdi = true →
    (op.usesRsi = true → (AddressForm.source moved.rsi).Reads width ctx) →
      (AddressForm.destination moved.rdi).FitsAt width ctx

/-- A string instruction fits: its element, or under a prefix the element in
front of each turn that the repeat takes. -/
def StringFits (op : StringOp) (width : Nat) (ctx : ExecutionContext) : Prop :=
  if ctx.instr.repeats then
    ∀ k b, Reached op width k ctx b → b.state.gpr 1 ≠ 0#64 → ElementInside op width ⟨0#64, 0#64⟩ b
  else ElementInside op width ⟨0#64, 0#64⟩ ctx

namespace AccessM

section strings

variable {op : StringOp} {width : Nat} {ctx : ExecutionContext} {cleanup : CpuState → CpuState}
  {moved : StringPointers}

/-- A load of a string instruction. -/
theorem stays_loadOr (form : AddressForm) :
    (loadOr cleanup form width).Stays ctx ↔ form.FitsAt width ctx := by
  refine stays_single (?_ : (loadOr cleanup form width).accesses ctx = _)
  unfold loadOr
  rw [accesses_bind_silent _ fun found => ?_, accesses_load]
  cases found with
  | some bytes => exact silent_pure _
  | none => exact fun _ => rfl

/-- A store of a string instruction. -/
theorem stays_storeOr (form : AddressForm) (value : U64) :
    (storeOr cleanup form value width).Stays ctx ↔ form.FitsAt width ctx := by
  refine stays_single (?_ : (storeOr cleanup form value width).accesses ctx = _)
  unfold storeOr
  rw [accesses_bind_silent _ fun stored => ?_, accesses_store, toBytes_length]
  cases stored with
  | true => exact silent_pure _
  | false => exact fun _ => rfl

/-- A load, and a rest that does not depend on its value. -/
theorem stays_loadOr_bind {β : Type} {form : AddressForm} {f : U64 → AccessM β} {P : Prop}
    (hf : ∀ value, (f value).Stays ctx ↔ P) :
    (loadOr cleanup form width >>= f).Stays ctx ↔
      form.FitsAt width ctx ∧ (form.Reads width ctx → P) := by
  rw [stays_bind, stays_loadOr]
  refine and_congr_right fun _ => ?_
  unfold AddressForm.Reads
  have hload := @toHandler_loadOr cleanup ctx form width
  cases hread : ctx.memory.read (form.address ctx.state ctx.instr) width .dataRead with
  | some bytes =>
    rw [cleaned_ok (readMemoryChecked_some hread)] at hload
    constructor
    · exact fun h _ => (hf _).mp (h _ _ hload)
    · intro h value c hrun
      rw [hload] at hrun
      cases hrun
      exact (hf _).mpr (h rfl)
  | none =>
    rw [cleaned_error (readMemoryChecked_none hread)] at hload
    refine iff_of_true (fun value c hrun => ?_) (fun h => nomatch h)
    rw [hload] at hrun
    cases hrun

/-- One element. -/
theorem stays_stringElement (op : StringOp) (width : Nat) (moved : StringPointers) :
    (stringElement cleanup op width moved).Stays ctx ↔ ElementInside op width moved ctx := by
  -- The destination is asked for where the source, if there is one, could be read.
  have hboth : ElementInside op width moved ctx ↔
      (op.usesRsi = true → (AddressForm.source moved.rsi).FitsAt width ctx) ∧
        (op.usesRdi = true →
          (op.usesRsi = true → (AddressForm.source moved.rsi).Reads width ctx) →
            (AddressForm.destination moved.rdi).FitsAt width ctx) :=
    ⟨fun h => ⟨h.source, h.destination⟩, fun h => ⟨h.1, h.2⟩⟩
  unfold stringElement
  rw [stays_look_bind, hboth]
  cases op with
  | movs =>
    simp only [StringOp.usesRsi, StringOp.usesRdi, true_implies]
    refine stays_loadOr_bind fun value => ?_
    exact (stays_bind_silent fun _ => fun _ => rfl).trans (stays_storeOr _ _)
  | stos =>
    simp only [StringOp.usesRsi, StringOp.usesRdi, true_implies, Bool.false_eq_true, false_implies,
      true_and]
    exact (stays_bind_silent fun _ => fun _ => rfl).trans (stays_storeOr _ _)
  | lods =>
    simp only [StringOp.usesRsi, StringOp.usesRdi, true_implies, Bool.false_eq_true, false_implies,
      and_true]
    exact (stays_bind_silent fun _ => fun _ => rfl).trans (stays_loadOr _)
  | cmps =>
    simp only [StringOp.usesRsi, StringOp.usesRdi, true_implies]
    refine stays_loadOr_bind fun lhs => ?_
    exact (stays_bind_silent fun _ => fun _ => rfl).trans (stays_loadOr _)
  | scas =>
    simp only [StringOp.usesRsi, StringOp.usesRdi, true_implies, Bool.false_eq_true, false_implies,
      true_and]
    exact (stays_bind_silent fun _ => fun _ => rfl).trans (stays_loadOr _)

/-! ### The repeat -/

/-- The pointers can be in the registers or apart from them. -/
theorem elementInside_withPointers (n : Nat) :
    ElementInside op width ⟨0#64, 0#64⟩ (withPointers op (movedPointers ctx.state moved) n ctx) ↔
      ElementInside op width moved ctx := by
  obtain ⟨b, hb⟩ : ∃ b, b = withPointers op (movedPointers ctx.state moved) n ctx := ⟨_, rfl⟩
  rw [← hb]
  have hmode : b.state.mode = ctx.state.mode := by
    subst hb
    cases op <;> rfl
  have hmemory : b.memory = ctx.memory := by
    subst hb
    rfl
  have hsource (h : op.usesRsi = true) : (AddressForm.source 0#64).address b.state b.instr =
      (AddressForm.source moved.rsi).address ctx.state ctx.instr := by
    subst hb
    cases op with
    | stos => cases h
    | scas => cases h
    | _ => exact BitVec.add_zero _
  have hdestination (h : op.usesRdi = true) :
      (AddressForm.destination 0#64).address b.state b.instr =
        (AddressForm.destination moved.rdi).address ctx.state ctx.instr := by
    subst hb
    cases op with
    | lods => cases h
    | _ => exact BitVec.add_zero _
  have hreads (h : op.usesRsi = true) : (AddressForm.source 0#64).Reads width b ↔
      (AddressForm.source moved.rsi).Reads width ctx := by
    unfold AddressForm.Reads
    rw [hsource h, hmemory]
  -- The two contexts form the same addresses and read the same memory.
  constructor
  · intro h
    refine ⟨fun hu => (AddressForm.fitsAt_congr hmode (hsource hu)).mp (h.source hu),
      fun hu hread => ?_⟩
    exact (AddressForm.fitsAt_congr hmode (hdestination hu)).mp
      (h.destination hu fun hr => (hreads hr).mpr (hread hr))
  · intro h
    refine ⟨fun hu => (AddressForm.fitsAt_congr hmode (hsource hu)).mpr (h.source hu),
      fun hu hread => ?_⟩
    exact (AddressForm.fitsAt_congr hmode (hdestination hu)).mpr
      (h.destination hu fun hr => (hreads hr).mp (hread hr))

/-- What holds in front of every turn holds here, and in front of every turn
behind this one. -/
theorem forall_reached_iff {b : ExecutionContext} {P : ExecutionContext → Prop} :
    (∀ k d, Reached op width k b d → P d) ↔
      P b ∧ ∀ c, stringIteration op width b = .ok true c → ∀ k d, Reached op width k c d → P d := by
  constructor
  · exact fun h => ⟨h 0 b (Reached.refl b), fun c hit k d hrest => h (k + 1) d (.step hit hrest)⟩
  · rintro ⟨hhere, hnext⟩ k d hreached
    cases hreached with
    | refl _ => exact hhere
    | step hit hrest => exact hnext _ hit _ _ hrest

/-- A pointer that the instruction does not use does not move. -/
def Unused (op : StringOp) (moved : StringPointers) : Prop :=
  (op.usesRsi = false → moved.rsi = 0#64) ∧ (op.usesRdi = false → moved.rdi = 0#64)

/-- A pointer that is not used stays unused. -/
theorem Unused.advance (h : Unused op moved) (df : Bool) :
    Unused op (advancePointers op df width moved) := by
  unfold Unused advancePointers
  constructor
  · intro hu
    simp only [hu, Bool.false_eq_true, if_false]
    exact h.1 hu
  · intro hu
    simp only [hu, Bool.false_eq_true, if_false]
    exact h.2 hu

/-- The pointers behind an element. -/
theorem Unused.pointersOf (h : Unused op moved) (n : Nat) :
    pointersOf (withPointers op (movedPointers ctx.state moved) n ctx).state =
      movedPointers ctx.state moved := by
  refine pointersOf_savePointers op _ n ctx.state (fun hu => ?_) (fun hu => ?_)
  · show ctx.state.gpr 6 = ctx.state.gpr 6 + moved.rsi
    rw [h.1 hu, BitVec.add_zero]
  · show ctx.state.gpr 7 = ctx.state.gpr 7 + moved.rdi
    rw [h.2 hu, BitVec.add_zero]

/-- An iteration with the pointers apart from the registers. -/
theorem stringIteration_withPointers {p : StringPointers} {n : Nat} (hn : n + 1 < 2 ^ 64)
    (hpointers : Seven.pointersOf (withPointers op p (n + 1) ctx).state = p) :
    stringIteration op width (withPointers op p (n + 1) ctx) =
      match Seven.stringElement op width p ctx with
      | .error r c => .error r (withPointers op p (n + 1) c)
      | .ok hits c =>
        let goOn := continueLoop op true ctx.instr.hasRepnePrefix n c.state.rflags
        .ok (!decide (hits ≠ 0#64) && goOn)
          (withPointers op (advancePointers op (flagSet ctx.state.rflags kFlagDF) width p) n
            (noteDebugBreak c hits goOn).1) := by
  -- The count saved is one more than the turns left.
  have hcount : ((withPointers op p (n + 1) ctx).state.gpr 1).toNat - 1 = n := by
    show ((savePointers op true p (n + 1) ctx.state).gpr 1).toNat - 1 = n
    rw [savePointers_count, BitVec.toNat_ofNat, Nat.mod_eq_of_lt hn, Nat.add_sub_cancel]
  have hnext : nextPointers op width (withPointers op p (n + 1) ctx).state =
      advancePointers op (flagSet ctx.state.rflags kFlagDF) width p := by
    unfold nextPointers
    rw [hpointers]
    congr 1
    exact congrArg (flagSet · kFlagDF) (savePointers_rflags op p (n + 1) ctx.state)
  unfold stringIteration
  rw [hpointers, hcount, hnext, stringElement_withPointers]
  cases Seven.stringElement op width p ctx with
  | error r c => rfl
  | ok hits c =>
    have hflags : (withPointers op p (n + 1) c).state.rflags = c.state.rflags :=
      savePointers_rflags op p (n + 1) c.state
    simp only [mapState, hflags, noteDebugBreak_withPointers, noteDebugBreak_snd]
    simp only [withPointers, savePointers_savePointers]

/-- An element that finds no hit and a reason to go on notes nothing. -/
theorem noteDebugBreak_passed {hits : U64} {goOn : Bool} (c : ExecutionContext)
    (h : (!decide (hits ≠ 0#64) && goOn) = true) :
    goOn = true ∧ noteDebugBreak c hits goOn = (c, false) := by
  rw [Bool.and_eq_true, Bool.not_eq_true'] at h
  exact ⟨h.2, noteDebugBreak_goesOn ((noteDebugBreak_snd c hits goOn).trans h.1)⟩

/-- Behind an element the turns that are left have to stay where the loop goes
on, and nothing else is accessed. -/
theorem stays_turn_iff {hits : U64} {goOn : Bool} {p : StringPointers} {n : Nat}
    {rest : AccessM Unit} (c : ExecutionContext) :
    ((change fun ctx => (noteDebugBreak ctx hits goOn).1) >>= fun _ =>
      if (noteDebugBreak c.withoutMemory hits goOn).2 || !goOn then
        modifyState (savePointers op true p n)
      else rest).Stays c ↔
      ((!decide (hits ≠ 0#64) && goOn) = true → rest.Stays c) := by
  rw [stays_bind, noteDebugBreak_snd]
  simp only [toHandler_noteDebugBreak]
  constructor
  · intro h hgo
    have hrest := h.2 () _ rfl
    rw [(noteDebugBreak_passed c hgo).2] at hrest
    rw [Bool.and_eq_true, Bool.not_eq_true'] at hgo
    rw [hgo.1, hgo.2, if_neg (by decide)] at hrest
    exact hrest
  · refine fun h => ⟨Silent.stays (fun _ => rfl) c, fun _ d hd => ?_⟩
    split
    next => exact (silent_modifyState _).stays d
    next hgoes =>
      -- neither a hit nor an end of the search: the context is the one before
      have hgo : (!decide (hits ≠ 0#64) && goOn) = true := by
        rw [Bool.or_eq_true, not_or, Bool.not_eq_true, Bool.not_eq_true,
          Bool.not_eq_false'] at hgoes
        rw [hgoes.1, hgoes.2]
        rfl
      rw [(noteDebugBreak_passed c hgo).2] at hd
      cases hd
      exact h hgo

/-- An element leaves the pointers to the loop, which moves them on. -/
theorem movedPointers_element {p : StringPointers} {hits : U64} {c : ExecutionContext}
    (hwidth : width ≤ 8) (hrun : Seven.stringElement op width p ctx = .ok hits c) (df : Bool) :
    movedPointers c.state (advancePointers op df width moved) =
      advancePointers op df width (movedPointers ctx.state moved) := by
  have hframe := stringElement_frame hwidth ctx hits c hrun
  rw [advancePointers_moved]
  unfold movedPointers
  rw [hframe.gpr 6 (by decide), hframe.gpr 7 (by decide)]

/-- **A repeat stays when the element in front of every turn fits.** -/
theorem stays_stringLoop (op : StringOp) {width : Nat} (hwidth : width ≤ 8) (repne df : Bool) :
    ∀ (n : Nat) (moved : StringPointers) (ctx : ExecutionContext), n < 2 ^ 64 →
      ctx.instr.hasRepnePrefix = repne → flagSet ctx.state.rflags kFlagDF = df →
      Unused op moved →
      ((stringLoop op width true repne df n moved).Stays ctx ↔
        ∀ k d, Reached op width k (withPointers op (movedPointers ctx.state moved) n ctx) d →
          d.state.gpr 1 ≠ 0#64 → ElementInside op width ⟨0#64, 0#64⟩ d) := by
  intro n
  induction n with
  | zero =>
    intro moved ctx _ _ _ _
    refine iff_of_true ((silent_pure ()).stays ctx) fun k d hreached hne => ?_
    -- no element is left
    have hzero : counter (withPointers op (movedPointers ctx.state moved) 0 ctx) = 0 :=
      congrArg BitVec.toNat (savePointers_count op _ 0 ctx.state)
    have hcount := hreached.count
    have hpos := counter_pos_iff.mpr hne
    omega
  | succ n ih =>
    intro moved ctx hn hrepne hdf hunused
    have hpointers := @Unused.pointersOf op ctx moved hunused (n + 1)
    have hne : (withPointers op (movedPointers ctx.state moved) (n + 1) ctx).state.gpr 1 ≠ 0#64 := by
      refine counter_pos_iff.mp ?_
      show 0 < ((savePointers op true (movedPointers ctx.state moved) (n + 1)
        ctx.state).gpr 1).toNat
      rw [savePointers_count, BitVec.toNat_ofNat, Nat.mod_eq_of_lt hn]
      exact Nat.succ_pos n
    rw [forall_reached_iff, forall_prop_of_true hne, elementInside_withPointers,
      stringIteration_withPointers hn hpointers]
    unfold stringLoop
    rw [stays_look_bind, stays_bind, stays_stringElement, ctx.withoutMemory_state]
    refine and_congr_right fun _ => ?_
    have helement := @toHandler_stringElement
      (savePointers op true (movedPointers ctx.state moved) (n + 1)) op width moved ctx
    cases hrun : Seven.stringElement op width (movedPointers ctx.state moved) ctx with
    | error r c =>
      rw [cleaned_error hrun] at helement
      constructor
      · intro _ d hok
        cases hok
      · intro _ hits d hok
        rw [helement] at hok
        cases hok
    | ok hits c =>
      rw [cleaned_ok hrun] at helement
      have hframe := stringElement_frame hwidth ctx hits c hrun
      have hrepne' : c.instr.hasRepnePrefix = repne := by rw [hframe.instr, hrepne]
      have hdf' : flagSet c.state.rflags kFlagDF = df := by
        rw [← hdf]
        unfold flagSet
        rw [hframe.flags kFlagDF (by decide)]
      have hrest := ih (advancePointers op df width moved) c (by omega) hrepne' hdf'
        (hunused.advance df)
      rw [movedPointers_element hwidth hrun] at hrest
      constructor
      · intro h d hd
        dsimp only at hd
        rw [hrepne, hdf] at hd
        obtain ⟨hgo, rfl⟩ := EStateM.Result.ok.inj hd
        have hcontinue := h hits c helement
        rw [stays_look_bind] at hcontinue
        dsimp only at hcontinue
        rw [c.withoutMemory_state] at hcontinue
        rw [(noteDebugBreak_passed c hgo).2]
        exact hrest.mp ((stays_turn_iff c).mp hcontinue hgo)
      · intro h a d hok
        rw [helement] at hok
        cases hok
        rw [stays_look_bind]
        dsimp only
        rw [c.withoutMemory_state]
        refine (stays_turn_iff c).mpr fun hgo => hrest.mpr (h _ ?_)
        dsimp only
        rw [hrepne, hdf, hgo, (noteDebugBreak_passed c hgo).2]

/-- A string instruction, repeated or not. -/
theorem stays_stringImpl (op : StringOp) {width : Nat} (hwidth : width ≤ 8)
    (ctx : ExecutionContext) : (stringImpl op width).Stays ctx ↔ StringFits op width ctx := by
  have hstart : movedPointers ctx.state ⟨0#64, 0#64⟩ = Seven.pointersOf ctx.state := by
    unfold movedPointers
    rw [BitVec.add_zero, BitVec.add_zero]
    rfl
  have hrepeats : (ctx.instr.hasRepPrefix || ctx.instr.hasRepnePrefix) = ctx.instr.repeats := rfl
  unfold stringImpl StringFits
  rw [stays_look_bind, ctx.withoutMemory_state, ctx.withoutMemory_instr]
  dsimp only
  rw [hrepeats]
  cases hrep : ctx.instr.repeats with
  | true =>
    have hself : withPointers op (Seven.pointersOf ctx.state) (ctx.state.gpr 1).toNat ctx = ctx := by
      unfold withPointers
      rw [savePointers_self op _ ctx.state (by rw [BitVec.ofNat_toNat, BitVec.setWidth_eq])]
    rw [if_pos rfl, if_pos rfl, stays_stringLoop op hwidth _ _ (ctx.state.gpr 1).toNat ⟨0#64, 0#64⟩
      ctx (ctx.state.gpr 1).isLt rfl rfl ⟨fun _ => rfl, fun _ => rfl⟩, hstart, hself]
  | false =>
    rw [if_neg Bool.false_ne_true, if_neg Bool.false_ne_true]
    unfold stringLoop
    rw [stays_look_bind, stays_bind_silent, stays_stringElement]
    -- behind the only element nothing touches the memory
    intro hits c
    show (ite _ _ _ : AccessM Unit).accesses _ = []
    split
    · rfl
    · rfl

end strings

end AccessM

end Seven
