import Seven.Handlers.StateFrame

/-!
# The errors of the handlers

A handler ends with an error or with none. Every error of the handlers is a
fault (`IsFault`): it names a reason to stop and retires nothing.
-/

namespace Seven

open Seven.Lib

/-- A result that stops the run and retires nothing. -/
def IsFault (r : ExecutionResult) : Prop := r.reason ≠ .none ∧ r.retired = 0

/-- Every error of the computation is a fault. -/
abbrev RaisesFaults {α : Type} (x : HandlerM α) : Prop := Raises IsFault x

/-! ## The primitives -/

theorem memoryFault_faults {α : Type} (address : U64) :
    RaisesFaults (memoryFault address : HandlerM α) := by
  intro c e c' h
  cases h
  exact ⟨(by decide : StopReason.pageFault ≠ .none), rfl⟩

theorem faultHere_faults {α : Type} {reason : StopReason} (h : reason ≠ .none)
    (errorCode : BitVec 32) : RaisesFaults (faultHere reason errorCode : HandlerM α) := by
  intro c e c' hrun
  cases hrun
  exact ⟨h, rfl⟩

theorem unsupportedInstruction_faults {α : Type} :
    RaisesFaults (unsupportedInstruction : HandlerM α) :=
  faultHere_faults (fun h => by cases h) 0#32

theorem gpFault_faults {α : Type} (vector : BitVec 8) : RaisesFaults (gpFault vector : HandlerM α) :=
  faultHere_faults (fun h => by cases h) _

theorem modifyState_faults (f : CpuState → CpuState) : RaisesFaults (modifyState f) :=
  .of_total (modifyState_total f)

theorem takeControlFlow_faults : RaisesFaults takeControlFlow := .of_total takeControlFlow_total

theorem readMemoryChecked_faults (address : U64) (width : Nat) :
    RaisesFaults (readMemoryChecked address width) := by
  intro c e c' h
  unfold readMemoryChecked at h
  split at h
  next => cases h
  next => exact memoryFault_faults _ _ _ _ h

theorem writeMemoryChecked_faults (address value : U64) (width : Nat) :
    RaisesFaults (writeMemoryChecked address value width) := by
  intro c e c' h
  unfold writeMemoryChecked at h
  split at h
  next => cases h
  next => exact memoryFault_faults _ _ _ _ h

theorem readOperandChecked_faults (operandIndex width : Nat) :
    RaisesFaults (readOperandChecked operandIndex width) := by
  intro c e c' h
  unfold readOperandChecked at h
  split at h
  next => cases h
  next => exact memoryFault_faults _ _ _ _ h

theorem writeOperandChecked_faults (operandIndex : Nat) (value : U64) (width : Nat) :
    RaisesFaults (writeOperandChecked operandIndex value width) := by
  intro c e c' h
  unfold writeOperandChecked at h
  split at h
  next => cases h
  next => exact memoryFault_faults _ _ _ _ h

/-! ## Stack -/

theorem pushSlot_faults {widths : List Nat} {refuse : Handler} (h : RaisesFaults refuse)
    (value : U64) (width : Nat) : RaisesFaults (pushSlot widths refuse value width) := by
  refine Raises.bind (modifyState_faults _) fun _ => ?_
  exact Raises.ite (Raises.get_bind fun c => writeMemoryChecked_faults _ _ _) h

theorem pushWidth_faults (value : U64) (width : Nat) : RaisesFaults (pushWidth value width) :=
  pushSlot_faults unsupportedInstruction_faults value width

theorem pushAllOf_faults {widths : List Nat} {refuse : Handler} (h : RaisesFaults refuse) :
    ∀ slots, RaisesFaults (pushAllOf widths refuse slots)
  | [] => Raises.pure ()
  | (value, width) :: rest =>
    Raises.bind (pushSlot_faults h value width) fun _ => pushAllOf_faults h rest

theorem popWidth_faults (width : Nat) : RaisesFaults (popWidth width) := by
  unfold popWidth
  refine Raises.ite (Raises.get_bind fun c => ?_) unsupportedInstruction_faults
  exact Raises.bind (readMemoryChecked_faults _ _) fun value =>
    Raises.bind (modifyState_faults _) fun _ => Raises.pure value

theorem descriptorGate_faults (vector : BitVec 8) (targetRip descriptor : U64) :
    RaisesFaults (descriptorGate vector targetRip descriptor) := by
  unfold descriptorGate
  exact Raises.ite (gpFault_faults vector) (Raises.pure _)

theorem readGate_faults (vector : BitVec 8) : RaisesFaults (readGate vector) := by
  refine Raises.get_bind fun c => Raises.ite (gpFault_faults vector) ?_
  dsimp only
  split
  next =>
    exact Raises.bind (readMemoryChecked_faults _ _) fun ip =>
      Raises.bind (readMemoryChecked_faults _ _) fun cs => Raises.pure _
  next =>
    exact Raises.bind (readMemoryChecked_faults _ _) fun descriptor =>
      descriptorGate_faults vector _ descriptor
  next =>
    exact Raises.bind (readMemoryChecked_faults _ _) fun descLo =>
      Raises.bind (readMemoryChecked_faults _ _) fun descHi => descriptorGate_faults vector _ descLo

theorem dispatchInterrupt_faults (vector : BitVec 8) (returnRip : U64)
    (errorCode : Option (BitVec 32)) (pushRf : Bool) :
    RaisesFaults (dispatchInterrupt vector returnRip errorCode pushRf) :=
  Raises.bind (readGate_faults vector) fun _ => Raises.get_bind fun _ =>
    Raises.bind (pushAllOf_faults (gpFault_faults vector) _) fun _ =>
      Raises.bind (modifyState_faults _) fun _ => takeControlFlow_faults

theorem jumpTo_faults (target : U64) : RaisesFaults (jumpTo target) :=
  Raises.bind (modifyState_faults _) fun _ => takeControlFlow_faults

theorem farJumpTo_faults (mode : ExecutionMode) (selector : BitVec 16) (target : U64) :
    RaisesFaults (farJumpTo mode selector target) :=
  Raises.bind (modifyState_faults _) fun _ => takeControlFlow_faults

theorem callRmWidth_faults (width : Nat) : RaisesFaults (callRmWidth width) := by
  refine Raises.bind (Raises.get_bind fun c => ?_) fun target => Raises.get_bind fun c => ?_
  · exact Raises.ite (Raises.pure _) (readOperandChecked_faults 0 width)
  · exact Raises.bind (pushWidth_faults _ _) fun _ => jumpTo_faults target

theorem pushFarReturn_faults (selector : BitVec 16) (offset : U64) (offsetWidth : Nat) :
    RaisesFaults (pushFarReturn selector offset offsetWidth) :=
  pushAllOf_faults unsupportedInstruction_faults _

theorem StackShape.faults (shape : StackShape) : RaisesFaults shape.handler := by
  -- One case a shape: each is a chain of accesses, and an access raises a page fault at most.
  cases shape with
  | pushOperand w =>
    exact Raises.bind (readOperandChecked_faults _ _) fun value => pushWidth_faults value _
  | pushImm i w sx =>
    exact Raises.bind (readOperandChecked_faults _ _) fun value => pushWidth_faults _ _
  | pushSegment i w =>
    show RaisesFaults (Seven.pushSegment i w.bytes)
    unfold Seven.pushSegment
    rw [dif_pos i.isLt]
    exact Raises.get_bind fun c => pushWidth_faults _ _
  | pushFlags w => exact Raises.get_bind fun c => pushWidth_faults _ _
  | pushAll w => exact Raises.get_bind fun c => pushAllOf_faults unsupportedInstruction_faults _
  | popOperand w =>
    exact Raises.get_bind fun c => Raises.bind (popWidth_faults _) fun value =>
      Raises.bind (writeOperandChecked_faults 0 value _) fun _ =>
        Raises.of_total (notePopSs_total _ _)
  | popfq =>
    exact Raises.get_bind fun c => Raises.bind (readMemoryChecked_faults _ _) fun value =>
      modifyState_faults _
  | callRm w => exact callRmWidth_faults w.bytes
  | callRm32 =>
    exact Raises.get_bind fun c => Raises.ite (callRmWidth_faults 8) (callRmWidth_faults 4)
  | callRel w =>
    exact Raises.get_bind fun c => Raises.bind (pushWidth_faults _ _) fun _ => jumpTo_faults _
  | callFarMem w =>
    refine Raises.bind ?_ fun target => Raises.get_bind fun c => ?_
    · exact Raises.bind (readOperandChecked_faults _ _) fun offset => Raises.get_bind fun c =>
        Raises.bind (readMemoryChecked_faults _ _) fun selector => Raises.pure _
    · exact Raises.bind (pushFarReturn_faults _ _ _) fun _ => farJumpTo_faults _ _ _
  | callFarPtr w =>
    exact Raises.get_bind fun c => Raises.bind (pushFarReturn_faults _ _ _) fun _ =>
      farJumpTo_faults _ _ _
  | ret w withImm =>
    exact Raises.bind (popWidth_faults _) fun target => Raises.get_bind fun c =>
      Raises.bind (modifyState_faults _) fun _ => takeControlFlow_faults
  | retf w withImm =>
    exact Raises.bind (popWidth_faults _) fun target => Raises.bind (popWidth_faults _)
      fun selector => Raises.get_bind fun c => Raises.bind (modifyState_faults _)
        fun _ => takeControlFlow_faults
  | iret w =>
    exact Raises.bind (popWidth_faults _) fun target => Raises.bind (popWidth_faults _)
      fun selector => Raises.bind (popWidth_faults _) fun flags =>
        Raises.bind (modifyState_faults _) fun _ => takeControlFlow_faults
  | int vector => exact Raises.get_bind fun c => dispatchInterrupt_faults _ _ _ _
  | into =>
    exact Raises.get_bind fun c => Raises.ite (dispatchInterrupt_faults _ _ _ _) (Raises.pure ())

/-! ## Read-modify-write instructions -/

theorem flagsThenWrite_faults (width : Nat) (out : U64 × U64) :
    RaisesFaults (flagsThenWrite width out) :=
  Raises.bind (modifyState_faults _) fun _ => writeOperandChecked_faults _ _ _

theorem rmwOperand_faults (width : Nat) (compute : ExecutionContext → U64 → U64 × U64) :
    RaisesFaults (rmwOperand width compute) :=
  Raises.bind (readOperandChecked_faults _ _) fun _ => Raises.get_bind fun _ =>
    flagsThenWrite_faults _ _

theorem compareExchange_faults (width : RmWidth) (flags : U64 → U64 → U64 → Bool → U64) :
    RaisesFaults (compareExchange width flags) := by
  refine Raises.bind (readOperandChecked_faults _ _) fun lhs => Raises.get_bind fun c => ?_
  dsimp only
  split
  next => exact Raises.bind (writeOperandChecked_faults _ _ _) fun _ => modifyState_faults _
  next => exact modifyState_faults _

theorem handleBit_faults (op : BitOp) (width : RmWideWidth) (source : BitIndexSource) :
    RaisesFaults (handleBit op width source) := by
  refine Raises.get_bind fun c => ?_
  dsimp only
  split
  next =>
    exact Raises.bind (readMemoryChecked_faults _ _) fun value =>
      Raises.bind (writeMemoryChecked_faults _ _ _) fun _ => modifyState_faults _
  next =>
    exact Raises.bind (readOperandChecked_faults _ _) fun value =>
      Raises.bind (writeOperandChecked_faults _ _ _) fun _ => modifyState_faults _

theorem aluSource_faults (form : AluForm) : RaisesFaults (aluSource form) := by
  unfold aluSource
  refine Raises.get_bind fun c => ?_
  cases form with
  | rm8R8 | rm16R16 | rm32R32 | rm64R64 => exact readOperandChecked_faults _ _
  | _ => exact Raises.pure _

theorem RmwCode.faults (code : RmwCode) : RaisesFaults code.handler := by
  cases code with
  | alu op form =>
    exact Raises.bind (readOperandChecked_faults _ _) fun lhs =>
      Raises.bind (aluSource_faults form) fun rhs => Raises.get_bind fun c =>
        flagsThenWrite_faults _ _
  | unary op width => exact rmwOperand_faults _ _
  | shift op width source => cases op <;> exact rmwOperand_faults _ _
  | doubleShift op width source => exact rmwOperand_faults _ _
  | xadd width =>
    exact Raises.bind (readOperandChecked_faults _ _) fun lhs =>
      Raises.get_bind fun _ =>
        Raises.bind (flagsThenWrite_faults _ _) fun _ => writeOperandChecked_faults _ _ _
  | cmpxchg width =>
    unfold RmwCode.handler handleCmpxchg
    exact compareExchange_faults _ _
  | cmpxchg486 width =>
    unfold RmwCode.handler handleCmpxchg486
    exact compareExchange_faults _ _
  | bit op width source => exact handleBit_faults op width source

/-! ## String instructions -/

theorem readHits_faults (address : U64) (width : Nat) : RaisesFaults (readHits address width) :=
  Raises.get_bind fun _ => Raises.pure _

theorem writeHits_faults (address : U64) (width : Nat) : RaisesFaults (writeHits address width) :=
  Raises.get_bind fun _ => Raises.pure _

theorem stringElement_faults (op : StringOp) (width : Nat) (p : StringPointers) :
    RaisesFaults (stringElement op width p) := by
  -- The accesses of each operation in their order, with the look at the breakpoints behind them.
  cases op with
  | movs =>
    exact Raises.bind (readMemoryChecked_faults _ _) fun value =>
      Raises.bind (writeMemoryChecked_faults _ _ _) fun _ =>
        Raises.bind (readHits_faults _ _) fun _ => Raises.bind (writeHits_faults _ _)
          fun _ => Raises.pure _
  | stos =>
    exact Raises.get_bind fun c => Raises.bind (writeMemoryChecked_faults _ _ _) fun _ =>
      writeHits_faults _ _
  | lods =>
    exact Raises.bind (readMemoryChecked_faults _ _) fun value =>
      Raises.bind (modifyState_faults _) fun _ => readHits_faults _ _
  | cmps =>
    exact Raises.bind (readMemoryChecked_faults _ _) fun lhs =>
      Raises.bind (readMemoryChecked_faults _ _) fun rhs =>
        Raises.bind (modifyState_faults _) fun _ => Raises.bind (readHits_faults _ _) fun _ =>
          Raises.bind (readHits_faults _ _) fun _ => Raises.pure _
  | scas =>
    exact Raises.get_bind fun c => Raises.bind (readMemoryChecked_faults _ _) fun rhs =>
      Raises.bind (modifyState_faults _) fun _ => readHits_faults _ _

theorem stringLoop_faults (op : StringOp) (width : Nat) (rep repne df : Bool) :
    ∀ remaining p, RaisesFaults (stringLoop op width rep repne df remaining p)
  | 0, _ => Raises.pure ()
  | remaining + 1, p => by
    intro c e c' h
    unfold stringLoop at h
    cases helement : stringElement op width p c with
    | error r c₁ =>
      rw [helement] at h
      cases h
      exact stringElement_faults op width p c _ _ helement
    | ok hits c₁ =>
      rw [helement] at h
      dsimp only at h
      split at h
      next => cases h
      next => exact stringLoop_faults op width rep repne df remaining _ _ _ _ h

theorem stringImpl_faults (op : StringOp) (width : Nat) : RaisesFaults (stringImpl op width) :=
  fun c => stringLoop_faults op width _ _ _ _ _ c

end Seven
