import Seven.Lib.Moves
import Seven.Handlers.StackRestart
import Seven.Handlers.AluRestart
import Seven.Handlers.StringRepeat

/-!
# What handlers leave alone

Some parts of the CPU state and of the context are written by very few
handlers: the debug fields by pops into `SS`, the system flags by `POPF`,
`IRET` and interrupt delivery, the hit bits by the string loops. `Ordinary`
are the updates all the others make: registers, `RIP`, the mode, the status
flags. A relation between CPU states that contains them is a `StateFrame`, one
between contexts a `HandlerFrame`, and the handlers move along it.

`StackShape.moves` and `stringImpl_moves` leave open the updates of the
exceptions; a relation says which of them it contains. `StackShape.failsAlong`
needs none of them, for they come last in their handlers.
-/

namespace Seven

open Seven.Lib

/-! ## Status flags -/

/-- The flags but for the status flags. -/
def systemFlags (rflags : U64) : U64 := rflags &&& ~~~kStatusFlags

@[simp] theorem systemFlags_cf (r : U64) (v : Bool) :
    systemFlags (setFlag r kFlagCF v) = systemFlags r := setFlag_and (by decide) v

@[simp] theorem systemFlags_pf (r : U64) (v : Bool) :
    systemFlags (setFlag r kFlagPF v) = systemFlags r := setFlag_and (by decide) v

@[simp] theorem systemFlags_af (r : U64) (v : Bool) :
    systemFlags (setFlag r kFlagAF v) = systemFlags r := setFlag_and (by decide) v

@[simp] theorem systemFlags_zf (r : U64) (v : Bool) :
    systemFlags (setFlag r kFlagZF v) = systemFlags r := setFlag_and (by decide) v

@[simp] theorem systemFlags_sf (r : U64) (v : Bool) :
    systemFlags (setFlag r kFlagSF v) = systemFlags r := setFlag_and (by decide) v

@[simp] theorem systemFlags_of (r : U64) (v : Bool) :
    systemFlags (setFlag r kFlagOF v) = systemFlags r := setFlag_and (by decide) v

/-- The common flags are no system flags. -/
@[simp] theorem systemFlags_result (r result : U64) (width : Nat) :
    systemFlags (setResultFlags r result width) = systemFlags r := by
  unfold setResultFlags
  simp only [systemFlags_pf, systemFlags_sf, systemFlags_zf]

/-- Nor are those of a logical operation. -/
@[simp] theorem systemFlags_logic (r value : U64) (width : Nat) :
    systemFlags (setLogicFlags r value width) = systemFlags r := by
  unfold setLogicFlags
  simp only [systemFlags_result, systemFlags_af, systemFlags_of, systemFlags_cf]

/-- Nor those of an addition. -/
@[simp] theorem systemFlags_add (r lhs rhs result : U64) (width : Nat) (carryIn : Bool) :
    systemFlags (setAddFlags r lhs rhs result width carryIn) = systemFlags r := by
  unfold setAddFlags
  simp only [systemFlags_of, systemFlags_result, systemFlags_af, systemFlags_cf]

/-- Nor those of a subtraction. -/
@[simp] theorem systemFlags_sub (r lhs rhs result : U64) (width : Nat) (borrowIn : Bool) :
    systemFlags (setSubFlags r lhs rhs result width borrowIn) = systemFlags r := by
  unfold setSubFlags
  simp only [systemFlags_of, systemFlags_result, systemFlags_af, systemFlags_cf]

/-- Nor those of `CMPXCHG`. -/
@[simp] theorem systemFlags_cmpxchg (r acc dst : U64) (width : Nat) (success : Bool) :
    systemFlags (setCmpxchgFlags r acc dst width success) = systemFlags r := by
  unfold setCmpxchgFlags
  simp only [systemFlags_of, systemFlags_sf, systemFlags_af, systemFlags_pf, systemFlags_zf,
    systemFlags_cf]

/-- The ALU group leaves the system flags. -/
theorem systemFlags_aluCompute (op : AluOp) (width : Nat) (rflags lhs rhs : U64) :
    systemFlags (aluCompute op width rflags lhs rhs).2 = systemFlags rflags := by
  cases op with
  | add => exact systemFlags_add ..
  | adc => exact systemFlags_add ..
  | sub => exact systemFlags_sub ..
  | sbb => exact systemFlags_sub ..
  | and => exact systemFlags_logic ..
  | or => exact systemFlags_logic ..
  | xor => exact systemFlags_logic ..

/-- So do `INC`, `DEC`, `NEG` and `NOT`. -/
theorem systemFlags_unaryCompute (op : UnaryOp) (width : Nat) (rflags lhs : U64) :
    systemFlags (unaryCompute op width rflags lhs).2 = systemFlags rflags := by
  cases op with
  | inc => exact (systemFlags_cf _ _).trans (systemFlags_add ..)
  | dec => exact (systemFlags_cf _ _).trans (systemFlags_sub ..)
  | neg => exact systemFlags_sub ..
  | not => rfl

/-- So do the shifts. -/
theorem systemFlags_shiftCompute (kind : ShiftKind) (width count : Nat) (rflags value : U64) :
    systemFlags (shiftCompute kind width count rflags value).2 = systemFlags rflags := by
  unfold shiftCompute
  dsimp only
  by_cases hcount : count = 0
  · rw [if_pos hcount]
  · rw [if_neg hcount]
    simp only [systemFlags_of, systemFlags_result, systemFlags_af, systemFlags_cf]

/-- So do the rotates. -/
theorem systemFlags_rotateCompute (left : Bool) (width masked : Nat) (writesOf : Bool)
    (rflags value : U64) :
    systemFlags (rotateCompute left width masked writesOf rflags value).2 =
      systemFlags rflags := by
  unfold rotateCompute
  dsimp only
  by_cases hcount : masked = 0
  · rw [if_pos hcount]
  · rw [if_neg hcount]
    cases writesOf with
    | true => exact (systemFlags_of _ _).trans (systemFlags_cf _ _)
    | false => exact systemFlags_cf _ _

/-- So do the rotates through the carry. -/
theorem systemFlags_rotateCarryCompute (left : Bool) (width raw : Nat) (rflags value : U64) :
    systemFlags (rotateCarryCompute left width raw rflags value).2 = systemFlags rflags := by
  unfold rotateCarryCompute
  dsimp only
  by_cases hcount : raw % (width * 8 + 1) = 0
  · rw [if_pos hcount]
  · rw [if_neg hcount]
    exact (systemFlags_of _ _).trans (systemFlags_cf _ _)

/-- So do `SHLD` and `SHRD`. -/
theorem systemFlags_doubleShiftCompute (op : DoubleShiftOp) (width raw : Nat)
    (rflags dst src : U64) :
    systemFlags (doubleShiftCompute op width raw rflags dst src).2 = systemFlags rflags := by
  unfold doubleShiftCompute
  dsimp only
  by_cases hcount : raw % (width * 8) = 0
  · rw [if_pos hcount]
  · rw [if_neg hcount]
    simp only [systemFlags_result, systemFlags_of, systemFlags_af, systemFlags_cf]

/-! ## Frames -/

/-- A relation that contains the updates of registers, `RIP`, mode and status
flags. -/
structure StateFrame (R : CpuState → CpuState → Prop) : Prop extends IsPath R where
  gpr : ∀ s i value, R s (s.setGpr i value)
  sreg : ∀ s i value, R s (s.setSreg i value)
  register : ∀ s reg value width, R s (writeRegister s reg value width)
  rip : ∀ (s : CpuState) value, R s { s with rip := value }
  mode : ∀ (s : CpuState) value, R s { s with mode := value }
  flags : ∀ (s : CpuState) value, systemFlags value = systemFlags s.rflags →
    R s { s with rflags := value }

/-- What these updates can do together. -/
inductive Ordinary : CpuState → CpuState → Prop
  | refl (s : CpuState) : Ordinary s s
  | trans {s t u : CpuState} (hst : Ordinary s t) (htu : Ordinary t u) : Ordinary s u
  | gpr (s : CpuState) (i : Fin 16) (value : U64) : Ordinary s (s.setGpr i value)
  | sreg (s : CpuState) (i : Fin 6) (value : BitVec 16) : Ordinary s (s.setSreg i value)
  | register (s : CpuState) (reg : Register) (value : U64) (width : Nat) :
      Ordinary s (writeRegister s reg value width)
  | rip (s : CpuState) (value : U64) : Ordinary s { s with rip := value }
  | mode (s : CpuState) (value : ExecutionMode) : Ordinary s { s with mode := value }
  | flags (s : CpuState) (value : U64) (h : systemFlags value = systemFlags s.rflags) :
      Ordinary s { s with rflags := value }

/-- They are the least frame. -/
theorem Ordinary.of_frame {R : CpuState → CpuState → Prop} (F : StateFrame R) {s t : CpuState}
    (h : Ordinary s t) : R s t := by
  induction h with
  | refl s => exact F.refl s
  | trans _ _ ih ih' => exact F.trans ih ih'
  | gpr s i value => exact F.gpr s i value
  | sreg s i value => exact F.sreg s i value
  | register s reg value width => exact F.register s reg value width
  | rip s value => exact F.rip s value
  | mode s value => exact F.mode s value
  | flags s value h => exact F.flags s value h

/-- A relation between contexts that contains pushes and control transfers. -/
structure PushFrame (R : ExecutionContext → ExecutionContext → Prop) : Prop extends IsPath R where
  stack : ∀ (c : ExecutionContext) value, R c { c with state := c.state.setRsp value }
  memory : ∀ (c : ExecutionContext) value, R c { c with memory := value }
  taken : ∀ c : ExecutionContext, R c { c with controlFlowTaken := true }

/-- One that contains all ordinary updates. -/
structure HandlerFrame (R : ExecutionContext → ExecutionContext → Prop) : Prop extends IsPath R where
  state : ∀ c s, Ordinary c.state s → R c { c with state := s }
  memory : ∀ (c : ExecutionContext) value, R c { c with memory := value }
  taken : ∀ c : ExecutionContext, R c { c with controlFlowTaken := true }

/-- A frame of handlers is one of pushes. -/
theorem HandlerFrame.push {R : ExecutionContext → ExecutionContext → Prop} (F : HandlerFrame R) :
    PushFrame R where
  refl := F.refl
  trans := F.trans
  stack c value := F.state c _ (.gpr c.state 4 value)
  memory := F.memory
  taken := F.taken

/-- The relation, between contexts. -/
def OnState (R : CpuState → CpuState → Prop) (c c' : ExecutionContext) : Prop := R c.state c'.state

/-- A frame of states is one of handlers. -/
theorem StateFrame.onState {R : CpuState → CpuState → Prop} (F : StateFrame R) :
    HandlerFrame (OnState R) where
  refl c := F.refl c.state
  trans h h' := F.trans h h'
  state _ _ h := h.of_frame F
  memory c _ := F.refl c.state
  taken c := F.refl c.state

namespace PushFrame

variable {R : ExecutionContext → ExecutionContext → Prop} {α : Type} (F : PushFrame R)
include F

theorem takeControlFlow : Moves R Seven.takeControlFlow := fun c => F.taken c

/-- What changes nothing. -/
theorem of_quiet {x : HandlerM α} (h : Quiet x) : Moves R x := .of_quiet F.toIsPath h

/-- One after the other. -/
theorem bind {β : Type} {x : HandlerM α} {f : α → HandlerM β} (hx : Moves R x)
    (hf : ∀ a, Moves R (f a)) : Moves R (x >>= f) := hx.bind F.toIsPath hf

/-- A part that looks at the context first. -/
theorem get_bind {f : ExecutionContext → HandlerM α} (hf : ∀ c, Moves R (f c)) :
    Moves R (get >>= f) := F.bind (F.of_quiet .get) hf

theorem pure (a : α) : Moves R (Pure.pure a : HandlerM α) := .pure F.toIsPath a

/-- A checked write, refused or not. -/
theorem writeMemoryChecked (address value : U64) (width : Nat) :
    Moves R (Seven.writeMemoryChecked address value width) := by
  intro c
  unfold MovesAt
  cases haccepts : c.memory.accepts address value width with
  | true =>
    rw [writeMemoryChecked_ok haccepts]
    exact F.memory c _
  | false =>
    rw [writeMemoryChecked_error haccepts]
    exact F.memory c _

/-- A push. -/
theorem pushSlot (widths : List Nat) {refuse : Handler} (hrefuse : Moves R refuse)
    (value : U64) (width : Nat) : Moves R (Seven.pushSlot widths refuse value width) := by
  refine F.bind (fun c => F.stack c _) fun _ => ?_
  refine Moves.ite ?_ hrefuse
  exact F.get_bind fun c => F.writeMemoryChecked _ _ _

theorem pushWidth (value : U64) (width : Nat) : Moves R (Seven.pushWidth value width) :=
  F.pushSlot _ (F.of_quiet (faultHere_quiet _ _)) value width

/-- Pushes. -/
theorem pushAllOf (widths : List Nat) {refuse : Handler} (hrefuse : Moves R refuse) :
    ∀ slots, Moves R (Seven.pushAllOf widths refuse slots)
  | [] => F.pure ()
  | (value, width) :: rest =>
    F.bind (F.pushSlot widths hrefuse value width) fun _ => pushAllOf widths hrefuse rest

/-- The part of an interrupt's delivery that can fail. -/
theorem pushFrame (vector : BitVec 8) (slots : List (U64 × Nat)) :
    Moves R (Seven.pushAllOf [2, 4, 8] (gpFault vector) slots) :=
  F.pushAllOf _ (F.of_quiet (faultHere_quiet _ _)) slots

/-- The dispatch of an interrupt, where entering a gate is in the frame. -/
theorem dispatchInterrupt
    (hgate : ∀ gate (c : ExecutionContext), R c { c with state := enterGate gate c.state })
    (vector : BitVec 8) (returnRip : U64) (errorCode : Option (BitVec 32)) (pushRf : Bool) :
    Moves R (Seven.dispatchInterrupt vector returnRip errorCode pushRf) :=
  F.bind (F.of_quiet (readGate_quiet vector)) fun gate => F.get_bind fun _ =>
    F.bind (F.pushFrame vector _) fun _ => F.bind (fun c => hgate gate c) fun _ => F.takeControlFlow

/-- A failed delivery has not entered the gate. -/
theorem dispatchInterrupt_fails (vector : BitVec 8) (returnRip : U64)
    (errorCode : Option (BitVec 32)) (pushRf : Bool) :
    FailsAlong R (Seven.dispatchInterrupt vector returnRip errorCode pushRf) := by
  refine FailsAlong.bind F.toIsPath (F.of_quiet (readGate_quiet vector)) fun gate => ?_
  refine FailsAlong.bind F.toIsPath (F.of_quiet .get) fun _ => ?_
  refine FailsAlong.bind_total (F.pushFrame vector _).failsAlong fun _ => ?_
  exact (modifyState_total _).bind fun _ => takeControlFlow_total

end PushFrame

namespace HandlerFrame

variable {R : ExecutionContext → ExecutionContext → Prop} {α : Type} (F : HandlerFrame R)
include F

/-- An ordinary change of the state. -/
theorem modifyState {f : CpuState → CpuState} (h : ∀ s, Ordinary s (f s)) :
    Moves R (Seven.modifyState f) := fun c => F.state c _ (h c.state)

/-- A write to an operand. -/
theorem writeOperand (c : ExecutionContext) (operandIndex : Nat) (value : U64) (width : Nat) :
    R c (Seven.writeOperand c operandIndex value width).1 := by
  unfold Seven.writeOperand
  split
  next => exact F.state c _ (.register ..)
  next => exact F.memory c _
  next => exact F.refl c

/-- A checked write to an operand. -/
theorem writeOperandChecked (operandIndex : Nat) (value : U64) (width : Nat) :
    Moves R (Seven.writeOperandChecked operandIndex value width) := by
  intro c
  unfold MovesAt
  have hwrite := F.writeOperand c operandIndex value width
  cases haccepts : operandAccepts c operandIndex value width with
  | true =>
    rw [writeOperandChecked_ok haccepts]
    exact hwrite
  | false =>
    obtain ⟨r, c', herror, _, _, hc'⟩ := writeOperandChecked_error haccepts
    rw [herror, hc']
    exact hwrite

/-! ### Stack -/

/-- A pop. -/
theorem popWidth (width : Nat) : Moves R (Seven.popWidth width) := by
  unfold Seven.popWidth
  refine Moves.ite ?_ (F.push.of_quiet (faultHere_quiet _ _))
  refine F.push.get_bind fun c =>
    F.push.bind (F.push.of_quiet (readMemoryChecked_quiet _ _)) fun value => ?_
  exact F.push.bind (F.modifyState fun s => .gpr s 4 _) fun _ => F.push.pure value

theorem jumpTo (target : U64) : Moves R (Seven.jumpTo target) :=
  F.push.bind (F.modifyState fun s => .rip s _) fun _ => F.push.takeControlFlow

theorem farJumpTo (mode : ExecutionMode) (selector : BitVec 16) (target : U64) :
    Moves R (Seven.farJumpTo mode selector target) :=
  F.push.bind (F.modifyState fun s =>
    .trans (.trans (.mode s mode) (.sreg _ 1 selector)) (.rip _ target)) fun _ =>
      F.push.takeControlFlow

theorem callRmWidth (width : Nat) : Moves R (Seven.callRmWidth width) :=
  F.push.bind (F.push.of_quiet (readNearTargetWidth_quiet width)) fun target =>
    F.push.get_bind fun c => F.push.bind (F.push.pushWidth c.nextRip width) fun _ => F.jumpTo target

theorem retWidth (width : Nat) (withImm : Bool) :
    Moves R (Seven.retWidth width withImm) := by
  refine F.push.bind (F.popWidth width) fun target => F.push.get_bind fun c => ?_
  refine F.push.bind (F.modifyState fun s => ?_) fun _ => F.push.takeControlFlow
  exact .trans (.rip s _) (.gpr _ 4 _)

theorem retfWidth (offsetWidth : Nat) (withImm : Bool) :
    Moves R (Seven.retfWidth offsetWidth withImm) := by
  refine F.push.bind (F.popWidth offsetWidth) fun target => F.push.bind (F.popWidth 2) fun selector =>
    F.push.get_bind fun c => F.push.bind (F.modifyState fun s => ?_) fun _ => F.push.takeControlFlow
  exact .trans (.trans (.trans (.mode s _) (.sreg _ 1 _)) (.rip _ _)) (.gpr _ 4 _)

end HandlerFrame

/-! ## The stack instructions -/

/-- The updates of the exceptions, where the shape makes one. -/
def StackShape.Contained (R : ExecutionContext → ExecutionContext → Prop) : StackShape → Prop
  | .popOperand width => ∀ oldSp, Moves R (notePopSs oldSp width.bytes)
  | .popfq => ∀ (c : ExecutionContext) value,
      R c { c with state := { c.state with rflags := popfqFlags c.state.rflags value } }
  | .iret width => ∀ (c : ExecutionContext) value,
      R c { c with state := { c.state with rflags := iretFlags c.state.rflags value width.bytes } }
  | .int _ | .into => ∀ gate (c : ExecutionContext), R c { c with state := enterGate gate c.state }
  | _ => True

section

variable {R : ExecutionContext → ExecutionContext → Prop}

/-- `POPFQ`, where its flags are in the frame. -/
theorem HandlerFrame.popfq (F : HandlerFrame R) (h : StackShape.popfq.Contained R) :
    Moves R handlePopfq := by
  refine F.push.get_bind fun _ => F.push.bind (F.push.of_quiet (readMemoryChecked_quiet _ _)) fun value c => ?_
  exact F.trans (h c value)
    (F.state { c with state := { c.state with rflags := popfqFlags c.state.rflags value } } _
      (.gpr _ 4 _))

/-- `IRET`, where its flags are in the frame. -/
theorem HandlerFrame.iretWidth (F : HandlerFrame R) {width : StackWidth}
    (h : (StackShape.iret width).Contained R) :
    Moves R (Seven.iretWidth width.bytes width.bytes) := by
  refine F.push.bind (F.popWidth _) fun target => F.push.bind (F.popWidth 2) fun selector =>
    F.push.bind (F.popWidth _) fun flags => F.push.bind (fun c => ?_) fun _ => F.push.takeControlFlow
  have hgo : Ordinary c.state
      { { c.state with mode := modeForFarWidth width.bytes }.setSreg 1 (selector.setWidth 16) with
        rip := maskInstructionPointer
          ({ c.state with mode := modeForFarWidth width.bytes }.setSreg 1 (selector.setWidth 16))
          target } :=
    .trans (.trans (.mode c.state _) (.sreg _ 1 _)) (.rip _ _)
  exact F.trans (F.state c _ hgo) (h { c with state := _ } flags)

/-- **The stack instructions move along a frame** that contains what the
exceptions among them do. -/
theorem StackShape.moves (F : HandlerFrame R) (shape : StackShape) (h : shape.Contained R) :
    Moves R shape.handler := by
  -- Each shape is a chain of steps the frame contains; what is special to one is its hypothesis.
  cases shape with
  | pushOperand w =>
    exact F.push.bind (F.push.of_quiet (readOperandChecked_quiet _ _)) fun value => F.push.pushWidth value _
  | pushImm i w sx =>
    exact F.push.bind (F.push.of_quiet (readOperandChecked_quiet _ _)) fun value => F.push.pushWidth _ _
  | pushSegment i w =>
    show Moves R (Seven.pushSegment i w.bytes)
    unfold Seven.pushSegment
    rw [dif_pos i.isLt]
    exact F.push.get_bind fun c => F.push.pushWidth _ _
  | pushFlags w => exact F.push.get_bind fun c => F.push.pushWidth _ _
  | pushAll w =>
    exact F.push.get_bind fun c => F.push.pushAllOf _ (F.push.of_quiet (faultHere_quiet _ _)) _
  | popOperand w =>
    exact F.push.get_bind fun _ => F.push.bind (F.popWidth _) fun value =>
      F.push.bind (F.writeOperandChecked 0 value _) fun _ => h _
  | popfq => exact F.popfq h
  | callRm w => exact F.callRmWidth w.bytes
  | callRm32 =>
    refine F.push.get_bind fun c => ?_
    exact Moves.ite (F.callRmWidth 8) (F.callRmWidth 4)
  | callRel w =>
    exact F.push.get_bind fun c => F.push.bind (F.push.pushWidth _ _) fun _ => F.jumpTo _
  | callFarMem w =>
    refine F.push.bind (F.push.of_quiet (readFarMem_quiet _)) fun target => F.push.get_bind fun c => ?_
    exact F.push.bind (F.push.pushAllOf _ (F.push.of_quiet (faultHere_quiet _ _)) _) fun _ => F.farJumpTo _ _ _
  | callFarPtr w =>
    exact F.push.get_bind fun c => F.push.bind (F.push.pushAllOf _ (F.push.of_quiet (faultHere_quiet _ _)) _)
      fun _ => F.farJumpTo _ _ _
  | ret w withImm => exact F.retWidth w.bytes withImm
  | retf w withImm => exact F.retfWidth w.bytes withImm
  | iret w => exact F.iretWidth h
  | int vector => exact F.push.get_bind fun c => F.push.dispatchInterrupt h _ _ _ _
  | into =>
    refine F.push.get_bind fun c => ?_
    exact Moves.ite (F.push.dispatchInterrupt h _ _ _ _) (F.push.pure ())

/-- **They fail along every frame.** -/
theorem StackShape.failsAlong (F : HandlerFrame R) (shape : StackShape) :
    FailsAlong R shape.handler := by
  have hother : shape.Contained R → FailsAlong R shape.handler :=
    fun h => (shape.moves F h).failsAlong
  -- The shapes that note or load something after their last access do it only where they succeed.
  cases shape with
  | popOperand w =>
    refine FailsAlong.bind F.toIsPath (F.push.of_quiet .get) fun c => ?_
    refine FailsAlong.bind F.toIsPath (F.popWidth _) fun value => ?_
    exact FailsAlong.bind_total (F.writeOperandChecked _ _ _).failsAlong fun _ =>
      notePopSs_total _ _
  | popfq =>
    refine FailsAlong.bind F.toIsPath (F.push.of_quiet .get) fun c => ?_
    exact FailsAlong.bind_total (F.push.of_quiet (readMemoryChecked_quiet _ _)).failsAlong fun _ =>
      modifyState_total _
  | iret w =>
    refine FailsAlong.bind F.toIsPath (F.popWidth _) fun target => ?_
    refine FailsAlong.bind F.toIsPath (F.popWidth _) fun selector => ?_
    exact FailsAlong.bind_total (F.popWidth _).failsAlong fun flags =>
      (modifyState_total _).bind fun _ => takeControlFlow_total
  | int vector =>
    exact FailsAlong.bind F.toIsPath (F.push.of_quiet .get) fun c => F.push.dispatchInterrupt_fails _ _ _ _
  | into =>
    refine FailsAlong.bind F.toIsPath (F.push.of_quiet .get) fun c => ?_
    by_cases hof : flagSet c.state.rflags kFlagOF = true
    · rw [if_pos hof]
      exact F.push.dispatchInterrupt_fails _ _ _ _
    · rw [if_neg hof]
      exact (F.push.pure ()).failsAlong
  | _ => exact hother trivial

/-! ## Read-modify-write instructions -/

namespace HandlerFrame

variable (F : HandlerFrame R)
include F

/-- The flags and a destination. -/
theorem flagsThenWriteAt {c : ExecutionContext} {width : Nat} {out : U64 × U64}
    (hout : systemFlags out.2 = systemFlags c.state.rflags) :
    MovesAt R (flagsThenWrite width out) c := by
  unfold flagsThenWrite
  have hset : MovesAt R (Seven.modifyState fun s => setFlags s out.2) c :=
    F.state c _ (.flags c.state out.2 hout)
  exact hset.bind F.toIsPath fun _ => F.writeOperandChecked 0 out.1 width

/-- Read, compute, write. -/
theorem rmwOperand {width : Nat} {compute : ExecutionContext → U64 → U64 × U64}
    (h : ∀ c lhs, systemFlags (compute c lhs).2 = systemFlags c.state.rflags) :
    Moves R (Seven.rmwOperand width compute) := by
  refine F.push.bind (F.push.of_quiet (readOperandChecked_quiet 0 width)) fun lhs => ?_
  exact Moves.get_bind fun c => F.flagsThenWriteAt (h c lhs)

/-- An update of the flags behind the last step that can fail. -/
theorem setFlags {f : U64 → U64} (h : ∀ r, systemFlags (f r) = systemFlags r) :
    Moves R (Seven.modifyState fun s => Seven.setFlags s (f s.rflags)) :=
  F.modifyState fun s => .flags s _ (h s.rflags)

/-- `CMPXCHG`. -/
theorem compareExchange (width : RmWidth) {flags : U64 → U64 → U64 → Bool → U64}
    (h : ∀ r acc dst success, systemFlags (flags r acc dst success) = systemFlags r) :
    Moves R (Seven.compareExchange width flags) := by
  refine F.push.bind (F.push.of_quiet (readOperandChecked_quiet _ _)) fun lhs => F.push.get_bind fun c => ?_
  dsimp only
  split
  next => exact F.push.bind (F.writeOperandChecked _ _ _) fun _ => F.setFlags fun r => h r _ _ _
  next =>
    exact F.modifyState fun s =>
      .trans (.register s _ _ _) (.flags _ _ (h _ _ _ _))

/-- The bit instructions. -/
theorem handleBit (op : BitOp) (width : RmWideWidth) (source : BitIndexSource) :
    Moves R (Seven.handleBit op width source) := by
  refine F.push.get_bind fun c => ?_
  dsimp only
  split
  next =>
    exact F.push.bind (F.push.of_quiet (readMemoryChecked_quiet _ _)) fun value =>
      F.push.bind (F.push.writeMemoryChecked _ _ _) fun _ => F.setFlags fun r => systemFlags_cf r _
  next =>
    exact F.push.bind (F.push.of_quiet (readOperandChecked_quiet _ _)) fun value =>
      F.push.bind (F.writeOperandChecked _ _ _) fun _ => F.setFlags fun r => systemFlags_cf r _

/-- The shift group. -/
theorem handleShift (op : ShiftOp) (width : RmWidth) (source : ShiftCountSource) :
    Moves R (Seven.handleShift op width source) := by
  have hshift (kind : ShiftKind) : Moves R (shiftRm width.bytes kind source) :=
    F.rmwOperand fun c lhs => systemFlags_shiftCompute _ _ _ _ _
  have hrotate (left : Bool) : Moves R (rotate left width.bytes source) :=
    F.rmwOperand fun c lhs => systemFlags_rotateCompute _ _ _ _ _ _
  have hcarry (left : Bool) : Moves R (rotateCarry left width.bytes source) :=
    F.rmwOperand fun c lhs => systemFlags_rotateCarryCompute _ _ _ _ _
  cases op with
  | shl => exact hshift .left
  | sal => exact hshift .left
  | shr => exact hshift .logicalRight
  | sar => exact hshift .arithmeticRight
  | rol => exact hrotate true
  | ror => exact hrotate false
  | rcl => exact hcarry true
  | rcr => exact hcarry false

end HandlerFrame

/-- **The read-modify-write instructions move along every frame.** -/
theorem RmwCode.moves (F : HandlerFrame R) (code : RmwCode) : Moves R code.handler := by
  -- Every code computes status flags and writes one operand, or two.
  cases code with
  | alu op form =>
    refine F.push.bind (F.push.of_quiet (readOperandChecked_quiet _ _)) fun lhs =>
      F.push.bind (F.push.of_quiet (aluSource_quiet form)) fun rhs => Moves.get_bind fun c => ?_
    exact F.flagsThenWriteAt (systemFlags_aluCompute _ _ _ _ _)
  | unary op width => exact F.rmwOperand fun c lhs => systemFlags_unaryCompute _ _ _ _
  | shift op width source => exact F.handleShift op width source
  | doubleShift op width source =>
    exact F.rmwOperand fun c lhs => systemFlags_doubleShiftCompute _ _ _ _ _ _
  | xadd width =>
    refine F.push.bind (F.push.of_quiet (readOperandChecked_quiet _ _)) fun lhs => Moves.get_bind fun c => ?_
    exact (F.flagsThenWriteAt (systemFlags_add ..)).bind F.toIsPath fun _ =>
      F.writeOperandChecked 1 lhs _
  | cmpxchg width =>
    unfold RmwCode.handler handleCmpxchg
    exact F.compareExchange width fun r acc dst success =>
      systemFlags_cmpxchg r acc dst width.bytes success
  | cmpxchg486 width =>
    unfold RmwCode.handler handleCmpxchg486
    exact F.compareExchange _ fun r _ _ success => systemFlags_zf r success
  | bit op width source => exact F.handleBit op width source

/-! ## String instructions -/

namespace HandlerFrame

variable (F : HandlerFrame R)
include F

omit F in
/-- The pointers saved are ordinary. -/
theorem savePointers (op : StringOp) (rep : Bool) (p : StringPointers) (remaining : Nat)
    (s : CpuState) : Ordinary s (Seven.savePointers op rep p remaining s) := by
  have hif (b : Bool) (i : Fin 16) (value : U64) (s : CpuState) :
      Ordinary s (if b then s.setGpr i value else s) := by
    cases b with
    | true => exact .gpr s i value
    | false => exact .refl s
  exact .trans (.trans (hif op.usesRsi 6 p.rsi s) (hif op.usesRdi 7 p.rdi _)) (hif rep 1 _ _)

theorem compareElements (width : Nat) (lhs rhs : U64) :
    Moves R (Seven.compareElements width lhs rhs) :=
  F.modifyState fun s => .flags s _ (systemFlags_sub ..)

theorem readHits (address : U64) (width : Nat) : Moves R (Seven.readHits address width) :=
  F.push.get_bind fun _ => F.push.pure _

theorem writeHits (address : U64) (width : Nat) :
    Moves R (Seven.writeHits address width) := F.push.get_bind fun _ => F.push.pure _

/-- One element. -/
theorem stringElement (op : StringOp) (width : Nat) (p : StringPointers) :
    Moves R (Seven.stringElement op width p) := by
  have hread (address : U64) : Moves R (Seven.readMemoryChecked address width) :=
    F.push.of_quiet (readMemoryChecked_quiet _ _)
  cases op with
  | movs =>
    exact F.push.bind (hread _) fun value => F.push.bind (F.push.writeMemoryChecked _ _ _) fun _ =>
      F.push.bind (F.readHits _ _) fun _ => F.push.bind (F.writeHits _ _) fun _ => F.push.pure _
  | stos =>
    exact F.push.get_bind fun c => F.push.bind (F.push.writeMemoryChecked _ _ _) fun _ => F.writeHits _ _
  | lods =>
    exact F.push.bind (hread _) fun value =>
      F.push.bind (F.modifyState fun s => .register s _ _ _) fun _ => F.readHits _ _
  | cmps =>
    exact F.push.bind (hread _) fun lhs => F.push.bind (hread _) fun rhs =>
      F.push.bind (F.compareElements _ _ _) fun _ => F.push.bind (F.readHits _ _) fun _ =>
        F.push.bind (F.readHits _ _) fun _ => F.push.pure _
  | scas =>
    exact F.push.get_bind fun c => F.push.bind (hread _) fun rhs =>
      F.push.bind (F.compareElements _ _ _) fun _ => F.readHits _ _

/-- The loop, where noting a breakpoint is in the frame. -/
theorem stringLoop (hbreak : ∀ c hits goOn, R c (noteDebugBreak c hits goOn).1) (op : StringOp)
    (width : Nat) (rep repne df : Bool) :
    ∀ remaining p, Moves R (Seven.stringLoop op width rep repne df remaining p)
  | 0, _ => F.push.pure ()
  | remaining + 1, p => by
    intro c
    have helement := F.stringElement op width p c
    unfold MovesAt at helement ⊢
    unfold Seven.stringLoop
    cases hrun : Seven.stringElement op width p c with
    | error r c' =>
      rw [hrun] at helement
      exact F.trans helement (F.state c' _ (savePointers _ _ _ _ _))
    | ok hits c' =>
      rw [hrun] at helement
      have hstep := F.trans helement
        (hbreak c' hits (continueLoop op rep repne remaining c'.state.rflags))
      dsimp only
      split
      next => exact F.trans hstep (F.state _ _ (savePointers _ _ _ _ _))
      next => exact F.trans hstep (stringLoop hbreak op width rep repne df remaining _ _)

end HandlerFrame

/-- **The string instructions move along a frame** that contains the note of
a hit. -/
theorem stringImpl_moves (F : HandlerFrame R)
    (hbreak : ∀ c hits goOn, R c (noteDebugBreak c hits goOn).1) (op : StringOp) (width : Nat) :
    Moves R (stringImpl op width) := fun c => F.stringLoop hbreak op width _ _ _ _ _ c

end

end Seven
