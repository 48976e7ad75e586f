import Seven.Handlers.X87Codes
import Seven.Handlers.StateFrame

/-!
# The x87 stack across the handlers

Every x87 and MMX handler keeps the stack well formed, whether it succeeds or
fails (`X87Code.keepsStack`): its updates of the state are the operations of
`CpuState`, updates of other fields, and stores. A push or a pop that is
refused leaves registers, tags and TOP as they are, whatever the exception it
raises does (`pushOr_refused`, `popOrUnderflow_refused`).
-/

namespace Seven

open Seven.Lib

/-- A well-formed stack stays well formed. -/
def KeepsX87 (s t : CpuState) : Prop := X87WellFormed s → X87WellFormed t

/-- The stack is another field. -/
theorem keepsX87_of_same {s t : CpuState} (htop : t.x87Top = s.x87Top)
    (hsw : t.x87StatusWord = s.x87StatusWord) (htags : t.x87Tags = s.x87Tags) : KeepsX87 s t := by
  intro h
  refine ⟨htop ▸ h.top_lt, ?_, fun i => ?_⟩
  · rw [htop, hsw]
    exact h.top_eq
  · rw [htags]
    exact h.tags i

/-- Keeping the stack well formed is a frame. -/
theorem keepsX87_frame : StateFrame KeepsX87 where
  refl _ := id
  trans h h' hs := h' (h hs)
  gpr _ _ _ := keepsX87_of_same rfl rfl rfl
  sreg _ _ _ := keepsX87_of_same rfl rfl rfl
  register s reg value width := by
    cases reg with
    | mm i => exact fun h => ⟨h.top_lt, h.top_eq, (h.setX87Register i 0#80 (Or.inl rfl)).tags⟩
    | _ => exact keepsX87_of_same rfl rfl rfl
  rip _ _ := keepsX87_of_same rfl rfl rfl
  mode _ _ := keepsX87_of_same rfl rfl rfl
  flags _ _ _ := keepsX87_of_same rfl rfl rfl

/-- Every run of the computation keeps the stack well formed. -/
abbrev KeepsStack {α : Type} (x : HandlerM α) : Prop := Moves (OnState KeepsX87) x

namespace KeepsStack

variable {α β : Type}

/-- A value. -/
theorem pure (a : α) : KeepsStack (Pure.pure a : HandlerM α) := keepsX87_frame.onState.push.pure a

/-- What changes nothing. -/
theorem of_quiet {x : HandlerM α} (h : Quiet x) : KeepsStack x :=
  keepsX87_frame.onState.push.of_quiet h

/-- One after the other. -/
theorem bind {x : HandlerM α} {f : α → HandlerM β} (hx : KeepsStack x)
    (hf : ∀ a, KeepsStack (f a)) : KeepsStack (x >>= f) := keepsX87_frame.onState.push.bind hx hf

/-- Either branch. -/
theorem ite {c : Prop} [Decidable c] {x y : HandlerM α} (hx : KeepsStack x) (hy : KeepsStack y) :
    KeepsStack (if c then x else y) := Moves.ite hx hy

/-- A part that looks at the context first. -/
theorem get_bind {f : ExecutionContext → HandlerM α} (hf : ∀ c, KeepsStack (f c)) :
    KeepsStack (get >>= f) := keepsX87_frame.onState.push.get_bind hf

/-- The states a run may be in are well formed, so a function of the state
need only keep those. -/
theorem modifyState {f : CpuState → CpuState} (h : ∀ s, X87WellFormed s → X87WellFormed (f s)) :
    KeepsStack (Seven.modifyState f) := fun c => h c.state

theorem memoryFault (address : U64) : KeepsStack (Seven.memoryFault address : HandlerM α) :=
  fun _ => id

theorem faultHere (reason : StopReason) (errorCode : BitVec 32) :
    KeepsStack (Seven.faultHere reason errorCode : HandlerM α) := fun _ => id

theorem readMemoryChecked (address : U64) (width : Nat) :
    KeepsStack (Seven.readMemoryChecked address width) := of_quiet (readMemoryChecked_quiet _ _)

/-- A checked write. -/
theorem writeMemoryChecked (address value : U64) (width : Nat) :
    KeepsStack (Seven.writeMemoryChecked address value width) :=
  keepsX87_frame.onState.push.writeMemoryChecked address value width

theorem readOperandChecked (operandIndex width : Nat) :
    KeepsStack (Seven.readOperandChecked operandIndex width) :=
  of_quiet (readOperandChecked_quiet _ _)

end KeepsStack

/-! ## Exceptions -/

/-- An exception leaves the top. -/
theorem topBits_x87ExceptionStatus (s : CpuState) (exceptions : BitVec 16) :
    topBits (x87ExceptionStatus s exceptions) = topBits s.x87StatusWord := by
  have hin (mask : BitVec 16) (hmask : mask &&& 0x3800#16 = 0#16) :
      exceptions &&& mask &&& 0x3800#16 = 0#16 := by
    rw [BitVec.and_assoc, hmask, BitVec.and_zero]
  have hsw : topBits (s.x87StatusWord ||| (exceptions &&& kX87ExceptionMask) |||
      (exceptions &&& kX87ExceptionStackFault)) = topBits s.x87StatusWord := by
    rw [topBits_or (hin _ (by decide)), topBits_or (hin _ (by decide))]
  unfold x87ExceptionStatus
  dsimp only
  split
  · exact hsw
  · rw [topBits_or (by decide)]
    exact hsw

/-- The state with the exceptions in its status word. -/
def CpuState.x87Raised (s : CpuState) (exceptions : BitVec 16) : CpuState :=
  s.setX87StatusWord (x87ExceptionStatus s exceptions)

/-- An exception that is masked only leaves its flags. -/
theorem x87Exception_masked {exceptions : BitVec 16} {ctx : ExecutionContext}
    (h : x87ExceptionsMasked ctx.state exceptions = true) :
    x87Exception exceptions ctx =
      .ok () { ctx with state := ctx.state.x87Raised exceptions } := by
  have hget : (get : HandlerM ExecutionContext) ctx = .ok ctx ctx := rfl
  unfold x87Exception
  rw [bind_ok hget, h]
  rfl

/-- Registers, tags and TOP of a well-formed stack stay as they are. -/
def KeepsRegisters (s t : CpuState) : Prop :=
  X87WellFormed s → X87WellFormed t ∧ SameX87Registers s t

/-- Keeping the registers composes. -/
theorem keepsRegisters_isPath : IsPath (OnState KeepsRegisters) where
  refl _ h := ⟨h, rfl, rfl, rfl⟩
  trans h h' hs := ⟨(h' (h hs).1).1, (h hs).2.trans (h' (h hs).1).2⟩

/-- Status bits other than the top. -/
theorem modifyState_statusWord {f : CpuState → BitVec 16}
    (h : ∀ s, topBits (f s) = topBits s.x87StatusWord) :
    Moves (OnState KeepsRegisters) (modifyState fun s => s.setX87StatusWord (f s)) :=
  fun c hs => ⟨hs.setX87StatusWord _, hs.sameRegisters_setX87StatusWord (h c.state)⟩

/-- An exception changes the status word, but for TOP. -/
theorem x87Exception_keepsRegisters (exceptions : BitVec 16) :
    Moves (OnState KeepsRegisters) (x87Exception exceptions) := by
  have hR := keepsRegisters_isPath
  refine Moves.bind hR (Moves.of_quiet hR .get) fun c => Moves.bind hR ?_ fun _ => ?_
  · exact modifyState_statusWord fun s => topBits_x87ExceptionStatus s exceptions
  · split
    · exact Moves.pure hR ()
    · exact Moves.of_quiet hR (faultHere_quiet _ _)

/-- An underflow leaves the registers. -/
theorem x87StackUnderflow_keepsRegisters : Moves (OnState KeepsRegisters) x87StackUnderflow :=
  Moves.bind keepsRegisters_isPath (modifyState_statusWord fun _ => topBits_and (by decide))
    fun _ => x87Exception_keepsRegisters _

/-- An overflow leaves the registers. -/
theorem x87StackOverflow_keepsRegisters : Moves (OnState KeepsRegisters) x87StackOverflow :=
  Moves.bind keepsRegisters_isPath (modifyState_statusWord fun _ => topBits_or (by decide))
    fun _ => x87Exception_keepsRegisters _

/-- What leaves the registers keeps the stack. -/
theorem KeepsStack.of_registers {α : Type} {x : HandlerM α}
    (h : Moves (OnState KeepsRegisters) x) : KeepsStack x := h.mono fun _ _ h hs => (h hs).1

/-- An exception, masked or not. -/
theorem x87Exception_keepsStack (exceptions : BitVec 16) : KeepsStack (x87Exception exceptions) :=
  .of_registers (x87Exception_keepsRegisters exceptions)

theorem x87StackUnderflow_keepsStack : KeepsStack x87StackUnderflow :=
  .of_registers x87StackUnderflow_keepsRegisters

theorem x87ExceptionIfAny_keepsStack (exceptions : BitVec 16) :
    KeepsStack (x87ExceptionIfAny exceptions) := by
  unfold x87ExceptionIfAny
  split
  · exact x87Exception_keepsStack exceptions
  · exact .pure ()

theorem operandFault_keepsStack {α : Type} : KeepsStack (operandFault : HandlerM α) :=
  .get_bind fun _ => .memoryFault _

/-! ## Pushes and pops -/

/-- What the handlers do when a push is refused. -/
inductive PushRefusal : Handler → Prop
  | overflow : PushRefusal x87StackOverflow
  | invalid : PushRefusal (x87Exception kX87ExceptionInvalid)
  | fault : PushRefusal operandFault

/-- A refused push leaves the registers. -/
theorem PushRefusal.keepsRegisters {refuse : Handler} (h : PushRefusal refuse) :
    Moves (OnState KeepsRegisters) refuse := by
  cases h with
  | overflow => exact x87StackOverflow_keepsRegisters
  | invalid => exact x87Exception_keepsRegisters _
  | fault => exact fun _ hs => ⟨hs, rfl, rfl, rfl⟩

section

variable (F : SoftFloat)

/-- And the state. -/
theorem x87Push_refused {s : CpuState} {value : Float80} (h : (s.x87Push F value).1 = false) :
    (s.x87Push F value).2 = s := by
  unfold CpuState.x87Push at h ⊢
  dsimp only at h ⊢
  by_cases htag : s.x87Tags (Fin.ofNat 8 ((s.x87Top + 7#8) &&& 0x7#8).toNat) ≠ kX87TagEmpty
  · rw [if_pos htag]
  · rw [if_neg htag] at h
    cases h

/-- So does a refused pop. -/
theorem x87Pop_refused {s : CpuState} (h : s.x87Pop.1 = false) : s.x87Pop.2 = s := by
  unfold CpuState.x87Pop at h ⊢
  dsimp only at h ⊢
  by_cases htag : s.x87Tags (Fin.ofNat 8 s.x87Top.toNat) = kX87TagEmpty
  · rw [if_pos htag]
  · rw [if_neg htag] at h
    cases h

/-- **A push that is refused** changes no register, no tag and not TOP. -/
theorem pushOr_refused {refuse : Handler} (hrefuse : PushRefusal refuse) {value : Float80}
    {ctx : ExecutionContext} (hs : X87WellFormed ctx.state)
    (h : (ctx.state.x87Push F value).1 = false) :
    SameX87Registers ctx.state (finalState (pushOr F refuse value ctx)).state := by
  have hrun : pushOr F refuse value ctx = refuse ctx := by
    unfold pushOr
    rw [show ctx.state.x87Push F value = (false, ctx.state) from
      Prod.ext h (x87Push_refused F h)]
    rfl
  rw [hrun]
  exact (hrefuse.keepsRegisters ctx hs).2

/-- **A pop that is refused**, likewise. -/
theorem popOrUnderflow_refused {ctx : ExecutionContext} (hs : X87WellFormed ctx.state)
    (h : ctx.state.x87Pop.1 = false) :
    SameX87Registers ctx.state (finalState (popOrUnderflow ctx)).state := by
  have hrun : popOrUnderflow ctx = x87StackUnderflow ctx := by
    unfold popOrUnderflow
    rw [show ctx.state.x87Pop = (false, ctx.state) from Prod.ext h (x87Pop_refused h)]
    rfl
  rw [hrun]
  exact (x87StackUnderflow_keepsRegisters ctx hs).2

/-- A push, or its refusal. -/
theorem pushOr_keepsStack {refuse : Handler} (hrefuse : PushRefusal refuse) (value : Float80) :
    KeepsStack (pushOr F refuse value) := by
  intro ctx hs
  have hpush := hs.x87Push F value
  unfold pushOr
  cases hrun : ctx.state.x87Push F value with
  | mk pushed s =>
    rw [hrun] at hpush
    cases pushed with
    | true => exact hpush
    | false => exact (hrefuse.keepsRegisters { ctx with state := s } hpush).1

/-- A pop, or the underflow. -/
theorem popOrUnderflow_keepsStack : KeepsStack popOrUnderflow := by
  intro ctx hs
  have hpop := hs.x87Pop
  unfold popOrUnderflow
  cases hrun : ctx.state.x87Pop with
  | mk popped s =>
    rw [hrun] at hpop
    cases popped with
    | true => exact hpop
    | false => exact (x87StackUnderflow_keepsRegisters { ctx with state := s } hpop).1

theorem popIf_keepsStack (pop : Bool) : KeepsStack (popIf pop) := by
  cases pop with
  | true => exact popOrUnderflow_keepsStack
  | false => exact .pure ()

/-- A register set. -/
theorem x87Set_keepsStack (stIndex : Nat) (value : CpuState → Float80) :
    KeepsStack (modifyState fun s => s.x87Set F stIndex (value s)) :=
  .modifyState fun _ hs => hs.x87Set F _ _

/-! ## Operands -/

theorem readOperandMemory_keepsStack (width : Nat) : KeepsStack (readOperandMemory width) :=
  .get_bind fun _ => .readMemoryChecked _ _

theorem readReal_keepsStack (width : Nat) : KeepsStack (readReal F width) := by
  unfold readReal
  refine .ite (.bind (readOperandMemory_keepsStack 4) fun _ => .pure _) (.ite ?_ ?_)
  · exact .bind (readOperandMemory_keepsStack 8) fun _ => .pure _
  · exact operandFault_keepsStack

theorem readInteger_keepsStack (width : Nat) : KeepsStack (readInteger F width) := by
  unfold readInteger
  refine .ite (.bind (readOperandMemory_keepsStack 2) fun _ => .pure _) (.ite ?_ (.ite ?_ ?_))
  · exact .bind (readOperandMemory_keepsStack 4) fun _ => .pure _
  · exact .bind (readOperandMemory_keepsStack 8) fun _ => .pure _
  · exact operandFault_keepsStack

theorem readExt80_keepsStack : KeepsStack readExt80 := by
  refine .of_quiet fun ctx => ?_
  unfold readExt80
  dsimp only
  cases ctx.memory.read (memoryAddress ctx.state ctx.instr) 10 .dataRead with
  | some raw => exact Or.inl ⟨_, rfl⟩
  | none => exact Or.inr ⟨_, rfl⟩

/-- A store byte by byte. -/
theorem storeBytesChecked_keepsStack (base : U64) :
    ∀ (i : Nat) (bytes : List Byte), KeepsStack (storeBytesChecked base i bytes)
  | _, [] => .pure ()
  | i, _ :: bytes =>
    .bind (.writeMemoryChecked _ _ _) fun _ => storeBytesChecked_keepsStack base (i + 1) bytes

/-! ## Arithmetic -/

/-- The arithmetic at a register. -/
theorem x87BinaryAt_keepsStack (stIndex : Nat) (lhs rhs : Float80) (fn : X87Binary) :
    KeepsStack (x87BinaryAt F stIndex lhs rhs fn) :=
  .bind (x87ExceptionIfAny_keepsStack _) fun _ => x87Set_keepsStack F _ _

/-- The arithmetic on the top. -/
theorem x87BinarySt0_keepsStack {rhs : HandlerM Float80} (hrhs : KeepsStack rhs)
    (fn : X87Binary) : KeepsStack (x87BinarySt0 F rhs fn) :=
  .bind hrhs fun _ => .get_bind fun _ =>
    .ite x87StackUnderflow_keepsStack (x87BinaryAt_keepsStack F _ _ _ fn)

/-- The functions of one operand. -/
theorem x87UnarySt0_keepsStack (fn : Float80 → Float80) : KeepsStack (x87UnarySt0 F fn) :=
  .get_bind fun _ => .ite x87StackUnderflow_keepsStack
    (.bind (x87ExceptionIfAny_keepsStack _) fun _ => x87Set_keepsStack F _ _)

theorem x87FunctionExceptions_keepsStack (argument : Float80) (results : List Float80)
    (lhs rhs : Float80) : KeepsStack (x87FunctionExceptions F argument results lhs rhs) := by
  unfold x87FunctionExceptions
  refine .ite (.bind (x87Exception_keepsStack _) fun _ => ?_) ?_
  · exact x87ExceptionIfAny_keepsStack _
  · exact x87ExceptionIfAny_keepsStack _

theorem x87FunctionSt0_keepsStack (fn : Float80 → Float80) : KeepsStack (x87FunctionSt0 F fn) :=
  .get_bind fun _ => .ite x87StackUnderflow_keepsStack
    (.bind (x87FunctionExceptions_keepsStack F _ _ _ _) fun _ => x87Set_keepsStack F _ _)

theorem handleFsqrt_keepsStack : KeepsStack (handleFsqrt F) := by
  refine .get_bind fun c => .ite x87StackUnderflow_keepsStack ?_
  refine .ite (x87Exception_keepsStack _) ?_
  refine .bind (x87FunctionExceptions_keepsStack F _ _ _ _) fun _ => ?_
  exact .ite (.bind (x87Exception_keepsStack _) fun _ => x87Set_keepsStack F _ _)
    (x87Set_keepsStack F _ _)

theorem handleFsincos_keepsStack : KeepsStack (handleFsincos F) := by
  refine .get_bind fun c => .ite x87StackUnderflow_keepsStack ?_
  refine .bind (x87FunctionExceptions_keepsStack F _ _ _ _) fun _ => ?_
  exact .bind (x87Set_keepsStack F _ _) fun _ => pushOr_keepsStack F .overflow _

theorem handleFptan_keepsStack : KeepsStack (handleFptan F) := by
  refine .get_bind fun c => .ite x87StackUnderflow_keepsStack ?_
  refine .bind (x87FunctionExceptions_keepsStack F _ _ _ _) fun _ => ?_
  exact .bind (x87Set_keepsStack F _ _) fun _ => pushOr_keepsStack F .overflow _

theorem handleFpatan_keepsStack : KeepsStack (handleFpatan F) :=
  .get_bind fun _ => .ite x87StackUnderflow_keepsStack
    (.bind (x87Set_keepsStack F _ _) fun _ => popOrUnderflow_keepsStack)

theorem handleF2xm1_keepsStack : KeepsStack (handleF2xm1 F) := by
  refine .get_bind fun c => .ite x87StackUnderflow_keepsStack ?_
  refine .ite (x87Exception_keepsStack _) ?_
  exact .bind (x87FunctionExceptions_keepsStack F _ _ _ _) fun _ => x87Set_keepsStack F _ _

theorem x87Yl2x_keepsStack (lowest : BitVec 32) (argument : Float80 → Float80) :
    KeepsStack (x87Yl2x F lowest argument) := by
  refine .get_bind fun c => .ite x87StackUnderflow_keepsStack ?_
  refine .ite (x87Exception_keepsStack _) ?_
  refine .bind (x87FunctionExceptions_keepsStack F _ _ _ _) fun _ => ?_
  exact .bind (x87Set_keepsStack F _ _) fun _ => popOrUnderflow_keepsStack

theorem handleFyl2x_keepsStack : KeepsStack (handleFyl2x F) := by
  unfold handleFyl2x
  exact x87Yl2x_keepsStack F _ _

theorem handleFyl2xp1_keepsStack : KeepsStack (handleFyl2xp1 F) := by
  unfold handleFyl2xp1
  exact x87Yl2x_keepsStack F _ _

theorem handleFscale_keepsStack : KeepsStack (handleFscale F) :=
  .get_bind fun _ => .ite x87StackUnderflow_keepsStack
    (.bind (x87FunctionExceptions_keepsStack F _ _ _ _) fun _ => x87Set_keepsStack F _ _)

theorem handleFrndint_keepsStack : KeepsStack (handleFrndint F) := by
  refine .get_bind fun c => .ite x87StackUnderflow_keepsStack ?_
  exact .ite (.bind (x87Exception_keepsStack _) fun _ => x87Set_keepsStack F _ _)
    (x87Set_keepsStack F _ _)

/-- All functions. -/
theorem X87Function.keepsStack (f : X87Function) : KeepsStack (f.handler F) := by
  cases f with
  | fchs | fabs => exact x87UnarySt0_keepsStack F _
  | fsqrt => exact handleFsqrt_keepsStack F
  | frndint => exact handleFrndint_keepsStack F
  | fsin | fcos => exact x87FunctionSt0_keepsStack F _
  | fsincos => exact handleFsincos_keepsStack F
  | fptan => exact handleFptan_keepsStack F
  | fpatan => exact handleFpatan_keepsStack F
  | f2xm1 => exact handleF2xm1_keepsStack F
  | fyl2x => exact handleFyl2x_keepsStack F
  | fyl2xp1 => exact handleFyl2xp1_keepsStack F
  | fscale => exact handleFscale_keepsStack F

/-! ## Loads and stores -/

/-- The loads of reals. -/
theorem x87PushFromMemory_keepsStack (width : Nat) : KeepsStack (x87PushFromMemory F width) := by
  unfold x87PushFromMemory
  refine .ite (.bind readExt80_keepsStack fun _ => ?_) (.bind (readReal_keepsStack F width) fun _ => ?_)
  · exact pushOr_keepsStack F .invalid _
  · exact pushOr_keepsStack F .invalid _

theorem x87LoadInteger_keepsStack (width : Nat) : KeepsStack (x87LoadInteger F width) :=
  .bind (readInteger_keepsStack F width) fun _ => pushOr_keepsStack F .overflow _

/-- The stores of reals. -/
theorem x87StoreMem_keepsStack (width : Nat) (pop : Bool) :
    KeepsStack (x87StoreMem F width pop) := by
  refine .get_bind fun c => .ite x87StackUnderflow_keepsStack ?_
  have hpop (x : Handler) (hx : KeepsStack x) : KeepsStack (x >>= fun _ => popIf pop) :=
    .bind hx fun _ => popIf_keepsStack pop
  refine .ite (hpop _ (.writeMemoryChecked _ _ _)) (.ite (hpop _ (.writeMemoryChecked _ _ _)) ?_)
  exact .ite (hpop _ (storeBytesChecked_keepsStack _ _ _)) (hpop _ operandFault_keepsStack)

/-- The stores of integers. -/
theorem x87StoreInteger_keepsStack (width : Nat) (pop truncateOnly : Bool) :
    KeepsStack (x87StoreInteger F width pop truncateOnly) := by
  refine .get_bind fun c => .ite x87StackUnderflow_keepsStack ?_
  dsimp only
  cases integerBounds F width with
  | none => exact operandFault_keepsStack
  | some bounds =>
    refine .bind (.writeMemoryChecked _ _ _) fun _ => ?_
    exact .bind (x87ExceptionIfAny_keepsStack _) fun _ => popIf_keepsStack pop

theorem readBcdDigits_keepsStack (base : U64) :
    ∀ (n i : Nat) (magnitude mul : U64), KeepsStack (readBcdDigits base i n magnitude mul)
  | 0, _, _, _ => .pure _
  | n + 1, i, _, _ =>
    .bind (.readMemoryChecked _ _) fun _ => readBcdDigits_keepsStack base n (i + 1) _ _

/-- `FBLD`. -/
theorem x87LoadBcd_keepsStack : KeepsStack (x87LoadBcd F) := by
  refine .get_bind fun c => .bind (readBcdDigits_keepsStack _ _ _ _ _) fun _ => ?_
  exact .bind (.readMemoryChecked _ _) fun _ => pushOr_keepsStack F .overflow _

/-- `FBSTP`. -/
theorem handleFbstp_keepsStack : KeepsStack (handleFbstp F) := by
  refine .get_bind fun c => .ite (.bind x87StackUnderflow_keepsStack fun _ => ?_)
    (.bind (storeBytesChecked_keepsStack _ _ _) fun _ => ?_)
  · exact popOrUnderflow_keepsStack
  · exact popOrUnderflow_keepsStack

theorem x87FstpM80fp_keepsStack : KeepsStack x87FstpM80fp :=
  .get_bind fun _ => .ite x87StackUnderflow_keepsStack
    (.bind (storeBytesChecked_keepsStack _ _ _) fun _ => popOrUnderflow_keepsStack)

/-! ## Comparisons -/

theorem x87SetRelation_keepsStack (eflags : Bool) (relation : Int) :
    KeepsStack (x87SetRelation eflags relation) := by
  unfold x87SetRelation x87SetEflagsCmp x87SetCmpFlags
  refine .ite (.modifyState fun s hs => ?_) (.modifyState fun s hs => hs.setX87StatusWord _)
  have hsw := hs.setX87StatusWord (s.x87StatusWord &&& ~~~0x0200#16)
  exact ⟨hsw.top_lt, hsw.top_eq, hsw.tags⟩

/-- The comparisons. -/
theorem x87Compare_keepsStack (empty : Bool) (operands : CpuState → Float80 × Float80)
    (eflags quiet : Bool) : KeepsStack (x87Compare F empty operands eflags quiet) := by
  unfold x87Compare
  dsimp only
  have hset (relation : Int) (exceptions : BitVec 16) : KeepsStack (do
      x87SetRelation eflags relation
      x87ExceptionIfAny exceptions) :=
    .bind (x87SetRelation_keepsStack eflags _) fun _ => x87ExceptionIfAny_keepsStack _
  refine .ite (.bind (x87SetRelation_keepsStack eflags _) fun _ => ?_)
    (.get_bind fun _ => hset _ _)
  exact .bind (x87Exception_keepsStack _) fun _ => .get_bind fun _ => hset _ _

theorem x87CompareMem_keepsStack (width : Nat) (pop eflags quiet : Bool) :
    KeepsStack (x87CompareMem F width pop eflags quiet) :=
  .bind (readReal_keepsStack F width) fun _ => .get_bind fun _ =>
    .bind (x87Compare_keepsStack F _ _ eflags quiet) fun _ => popIf_keepsStack pop

end

section

variable (H : X87Host)

theorem x87CompareRegs_keepsStack (lhsOp rhsOp : Nat) (popLhs popRhs eflags quiet : Bool) :
    KeepsStack (x87CompareRegs H lhsOp rhsOp popLhs popRhs eflags quiet) := by
  refine .get_bind fun c => .ite operandFault_keepsStack ?_
  refine .bind (x87Compare_keepsStack H.soft _ _ eflags quiet) fun _ => ?_
  exact .bind (popIf_keepsStack popRhs) fun _ => popIf_keepsStack popLhs

theorem x87CompareSt0Sti_keepsStack (srcOp : Nat) (eflags popSt0 quiet : Bool) :
    KeepsStack (x87CompareSt0Sti H srcOp eflags popSt0 quiet) := by
  refine .get_bind fun c => .ite operandFault_keepsStack ?_
  exact .bind (x87Compare_keepsStack H.soft _ _ eflags quiet) fun _ => popIf_keepsStack popSt0

theorem FcomSti.keepsStack (c : FcomSti) : KeepsStack (c.handler H) := by
  cases c <;> exact x87CompareSt0Sti_keepsStack H _ _ _ _

theorem handleFtst_keepsStack : KeepsStack (handleFtst H) := by
  have hflags (relation : Int) : KeepsStack (x87SetCmpFlags relation) :=
    x87SetRelation_keepsStack false relation
  refine .get_bind fun c => .ite (.bind (hflags _) fun _ => x87StackUnderflow_keepsStack) ?_
  exact .bind (hflags _) fun _ => x87ExceptionIfAny_keepsStack _

theorem handleFxam_keepsStack : KeepsStack (handleFxam H) := by
  have hflags (value : Float80) (empty : Bool) : KeepsStack (x87SetFxamFlags H value empty) :=
    .modifyState fun s hs => hs.setX87StatusWord _
  exact .get_bind fun c => .ite (hflags _ true) (hflags _ false)

/-! ## Register operands -/

theorem x87BinaryStRegs_keepsStack (dstOp srcOp : Nat) (fn : X87Binary) :
    KeepsStack (x87BinaryStRegs H dstOp srcOp fn) := by
  refine .get_bind fun c => .ite operandFault_keepsStack (.ite operandFault_keepsStack ?_)
  exact .ite x87StackUnderflow_keepsStack (x87BinaryAt_keepsStack H.soft _ _ _ fn)

theorem x87Fxch_keepsStack : KeepsStack (x87Fxch H) := by
  refine .get_bind fun c => .ite operandFault_keepsStack (.ite operandFault_keepsStack ?_)
  exact .ite x87StackUnderflow_keepsStack (.modifyState fun s hs => hs.x87Swap _)

theorem x87RegMove_keepsStack (dst src : Nat) (pop : Bool) :
    KeepsStack (x87RegMove H dst src pop) := by
  refine .get_bind fun c => .ite operandFault_keepsStack (.ite x87StackUnderflow_keepsStack ?_)
  refine .bind (x87Set_keepsStack H.soft _ _) fun _ => .ite ?_ (.pure ())
  exact .modifyState fun s hs => hs.x87MarkEmpty _

theorem x87MoveIf_keepsStack (take : Bool) : KeepsStack (x87MoveIf H take) := by
  refine .get_bind fun c => .ite (.pure ()) (.ite operandFault_keepsStack ?_)
  refine .ite operandFault_keepsStack (.ite x87StackUnderflow_keepsStack ?_)
  exact x87Set_keepsStack H.soft _ _

theorem x87StoreSt0ToSti_keepsStack (pop : Bool) : KeepsStack (x87StoreSt0ToSti H pop) := by
  refine .get_bind fun c => .ite operandFault_keepsStack (.ite x87StackUnderflow_keepsStack ?_)
  exact .bind (x87Set_keepsStack H.soft _ _) fun _ => popIf_keepsStack pop

theorem x87FreeSti_keepsStack (pop : Bool) : KeepsStack (x87FreeSti H pop) := by
  refine .get_bind fun c => .ite operandFault_keepsStack (.bind ?_ fun _ => popIf_keepsStack pop)
  exact .modifyState fun s hs => hs.x87MarkEmpty _

theorem handleFldSti_keepsStack : KeepsStack (handleFldSti H) :=
  .get_bind fun _ => .ite operandFault_keepsStack (pushOr_keepsStack H.soft .fault _)

/-! ## Arithmetic and transfers, by code -/

/-- The arithmetic codes. -/
theorem X87Op.keepsStack (op : X87Op) (form : X87Form) : KeepsStack (op.handler H form) := by
  cases form with
  | m32fp | m64fp => exact x87BinarySt0_keepsStack H.soft (readReal_keepsStack H.soft _) _
  | st0Sti | stiSt0 => exact x87BinaryStRegs_keepsStack H _ _ _
  | pStiSt0 =>
    exact .bind (x87BinaryStRegs_keepsStack H _ _ _) fun _ => popOrUnderflow_keepsStack
  | m16int | m32int => exact x87BinarySt0_keepsStack H.soft (readInteger_keepsStack H.soft _) _

/-- All transfers. -/
theorem X87Transfer.keepsStack (t : X87Transfer) : KeepsStack (t.handler H) := by
  unfold X87Transfer.handler
  cases t with
  | fldM32fp | fldM64fp | fldM80fp => exact x87PushFromMemory_keepsStack H.soft _
  | fldSti => exact handleFldSti_keepsStack H
  | fstM32fp | fstM64fp | fstpM32fp | fstpM64fp => exact x87StoreMem_keepsStack H.soft _ _
  | fstSti => exact x87RegMove_keepsStack H _ _ _
  | fstpM80fp => exact x87FstpM80fp_keepsStack
  | fstpSti => exact x87StoreSt0ToSti_keepsStack H _
  | fildM16int | fildM32int | fildM64int => exact x87LoadInteger_keepsStack H.soft _
  | fistM16int | fistM32int | fistM64int | fistpM16int | fistpM32int | fistpM64int
  | fisttpM16int | fisttpM32int | fisttpM64int => exact x87StoreInteger_keepsStack H.soft _ _ _
  | fbld => exact x87LoadBcd_keepsStack H.soft
  | fbstp => exact handleFbstp_keepsStack H.soft
  | fxch => exact x87Fxch_keepsStack H
  | ffree | ffreep => exact x87FreeSti_keepsStack H _
  | fcmov condition => exact .get_bind fun _ => x87MoveIf_keepsStack H _

end

/-! ## The unit and its images -/

/-- A loop over the state. -/
theorem X87WellFormed.foldl {α : Type} {f : CpuState → α → CpuState}
    (hf : ∀ s a, X87WellFormed s → X87WellFormed (f s a)) :
    ∀ (l : List α) {s : CpuState}, X87WellFormed s → X87WellFormed (l.foldl f s)
  | [], _, hs => hs
  | a :: l, s, hs => X87WellFormed.foldl hf l (hf s a hs)

section

variable (F : SoftFloat)

/-- The tag word read back. -/
theorem loadTags_wellFormed (ftw : BitVec 16) {s : CpuState} (hs : X87WellFormed s) :
    X87WellFormed (loadTags ftw s) := by
  refine X87WellFormed.foldl (fun s i h => h.setX87Tag _ ?_) _ hs
  cases ftw.getLsbD i with
  | true => exact Or.inl rfl
  | false => exact Or.inr (Or.inr rfl)

/-- The registers by their place in the stack. -/
theorem restoreSlots_wellFormed (m : Memory) (base : U64) (ftw : BitVec 8) {s : CpuState}
    (hs : X87WellFormed s) : X87WellFormed (restoreSlots F m base ftw s) := by
  refine X87WellFormed.foldl (fun s i h => ?_) _ hs
  unfold restoreSlot
  split
  · exact h.x87Set F _ _
  · exact h.x87MarkEmpty _

/-- The registers by their number. -/
theorem restorePhysical_wellFormed (m : Memory) (base : U64) (ftw : BitVec 8) {s : CpuState}
    (hs : X87WellFormed s) : X87WellFormed (restorePhysical F m base ftw s) := by
  refine X87WellFormed.foldl (fun s phys h => ?_) _ hs
  split
  · exact h.setX87Register _ _ (X87WellFormed.x87TagOf F _)
  · exact h.setX87Tag _ (Or.inr (Or.inr rfl))

theorem writeOperandChecked_keepsStack (operandIndex : Nat) (value : U64) (width : Nat) :
    KeepsStack (writeOperandChecked operandIndex value width) :=
  keepsX87_frame.onState.writeOperandChecked operandIndex value width

/-- `FLDENV`. -/
theorem handleFldenv_keepsStack : KeepsStack handleFldenv := by
  refine .get_bind fun c => .bind (.readMemoryChecked _ _) fun fcw => ?_
  refine .bind (.readMemoryChecked _ _) fun fsw => .bind (.readMemoryChecked _ _) fun ftw => ?_
  refine .ite (.memoryFault _) (.modifyState fun s hs => ?_)
  exact loadTags_wellFormed _ ((hs.setX87ControlWord _).setX87StatusWord _)

/-- `FLDCW`. -/
theorem handleFldcw_keepsStack : KeepsStack handleFldcw := by
  refine .bind (.readOperandChecked 0 2) fun value => .ite operandFault_keepsStack ?_
  exact .modifyState fun s hs => hs.setX87ControlWord _

theorem validateMemorySpan_keepsStack (allowed : Memory → U64 → Nat → Bool) (base : U64)
    (size : Nat) : ∀ fuel offset, KeepsStack (validateMemorySpan allowed base size fuel offset)
  | 0, _ => .pure ()
  | fuel + 1, offset => by
    refine .ite (.get_bind fun c => .ite (.memoryFault _) ?_) (.pure ())
    exact validateMemorySpan_keepsStack allowed base size fuel _

theorem storeWordsChecked_keepsStack (base : U64) :
    ∀ stores, KeepsStack (storeWordsChecked base stores)
  | [] => .pure ()
  | (_, _, _) :: rest =>
    .bind (.writeMemoryChecked _ _ _) fun _ => storeWordsChecked_keepsStack base rest

theorem readBytesChecked_keepsStack :
    ∀ (n : Nat) (address : U64), KeepsStack (readBytesChecked address n)
  | 0, _ => .pure _
  | n + 1, address =>
    .bind (.readMemoryChecked _ _) fun _ =>
      .bind (readBytesChecked_keepsStack n (address + 1#64)) fun _ => .pure _

theorem setVector_keepsStack (i : Fin 32) (value : CpuState → BitVec 512) :
    KeepsStack (modifyState fun s => setVector s i (value s)) :=
  .modifyState fun _ hs => ⟨hs.top_lt, hs.top_eq, hs.tags⟩

/-- The vectors of `FXRSTOR`. -/
theorem restoreVectors_keepsStack (base : U64) :
    ∀ n i, KeepsStack (restoreVectors base i n)
  | 0, _ => .pure ()
  | n + 1, i =>
    .bind (readBytesChecked_keepsStack _ _) fun _ =>
      .bind (setVector_keepsStack _ _) fun _ => restoreVectors_keepsStack base n (i + 1)

theorem putAll_keepsStack (base : U64) (stores : List (Nat × U64 × Nat)) :
    KeepsStack (modify fun ctx : ExecutionContext =>
      { ctx with memory := ctx.memory.putAll base stores }) := fun _ => id

/-- `FXSAVE`. -/
theorem fxsave_keepsStack : KeepsStack fxsave := by
  refine .get_bind fun c => .ite (.memoryFault _) ?_
  refine .bind (validateMemorySpan_keepsStack _ _ _ _ _) fun _ => ?_
  refine .bind (storeWordsChecked_keepsStack _ _) fun _ => .bind (putAll_keepsStack _ _) fun _ => ?_
  exact .bind (storeWordsChecked_keepsStack _ _) fun _ => storeWordsChecked_keepsStack _ _

/-- `FXRSTOR`, whatever image it reads. -/
theorem fxrstor_keepsStack : KeepsStack (fxrstor F) := by
  refine .get_bind fun c => .ite (.memoryFault _) ?_
  refine .bind (validateMemorySpan_keepsStack _ _ _ _ _) fun _ => ?_
  refine .bind (.readMemoryChecked _ _) fun fcw => .bind (.readMemoryChecked _ _) fun fsw => ?_
  refine .bind (.readMemoryChecked _ _) fun ftw => .bind (.readMemoryChecked _ _) fun mxcsr => ?_
  refine .bind (.modifyState fun s hs => ?_) fun _ => restoreVectors_keepsStack _ _ _
  have hwords := (hs.setX87ControlWord (fcw.setWidth 16 &&& ~~~0xE0C0#16)).setX87StatusWord
    (fsw.setWidth 16)
  exact restorePhysical_wellFormed F _ _ _ ⟨hwords.top_lt, hwords.top_eq, hwords.tags⟩

/-- `FSAVE`, which resets the unit. -/
theorem fsave_keepsStack : KeepsStack (fsave F) := by
  refine .get_bind fun c => .ite (.memoryFault _) ?_
  exact fun _ _ => X87WellFormed.x87Reset F

/-- `FRSTOR`, whatever image it reads. -/
theorem frstor_keepsStack : KeepsStack (frstor F) := by
  refine .get_bind fun c => .ite (.memoryFault _) ?_
  refine .bind (.readMemoryChecked _ _) fun fcw => .bind (.readMemoryChecked _ _) fun fsw => ?_
  refine .bind (.readMemoryChecked _ _) fun ftw => .modifyState fun s hs => ?_
  exact restoreSlots_wellFormed F _ _ _ ((hs.setX87ControlWord _).setX87StatusWord _)

/-- All control instructions. -/
theorem X87Control.keepsStack (c : X87Control) : KeepsStack (c.handler F) := by
  unfold X87Control.handler
  cases c with
  | fninit | finit => exact .modifyState fun s _ => X87WellFormed.x87Reset F
  | emms | femms => exact .modifyState fun s hs => hs.emms
  | fnclex =>
    -- TOP is not among the bits that are cleared
    refine .modifyState fun s hs => ⟨hs.top_lt, ?_, hs.tags⟩
    exact hs.top_eq.trans (topBits_and (by decide)).symm
  | fnop => exact .pure ()
  | fdecstp | fincstp => exact .modifyState fun s hs => hs.setX87Top _
  | fldenv => exact handleFldenv_keepsStack
  | fnstenv => exact .get_bind fun _ => fun _ => id
  | fldcw => exact handleFldcw_keepsStack
  | fnstcw | fnstswM2byte => exact .get_bind fun _ => writeOperandChecked_keepsStack _ _ _
  | fnstswAx => exact .modifyState fun s hs => keepsX87_frame.register s .ax _ 2 hs
  | fxsave => exact fxsave_keepsStack
  | fxrstor => exact fxrstor_keepsStack F
  | fsave => exact fsave_keepsStack F
  | frstor => exact frstor_keepsStack F

end

/-! ## MMX -/

section

variable (H : X87Host)

theorem mmxMove_keepsStack (dst src width : Nat) : KeepsStack (mmxMove dst src width) :=
  .bind (.readOperandChecked _ _) fun _ => writeOperandChecked_keepsStack _ _ _

theorem sseException_keepsStack (exceptions : BitVec 32) :
    KeepsStack (sseException exceptions) := by
  refine .bind (.modifyState fun s hs => ⟨hs.top_lt, hs.top_eq, hs.tags⟩) fun _ => ?_
  exact .get_bind fun c => .ite (.pure ()) (.faultHere _ _)

theorem readVectorOperand_keepsStack (operandIndex width : Nat) :
    KeepsStack (H.readVectorOperand operandIndex width) := by
  refine .get_bind fun c => .ite (.ite operandFault_keepsStack (.pure _)) (.ite ?_ ?_)
  · dsimp only
    cases c.memory.read (memoryAddress c.state c.instr) width .dataRead with
    | some bytes => exact .pure _
    | none => exact .memoryFault _
  · exact operandFault_keepsStack

theorem handleCvtpi2pd_keepsStack : KeepsStack H.handleCvtpi2pd := by
  refine .get_bind fun c => .ite operandFault_keepsStack ?_
  refine .ite (.bind (.pure _) fun src => ?_) (.bind (.readOperandChecked _ _) fun src => ?_)
  · exact setVector_keepsStack _ _
  · exact setVector_keepsStack _ _

theorem cvtpd2pi_keepsStack (truncateOnly : Bool) : KeepsStack (H.cvtpd2pi truncateOnly) := by
  refine .bind (readVectorOperand_keepsStack H 1 16) fun src => .get_bind fun c => ?_
  have hset (value : U64) : KeepsStack (modifyState fun s =>
      s.mmxSet (H.mmIndex (c.instr.opRegister 0)) value) :=
    .modifyState fun s hs => hs.mmxSet _ _
  exact .ite (.bind (sseException_keepsStack _) fun _ => hset _) (hset _)

/-- All MMX codes. -/
theorem MmxCode.keepsStack (c : MmxCode) : KeepsStack (c.handler H) := by
  cases c with
  | movdMmRm32 | movdRm32Mm | movqMmRm64 | movqRm64Mm | movqMmMmm64 | movqMmm64Mm =>
    exact mmxMove_keepsStack _ _ _
  | maskmovq => exact .get_bind fun _ => storeWordsChecked_keepsStack _ _
  | pmovmskbR32 | pmovmskbR64 => exact .get_bind fun _ => writeOperandChecked_keepsStack _ _ _
  | movq2dq => exact .get_bind fun _ => setVector_keepsStack _ _
  | movdq2q => exact .get_bind fun _ => .modifyState fun s hs => hs.mmxSet _ _
  | cvtpi2pd => exact handleCvtpi2pd_keepsStack H
  | cvtpd2pi | cvttpd2pi => exact cvtpd2pi_keepsStack H _

/-- **Every x87 and MMX handler keeps the stack well formed.** -/
theorem X87Code.keepsStack (c : X87Code) : KeepsStack (c.handler H) := by
  cases c with
  | arithmetic op form => exact op.keepsStack H form
  | fprem | fprem1 => exact x87BinaryStRegs_keepsStack H _ _ _
  | fldConst c => exact pushOr_keepsStack H.soft .overflow _
  | function f => exact f.keepsStack H.soft
  | transfer t => exact t.keepsStack H
  | fcomM32fp | fcompM32fp | fcomM64fp | fcompM64fp =>
    exact x87CompareMem_keepsStack H.soft _ _ _ _
  | fcomSti c => exact c.keepsStack H
  | fcompp | fucompp => exact x87CompareRegs_keepsStack H _ _ _ _ _ _
  | ftst => exact handleFtst_keepsStack H
  | fxam => exact handleFxam_keepsStack H
  | control c => exact c.keepsStack H.soft
  | mmx c => exact c.keepsStack H

end

end Seven
