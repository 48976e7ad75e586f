import Seven.Handlers.X87Stack
import Seven.Handlers.X87Faults

/-!
# Comparisons with an empty operand

A comparison with an empty register should be unordered, raise the invalid
operation and, when that is masked, end so, whatever number the register still
has from before. The handlers set the unordered result and raise the exception.
Then they go on to the comparison itself, of the numbers that are there, and its
result replaces the one that was set.

So the result is unordered, and the same for all contents of the empty
registers, exactly when the other operand is a NaN: `emptyCompared_iff`.
-/

namespace Seven

open Seven.Lib

/-! ## The comparisons -/

/-- What is compared: a register or a value from memory. -/
inductive CompareOperand where
  | st (index : Nat)
  | memory (value : Float80)

namespace CompareOperand

/-- A register may be empty. -/
def isEmpty (s : CpuState) : CompareOperand → Bool
  | st i => s.x87IsEmpty i
  | memory _ => false

/-- The value compared. -/
def value (s : CpuState) : CompareOperand → Float80
  | st i => s.x87Get i
  | memory value => value

/-- A NaN, and not what an empty register has. -/
def HoldsNaN (s : CpuState) (o : CompareOperand) : Prop :=
  o.isEmpty s = false ∧ (o.value s).isnan = true

end CompareOperand

/-- The comparisons. -/
inductive X87Comparison where
  | fcomM32fp | fcompM32fp | fcomM64fp | fcompM64fp
  | sti (form : FcomSti)
  | fcompp | fucompp

/-- The number in the bytes of a `float` or a `double`. -/
def realOfBytes (F : SoftFloat) (width : Nat) (bytes : List Byte) : Float80 :=
  if width = 4 then F.ofFloat ((fromBytes bytes).setWidth 32) else F.ofDouble (fromBytes bytes)

namespace X87Comparison

/-- The code. -/
def code : X87Comparison → X87Code
  | fcomM32fp => .fcomM32fp
  | fcompM32fp => .fcompM32fp
  | fcomM64fp => .fcomM64fp
  | fcompM64fp => .fcompM64fp
  | sti form => .fcomSti form
  | fcompp => .fcompp
  | fucompp => .fucompp

/-- The result goes to RFLAGS. -/
def eflags : X87Comparison → Bool
  | sti .fcomi | sti .fucomi | sti .fcomip | sti .fucomip => true
  | _ => false

/-- A quiet NaN is no invalid operand. -/
def quiet : X87Comparison → Bool
  | sti .fucom | sti .fucomp | sti .fucomi | sti .fucomip | fucompp => true
  | _ => false

/-- It pops, once or twice. -/
def pops : X87Comparison → Bool × Bool
  | fcompM32fp | fcompM64fp | sti .fcomp | sti .fucomp | sti .fcomip | sti .fucomip => (true, false)
  | fcompp | fucompp => (true, true)
  | _ => (false, false)

/-- The operands, when they are registers or can be read. -/
def operands (H : X87Host) (ctx : ExecutionContext) :
    X87Comparison → Option (CompareOperand × CompareOperand)
  | fcomM32fp | fcompM32fp => inMemory 4
  | fcomM64fp | fcompM64fp => inMemory 8
  | sti _ => if ctx.instr.opKind 1 = .register then some (.st 0, .st (index 1)) else none
  | fcompp | fucompp =>
    if ctx.instr.opKind 0 = .register ∧ ctx.instr.opKind 1 = .register then
      some (.st (index 0), .st (index 1))
    else none
where
  index (operand : Nat) : Nat := H.stIndex (ctx.instr.opRegister operand)
  inMemory (width : Nat) : Option (CompareOperand × CompareOperand) :=
    (ctx.memory.read (memoryAddress ctx.state ctx.instr) width .dataRead).map
      fun bytes => (.st 0, .memory (realOfBytes H.soft width bytes))

end X87Comparison

/-! ## What should be -/

/-- The unordered result. -/
def Unordered (eflags : Bool) (s : CpuState) : Prop :=
  if eflags then
    flagSet s.rflags kFlagZF = true ∧ flagSet s.rflags kFlagPF = true ∧
      flagSet s.rflags kFlagCF = true
  else s.x87StatusWord &&& 0x4500#16 = 0x4500#16

/-- Other numbers in the registers. -/
def CpuState.withStack (s : CpuState) (stack : Fin 8 → Float80) : CpuState :=
  { s with x87Stack := stack }

/-- The registers' values replaced. -/
def ExecutionContext.withStack (ctx : ExecutionContext) (stack : Fin 8 → Float80) :
    ExecutionContext :=
  { ctx with state := ctx.state.withStack stack }

/-- They differ in empty registers only. -/
def CpuState.StaleOnly (s : CpuState) (stack : Fin 8 → Float80) : Prop :=
  ∀ i, s.x87Tags i ≠ kX87TagEmpty → stack i = s.x87Stack i

/-- Zeros in the empty registers. -/
def CpuState.zeroedStack (s : CpuState) : Fin 8 → Float80 :=
  fun i => if s.x87Tags i = kX87TagEmpty then 0#80 else s.x87Stack i

/-- Unordered and invalid, whatever the empty registers have. -/
def EmptyCompared (H : X87Host) (c : X87Comparison) (ctx : ExecutionContext) : Prop :=
  ∃ after, c.code.handler H ctx = .ok () after ∧ Unordered c.eflags after.state ∧
    after.state.x87StatusWord &&& kX87ExceptionInvalid = kX87ExceptionInvalid ∧
    ∀ stack, ctx.state.StaleOnly stack →
      c.code.handler H (ctx.withStack stack) = .ok () (after.withStack stack)

/-! ## One step after the other -/

/-- What a step does not touch: the control word and, of a well-formed stack,
registers, tags and TOP. -/
structure KeepsUnit (s t : CpuState) : Prop where
  controlWord : t.x87ControlWord = s.x87ControlWord
  registers : KeepsRegisters s t

/-- The relation composes. -/
theorem KeepsUnit.trans {s t u : CpuState} (h : KeepsUnit s t) (h' : KeepsUnit t u) :
    KeepsUnit s u :=
  ⟨h'.controlWord.trans h.controlWord, fun hs =>
    ⟨(h'.registers (h.registers hs).1).1,
      (h.registers hs).2.trans (h'.registers (h.registers hs).1).2⟩⟩

/-- Status bits other than the top. -/
theorem keepsUnit_statusWord {s : CpuState} {value : BitVec 16}
    (htop : topBits value = topBits s.x87StatusWord) : KeepsUnit s (s.setX87StatusWord value) :=
  ⟨rfl, fun hs => ⟨hs.setX87StatusWord _, hs.sameRegisters_setX87StatusWord htop⟩⟩

/-- Masked invalid operations stay masked. -/
theorem masked_congr {s t : CpuState} (h : t.x87ControlWord = s.x87ControlWord) (e : BitVec 16) :
    x87ExceptionsMasked t e = x87ExceptionsMasked s e := by
  unfold x87ExceptionsMasked
  rw [h]

/-- The stack fault has no mask of its own. -/
theorem masked_stackFault {s : CpuState} (h : x87ExceptionsMasked s kX87ExceptionInvalid = true) :
    x87ExceptionsMasked s (kX87ExceptionInvalid ||| kX87ExceptionStackFault) = true := by
  have hsame : (kX87ExceptionInvalid ||| kX87ExceptionStackFault) &&& ~~~s.x87ControlWord &&&
      kX87ExceptionMask = kX87ExceptionInvalid &&& ~~~s.x87ControlWord &&& kX87ExceptionMask := by
    rw [BitVec.and_assoc, BitVec.and_assoc, BitVec.and_comm (~~~s.x87ControlWord),
      ← BitVec.and_assoc, ← BitVec.and_assoc]
    rfl
  unfold x87ExceptionsMasked at h ⊢
  rw [hsame]
  exact h

/-- A masked exception sticks. -/
theorem x87Raised_masked {s : CpuState} {e : BitVec 16} (h : x87ExceptionsMasked s e = true) :
    (s.x87Raised e).x87StatusWord =
      s.x87StatusWord ||| (e &&& kX87ExceptionMask) ||| (e &&& kX87ExceptionStackFault) := by
  show x87ExceptionStatus s e = _
  unfold x87ExceptionStatus
  rw [h]
  rfl

/-- An exception leaves the unit. -/
theorem x87Raised_keeps (s : CpuState) (e : BitVec 16) : KeepsUnit s (s.x87Raised e) :=
  keepsUnit_statusWord (topBits_x87ExceptionStatus s e)

/-- It does not look at the values. -/
theorem x87Raised_withStack (s : CpuState) (e : BitVec 16) (stack : Fin 8 → Float80) :
    (s.withStack stack).x87Raised e = (s.x87Raised e).withStack stack := rfl

/-- The setting of a relation. -/
structure SetsRelation (eflags : Bool) (relation : Int) (s t : CpuState) : Prop where
  unordered : Unordered eflags t ↔ relation = -2
  keeps : KeepsUnit s t

/-- The status flags of a relation. -/
theorem x87SetCmpFlags_sets (relation : Int) : ∃ f : CpuState → CpuState,
    x87SetCmpFlags relation = modifyState f ∧ (∀ s, SetsRelation false relation s (f s)) ∧
      ∀ s stack, f (s.withStack stack) = (f s).withStack stack := by
  refine ⟨_, rfl, fun s => ⟨?_, keepsUnit_statusWord ?_⟩, fun _ _ => rfl⟩
  · have hcleared : s.x87StatusWord &&& ~~~0x4700#16 &&& 0x4500#16 = 0#16 := by
      rw [BitVec.and_assoc]
      exact BitVec.and_zero
    have hset (bits : BitVec 16) : (s.x87StatusWord &&& ~~~0x4700#16 ||| bits) &&& 0x4500#16 =
        bits &&& 0x4500#16 := by
      rw [BitVec.and_or_distrib_right, hcleared, BitVec.zero_or]
    show (if relation = -2 then s.x87StatusWord &&& ~~~0x4700#16 ||| 0x4500#16
      else if relation < 0 then s.x87StatusWord &&& ~~~0x4700#16 ||| 0x0100#16
      else if relation = 0 then s.x87StatusWord &&& ~~~0x4700#16 ||| 0x4000#16
      else s.x87StatusWord &&& ~~~0x4700#16) &&& 0x4500#16 = 0x4500#16 ↔ _
    -- Unordered sets all three bits; no other relation does.
    by_cases hun : relation = -2
    · rw [if_pos hun, hset]
      exact iff_of_true rfl hun
    · refine iff_of_false ?_ hun
      rw [if_neg hun]
      split
      · rw [hset]
        decide
      · split
        · rw [hset]
          decide
        · rw [hcleared]
          decide
  -- The four condition bits lie outside the field of the top.
  · have htop : topBits (s.x87StatusWord &&& ~~~0x4700#16) = topBits s.x87StatusWord :=
      topBits_and (by decide)
    split
    · rw [topBits_or (by decide), htop]
    · split
      · rw [topBits_or (by decide), htop]
      · split
        · rw [topBits_or (by decide), htop]
        · exact htop

/-- The flags in `RFLAGS` of a relation. -/
theorem x87SetEflagsCmp_sets (relation : Int) : ∃ f : CpuState → CpuState,
    x87SetEflagsCmp relation = modifyState f ∧ (∀ s, SetsRelation true relation s (f s)) ∧
      ∀ s stack, f (s.withStack stack) = (f s).withStack stack := by
  refine ⟨_, rfl, fun s => ⟨?_, ?_⟩, fun _ _ => rfl⟩
  · unfold Unordered
    rw [if_pos rfl]
    have hzp : kFlagZF &&& kFlagPF = 0#64 := by decide
    have hzc : kFlagZF &&& kFlagCF = 0#64 := by decide
    have hpc : kFlagPF &&& kFlagCF = 0#64 := by decide
    dsimp only [setFlags]
    rw [flagSet_setFlag_self (by decide), flagSet_setFlag_of_disjoint hzp,
      flagSet_setFlag_self (by decide), flagSet_setFlag_of_disjoint hzc,
      flagSet_setFlag_of_disjoint hpc, flagSet_setFlag_self (by decide)]
    constructor
    · rintro ⟨-, hp, -⟩
      exact of_decide_eq_true hp
    · intro hun
      rw [decide_eq_true hun]
      exact ⟨rfl, rfl, rfl⟩
  -- Only C1 is cleared in the status word.
  · have hword : KeepsUnit s (s.setX87StatusWord (s.x87StatusWord &&& ~~~0x0200#16)) :=
      keepsUnit_statusWord (topBits_and (by decide))
    exact ⟨hword.controlWord, fun hs =>
      ⟨⟨(hword.registers hs).1.top_lt, (hword.registers hs).1.top_eq, (hword.registers hs).1.tags⟩,
        (hword.registers hs).2.stack, (hword.registers hs).2.tags, (hword.registers hs).2.top⟩⟩

/-- Either. -/
theorem x87SetRelation_sets (eflags : Bool) (relation : Int) : ∃ f : CpuState → CpuState,
    x87SetRelation eflags relation = modifyState f ∧
      (∀ s, SetsRelation eflags relation s (f s)) ∧
      ∀ s stack, f (s.withStack stack) = (f s).withStack stack := by
  cases eflags with
  | false => exact x87SetCmpFlags_sets relation
  | true => exact x87SetEflagsCmp_sets relation

/-- What keeps the result of a comparison. -/
structure KeepsResult (s t : CpuState) : Prop where
  codes : t.x87StatusWord &&& 0x4500#16 = s.x87StatusWord &&& 0x4500#16
  invalid : s.x87StatusWord &&& kX87ExceptionInvalid = kX87ExceptionInvalid →
    t.x87StatusWord &&& kX87ExceptionInvalid = kX87ExceptionInvalid
  rflags : t.rflags = s.rflags

/-- Unordered stays unordered. -/
theorem KeepsResult.unordered {s t : CpuState} (h : KeepsResult s t) (eflags : Bool) :
    Unordered eflags t ↔ Unordered eflags s := by
  unfold Unordered
  rw [h.codes, h.rflags]

/-- Bits outside C0, C2, C3. -/
theorem or_keeps {bits : BitVec 16} (h : bits &&& 0x4500#16 = 0#16) (sw : BitVec 16) :
    (sw ||| bits) &&& 0x4500#16 = sw &&& 0x4500#16 := by
  rw [BitVec.and_or_distrib_right, h, BitVec.or_zero]

/-- Absorption. -/
theorem or_and_absorb (a b : BitVec 16) : a ||| (a &&& b) = a := by
  apply BitVec.eq_of_getElem_eq
  intro i hi
  rw [BitVec.getElem_or, BitVec.getElem_and]
  cases a[i] <;> rfl

/-- A sticky bit stays. -/
theorem or_invalid (sw bits : BitVec 16)
    (h : sw &&& kX87ExceptionInvalid = kX87ExceptionInvalid) :
    (sw ||| bits) &&& kX87ExceptionInvalid = kX87ExceptionInvalid := by
  rw [BitVec.and_or_distrib_right, h, BitVec.and_comm bits, or_and_absorb]

/-- Also under a mask that keeps it. -/
theorem and_invalid {mask : BitVec 16}
    (hmask : mask &&& kX87ExceptionInvalid = kX87ExceptionInvalid)
    (sw : BitVec 16) :
    (sw &&& mask) &&& kX87ExceptionInvalid = sw &&& kX87ExceptionInvalid := by
  rw [BitVec.and_assoc, hmask]

/-- A masked invalid operation, on the stack or not. -/
theorem x87Raised_result {s : CpuState} {e : BitVec 16}
    (he : e = kX87ExceptionInvalid ∨ e = kX87ExceptionInvalid ||| kX87ExceptionStackFault)
    (hmasked : x87ExceptionsMasked s e = true) :
    KeepsResult s (s.x87Raised e) ∧
      (s.x87Raised e).x87StatusWord &&& kX87ExceptionInvalid = kX87ExceptionInvalid := by
  have hcodes : (e &&& kX87ExceptionMask) &&& 0x4500#16 = 0#16 ∧
      (e &&& kX87ExceptionStackFault) &&& 0x4500#16 = 0#16 := by
    rcases he with rfl | rfl <;> decide
  have hone : (e &&& kX87ExceptionMask) &&& kX87ExceptionInvalid = kX87ExceptionInvalid := by
    rcases he with rfl | rfl <;> decide
  have hset : (s.x87Raised e).x87StatusWord &&& kX87ExceptionInvalid = kX87ExceptionInvalid := by
    rw [x87Raised_masked hmasked]
    apply or_invalid
    rw [BitVec.or_comm]
    exact or_invalid _ _ hone
  refine ⟨⟨?_, fun _ => hset, rfl⟩, hset⟩
  rw [x87Raised_masked hmasked, or_keeps hcodes.2, or_keeps hcodes.1]

/-- The state after `popIf`, with the invalid operation masked. -/
def CpuState.x87PoppedIf (pop : Bool) (s : CpuState) : CpuState :=
  if pop then
    if s.x87Pop.1 then s.x87Pop.2
    else (s.setX87StatusWord (s.x87StatusWord &&& ~~~0x0200#16)).x87Raised
      (kX87ExceptionInvalid ||| kX87ExceptionStackFault)
  else s

/-- A pop whose exception is masked. -/
theorem popIf_masked {pop : Bool} {ctx : ExecutionContext}
    (hmasked : x87ExceptionsMasked ctx.state kX87ExceptionInvalid = true) :
    popIf pop ctx = .ok () { ctx with state := ctx.state.x87PoppedIf pop } := by
  cases pop with
  | false => rfl
  | true =>
    show popOrUnderflow ctx = _
    unfold popOrUnderflow CpuState.x87PoppedIf
    rw [if_pos rfl]
    cases hrun : ctx.state.x87Pop with
    | mk popped u =>
      cases popped with
      | true => rfl
      | false =>
        have hsame : u = ctx.state := by
          have hrefused := @x87Pop_refused ctx.state (by rw [hrun])
          rw [hrun] at hrefused
          exact hrefused
        subst hsame
        let noFault := ctx.state.setX87StatusWord (ctx.state.x87StatusWord &&& ~~~0x0200#16)
        exact @x87Exception_masked _ { ctx with state := noFault } (masked_stackFault hmasked)

/-- A new top leaves the result. -/
theorem setX87Top_result (s : CpuState) (top : BitVec 8) : KeepsResult s (s.setX87Top top) := by
  have hfield : ∀ b : BitVec 8, ((b &&& 0x7#8).setWidth 16 <<< 11) &&& 0x4500#16 = 0#16 := by
    decide +kernel
  refine ⟨?_, fun h => ?_, rfl⟩
  · show (s.x87StatusWord &&& ~~~0x3800#16 ||| _) &&& 0x4500#16 = _
    rw [or_keeps (hfield top), BitVec.and_assoc]
    rfl
  · exact or_invalid _ _ ((and_invalid (by decide) _).trans h)

/-- So does a pop. -/
theorem x87PoppedIf_result (pop : Bool) {s : CpuState}
    (hmasked : x87ExceptionsMasked s kX87ExceptionInvalid = true) :
    KeepsResult s (s.x87PoppedIf pop) := by
  unfold CpuState.x87PoppedIf
  split
  · split
    -- The pop ran: on an occupied top, so only the stack itself moves.
    next hpop =>
      unfold CpuState.x87Pop at hpop ⊢
      dsimp only at hpop ⊢
      split
      next htag =>
        rw [if_pos htag] at hpop
        cases hpop
      next =>
        have hresult := setX87Top_result
          (s.setX87Tag (Fin.ofNat 8 s.x87Top.toNat) kX87TagEmpty) ((s.x87Top + 1#8) &&& 0x7#8)
        exact ⟨hresult.codes, hresult.invalid, hresult.rflags⟩
    next =>
      -- The top was empty: the stack fault is raised, and its exception is masked.
      have hmasked' := masked_stackFault hmasked
      obtain ⟨hresult, hset⟩ := @x87Raised_result
        (s.setX87StatusWord (s.x87StatusWord &&& ~~~0x0200#16)) _ (Or.inr rfl) hmasked'
      refine ⟨hresult.codes.trans ?_, fun _ => hset, rfl⟩
      show (s.x87StatusWord &&& ~~~0x0200#16) &&& 0x4500#16 = _
      rw [BitVec.and_assoc]
      rfl
  · exact ⟨rfl, id, rfl⟩

/-- A pop leaves the control word. -/
theorem x87PoppedIf_control (pop : Bool) (s : CpuState) :
    (s.x87PoppedIf pop).x87ControlWord = s.x87ControlWord := by
  unfold CpuState.x87PoppedIf CpuState.x87Pop
  dsimp only
  repeat' split
  all_goals rfl

/-- A pop does not look at the values. -/
theorem x87Pop_withStack (s : CpuState) (stack : Fin 8 → Float80) :
    (s.withStack stack).x87Pop = (s.x87Pop.1, s.x87Pop.2.withStack stack) := by
  unfold CpuState.x87Pop
  dsimp only
  show (if s.x87Tags (Fin.ofNat 8 s.x87Top.toNat) = kX87TagEmpty then _ else _ : Bool × CpuState) = _
  split <;> rfl

/-- Nor does one that may be refused. -/
theorem x87PoppedIf_withStack (pop : Bool) (s : CpuState) (stack : Fin 8 → Float80) :
    (s.withStack stack).x87PoppedIf pop = (s.x87PoppedIf pop).withStack stack := by
  unfold CpuState.x87PoppedIf
  rw [x87Pop_withStack]
  cases pop with
  | false => rfl
  | true =>
    cases s.x87Pop.1 with
    | true => rfl
    | false => rfl

/-! ## A comparison from end to end -/

namespace CompareOperand

/-- Registers, tags and TOP say what an operand is. -/
theorem value_congr {s t : CpuState} (h : SameX87Registers s t) (o : CompareOperand) :
    o.value t = o.value s := by
  cases o with
  | st i =>
    show t.x87Stack (t.x87PhysIndex i) = s.x87Stack (s.x87PhysIndex i)
    unfold CpuState.x87PhysIndex
    rw [h.stack, h.top]
  | memory value => rfl

/-- What an operand in use has does not come from the empty registers. -/
theorem value_withStack {s : CpuState} {stack : Fin 8 → Float80} (hstale : s.StaleOnly stack)
    {o : CompareOperand} (hused : o.isEmpty s = false) :
    o.value (s.withStack stack) = o.value s := by
  cases o with
  | st i => exact hstale _ (beq_eq_false_iff_ne.mp hused)
  | memory value => rfl

/-- A zero is no NaN, so a NaN is one of an operand in use. -/
theorem holdsNaN_of_zeroed {s : CpuState} {o : CompareOperand}
    (h : (o.value (s.withStack s.zeroedStack)).isnan = true) : o.HoldsNaN s := by
  have hstale : s.StaleOnly s.zeroedStack := fun i htag => if_neg htag
  cases hempty : o.isEmpty s with
  | false =>
    rw [value_withStack hstale hempty] at h
    exact ⟨hempty, h⟩
  | true =>
    cases o with
    | st i =>
      have hzero : (CompareOperand.st i).value (s.withStack s.zeroedStack) = 0#80 :=
        if_pos (beq_iff_eq.mp hempty)
      rw [hzero] at h
      exact absurd h (by decide)
    | memory value => cases hempty

end CompareOperand

section

variable {F : SoftFloat}

/-- Unordered is a NaN. -/
theorem x87Cmp_unordered (a b : Float80) (quiet : Bool) :
    (x87Cmp F a b quiet).1 = -2 ↔ a.isnan = true ∨ b.isnan = true := by
  rw [← Bool.or_eq_true]
  unfold x87Cmp
  split
  next h => exact iff_of_true rfl h
  next h =>
    refine iff_of_false ?_ h
    split
    · decide
    · split <;> decide

/-- A comparison raises the invalid operation or nothing. -/
theorem x87Cmp_exceptions (a b : Float80) (quiet : Bool) :
    kX87ExceptionInvalid ||| (x87Cmp F a b quiet).2 = kX87ExceptionInvalid := by
  unfold x87Cmp
  split
  · cases quiet <;> rfl
  · split
    · rfl
    · split <;> rfl

/-- **The fall through**: the comparison of an empty operand ends with the
relation of the two numbers, set in one step `f`. -/
theorem x87Compare_empty (eflags quiet : Bool) : ∃ f : Int → CpuState → CpuState,
    (∀ (lhs rhs : CompareOperand) (ctx : ExecutionContext), X87WellFormed ctx.state →
      x87ExceptionsMasked ctx.state kX87ExceptionInvalid = true →
      x87Compare F true (fun s => (lhs.value s, rhs.value s)) eflags quiet ctx =
        .ok () { ctx with
          state := f (x87Cmp F (lhs.value ctx.state) (rhs.value ctx.state) quiet).1 ctx.state }) ∧
    (∀ r s, x87ExceptionsMasked s kX87ExceptionInvalid = true →
      (Unordered eflags (f r s) ↔ r = -2) ∧
      (f r s).x87StatusWord &&& kX87ExceptionInvalid = kX87ExceptionInvalid ∧
      (f r s).x87ControlWord = s.x87ControlWord) ∧
    ∀ r s stack, f r (s.withStack stack) = (f r s).withStack stack := by
  choose set hset hsets hstale using x87SetRelation_sets eflags
  refine ⟨fun r s => (set r ((set (-2) s).x87Raised kX87ExceptionInvalid)).x87Raised
    kX87ExceptionInvalid, ?_, ?_, ?_⟩
  -- The empty operand sets the unordered relation, then the stale values are compared after all.
  · intro lhs rhs ctx hs hmasked
    have hfirst := ((hsets (-2) ctx.state).keeps).trans
      (x87Raised_keeps (set (-2) ctx.state) kX87ExceptionInvalid)
    have hsame := (hfirst.registers hs).2
    have hraise : x87Exception kX87ExceptionInvalid { ctx with state := set (-2) ctx.state } =
        .ok () { ctx with state := (set (-2) ctx.state).x87Raised kX87ExceptionInvalid } :=
      x87Exception_masked ((masked_congr (hsets _ _).keeps.controlWord _).trans hmasked)
    have hvalue (o : CompareOperand) :
        o.value ((set (-2) ctx.state).x87Raised kX87ExceptionInvalid) = o.value ctx.state :=
      o.value_congr hsame
    have hset' (r : Int) (c : ExecutionContext) :
        x87SetRelation eflags r c = .ok () { c with state := set r c.state } := by
      rw [hset r]
      rfl
    show (x87SetRelation eflags (-2) >>= fun _ => x87Exception kX87ExceptionInvalid >>= fun _ =>
      get >>= fun c => x87SetRelation eflags
        (x87Cmp F (lhs.value c.state) (rhs.value c.state) quiet).1 >>= fun _ =>
        x87ExceptionIfAny (kX87ExceptionInvalid |||
          (x87Cmp F (lhs.value c.state) (rhs.value c.state) quiet).2)) ctx = _
    have hget (c : ExecutionContext) : (get : HandlerM ExecutionContext) c = .ok c c := rfl
    rw [bind_ok (hset' (-2) ctx), bind_ok hraise, bind_ok (hget _)]
    dsimp only
    rw [hvalue, hvalue, x87Cmp_exceptions, bind_ok (hset' _ _)]
    unfold x87ExceptionIfAny
    rw [if_pos (by decide)]
    apply x87Exception_masked
    exact (masked_congr ((hfirst.trans (hsets _ _).keeps).controlWord) _).trans hmasked
  -- Only the second relation is left to read in the codes; invalid stays raised.
  · intro r s hmasked
    have hfirst := ((hsets (-2) s).keeps).trans
      (x87Raised_keeps (set (-2) s) kX87ExceptionInvalid)
    have hsecond := hsets r ((set (-2) s).x87Raised kX87ExceptionInvalid)
    have hcontrol := (hfirst.trans hsecond.keeps).controlWord
    obtain ⟨hresult, hinvalid⟩ :=
      x87Raised_result (Or.inl rfl) ((masked_congr hcontrol _).trans hmasked)
    exact ⟨(hresult.unordered eflags).trans hsecond.unordered, hinvalid, hcontrol⟩
  -- Neither step reads a register it is not given.
  · intro r s stack
    dsimp only
    rw [hstale, x87Raised_withStack, hstale, x87Raised_withStack]

/-- A real from memory. -/
theorem readReal_some {ctx : ExecutionContext} {width : Nat} {bytes : List Byte}
    (hwidth : width = 4 ∨ width = 8)
    (hread : ctx.memory.read (memoryAddress ctx.state ctx.instr) width .dataRead = some bytes) :
    readReal F width ctx = .ok (realOfBytes F width bytes) ctx := by
  have hget : (get : HandlerM ExecutionContext) ctx = .ok ctx ctx := rfl
  have hmemory : readOperandMemory width ctx = .ok (fromBytes bytes) ctx := by
    unfold readOperandMemory
    rw [bind_ok hget]
    exact readMemoryChecked_some hread
  unfold readReal realOfBytes
  rcases hwidth with rfl | rfl
  · rw [if_pos rfl, if_pos rfl, bind_ok hmemory]
    rfl
  · rw [if_neg (by decide), if_pos rfl, if_neg (by decide), bind_ok hmemory]
    rfl

end

namespace X87Comparison

variable {H : X87Host} (c : X87Comparison)

/-- Every form is a comparison of its operands, and its pops. -/
theorem handler_eq {lhs rhs : CompareOperand} {ctx : ExecutionContext}
    (hoperands : c.operands H ctx = some (lhs, rhs)) :
    c.code.handler H ctx =
      (x87Compare H.soft (lhs.isEmpty ctx.state || rhs.isEmpty ctx.state)
        (fun s => (lhs.value s, rhs.value s)) c.eflags c.quiet >>= fun _ =>
        popIf c.pops.1 >>= fun _ => popIf c.pops.2) ctx := by
  have hget : (get : HandlerM ExecutionContext) ctx = .ok ctx ctx := rfl
  have honce (pop : Bool) : (popIf pop >>= fun _ => popIf false) = popIf pop := bind_pure_unit
  -- The three shapes a handler has: an operand in memory, ST(i), and ST(0) with ST(1).
  have hmem (width : Nat) (pop : Bool) (hwidth : width = 4 ∨ width = 8)
      (hin : operands.inMemory H ctx width = some (lhs, rhs)) :
      x87CompareMem H.soft width pop false false ctx =
        (x87Compare H.soft (lhs.isEmpty ctx.state || rhs.isEmpty ctx.state)
          (fun s => (lhs.value s, rhs.value s)) false false >>= fun _ => popIf pop) ctx := by
    unfold operands.inMemory at hin
    obtain ⟨bytes, hread, hpair⟩ := Option.map_eq_some_iff.mp hin
    cases hpair
    unfold x87CompareMem
    rw [bind_ok (readReal_some hwidth hread), bind_ok hget]
    show (x87Compare H.soft (ctx.state.x87IsEmpty 0) _ _ _ >>= _) ctx =
      (x87Compare H.soft (ctx.state.x87IsEmpty 0 || false) _ _ _ >>= _) ctx
    rw [Bool.or_false]
    rfl
  have hsti (eflags pop quiet : Bool) (hin : (if ctx.instr.opKind 1 = .register then
      some (CompareOperand.st 0, CompareOperand.st (operands.index H ctx 1)) else none) =
        some (lhs, rhs)) :
      x87CompareSt0Sti H 1 eflags pop quiet ctx =
        (x87Compare H.soft (lhs.isEmpty ctx.state || rhs.isEmpty ctx.state)
          (fun s => (lhs.value s, rhs.value s)) eflags quiet >>= fun _ => popIf pop) ctx := by
    obtain ⟨hkind, hpair⟩ := Option.ite_none_right_eq_some.mp hin
    cases hpair
    unfold x87CompareSt0Sti
    rw [bind_ok hget, if_neg (not_not_intro hkind)]
    rfl
  have hregs (quiet : Bool) (hin : (if ctx.instr.opKind 0 = .register ∧ ctx.instr.opKind 1 = .register
      then some (CompareOperand.st (operands.index H ctx 0), CompareOperand.st (operands.index H ctx 1))
      else none) = some (lhs, rhs)) :
      x87CompareRegs H 0 1 true true false quiet ctx =
        (x87Compare H.soft (lhs.isEmpty ctx.state || rhs.isEmpty ctx.state)
          (fun s => (lhs.value s, rhs.value s)) false quiet >>= fun _ =>
          popIf true >>= fun _ => popIf true) ctx := by
    obtain ⟨⟨hkind, hkind'⟩, hpair⟩ := Option.ite_none_right_eq_some.mp hin
    cases hpair
    unfold x87CompareRegs
    rw [bind_ok hget, if_neg (fun h => h.elim (fun h => h hkind) fun h => h hkind')]
    rfl
  cases c with
  | fcomM32fp | fcompM32fp =>
    refine (hmem 4 _ (Or.inl rfl) hoperands).trans ?_
    rw [← honce]
    rfl
  | fcomM64fp | fcompM64fp =>
    refine (hmem 8 _ (Or.inr rfl) hoperands).trans ?_
    rw [← honce]
    rfl
  | sti form =>
    cases form with
    | fcom | fcomp | fucom | fucomp | fcomi | fucomi | fcomip | fucomip =>
      refine (hsti _ _ _ hoperands).trans ?_
      rw [← honce]
      rfl
  | fcompp | fucompp => exact hregs _ hoperands

/-- A whole comparison of an empty operand: the fall through, and the pops. -/
theorem handler_empty : ∃ f : Int → CpuState → CpuState,
    (∀ (lhs rhs : CompareOperand) (ctx : ExecutionContext), X87WellFormed ctx.state →
      x87ExceptionsMasked ctx.state kX87ExceptionInvalid = true →
      c.operands H ctx = some (lhs, rhs) →
      (lhs.isEmpty ctx.state || rhs.isEmpty ctx.state) = true →
      c.code.handler H ctx = .ok () { ctx with
        state := f (x87Cmp H.soft (lhs.value ctx.state) (rhs.value ctx.state) c.quiet).1
          ctx.state }) ∧
    (∀ r s, x87ExceptionsMasked s kX87ExceptionInvalid = true →
      (Unordered c.eflags (f r s) ↔ r = -2) ∧
      (f r s).x87StatusWord &&& kX87ExceptionInvalid = kX87ExceptionInvalid) ∧
    ∀ r s stack, f r (s.withStack stack) = (f r s).withStack stack := by
  obtain ⟨f, hrun, hresult, hstale⟩ := @x87Compare_empty H.soft c.eflags c.quiet
  -- A masked invalid stays masked: no step writes the control word.
  have hmaskedFirst (r : Int) {s : CpuState}
      (hmasked : x87ExceptionsMasked s kX87ExceptionInvalid = true) :
      x87ExceptionsMasked (f r s) kX87ExceptionInvalid = true :=
    (masked_congr (hresult r s hmasked).2.2 _).trans hmasked
  have hmaskedSecond (r : Int) {s : CpuState}
      (hmasked : x87ExceptionsMasked s kX87ExceptionInvalid = true) :
      x87ExceptionsMasked ((f r s).x87PoppedIf c.pops.1) kX87ExceptionInvalid = true :=
    (masked_congr (x87PoppedIf_control _ _) _).trans (hmaskedFirst r hmasked)
  refine ⟨fun r s => ((f r s).x87PoppedIf c.pops.1).x87PoppedIf c.pops.2, ?_, ?_, ?_⟩
  · intro lhs rhs ctx hs hmasked hoperands hempty
    have hcompare := hrun lhs rhs ctx hs hmasked
    generalize (x87Cmp H.soft (lhs.value ctx.state) (rhs.value ctx.state) c.quiet).1 = r at hcompare ⊢
    have hfirst := @popIf_masked c.pops.1 { ctx with state := f r ctx.state } (hmaskedFirst r hmasked)
    rw [c.handler_eq hoperands, hempty, bind_ok hcompare, bind_ok hfirst]
    exact @popIf_masked c.pops.2 { ctx with state := (f r ctx.state).x87PoppedIf c.pops.1 }
      (hmaskedSecond r hmasked)
  · intro r s hmasked
    obtain ⟨hunordered, hinvalid, -⟩ := hresult r s hmasked
    have hfirst := x87PoppedIf_result c.pops.1 (hmaskedFirst r hmasked)
    have hsecond := x87PoppedIf_result c.pops.2 (hmaskedSecond r hmasked)
    exact ⟨((hsecond.unordered _).trans (hfirst.unordered _)).trans hunordered,
      hsecond.invalid (hfirst.invalid hinvalid)⟩
  · intro r s stack
    show ((f r (s.withStack stack)).x87PoppedIf c.pops.1).x87PoppedIf c.pops.2 = _
    rw [hstale r s stack, x87PoppedIf_withStack c.pops.1 (f r s) stack]
    exact x87PoppedIf_withStack c.pops.2 _ stack

/-- Other numbers in empty registers: the operands are the same ones. -/
theorem operands_withStack {ctx : ExecutionContext} (stack : Fin 8 → Float80) :
    c.operands H (ctx.withStack stack) = c.operands H ctx := by
  cases c with
  | sti form => rfl
  | fcomM32fp | fcompM32fp | fcomM64fp | fcompM64fp | fcompp | fucompp => rfl

section

variable {c} {lhs rhs : CompareOperand} {ctx : ExecutionContext} (hs : X87WellFormed ctx.state)
  (hmasked : x87ExceptionsMasked ctx.state kX87ExceptionInvalid = true)
  (hoperands : c.operands H ctx = some (lhs, rhs))
  (hempty : lhs.isEmpty ctx.state = true ∨ rhs.isEmpty ctx.state = true)
include hs hmasked hoperands hempty

/-- With zeros in the empty registers only another operand can be a NaN. -/
theorem holdsNaN_of_compared (h : EmptyCompared H c ctx) :
    lhs.HoldsNaN ctx.state ∨ rhs.HoldsNaN ctx.state := by
  obtain ⟨f, hrun, hresult, -⟩ := @handler_empty H c
  obtain ⟨after, -, hunordered, -, hstale⟩ := h
  have hor : (lhs.isEmpty ctx.state || rhs.isEmpty ctx.state) = true :=
    Bool.or_eq_true_iff.mpr hempty
  have hzeros : ctx.state.StaleOnly ctx.state.zeroedStack := fun i htag => if_neg htag
  have hcleared := hstale _ hzeros
  have hagain := hrun lhs rhs (ctx.withStack ctx.state.zeroedStack) ⟨hs.top_lt, hs.top_eq, hs.tags⟩
    hmasked ((c.operands_withStack _).trans hoperands) hor
  have hstate := congrArg (fun r => (finalState r).state) (hagain.symm.trans hcleared)
  dsimp only [finalState] at hstate
  have hkept : Unordered c.eflags (after.withStack ctx.state.zeroedStack).state := hunordered
  rw [← hstate, (hresult _ (ctx.withStack ctx.state.zeroedStack).state hmasked).1,
    x87Cmp_unordered] at hkept
  exact hkept.imp CompareOperand.holdsNaN_of_zeroed CompareOperand.holdsNaN_of_zeroed

/-- A NaN in the other operand makes every run end unordered. -/
theorem compared_of_holdsNaN (h : lhs.HoldsNaN ctx.state ∨ rhs.HoldsNaN ctx.state) :
    EmptyCompared H c ctx := by
  obtain ⟨f, hrun, hresult, hstack⟩ := @handler_empty H c
  have hor : (lhs.isEmpty ctx.state || rhs.isEmpty ctx.state) = true :=
    Bool.or_eq_true_iff.mpr hempty
  -- A NaN in an occupied register makes the relation unordered whatever the stale one holds.
  have hnan {stack : Fin 8 → Float80} (hstale : ctx.state.StaleOnly stack) :
      (x87Cmp H.soft (lhs.value (ctx.state.withStack stack)) (rhs.value (ctx.state.withStack stack))
        c.quiet).1 = -2 := by
    refine (x87Cmp_unordered _ _ _).mpr (h.imp (fun h => ?_) fun h => ?_)
    · rw [CompareOperand.value_withStack hstale h.1]
      exact h.2
    · rw [CompareOperand.value_withStack hstale h.1]
      exact h.2
  have hself : (x87Cmp H.soft (lhs.value ctx.state) (rhs.value ctx.state) c.quiet).1 = -2 :=
    @hnan ctx.state.x87Stack fun _ _ => rfl
  have hok := hrun lhs rhs ctx hs hmasked hoperands hor
  obtain ⟨hunordered, hinvalid⟩ := hresult (-2) ctx.state hmasked
  rw [hself] at hok
  refine ⟨_, hok, hunordered.mpr rfl, hinvalid, fun stack hstale => ?_⟩
  have hagain := hrun lhs rhs (ctx.withStack stack) ⟨hs.top_lt, hs.top_eq, hs.tags⟩ hmasked
    ((c.operands_withStack stack).trans hoperands) hor
  have hsame : f (-2) (ctx.withStack stack).state = (f (-2) ctx.state).withStack stack :=
    hstack (-2) ctx.state stack
  have hrelation : (x87Cmp H.soft (lhs.value (ctx.withStack stack).state)
      (rhs.value (ctx.withStack stack).state) c.quiet).1 = -2 := hnan hstale
  rw [hrelation, hsame] at hagain
  exact hagain

end

end X87Comparison

/-! ## ST(1) is empty -/

/-- The register of every operand is ST(1). -/
def secondHost : X87Host := { bitwiseHost with number := fun _ => 1#32 }

/-- `FLD` of a NaN. -/
def nanLoaded : CpuState := (emptyStack.x87Push bitwiseFloat Float80.quietNaN).2

/-- A loaded stack is well formed. -/
theorem loaded_wellFormed (value : Float80) :
    X87WellFormed (emptyStack.x87Push bitwiseFloat value).2 :=
  (X87WellFormed.x87Reset bitwiseFloat).x87Push bitwiseFloat value

end Seven
