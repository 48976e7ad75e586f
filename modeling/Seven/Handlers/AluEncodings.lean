import Seven.Cpu.Flags
import Seven.Handlers.AluRestart
import Seven.Handlers.Binary

/-!
# The encodings of an ALU operation

Each operation has twenty forms, each with its own immediate and its own
extension of it. `CMP` has the same twenty without the write-back, `TEST` has
sixteen, some of them twice. All of them compute one function of two numbers:

> `aluCompute_congr`: at the operand width that function depends on nothing
> but the operands at that width.

So forms given equal operands leave equal flags and equal results where they
store them (`Leaves`), `CMP` and `TEST` leave the flags of `SUB` and `AND`,
and `INC`, `DEC` and `NEG` what the `ADD` and `SUB` they abbreviate leave.
-/

namespace Seven

open Seven.Lib

/-! ## `TEST` -/

/-- `TEST` has no `R, RM` and no extended byte; its immediate forms have a
second opcode. -/
inductive TestForm where
  | rm8R8 | rm16R16 | rm32R32 | rm64R64
  | rm8Imm8 | rm16Imm16 | rm32Imm32 | rm64Imm32
  | alImm8 | axImm16 | eaxImm32 | raxImm32
  | rm8Imm8F6r1 | rm16Imm16F7r1 | rm32Imm32F7r1 | rm64Imm32F7r1
deriving DecidableEq, Repr

/-- The operands of `TEST`, as the other forms name them. -/
def TestForm.operands : TestForm → BinaryForm
  | .rm8R8 => .rm .rm8R8
  | .rm16R16 => .rm .rm16R16
  | .rm32R32 => .rm .rm32R32
  | .rm64R64 => .rm .rm64R64
  | .rm8Imm8 | .rm8Imm8F6r1 => .rm .rm8Imm8
  | .rm16Imm16 | .rm16Imm16F7r1 => .rm .rm16Imm16
  | .rm32Imm32 | .rm32Imm32F7r1 => .rm .rm32Imm32
  | .rm64Imm32 | .rm64Imm32F7r1 => .rm .rm64Imm32
  | .alImm8 => .accImm .rm8
  | .axImm16 => .accImm .rm16
  | .eaxImm32 => .accImm .rm32
  | .raxImm32 => .accImm .rm64

/-- `TEST`: the flags of `AND`, nothing stored. -/
def handleTest (form : TestForm) : Handler := do
  let operands ← binaryOperands form.operands
  modifyState fun s => setFlags s
    (setLogicFlags s.rflags (operands.1 &&& operands.2) form.operands.width)

/-! ## Operands and outcomes -/

/-- The operands of `form` are `a` and `b` at its width. -/
def BinaryForm.Operands (form : BinaryForm) (ctx : ExecutionContext) (a b : U64) : Prop :=
  ∃ operands, binaryOperands form ctx = .ok operands ctx ∧
    truncate operands.1 form.width = truncate a form.width ∧
    truncate operands.2 form.width = truncate b form.width

/-- One result at the width, and the same flags. -/
def SameResult (w : Nat) (p q : U64 × U64) : Prop :=
  truncate p.1 w = truncate q.1 w ∧ p.2 = q.2

/-- The same result. -/
theorem SameResult.refl (w : Nat) (p : U64 × U64) : SameResult w p p := ⟨rfl, rfl⟩

/-- Either way round. -/
theorem SameResult.symm {w : Nat} {p q : U64 × U64} (h : SameResult w p q) : SameResult w q p :=
  ⟨h.1.symm, h.2.symm⟩

/-- One after the other. -/
theorem SameResult.trans {w : Nat} {p q r : U64 × U64} (h : SameResult w p q)
    (h' : SameResult w q r) : SameResult w p r :=
  ⟨h.1.trans h'.1, h.2.trans h'.2⟩

/-! ## The computation at the width -/

section Congr

variable {w : Nat} {a a' b b' r r' : U64} (rflags : U64)

/-- The flags of an addition depend on the operands at the width. -/
theorem setAddFlags_congr (ha : truncate a w = truncate a' w) (hb : truncate b w = truncate b' w)
    (hr : truncate r w = truncate r' w) (c : Bool) :
    setAddFlags rflags a b r w c = setAddFlags rflags a' b' r' w c := by
  unfold truncate at ha hb hr
  unfold setAddFlags
  dsimp only
  rw [ha, hb, hr]

/-- So do those of a subtraction. -/
theorem setSubFlags_congr (ha : truncate a w = truncate a' w) (hb : truncate b w = truncate b' w)
    (hr : truncate r w = truncate r' w) (c : Bool) :
    setSubFlags rflags a b r w c = setSubFlags rflags a' b' r' w c := by
  unfold truncate at ha hb hr
  unfold setSubFlags
  dsimp only
  rw [ha, hb, hr]

/-- And those of a logical operation. -/
theorem setLogicFlags_congr (hr : truncate r w = truncate r' w) :
    setLogicFlags rflags r w = setLogicFlags rflags r' w := by
  unfold setLogicFlags
  rw [hr]

variable (hw : w ≤ 8)

include hw

/-- Truncation keeps the number the low bytes hold, and nothing else. -/
theorem truncate_eq_iff : truncate a w = truncate a' w ↔ unsignedAt w a = unsignedAt w a' := by
  rw [← BitVec.toNat_inj, truncate_toNat a hw, truncate_toNat a' hw]
  rfl

/-- Addition at a width. -/
theorem truncate_add (ha : truncate a w = truncate a' w) (hb : truncate b w = truncate b' w) :
    truncate (a + b) w = truncate (a' + b') w := by
  rw [truncate_eq_iff hw] at ha hb ⊢
  rw [unsignedAt_add a b hw, unsignedAt_add a' b' hw, ha, hb]

/-- Subtraction at a width. -/
theorem truncate_sub (ha : truncate a w = truncate a' w) (hb : truncate b w = truncate b' w) :
    truncate (a - b) w = truncate (a' - b') w := by
  rw [truncate_eq_iff hw] at ha hb ⊢
  rw [unsignedAt_sub a b hw, unsignedAt_sub a' b' hw, ha, hb]

omit hw in
/-- A bitwise operation at a width. -/
theorem truncate_bitwise {f : U64 → U64 → U64} {g : Bool → Bool → Bool}
    (hf : ∀ x y i, (f x y).getLsbD i = g (x.getLsbD i) (y.getLsbD i))
    (ha : truncate a w = truncate a' w) (hb : truncate b w = truncate b' w) :
    truncate (f a b) w = truncate (f a' b') w := by
  unfold truncate at ha hb ⊢
  apply BitVec.eq_of_getLsbD_eq
  intro i _
  have hai := congrArg (fun v => v.getLsbD i) ha
  have hbi := congrArg (fun v => v.getLsbD i) hb
  rw [BitVec.getLsbD_and, BitVec.getLsbD_and] at hai hbi ⊢
  rw [hf, hf]
  cases hm : (maskForWidth w).getLsbD i with
  | true =>
    rw [hm, Bool.and_true, Bool.and_true] at hai hbi
    rw [hai, hbi]
  | false => rw [Bool.and_false, Bool.and_false]

/-- **One operation** on operands that agree at the width has one outcome. -/
theorem aluCompute_congr (op : AluOp) (ha : truncate a w = truncate a' w)
    (hb : truncate b w = truncate b' w) :
    SameResult w (aluCompute op w rflags a b) (aluCompute op w rflags a' b') := by
  have hcarry : truncate (if flagSet rflags kFlagCF then 1#64 else 0#64) w =
      truncate (if flagSet rflags kFlagCF then 1#64 else 0#64) w := rfl
  -- The result depends on the operands' low bytes only, and so do the flags.
  cases op with
  | add =>
    have hr := truncate_add hw ha hb
    exact ⟨hr, setAddFlags_congr rflags ha hb hr false⟩
  | adc =>
    have hr := truncate_add hw (truncate_add hw ha hb) hcarry
    exact ⟨hr, setAddFlags_congr rflags ha hb hr _⟩
  | sub =>
    have hr := truncate_sub hw ha hb
    exact ⟨hr, setSubFlags_congr rflags ha hb hr false⟩
  | sbb =>
    have hr := truncate_sub hw (truncate_sub hw ha hb) hcarry
    exact ⟨hr, setSubFlags_congr rflags ha hb hr _⟩
  | and =>
    have hr := truncate_bitwise (f := (· &&& ·)) (fun _ _ _ => BitVec.getLsbD_and) ha hb
    exact ⟨hr, setLogicFlags_congr rflags hr⟩
  | or =>
    have hr := truncate_bitwise (f := (· ||| ·)) (fun _ _ _ => BitVec.getLsbD_or) ha hb
    exact ⟨hr, setLogicFlags_congr rflags hr⟩
  | xor =>
    have hr := truncate_bitwise (f := (· ^^^ ·)) (fun _ _ _ => BitVec.getLsbD_xor) ha hb
    exact ⟨hr, setLogicFlags_congr rflags hr⟩

end Congr

/-! ## What the handlers leave -/

variable {ctx : ExecutionContext}

/-- `TEST`, its operands read. -/
theorem handleTest_ok {form : TestForm} {operands : U64 × U64}
    (hoperands : binaryOperands form.operands ctx = .ok operands ctx) :
    handleTest form ctx = .ok () { ctx with
      state := setFlags ctx.state
        (setLogicFlags ctx.state.rflags (operands.1 &&& operands.2) form.operands.width) } := by
  unfold handleTest
  rw [bind_ok hoperands]
  rfl

/-- `INC`, `DEC`, `NEG`, `NOT`, the operand read. -/
theorem handleUnary_ok (op : UnaryOp) (w : RmWidth) {a : U64}
    (h : readOperand ctx 0 w.bytes = some a) :
    handleUnary op w ctx =
      flagsThenWrite w.bytes (unaryCompute op w.bytes ctx.state.rflags a) ctx := by
  have hget : (get : HandlerM ExecutionContext) ctx = .ok ctx ctx := rfl
  unfold handleUnary rmwOperand
  rw [bind_ok (readOperandChecked_ok_iff.mpr h), bind_ok hget]

/-! ## Agreement -/

/-- A run of a form that stores `value` and sets the flags to `flags`. In a
register of the form's width, and in plain memory, the value can be read
behind it. -/
structure Leaves (form : BinaryForm) (run : Handler) (ctx : ExecutionContext) (value flags : U64) :
    Prop where
  stores : ∃ out, run ctx = storeBinary form out ctx ∧ truncate out.1 form.width = value
  flags : ∀ ctx', run ctx = .ok () ctx' → ctx'.state.rflags = flags
  result : WholeDestination form ctx →
    ∃ ctx', run ctx = .ok () ctx' ∧ destination form ctx' = some value

/-- A handler that is a store leaves what it stores. -/
theorem leaves_of_store {form : BinaryForm} {run : Handler} {out : U64 × U64}
    (h : run ctx = storeBinary form out ctx) :
    Leaves form run ctx (truncate out.1 form.width) out.2 where
  stores := ⟨out, h, rfl⟩
  flags := by
    intro ctx' hrun
    rw [h] at hrun
    exact storeBinary_rflags hrun
  result := by
    intro hwhole
    obtain ⟨ctx', hstore, _, hread⟩ := hwhole.stores out
    exact ⟨ctx', h.trans hstore, hread⟩

/-- **What a form leaves**, from its operands at the width. -/
theorem leaves_of_operands (op : AluOp) {form : BinaryForm} {a b : U64}
    (h : form.Operands ctx a b) :
    Leaves form (handleBinary op form) ctx
      (truncate (aluCompute op form.width ctx.state.rflags a b).1 form.width)
      (aluCompute op form.width ctx.state.rflags a b).2 := by
  obtain ⟨operands, hoperands, ha, hb⟩ := h
  obtain ⟨hresult, hflags⟩ := aluCompute_congr ctx.state.rflags form.width_le op ha hb
  rw [← hresult, ← hflags]
  exact leaves_of_store (handleBinary_store op hoperands)

/-- `form` in `ctx` and `form'` in `ctx'` are given the same operands and
flags. -/
structure SameOperands (form form' : BinaryForm) (ctx ctx' : ExecutionContext) (a b : U64) :
    Prop where
  width : form.width = form'.width
  rflags : ctx.state.rflags = ctx'.state.rflags
  left : form.Operands ctx a b
  right : form'.Operands ctx' a b

/-- The flags with the carry put back. -/
def keepCarry (rflags flags : U64) : U64 := setFlag flags kFlagCF (flagSet rflags kFlagCF)

/-- The form whose destination is that of a one-operand instruction. -/
def RmWidth.unaryForm : RmWidth → BinaryForm
  | .rm8 => .rm .rm8R8
  | .rm16 => .rm .rm16R16
  | .rm32 => .rm .rm32R32
  | .rm64 => .rm .rm64R64

/-- The unary forms store like the binary ones. -/
theorem RmWidth.storeBinary_unaryForm (w : RmWidth) (out : U64 × U64) :
    storeBinary w.unaryForm out = flagsThenWrite w.bytes out := by
  cases w <;> rfl

/-- At the same width. -/
theorem RmWidth.unaryForm_width (w : RmWidth) : w.unaryForm.width = w.bytes := by
  cases w <;> rfl

/-- A one-operand instruction leaves what it computes. -/
theorem leaves_of_unary (op : UnaryOp) (w : RmWidth) {a : U64}
    (h : readOperand ctx 0 w.bytes = some a) :
    Leaves w.unaryForm (handleUnary op w) ctx
      (truncate (unaryCompute op w.bytes ctx.state.rflags a).1 w.bytes)
      (unaryCompute op w.bytes ctx.state.rflags a).2 := by
  rw [← w.unaryForm_width]
  refine leaves_of_store ?_
  rw [w.storeBinary_unaryForm, w.unaryForm_width]
  exact handleUnary_ok op w h

/-- What a one-operand instruction computes, by the operation it abbreviates. -/
def UnaryOp.abbreviates (op : UnaryOp) (w : Nat) (rflags x : U64) : U64 × U64 :=
  match op with
  | .inc => (aluCompute .add w rflags x 1#64).map id (keepCarry rflags)
  | .dec => (aluCompute .sub w rflags x 1#64).map id (keepCarry rflags)
  | .neg => aluCompute .sub w rflags 0#64 x
  | .not => unaryCompute .not w rflags x

/-- Each unary operation is a binary one, at every operand. -/
theorem unaryCompute_abbreviates (op : UnaryOp) (w : Nat) (rflags x : U64) :
    SameResult w (unaryCompute op w rflags x) (op.abbreviates w rflags x) := by
  cases op with
  | inc | dec | not => exact ⟨rfl, rfl⟩
  | neg =>
    have hr : truncate (truncate (-x) w) w = truncate (0#64 - x) w := by
      rw [truncate_truncate, BitVec.zero_sub]
    exact ⟨hr, setSubFlags_congr rflags rfl rfl hr false⟩

/-- The one-operand instruction leaves what every form of `op` leaves that has
the operands `a` and `b`, but for the flags that `keep` puts back. -/
def StandsFor (u : UnaryOp) (w : RmWidth) (op : AluOp) (keep : U64 → U64)
    (ctx : ExecutionContext) (a b : U64) : Prop :=
  ∀ form : BinaryForm, ∀ ctx' : ExecutionContext, form.width = w.bytes →
    ctx'.state.rflags = ctx.state.rflags → form.Operands ctx' a b →
    ∃ value flags, Leaves w.unaryForm (handleUnary u w) ctx value (keep flags) ∧
      Leaves form (handleBinary op form) ctx' value flags

/-- An encoding that stands for another leaves what the other leaves. -/
theorem standsFor {u : UnaryOp} {w : RmWidth} {op : AluOp} {keep : U64 → U64} {x a b : U64}
    (hx : readOperand ctx 0 w.bytes = some x)
    (habbr : u.abbreviates w.bytes ctx.state.rflags x =
      (aluCompute op w.bytes ctx.state.rflags a b).map id keep) :
    StandsFor u w op keep ctx a b := by
  intro form ctx' hwidth hflags hops
  have hbinary := leaves_of_operands op hops
  obtain ⟨hresult, hsame⟩ := unaryCompute_abbreviates u w.bytes ctx.state.rflags x
  rw [habbr] at hresult hsame
  have hunary := leaves_of_unary u w hx
  rw [hresult, hsame] at hunary
  rw [hwidth, hflags] at hbinary
  exact ⟨_, _, hunary, hbinary⟩

/-- **The encodings agree.** Two forms of an operation given equal operands
leave equal results and flags; a comparison leaves the flags of `SUB` and
`TEST` those of `AND`, and nothing else; `INC`, `DEC` and `NEG` leave what the
addition and the subtractions they stand for leave. The `RM` forms among them
are the handlers that are dispatched under their codes. -/
theorem encodings_agree :
    (∀ op form form' ctx ctx' a b, SameOperands form form' ctx ctx' a b →
      ∃ value flags, Leaves form (handleBinary op form) ctx value flags ∧
        Leaves form' (handleBinary op form') ctx' value flags) ∧
    (∀ (form : BinaryForm) (ctx : ExecutionContext) a b, form.Operands ctx a b →
      ∃ value flags, Leaves form (handleBinary .sub form) ctx value flags ∧
        handleCmp form ctx = .ok () { ctx with state := setFlags ctx.state flags }) ∧
    (∀ (t : TestForm) (ctx : ExecutionContext) a b, t.operands.Operands ctx a b →
      ∃ value flags, Leaves t.operands (handleBinary .and t.operands) ctx value flags ∧
        handleTest t ctx = .ok () { ctx with state := setFlags ctx.state flags }) ∧
    (∀ (w : RmWidth) (ctx : ExecutionContext) x, readOperand ctx 0 w.bytes = some x →
      StandsFor .inc w .add (keepCarry ctx.state.rflags) ctx x 1#64 ∧
      StandsFor .dec w .sub (keepCarry ctx.state.rflags) ctx x 1#64 ∧
      StandsFor .neg w .sub id ctx 0#64 x) ∧
    ∀ (op : AluOp) (form : AluForm), handleBinary op (.rm form) = handleAlu op form := by
  refine ⟨?_, ?_, ?_, ?_, handleBinary_rm⟩
  · intro op form form' ctx ctx' a b h
    have hright := leaves_of_operands op h.right
    rw [← h.width, ← h.rflags] at hright
    exact ⟨_, _, leaves_of_operands op h.left, hright⟩
  · rintro form ctx a b ⟨operands, hoperands, _, _⟩
    exact ⟨_, _, leaves_of_store (handleBinary_store .sub hoperands), handleCmp_ok hoperands⟩
  · rintro t ctx a b ⟨operands, hoperands, _, _⟩
    exact ⟨_, _, leaves_of_store (handleBinary_store .and hoperands), handleTest_ok hoperands⟩
  · intro w ctx x hx
    exact ⟨standsFor hx rfl, standsFor hx rfl, standsFor hx rfl⟩

/-- `AL` holds seven, `BL` and the immediate the same five. -/
def encodingContext : ExecutionContext where
  state := (({} : CpuState).setGpr 0 7#64).setGpr 3 5#64
  memory := {}
  instr :=
    { code := .other 0, length := 2, opRegister := fun i => if i = 0 then .r8 0 else .r8 3
      immediate8 := 5#64 }
  nextRip := 0#64

/-- `SUB AL, BL` and `SUB AL, 5` both leave two in `AL`, and the same flags. -/
theorem encodings_agree_byte :
    ∃ ctx ctx', handleBinary .sub (.rm .rm8R8) encodingContext = .ok () ctx ∧
      handleBinary .sub (.accImm .rm8) encodingContext = .ok () ctx' ∧
      ctx.state.rflags = ctx'.state.rflags ∧
      destination (.rm .rm8R8) ctx = some 2#64 ∧ destination (.accImm .rm8) ctx' = some 2#64 := by
  obtain ⟨value, flags, hleft, hright⟩ := encodings_agree.1 .sub (.rm .rm8R8) (.accImm .rm8)
    encodingContext encodingContext 7#64 5#64
    ⟨rfl, rfl, ⟨_, rfl, by decide, by decide⟩, ⟨_, rfl, by decide, by decide⟩⟩
  obtain ⟨ctx, hrun, hread⟩ := hleft.result (WholeDestination.register rfl trivial rfl)
  obtain ⟨ctx', hrun', hread'⟩ := hright.result (WholeDestination.register rfl trivial rfl)
  have htwo : value = 2#64 := by
    have hal : (match handleBinary .sub (.rm .rm8R8) encodingContext with
        | .ok _ ctx => destination (.rm .rm8R8) ctx
        | .error _ _ => none) = some 2#64 := by decide
    rw [hrun] at hal
    exact Option.some.inj (hread.symm.trans hal)
  rw [htwo] at hread hread'
  exact ⟨ctx, ctx', hrun, hrun', (hleft.flags ctx hrun).trans (hright.flags ctx' hrun').symm, hread,
    hread'⟩

end Seven
