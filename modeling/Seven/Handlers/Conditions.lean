import Seven.Handlers.Binary

/-!
# Condition codes

The sixteen conditions are implemented twice: every `Jcc` handler has its own
test of RFLAGS, and `CMOVcc` and `SETcc` share the evaluator `evalCond`. Here
both are stated as the source has them, and shown to be the same decision
(`jccTest_eq`). What a decision is *about* is the second half: after a
comparison of `lhs` and `rhs`, the conditions are the signed and unsigned
orders of the operands (`compares_setSubFlags`).
-/

namespace Seven

open Seven.Lib

/-- The condition codes. -/
inductive Cond where
  | o | no | b | ae | e | ne | be | a | s | ns | p | np | l | ge | le | g
deriving DecidableEq, Repr

/-- `eval_cond`. -/
def evalCond (state : CpuState) (cond : Cond) : Bool :=
  let cf := flagSet state.rflags kFlagCF
  let pf := flagSet state.rflags kFlagPF
  let zf := flagSet state.rflags kFlagZF
  let sf := flagSet state.rflags kFlagSF
  let of := flagSet state.rflags kFlagOF
  match cond with
  | .o => of
  | .no => !of
  | .b => cf
  | .ae => !cf
  | .e => zf
  | .ne => !zf
  | .be => cf || zf
  | .a => !cf && !zf
  | .s => sf
  | .ns => !sf
  | .p => pf
  | .np => !pf
  | .l => sf != of
  | .ge => sf == of
  | .le => zf || sf != of
  | .g => !zf && sf == of

/-! ## `Jcc` -/

/-- The forms of a conditional jump; their handlers do not differ. -/
inductive JccForm where
  | rel8_16 | rel8_32 | rel8_64 | rel16 | rel32_32 | rel32_64
deriving DecidableEq, Repr

/-- The test in `handle_code_JO_*`, in `handle_code_JNO_*`, and so on: each file
has its own. -/
def jccTest (cond : Cond) (rflags : U64) : Bool :=
  match cond with
  | .o => rflags &&& kFlagOF != 0#64
  | .no => rflags &&& kFlagOF == 0#64
  | .b => rflags &&& kFlagCF != 0#64
  | .ae => rflags &&& kFlagCF == 0#64
  | .e => rflags &&& kFlagZF != 0#64
  | .ne => rflags &&& kFlagZF == 0#64
  | .be => rflags &&& kFlagCF != 0#64 || rflags &&& kFlagZF != 0#64
  | .a => rflags &&& kFlagCF == 0#64 && rflags &&& kFlagZF == 0#64
  | .s => rflags &&& kFlagSF != 0#64
  | .ns => rflags &&& kFlagSF == 0#64
  | .p => rflags &&& kFlagPF != 0#64
  | .np => rflags &&& kFlagPF == 0#64
  | .l => (rflags &&& kFlagSF != 0#64) != (rflags &&& kFlagOF != 0#64)
  | .ge => (rflags &&& kFlagSF != 0#64) == (rflags &&& kFlagOF != 0#64)
  | .le =>
    rflags &&& kFlagZF != 0#64 || (rflags &&& kFlagSF != 0#64) != (rflags &&& kFlagOF != 0#64)
  | .g =>
    rflags &&& kFlagZF == 0#64 && (rflags &&& kFlagSF != 0#64) == (rflags &&& kFlagOF != 0#64)

/-- `handle_code_Jcc_*`: the test of the condition around one body. -/
def handleJcc (cond : Cond) (_form : JccForm) : Handler := do
  let ctx ← get
  if jccTest cond ctx.state.rflags then
    modifyState fun s => { s with rip := ctx.instr.nearBranch64 }
    takeControlFlow

/-! ## `CMOVcc` and `SETcc` -/

/-- `CMOVcc`: the source is read whatever the condition says, and a 32-bit
move that is not taken still clears the upper half of its destination. -/
def handleCmovcc (cond : Cond) (width : RmWideWidth) : Handler := do
  let src ← readOperandChecked 1 width.bytes
  let ctx ← get
  let dst := ctx.instr.opRegister 0
  if evalCond ctx.state cond then
    modifyState fun s => writeRegister s dst src width.bytes
  else if width = .rm32 then
    modifyState fun s => writeRegister s dst (readRegister s dst &&& 0xFFFFFFFF#64) 4

/-- `SETcc`. -/
def handleSetcc (cond : Cond) : Handler := do
  let ctx ← get
  writeOperandChecked 0 (if evalCond ctx.state cond then 1#64 else 0#64) 1

/-! ## One decision -/

/-- The context a jump leaves. -/
def jumped (ctx : ExecutionContext) : ExecutionContext :=
  { ctx with
    state := { ctx.state with rip := ctx.instr.nearBranch64 }
    controlFlowTaken := true }

/-- The context a conditional move leaves, with the value it read. -/
def conditionallyMoved (ctx : ExecutionContext) (width : RmWideWidth) (src : U64)
    (taken : Bool) : ExecutionContext :=
  let dst := ctx.instr.opRegister 0
  if taken then { ctx with state := writeRegister ctx.state dst src width.bytes }
  else if width = .rm32 then
    { ctx with state :=
      writeRegister ctx.state dst (readRegister ctx.state dst &&& 0xFFFFFFFF#64) 4 }
  else ctx

/-- Each jump's own test is the evaluator's case: where the jumps compare the
masked bit with zero, the evaluator negates it. -/
theorem jccTest_eq (cond : Cond) (s : CpuState) : jccTest cond s.rflags = evalCond s cond := by
  have hnot (bit : U64) : (s.rflags &&& bit == 0#64) = !flagSet s.rflags bit := by
    unfold flagSet
    rw [bne, Bool.not_not]
  unfold jccTest evalCond
  cases cond with
  | o | b | e | s | p | be | l | ge | le => rfl
  | no | ae | ne | ns | np => exact hnot _
  | a =>
    dsimp only
    rw [hnot, hnot]
  | g =>
    dsimp only
    rw [hnot]
    rfl

/-- A jump, taken or not. -/
theorem handleJcc_run (cond : Cond) (form : JccForm) (ctx : ExecutionContext) :
    handleJcc cond form ctx = .ok () (if evalCond ctx.state cond then jumped ctx else ctx) := by
  unfold handleJcc
  rw [bind_ok (show (get : HandlerM ExecutionContext) ctx = .ok ctx ctx from rfl), jccTest_eq]
  split <;> rfl

/-- A conditional move: the destination is written either way, as the source does it. -/
theorem handleCmovcc_run (cond : Cond) (width : RmWideWidth) {ctx : ExecutionContext} {src : U64}
    (hsrc : readOperand ctx 1 width.bytes = some src) :
    handleCmovcc cond width ctx =
      .ok () (conditionallyMoved ctx width src (evalCond ctx.state cond)) := by
  unfold handleCmovcc conditionallyMoved
  rw [bind_ok (readOperandChecked_ok_iff.mpr hsrc),
    bind_ok (show (get : HandlerM ExecutionContext) ctx = .ok ctx ctx from rfl)]
  by_cases htaken : evalCond ctx.state cond = true
  · rw [if_pos htaken, if_pos htaken]
    rfl
  · rw [if_neg htaken, if_neg htaken]
    split <;> rfl

/-- `SETcc` stores the condition. -/
theorem handleSetcc_run (cond : Cond) (ctx : ExecutionContext) :
    handleSetcc cond ctx =
      writeOperandChecked 0 (if evalCond ctx.state cond then 1#64 else 0#64) 1 ctx := by
  unfold handleSetcc
  rw [bind_ok (show (get : HandlerM ExecutionContext) ctx = .ok ctx ctx from rfl)]

/-! ## What the conditions compare -/

/-- The ten conditions that stand for a comparison of `lhs` and `rhs`, signed,
unsigned or for equality at the width. -/
structure ComparesAs (w : Nat) (lhs rhs : U64) (holds : Cond → Bool) : Prop where
  l : holds .l = true ↔ signedAt w lhs < signedAt w rhs
  ge : holds .ge = true ↔ signedAt w rhs ≤ signedAt w lhs
  le : holds .le = true ↔ signedAt w lhs ≤ signedAt w rhs
  g : holds .g = true ↔ signedAt w rhs < signedAt w lhs
  b : holds .b = true ↔ unsignedAt w lhs < unsignedAt w rhs
  ae : holds .ae = true ↔ unsignedAt w rhs ≤ unsignedAt w lhs
  be : holds .be = true ↔ unsignedAt w lhs ≤ unsignedAt w rhs
  a : holds .a = true ↔ unsignedAt w rhs < unsignedAt w lhs
  e : holds .e = true ↔ unsignedAt w lhs = unsignedAt w rhs
  ne : holds .ne = true ↔ unsignedAt w lhs ≠ unsignedAt w rhs

/-- Equal at the width, signed or unsigned. -/
theorem unsignedAt_eq_iff_signedAt (w : Nat) (lhs rhs : U64) :
    unsignedAt w lhs = unsignedAt w rhs ↔ signedAt w lhs = signedAt w rhs := by
  have ha := unsignedAt_lt w lhs
  have hb := unsignedAt_lt w rhs
  have htwice : ((2 : Int) ^ (8 * w)) = ((2 ^ (8 * w) : Nat) : Int) := by norm_cast
  unfold signedAt
  rw [htwice]
  split <;> split <;> omega

/-- After a comparison every condition is the relation of its name. -/
theorem compares_setSubFlags {w : Nat} (h0 : 0 < w) (hw : w ≤ 8) (s : CpuState) (lhs rhs : U64) :
    ComparesAs w lhs rhs
      (evalCond (setFlags s (setSubFlags s.rflags lhs rhs (lhs - rhs) w false))) := by
  have hcf := setSubFlags_carry h0 hw s.rflags lhs rhs (lhs - rhs) false
  have hzf := setSubFlags_equal hw s.rflags lhs rhs false
  have hless := setSubFlags_less h0 hw s.rflags lhs rhs false
  have heq := unsignedAt_eq_iff_signedAt w lhs rhs
  unfold evalCond
  have hstate : (setFlags s (setSubFlags s.rflags lhs rhs (lhs - rhs) w false)).rflags =
      setSubFlags s.rflags lhs rhs (lhs - rhs) w false := rfl
  rw [hstate]
  generalize setSubFlags s.rflags lhs rhs (lhs - rhs) w false = r at *
  have hsame : (flagSet r kFlagSF == flagSet r kFlagOF) =
      !decide (signedAt w lhs < signedAt w rhs) := by
    rw [← hless, bne, Bool.not_not]
  simp only [Bool.toNat_false, Nat.add_zero] at hcf
  constructor <;>
    simp only [hcf, hzf, hless, hsame, Bool.or_eq_true, Bool.and_eq_true, Bool.not_eq_true',
      decide_eq_true_iff, decide_eq_false_iff_not] <;>
    omega

/-- An operand has bytes. -/
theorem RmWidth.bytes_pos (width : RmWidth) : 0 < width.bytes := by cases width <;> decide

/-- At most eight. -/
theorem RmWidth.bytes_le (width : RmWidth) : width.bytes ≤ 8 := by cases width <;> decide

/-- **Conditions mean comparisons.** After `set_sub_flags`, and so after any
`CMP` that could read its operands, the conditions are the orders of the
operands; and from any state the three families decide by the same Boolean:
`Jcc` jumps, `CMOVcc` moves and `SETcc` stores one exactly when it is true. -/
theorem conditions_compare :
    (∀ (s : CpuState) (w : RmWidth) (lhs rhs : U64), ComparesAs w.bytes lhs rhs
        (evalCond (setFlags s (setSubFlags s.rflags lhs rhs (lhs - rhs) w.bytes false)))) ∧
      (∀ (form : BinaryForm) (ctx : ExecutionContext) (operands : U64 × U64),
        binaryOperands form ctx = .ok operands ctx →
        ∃ ctx', handleCmp form ctx = .ok () ctx' ∧
          ComparesAs form.width operands.1 operands.2 (evalCond ctx'.state)) ∧
      ∀ (cond : Cond) (ctx : ExecutionContext),
        (∀ form : JccForm, handleJcc cond form ctx =
          .ok () (if evalCond ctx.state cond then jumped ctx else ctx)) ∧
        (∀ (width : RmWideWidth) (src : U64), readOperand ctx 1 width.bytes = some src →
          handleCmovcc cond width ctx =
            .ok () (conditionallyMoved ctx width src (evalCond ctx.state cond))) ∧
        handleSetcc cond ctx =
          writeOperandChecked 0 (if evalCond ctx.state cond then 1#64 else 0#64) 1 ctx := by
  refine ⟨fun s w lhs rhs => compares_setSubFlags w.bytes_pos w.bytes_le s lhs rhs, ?_, ?_⟩
  · intro form ctx operands hoperands
    exact ⟨_, handleCmp_ok hoperands, compares_setSubFlags form.width_pos form.width_le ctx.state _ _⟩
  · intro cond ctx
    exact ⟨fun form => handleJcc_run cond form ctx, fun width src => handleCmovcc_run cond width,
      handleSetcc_run cond ctx⟩

/-- `CMP al, bl` with 0x80 and 0x01: below zero as a signed byte, above as an
unsigned one. -/
theorem conditions_compare_cmp :
    let ctx : ExecutionContext :=
      { state := (({} : CpuState).setGpr 0 0x80#64).setGpr 3 1#64
        memory := {}
        instr :=
          { code := .other 0, length := 2
            opRegister := fun i => if i = 0 then .al else .r8 3 }
        nextRip := 2#64 }
    ∃ ctx', handleCmp (.rm .rm8R8) ctx = .ok () ctx' ∧
      ComparesAs 1 0x80#64 1#64 (evalCond ctx'.state) :=
  conditions_compare.2.1 (.rm .rm8R8) _ (0x80#64, 1#64) rfl

end Seven
