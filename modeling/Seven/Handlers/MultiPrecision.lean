import Seven.Lib.CarryChain
import Seven.Handlers.Binary

/-!
# Multi-precision arithmetic

A number longer than a register is added limb by limb: `ADD` of the lowest
limbs, then `ADC` of each pair above, with the carry in CF from one to the
next; and subtracted by `SUB` and `SBB` with the borrow there. One limb is a
column of the carry chain (`aluCompute_add`, `aluCompute_sub`), so the run is
a chain, and the library's two laws give the result:

> `multi_precision`: the limbs a run leaves are those of the exact sum or
> difference, and every pair of numbers has its run.

Between two limbs the program moves its operands about. A run says nothing
about that except that CF survives it.
-/

namespace Seven

open Seven.Lib

/-! ## One limb -/

/-- The carry an operation takes in: `ADC` and `SBB` take CF, the others
nothing. -/
def carryTaken (op : AluOp) (rflags : U64) : Bool :=
  match op with
  | .adc | .sbb => flagSet rflags kFlagCF
  | _ => false

section

variable {w : Nat} (h0 : 0 < w) (hw : w ≤ 8) (rflags lhs rhs : U64)

include h0 hw

/-- A sum with a carry, at the width. -/
theorem unsignedAt_add_carry (carry : Bool) :
    unsignedAt w (lhs + rhs + if carry then 1#64 else 0#64) =
      (unsignedAt w lhs + unsignedAt w rhs + carry.toNat) % 2 ^ (8 * w) := by
  rw [unsignedAt_add _ _ hw, unsignedAt_add _ _ hw, unsignedAt_carry carry h0, Nat.mod_add_mod]

/-- Subtracting and adding back at the width. -/
theorem unsignedAt_sub_carry (carry : Bool) :
    unsignedAt w lhs =
      (unsignedAt w (lhs - rhs - if carry then 1#64 else 0#64) + unsignedAt w rhs +
        carry.toNat) % 2 ^ (8 * w) := by
  rw [← unsignedAt_add_carry h0 hw (lhs - rhs - if carry then 1#64 else 0#64) rhs carry]
  congr 1
  generalize (if carry then 1#64 else 0#64) = c
  rw [BitVec.add_assoc, BitVec.add_comm rhs, ← BitVec.add_assoc, BitVec.sub_add_cancel,
    BitVec.sub_add_cancel]

/-- `ADD` and `ADC`: the result and the outgoing CF make up the exact sum. -/
theorem aluCompute_add {op : AluOp} (hop : op = .add ∨ op = .adc) :
    unsignedAt w (aluCompute op w rflags lhs rhs).1 +
        2 ^ (8 * w) * (flagSet (aluCompute op w rflags lhs rhs).2 kFlagCF).toNat =
      unsignedAt w lhs + unsignedAt w rhs + (carryTaken op rflags).toNat := by
  have hsum (carry : Bool) (result : U64)
      (hresult : result = lhs + rhs + if carry then 1#64 else 0#64) :
      unsignedAt w result +
          2 ^ (8 * w) * (flagSet (setAddFlags rflags lhs rhs result w carry) kFlagCF).toNat =
        unsignedAt w lhs + unsignedAt w rhs + carry.toNat := by
    have ha := unsignedAt_lt w lhs
    have hb := unsignedAt_lt w rhs
    have hc := Bool.toNat_le carry
    rw [setAddFlags_carry h0 hw, hresult, unsignedAt_add_carry h0 hw, toNat_decide]
    generalize 2 ^ (8 * w) = m at *
    generalize carry.toNat = c at *
    by_cases hm : m ≤ unsignedAt w lhs + unsignedAt w rhs + c
    · rw [if_pos hm, Nat.mod_eq_sub_mod hm, Nat.mod_eq_of_lt (by omega)]
      omega
    · rw [if_neg hm, Nat.mod_eq_of_lt (by omega)]
      omega
  rcases hop with rfl | rfl
  · exact hsum false _ (BitVec.add_zero _).symm
  · exact hsum (flagSet rflags kFlagCF) _ rfl

/-- `ADD` and `ADC`: AF is the carry out of the low digit. -/
theorem aluCompute_add_half {op : AluOp} (hop : op = .add ∨ op = .adc) :
    flagSet (aluCompute op w rflags lhs rhs).2 kFlagAF =
      decide (16 ≤ unsignedAt w lhs % 16 + unsignedAt w rhs % 16 +
        (carryTaken op rflags).toNat) := by
  rcases hop with rfl | rfl
  · refine setAddFlags_half h0 hw rflags lhs rhs (lhs + rhs) false ?_
    exact unsignedAt_add lhs rhs hw
  · exact setAddFlags_half h0 hw rflags lhs rhs _ _ (unsignedAt_add_carry h0 hw lhs rhs _)

/-- `SUB` and `SBB`: AF is the borrow of the low digit. -/
theorem aluCompute_sub_half {op : AluOp} (hop : op = .sub ∨ op = .sbb) :
    flagSet (aluCompute op w rflags lhs rhs).2 kFlagAF =
      decide (unsignedAt w lhs % 16 <
        unsignedAt w rhs % 16 + (carryTaken op rflags).toNat) := by
  rcases hop with rfl | rfl
  · refine setSubFlags_half h0 hw rflags lhs rhs (lhs - rhs) false ?_
    have hback := unsignedAt_sub_carry h0 hw lhs rhs false
    rw [if_neg Bool.false_ne_true, BitVec.sub_zero] at hback
    exact hback
  · exact setSubFlags_half h0 hw rflags lhs rhs _ _ (unsignedAt_sub_carry h0 hw lhs rhs _)

/-- `SUB` and `SBB`: the outgoing CF is what the difference had to borrow. -/
theorem aluCompute_sub {op : AluOp} (hop : op = .sub ∨ op = .sbb) :
    unsignedAt w lhs +
        2 ^ (8 * w) * (flagSet (aluCompute op w rflags lhs rhs).2 kFlagCF).toNat =
      unsignedAt w (aluCompute op w rflags lhs rhs).1 + unsignedAt w rhs + (carryTaken op rflags).toNat := by
  have hdifference (carry : Bool) (result : U64)
      (hresult : result = lhs - rhs - if carry then 1#64 else 0#64) :
      unsignedAt w lhs +
          2 ^ (8 * w) * (flagSet (setSubFlags rflags lhs rhs result w carry) kFlagCF).toNat =
        unsignedAt w result + unsignedAt w rhs + carry.toNat := by
    have ha := unsignedAt_lt w lhs
    have hb := unsignedAt_lt w rhs
    have hd := unsignedAt_lt w result
    have hback := unsignedAt_sub_carry h0 hw lhs rhs carry
    rw [← hresult] at hback
    have hc := Bool.toNat_le carry
    rw [setSubFlags_carry h0 hw, toNat_decide]
    generalize 2 ^ (8 * w) = m at *
    generalize unsignedAt w lhs = a at *
    generalize carry.toNat = c at *
    -- Without a wrap nothing is borrowed; with one the borrow stands for the whole modulus.
    by_cases hm : unsignedAt w result + unsignedAt w rhs + c < m
    · rw [Nat.mod_eq_of_lt hm] at hback
      rw [if_neg (by omega)]
      omega
    · rw [Nat.mod_eq_sub_mod (by omega), Nat.mod_eq_of_lt (by omega)] at hback
      rw [if_pos (by omega)]
      omega
  rcases hop with rfl | rfl
  · exact hdifference false _ (BitVec.sub_zero _).symm
  · exact hdifference (flagSet rflags kFlagCF) _ rfl

end

/-! ## Runs -/

/-- One instruction on one pair of limbs: it reads `a` and `b`, and leaves `d`
in a register of its width or in plain memory. -/
structure LimbStep (op : AluOp) (form : BinaryForm) (a b : U64) (ctx ctx' : ExecutionContext)
    (d : U64) : Prop where
  operands : binaryOperands form ctx = .ok (a, b) ctx
  whole : WholeDestination form ctx
  run : handleBinary op form ctx = .ok () ctx'
  result : destination form ctx' = some d

/-- The flag that travels from limb to limb. -/
def carryFlag (ctx : ExecutionContext) : Bool := flagSet ctx.state.rflags kFlagCF

/-- The number a list of limbs represents, the lowest limb first. -/
def limbValue (w : Nat) (limbs : List U64) : Nat :=
  Nat.ofDigits (2 ^ (8 * w)) (limbs.map (unsignedAt w))

section

variable {op : AluOp} {form : BinaryForm} {a b d : U64} {ctx ctx' : ExecutionContext}

/-- What a step does to the numbers: `aluCompute`, whose result is what the
destination reads as. -/
theorem LimbStep.computed (h : LimbStep op form a b ctx ctx' d) :
    unsignedAt form.width d =
        unsignedAt form.width (aluCompute op form.width ctx.state.rflags a b).1 ∧
      ctx'.state.rflags = (aluCompute op form.width ctx.state.rflags a b).2 := by
  have hstore := of_handleBinary_ok h.operands h.run
  refine ⟨?_, storeBinary_rflags hstore⟩
  have hread := h.whole.readsBack _ _ hstore
  rw [h.result] at hread
  rw [Option.some.inj hread]
  show (truncate _ form.width).toNat % _ = _
  rw [truncate_toNat _ form.width_le, Nat.mod_mod]
  rfl

/-- A column of the addition. -/
theorem LimbStep.add (hop : op = .add ∨ op = .adc) (h : LimbStep op form a b ctx ctx' d) :
    unsignedAt form.width d < 2 ^ (8 * form.width) ∧
      unsignedAt form.width d + 2 ^ (8 * form.width) * (carryFlag ctx').toNat =
        unsignedAt form.width a + unsignedAt form.width b +
          (carryTaken op ctx.state.rflags).toNat := by
  refine ⟨unsignedAt_lt _ _, ?_⟩
  unfold carryFlag
  rw [h.computed.1, h.computed.2]
  exact aluCompute_add form.width_pos form.width_le _ a b hop

/-- A column of the subtraction. -/
theorem LimbStep.sub (hop : op = .sub ∨ op = .sbb) (h : LimbStep op form a b ctx ctx' d) :
    unsignedAt form.width d < 2 ^ (8 * form.width) ∧
      unsignedAt form.width a + 2 ^ (8 * form.width) * (carryFlag ctx').toNat =
        unsignedAt form.width d + unsignedAt form.width b +
          (carryTaken op ctx.state.rflags).toNat := by
  refine ⟨unsignedAt_lt _ _, ?_⟩
  unfold carryFlag
  rw [h.computed.1, h.computed.2]
  exact aluCompute_sub form.width_pos form.width_le _ a b hop

end

/-! ## Every pair of numbers has its run -/

/-- The general register of a width. -/
def RmWidth.gpr (width : RmWidth) (i : Fin 16) : Register :=
  match width with
  | .rm8 => .r8 i
  | .rm16 => .r16 i
  | .rm32 => .r32 i
  | .rm64 => .r64 i

/-- A register of the width. -/
theorem readRegister_gpr (s : CpuState) (width : RmWidth) (i : Fin 16) :
    readRegister s (width.gpr i) = truncate (s.gpr i) width.bytes := by
  unfold truncate
  cases width with
  | rm8 => exact congrArg (s.gpr i &&& ·) (by decide : 0xFF#64 = maskForWidth 1)
  | rm16 => exact congrArg (s.gpr i &&& ·) (by decide : 0xFFFF#64 = maskForWidth 2)
  | rm32 => exact congrArg (s.gpr i &&& ·) (by decide : 0xFFFFFFFF#64 = maskForWidth 4)
  | rm64 => exact BitVec.and_allOnes.symm

/-- `op rAX, rBX` with the limbs in the two registers and the carry in CF. -/
def limbContext (width : RmWidth) (cf : Bool) (a b : U64) : ExecutionContext where
  state := { (({} : CpuState).setGpr 0 a).setGpr 3 b with rflags := setFlag 0x202#64 kFlagCF cf }
  memory := {}
  instr :=
    { code := .other 0
      length := 3
      opRegister := fun i => if i = 0 then width.gpr 0 else width.gpr 3 }
  nextRip := 3#64

/-- The carry of the context. -/
theorem limbContext_carry (width : RmWidth) (cf : Bool) (a b : U64) :
    carryFlag (limbContext width cf a b) = cf :=
  flagSet_setFlag_self (by decide) _ _

/-- A step is taken wherever the operands can be read and the destination is
whole. -/
theorem limbStep_whole (op : AluOp) {form : BinaryForm} {ctx : ExecutionContext} {a b : U64}
    (hoperands : binaryOperands form ctx = .ok (a, b) ctx) (hwhole : WholeDestination form ctx) :
    ∃ ctx' d, LimbStep op form a b ctx ctx' d := by
  obtain ⟨ctx', hstore, _, hresult⟩ :=
    hwhole.stores (aluCompute op form.width ctx.state.rflags a b)
  exact ⟨ctx', _, hoperands, hwhole, (handleBinary_store op hoperands).trans hstore, hresult⟩

/-- The step in registers, whatever the limbs and the carry. -/
theorem limbStep_registers (op : AluOp) (width : RmWidth) (cf : Bool) {a b : U64}
    (ha : truncate a width.bytes = a) (hb : truncate b width.bytes = b) :
    ∃ ctx' d, LimbStep op (.regRm width) a b (limbContext width cf a b) ctx' d := by
  have hpair : binaryOperands (.regRm width) (limbContext width cf a b) =
      .ok (readRegister (limbContext width cf a b).state (width.gpr 0),
        readRegister (limbContext width cf a b).state (width.gpr 3))
        (limbContext width cf a b) := rfl
  have hoperands : binaryOperands (.regRm width) (limbContext width cf a b) =
      .ok (a, b) (limbContext width cf a b) := by
    rw [hpair, readRegister_gpr, readRegister_gpr]
    exact congrArg (EStateM.Result.ok · _) (Prod.ext ha hb)
  refine limbStep_whole op hoperands (WholeDestination.register rfl ?_ ?_)
  · cases width <;> trivial
  · cases width <;> rfl

/-- Every step has a run: the register form. -/
theorem limbStep_exists (op : AluOp) (width : RmWidth) :
    StepExists (LimbStep op (.regRm width)) carryFlag fun v => truncate v width.bytes = v := by
  intro a b cf ha hb
  obtain ⟨ctx', d, hstep⟩ := limbStep_registers op width cf ha hb
  exact ⟨_, ctx', d, limbContext_carry width cf a b, hstep⟩

/-! ## Sums and differences -/

/-- `ADD`, then `ADC` limb by limb, from the limbs `as` and `bs` to `ds`, with
CF at the end. -/
def LongSum (form : BinaryForm) (as bs ds : List U64) (cf : Bool) : Prop :=
  LongRun (LimbStep .add form) (LimbStep .adc form) carryFlag as bs ds cf

/-- `SUB`, then `SBB`. -/
def LongDifference (form : BinaryForm) (as bs ds : List U64) (cf : Bool) : Prop :=
  LongRun (LimbStep .sub form) (LimbStep .sbb form) carryFlag as bs ds cf

section

variable {form : BinaryForm} {as bs ds : List U64} {cf : Bool}

/-- The base is at least two. -/
theorem longBase_gt (form : BinaryForm) : 1 < 2 ^ (8 * form.width) :=
  Nat.one_lt_two_pow (by have := form.width_pos; omega)

/-- The sum, cut to the limbs, and the carry. -/
theorem LongSum.exact (h : LongSum form as bs ds cf) :
    limbValue form.width ds = (limbValue form.width as + limbValue form.width bs) %
        2 ^ (8 * form.width * as.length) ∧
      (cf = true ↔ 2 ^ (8 * form.width * as.length) ≤
        limbValue form.width as + limbValue form.width bs) := by
  have hpow : 2 ^ (8 * form.width * as.length) = (2 ^ (8 * form.width)) ^ as.length := Nat.pow_mul ..
  rw [hpow]
  exact LongRun.sum (longBase_gt form) (fun _ _ _ _ _ hs => hs.add (Or.inl rfl))
    (fun _ _ _ _ _ hs => hs.add (Or.inr rfl)) h

/-- The difference, cut to the limbs, and the borrow. -/
theorem LongDifference.exact (h : LongDifference form as bs ds cf) :
    (limbValue form.width ds : Int) =
        (limbValue form.width as - limbValue form.width bs) % 2 ^ (8 * form.width * as.length) ∧
      (cf = true ↔ limbValue form.width as < limbValue form.width bs) := by
  have hpow : (2 : Int) ^ (8 * form.width * as.length) =
      ((2 ^ (8 * form.width)) ^ as.length : Nat) := by
    rw [← Nat.pow_mul]
    norm_cast
  rw [hpow]
  exact LongRun.difference (longBase_gt form) (fun _ _ _ _ _ hs => hs.sub (Or.inl rfl))
    (fun _ _ _ _ _ hs => hs.sub (Or.inr rfl)) h

/-- Numbers of one length have their runs, in registers of any width. -/
theorem longRun_registers (first next : AluOp) (width : RmWidth) (hne : as ≠ [])
    (hlen : bs.length = as.length) (hfit : ∀ v ∈ as ++ bs, truncate v width.bytes = v) :
    ∃ ds cf, LongRun (LimbStep first (.regRm width)) (LimbStep next (.regRm width)) carryFlag
      as bs ds cf :=
  longRun_exists (limbStep_exists first width) (limbStep_exists next width) hne hlen
    (fun v hv => hfit v (List.mem_append_left _ hv)) fun v hv => hfit v (List.mem_append_right _ hv)

end

/-- **Multi-precision arithmetic.** At every width and for every form, `ADD`
then `ADC` leaves the limbs of the exact sum modulo `2 ^ (8 * w * n)` with CF
the carry out of it, and `SUB` then `SBB` the limbs of the exact difference
with CF its borrow. A step goes through wherever its operands can be read and
its destination is whole; so there are runs on all numbers of one length. -/
theorem multi_precision :
    (∀ (form : BinaryForm) (as bs ds : List U64) (cf : Bool),
      (LongSum form as bs ds cf →
        limbValue form.width ds = (limbValue form.width as + limbValue form.width bs) %
            2 ^ (8 * form.width * as.length) ∧
          (cf = true ↔ 2 ^ (8 * form.width * as.length) ≤
            limbValue form.width as + limbValue form.width bs)) ∧
        (LongDifference form as bs ds cf →
          (limbValue form.width ds : Int) =
              (limbValue form.width as - limbValue form.width bs) %
                2 ^ (8 * form.width * as.length) ∧
            (cf = true ↔ limbValue form.width as < limbValue form.width bs))) ∧
    (∀ (op : AluOp) (form : BinaryForm) (ctx : ExecutionContext) (a b : U64),
      binaryOperands form ctx = .ok (a, b) ctx → WholeDestination form ctx →
        ∃ ctx' d, LimbStep op form a b ctx ctx' d) ∧
    ∀ (width : RmWidth) (as bs : List U64), as ≠ [] → bs.length = as.length →
      (∀ v ∈ as ++ bs, truncate v width.bytes = v) →
        (∃ ds cf, LongSum (.regRm width) as bs ds cf) ∧
          ∃ ds cf, LongDifference (.regRm width) as bs ds cf := by
  refine ⟨?_, ?_, ?_⟩
  · intro form as bs ds cf
    exact ⟨LongSum.exact, LongDifference.exact⟩
  · intro op form ctx a b hoperands hwhole
    exact limbStep_whole op hoperands hwhole
  · intro width as bs hne hlen hfit
    exact ⟨longRun_registers .add .adc width hne hlen hfit,
      longRun_registers .sub .sbb width hne hlen hfit⟩

/-- A carry through an all-ones limb, in 64-bit registers. -/
theorem multi_precision_carry : ∃ (ds : List U64) (cf : Bool),
    LongSum (.regRm .rm64) [BitVec.allOnes 64, 0#64] [1#64, 0#64] ds cf ∧
      limbValue 8 ds = 2 ^ 64 ∧ cf = false := by
  have hfit : ∀ v ∈ [BitVec.allOnes 64, 0#64] ++ [1#64, 0#64], truncate v 8 = v :=
    fun v _ => BitVec.and_allOnes
  obtain ⟨ds, cf, hrun⟩ := (multi_precision.2.2 .rm64 [BitVec.allOnes 64, 0#64] [1#64, 0#64]
    (by decide) rfl hfit).1
  have hlaw := (multi_precision.1 (.regRm .rm64) _ _ ds cf).1 hrun
  have hsum : limbValue 8 [BitVec.allOnes 64, 0#64] + limbValue 8 [1#64, 0#64] = 2 ^ 64 := by
    decide
  refine ⟨ds, cf, hrun, ?_, ?_⟩
  · show limbValue (BinaryForm.width (.regRm .rm64)) ds = _
    rw [hlaw.1]
    exact congrArg (· % 2 ^ (8 * 8 * 2)) hsum
  · rw [← Bool.not_eq_true, hlaw.2, Nat.not_le]
    have hfits : 2 ^ 64 < 2 ^ (8 * (BinaryForm.regRm .rm64).width * 2) :=
      Nat.pow_lt_pow_right (by decide) (by decide)
    exact hsum.symm ▸ hfits

end Seven
