import Mathlib.Data.Nat.ModEq
import Seven.Cpu.Checked
import Seven.Handlers.ShiftBits

/-!
# Shifts and rotates, one step at a time

A shift by `n` is `n` shifts by one: with the results as bits of the source
(`ShiftBits`), one more step is one more move of an index. A rotate through
the carry is a step of its own, and the step to the right undoes the step to
the left.
-/

namespace Seven

open Seven.Lib

/-! ## One more step -/

/-- The bit a rotate to the left brings to `i` lies `k` places below it. -/
theorem rotate_source {b : Nat} (hb : 0 < b) (i k : Nat) :
    (i + (b - k % b)) % b + k ≡ i [MOD b] := by
  have hlt := Nat.mod_lt k hb
  have hdiv := Nat.div_add_mod k b
  show ((i + (b - k % b)) % b + k) % b = i % b
  rw [Nat.mod_add_mod, show i + (b - k % b) + k = i + b * (k / b) + b by omega, Nat.add_mod_right,
    Nat.add_mul_mod_self_left]

/-- A rotate by one more is one more move around the word. -/
theorem rotate_left_index {b : Nat} (hb : 0 < b) (i n : Nat) :
    ((i + (b - 1 % b)) % b + (b - n % b)) % b = (i + (b - (n + 1) % b)) % b := by
  have hone := rotate_source hb i 1
  have hmany := rotate_source hb ((i + (b - 1 % b)) % b) n
  have hall := rotate_source hb i (n + 1)
  have heq : ((i + (b - 1 % b)) % b + (b - n % b)) % b + (n + 1) ≡
      (i + (b - (n + 1) % b)) % b + (n + 1) [MOD b] := by
    refine Nat.ModEq.trans ?_ hall.symm
    rw [← Nat.add_assoc]
    exact (hmany.add_right 1).trans hone
  exact (heq.add_right_cancel' _).eq_of_lt_of_lt (Nat.mod_lt _ hb) (Nat.mod_lt _ hb)

section Step

variable {op : ShiftOp} (hop : op.plain = true) {b n : Nat} (hb : 0 < b) (hn : 0 < n) {v v' : U64}
  (hv : v.toNat < 2 ^ b) (hv' : ∀ i, v'.getLsbD i = shiftedBit op b n v i)

include hop hb hv hv'

/-- A bit after one step more. -/
theorem shiftedBit_step (i : Nat) : shiftedBit op b 1 v' i = shiftedBit op b (n + 1) v i := by
  by_cases hi : i < b
  · unfold shiftedBit
    rw [decide_eq_true hi, Bool.true_and, Bool.true_and]
    -- in each case the index moves once more, and the guards of `v'` hold by the bound on it
    cases op with
    | shl | sal =>
      dsimp only
      rw [hv']
      unfold shiftedBit
      dsimp only
      by_cases hni : n + 1 ≤ i
      · rw [decide_eq_true (by omega : 1 ≤ i), decide_eq_true (by omega : i - 1 < b),
          decide_eq_true (by omega : n ≤ i - 1), decide_eq_true hni,
          show i - 1 - n = i - (n + 1) by omega]
        rfl
      · rw [decide_eq_false hni, Bool.false_and]
        by_cases h1 : 1 ≤ i
        · rw [decide_eq_false (by omega : ¬ n ≤ i - 1), Bool.false_and, Bool.and_false,
            Bool.and_false]
        · rw [decide_eq_false h1, Bool.false_and]
    | shr =>
      dsimp only
      rw [hv']
      unfold shiftedBit
      dsimp only
      rw [show i + 1 + n = i + (n + 1) by omega]
      by_cases h1 : i + 1 < b
      · rw [decide_eq_true h1, Bool.true_and]
      · rw [decide_eq_false h1, Bool.false_and, getLsbD_high hv (by omega)]
    | sar =>
      dsimp only
      rw [hv']
      unfold shiftedBit
      dsimp only
      rw [decide_eq_true (by omega : min (i + 1) (b - 1) < b), Bool.true_and]
      congr 1
      omega
    | rol =>
      dsimp only
      rw [hv']
      unfold shiftedBit
      dsimp only
      rw [decide_eq_true (Nat.mod_lt _ hb), Bool.true_and, rotate_left_index hb]
    | ror =>
      dsimp only
      rw [hv']
      unfold shiftedBit
      dsimp only
      rw [decide_eq_true (Nat.mod_lt _ hb), Bool.true_and, Nat.mod_add_mod]
      congr 2
      omega
    | rcl | rcr => cases hop
  · unfold shiftedBit
    rw [decide_eq_false hi, Bool.false_and, Bool.false_and]

include hn in
/-- The carry after one step more. -/
theorem shiftedOut_step : shiftedOut op b 1 v' = shiftedOut op b (n + 1) v := by
  -- The last bit out of `n + 1` steps is the one bit out of a step on what `n` steps left.
  cases op with
  | shl | sal =>
    unfold shiftedOut
    dsimp only
    rw [hv']
    unfold shiftedBit
    dsimp only
    rw [decide_eq_true (by omega : 1 ≤ b), decide_eq_true (by omega : b - 1 < b), Bool.true_and,
      Bool.true_and, show b - 1 - n = b - (n + 1) by omega]
    congr 1
    rw [decide_eq_decide]
    omega
  | shr =>
    unfold shiftedOut
    dsimp only
    rw [hv']
    unfold shiftedBit
    dsimp only
    rw [decide_eq_true (by omega : 1 - 1 < b), Bool.true_and]
    congr 1
    omega
  | sar =>
    unfold shiftedOut
    dsimp only
    rw [hv']
    unfold shiftedBit
    dsimp only
    rw [decide_eq_true (by omega : min (1 - 1) (b - 1) < b), Bool.true_and]
    congr 1
    omega
  | rol => exact shiftedBit_step hop hb hv hv' 0
  | ror => exact shiftedBit_step hop hb hv hv' (b - 1)
  | rcl | rcr => cases hop

end Step

/-! ## A count as so many steps -/

/-- One one-bit step of `op` on a value and the flags. -/
def ShiftOp.step (op : ShiftOp) (width : Nat) (p : U64 × U64) : U64 × U64 :=
  op.compute width 1 true p.2 p.1

/-- No step. -/
theorem ShiftOp.compute_zero (op : ShiftOp) {w : Nat} (hw : w ≤ 8) (writesOf : Bool)
    {rflags v : U64} (hv : v.toNat < 2 ^ (8 * w)) :
    op.compute w 0 writesOf rflags v = (v, rflags) := by
  have hself := mask_eq_self hw hv
  cases op <;> unfold ShiftOp.compute <;> dsimp only
  case rol | ror =>
    unfold rotateCompute
    rw [if_pos rfl, hself]
  case rcl | rcr =>
    unfold rotateCarryCompute
    dsimp only
    rw [Nat.zero_mod, if_pos rfl, hself]
  all_goals
    unfold shiftCompute
    dsimp only
    rw [if_pos rfl, hself]

/-- A value without high bits fits. -/
theorem toNat_lt_of_bits {x : U64} {b : Nat} (h : ∀ i, b ≤ i → x.getLsbD i = false) :
    x.toNat < 2 ^ b := by
  refine Nat.lt_pow_two_of_testBit _ fun i hi => ?_
  rw [BitVec.testBit_toNat]
  exact h i hi

section Iterate

variable {op : ShiftOp} (hop : op.plain = true) {w : Nat} (h0 : 0 < w) (hw : w ≤ 8) {v : U64}
  (hv : v.toNat < 2 ^ (8 * w))

include hop h0 hw hv

/-- The result fits. -/
theorem ShiftOp.compute_lt {n : Nat} (hn : 0 < n) (writesOf : Bool) (rflags : U64) :
    (op.compute w n writesOf rflags v).1.toNat < 2 ^ (8 * w) := by
  refine toNat_lt_of_bits fun i hi => ?_
  rw [op.compute_bit h0 hw hv hop hn]
  unfold shiftedBit
  rw [decide_eq_false (by omega), Bool.false_and]

/-- The value after `n` steps, and the carry of the last one. -/
theorem ShiftOp.iterate_step (writesOf : Bool) (rflags : U64) (n : Nat) :
    let out := op.compute w (n + 1) writesOf rflags v
    let steps := (op.step w)^[n + 1] (v, rflags)
    steps.1 = out.1 ∧ flagSet steps.2 kFlagCF = flagSet out.2 kFlagCF := by
  have hb : 0 < 8 * w := by omega
  induction n with
  | zero =>
    refine ⟨?_, ?_⟩
    · apply BitVec.eq_of_getLsbD_eq
      intro i _
      show (op.compute w 1 true rflags v).1.getLsbD i = _
      rw [op.compute_bit h0 hw hv hop (by decide), op.compute_bit h0 hw hv hop (by decide)]
    · show flagSet (op.compute w 1 true rflags v).2 kFlagCF = _
      rw [op.compute_carry h0 hw hv hop (by decide), op.compute_carry h0 hw hv hop (by decide)]
  | succ n ih =>
    dsimp only at ih ⊢
    rw [Function.iterate_succ_apply']
    generalize (op.step w)^[n + 1] (v, rflags) = p at ih ⊢
    -- the last step works on the value `n + 1` steps have left
    have hbits (i : Nat) : p.1.getLsbD i = shiftedBit op (8 * w) (n + 1) v i := by
      rw [ih.1, op.compute_bit h0 hw hv hop (by omega)]
    have hp : p.1.toNat < 2 ^ (8 * w) := by
      rw [ih.1]
      exact ShiftOp.compute_lt hop h0 hw hv (by omega) writesOf rflags
    constructor
    · apply BitVec.eq_of_getLsbD_eq
      intro i _
      show (op.compute w 1 true p.2 p.1).1.getLsbD i = _
      rw [op.compute_bit h0 hw hp hop (by decide), op.compute_bit h0 hw hv hop (by omega)]
      exact shiftedBit_step hop hb hv hbits i
    · show flagSet (op.compute w 1 true p.2 p.1).2 kFlagCF = _
      rw [op.compute_carry h0 hw hp hop (by decide), op.compute_carry h0 hw hv hop (by omega)]
      exact shiftedOut_step hop hb (by omega) hv hbits

end Iterate

/-! ## Rotates through the carry -/

section RotateCarry

variable {w : Nat} (h0 : 0 < w) (hw : w ≤ 8) {p : U64 × Bool} (hp : p.1.toNat < 2 ^ (8 * w))

include h0 hw hp

omit hp in
/-- One step of `RCL`, bit by bit. -/
theorem rotateCarryStep_left_bit (i : Nat) :
    (rotateCarryStep true w p).1.getLsbD i =
      (decide (i < 8 * w) && if i = 0 then p.2 else p.1.getLsbD (i - 1)) := by
  show (((p.1 <<< 1) &&& maskForWidth w) ||| (if p.2 then 1#64 else 0#64)).getLsbD i = _
  have hcarry : (if p.2 then 1#64 else 0#64 : U64).getLsbD i = (decide (i = 0) && p.2) := by
    cases p.2 with
    | true => rw [if_pos rfl, BitVec.getLsbD_one, Bool.and_true, decide_eq_true (by decide),
        Bool.true_and]
    | false => rw [if_neg Bool.false_ne_true, BitVec.getLsbD_zero, Bool.and_false]
  rw [BitVec.getLsbD_or, getLsbD_mask _ hw, BitVec.getLsbD_shiftLeft, hcarry]
  by_cases hi : i < 8 * w
  · rw [decide_eq_true hi, decide_eq_true (by omega : i < 64), Bool.true_and, Bool.true_and,
      Bool.true_and]
    by_cases hz : i = 0
    · rw [if_pos hz, decide_eq_true hz, decide_eq_true (by omega : i < 1)]
      rfl
    · rw [if_neg hz, decide_eq_false hz, decide_eq_false (by omega : ¬ i < 1), Bool.false_and,
        Bool.or_false]
      rfl
  · rw [decide_eq_false hi, decide_eq_false (by omega : ¬ i = 0)]
    rfl

/-- One step of `RCR`, bit by bit. -/
theorem rotateCarryStep_right_bit (i : Nat) :
    (rotateCarryStep false w p).1.getLsbD i =
      (decide (i < 8 * w) && if i + 1 = 8 * w then p.2 else p.1.getLsbD (i + 1)) := by
  show (((p.1 >>> 1) ||| (if p.2 then signBitForWidth w else 0#64)) &&& maskForWidth w).getLsbD i = _
  have hcarry : (if p.2 then signBitForWidth w else 0#64 : U64).getLsbD i =
      (decide (i + 1 = 8 * w) && p.2) := by
    unfold signBitForWidth
    cases p.2 with
    | true =>
      rw [if_pos rfl, Bool.and_true, ← BitVec.twoPow_eq, BitVec.getLsbD_twoPow,
        decide_eq_true (by omega : w * 8 - 1 < 64), Bool.true_and, decide_eq_decide]
      omega
    | false => rw [if_neg Bool.false_ne_true, BitVec.getLsbD_zero, Bool.and_false]
  rw [getLsbD_mask _ hw, BitVec.getLsbD_or, BitVec.getLsbD_ushiftRight, hcarry, Nat.add_comm 1 i]
  by_cases hi : i < 8 * w
  · rw [decide_eq_true hi, Bool.true_and, Bool.true_and]
    by_cases hz : i + 1 = 8 * w
    · rw [if_pos hz, decide_eq_true hz, getLsbD_high hp (by omega)]
      rfl
    · rw [if_neg hz, decide_eq_false hz, Bool.false_and, Bool.or_false]
  · rw [decide_eq_false hi, Bool.false_and, Bool.false_and]

/-- It fits. -/
theorem rotateCarryStep_lt (left : Bool) :
    (rotateCarryStep left w p).1.toNat < 2 ^ (8 * w) := by
  refine toNat_lt_of_bits fun i hi => ?_
  cases left with
  | true => rw [rotateCarryStep_left_bit h0 hw, decide_eq_false (by omega), Bool.false_and]
  | false => rw [rotateCarryStep_right_bit h0 hw hp, decide_eq_false (by omega), Bool.false_and]

/-- A step one way is undone by a step the other way. -/
theorem rotateCarryStep_undo (left : Bool) :
    rotateCarryStep (!left) w (rotateCarryStep left w p) = p := by
  -- The bits and the carry in turn: CF holds the bit that left at the other end.
  have hlt := rotateCarryStep_lt h0 hw hp left
  cases left with
  | true =>
    refine Prod.ext ?_ ?_
    · apply BitVec.eq_of_getLsbD_eq
      intro i _
      show (rotateCarryStep false w (rotateCarryStep true w p)).1.getLsbD i = _
      rw [rotateCarryStep_right_bit h0 hw hlt, rotateCarryStep_left_bit h0 hw]
      by_cases hi : i < 8 * w
      · rw [decide_eq_true hi, Bool.true_and, if_neg (by omega : ¬ i + 1 = 0)]
        by_cases htop : i + 1 = 8 * w
        · rw [if_pos htop]
          show flagSet p.1 (signBitForWidth w) = _
          rw [flagSet_msb _ h0 hw, show 8 * w - 1 = i by omega]
        · rw [if_neg htop, decide_eq_true (by omega : i + 1 < 8 * w)]
          rfl
      · rw [decide_eq_false hi, Bool.false_and, getLsbD_high hp (by omega)]
    · show flagSet (rotateCarryStep true w p).1 1#64 = _
      rw [flagSet_low, rotateCarryStep_left_bit h0 hw, if_pos rfl, decide_eq_true (by omega),
        Bool.true_and]
  | false =>
    refine Prod.ext ?_ ?_
    · apply BitVec.eq_of_getLsbD_eq
      intro i _
      show (rotateCarryStep true w (rotateCarryStep false w p)).1.getLsbD i = _
      rw [rotateCarryStep_left_bit h0 hw, rotateCarryStep_right_bit h0 hw hp]
      by_cases hi : i < 8 * w
      · rw [decide_eq_true hi, Bool.true_and]
        by_cases hz : i = 0
        · rw [if_pos hz]
          show flagSet p.1 1#64 = _
          rw [flagSet_low, hz]
        · rw [if_neg hz, decide_eq_true (by omega : i - 1 < 8 * w),
            if_neg (by omega : ¬ i - 1 + 1 = 8 * w), show i - 1 + 1 = i by omega]
          rfl
      · rw [decide_eq_false hi, Bool.false_and, getLsbD_high hp (by omega)]
    · show flagSet (rotateCarryStep false w p).1 (signBitForWidth w) = _
      rw [flagSet_msb _ h0 hw, rotateCarryStep_right_bit h0 hw hp, if_pos (by omega),
        decide_eq_true (by omega), Bool.true_and]

/-- So do `n` steps. -/
theorem rotateCarryStep_iterate_lt (left : Bool) (n : Nat) :
    ((rotateCarryStep left w)^[n] p).1.toNat < 2 ^ (8 * w) := by
  induction n with
  | zero => exact hp
  | succ n ih =>
    rw [Function.iterate_succ_apply']
    exact rotateCarryStep_lt h0 hw ih left

/-- So many steps one way are undone by as many the other way. -/
theorem rotateCarryStep_iterate_undo (left : Bool) (n : Nat) :
    (rotateCarryStep (!left) w)^[n] ((rotateCarryStep left w)^[n] p) = p := by
  induction n with
  | zero => rfl
  | succ n ih =>
    -- the innermost pair cancels
    rw [Function.iterate_succ_apply' (rotateCarryStep left w), Function.iterate_succ_apply,
      rotateCarryStep_undo h0 hw (rotateCarryStep_iterate_lt h0 hw hp left n)]
    exact ih

end RotateCarry

/-- The value and the carry behind a rotate through the carry. -/
theorem rotateCarryCompute_pair (left : Bool) (w n : Nat) (rflags v : U64) :
    ((rotateCarryCompute left w n rflags v).1,
        flagSet (rotateCarryCompute left w n rflags v).2 kFlagCF) =
      (rotateCarryStep left w)^[n % (w * 8 + 1)] (v &&& maskForWidth w, flagSet rflags kFlagCF) := by
  unfold rotateCarryCompute
  dsimp only
  split
  · next h => rw [h]; rfl
  · dsimp only
    rw [flagSet_setFlag_of_disjoint rfl, flagSet_setFlag_self (by decide)]

/-- The other direction undoes `n` steps. -/
theorem rotateCarryCompute_undo {w : Nat} (h0 : 0 < w) (hw : w ≤ 8) (left : Bool) (n : Nat)
    (rflags : U64) {v : U64} (hv : v.toNat < 2 ^ (8 * w)) :
    let out := rotateCarryCompute left w n rflags v
    let back := rotateCarryCompute (!left) w n out.2 out.1
    (back.1, flagSet back.2 kFlagCF) = (v, flagSet rflags kFlagCF) := by
  intro out back
  have hback := rotateCarryCompute_pair (!left) w n out.2 out.1
  -- from here on only the pair of value and carry matters
  obtain ⟨q, hq⟩ : ∃ q, q = (rotateCarryStep left w)^[n % (w * 8 + 1)]
    (v, flagSet rflags kFlagCF) := ⟨_, rfl⟩
  have hout : (out.1, flagSet out.2 kFlagCF) = q := by
    have hpair := rotateCarryCompute_pair left w n rflags v
    rw [mask_eq_self hw hv, ← hq] at hpair
    exact hpair
  have hlt : q.1.toNat < 2 ^ (8 * w) := by
    rw [hq]
    exact rotateCarryStep_iterate_lt h0 hw hv left _
  have hfst : out.1 = q.1 := congrArg Prod.fst hout
  rw [mask_eq_self hw (by rw [hfst]; exact hlt), hout, hq,
    rotateCarryStep_iterate_undo h0 hw hv] at hback
  exact hback

/-- `op'` by `n` brings back the value and the carry `op` by `n` started from. -/
def ShiftOp.UndoneBy (op op' : ShiftOp) (w n : Nat) (writesOf : Bool) (rflags value : U64) : Prop :=
  let out := op.compute w n writesOf rflags value
  let back := op'.compute w n writesOf out.2 out.1
  back.1 = value ∧ flagSet back.2 kFlagCF = flagSet rflags kFlagCF

/-! ## The result -/

/-- The handler of a shift runs on this operand and these flags, its masked count
is `n`, and this is its decision about OF. -/
structure ShiftRun (w : RmWidth) (source : ShiftCountSource) (ctx : ExecutionContext) (n : Nat)
    (writesOf : Bool) (rflags value : U64) : Prop where
  operand : readOperand ctx 0 w.bytes = some value
  flags : ctx.state.rflags = rflags
  count : maskedCount w.bytes (rawShiftCount source ctx) = n
  decision : (n == 1 || source == .cl || ctx.instr.opKind 0 != .register) = writesOf

/-- The handler sets the flags and stores the result that `compute` gives. -/
theorem ShiftRun.handleShift_eq {w : RmWidth} {source : ShiftCountSource} {ctx : ExecutionContext}
    {n : Nat} {writesOf : Bool} {rflags value : U64}
    (h : ShiftRun w source ctx n writesOf rflags value) (op : ShiftOp) :
    handleShift op w source ctx =
      flagsThenWrite w.bytes (op.compute w.bytes n writesOf rflags value) ctx := by
  obtain ⟨hoperand, rfl, rfl, rfl⟩ := h
  have hget : (get : HandlerM ExecutionContext) ctx = .ok ctx ctx := rfl
  rw [handleShift_masked]
  unfold rmwOperand
  rw [bind_ok (readOperandChecked_ok_iff.mpr hoperand), bind_ok hget]

/-- **A shift by `n` is `n` shifts by one**, in the result and the carry, a
shift by zero is nothing, and the rotates through the carry undo each other.
The results are those that the handlers of the shifts store. -/
theorem shift_iterated (w : RmWidth) (n : Nat) (writesOf : Bool) (rflags value : U64)
    (hv : value.toNat < 2 ^ (8 * w.bytes)) :
    (∀ op source ctx, ShiftRun w source ctx n writesOf rflags value →
      handleShift op w source ctx =
        flagsThenWrite w.bytes (op.compute w.bytes n writesOf rflags value) ctx) ∧
    (∀ op : ShiftOp, op.plain = true → 0 < n →
      let out := op.compute w.bytes n writesOf rflags value
      let steps := (op.step w.bytes)^[n] (value, rflags)
      out.1 = steps.1 ∧ flagSet out.2 kFlagCF = flagSet steps.2 kFlagCF) ∧
    (∀ op : ShiftOp, op.compute w.bytes 0 writesOf rflags value = (value, rflags)) ∧
    ShiftOp.UndoneBy .rcl .rcr w.bytes n writesOf rflags value ∧
    ShiftOp.UndoneBy .rcr .rcl w.bytes n writesOf rflags value := by
  obtain ⟨h0, hw⟩ := w.bytes_bounds
  refine ⟨fun op source ctx hrun => hrun.handleShift_eq op, ?_,
    fun op => op.compute_zero hw writesOf hv, ?_, ?_⟩
  · intro op hop hn
    obtain ⟨m, rfl⟩ : ∃ m, n = m + 1 := ⟨n - 1, by omega⟩
    obtain ⟨hvalue, hcarry⟩ := ShiftOp.iterate_step hop h0 hw hv writesOf rflags m
    exact ⟨hvalue.symm, hcarry.symm⟩
  · have hundo := rotateCarryCompute_undo h0 hw true n rflags hv
    exact ⟨congrArg Prod.fst hundo, congrArg Prod.snd hundo⟩
  · have hundo := rotateCarryCompute_undo h0 hw false n rflags hv
    exact ⟨congrArg Prod.fst hundo, congrArg Prod.snd hundo⟩

/-- `ROL CL, CL`. -/
def rolClContext : ExecutionContext where
  state := ({} : CpuState).setGpr 1 0x89#64
  memory := {}
  instr := { code := .other 0, length := 2, opRegister := fun _ => .r8 1 }
  nextRip := 2#64

/-- A byte rotated by nine, more than its width: the handler stores what nine
steps leave. -/
theorem shift_iterated_nine :
    ∃ out, handleShift .rol .rm8 .cl rolClContext = flagsThenWrite 1 out rolClContext ∧
      out.1 = ((ShiftOp.rol.step 1)^[9] (0x89#64, 0#64)).1 := by
  obtain ⟨hrun, hsteps, -⟩ := shift_iterated .rm8 9 true rolClContext.state.rflags 0x89#64 (by decide)
  refine ⟨_, hrun .rol .cl rolClContext ⟨rfl, rfl, by decide, rfl⟩, ?_⟩
  exact (hsteps .rol rfl (by decide)).1

end Seven
