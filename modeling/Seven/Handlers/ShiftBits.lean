import Seven.Cpu.FlagIntegers
import Seven.Handlers.Alu

/-!
# Shifts and rotates, bit by bit

The shift handlers have their cases for a count below, at and above the
operand width, and the rotates reduce the count first. A result is easier to
reason about as bits of the source:

> `shiftedBit`: which bit of the source lands in bit `i` of the result, and
> `shiftedOut`: which one lands in the carry,

for each operation at every count. `ShiftOp.compute_bit` and
`ShiftOp.compute_carry` say that the handlers agree with it.
-/

namespace Seven

/-! ## Bits of a word -/

/-- A bit of a masked value. -/
theorem getLsbD_mask (v : U64) {w : Nat} (hw : w ≤ 8) (i : Nat) :
    (v &&& maskForWidth w).getLsbD i = (decide (i < 8 * w) && v.getLsbD i) := by
  rw [← BitVec.testBit_toNat, ← BitVec.testBit_toNat, and_maskForWidth_toNat v hw,
    Nat.testBit_mod_two_pow]

/-- A flag is a bit. -/
theorem flagSet_bit (v : U64) {k : Nat} (hk : k < 64) : flagSet v (1#64 <<< k) = v.getLsbD k := by
  rw [flagSet_shift v hk, BitVec.testBit_toNat]

/-- The lowest one. -/
theorem flagSet_low (v : U64) : flagSet v 1#64 = v.getLsbD 0 := flagSet_bit v (k := 0) (by decide)

/-- The sign. -/
theorem flagSet_msb (v : U64) {w : Nat} (h0 : 0 < w) (hw : w ≤ 8) :
    flagSet v (signBitForWidth w) = v.getLsbD (8 * w - 1) := by
  unfold signBitForWidth
  rw [Nat.mul_comm w 8, flagSet_bit v (by omega)]

/-- A value that fits has no bit above. -/
theorem getLsbD_high {v : U64} {b i : Nat} (hv : v.toNat < 2 ^ b) (hi : b ≤ i) :
    v.getLsbD i = false := by
  rw [← BitVec.testBit_toNat]
  exact Nat.testBit_lt_two_pow (Nat.lt_of_lt_of_le hv (Nat.pow_le_pow_right (by decide) hi))

/-- And is not masked. -/
theorem mask_eq_self {v : U64} {w : Nat} (hw : w ≤ 8) (hv : v.toNat < 2 ^ (8 * w)) :
    v &&& maskForWidth w = v := by
  apply BitVec.eq_of_toNat_eq
  rw [and_maskForWidth_toNat v hw, Nat.mod_eq_of_lt hv]

/-- Sign extension repeats the sign bit upwards. -/
theorem getLsbD_signExtend {v : U64} {w : Nat} (h0 : 0 < w) (hw : w ≤ 8)
    (hv : v.toNat < 2 ^ (8 * w)) {i : Nat} (hi : i < 64) :
    (signExtend v w).getLsbD i =
      if i < 8 * w then v.getLsbD i else v.getLsbD (8 * w - 1) := by
  have hsign := flagSet_msb v h0 hw
  unfold flagSet at hsign
  have hextend : signExtend v w =
      if v &&& signBitForWidth w = 0#64 then v else v ||| ~~~maskForWidth w := by
    unfold signExtend
    dsimp only
    rw [mask_eq_self hw hv]
  rw [hextend]
  have hmask : (maskForWidth w).getLsbD i = decide (i < 8 * w) := by
    have h := getLsbD_mask (BitVec.allOnes 64) hw i
    rw [BitVec.allOnes_and, BitVec.getLsbD_allOnes, decide_eq_true hi, Bool.and_true] at h
    exact h
  -- The sign bit decides whether ones or zeros are filled in above the width.
  by_cases hzero : v &&& signBitForWidth w = 0#64
  · rw [if_pos hzero]
    rw [hzero] at hsign
    by_cases hlow : i < 8 * w
    · rw [if_pos hlow]
    · rw [if_neg hlow, getLsbD_high hv (by omega), ← hsign]
      rfl
  · rw [if_neg hzero, BitVec.getLsbD_or, BitVec.getLsbD_not, hmask, decide_eq_true hi,
      Bool.true_and]
    by_cases hlow : i < 8 * w
    · rw [if_pos hlow, decide_eq_true hlow, Bool.not_true, Bool.or_false]
    · rw [if_neg hlow, decide_eq_false hlow, Bool.not_false, Bool.or_true, ← hsign]
      exact (bne_iff_ne.mpr hzero).symm

/-! ## Where the bits go -/

/-- Bit `i` of the result of `op` by `n`, in a word of `b` bits. -/
def shiftedBit (op : ShiftOp) (b n : Nat) (v : U64) (i : Nat) : Bool :=
  decide (i < b) && match op with
    | .shl | .sal => decide (n ≤ i) && v.getLsbD (i - n)
    | .shr => v.getLsbD (i + n)
    | .sar => v.getLsbD (min (i + n) (b - 1))
    | .rol | .rcl => v.getLsbD ((i + (b - n % b)) % b)
    | .ror | .rcr => v.getLsbD ((i + n) % b)

/-- The carry behind `op` by `n`. -/
def shiftedOut (op : ShiftOp) (b n : Nat) (v : U64) : Bool :=
  match op with
  | .shl | .sal => decide (n ≤ b) && v.getLsbD (b - n)
  | .shr => v.getLsbD (n - 1)
  | .sar => v.getLsbD (min (n - 1) (b - 1))
  | .rol | .rcl => shiftedBit .rol b n v 0
  | .ror | .rcr => shiftedBit .ror b n v (b - 1)

/-- The five operations that move the operand's own bits. -/
def ShiftOp.plain : ShiftOp → Bool
  | .rcl | .rcr => false
  | _ => true

/-- What `op` computes from the masked count `n`; `writesOf` is the rotates'
decision about OF. -/
def ShiftOp.compute (op : ShiftOp) (width n : Nat) (writesOf : Bool) (rflags value : U64) :
    U64 × U64 :=
  match op with
  | .shl | .sal => shiftCompute .left width n rflags value
  | .shr => shiftCompute .logicalRight width n rflags value
  | .sar => shiftCompute .arithmeticRight width n rflags value
  | .rol => rotateCompute true width n writesOf rflags value
  | .ror => rotateCompute false width n writesOf rflags value
  | .rcl => rotateCarryCompute true width n rflags value
  | .rcr => rotateCarryCompute false width n rflags value

/-- The two ways the source masks a count agree. -/
theorem readShiftCount_eq (source : ShiftCountSource) (ctx : ExecutionContext) (w : RmWidth) :
    readShiftCount source ctx w.bytes = maskedCount w.bytes (rawShiftCount source ctx) := by
  cases source with
  | one => cases w <;> simp [readShiftCount, maskedCount, rawShiftCount, RmWidth.bytes]
  | cl => cases w <;> rfl
  | imm8 => cases w <;> rfl

/-- The handlers read the operand and compute from the masked count. -/
theorem handleShift_masked (op : ShiftOp) (w : RmWidth) (source : ShiftCountSource) :
    handleShift op w source = rmwOperand w.bytes fun ctx value =>
      let n := maskedCount w.bytes (rawShiftCount source ctx)
      op.compute w.bytes n (n == 1 || source == .cl || ctx.instr.opKind 0 != .register)
        ctx.state.rflags value := by
  cases op <;> simp only [handleShift, shiftRm, readShiftCount_eq] <;> rfl

/-! ## The handlers move bits so -/

/-- The value of a shift. -/
theorem shiftCompute_fst (kind : ShiftKind) (w n : Nat) (rflags v : U64) (hn : 0 < n) :
    (shiftCompute kind w n rflags v).1 = (shiftResult kind (v &&& maskForWidth w) n w).1 := by
  unfold shiftCompute
  rw [if_neg (by omega)]

/-- The carry of a shift. -/
theorem shiftCompute_carry (kind : ShiftKind) (w n : Nat) (rflags v : U64) (hn : 0 < n) :
    flagSet (shiftCompute kind w n rflags v).2 kFlagCF =
      (shiftResult kind (v &&& maskForWidth w) n w).2 := by
  unfold shiftCompute
  rw [if_neg (by omega)]
  dsimp only
  rw [flagSet_setFlag_of_disjoint rfl, flagSet_setResultFlags rfl rfl rfl,
    flagSet_setFlag_of_disjoint rfl, flagSet_setFlag_self (by decide)]

/-- The value a rotate by the masked count `n > 0` leaves. -/
def rotated (left : Bool) (w n : Nat) (v : U64) : U64 :=
  let shift := n % (w * 8)
  if shift = 0 then v &&& maskForWidth w
  else if left then ((v <<< shift) ||| (v >>> (w * 8 - shift))) &&& maskForWidth w
  else ((v >>> shift) ||| (v <<< (w * 8 - shift))) &&& maskForWidth w

/-- The value of a rotate. -/
theorem rotateCompute_fst (left : Bool) (w n : Nat) (writesOf : Bool) (rflags v : U64)
    (hn : 0 < n) : (rotateCompute left w n writesOf rflags v).1 = rotated left w n v := by
  unfold rotateCompute
  rw [if_neg (by omega)]
  rfl

/-- The carry of a rotate. -/
theorem rotateCompute_carry (left : Bool) (w n : Nat) (writesOf : Bool) (rflags v : U64)
    (hn : 0 < n) :
    flagSet (rotateCompute left w n writesOf rflags v).2 kFlagCF =
      if left then flagSet (rotated left w n v) 1#64
      else flagSet (rotated left w n v) (signBitForWidth w) := by
  unfold rotateCompute
  rw [if_neg (by omega)]
  dsimp only
  cases writesOf with
  | true =>
    rw [if_pos rfl, flagSet_setFlag_of_disjoint rfl, flagSet_setFlag_self (by decide)]
    rfl
  | false =>
    rw [if_neg Bool.false_ne_true, flagSet_setFlag_self (by decide)]
    rfl

section Bits

variable {w : Nat} (h0 : 0 < w) (hw : w ≤ 8) {v : U64} (hv : v.toNat < 2 ^ (8 * w))

include h0 hw hv

omit hv in
/-- `SHL`, bit by bit. -/
theorem shiftResult_left (n : Nat) :
    (∀ i, (shiftResult .left v n w).1.getLsbD i = shiftedBit .shl (8 * w) n v i) ∧
      (shiftResult .left v n w).2 = shiftedOut .shl (8 * w) n v := by
  unfold shiftResult shiftedBit shiftedOut
  dsimp only
  rw [Nat.mul_comm w 8]
  by_cases hlt : n < 8 * w
  · rw [if_pos hlt]
    constructor
    · intro i
      rw [getLsbD_mask _ hw, BitVec.getLsbD_shiftLeft]
      by_cases hi : i < 8 * w
      · rw [decide_eq_true hi, decide_eq_true (by omega : i < 64), Bool.true_and, Bool.true_and,
          Bool.true_and]
        by_cases hni : n ≤ i
        · rw [decide_eq_true hni, decide_eq_false (by omega : ¬ i < n)]
          rfl
        · rw [decide_eq_false hni, decide_eq_true (by omega : i < n)]
          rfl
      · rw [decide_eq_false hi, Bool.false_and, Bool.false_and]
    · rw [flagSet_low, BitVec.getLsbD_ushiftRight, decide_eq_true (by omega : n ≤ 8 * w),
        Bool.true_and]
      rfl
  · rw [if_neg hlt]
    -- everything is out; a count of the width itself still has the last bit in the carry
    have hout (i : Nat) : (decide (i < 8 * w) && (decide (n ≤ i) && v.getLsbD (i - n))) = false := by
      by_cases hi : i < 8 * w
      · rw [decide_eq_false (by omega : ¬ n ≤ i), Bool.false_and, Bool.and_false]
      · rw [decide_eq_false hi, Bool.false_and]
    by_cases heq : n = 8 * w
    · rw [if_pos heq]
      constructor
      · intro i
        rw [hout i]
        exact BitVec.getLsbD_zero
      · rw [flagSet_low, decide_eq_true (by omega : n ≤ 8 * w), Bool.true_and, heq, Nat.sub_self]
    · rw [if_neg heq]
      constructor
      · intro i
        rw [hout i]
        exact BitVec.getLsbD_zero
      · rw [decide_eq_false (by omega : ¬ n ≤ 8 * w), Bool.false_and]

/-- `SHR`, bit by bit. -/
theorem shiftResult_logicalRight {n : Nat} (hn : 0 < n) :
    (∀ i, (shiftResult .logicalRight v n w).1.getLsbD i = shiftedBit .shr (8 * w) n v i) ∧
      (shiftResult .logicalRight v n w).2 = shiftedOut .shr (8 * w) n v := by
  unfold shiftResult shiftedBit shiftedOut
  dsimp only
  rw [Nat.mul_comm w 8]
  -- what is above the width is zero, so the bound on `i` is no restriction
  have hin (i : Nat) : (decide (i < 8 * w) && v.getLsbD (i + n)) = v.getLsbD (i + n) := by
    by_cases hi : i < 8 * w
    · rw [decide_eq_true hi, Bool.true_and]
    · rw [getLsbD_high hv (by omega), Bool.and_false]
  by_cases hlt : n < 8 * w
  · rw [if_pos hlt]
    constructor
    · intro i
      rw [hin, BitVec.getLsbD_ushiftRight, Nat.add_comm]
    · rw [flagSet_low, BitVec.getLsbD_ushiftRight]
      rfl
  · rw [if_neg hlt]
    by_cases heq : n = 8 * w
    · rw [if_pos heq]
      constructor
      · intro i
        rw [hin, getLsbD_high hv (by omega)]
        exact BitVec.getLsbD_zero
      · rw [flagSet_msb v h0 hw, heq]
    · rw [if_neg heq]
      constructor
      · intro i
        rw [hin, getLsbD_high hv (by omega)]
        exact BitVec.getLsbD_zero
      · rw [getLsbD_high hv (by omega)]

/-- `SAR`, bit by bit. -/
theorem shiftResult_arithmeticRight {n : Nat} (hn : 0 < n) :
    (∀ i, (shiftResult .arithmeticRight v n w).1.getLsbD i = shiftedBit .sar (8 * w) n v i) ∧
      (shiftResult .arithmeticRight v n w).2 = shiftedOut .sar (8 * w) n v := by
  unfold shiftResult shiftedBit shiftedOut
  dsimp only
  rw [Nat.mul_comm w 8]
  by_cases hlt : n < 8 * w
  · rw [if_pos hlt]
    constructor
    · intro i
      rw [getLsbD_mask _ hw, BitVec.getLsbD_sshiftRight]
      by_cases hi : i < 8 * w
      · rw [decide_eq_true hi, decide_eq_false (by omega : ¬ 64 ≤ i), Bool.true_and,
          Bool.true_and, Bool.not_false, Bool.true_and]
        -- the extended operand has the sign in every bit from the width on
        by_cases hin : n + i < 64
        · rw [if_pos hin, getLsbD_signExtend h0 hw hv hin]
          by_cases hlow : n + i < 8 * w
          · rw [if_pos hlow, Nat.min_eq_left (by omega), Nat.add_comm]
          · rw [if_neg hlow, Nat.min_eq_right (by omega)]
        · rw [if_neg hin, BitVec.msb_eq_getLsbD_last, getLsbD_signExtend h0 hw hv (by decide),
            Nat.min_eq_right (by omega)]
          split
          · rw [show 64 - 1 = 8 * w - 1 by omega]
          · rfl
      · rw [decide_eq_false hi, Bool.false_and, Bool.false_and]
    · rw [flagSet_low, BitVec.getLsbD_ushiftRight, Nat.min_eq_left (by omega)]
      rfl
  · rw [if_neg hlt, flagSet_msb v h0 hw]
    constructor
    · -- the source writes the sign out as a mask or as zero
      intro i
      rw [Nat.min_eq_right (by omega)]
      have hmask := getLsbD_mask (BitVec.allOnes 64) hw i
      rw [BitVec.allOnes_and, BitVec.getLsbD_allOnes] at hmask
      by_cases hi : i < 8 * w
      · rw [decide_eq_true hi, decide_eq_true (by omega : i < 64)] at hmask
        rw [decide_eq_true hi, Bool.true_and]
        split
        · next hmsb => rw [hmask, hmsb]; rfl
        · next hmsb => rw [Bool.eq_false_iff.mpr hmsb]; exact BitVec.getLsbD_zero
      · rw [decide_eq_false hi, Bool.false_and] at hmask
        rw [decide_eq_false hi, Bool.false_and]
        split
        · exact hmask
        · exact BitVec.getLsbD_zero
    · rw [Nat.min_eq_right (by omega)]

/-- `ROL` and `ROR`, bit by bit. -/
theorem rotated_bit (left : Bool) (n i : Nat) :
    (rotated left w n v).getLsbD i = shiftedBit (if left then .rol else .ror) (8 * w) n v i := by
  unfold rotated
  dsimp only
  rw [Nat.mul_comm w 8]
  have hshift : n % (8 * w) < 8 * w := Nat.mod_lt _ (by omega)
  by_cases hi : i < 8 * w
  · by_cases hzero : n % (8 * w) = 0
    · rw [if_pos hzero, mask_eq_self hw hv]
      cases left with
      | true =>
        show _ = (decide (i < 8 * w) && v.getLsbD ((i + (8 * w - n % (8 * w))) % (8 * w)))
        rw [decide_eq_true hi, Bool.true_and, hzero, Nat.sub_zero, Nat.add_mod_right,
          Nat.mod_eq_of_lt hi]
      | false =>
        show _ = (decide (i < 8 * w) && v.getLsbD ((i + n) % (8 * w)))
        rw [decide_eq_true hi, Bool.true_and, Nat.add_mod, hzero, Nat.add_zero, Nat.mod_mod,
          Nat.mod_eq_of_lt hi]
    · rw [if_neg hzero]
      cases left with
      | true =>
        show _ = (decide (i < 8 * w) && v.getLsbD ((i + (8 * w - n % (8 * w))) % (8 * w)))
        generalize n % (8 * w) = m at *
        -- the low `m` bits come from the top, the others from below
        rw [if_pos rfl, getLsbD_mask _ hw, decide_eq_true hi, Bool.true_and, Bool.true_and,
          BitVec.getLsbD_or, BitVec.getLsbD_shiftLeft, BitVec.getLsbD_ushiftRight,
          decide_eq_true (by omega : i < 64), Bool.true_and]
        by_cases hm : i < m
        · rw [decide_eq_true hm, Nat.mod_eq_of_lt (by omega), Nat.add_comm]
          rfl
        · rw [decide_eq_false hm, getLsbD_high hv (by omega : 8 * w ≤ 8 * w - m + i),
            show i + (8 * w - m) = i - m + 8 * w by omega, Nat.add_mod_right,
            Nat.mod_eq_of_lt (by omega), Bool.or_false]
          rfl
      | false =>
        show _ = (decide (i < 8 * w) && v.getLsbD ((i + n) % (8 * w)))
        rw [Nat.add_mod, Nat.mod_eq_of_lt hi]
        generalize n % (8 * w) = m at *
        rw [if_neg Bool.false_ne_true, getLsbD_mask _ hw, decide_eq_true hi, Bool.true_and,
          Bool.true_and, BitVec.getLsbD_or, BitVec.getLsbD_shiftLeft, BitVec.getLsbD_ushiftRight,
          decide_eq_true (by omega : i < 64), Bool.true_and]
        by_cases hm : i < 8 * w - m
        · rw [decide_eq_true hm, Nat.mod_eq_of_lt (by omega), Nat.add_comm, Bool.not_true,
            Bool.false_and, Bool.or_false]
        · rw [decide_eq_false hm, getLsbD_high hv (by omega : 8 * w ≤ m + i),
            show i + m = i - (8 * w - m) + 8 * w by omega, Nat.add_mod_right,
            Nat.mod_eq_of_lt (by omega), Bool.false_or]
          rfl
  · -- above the width both sides are cleared
    have hout (x : U64) : (x &&& maskForWidth w).getLsbD i = false := by
      rw [getLsbD_mask _ hw, decide_eq_false hi, Bool.false_and]
    have hright : shiftedBit (if left then .rol else .ror) (8 * w) n v i = false := by
      unfold shiftedBit
      rw [decide_eq_false hi, Bool.false_and]
    rw [hright]
    split
    · exact hout _
    · split <;> exact hout _

/-- **The results**, bit by bit. -/
theorem ShiftOp.compute_bit (op : ShiftOp) (hop : op.plain = true) {n : Nat} (hn : 0 < n)
    (writesOf : Bool) (rflags : U64) (i : Nat) :
    (op.compute w n writesOf rflags v).1.getLsbD i = shiftedBit op (8 * w) n v i := by
  -- The two rotates through the carry are excluded: their bits pass through CF.
  cases op with
  | shl | sal =>
    unfold ShiftOp.compute
    dsimp only
    rw [shiftCompute_fst _ _ _ _ _ hn, mask_eq_self hw hv]
    exact (shiftResult_left h0 hw n).1 i
  | shr =>
    unfold ShiftOp.compute
    dsimp only
    rw [shiftCompute_fst _ _ _ _ _ hn, mask_eq_self hw hv]
    exact (shiftResult_logicalRight h0 hw hv hn).1 i
  | sar =>
    unfold ShiftOp.compute
    dsimp only
    rw [shiftCompute_fst _ _ _ _ _ hn, mask_eq_self hw hv]
    exact (shiftResult_arithmeticRight h0 hw hv hn).1 i
  | rol =>
    unfold ShiftOp.compute
    dsimp only
    rw [rotateCompute_fst _ _ _ _ _ _ hn]
    exact rotated_bit h0 hw hv true n i
  | ror =>
    unfold ShiftOp.compute
    dsimp only
    rw [rotateCompute_fst _ _ _ _ _ _ hn]
    exact rotated_bit h0 hw hv false n i
  | rcl | rcr => cases hop

/-- **The carries.** -/
theorem ShiftOp.compute_carry (op : ShiftOp) (hop : op.plain = true) {n : Nat} (hn : 0 < n)
    (writesOf : Bool) (rflags : U64) :
    flagSet (op.compute w n writesOf rflags v).2 kFlagCF = shiftedOut op (8 * w) n v := by
  -- Each reads its carry off the same position its bits move past.
  cases op with
  | shl | sal =>
    unfold ShiftOp.compute
    dsimp only
    rw [shiftCompute_carry _ _ _ _ _ hn, mask_eq_self hw hv]
    exact (shiftResult_left h0 hw n).2
  | shr =>
    unfold ShiftOp.compute
    dsimp only
    rw [shiftCompute_carry _ _ _ _ _ hn, mask_eq_self hw hv]
    exact (shiftResult_logicalRight h0 hw hv hn).2
  | sar =>
    unfold ShiftOp.compute
    dsimp only
    rw [shiftCompute_carry _ _ _ _ _ hn, mask_eq_self hw hv]
    exact (shiftResult_arithmeticRight h0 hw hv hn).2
  | rol =>
    unfold ShiftOp.compute
    dsimp only
    rw [rotateCompute_carry _ _ _ _ _ _ hn, if_pos rfl, flagSet_low]
    exact rotated_bit h0 hw hv true n 0
  | ror =>
    unfold ShiftOp.compute
    dsimp only
    rw [rotateCompute_carry _ _ _ _ _ _ hn, if_neg Bool.false_ne_true, flagSet_msb _ h0 hw]
    exact rotated_bit h0 hw hv false n (8 * w - 1)
  | rcl | rcr => cases hop

end Bits

end Seven
