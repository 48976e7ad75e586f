import Seven.Handlers.ShiftBits

/-!
# Double shifts

`SHLD` and `SHRD` shift a register of twice the operand's width, the
destination next to the source, and keep the destination's half:

> `doubleShifted`: that half, as a number, and
> `doubleShiftedOut`: the last bit that left the destination.

The source reduces the masked count modulo the operand's width, which a count
below the width does not notice. A count of the width itself — sixteen, for
16-bit operands the only masked count that reaches it — becomes zero, and the
instruction does nothing where the shift would bring in the whole source.
`DoubleShiftOp.shifts_iff` is the exact extent of that.
-/

namespace Seven

/-- The destination's half of the double register, shifted by `n`. -/
def doubleShifted (op : DoubleShiftOp) (b n dst src : Nat) : Nat :=
  match op with
  | .shld => (dst * 2 ^ b + src) * 2 ^ n % 2 ^ (2 * b) / 2 ^ b
  | .shrd => (src * 2 ^ b + dst) / 2 ^ n % 2 ^ b

/-- The last bit shifted out of the destination. -/
def doubleShiftedOut (op : DoubleShiftOp) (b n dst : Nat) : Bool :=
  match op with
  | .shld => dst.testBit (b - n)
  | .shrd => dst.testBit (n - 1)

/-- The instruction shifts the double register by `n`. -/
def DoubleShiftOp.Shifts (op : DoubleShiftOp) (w n : Nat) (rflags dst src : U64) : Prop :=
  let out := doubleShiftCompute op w n rflags dst src
  out.1.toNat = doubleShifted op (8 * w) n dst.toNat src.toNat ∧
    flagSet out.2 kFlagCF = doubleShiftedOut op (8 * w) n dst.toNat

instance (op : DoubleShiftOp) (w n : Nat) (rflags dst src : U64) :
    Decidable (op.Shifts w n rflags dst src) := by
  unfold DoubleShiftOp.Shifts
  infer_instance

/-- The two halves of a double register, bit by bit. -/
theorem testBit_halves {lo b : Nat} (hlo : lo < 2 ^ b) (hi j : Nat) :
    (hi * 2 ^ b + lo).testBit j = if j < b then lo.testBit j else hi.testBit (j - b) := by
  rw [Nat.mul_comm, Nat.testBit_two_pow_mul_add hi hlo]

section Halves

variable {b dst src : Nat}

/-- A bit of `SHLD`'s result. -/
theorem testBit_shld (hsrc : src < 2 ^ b) {n i : Nat} (hn : n ≤ b) (hi : i < b) :
    (doubleShifted .shld b n dst src).testBit i =
      if n ≤ i then dst.testBit (i - n) else src.testBit (i + b - n) := by
  unfold doubleShifted
  dsimp only
  rw [Nat.testBit_div_two_pow, Nat.testBit_mod_two_pow, decide_eq_true (by omega), Bool.true_and,
    Nat.testBit_mul_two_pow, testBit_halves hsrc, decide_eq_true (by omega), Bool.true_and]
  by_cases hni : n ≤ i
  · rw [if_pos hni, if_neg (by omega), show i + b - n - b = i - n by omega]
  · rw [if_neg hni, if_pos (by omega)]

/-- A bit of `SHRD`'s result. -/
theorem testBit_shrd (hdst : dst < 2 ^ b) (n : Nat) {i : Nat} (hi : i < b) :
    (doubleShifted .shrd b n dst src).testBit i =
      if i + n < b then dst.testBit (i + n) else src.testBit (i + n - b) := by
  unfold doubleShifted
  dsimp only
  rw [Nat.testBit_mod_two_pow, decide_eq_true hi, Bool.true_and, Nat.testBit_div_two_pow,
    testBit_halves hdst]

/-- The result fits the width. -/
theorem doubleShifted_lt {op : DoubleShiftOp} (b n dst src : Nat) :
    doubleShifted op b n dst src < 2 ^ b := by
  unfold doubleShifted
  cases op with
  | shld =>
    apply Nat.div_lt_of_lt_mul
    rw [← Nat.pow_add, ← Nat.two_mul]
    exact Nat.mod_lt _ (Nat.two_pow_pos _)
  | shrd => exact Nat.mod_lt _ (Nat.two_pow_pos _)

/-- A shift by the whole width brings in the source. -/
theorem doubleShifted_full {op : DoubleShiftOp} (hdst : dst < 2 ^ b) (hsrc : src < 2 ^ b) :
    doubleShifted op b b dst src = src := by
  refine Nat.eq_of_testBit_eq fun i => ?_
  by_cases hi : i < b
  · cases op with
    | shld => rw [testBit_shld hsrc (Nat.le_refl b) hi, if_neg (by omega), Nat.add_sub_cancel]
    | shrd => rw [testBit_shrd hdst b hi, if_neg (by omega), Nat.add_sub_cancel]
  · have hpow : 2 ^ b ≤ 2 ^ i := Nat.pow_le_pow_right (by decide) (by omega)
    rw [Nat.testBit_lt_two_pow (Nat.lt_of_lt_of_le (doubleShifted_lt b b dst src) hpow),
      Nat.testBit_lt_two_pow (Nat.lt_of_lt_of_le hsrc hpow)]

end Halves

/-! ## Counts below the width -/

section Counts

variable {op : DoubleShiftOp} {w n : Nat} (hw : w ≤ 8) (rflags : U64) {dst src : U64}
  (hdst : dst.toNat < 2 ^ (8 * w)) (hsrc : src.toNat < 2 ^ (8 * w))

/-- The value of a double shift by `0 < n < width`. -/
def doubleShiftValue (op : DoubleShiftOp) (w n : Nat) (dst src : U64) : U64 :=
  match op with
  | .shld => ((dst <<< n) ||| (src >>> (8 * w - n))) &&& maskForWidth w
  | .shrd => ((dst >>> n) ||| (src <<< (8 * w - n))) &&& maskForWidth w

include hw hdst hsrc

/-- The value by the wide shift. -/
theorem doubleShiftValue_toNat (hlt : n < 8 * w) :
    (doubleShiftValue op w n dst src).toNat =
      doubleShifted op (8 * w) n dst.toNat src.toNat := by
  -- Bit by bit below the width; nothing lies above it.
  refine Nat.eq_of_testBit_eq fun i => ?_
  by_cases hi : i < 8 * w
  · cases op with
    | shld =>
      show (((dst <<< n) ||| (src >>> (8 * w - n))) &&& maskForWidth w).toNat.testBit i = _
      rw [testBit_shld hsrc (by omega) hi, BitVec.testBit_toNat, getLsbD_mask _ hw,
        decide_eq_true hi, Bool.true_and, BitVec.getLsbD_or, BitVec.getLsbD_shiftLeft,
        BitVec.getLsbD_ushiftRight, decide_eq_true (by omega : i < 64), Bool.true_and,
        BitVec.testBit_toNat, BitVec.testBit_toNat]
      by_cases hni : n ≤ i
      · -- the source has nothing that high
        rw [if_pos hni, decide_eq_false (by omega : ¬ i < n),
          getLsbD_high hsrc (by omega : 8 * w ≤ 8 * w - n + i), Bool.or_false]
        rfl
      · rw [if_neg hni, decide_eq_true (by omega : i < n),
          show 8 * w - n + i = i + 8 * w - n by omega]
        rfl
    | shrd =>
      show (((dst >>> n) ||| (src <<< (8 * w - n))) &&& maskForWidth w).toNat.testBit i = _
      rw [testBit_shrd hdst n hi, BitVec.testBit_toNat, getLsbD_mask _ hw, decide_eq_true hi,
        Bool.true_and, BitVec.getLsbD_or, BitVec.getLsbD_shiftLeft, BitVec.getLsbD_ushiftRight,
        decide_eq_true (by omega : i < 64), Bool.true_and, BitVec.testBit_toNat,
        BitVec.testBit_toNat, Nat.add_comm n i]
      by_cases hni : i + n < 8 * w
      · rw [if_pos hni, decide_eq_true (by omega : i < 8 * w - n), Bool.not_true, Bool.false_and,
          Bool.or_false]
      -- The source fills the bits the destination has left at the top.
      · rw [if_neg hni, decide_eq_false (by omega : ¬ i < 8 * w - n),
          getLsbD_high hdst (by omega : 8 * w ≤ i + n), show i - (8 * w - n) = i + n - 8 * w by omega]
        rfl
  · -- neither side has a bit above the width
    have hpow : 2 ^ (8 * w) ≤ 2 ^ i := Nat.pow_le_pow_right (by decide) (by omega)
    have hvalue : (doubleShiftValue op w n dst src).getLsbD i = false := by
      unfold doubleShiftValue
      cases op <;> dsimp only <;> rw [getLsbD_mask _ hw, decide_eq_false hi, Bool.false_and]
    rw [BitVec.testBit_toNat, hvalue,
      Nat.testBit_lt_two_pow (Nat.lt_of_lt_of_le (doubleShifted_lt _ _ _ _) hpow)]

omit hdst in
/-- The value stored. -/
theorem doubleShiftCompute_value (hn : 0 < n) (hlt : n < 8 * w) :
    (doubleShiftCompute op w n rflags dst src).1 = doubleShiftValue op w n dst src := by
  unfold doubleShiftCompute doubleShiftValue
  dsimp only
  rw [Nat.mul_comm w 8, Nat.mod_eq_of_lt hlt, if_neg (by omega), mask_eq_self hw hsrc]
  cases op <;> rfl

omit hw hdst hsrc in
/-- CF is the last bit shifted out. -/
theorem doubleShiftCompute_carry (hn : 0 < n) (hlt : n < 8 * w) :
    flagSet (doubleShiftCompute op w n rflags dst src).2 kFlagCF =
      doubleShiftedOut op (8 * w) n dst.toNat := by
  unfold doubleShiftCompute doubleShiftedOut
  dsimp only
  rw [Nat.mul_comm w 8, Nat.mod_eq_of_lt hlt, if_neg (by omega)]
  dsimp only
  rw [flagSet_setResultFlags rfl rfl rfl, flagSet_setFlag_of_disjoint rfl,
    flagSet_setFlag_of_disjoint rfl, flagSet_setFlag_self (by decide)]
  cases op with
  | shld =>
    dsimp only
    rw [flagSet_low, BitVec.getLsbD_ushiftRight, BitVec.testBit_toNat]
    rfl
  | shrd =>
    dsimp only
    rw [flagSet_low, BitVec.getLsbD_ushiftRight, BitVec.testBit_toNat]
    rfl

/-- A count below the width shifts. -/
theorem DoubleShiftOp.shifts_of_lt (hn : 0 < n) (hlt : n < 8 * w) :
    op.Shifts w n rflags dst src := by
  constructor
  · show (doubleShiftCompute op w n rflags dst src).1.toNat = _
    rw [doubleShiftCompute_value hw rflags hsrc hn hlt]
    exact doubleShiftValue_toNat hw hdst hsrc hlt
  · exact doubleShiftCompute_carry rflags hn hlt

/-! ## A count that is reduced to zero -/

omit hsrc in
/-- Nothing happens. -/
theorem doubleShiftCompute_zero (hzero : n % (8 * w) = 0) :
    doubleShiftCompute op w n rflags dst src = (dst, rflags) := by
  unfold doubleShiftCompute
  dsimp only
  rw [Nat.mul_comm w 8, if_pos hzero, mask_eq_self hw hdst]

/-- By the whole width the shift is missed, unless it would change nothing. -/
theorem DoubleShiftOp.shifts_full_iff :
    op.Shifts w (8 * w) rflags dst src ↔
      dst = src ∧ flagSet rflags kFlagCF = doubleShiftedOut op (8 * w) (8 * w) dst.toNat := by
  unfold DoubleShiftOp.Shifts
  dsimp only
  rw [doubleShiftCompute_zero hw rflags hdst (Nat.mod_self _), doubleShifted_full hdst hsrc,
    BitVec.toNat_inj]

end Counts

/-- **Double shifts**: a masked count up to the width shifts the double
register exactly when it is below the width, or when shifting in the whole
source would change neither the destination nor the carry. A count of zero
changes nothing. -/
theorem DoubleShiftOp.shifts_iff (op : DoubleShiftOp) (w : RmWideWidth) (n : Nat)
    (rflags dst src : U64) (hdst : dst.toNat < 2 ^ (8 * w.bytes))
    (hsrc : src.toNat < 2 ^ (8 * w.bytes)) (hn : n ≤ 8 * w.bytes) :
    (0 < n → (op.Shifts w.bytes n rflags dst src ↔ n < 8 * w.bytes ∨
      (dst = src ∧ flagSet rflags kFlagCF = doubleShiftedOut op (8 * w.bytes) n dst.toNat))) ∧
    doubleShiftCompute op w.bytes 0 rflags dst src = (dst, rflags) := by
  have hw : w.bytes ≤ 8 := by cases w <;> decide
  refine ⟨fun hpos => ?_, doubleShiftCompute_zero hw rflags hdst (Nat.zero_mod _)⟩
  rcases Nat.lt_or_ge n (8 * w.bytes) with hlt | hge
  · exact ⟨fun _ => Or.inl hlt, fun _ => shifts_of_lt hw rflags hdst hsrc hpos hlt⟩
  · obtain rfl : n = 8 * w.bytes := by omega
    rw [shifts_full_iff hw rflags hdst hsrc]
    exact ⟨Or.inr, fun h => h.resolve_left (Nat.lt_irrefl _)⟩

/-- The shift by four of a 16-bit operand. -/
theorem DoubleShiftOp.shifts_four :
    DoubleShiftOp.Shifts .shld 2 4 0#64 0x1234#64 0xABCD#64 :=
  ((DoubleShiftOp.shifts_iff .shld .rm16 4 0#64 0x1234#64 0xABCD#64 (by decide) (by decide)
    (by decide)).1 (by decide)).mpr (Or.inl (by decide))

/-- `SHLD AX, BX, 16` leaves `AX` where the shift moves `BX` into it, although
16 is a count the mask lets through. -/
theorem DoubleShiftOp.shifts_sixteen_missed :
    maskedCount 2 16#64 = 16 ∧ ¬ DoubleShiftOp.Shifts .shld 2 16 0#64 1#64 0xABCD#64 := by
  decide

end Seven
