import Seven.Handlers.WriteMask

/-!
# Lanes of packed integers

What the packed additions, subtractions, comparisons and shifts do to one
element, in terms of the integers that the elements stand for: the code works
on machine words and guards against overflow where it saturates, the scalar
definitions here take the exact integer and reduce or clamp it.

> `IntCode.lanes`: in every form, legacy, VEX or EVEX, element `i` of the
> destination is the scalar operation on elements `i` of the sources.

> `packed_lane_law`: so two forms that are given the same elements leave the
> same elements.
-/

namespace Seven

open Seven.Lib

/-! ## Scalars -/

section

variable {w : Nat}

/-- The value of the range that is nearest to `v`. -/
def clamp (lo hi v : Int) : Int := max lo (min hi v)

/-- The nearest signed value of the width. -/
def clampSigned (w : Nat) (v : Int) : BitVec w :=
  BitVec.ofInt w (clamp (-2 ^ (w - 1)) (2 ^ (w - 1) - 1) v)

/-- The nearest unsigned value of the width. -/
def clampUnsigned (w : Nat) (v : Int) : BitVec w :=
  BitVec.ofInt w (clamp 0 (2 ^ w - 1) v)

/-- One lane of a packed operation, over the integers. -/
def PackedOp.scalar (op : PackedOp) (a b : BitVec w) : BitVec w :=
  match op with
  | .paddb | .paddw | .paddd | .paddq => BitVec.ofNat w (a.toNat + b.toNat)
  | .psubb | .psubw | .psubd | .psubq => BitVec.ofInt w (a.toNat - b.toNat)
  | .paddsb | .paddsw => clampSigned w (a.toInt + b.toInt)
  | .psubsb | .psubsw => clampSigned w (a.toInt - b.toInt)
  | .paddusb | .paddusw => clampUnsigned w (a.toNat + b.toNat)
  | .psubusb | .psubusw => clampUnsigned w (a.toNat - b.toNat)
  | .pavgb | .pavgw => BitVec.ofNat w ((a.toNat + b.toNat + 1) / 2)
  | .pmullw => BitVec.ofInt w (a.toInt * b.toInt)

/-- One lane of a comparison, over the integers. -/
def CompareOp.scalar (op : CompareOp) (a b : BitVec w) : BitVec w :=
  match op with
  | .pcmpeqb | .pcmpeqw | .pcmpeqd | .pcmpeqq =>
    if a.toNat = b.toNat then BitVec.allOnes w else 0#w
  | .pcmpgtb | .pcmpgtw | .pcmpgtd | .pcmpgtq =>
    if b.toInt < a.toInt then BitVec.allOnes w else 0#w

/-- By any count, also one that leaves nothing. -/
def PackedShift.scalar (op : PackedShift) (v : BitVec w) (count : Nat) : BitVec w :=
  match op with
  | .psllw | .pslld | .psllq => BitVec.ofNat w (v.toNat * 2 ^ count)
  | .psrlw | .psrld | .psrlq => BitVec.ofNat w (v.toNat / 2 ^ count)
  | .psraw | .psrad => BitVec.ofInt w (v.toInt / 2 ^ count)

/-- What a shift by the width or more leaves: zero or copies of the sign. -/
def PackedShift.fill (op : PackedShift) (v : BitVec w) : BitVec w :=
  match op with
  | .psraw | .psrad => if v.toInt < 0 then BitVec.allOnes w else 0#w
  | _ => 0#w

/-- A word is the clamped value if its integer is. -/
theorem eq_clampSigned {x : BitVec w} {v : Int}
    (hx : x.toInt = clamp (-2 ^ (w - 1)) (2 ^ (w - 1) - 1) v) : x = clampSigned w v := by
  unfold clampSigned
  rw [← hx, BitVec.ofInt_toInt]

/-- A clamped value by its number. -/
theorem eq_clampUnsigned {x : BitVec w} {v : Int}
    (hx : (x.toNat : Int) = clamp 0 (2 ^ w - 1) v) : x = clampUnsigned w v := by
  unfold clampUnsigned
  rw [← hx, BitVec.ofInt_natCast, BitVec.ofNat_toNat, BitVec.setWidth_eq]

/-- The width is twice the sign bit. -/
theorem two_pow_pred (hw : 0 < w) : (2 : Int) ^ w = 2 * 2 ^ (w - 1) := by
  obtain ⟨k, rfl⟩ : ∃ k, w = k + 1 := ⟨w - 1, by omega⟩
  rw [Nat.add_sub_cancel, Int.pow_succ, Int.mul_comm]

/-- No wrap, where the exact value is in range. -/
theorem bmod_exact (hw : 0 < w) {v : Int} (hlow : -2 ^ (w - 1) ≤ v)
    (hhigh : v ≤ 2 ^ (w - 1) - 1) : v.bmod (2 ^ w) = v := by
  have hpow := two_pow_pred hw
  apply Int.bmod_eq_of_le
  · push_cast
    omega
  · push_cast
    omega

/-- A sum that does not overflow. -/
theorem toInt_add_exact (hw : 0 < w) {a b : BitVec w} (hlow : -2 ^ (w - 1) ≤ a.toInt + b.toInt)
    (hhigh : a.toInt + b.toInt ≤ 2 ^ (w - 1) - 1) : (a + b).toInt = a.toInt + b.toInt := by
  rw [BitVec.toInt_add, bmod_exact hw hlow hhigh]

/-- A difference that does not overflow. -/
theorem toInt_sub_exact (hw : 0 < w) {a b : BitVec w} (hlow : -2 ^ (w - 1) ≤ a.toInt - b.toInt)
    (hhigh : a.toInt - b.toInt ≤ 2 ^ (w - 1) - 1) : (a - b).toInt = a.toInt - b.toInt := by
  rw [BitVec.toInt_sub, bmod_exact hw hlow hhigh]

/-- **Signed addition saturates.** The guard of either side subtracts from its
end of the range, which the sign of the other operand keeps in range. -/
theorem satAddSigned_eq (hw : 0 < w) (a b : BitVec w) :
    satAddSigned a b = clampSigned w (a.toInt + b.toInt) := by
  have ha := BitVec.le_toInt a
  have ha' := BitVec.toInt_lt (x := a)
  have hb := BitVec.le_toInt b
  have hb' := BitVec.toInt_lt (x := b)
  have hmax := BitVec.toInt_intMax (w := w)
  have hmin := BitVec.toInt_intMin_of_pos hw
  apply eq_clampSigned
  unfold satAddSigned clamp
  simp only [BitVec.slt_iff_toInt_lt, BitVec.toInt_zero]
  -- The guard subtracts on the side where the difference cannot overflow.
  by_cases hpos : 0 < b.toInt
  · have hguard : (BitVec.intMax w - b).toInt = 2 ^ (w - 1) - 1 - b.toInt := by
      rw [toInt_sub_exact hw (by omega) (by omega), hmax]
    by_cases hover : 2 ^ (w - 1) - 1 - b.toInt < a.toInt
    · rw [if_pos ⟨hpos, hguard ▸ hover⟩, hmax]
      omega
    · rw [if_neg (fun h => hover (hguard ▸ h.2)), if_neg (by omega),
        toInt_add_exact hw (by omega) (by omega)]
      omega
  · rw [if_neg (fun h => hpos h.1)]
    by_cases hneg : b.toInt < 0
    · have hguard : (BitVec.intMin w - b).toInt = -2 ^ (w - 1) - b.toInt := by
        rw [toInt_sub_exact hw (by omega) (by omega), hmin]
      by_cases hunder : a.toInt < -2 ^ (w - 1) - b.toInt
      · rw [if_pos ⟨hneg, hguard ▸ hunder⟩, hmin]
        omega
      · rw [if_neg (fun h => hunder (hguard ▸ h.2)), toInt_add_exact hw (by omega) (by omega)]
        omega
    · rw [if_neg (fun h => hneg h.1), toInt_add_exact hw (by omega) (by omega)]
      omega

/-- Signed saturating subtraction. -/
theorem satSubSigned_eq (hw : 0 < w) (a b : BitVec w) :
    satSubSigned a b = clampSigned w (a.toInt - b.toInt) := by
  have ha := BitVec.le_toInt a
  have ha' := BitVec.toInt_lt (x := a)
  have hb := BitVec.le_toInt b
  have hb' := BitVec.toInt_lt (x := b)
  have hmax := BitVec.toInt_intMax (w := w)
  have hmin := BitVec.toInt_intMin_of_pos hw
  apply eq_clampSigned
  unfold satSubSigned clamp
  simp only [BitVec.slt_iff_toInt_lt, BitVec.toInt_zero]
  -- The guard adds on the side where the sum cannot overflow.
  by_cases hpos : 0 < b.toInt
  · have hguard : (BitVec.intMin w + b).toInt = -2 ^ (w - 1) + b.toInt := by
      rw [toInt_add_exact hw (by omega) (by omega), hmin]
    by_cases hunder : a.toInt < -2 ^ (w - 1) + b.toInt
    · rw [if_pos ⟨hpos, hguard ▸ hunder⟩, hmin]
      omega
    · rw [if_neg (fun h => hunder (hguard ▸ h.2)), if_neg (by omega),
        toInt_sub_exact hw (by omega) (by omega)]
      omega
  · rw [if_neg (fun h => hpos h.1)]
    by_cases hneg : b.toInt < 0
    · have hguard : (BitVec.intMax w + b).toInt = 2 ^ (w - 1) - 1 + b.toInt := by
        rw [toInt_add_exact hw (by omega) (by omega), hmax]
      by_cases hover : 2 ^ (w - 1) - 1 + b.toInt < a.toInt
      · rw [if_pos ⟨hneg, hguard ▸ hover⟩, hmax]
        omega
      · rw [if_neg (fun h => hover (hguard ▸ h.2)), toInt_sub_exact hw (by omega) (by omega)]
        omega
    · rw [if_neg (fun h => hneg h.1), toInt_sub_exact hw (by omega) (by omega)]
      omega

/-- Unsigned saturating addition. -/
theorem satAddUnsigned_eq (a b : BitVec w) :
    satAddUnsigned a b = clampUnsigned w (a.toNat + b.toNat) := by
  have ha := a.isLt
  have hb := b.isLt
  have hcast : (2 : Int) ^ w = ((2 ^ w : Nat) : Int) := (Int.natCast_pow 2 w).symm
  have hguard : (BitVec.allOnes w - a).toNat = 2 ^ w - 1 - a.toNat := by
    have hle : a ≤ BitVec.allOnes w := by
      rw [BitVec.le_def, BitVec.toNat_allOnes]
      omega
    rw [BitVec.toNat_sub_of_le hle, BitVec.toNat_allOnes]
  apply eq_clampUnsigned
  unfold satAddUnsigned clamp
  simp only [BitVec.lt_def, hguard, hcast]
  split
  next hover =>
    rw [BitVec.toNat_allOnes]
    omega
  next hfits =>
    rw [BitVec.toNat_add_of_lt (by omega)]
    omega

/-- Unsigned saturating subtraction. -/
theorem satSubUnsigned_eq (a b : BitVec w) :
    satSubUnsigned a b = clampUnsigned w (a.toNat - b.toNat) := by
  have ha := a.isLt
  have hcast : (2 : Int) ^ w = ((2 ^ w : Nat) : Int) := (Int.natCast_pow 2 w).symm
  apply eq_clampUnsigned
  unfold satSubUnsigned clamp
  simp only [BitVec.lt_def, hcast]
  split
  next hunder =>
    rw [BitVec.toNat_ofNat, Nat.zero_mod]
    omega
  next hfits =>
    rw [BitVec.toNat_sub_of_le (BitVec.le_def.mpr (by omega))]
    omega

/-- The average is taken in 32 bits. -/
theorem avgUnsigned_eq (hw : w ≤ 16) (a b : BitVec w) :
    avgUnsigned a b = BitVec.ofNat w ((a.toNat + b.toNat + 1) / 2) := by
  have ha := a.isLt
  have hb := b.isLt
  have hpow : 2 ^ w ≤ 2 ^ 16 := Nat.pow_le_pow_right (by omega) hw
  apply BitVec.eq_of_toNat_eq
  unfold avgUnsigned
  rw [BitVec.toNat_setWidth, BitVec.toNat_ushiftRight, BitVec.toNat_add, BitVec.toNat_add,
    BitVec.toNat_setWidth, BitVec.toNat_setWidth, BitVec.toNat_ofNat, BitVec.toNat_ofNat,
    Nat.shiftRight_eq_div_pow]
  have hsum : ((a.toNat % 2 ^ 32 + b.toNat % 2 ^ 32) % 2 ^ 32 + 1 % 2 ^ 32) % 2 ^ 32 =
      a.toNat + b.toNat + 1 := by
    omega
  rw [hsum]

/-- Addition wraps. -/
theorem add_eq_ofNat (a b : BitVec w) : a + b = BitVec.ofNat w (a.toNat + b.toNat) := by
  apply BitVec.eq_of_toNat_eq
  rw [BitVec.toNat_add, BitVec.toNat_ofNat]

/-- Subtraction wraps. -/
theorem sub_eq_ofInt (a b : BitVec w) : a - b = BitVec.ofInt w (a.toNat - b.toNat) := by
  rw [Int.sub_eq_add_neg, BitVec.ofInt_add, BitVec.ofInt_neg, BitVec.ofInt_natCast,
    BitVec.ofInt_natCast, BitVec.ofNat_toNat, BitVec.ofNat_toNat, BitVec.setWidth_eq,
    BitVec.setWidth_eq, BitVec.sub_eq_add_neg]

/-- Multiplication wraps, signed or not. -/
theorem mul_eq_ofInt (a b : BitVec w) : a * b = BitVec.ofInt w (a.toInt * b.toInt) := by
  rw [BitVec.ofInt_mul, BitVec.ofInt_toInt, BitVec.ofInt_toInt]

/-- **The arithmetic on elements.** -/
theorem PackedOp.compute_eq (op : PackedOp) (a b : BitVec (8 * op.bytes)) :
    op.compute a b = op.scalar a b := by
  cases op with
  | paddb | paddw | paddd | paddq => exact add_eq_ofNat a b
  | psubb | psubw | psubd | psubq => exact sub_eq_ofInt a b
  | paddsb | paddsw => exact satAddSigned_eq (by decide) a b
  | psubsb | psubsw => exact satSubSigned_eq (by decide) a b
  | paddusb | paddusw => exact satAddUnsigned_eq a b
  | psubusb | psubusw => exact satSubUnsigned_eq a b
  | pavgb | pavgw => exact avgUnsigned_eq (by decide) a b
  | pmullw => exact mul_eq_ofInt a b

/-- A comparison, over the integers. -/
theorem CompareOp.compute_eq (op : CompareOp) (a b : BitVec w) :
    op.compute a b = op.scalar a b := by
  unfold CompareOp.compute CompareOp.scalar
  cases op <;> simp only [BitVec.toNat_inj, BitVec.slt_iff_toInt_lt]

/-! ## Shifts -/

/-- A left shift is a product. -/
theorem shiftLeftLane_eq (v : BitVec w) (count : U64) :
    shiftLeftLane v count = BitVec.ofNat w (v.toNat * 2 ^ count.toNat) := by
  apply BitVec.eq_of_toNat_eq
  unfold shiftLeftLane
  rw [BitVec.toNat_ofNat]
  split
  next hle =>
    obtain ⟨k, hk⟩ := Nat.exists_eq_add_of_le hle
    rw [hk, Nat.pow_add, Nat.mul_comm (2 ^ w), ← Nat.mul_assoc, Nat.mul_mod_left]
    exact Nat.zero_mod _
  next hlt => rw [BitVec.toNat_shiftLeft, Nat.shiftLeft_eq]

/-- A logical right shift is a quotient. -/
theorem shiftRightLogicalLane_eq (v : BitVec w) (count : U64) :
    shiftRightLogicalLane v count = BitVec.ofNat w (v.toNat / 2 ^ count.toNat) := by
  apply BitVec.eq_of_toNat_eq
  have hv := v.isLt
  unfold shiftRightLogicalLane
  rw [BitVec.toNat_ofNat, Nat.mod_eq_of_lt (Nat.lt_of_le_of_lt (Nat.div_le_self _ _) hv)]
  split
  next hle =>
    rw [Nat.div_eq_of_lt (Nat.lt_of_lt_of_le hv (Nat.pow_le_pow_right (by omega) hle))]
    exact Nat.zero_mod _
  next hlt => rw [BitVec.toNat_ushiftRight, Nat.shiftRight_eq_div_pow]

/-- A signed word divided by more than its range leaves its sign. -/
theorem toInt_div_large (hw : 0 < w) (v : BitVec w) {count : Nat} (hle : w ≤ count) :
    v.toInt / 2 ^ count = if v.toInt < 0 then -1 else 0 := by
  have hlow := BitVec.le_toInt v
  have hhigh := BitVec.toInt_lt (x := v)
  have hpow : (2 : Int) ^ (w - 1) < 2 ^ count := Int.pow_lt_pow_of_lt (by omega) (by omega)
  split
  next hneg =>
    apply Int.le_antisymm
    · have := Int.ediv_neg_of_neg_of_pos hneg (show (0 : Int) < 2 ^ count by omega)
      omega
    · exact (Int.le_ediv_iff_mul_le (by omega)).mpr (by omega)
  next hpos => exact Int.ediv_eq_zero_of_lt (by omega) (by omega)

/-- A sign fills the lane. -/
theorem ofInt_sign (v : Int) :
    BitVec.ofInt w (if v < 0 then -1 else 0) = if v < 0 then BitVec.allOnes w else 0#w := by
  split
  · rw [BitVec.ofInt_neg, ← BitVec.neg_one_eq_allOnes]
    rfl
  · rfl

/-- An arithmetic right shift is a floored quotient. -/
theorem shiftRightArithmeticLane_eq (hw : 0 < w) (v : BitVec w) (count : U64) :
    shiftRightArithmeticLane v count = BitVec.ofInt w (v.toInt / 2 ^ count.toNat) := by
  unfold shiftRightArithmeticLane
  simp only [BitVec.slt_iff_toInt_lt, BitVec.toInt_zero]
  split
  next hle => rw [toInt_div_large hw v hle, ofInt_sign]
  next hlt =>
    rw [← BitVec.ofInt_toInt (x := v.sshiftRight count.toNat), BitVec.toInt_sshiftRight,
      Int.shiftRight_eq_div_pow, Int.natCast_pow]
    rfl

/-- **The shifts of elements.** -/
theorem PackedShift.compute_eq (op : PackedShift) (hw : 0 < w) (v : BitVec w) (count : U64) :
    op.compute v count = op.scalar v count.toNat := by
  cases op with
  | psllw | pslld | psllq => exact shiftLeftLane_eq v count
  | psrlw | psrld | psrlq => exact shiftRightLogicalLane_eq v count
  | psraw | psrad => exact shiftRightArithmeticLane_eq hw v count

/-- A count past the width leaves the fill. -/
theorem PackedShift.scalar_fill (op : PackedShift) (hw : 0 < w) (v : BitVec w) {count : U64}
    (hle : w ≤ count.toNat) : op.scalar v count.toNat = op.fill v := by
  cases op with
  | psllw | pslld | psllq => exact (shiftLeftLane_eq v count).symm.trans (if_pos hle)
  | psrlw | psrld | psrlq => exact (shiftRightLogicalLane_eq v count).symm.trans (if_pos hle)
  | psraw | psrad =>
    exact (congrArg (BitVec.ofInt w) (toInt_div_large hw v hle)).trans (ofInt_sign _)

end

/-! ## Forms -/

/-- What a form does to an element. -/
inductive LaneOp where
  | packed (op : PackedOp)
  | compare (op : CompareOp)
  | shift (op : PackedShift)
deriving DecidableEq, Repr

namespace LaneOp

/-- The lane's bytes. -/
def bytes : LaneOp → Nat
  | .packed op => op.bytes
  | .compare op => op.bytes
  | .shift op => op.bytes

/-- The scalar operation, on the elements of the sources and the count. -/
def scalar {w : Nat} (op : LaneOp) (a b : BitVec w) (count : U64) : BitVec w :=
  match op with
  | .packed op => op.scalar a b
  | .compare op => op.scalar a b
  | .shift op => op.scalar a count.toNat

/-- A lane has bytes. -/
theorem bytes_pos (op : LaneOp) : 0 < op.bytes := by
  rcases op with op | op | op <;> cases op <;> decide

end LaneOp

/-- The values that a form works on. -/
structure LaneSources where
  lhs : BitVec 512
  rhs : BitVec 512
  count : U64

/-- The operation of the additions, subtractions, comparisons and shifts. -/
def IntCode.laneOp : IntCode → Option LaneOp
  | .packed op | .vexPacked op _ | .evexPacked op _ => some (.packed op)
  | .compare op | .vexCompare op _ => some (.compare op)
  | .shiftImm op | .shiftReg op | .vexShiftImm op _ | .vexShiftReg op | .evexShiftImm op _
  | .evexShiftReg op _ => some (.shift op)
  | _ => none

/-- What the operands give: a legacy form has its first source in operand 0, the others
in operand 1. A count is the immediate byte, or the low 64 bits of the last
operand. -/
def IntCode.Reads (H : X87Host) (x : EvexFields) (c : IntCode) (ctx : ExecutionContext)
    (sources : LaneSources) : Prop :=
  let width := c.length.bytes
  let gives (i width : Nat) (v : BitVec 512) : Prop :=
    H.readBroadcastOperand x i width ctx = .ok v ctx
  match c with
  | .packed _ | .compare _ => gives 0 width sources.lhs ∧ gives 1 width sources.rhs
  | .vexPacked _ _ | .evexPacked _ _ | .vexCompare _ _ =>
    gives 1 width sources.lhs ∧ gives 2 width sources.rhs
  | .shiftImm _ =>
    gives 0 width sources.lhs ∧ sources.count = ctx.instr.immediate8 &&& 0xFF#64
  | .vexShiftImm _ _ | .evexShiftImm _ _ =>
    gives 1 width sources.lhs ∧ sources.count = ctx.instr.immediate8 &&& 0xFF#64
  | .shiftReg _ =>
    gives 0 width sources.lhs ∧ ∃ v, gives 1 width v ∧ sources.count = lane 64 v 0
  | .vexShiftReg _ | .evexShiftReg _ _ =>
    H.IsVectorOperand ctx.instr 1 ∧ gives 1 width sources.lhs ∧
      ∃ v, gives 2 8 v ∧ sources.count = lane 64 v 0
  | _ => False

/-- An unmasked form of `op` whose operands can be read: the destination is a
vector register of the length that the form names. -/
structure IntCode.Given (H : X87Host) (x : EvexFields) (c : IntCode) (op : LaneOp)
    (ctx : ExecutionContext) (sources : LaneSources) : Prop where
  form : c.laneOp = some op
  unmasked : x.Unmasked
  destination : H.IsVectorOperand ctx.instr 0
  length : H.vectorWidth (ctx.instr.opRegister 0) = c.length.bytes
  reads : c.Reads H x ctx sources

/-- Element `i` of the destination. -/
def destinationLane (H : X87Host) (op : LaneOp) (instr : Instruction) (s : CpuState) (i : Nat) :
    BitVec (8 * op.bytes) :=
  lane (8 * op.bytes) (H.slotOf s instr 0) i

namespace X87Host

variable (H : X87Host)

/-- Element `i` of what a loop over the elements leaves. -/
theorem lane_zipLanes {size width i : Nat}
    (fn : BitVec (8 * size) → BitVec (8 * size) → BitVec (8 * size)) (lhs rhs out : BitVec 512)
    (hi : i < width / size) (hwidth : width ≤ 64) :
    lane (8 * size) (zipLanes size width fn lhs rhs out) i =
      fn (lane (8 * size) lhs i) (lane (8 * size) rhs i) := by
  have hend := element_end hi
  have hmul : 8 * size * (i + 1) = 8 * (size * (i + 1)) := Nat.mul_assoc _ _ _
  unfold zipLanes
  rw [lane_updateLanes _ _ (by omega), if_pos hi, Option.getD_some, loadLane_eq, loadLane_eq]

/-- A lane of the loop's result. -/
theorem lane_mapLanes {size width i : Nat} (fn : BitVec (8 * size) → BitVec (8 * size))
    (src : BitVec 512) (hi : i < width / size) (hwidth : width ≤ 64) :
    lane (8 * size) (mapLanes size width fn src) i = fn (lane (8 * size) src i) := by
  have hend := element_end hi
  have hmul : 8 * size * (i + 1) = 8 * (size * (i + 1)) := Nat.mul_assoc _ _ _
  unfold mapLanes
  rw [lane_updateLanes _ _ (by omega), if_pos hi, Option.getD_some, loadLane_eq]

/-- A handler that computes `out` leaves its elements. -/
theorem toVector_lanes {zeroUpper : Bool} {compute : Register → HandlerM (BitVec 512)}
    {ctx : ExecutionContext} (out : BitVec 512) (hdst : H.IsVectorOperand ctx.instr 0) {width : Nat}
    (hlength : H.vectorWidth (ctx.instr.opRegister 0) = width) (hwidth : width ≤ 64)
    (hout : compute (ctx.instr.opRegister 0) ctx = .ok out ctx) {size : Nat}
    {element : Nat → BitVec (8 * size)}
    (hlane : ∀ i < width / size, lane (8 * size) out i = element i) :
    ∃ after, H.toVector zeroUpper compute ctx = .ok () after ∧
      ∀ i < width / size, lane (8 * size) (H.slotOf after.state ctx.instr 0) i = element i := by
  have hget : (get : HandlerM ExecutionContext) ctx = .ok ctx ctx := rfl
  have hrun : H.toVector zeroUpper compute ctx =
      H.writeVec (ctx.instr.opRegister 0) out width zeroUpper ctx := by
    unfold toVector
    rw [bind_ok hget]
    dsimp only
    rw [if_pos hdst, bind_ok hout, hlength]
  refine ⟨_, hrun, fun i hi => ?_⟩
  have hslot : ∀ old : CpuState, ∀ value,
      H.slotOf (setVector old (H.vectorIndex (ctx.instr.opRegister 0)) value) ctx.instr 0 = value :=
    fun old value => setVector_self old _ value
  rw [hslot, ← hlane i hi]
  exact lane_mergeVec _ _ _ (element_end hi) hwidth

/-- Without a mask, what is computed is what is written. -/
theorem masked_unmasked {x : EvexFields} (hx : x.Unmasked) {size : Nat}
    {compute : Register → HandlerM (BitVec 512)} {dst : Register} {ctx : ExecutionContext}
    {out : BitVec 512} (hout : compute dst ctx = .ok out ctx) :
    H.masked x size compute dst ctx = .ok out ctx := by
  have hget : (get : HandlerM ExecutionContext) ctx = .ok ctx ctx := rfl
  unfold masked
  rw [bind_ok hget, bind_ok hout]
  exact congrArg (EStateM.Result.ok · _) (applyMaskedLanes_unmasked hx _ _ _ _ _)

/-- The elements of a register below the width are the ones that
`read_operand` gives. -/
theorem lane_registerOperand {x : EvexFields} {ctx : ExecutionContext} {operand width : Nat}
    {v : BitVec 512} (hop : H.IsVectorOperand ctx.instr operand)
    (hread : H.readBroadcastOperand x operand width ctx = .ok v ctx) {size i : Nat}
    (hi : i < width / size) (hwidth : width ≤ 64) :
    lane (8 * size) (H.readVec ctx.state (ctx.instr.opRegister operand)) i =
      lane (8 * size) v i := by
  have hget : (get : HandlerM ExecutionContext) ctx = .ok ctx ctx := rfl
  have hnot : ¬ (ctx.instr.opKind operand = .memory ∧ x.isBroadcast = true) := by
    rw [hop.1]
    rintro ⟨hkind, _⟩
    cases hkind
  have hregister : ¬ (!H.isVectorRegister (ctx.instr.opRegister operand)) = true := by
    rw [hop.2]
    exact Bool.false_ne_true
  unfold readBroadcastOperand at hread
  rw [bind_ok hget, if_neg hnot] at hread
  unfold readVectorOperand at hread
  rw [bind_ok hget, if_pos hop.1, if_neg hregister] at hread
  cases hread
  exact (lane_readVec _ (element_end hi) hwidth).symm

/-! ## What the forms compute -/

section

variable {x : EvexFields} {ctx : ExecutionContext} {width size : Nat} {lhs rhs last : BitVec 512}
  (hdst : H.IsVectorOperand ctx.instr 0)
  (hlength : H.vectorWidth (ctx.instr.opRegister 0) = width) (hwidth : width ≤ 64)

include hdst hlength hwidth

/-- The lanes of the legacy form. -/
theorem legacyCustomBinary_lanes
    (hlhs : H.readBroadcastOperand x 0 width ctx = .ok lhs ctx)
    (hrhs : H.readBroadcastOperand x 1 width ctx = .ok rhs ctx)
    (fn : BitVec (8 * size) → BitVec (8 * size) → BitVec (8 * size))
    (start : BitVec 512 → BitVec 512) :
    ∃ after, H.legacyCustomBinary x
        (fun lhs rhs width => zipLanes size width fn lhs rhs (start lhs)) ctx = .ok () after ∧
      ∀ i < width / size, lane (8 * size) (H.slotOf after.state ctx.instr 0) i =
        fn (lane (8 * size) lhs i) (lane (8 * size) rhs i) := by
  have hget : (get : HandlerM ExecutionContext) ctx = .ok ctx ctx := rfl
  let old := H.readVec ctx.state (ctx.instr.opRegister 0)
  refine H.toVector_lanes (zipLanes size width fn old rhs (start old)) hdst hlength hwidth ?_
    fun i hi => ?_
  · rw [bind_ok hget, hlength, bind_ok hrhs]
    rfl
  · rw [lane_zipLanes _ _ _ _ hi hwidth, H.lane_registerOperand hdst hlhs hi hwidth]

/-- The lanes of the VEX form. -/
theorem vexBinary_lanes (hx : x.Unmasked)
    (hlhs : H.readBroadcastOperand x 1 width ctx = .ok lhs ctx)
    (hrhs : H.readBroadcastOperand x 2 width ctx = .ok rhs ctx)
    (fn : BitVec (8 * size) → BitVec (8 * size) → BitVec (8 * size)) :
    ∃ after, H.vexBinary x size fn ctx = .ok () after ∧
      ∀ i < width / size, lane (8 * size) (H.slotOf after.state ctx.instr 0) i =
        fn (lane (8 * size) lhs i) (lane (8 * size) rhs i) := by
  refine H.toVector_lanes (zipLanes size width fn lhs rhs 0#512) hdst hlength hwidth
    (H.masked_unmasked hx ?_) fun i hi => lane_zipLanes _ _ _ _ hi hwidth
  unfold vexSources
  rw [hlength, bind_ok hlhs, bind_ok hrhs]
  rfl

/-- The lanes of the legacy shift by an immediate. -/
theorem legacyShiftImm_lanes
    (hlhs : H.readBroadcastOperand x 0 width ctx = .ok lhs ctx)
    (fn : BitVec (8 * size) → U64 → BitVec (8 * size)) :
    ∃ after, H.legacyShiftImm size fn ctx = .ok () after ∧
      ∀ i < width / size, lane (8 * size) (H.slotOf after.state ctx.instr 0) i =
        fn (lane (8 * size) lhs i) (ctx.instr.immediate8 &&& 0xFF#64) := by
  have hget : (get : HandlerM ExecutionContext) ctx = .ok ctx ctx := rfl
  let count := ctx.instr.immediate8 &&& 0xFF#64
  refine H.toVector_lanes (mapLanes size width (fun v => fn v count)
    (H.readVec ctx.state (ctx.instr.opRegister 0))) hdst hlength hwidth ?_ fun i hi => ?_
  · rw [bind_ok hget, hlength]
    rfl
  · rw [lane_mapLanes _ _ hi hwidth, H.lane_registerOperand hdst hlhs hi hwidth]

/-- The lanes of the legacy shift by a register. -/
theorem legacyShiftReg_lanes
    (hlhs : H.readBroadcastOperand x 0 width ctx = .ok lhs ctx)
    (hlast : H.readBroadcastOperand x 1 width ctx = .ok last ctx)
    (fn : BitVec (8 * size) → U64 → BitVec (8 * size)) :
    ∃ after, H.legacyShiftReg x size fn ctx = .ok () after ∧
      ∀ i < width / size, lane (8 * size) (H.slotOf after.state ctx.instr 0) i =
        fn (lane (8 * size) lhs i) (lane 64 last 0) := by
  have hget : (get : HandlerM ExecutionContext) ctx = .ok ctx ctx := rfl
  have hcount : loadLane 8 last 0 = lane 64 last 0 := loadLane_eq 8 last 0
  refine H.toVector_lanes (mapLanes size width (fun v => fn v (loadLane 8 last 0))
    (H.readVec ctx.state (ctx.instr.opRegister 0))) hdst hlength hwidth ?_ fun i hi => ?_
  · rw [hlength, bind_ok hlast, bind_ok hget]
    rfl
  · rw [lane_mapLanes _ _ hi hwidth, H.lane_registerOperand hdst hlhs hi hwidth, hcount]

/-- The lanes of the VEX shift by an immediate. -/
theorem vexShiftImm_lanes (hx : x.Unmasked)
    (hlhs : H.readBroadcastOperand x 1 width ctx = .ok lhs ctx)
    (fn : BitVec (8 * size) → U64 → BitVec (8 * size)) :
    ∃ after, H.vexShiftImm x size fn ctx = .ok () after ∧
      ∀ i < width / size, lane (8 * size) (H.slotOf after.state ctx.instr 0) i =
        fn (lane (8 * size) lhs i) (ctx.instr.immediate8 &&& 0xFF#64) := by
  have hget : (get : HandlerM ExecutionContext) ctx = .ok ctx ctx := rfl
  refine H.toVector_lanes (mapLanes size width
    (fun v => fn v (ctx.instr.immediate8 &&& 0xFF#64)) lhs) hdst hlength hwidth
    (H.masked_unmasked hx ?_) fun i hi => lane_mapLanes _ _ hi hwidth
  unfold shiftImmSource
  rw [hlength, bind_ok hlhs, bind_ok hget]
  rfl

/-- The lanes of the VEX shift by a register. -/
theorem vexShiftReg_lanes (hx : x.Unmasked)
    (hsrc : H.IsVectorOperand ctx.instr 1)
    (hlhs : H.readBroadcastOperand x 1 width ctx = .ok lhs ctx)
    (hlast : H.readBroadcastOperand x 2 8 ctx = .ok last ctx)
    (fn : BitVec (8 * size) → U64 → BitVec (8 * size)) :
    ∃ after, H.vexShiftReg x size fn ctx = .ok () after ∧
      ∀ i < width / size, lane (8 * size) (H.slotOf after.state ctx.instr 0) i =
        fn (lane (8 * size) lhs i) (lane 64 last 0) := by
  have hget : (get : HandlerM ExecutionContext) ctx = .ok ctx ctx := rfl
  have hcount : loadLane 8 last 0 = lane 64 last 0 := loadLane_eq 8 last 0
  refine H.toVector_lanes (mapLanes size width (fun v => fn v (loadLane 8 last 0))
    (H.readVec ctx.state (ctx.instr.opRegister 1))) hdst hlength hwidth
    (H.masked_unmasked hx ?_) fun i hi => ?_
  · unfold shiftRegSource
    rw [bind_ok hget, if_pos hsrc, hlength, bind_ok hlast]
    rfl
  · rw [lane_mapLanes _ _ hi hwidth, H.lane_registerOperand hsrc hlhs hi hwidth, hcount]

end

end X87Host

/-! ## The law -/

namespace IntCode

variable (H : X87Host) {x : EvexFields} {c : IntCode} {op : LaneOp} {ctx : ExecutionContext}
  {sources : LaneSources}

/-- **Every element is the scalar operation on the elements in its place.** -/
theorem lanes (hgiven : c.Given H x op ctx sources) :
    ∃ after, c.handler H x ctx = .ok () after ∧
      ∀ i < c.length.bytes / op.bytes, destinationLane H op ctx.instr after.state i =
        op.scalar (lane (8 * op.bytes) sources.lhs i) (lane (8 * op.bytes) sources.rhs i)
          sources.count := by
  obtain ⟨hform, hx, hdst, hlength, hreads⟩ := hgiven
  have hwidth := c.length.bytes_bounds.2
  have hpos := op.bytes_pos
  -- One case for each handler: its loop leaves the lane function at every lane.
  cases c with
  | packed op' =>
    cases hform
    obtain ⟨hlhs, hrhs⟩ := hreads
    obtain ⟨after, hrun, hlanes⟩ := H.legacyCustomBinary_lanes hdst hlength hwidth hlhs hrhs
      op'.compute id
    refine ⟨after, hrun, fun i hi => ?_⟩
    exact (hlanes i hi).trans (op'.compute_eq _ _)
  | compare op' =>
    cases hform
    obtain ⟨hlhs, hrhs⟩ := hreads
    obtain ⟨after, hrun, hlanes⟩ := H.legacyCustomBinary_lanes hdst hlength hwidth hlhs hrhs
      op'.compute fun _ => 0#512
    refine ⟨after, hrun, fun i hi => ?_⟩
    exact (hlanes i hi).trans (op'.compute_eq _ _)
  | vexPacked op' len | evexPacked op' len =>
    cases hform
    obtain ⟨hlhs, hrhs⟩ := hreads
    obtain ⟨after, hrun, hlanes⟩ := H.vexBinary_lanes hdst hlength hwidth hx hlhs hrhs op'.compute
    refine ⟨after, hrun, fun i hi => ?_⟩
    exact (hlanes i hi).trans (op'.compute_eq _ _)
  | vexCompare op' len =>
    cases hform
    obtain ⟨hlhs, hrhs⟩ := hreads
    obtain ⟨after, hrun, hlanes⟩ := H.vexBinary_lanes hdst hlength hwidth hx hlhs hrhs op'.compute
    refine ⟨after, hrun, fun i hi => ?_⟩
    exact (hlanes i hi).trans (op'.compute_eq _ _)
  | shiftImm op' =>
    cases hform
    obtain ⟨hlhs, hcount⟩ := hreads
    obtain ⟨after, hrun, hlanes⟩ := H.legacyShiftImm_lanes hdst hlength hwidth hlhs op'.compute
    refine ⟨after, hrun, fun i hi => ?_⟩
    rw [hcount]
    exact (hlanes i hi).trans (op'.compute_eq (Nat.mul_pos (by decide) hpos) _ _)
  | shiftReg op' =>
    cases hform
    obtain ⟨hlhs, last, hlast, hcount⟩ := hreads
    obtain ⟨after, hrun, hlanes⟩ :=
      H.legacyShiftReg_lanes hdst hlength hwidth hlhs hlast op'.compute
    refine ⟨after, hrun, fun i hi => ?_⟩
    rw [hcount]
    exact (hlanes i hi).trans (op'.compute_eq (Nat.mul_pos (by decide) hpos) _ _)
  | vexShiftImm op' len | evexShiftImm op' len =>
    cases hform
    obtain ⟨hlhs, hcount⟩ := hreads
    obtain ⟨after, hrun, hlanes⟩ := H.vexShiftImm_lanes hdst hlength hwidth hx hlhs op'.compute
    refine ⟨after, hrun, fun i hi => ?_⟩
    rw [hcount]
    exact (hlanes i hi).trans (op'.compute_eq (Nat.mul_pos (by decide) hpos) _ _)
  | vexShiftReg op' | evexShiftReg op' len =>
    cases hform
    obtain ⟨hsrc, hlhs, last, hlast, hcount⟩ := hreads
    obtain ⟨after, hrun, hlanes⟩ :=
      H.vexShiftReg_lanes hdst hlength hwidth hx hsrc hlhs hlast op'.compute
    refine ⟨after, hrun, fun i hi => ?_⟩
    rw [hcount]
    exact (hlanes i hi).trans (op'.compute_eq (Nat.mul_pos (by decide) hpos) _ _)
  | _ => cases hform

end IntCode

/-- **The lane law.** A form leaves in every element the scalar operation on the elements
in its place, a shift by the width or more the fill; and any other form that
is given the same elements and count leaves the same. -/
theorem packed_lane_law (H : X87Host) {op : LaneOp} {x : EvexFields} {c : IntCode}
    {ctx : ExecutionContext} {sources : LaneSources} (hgiven : c.Given H x op ctx sources) :
    ∃ after, c.handler H x ctx = .ok () after ∧
      (∀ i < c.length.bytes / op.bytes, destinationLane H op ctx.instr after.state i =
        op.scalar (lane (8 * op.bytes) sources.lhs i) (lane (8 * op.bytes) sources.rhs i)
          sources.count) ∧
      (∀ shift, op = .shift shift → 8 * op.bytes ≤ sources.count.toNat →
        ∀ i < c.length.bytes / op.bytes, destinationLane H op ctx.instr after.state i =
          shift.fill (lane (8 * op.bytes) sources.lhs i)) ∧
      ∀ (x' : EvexFields) (c' : IntCode) (ctx' : ExecutionContext) (sources' : LaneSources),
        c'.Given H x' op ctx' sources' → sources'.count = sources.count →
        ∃ after', c'.handler H x' ctx' = .ok () after' ∧
          ∀ i < c.length.bytes / op.bytes, i < c'.length.bytes / op.bytes →
            lane (8 * op.bytes) sources'.lhs i = lane (8 * op.bytes) sources.lhs i →
            lane (8 * op.bytes) sources'.rhs i = lane (8 * op.bytes) sources.rhs i →
            destinationLane H op ctx'.instr after'.state i =
              destinationLane H op ctx.instr after.state i := by
  obtain ⟨after, hrun, hlanes⟩ := c.lanes H hgiven
  refine ⟨after, hrun, hlanes, ?_, ?_⟩
  · intro shift hshift hlarge i hi
    rw [hlanes i hi]
    subst hshift
    exact shift.scalar_fill (Nat.mul_pos (by decide) (LaneOp.bytes_pos _)) _ hlarge
  · intro x' c' ctx' sources' hgiven' hcount
    obtain ⟨after', hrun', hlanes'⟩ := c'.lanes H hgiven'
    refine ⟨after', hrun', fun i hi hi' hlhs hrhs => ?_⟩
    rw [hlanes i hi, hlanes' i hi', hlhs, hrhs, hcount]

/-- `VPADDSB XMM0, XMM1, XMM1` and, with all registers full, `PADDSB XMM0, XMM1`. -/
theorem packed_lane_law_vpaddsb : ∃ after after',
    IntCode.handler vectorHost.toX87Host {} (.vexPacked .paddsb .xmm) (fullVectors (.other 78)) =
      .ok () after ∧
    IntCode.handler vectorHost.toX87Host {} (.packed .paddsb) (fullVectors (.other 78)) =
      .ok () after' ∧
    ∀ i < 16, destinationLane vectorHost.toX87Host (.packed .paddsb) (fullVectors (.other 78)).instr
        after'.state i =
      destinationLane vectorHost.toX87Host (.packed .paddsb) (fullVectors (.other 78)).instr
        after.state i := by
  let full := BitVec.allOnes 512 &&& X87Host.vectorMask 16 &&& X87Host.vectorMask 16
  have hdst : vectorHost.toX87Host.IsVectorOperand (fullVectors (.other 78)).instr 0 :=
    ⟨rfl, by decide⟩
  obtain ⟨after, hrun, _, _, hsame⟩ := @packed_lane_law vectorHost.toX87Host (.packed .paddsb) {}
    (.vexPacked .paddsb .xmm) (fullVectors (.other 78)) ⟨full, full, 0#64⟩
    ⟨rfl, Or.inl rfl, hdst, by decide, rfl, rfl⟩
  obtain ⟨after', hrun', hequal⟩ := hsame {} (.packed .paddsb) (fullVectors (.other 78))
    ⟨full, full, 0#64⟩ ⟨rfl, Or.inl rfl, hdst, by decide, rfl, rfl⟩ rfl
  exact ⟨after, after', hrun, hrun', fun i hi => hequal i hi hi rfl rfl⟩

end Seven
