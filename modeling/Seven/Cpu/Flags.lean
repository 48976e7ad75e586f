import Seven.Cpu.Context

/-!
# What the flag updates mean

`setAddFlags` and `setSubFlags` compute the carry, the half carry and the
overflow with masks and exclusive ors on 64-bit containers. Here each flag
is given its meaning as a fact about the *numbers* `lhs` and `rhs` hold at
the operand width:

> CF of an addition: the exact sum, carry included, does not fit the width.
> CF of a subtraction: the subtrahend, borrow included, exceeds `lhs`.
> AF: the same of the low digits.
> SF ≠ OF after a comparison: `lhs` is smaller as a signed number.

Everything later (conditions, multi-precision and decimal chains) uses these
and never the formulas.
-/

namespace Seven

/-! ## Flag bits -/

/-- A flag reads back what was put there. -/
theorem flagSet_setFlag_self {bit : U64} (hbit : bit ≠ 0#64) (rflags : U64) (value : Bool) :
    flagSet (setFlag rflags bit value) bit = value := by
  unfold flagSet setFlag
  cases value with
  | true =>
    have h : (rflags ||| bit) &&& bit = bit := by
      apply BitVec.eq_of_getElem_eq
      intro i hi
      rw [BitVec.getElem_and, BitVec.getElem_or]
      cases rflags[i] <;> cases bit[i] <;> rfl
    simp only [if_true, h]
    exact bne_iff_ne.mpr hbit
  | false =>
    have h : rflags &&& ~~~bit &&& bit = 0#64 := by
      rw [BitVec.and_assoc, BitVec.and_comm (~~~bit), BitVec.and_not_self]
      exact BitVec.and_zero
    simp [h]

/-- A flag with no bit in common is left. -/
theorem flagSet_setFlag_of_disjoint {bit other : U64} (h : bit &&& other = 0#64) (rflags : U64)
    (value : Bool) : flagSet (setFlag rflags bit value) other = flagSet rflags other := by
  have key : setFlag rflags bit value &&& other = rflags &&& other := by
    apply BitVec.eq_of_getElem_eq
    intro i hi
    have hbit : (bit &&& other)[i] = false := by rw [h]; exact BitVec.getElem_zero hi
    rw [BitVec.getElem_and] at hbit
    unfold setFlag
    cases value with
    | true =>
      rw [if_pos rfl, BitVec.getElem_and, BitVec.getElem_or, BitVec.getElem_and]
      revert hbit
      cases rflags[i] <;> cases bit[i] <;> cases other[i] <;> decide
    | false =>
      rw [if_neg Bool.false_ne_true, BitVec.getElem_and, BitVec.getElem_and, BitVec.getElem_not,
        BitVec.getElem_and]
      revert hbit
      cases rflags[i] <;> cases bit[i] <;> cases other[i] <;> decide
  unfold flagSet
  rw [key]

/-! ## Masks as remainders -/

/-- The mask of a width as a number. -/
theorem maskForWidth_toNat {w : Nat} (hw : w ≤ 8) : (maskForWidth w).toNat = 2 ^ (8 * w) - 1 := by
  unfold maskForWidth
  by_cases h8 : w ≥ 8
  · rw [if_pos h8, show w = 8 by omega]
    rfl
  · rw [if_neg h8]
    have hlt : 2 ^ (8 * w) < 2 ^ 64 := Nat.pow_lt_pow_right (by decide) (by omega)
    have hpos : 0 < 2 ^ (8 * w) := Nat.two_pow_pos _
    have hshift : (1#64 <<< (w * 8)).toNat = 2 ^ (8 * w) := by
      rw [BitVec.toNat_shiftLeft, Nat.shiftLeft_eq, Nat.mul_comm w 8]
      show 1 * 2 ^ (8 * w) % 2 ^ 64 = _
      rw [Nat.one_mul, Nat.mod_eq_of_lt hlt]
    rw [BitVec.toNat_sub, hshift]
    show (2 ^ 64 - 1 + 2 ^ (8 * w)) % 2 ^ 64 = _
    omega

/-- Masking is a remainder. -/
theorem and_maskForWidth_toNat (v : U64) {w : Nat} (hw : w ≤ 8) :
    (v &&& maskForWidth w).toNat = v.toNat % 2 ^ (8 * w) := by
  rw [BitVec.toNat_and, maskForWidth_toNat hw, Nat.and_two_pow_sub_one_eq_mod]

/-- Truncation is a remainder. -/
theorem truncate_toNat (v : U64) {w : Nat} (hw : w ≤ 8) :
    (truncate v w).toNat = v.toNat % 2 ^ (8 * w) := and_maskForWidth_toNat v hw

/-- Truncating twice is truncating once. -/
theorem truncate_truncate (v : U64) (w : Nat) : truncate (truncate v w) w = truncate v w := by
  unfold truncate
  rw [BitVec.and_assoc, BitVec.and_self]

/-- The bits above the width are zero exactly when the value fits. -/
theorem and_not_maskForWidth (v : U64) {w : Nat} (hw : w ≤ 8) :
    (v &&& ~~~maskForWidth w != 0#64) = decide (2 ^ (8 * w) ≤ v.toNat) := by
  -- No bit lies above the width exactly where masking changes nothing.
  have hsplit : v &&& ~~~maskForWidth w = 0#64 ↔ v &&& maskForWidth w = v := by
    constructor
    · intro h
      apply BitVec.eq_of_getElem_eq
      intro i hi
      have hbit : (v &&& ~~~maskForWidth w)[i] = false := by rw [h]; exact BitVec.getElem_zero hi
      rw [BitVec.getElem_and, BitVec.getElem_not] at hbit
      rw [BitVec.getElem_and]
      revert hbit
      cases v[i] <;> cases (maskForWidth w)[i] <;> decide
    · intro h
      rw [← h, BitVec.and_assoc, BitVec.and_not_self]
      exact BitVec.and_zero
  have hfits : v &&& maskForWidth w = v ↔ v.toNat < 2 ^ (8 * w) := by
    rw [← BitVec.toNat_inj, and_maskForWidth_toNat v hw]
    constructor
    · intro h
      rw [← h]
      exact Nat.mod_lt _ (Nat.two_pow_pos _)
    · exact Nat.mod_eq_of_lt
  by_cases h : 2 ^ (8 * w) ≤ v.toNat
  · rw [decide_eq_true h, bne_iff_ne]
    intro h0
    have := hfits.mp (hsplit.mp h0)
    omega
  · rw [decide_eq_false h]
    have h0 := hsplit.mpr (hfits.mpr (by omega))
    rw [h0]
    rfl

/-- A one-bit test reads the bit of the number. -/
theorem flagSet_shift (v : U64) {k : Nat} (hk : k < 64) :
    flagSet v (1#64 <<< k) = v.toNat.testBit k := by
  have htwo : (1#64 <<< k) = BitVec.twoPow 64 k := by
    rw [BitVec.twoPow]
  unfold flagSet
  rw [htwo, BitVec.and_twoPow, BitVec.testBit_toNat]
  cases hbit : v.getLsbD k with
  | true =>
    rw [if_pos rfl, bne_iff_ne]
    intro h0
    have := congrArg BitVec.toNat h0
    rw [BitVec.toNat_twoPow, Nat.mod_eq_of_lt (Nat.pow_lt_pow_right (by decide) hk)] at this
    exact absurd this (Nat.two_pow_pos k).ne'
  | false =>
    rw [if_neg Bool.false_ne_true]
    rfl

/-- The sign of a value that fits the width. -/
theorem flagSet_signBit {v : U64} {w : Nat} (h0 : 0 < w) (hw : w ≤ 8)
    (hv : v.toNat < 2 ^ (8 * w)) :
    flagSet v (signBitForWidth w) = decide (2 ^ (8 * w - 1) ≤ v.toNat) := by
  unfold signBitForWidth
  rw [Nat.mul_comm w 8, flagSet_shift v (by omega), Nat.testBit_eq_decide_div_mod_eq]
  have htwice : 2 ^ (8 * w) = 2 ^ (8 * w - 1) * 2 := by rw [← Nat.pow_succ]; congr 1; omega
  have hpos := Nat.two_pow_pos (8 * w - 1)
  rw [htwice] at hv
  have hdiv : v.toNat / 2 ^ (8 * w - 1) < 2 := Nat.div_lt_of_lt_mul hv
  rw [Nat.mod_eq_of_lt hdiv, decide_eq_decide]
  have hle : 1 ≤ v.toNat / 2 ^ (8 * w - 1) ↔ 2 ^ (8 * w - 1) ≤ v.toNat := by
    rw [Nat.le_div_iff_mul_le hpos, Nat.one_mul]
  omega

/-! ## The value an operand holds at a width -/

/-- The unsigned number in the low `w` bytes. -/
def unsignedAt (w : Nat) (v : U64) : Nat := v.toNat % 2 ^ (8 * w)

/-- The two's-complement number in the low `w` bytes. -/
def signedAt (w : Nat) (v : U64) : Int :=
  if unsignedAt w v < 2 ^ (8 * w - 1) then unsignedAt w v else unsignedAt w v - 2 ^ (8 * w)

/-- A value of a width is below its bound. -/
theorem unsignedAt_lt (w : Nat) (v : U64) : unsignedAt w v < 2 ^ (8 * w) :=
  Nat.mod_lt _ (Nat.two_pow_pos _)

/-- Masking gives the value at the width. -/
theorem mask_toNat_eq_unsignedAt (v : U64) {w : Nat} (hw : w ≤ 8) :
    (v &&& maskForWidth w).toNat = unsignedAt w v := and_maskForWidth_toNat v hw

/-- Every width divides the register. -/
theorem width_pow_dvd {w : Nat} (hw : w ≤ 8) : 2 ^ (8 * w) ∣ 2 ^ 64 :=
  Nat.pow_dvd_pow 2 (by omega)

/-- Addition at a width. -/
theorem unsignedAt_add (v v' : U64) {w : Nat} (hw : w ≤ 8) :
    unsignedAt w (v + v') = (unsignedAt w v + unsignedAt w v') % 2 ^ (8 * w) := by
  unfold unsignedAt
  rw [BitVec.toNat_add, Nat.mod_mod_of_dvd _ (width_pow_dvd hw), Nat.add_mod]

/-- Subtraction at the width, said without the modular inverse. -/
theorem unsignedAt_sub (v v' : U64) {w : Nat} (hw : w ≤ 8) :
    unsignedAt w (v - v') =
      (unsignedAt w v + (2 ^ (8 * w) - unsignedAt w v')) % 2 ^ (8 * w) := by
  have hback : unsignedAt w (v - v' + v') = unsignedAt w v := by rw [BitVec.sub_add_cancel]
  rw [unsignedAt_add _ _ hw] at hback
  have h₁ := unsignedAt_lt w (v - v')
  have h₂ := unsignedAt_lt w v'
  have h₃ := unsignedAt_lt w v
  generalize 2 ^ (8 * w) = m at *
  by_cases hlt : unsignedAt w (v - v') + unsignedAt w v' < m
  · rw [Nat.mod_eq_of_lt hlt] at hback
    rw [show unsignedAt w v + (m - unsignedAt w v') = unsignedAt w (v - v') + m by omega,
      Nat.add_mod_right, Nat.mod_eq_of_lt h₁]
  · rw [Nat.mod_eq_sub_mod (by omega), Nat.mod_eq_of_lt (by omega)] at hback
    rw [show unsignedAt w v + (m - unsignedAt w v') = unsignedAt w (v - v') by omega,
      Nat.mod_eq_of_lt h₁]

/-- A truth value as a digit. -/
theorem toNat_decide (p : Prop) [Decidable p] : (decide p).toNat = if p then 1 else 0 := by
  by_cases h : p
  · rw [if_pos h, decide_eq_true h]
    rfl
  · rw [if_neg h, decide_eq_false h]
    rfl

/-- The carry at a width. -/
theorem unsignedAt_carry (carry : Bool) {w : Nat} (h0 : 0 < w) :
    unsignedAt w (if carry then 1#64 else 0#64) = carry.toNat := by
  have hpow : 1 < 2 ^ (8 * w) := Nat.one_lt_two_pow (by omega)
  unfold unsignedAt
  cases carry with
  | true => exact Nat.mod_eq_of_lt hpow
  | false => exact Nat.zero_mod _

/-! ## Reading the flags back -/

/-- `setResultFlags` leaves the carry, the half carry and the overflow. -/
theorem flagSet_setResultFlags {other : U64} (hz : kFlagZF &&& other = 0#64)
    (hs : kFlagSF &&& other = 0#64) (hp : kFlagPF &&& other = 0#64) (rflags result : U64)
    (w : Nat) : flagSet (setResultFlags rflags result w) other = flagSet rflags other := by
  unfold setResultFlags
  rw [flagSet_setFlag_of_disjoint hp, flagSet_setFlag_of_disjoint hs,
    flagSet_setFlag_of_disjoint hz]

/-- ZF of the common flags. -/
theorem setResultFlags_zero (rflags result : U64) (w : Nat) :
    flagSet (setResultFlags rflags result w) kFlagZF = (result == 0#64) := by
  unfold setResultFlags
  rw [flagSet_setFlag_of_disjoint rfl, flagSet_setFlag_of_disjoint rfl,
    flagSet_setFlag_self (by decide)]

/-- SF of the common flags. -/
theorem setResultFlags_sign (rflags result : U64) (w : Nat) :
    flagSet (setResultFlags rflags result w) kFlagSF = flagSet result (signBitForWidth w) := by
  unfold setResultFlags
  rw [flagSet_setFlag_of_disjoint rfl, flagSet_setFlag_self (by decide)]

/-- Bit 4 of an exclusive or is the parity of the three fourth bits. -/
theorem flagSet_half (x y z : U64) :
    flagSet (x ^^^ y ^^^ z) 0x10#64 =
      decide ((x.toNat / 16 + y.toNat / 16 + z.toNat / 16) % 2 = 1) := by
  show flagSet (x ^^^ y ^^^ z) (1#64 <<< 4) = _
  rw [flagSet_shift _ (by decide), BitVec.toNat_xor, BitVec.toNat_xor, Nat.testBit_xor,
    Nat.testBit_xor]
  simp only [Nat.testBit_eq_decide_div_mod_eq, show 2 ^ 4 = 16 from rfl]
  rcases Nat.mod_two_eq_zero_or_one (x.toNat / 16) with hx | hx <;>
    rcases Nat.mod_two_eq_zero_or_one (y.toNat / 16) with hy | hy <;>
      rcases Nat.mod_two_eq_zero_or_one (z.toNat / 16) with hz | hz <;>
        rw [hx, hy, hz, eq_comm] <;> simp only [Bool.xor] <;>
          first
            | exact decide_eq_true (by omega)
            | exact decide_eq_false (by omega)

/-- Bit 4 sees numbers only up to 32, and every operand width keeps that much. -/
theorem mod_width_mod_32 (n : Nat) {w : Nat} (h0 : 0 < w) : n % 2 ^ (8 * w) % 32 = n % 32 := by
  have hdvd : 2 ^ 5 ∣ 2 ^ (8 * w) := Nat.pow_dvd_pow 2 (by omega)
  exact Nat.mod_mod_of_dvd n hdvd

/-! ## Additions -/

section Add

variable {w : Nat} (h0 : 0 < w) (hw : w ≤ 8) (rflags lhs rhs result : U64) (carryIn : Bool)

include h0 hw

/-- CF: the exact sum does not fit. -/
theorem setAddFlags_carry :
    flagSet (setAddFlags rflags lhs rhs result w carryIn) kFlagCF =
      decide (2 ^ (8 * w) ≤ unsignedAt w lhs + unsignedAt w rhs + carryIn.toNat) := by
  unfold setAddFlags
  rw [flagSet_setFlag_of_disjoint rfl,
    flagSet_setResultFlags rfl rfl rfl,
    flagSet_setFlag_of_disjoint rfl, flagSet_setFlag_self (by decide)]
  have hl := mask_toNat_eq_unsignedAt lhs hw
  have hr := mask_toNat_eq_unsignedAt rhs hw
  have ha := unsignedAt_lt w lhs
  have hb := unsignedAt_lt w rhs
  have hc := Bool.toNat_le carryIn
  generalize lhs &&& maskForWidth w = l at *
  generalize rhs &&& maskForWidth w = r at *
  generalize unsignedAt w lhs = a at *
  generalize unsignedAt w rhs = b at *
  have hsum : (l + r).toNat = (a + b) % 2 ^ 64 := by rw [BitVec.toNat_add, hl, hr]
  have hfinal : (l + r + if carryIn then 1#64 else 0#64).toNat =
      (a + b + carryIn.toNat) % 2 ^ 64 := by
    rw [BitVec.toNat_add, hsum, Nat.mod_add_mod]
    cases carryIn <;> rfl
  have hwrap : (l + r < l) ↔ (a + b) % 2 ^ 64 < a := by rw [BitVec.lt_def, hsum, hl]
  have hzero : (l + r + (if carryIn then 1#64 else 0#64) == 0#64) =
      decide ((a + b + carryIn.toNat) % 2 ^ 64 = 0) := by
    rw [← hfinal, Bool.eq_iff_iff, beq_iff_eq, decide_eq_true_iff, ← BitVec.toNat_inj]
    rfl
  rw [and_not_maskForWidth _ hw, hfinal, hzero, Bool.eq_iff_iff]
  simp only [Bool.or_eq_true, Bool.and_eq_true, decide_eq_true_iff, hwrap]
  by_cases h8 : w = 8
  · -- the container is full: the carry is seen by the wrap of the sum alone
    subst h8
    cases carryIn with
    | true => simp only [Bool.toNat_true, true_and] at *; omega
    | false => simp only [Bool.toNat_false, Bool.false_eq_true, false_and, or_false] at *; omega
  · -- the container has room: only the bits above the width tell
    have hm : 2 ^ (8 * w) ≤ 2 ^ 56 := Nat.pow_le_pow_right (by decide) (by omega)
    rw [Nat.mod_eq_of_lt (show a + b + carryIn.toNat < 2 ^ 64 by omega),
      Nat.mod_eq_of_lt (show a + b < 2 ^ 64 by omega)]
    have hlow : ¬ (carryIn = true ∧ a + b + carryIn.toNat = 0) := by
      rintro ⟨rfl, h⟩
      simp only [Bool.toNat_true] at h
      omega
    simp only [hlow, show ¬ a + b < a by omega, show w < 8 by omega, or_false, false_or, true_and]

/-- AF: the exact sum of the low digits does not fit a digit. -/
theorem setAddFlags_half
    (hres : unsignedAt w result =
      (unsignedAt w lhs + unsignedAt w rhs + carryIn.toNat) % 2 ^ (8 * w)) :
    flagSet (setAddFlags rflags lhs rhs result w carryIn) kFlagAF =
      decide (16 ≤ unsignedAt w lhs % 16 + unsignedAt w rhs % 16 + carryIn.toNat) := by
  unfold setAddFlags
  rw [flagSet_setFlag_of_disjoint rfl,
    flagSet_setResultFlags rfl rfl rfl, flagSet_setFlag_self (by decide),
    flagSet_half, mask_toNat_eq_unsignedAt _ hw, mask_toNat_eq_unsignedAt _ hw,
    mask_toNat_eq_unsignedAt _ hw, decide_eq_decide]
  have hlow := congrArg (· % 32) hres
  simp only [mod_width_mod_32 _ h0] at hlow
  have hc := Bool.toNat_le carryIn
  omega

end Add

/-- Sign against overflow of a difference modulo `2 * h`, where `h` is the
weight of the sign bit: they disagree exactly when the signed comparison holds. -/
theorem signBit_ne_overflow {h a b : Nat} (ha : a < 2 * h) (hb : b < 2 * h) :
    (decide (h ≤ (a + (2 * h - b)) % (2 * h)) !=
        ((decide (h ≤ a) ^^ decide (h ≤ b)) &&
          (decide (h ≤ a) ^^ decide (h ≤ (a + (2 * h - b)) % (2 * h))))) =
      decide ((if a < h then (a : Int) else a - (2 * h : Nat)) <
        if b < h then (b : Int) else b - (2 * h : Nat)) := by
  -- the difference wraps exactly when the unsigned comparison borrows
  have hwrap : (a + (2 * h - b)) % (2 * h) = if a < b then a + 2 * h - b else a - b := by
    by_cases hlt : a < b
    · rw [if_pos hlt, Nat.mod_eq_of_lt (by omega)]
      omega
    · rw [if_neg hlt, show a + (2 * h - b) = a - b + 2 * h by omega, Nat.add_mod_right,
        Nat.mod_eq_of_lt (by omega)]
  rw [hwrap]
  generalize hr : (if a < b then a + 2 * h - b else a - b) = r
  rcases Nat.lt_or_ge a h with hsa | hsa <;> rcases Nat.lt_or_ge b h with hsb | hsb
  · rw [if_pos hsa, if_pos hsb, decide_eq_false (Nat.not_le.mpr hsa),
      decide_eq_false (Nat.not_le.mpr hsb), Bool.xor_self, Bool.false_and, Bool.bne_false,
      decide_eq_decide]
    split at hr <;> omega
  · rw [if_pos hsa, if_neg (Nat.not_lt.mpr hsb), decide_eq_false (Nat.not_le.mpr hsa),
      decide_eq_true hsb, Bool.false_xor, Bool.false_xor, Bool.true_and, bne_self_eq_false]
    exact (decide_eq_false (by omega)).symm
  · rw [if_neg (Nat.not_lt.mpr hsa), if_pos hsb, decide_eq_true hsa,
      decide_eq_false (Nat.not_le.mpr hsb), Bool.true_xor, Bool.true_xor]
    have hall : ∀ d : Bool, (d != (!false && !d)) = true := by decide
    rw [hall]
    exact (decide_eq_true (by omega)).symm
  · rw [if_neg (Nat.not_lt.mpr hsa), if_neg (Nat.not_lt.mpr hsb), decide_eq_true hsa,
      decide_eq_true hsb, Bool.xor_self, Bool.false_and, Bool.bne_false, decide_eq_decide]
    split at hr <;> omega

/-! ## Subtractions -/

section Sub

variable {w : Nat} (h0 : 0 < w) (hw : w ≤ 8) (rflags lhs rhs result : U64) (borrowIn : Bool)

include h0 hw

/-- CF: the subtrahend, borrow included, exceeds `lhs`. -/
theorem setSubFlags_carry :
    flagSet (setSubFlags rflags lhs rhs result w borrowIn) kFlagCF =
      decide (unsignedAt w lhs < unsignedAt w rhs + borrowIn.toNat) := by
  unfold setSubFlags
  rw [flagSet_setFlag_of_disjoint rfl,
    flagSet_setResultFlags rfl rfl rfl,
    flagSet_setFlag_of_disjoint rfl, flagSet_setFlag_self (by decide)]
  have hl := mask_toNat_eq_unsignedAt lhs hw
  have hr := mask_toNat_eq_unsignedAt rhs hw
  have ha := unsignedAt_lt w lhs
  have hb := unsignedAt_lt w rhs
  have hc := Bool.toNat_le borrowIn
  have hmask := maskForWidth_toNat hw
  generalize lhs &&& maskForWidth w = l at *
  generalize rhs &&& maskForWidth w = r at *
  generalize unsignedAt w lhs = a at *
  generalize unsignedAt w rhs = b at *
  have hlt : l < (r + if borrowIn then 1#64 else 0#64) ↔
      a < (b + borrowIn.toNat) % 2 ^ 64 := by
    rw [BitVec.lt_def, BitVec.toNat_add, hl, hr]
    cases borrowIn <;> rfl
  have hfull : (r == maskForWidth w) = decide (b = 2 ^ (8 * w) - 1) := by
    rw [Bool.eq_iff_iff, beq_iff_eq, decide_eq_true_iff, ← BitVec.toNat_inj, hr, hmask]
  rw [hfull, Bool.eq_iff_iff]
  simp only [Bool.or_eq_true, Bool.and_eq_true, decide_eq_true_iff, beq_iff_eq, hlt]
  by_cases h8 : w = 8
  · -- the container is full: the only wrap is the one the code tests for
    subst h8
    cases borrowIn with
    | true => simp only [Bool.toNat_true, true_and, and_true] at *; omega
    | false =>
      simp only [Bool.toNat_false, Bool.false_eq_true, false_and, and_false, false_or] at *
      omega
  · have hm : 2 ^ (8 * w) ≤ 2 ^ 56 := Nat.pow_le_pow_right (by decide) (by omega)
    rw [Nat.mod_eq_of_lt (show b + borrowIn.toNat < 2 ^ 64 by omega)]
    simp only [h8, false_and, false_or]

/-- AF: the low digit of the subtrahend, borrow included, exceeds that of `lhs`. -/
theorem setSubFlags_half
    (hres : unsignedAt w lhs =
      (unsignedAt w result + unsignedAt w rhs + borrowIn.toNat) % 2 ^ (8 * w)) :
    flagSet (setSubFlags rflags lhs rhs result w borrowIn) kFlagAF =
      decide (unsignedAt w lhs % 16 < unsignedAt w rhs % 16 + borrowIn.toNat) := by
  unfold setSubFlags
  rw [flagSet_setFlag_of_disjoint rfl,
    flagSet_setResultFlags rfl rfl rfl, flagSet_setFlag_self (by decide),
    flagSet_half, mask_toNat_eq_unsignedAt _ hw, mask_toNat_eq_unsignedAt _ hw,
    mask_toNat_eq_unsignedAt _ hw, decide_eq_decide]
  have hlow := congrArg (· % 32) hres
  simp only [mod_width_mod_32 _ h0] at hlow
  have hc := Bool.toNat_le borrowIn
  omega

omit h0 in
/-- ZF after a subtraction. -/
theorem setSubFlags_zero :
    flagSet (setSubFlags rflags lhs rhs result w borrowIn) kFlagZF =
      decide (unsignedAt w result = 0) := by
  unfold setSubFlags
  rw [flagSet_setFlag_of_disjoint rfl, setResultFlags_zero, Bool.eq_iff_iff, beq_iff_eq,
    decide_eq_true_iff, ← BitVec.toNat_inj, mask_toNat_eq_unsignedAt _ hw]
  rfl

omit h0 in
/-- ZF after a comparison: the operands are equal at the width. -/
theorem setSubFlags_equal :
    flagSet (setSubFlags rflags lhs rhs (lhs - rhs) w borrowIn) kFlagZF =
      decide (unsignedAt w lhs = unsignedAt w rhs) := by
  rw [setSubFlags_zero hw, decide_eq_decide, unsignedAt_sub _ _ hw]
  have ha := unsignedAt_lt w lhs
  have hb := unsignedAt_lt w rhs
  generalize 2 ^ (8 * w) = m at *
  by_cases hlt : unsignedAt w lhs < unsignedAt w rhs
  · rw [Nat.mod_eq_of_lt (by omega)]
    omega
  · rw [show unsignedAt w lhs + (m - unsignedAt w rhs) =
      unsignedAt w lhs - unsignedAt w rhs + m by omega, Nat.add_mod_right,
      Nat.mod_eq_of_lt (by omega)]
    omega

/-- SF after a subtraction. -/
theorem setSubFlags_sign :
    flagSet (setSubFlags rflags lhs rhs result w borrowIn) kFlagSF =
      decide (2 ^ (8 * w - 1) ≤ unsignedAt w result) := by
  unfold setSubFlags
  rw [flagSet_setFlag_of_disjoint rfl, setResultFlags_sign,
    flagSet_signBit h0 hw (by rw [mask_toNat_eq_unsignedAt _ hw]; exact unsignedAt_lt w result),
    mask_toNat_eq_unsignedAt _ hw]

/-- OF: the operands' signs differ and the result has not `lhs`'s. -/
theorem setSubFlags_overflow :
    flagSet (setSubFlags rflags lhs rhs result w borrowIn) kFlagOF =
      ((decide (2 ^ (8 * w - 1) ≤ unsignedAt w lhs) ^^
          decide (2 ^ (8 * w - 1) ≤ unsignedAt w rhs)) &&
        (decide (2 ^ (8 * w - 1) ≤ unsignedAt w lhs) ^^
          decide (2 ^ (8 * w - 1) ≤ unsignedAt w result))) := by
  have hbit : ∀ v : U64, (v &&& maskForWidth w).toNat.testBit (8 * w - 1) =
      decide (2 ^ (8 * w - 1) ≤ unsignedAt w v) := by
    intro v
    have hlt := unsignedAt_lt w v
    rw [← mask_toNat_eq_unsignedAt v hw] at hlt ⊢
    rw [← flagSet_signBit h0 hw hlt]
    unfold signBitForWidth
    rw [Nat.mul_comm w 8, flagSet_shift _ (by omega)]
  unfold setSubFlags
  rw [flagSet_setFlag_self (by unfold kFlagOF; decide)]
  show flagSet _ (1#64 <<< (w * 8 - 1)) = _
  rw [Nat.mul_comm w 8, flagSet_shift _ (by omega), BitVec.toNat_and, Nat.testBit_and,
    BitVec.toNat_xor, BitVec.toNat_xor, Nat.testBit_xor, Nat.testBit_xor, hbit, hbit, hbit]

/-- SF ≠ OF after a comparison: smaller as signed numbers. -/
theorem setSubFlags_less :
    (flagSet (setSubFlags rflags lhs rhs (lhs - rhs) w borrowIn) kFlagSF !=
        flagSet (setSubFlags rflags lhs rhs (lhs - rhs) w borrowIn) kFlagOF) =
      decide (signedAt w lhs < signedAt w rhs) := by
  rw [setSubFlags_sign h0 hw, setSubFlags_overflow h0 hw, unsignedAt_sub _ _ hw]
  have ha := unsignedAt_lt w lhs
  have hb := unsignedAt_lt w rhs
  have htwice : 2 ^ (8 * w) = 2 * 2 ^ (8 * w - 1) := by
    rw [← Nat.pow_succ']
    congr 1
    omega
  unfold signedAt
  rw [show ((2 : Int) ^ (8 * w)) = ((2 ^ (8 * w) : Nat) : Int) by norm_cast]
  rw [htwice] at ha hb ⊢
  exact signBit_ne_overflow ha hb

end Sub

end Seven
