import Seven.Cpu.Flags

/-!
# The flags of an addition and a subtraction

`Flags` gives the meaning of the flags one by one, as each was needed. Here
they are put together: what `setAddFlags` and `setSubFlags` leave in RFLAGS is
a statement about the integers the operands hold,

> `ArithmeticFlags`: CF, OF and AF are three given facts, ZF, SF and PF are
> read from the result, and every other bit is as before,

and `arithmetic_flags` instantiates it at both functions, at every operand
width and with both carries. The parts that are new are the overflow of an
addition and of a subtraction with a borrow, the parity, and the frame.
-/

namespace Seven

/-! ## Overflow of a signed sum and a signed difference -/

/-- The number a digit pattern `a` below `2 * h` stands for, `h` being the
weight of the sign bit. -/
def signedDigit (h a : Nat) : Int := if a < h then a else a - 2 * h

/-- The signs agree and the sum has the other one exactly when the signed sum
does not fit. -/
theorem add_overflow_iff {h a b c : Nat} (ha : a < 2 * h) (hb : b < 2 * h) (hc : c ≤ 1) :
    ((h ≤ a ↔ h ≤ b) ∧ ¬ (h ≤ a ↔ h ≤ (a + b + c) % (2 * h))) ↔
      (signedDigit h a + signedDigit h b + c < -h ∨
        (h : Int) ≤ signedDigit h a + signedDigit h b + c) := by
  -- the sum wraps at most once
  have hwrap : (a + b + c) % (2 * h) =
      if a + b + c < 2 * h then a + b + c else a + b + c - 2 * h := by
    by_cases hlt : a + b + c < 2 * h
    · rw [if_pos hlt, Nat.mod_eq_of_lt hlt]
    · rw [if_neg hlt, Nat.mod_eq_sub_mod (by omega), Nat.mod_eq_of_lt (by omega)]
  rw [hwrap]
  unfold signedDigit
  rcases Nat.lt_or_ge a h with hsa | hsa <;> rcases Nat.lt_or_ge b h with hsb | hsb
  · rw [if_pos hsa, if_pos hsb]
    split <;> omega
  · rw [if_pos hsa, if_neg (Nat.not_lt.mpr hsb)]
    split <;> omega
  · rw [if_neg (Nat.not_lt.mpr hsa), if_pos hsb]
    split <;> omega
  · rw [if_neg (Nat.not_lt.mpr hsa), if_neg (Nat.not_lt.mpr hsb)]
    split <;> omega

/-- The signs differ and the difference has not the sign of `a` exactly when
the signed difference does not fit. The difference is given by what it adds up
to, so that no natural subtraction wraps. -/
theorem sub_overflow_iff {h a b c r : Nat} (ha : a < 2 * h) (hb : b < 2 * h) (hr : r < 2 * h)
    (hc : c ≤ 1) (hres : a = (r + b + c) % (2 * h)) :
    (¬ (h ≤ a ↔ h ≤ b) ∧ ¬ (h ≤ a ↔ h ≤ r)) ↔
      (signedDigit h a - signedDigit h b - c < -h ∨
        (h : Int) ≤ signedDigit h a - signedDigit h b - c) := by
  have hwrap : a = r + b + c ∨ a + 2 * h = r + b + c := by
    by_cases hlt : r + b + c < 2 * h
    · left
      rw [hres, Nat.mod_eq_of_lt hlt]
    · right
      rw [Nat.mod_eq_sub_mod (by omega), Nat.mod_eq_of_lt (by omega)] at hres
      omega
  unfold signedDigit
  rcases Nat.lt_or_ge a h with hsa | hsa <;> rcases Nat.lt_or_ge b h with hsb | hsb
  · rw [if_pos hsa, if_pos hsb]
    omega
  · rw [if_pos hsa, if_neg (Nat.not_lt.mpr hsb)]
    omega
  · rw [if_neg (Nat.not_lt.mpr hsa), if_pos hsb]
    omega
  · rw [if_neg (Nat.not_lt.mpr hsa), if_neg (Nat.not_lt.mpr hsb)]
    omega

/-- Exclusive or of two decisions. -/
theorem xor_decide_iff (p q : Prop) [Decidable p] [Decidable q] :
    (decide p ^^ decide q) = true ↔ ¬ (p ↔ q) := by
  by_cases hp : p <;> by_cases hq : q <;> simp [hp, hq]

/-- The bound is twice the sign bit. -/
theorem two_pow_width {w : Nat} (h0 : 0 < w) : 2 ^ (8 * w) = 2 * 2 ^ (8 * w - 1) := by
  rw [← Nat.pow_succ']
  congr 1
  omega

/-- The signed value as the signed digit of `Seven.Lib`. -/
theorem signedAt_eq_digit {w : Nat} (h0 : 0 < w) (v : U64) :
    signedAt w v = signedDigit (2 ^ (8 * w - 1)) (unsignedAt w v) := by
  unfold signedAt signedDigit
  have hpow : ((2 : Int) ^ (8 * w)) = 2 * ((2 ^ (8 * w - 1) : Nat) : Int) := by
    rw [show ((2 : Int) ^ (8 * w)) = ((2 ^ (8 * w) : Nat) : Int) by norm_cast, two_pow_width h0]
    norm_cast
  rw [hpow]

/-! ## Parity -/

/-- The number of ones in the low byte. -/
def lowByteOnes (v : U64) : Nat := ((List.range 8).filter v.getLsbD).length

/-- Parity sees the low byte only. -/
theorem evenParity_setWidth (v : U64) : evenParity v = evenParity ((v.setWidth 8).setWidth 64) := by
  have hlow : v &&& 0xFF#64 = (v.setWidth 8).setWidth 64 &&& 0xFF#64 := by
    apply BitVec.eq_of_toNat_eq
    rw [BitVec.toNat_and, BitVec.toNat_and, BitVec.toNat_setWidth, BitVec.toNat_setWidth]
    show v.toNat &&& (2 ^ 8 - 1) = v.toNat % 2 ^ 8 % 2 ^ 64 &&& (2 ^ 8 - 1)
    rw [Nat.and_two_pow_sub_one_eq_mod, Nat.and_two_pow_sub_one_eq_mod]
    omega
  unfold evenParity
  rw [hlow]

/-- So does the count of ones. -/
theorem lowByteOnes_setWidth (v : U64) :
    lowByteOnes v = lowByteOnes ((v.setWidth 8).setWidth 64) := by
  unfold lowByteOnes
  congr 1
  refine List.filter_congr fun i hi => ?_
  have hi := List.mem_range.mp hi
  rw [BitVec.getLsbD_setWidth, BitVec.getLsbD_setWidth, decide_eq_true hi,
    decide_eq_true (by omega : i < 64), Bool.true_and, Bool.true_and]

/-- PF of a byte, by the table the source folds into `0x6996`. -/
theorem evenParity_byte :
    ∀ b : BitVec 8, evenParity (b.setWidth 64) = decide (lowByteOnes (b.setWidth 64) % 2 = 0) := by
  decide +kernel

/-- Even parity is an even number of ones. -/
theorem evenParity_ones (v : U64) : evenParity v = decide (lowByteOnes v % 2 = 0) := by
  rw [evenParity_setWidth, lowByteOnes_setWidth]
  exact evenParity_byte _

/-- The low byte survives every operand width. -/
theorem lowByteOnes_mask (v : U64) {w : Nat} (h0 : 0 < w) (hw : w ≤ 8) :
    lowByteOnes (v &&& maskForWidth w) = lowByteOnes v := by
  unfold lowByteOnes
  congr 1
  refine List.filter_congr fun i hi => ?_
  have hi := List.mem_range.mp hi
  rw [← BitVec.testBit_toNat, ← BitVec.testBit_toNat, and_maskForWidth_toNat v hw,
    Nat.testBit_mod_two_pow, decide_eq_true (by omega : i < 8 * w), Bool.true_and]

/-! ## The bits that stay -/

/-- A bit position that holds none of the six status flags. -/
def notStatus (i : Nat) : Prop := i ≠ 0 ∧ i ≠ 2 ∧ i ≠ 4 ∧ i ≠ 6 ∧ i ≠ 7 ∧ i ≠ 11

/-- Another bit is left. -/
theorem setFlag_getLsbD_ne {k i : Nat} (h : i ≠ k) (rflags : U64) (value : Bool) :
    (setFlag rflags (1#64 <<< k) value).getLsbD i = rflags.getLsbD i := by
  by_cases hi : i < 64
  · have hbit : (1#64 <<< k).getLsbD i = false := by
      rw [← BitVec.twoPow_eq, BitVec.getLsbD_twoPow, decide_eq_false (Ne.symm h), Bool.and_false]
    unfold setFlag
    cases value with
    | true => rw [if_pos rfl, BitVec.getLsbD_or, hbit, Bool.or_false]
    | false =>
      rw [if_neg Bool.false_ne_true, BitVec.getLsbD_and, BitVec.getLsbD_not, hbit,
        decide_eq_true hi]
      exact Bool.and_true _
  · rw [BitVec.getLsbD_of_ge _ _ (by omega), BitVec.getLsbD_of_ge _ _ (by omega)]

/-- The common flags leave the other bits. -/
theorem setResultFlags_frame {i : Nat} (h : notStatus i) (rflags result : U64) (w : Nat) :
    (setResultFlags rflags result w).getLsbD i = rflags.getLsbD i := by
  obtain ⟨_, h2, _, h6, h7, _⟩ := h
  unfold setResultFlags kFlagZF kFlagSF kFlagPF
  rw [setFlag_getLsbD_ne h2, setFlag_getLsbD_ne h7, setFlag_getLsbD_ne h6]

/-- An addition leaves the bits that are not status flags. -/
theorem setAddFlags_frame {i : Nat} (h : notStatus i) (rflags lhs rhs result : U64) (w : Nat)
    (carryIn : Bool) :
    (setAddFlags rflags lhs rhs result w carryIn).getLsbD i = rflags.getLsbD i := by
  have hi := h
  obtain ⟨h0, _, h4, _, _, h11⟩ := h
  unfold setAddFlags kFlagCF kFlagAF kFlagOF
  rw [setFlag_getLsbD_ne h11, setResultFlags_frame hi, setFlag_getLsbD_ne h4,
    setFlag_getLsbD_ne h0]

/-- So does a subtraction. -/
theorem setSubFlags_frame {i : Nat} (h : notStatus i) (rflags lhs rhs result : U64) (w : Nat)
    (borrowIn : Bool) :
    (setSubFlags rflags lhs rhs result w borrowIn).getLsbD i = rflags.getLsbD i := by
  have hi := h
  obtain ⟨h0, _, h4, _, _, h11⟩ := h
  unfold setSubFlags kFlagCF kFlagAF kFlagOF
  rw [setFlag_getLsbD_ne h11, setResultFlags_frame hi, setFlag_getLsbD_ne h4,
    setFlag_getLsbD_ne h0]

/-! ## The two functions -/

section Flags

variable {w : Nat} (h0 : 0 < w) (hw : w ≤ 8) (rflags lhs rhs result : U64) (carry : Bool)

/-- PF of the common flags. -/
theorem setResultFlags_parity :
    flagSet (setResultFlags rflags result w) kFlagPF = decide (lowByteOnes result % 2 = 0) := by
  unfold setResultFlags
  rw [flagSet_setFlag_self (by decide), evenParity_ones]

include hw

/-- ZF after an addition. -/
theorem setAddFlags_zero :
    flagSet (setAddFlags rflags lhs rhs result w carry) kFlagZF =
      decide (unsignedAt w result = 0) := by
  unfold setAddFlags
  rw [flagSet_setFlag_of_disjoint rfl, setResultFlags_zero, Bool.eq_iff_iff, beq_iff_eq,
    decide_eq_true_iff, ← BitVec.toNat_inj, mask_toNat_eq_unsignedAt _ hw]
  rfl

include h0

/-- SF after an addition. -/
theorem setAddFlags_sign :
    flagSet (setAddFlags rflags lhs rhs result w carry) kFlagSF =
      decide (2 ^ (8 * w - 1) ≤ unsignedAt w result) := by
  unfold setAddFlags
  rw [flagSet_setFlag_of_disjoint rfl, setResultFlags_sign,
    flagSet_signBit h0 hw (by rw [mask_toNat_eq_unsignedAt _ hw]; exact unsignedAt_lt w result),
    mask_toNat_eq_unsignedAt _ hw]

/-- PF after an addition. -/
theorem setAddFlags_parity :
    flagSet (setAddFlags rflags lhs rhs result w carry) kFlagPF =
      decide (lowByteOnes result % 2 = 0) := by
  unfold setAddFlags
  rw [flagSet_setFlag_of_disjoint rfl, setResultFlags_parity, lowByteOnes_mask _ h0 hw]

/-- PF after a subtraction. -/
theorem setSubFlags_parity :
    flagSet (setSubFlags rflags lhs rhs result w carry) kFlagPF =
      decide (lowByteOnes result % 2 = 0) := by
  unfold setSubFlags
  rw [flagSet_setFlag_of_disjoint rfl, setResultFlags_parity, lowByteOnes_mask _ h0 hw]

/-- The sign bit of an operand at its width. -/
theorem testBit_signBit (v : U64) :
    (v &&& maskForWidth w).toNat.testBit (8 * w - 1) =
      decide (2 ^ (8 * w - 1) ≤ unsignedAt w v) := by
  have hlt := unsignedAt_lt w v
  rw [← mask_toNat_eq_unsignedAt v hw] at hlt ⊢
  rw [← flagSet_signBit h0 hw hlt]
  unfold signBitForWidth
  rw [Nat.mul_comm w 8, flagSet_shift _ (by omega)]

/-- OF of an addition: the exact signed sum is out of range. -/
theorem setAddFlags_overflow
    (hres : unsignedAt w result = (unsignedAt w lhs + unsignedAt w rhs + carry.toNat) %
      2 ^ (8 * w)) :
    flagSet (setAddFlags rflags lhs rhs result w carry) kFlagOF = true ↔
      (signedAt w lhs + signedAt w rhs + carry.toNat < -(2 ^ (8 * w - 1) : Nat) ∨
        ((2 ^ (8 * w - 1) : Nat) : Int) ≤ signedAt w lhs + signedAt w rhs + carry.toNat) := by
  have ha := unsignedAt_lt w lhs
  have hb := unsignedAt_lt w rhs
  rw [two_pow_width h0] at ha hb hres
  rw [signedAt_eq_digit h0, signedAt_eq_digit h0,
    ← add_overflow_iff ha hb (Bool.toNat_le carry), ← hres]
  unfold setAddFlags
  rw [flagSet_setFlag_self (by unfold kFlagOF; decide)]
  show flagSet _ (1#64 <<< (w * 8 - 1)) = true ↔ _
  rw [Nat.mul_comm w 8, flagSet_shift _ (by omega), BitVec.testBit_toNat, BitVec.getLsbD_and,
    BitVec.getLsbD_not, decide_eq_true (by omega : 8 * w - 1 < 64), BitVec.getLsbD_xor,
    BitVec.getLsbD_xor, ← BitVec.testBit_toNat, ← BitVec.testBit_toNat, ← BitVec.testBit_toNat,
    testBit_signBit h0 hw, testBit_signBit h0 hw, testBit_signBit h0 hw, Bool.true_and,
    Bool.and_eq_true, Bool.not_eq_true', ← Bool.not_eq_true, xor_decide_iff, xor_decide_iff,
    not_not]

/-- OF of a subtraction: the exact signed difference is out of range. -/
theorem setSubFlags_overflow_iff
    (hres : unsignedAt w lhs = (unsignedAt w result + unsignedAt w rhs + carry.toNat) %
      2 ^ (8 * w)) :
    flagSet (setSubFlags rflags lhs rhs result w carry) kFlagOF = true ↔
      (signedAt w lhs - signedAt w rhs - carry.toNat < -(2 ^ (8 * w - 1) : Nat) ∨
        ((2 ^ (8 * w - 1) : Nat) : Int) ≤ signedAt w lhs - signedAt w rhs - carry.toNat) := by
  have ha := unsignedAt_lt w lhs
  have hb := unsignedAt_lt w rhs
  have hr := unsignedAt_lt w result
  rw [setSubFlags_overflow h0 hw]
  rw [two_pow_width h0] at ha hb hr hres
  rw [signedAt_eq_digit h0, signedAt_eq_digit h0,
    ← sub_overflow_iff ha hb hr (Bool.toNat_le carry) hres, Bool.and_eq_true,
    xor_decide_iff, xor_decide_iff]

end Flags

/-- What an arithmetic instruction leaves in RFLAGS: three facts about the
exact operation, three about the result, and the rest untouched. -/
structure ArithmeticFlags (w : Nat) (carry overflow half : Prop) (result old rflags : U64) :
    Prop where
  cf : flagSet rflags kFlagCF = true ↔ carry
  of : flagSet rflags kFlagOF = true ↔ overflow
  af : flagSet rflags kFlagAF = true ↔ half
  zf : flagSet rflags kFlagZF = true ↔ result.toNat = 0
  sf : flagSet rflags kFlagSF = true ↔ 2 ^ (8 * w - 1) ≤ result.toNat
  pf : flagSet rflags kFlagPF = true ↔ lowByteOnes result % 2 = 0
  frame : ∀ i, notStatus i → rflags.getLsbD i = old.getLsbD i

/-- The signed number does not fit `w` bytes. -/
def outOfRange (w : Nat) (x : Int) : Prop :=
  x < -(2 ^ (8 * w - 1) : Nat) ∨ ((2 ^ (8 * w - 1) : Nat) : Int) ≤ x

/-- The exact sum, cut to the width. -/
def truncatedSum (w : Nat) (a b : U64) (c : Bool) : U64 :=
  BitVec.ofNat 64 ((a.toNat + b.toNat + c.toNat) % 2 ^ (8 * w))

/-- The exact difference, cut to the width. -/
def truncatedDifference (w : Nat) (a b : U64) (c : Bool) : U64 :=
  BitVec.ofInt 64 (((a.toNat : Int) - b.toNat - c.toNat) % (2 ^ (8 * w) : Nat))

/-- The sum as a number. -/
theorem truncatedSum_toNat {w : Nat} (hw : w ≤ 8) (a b : U64) (c : Bool) :
    (truncatedSum w a b c).toNat = (a.toNat + b.toNat + c.toNat) % 2 ^ (8 * w) := by
  have hlt : (a.toNat + b.toNat + c.toNat) % 2 ^ (8 * w) < 2 ^ (8 * w) :=
    Nat.mod_lt _ (Nat.two_pow_pos _)
  have hle : 2 ^ (8 * w) ≤ 2 ^ 64 := Nat.pow_le_pow_right (by decide) (by omega)
  unfold truncatedSum
  rw [BitVec.toNat_ofNat, Nat.mod_eq_of_lt (Nat.lt_of_lt_of_le hlt hle)]

/-- The difference is below the width, and adding the subtrahend and the borrow
back gives `a`. -/
theorem truncatedDifference_toNat {w : Nat} (hw : w ≤ 8) (a b : U64) (c : Bool)
    (ha : a.toNat < 2 ^ (8 * w)) :
    (truncatedDifference w a b c).toNat < 2 ^ (8 * w) ∧
      a.toNat = ((truncatedDifference w a b c).toNat + b.toNat + c.toNat) % 2 ^ (8 * w) := by
  have hpos : 0 < 2 ^ (8 * w) := Nat.two_pow_pos _
  have hle : 2 ^ (8 * w) ≤ 2 ^ 64 := Nat.pow_le_pow_right (by decide) (by omega)
  unfold truncatedDifference
  generalize 2 ^ (8 * w) = m at *
  obtain ⟨r, hr⟩ := Int.eq_ofNat_of_zero_le
    (Int.emod_nonneg ((a.toNat : Int) - b.toNat - c.toNat) (b := (m : Int)) (by omega))
  have hlt := Int.emod_lt_of_pos ((a.toNat : Int) - b.toNat - c.toNat) (b := (m : Int)) (by omega)
  have hback := Int.emod_add_mul_ediv ((a.toNat : Int) - b.toNat - c.toNat) m
  rw [hr] at hlt hback ⊢
  have hnat : (BitVec.ofInt 64 (r : Int)).toNat = r := by
    rw [BitVec.ofInt_natCast, BitVec.toNat_ofNat, Nat.mod_eq_of_lt (by omega)]
  rw [hnat]
  refine ⟨by omega, ?_⟩
  -- the quotient is what the difference wrapped by
  have hsum : ((r + b.toNat + c.toNat : Nat) : Int) =
      a.toNat + (m : Int) * -(((a.toNat : Int) - b.toNat - c.toNat) / m) := by
    push_cast
    rw [Int.mul_neg]
    omega
  have hmod : ((r + b.toNat + c.toNat : Nat) : Int) % m = a.toNat := by
    rw [hsum, Int.add_mul_emod_self_left, Int.emod_eq_of_lt (by omega) (by omega)]
  omega

/-- A value that fits is its own value at the width. -/
theorem unsignedAt_of_lt {w : Nat} {v : U64} (h : v.toNat < 2 ^ (8 * w)) :
    unsignedAt w v = v.toNat := Nat.mod_eq_of_lt h

/-- **The flags of an addition and of a subtraction**, at each operand width
and with both carries. -/
theorem arithmetic_flags (w : Nat) (hwidth : w = 1 ∨ w = 2 ∨ w = 4 ∨ w = 8) (rflags a b : U64)
    (c : Bool) (ha : a.toNat < 2 ^ (8 * w)) (hb : b.toNat < 2 ^ (8 * w)) :
    ArithmeticFlags w (2 ^ (8 * w) ≤ a.toNat + b.toNat + c.toNat)
        (outOfRange w (signedAt w a + signedAt w b + c.toNat))
        (16 ≤ a.toNat % 16 + b.toNat % 16 + c.toNat) (truncatedSum w a b c) rflags
        (setAddFlags rflags a b (truncatedSum w a b c) w c) ∧
      ArithmeticFlags w (a.toNat < b.toNat + c.toNat)
        (outOfRange w (signedAt w a - signedAt w b - c.toNat))
        (a.toNat % 16 < b.toNat % 16 + c.toNat) (truncatedDifference w a b c) rflags
        (setSubFlags rflags a b (truncatedDifference w a b c) w c) := by
  obtain ⟨h0, hw⟩ : 0 < w ∧ w ≤ 8 := by omega
  have hua := unsignedAt_of_lt ha
  have hub := unsignedAt_of_lt hb
  constructor
  -- The sum: carry, overflow, half carry, zero, sign, parity, and the other bits.
  · have hsum := truncatedSum_toNat hw a b c
    have hlt : (truncatedSum w a b c).toNat < 2 ^ (8 * w) := by
      rw [hsum]
      exact Nat.mod_lt _ (Nat.two_pow_pos _)
    have hus := unsignedAt_of_lt hlt
    have hres : unsignedAt w (truncatedSum w a b c) =
        (unsignedAt w a + unsignedAt w b + c.toNat) % 2 ^ (8 * w) := by rw [hus, hua, hub, hsum]
    constructor
    · rw [setAddFlags_carry h0 hw, hua, hub, decide_eq_true_iff]
    · exact setAddFlags_overflow h0 hw _ _ _ _ _ hres
    · rw [setAddFlags_half h0 hw _ _ _ _ _ hres, hua, hub, decide_eq_true_iff]
    · rw [setAddFlags_zero hw, hus, decide_eq_true_iff]
    · rw [setAddFlags_sign h0 hw, hus, decide_eq_true_iff]
    · rw [setAddFlags_parity h0 hw, decide_eq_true_iff]
    · exact fun i hi => setAddFlags_frame hi _ _ _ _ _ _
  -- The difference, with the minuend written as the wrapped sum of the other three.
  · obtain ⟨hlt, hdiff⟩ := truncatedDifference_toNat hw a b c ha
    have hud := unsignedAt_of_lt hlt
    have hres : unsignedAt w a = (unsignedAt w (truncatedDifference w a b c) +
        unsignedAt w b + c.toNat) % 2 ^ (8 * w) := by rw [hud, hua, hub]; exact hdiff
    constructor
    · rw [setSubFlags_carry h0 hw, hua, hub, decide_eq_true_iff]
    · exact setSubFlags_overflow_iff h0 hw _ _ _ _ _ hres
    · rw [setSubFlags_half h0 hw _ _ _ _ _ hres, hua, hub, decide_eq_true_iff]
    · rw [setSubFlags_zero hw, hud, decide_eq_true_iff]
    · rw [setSubFlags_sign h0 hw, hud, decide_eq_true_iff]
    · rw [setSubFlags_parity h0 hw, decide_eq_true_iff]
    · exact fun i hi => setSubFlags_frame hi _ _ _ _ _ _

/-- `0 - 0xFF…F - 1`, the case where the subtrahend overflows its container. -/
theorem arithmetic_flags_full :
    flagSet (setSubFlags 0#64 0#64 (BitVec.allOnes 64)
      (truncatedDifference 8 0#64 (BitVec.allOnes 64) true) 8 true) kFlagCF = true :=
  (arithmetic_flags 8 (by decide) 0#64 0#64 (BitVec.allOnes 64) true (by decide)
    (by decide)).2.cf.mpr (by decide)

end Seven
