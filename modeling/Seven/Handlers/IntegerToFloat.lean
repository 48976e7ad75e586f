import Seven.Handlers.FloatLanes
import Seven.Handlers.UpperBits
import Seven.Lib.Rounding

/-!
# Integers as doubles

`convert_int_to_fp<double, std::int64_t>` of `simd_fp.cpp`, which `CVTSI2SD`
calls with a 64-bit source. An integer of more than 53 bits is rounded in
integer arithmetic, on its magnitude and in the direction of MXCSR, before it
is made a double. `FloatHost.withInt64` puts this conversion in the place of
the host's, and `handleCvtsi2sdRm64` is the handler that calls it.

> `int64_to_double`: the result is the correctly rounded input, nothing
> overflows, and the precision exception says whether it was rounded.
-/

namespace Seven

open Seven.Lib

/-! ## The code -/

/-- `mxcsr_rounding_mode`. -/
def mxcsrRoundingMode (s : CpuState) : Nat := ((s.mxcsr >>> 13) &&& 3#32).toNat

/-- `std::bit_width`. -/
def bitWidth (v : U64) : Nat := if v = 0#64 then 0 else Nat.log2 v.toNat + 1

/-- The bits of the double that is an integer of at most 53 significant bits. -/
def doubleOf (negative : Bool) (magnitude : U64) : U64 :=
  if magnitude = 0#64 then 0#64
  else
    let exponent := bitWidth magnitude - 1
    let fraction := magnitude.toNat * 2 ^ 52 / 2 ^ exponent - 2 ^ 52
    BitVec.ofNat 64
      ((if negative then 2 ^ 63 else 0) + ((1023 + exponent) * 2 ^ 52 + fraction))

/-- The steps of the rounding. -/
structure MagnitudeRounding where
  shift : Nat
  base : U64
  remainder : U64
  roundedBase : U64
  roundedMagnitude : U64

/-- The quotient, or the one above it, by the mode and the remainder. -/
def roundBase (mode : Nat) (negative : Bool) (shift : Nat) (base remainder : U64) : U64 :=
  match mode with
  | 0 =>
    let half := 1#64 <<< (shift - 1)
    if half < remainder ∨ (remainder = half ∧ base &&& 1#64 ≠ 0#64) then base + 1#64 else base
  | 1 => if negative = true ∧ remainder ≠ 0#64 then base + 1#64 else base
  | 2 => if negative = false ∧ remainder ≠ 0#64 then base + 1#64 else base
  | _ => base

/-- `round_magnitude`. -/
def roundMagnitude (mode : Nat) (negative : Bool) (magnitude : U64) : MagnitudeRounding :=
  let exponent := bitWidth magnitude - 1
  let shift := exponent - 52
  let base := magnitude >>> shift
  let remainderMask := (1#64 <<< shift) - 1#64
  let remainder := magnitude &&& remainderMask
  let roundedBase := roundBase mode negative shift base remainder
  { shift := shift
    base := base
    remainder := remainder
    roundedBase := roundedBase
    roundedMagnitude := roundedBase <<< shift }

/-- The magnitude; that of the least integer is `2^63`. -/
def int64Magnitude (input : U64) : U64 := if input.slt 0#64 then 0#64 - input else input

/-- `convert_int64_to_double`. -/
def convertInt64ToDouble (s : CpuState) (input : U64) : U64 × BitVec 32 :=
  let negative := input.slt 0#64
  let magnitude := int64Magnitude input
  if magnitude < 1#64 <<< 53 then (doubleOf negative magnitude, 0#32)
  else
    let r := roundMagnitude (mxcsrRoundingMode s) negative magnitude
    (doubleOf negative r.roundedMagnitude,
      if r.remainder ≠ 0#64 then kSseExceptionPrecision else 0#32)

/-- The result in the low element, the rest from the destination. -/
def packDouble (lhs : BitVec 512) (result : U64 × BitVec 32) : BitVec 512 × BitVec 32 :=
  (updateLanes 8 1 (fun _ => some result.1) lhs, result.2)

/-- A host that converts 64-bit integers with the code's own rounding. -/
def FloatHost.withInt64 (F : FloatHost) : FloatHost :=
  { F with
    compute := fun
      | .cvtsi .double true, mxcsr, _, lhs, src =>
        packDouble lhs (convertInt64ToDouble { mxcsr := mxcsr } (src.setWidth 64))
      | c, mxcsr, imm, lhs, rhs => F.compute c mxcsr imm lhs rhs }

/-- `handle_code_CVTSI2SD_XMM_RM64`. -/
def handleCvtsi2sdRm64 (F : FloatHost) : Handler :=
  (FloatCode.cvtsi .double true).handler F.withInt64

/-- `CVTSI2SD` runs in this state with this source. -/
structure ConvertsInt64 (F : FloatHost) (ctx : ExecutionContext) (s : CpuState) (input : U64) :
    Prop where
  destination : F.IsVectorOperand ctx.instr 0
  source : readOperand ctx 1 8 = some input
  state : ctx.state = s

/-- The handler reports the exceptions of the conversion and packs its value. -/
theorem ConvertsInt64.handler_eq {F : FloatHost} {ctx : ExecutionContext} {s : CpuState}
    {input : U64} (h : ConvertsInt64 F ctx s input) :
    handleCvtsi2sdRm64 F ctx = F.reported ctx false
      (packDouble (F.readVec s (ctx.instr.opRegister 0)) (convertInt64ToDouble s input)) := by
  obtain ⟨hdst, hsource, rfl⟩ := h
  have hget : (get : HandlerM ExecutionContext) ctx = .ok ctx ctx := rfl
  have hread : F.withInt64.floatOperands (ctx.instr.opRegister 0) (.cvtsi .double true) ctx =
      .ok (F.readVec ctx.state (ctx.instr.opRegister 0), input.setWidth 512) ctx :=
    (bind_ok hget).trans (bind_ok (readOperandChecked_ok_iff.mpr hsource))
  have hinput : (input.setWidth 512).setWidth 64 = input := by
    rw [BitVec.setWidth_setWidth_of_le _ (by decide), BitVec.setWidth_eq]
  refine (FloatCode.handler_eq F.withInt64 (.cvtsi .double true) hdst hread).trans ?_
  show F.reported ctx false (packDouble _
    (convertInt64ToDouble { mxcsr := ctx.state.mxcsr } ((input.setWidth 512).setWidth 64))) = _
  rw [hinput]
  rfl

/-! ## What it should do -/

/-- The direction that a mode stands for. -/
def modeDirection (mode : Nat) : RoundingMode :=
  match mode with
  | 0 => .nearestEven
  | 1 => .down
  | 2 => .up
  | _ => .towardZero

/-- The integer of a sign and a magnitude. -/
def signedMagnitude (negative : Bool) (magnitude : U64) : Int :=
  if negative then -(magnitude.toNat : Int) else magnitude.toNat

/-- The double is the integer: sign, exponent and the fraction of a significand of 53
bits. -/
def IsDoubleOf (bits : U64) (v : Int) : Prop :=
  (v = 0 ∧ bits = 0#64) ∨
    ∃ exponent significand : Nat, exponent < 1024 ∧ 2 ^ 52 ≤ significand ∧ significand < 2 ^ 53 ∧
      v.natAbs * 2 ^ 52 = significand * 2 ^ exponent ∧
      bits.toNat = (if v < 0 then 2 ^ 63 else 0) +
        ((1023 + exponent) * 2 ^ 52 + (significand - 2 ^ 52))

/-- Every step has the value that it has in the integers, and every shift is
by less than the width. -/
structure MagnitudeRounding.NoOverflow (r : MagnitudeRounding) (magnitude : U64) : Prop where
  shift_pos : 0 < r.shift
  shift_le : r.shift ≤ 11
  half : (1#64 <<< (r.shift - 1)).toNat = 2 ^ (r.shift - 1)
  mask : ((1#64 <<< r.shift) - 1#64).toNat = 2 ^ r.shift - 1
  base : r.base.toNat = magnitude.toNat / 2 ^ r.shift
  remainder : r.remainder.toNat = magnitude.toNat % 2 ^ r.shift
  roundedBase : r.roundedBase.toNat = r.base.toNat ∨ r.roundedBase.toNat = r.base.toNat + 1
  roundedMagnitude : r.roundedMagnitude.toNat = r.roundedBase.toNat * 2 ^ r.shift

/-! ## Bits -/

/-- The bit width brackets the value. -/
theorem bitWidth_bounds {v : U64} (hv : v ≠ 0#64) :
    2 ^ (bitWidth v - 1) ≤ v.toNat ∧ v.toNat < 2 ^ (bitWidth v - 1 + 1) := by
  have hpos : v.toNat ≠ 0 := fun h => hv (BitVec.eq_of_toNat_eq h)
  unfold bitWidth
  rw [if_neg hv, Nat.add_sub_cancel]
  exact ⟨Nat.log2_self_le hpos, Nat.lt_log2_self⟩

/-- A single bit. -/
theorem one_shiftLeft_toNat {k : Nat} (hk : k < 64) : (1#64 <<< k).toNat = 2 ^ k := by
  have hone : (1#64).toNat = 1 := rfl
  rw [BitVec.toNat_shiftLeft, hone, Nat.one_shiftLeft]
  exact Nat.mod_eq_of_lt (Nat.pow_lt_pow_right (by decide) hk)

/-- A mask of low bits. -/
theorem lowBits_toNat {k : Nat} (hk : k < 64) : ((1#64 <<< k) - 1#64).toNat = 2 ^ k - 1 := by
  have hpos := Nat.two_pow_pos k
  rw [BitVec.toNat_sub_of_le, one_shiftLeft_toNat hk]
  · rfl
  · rw [BitVec.le_def, one_shiftLeft_toNat hk]
    exact hpos

/-- Odd by the lowest bit. -/
theorem low_bit_ne_zero (v : U64) : v &&& 1#64 ≠ 0#64 ↔ v.toNat % 2 = 1 := by
  have hand : (v &&& 1#64).toNat = v.toNat % 2 := by
    rw [BitVec.toNat_and]
    exact Nat.and_two_pow_sub_one_eq_mod _ 1
  rw [Ne, ← BitVec.toNat_inj, hand]
  show ¬v.toNat % 2 = 0 ↔ _
  omega

/-! ## The rounding -/

section

variable {magnitude : U64} (mode : Nat) (negative : Bool)

/-- The exponent and the shift. -/
theorem roundMagnitude_shift (hlow : 2 ^ 53 ≤ magnitude.toNat) (hhigh : magnitude.toNat ≤ 2 ^ 63) :
    let r := roundMagnitude mode negative magnitude
    0 < r.shift ∧ r.shift ≤ 11 ∧ 2 ^ 52 ≤ magnitude.toNat / 2 ^ r.shift ∧
      magnitude.toNat / 2 ^ r.shift < 2 ^ 53 := by
  have hne : magnitude ≠ 0#64 := by
    rintro rfl
    exact absurd hlow (by decide)
  obtain ⟨hle, hlt⟩ := bitWidth_bounds hne
  intro r
  have hshift : r.shift = bitWidth magnitude - 1 - 52 := rfl
  generalize bitWidth magnitude - 1 = exponent at hle hlt hshift
  -- The exponent lies between 53 and 63, so at least one bit is cut off and at most eleven.
  have hfrom : 53 ≤ exponent := by
    by_contra hsmall
    have := Nat.pow_le_pow_right (n := 2) (by decide) (show exponent + 1 ≤ 53 by omega)
    omega
  have hto : exponent ≤ 63 := by
    by_contra hbig
    have := Nat.pow_le_pow_right (n := 2) (by decide) (show 64 ≤ exponent by omega)
    omega
  rw [hshift]
  refine ⟨by omega, by omega, ?_, ?_⟩
  · rw [Nat.le_div_iff_mul_le (Nat.two_pow_pos _), ← Nat.pow_add,
      show 52 + (exponent - 52) = exponent by omega]
    exact hle
  · rw [Nat.div_lt_iff_lt_mul (Nat.two_pow_pos _), ← Nat.pow_add,
      show 53 + (exponent - 52) = exponent + 1 by omega]
    exact hlt

/-- The quotient. -/
theorem roundMagnitude_base (hshift : (roundMagnitude mode negative magnitude).shift ≤ 11) :
    (roundMagnitude mode negative magnitude).base.toNat =
        magnitude.toNat / 2 ^ (roundMagnitude mode negative magnitude).shift ∧
      (roundMagnitude mode negative magnitude).remainder.toNat =
        magnitude.toNat % 2 ^ (roundMagnitude mode negative magnitude).shift := by
  constructor
  · show (magnitude >>> (roundMagnitude mode negative magnitude).shift).toNat = _
    rw [BitVec.toNat_ushiftRight, Nat.shiftRight_eq_div_pow]
  · show (magnitude &&&
      ((1#64 <<< (roundMagnitude mode negative magnitude).shift) - 1#64)).toNat = _
    rw [BitVec.toNat_and, lowBits_toNat (by omega), Nat.and_two_pow_sub_one_eq_mod]

/-- Without a remainder the base stays. -/
theorem roundBase_exact {shift : Nat} (hshift : shift ≤ 11) (base : U64) :
    roundBase mode negative shift base 0#64 = base := by
  unfold roundBase
  split
  · refine if_neg ?_
    rw [BitVec.lt_def, ← BitVec.toNat_inj, one_shiftLeft_toNat (by omega)]
    have hpos := Nat.two_pow_pos (shift - 1)
    rintro (hlt | ⟨heq, _⟩)
    · exact absurd hlt (Nat.not_lt_zero _)
    · have : 0 = 2 ^ (shift - 1) := heq
      omega
  · exact if_neg fun h => h.2 rfl
  · exact if_neg fun h => h.2 rfl
  · rfl

/-- Rounding adds at most one. -/
theorem roundBase_cases (shift : Nat) (base remainder : U64) :
    roundBase mode negative shift base remainder = base ∨
      roundBase mode negative shift base remainder = base + 1#64 := by
  unfold roundBase
  split
  · dsimp only
    split
    · exact Or.inr rfl
    · exact Or.inl rfl
  · split
    · exact Or.inr rfl
    · exact Or.inl rfl
  · split
    · exact Or.inr rfl
    · exact Or.inl rfl
  · exact Or.inl rfl

/-- **No step of the rounding overflows**, the carry into the next power of two
included. -/
theorem roundMagnitude_noOverflow (hlow : 2 ^ 53 ≤ magnitude.toNat)
    (hhigh : magnitude.toNat ≤ 2 ^ 63) :
    (roundMagnitude mode negative magnitude).NoOverflow magnitude := by
  obtain ⟨hpos, hshift, hfrom, hto⟩ := roundMagnitude_shift mode negative hlow hhigh
  obtain ⟨hbase, hrest⟩ := roundMagnitude_base mode negative hshift
  have hrounded : (roundMagnitude mode negative magnitude).roundedBase =
      roundBase mode negative (roundMagnitude mode negative magnitude).shift
        (roundMagnitude mode negative magnitude).base
        (roundMagnitude mode negative magnitude).remainder := rfl
  have hshifted : (roundMagnitude mode negative magnitude).roundedMagnitude =
      (roundMagnitude mode negative magnitude).roundedBase <<<
        (roundMagnitude mode negative magnitude).shift := rfl
  generalize roundMagnitude mode negative magnitude = r at *
  have hcarry : (r.base + 1#64).toNat = r.base.toNat + 1 := by
    rw [BitVec.toNat_add]
    show (r.base.toNat + 1) % 2 ^ 64 = _
    exact Nat.mod_eq_of_lt (by omega)
  have hcases : r.roundedBase.toNat = r.base.toNat ∨ r.roundedBase.toNat = r.base.toNat + 1 := by
    rw [hrounded, ← hcarry]
    exact (roundBase_cases mode negative r.shift r.base r.remainder).imp
      (congrArg BitVec.toNat) (congrArg BitVec.toNat)
  -- Rounding up adds one in the base, which still leaves the shifted value below `2 ^ 64`.
  have hroom : r.roundedBase.toNat * 2 ^ r.shift < 2 ^ 64 := by
    have hpow : 2 ^ r.shift ≤ 2 ^ 11 := Nat.pow_le_pow_right (by decide) hshift
    have hle : r.roundedBase.toNat * 2 ^ r.shift ≤ (r.base.toNat + 1) * 2 ^ r.shift :=
      Nat.mul_le_mul_right _ (by omega)
    have hmul := Nat.div_mul_le_self magnitude.toNat (2 ^ r.shift)
    rw [hbase, Nat.succ_mul] at hle
    omega
  refine ⟨hpos, hshift, one_shiftLeft_toNat (by omega), lowBits_toNat (by omega), hbase, hrest,
    hcases, ?_⟩
  rw [hshifted, BitVec.toNat_shiftLeft, Nat.shiftLeft_eq]
  exact Nat.mod_eq_of_lt hroom

end

/-! ## Correct rounding -/

/-- The direction for the magnitude of a number. -/
def magnitudeDirection (mode : Nat) (negative : Bool) : RoundingMode :=
  if negative then (modeDirection mode).mirror else modeDirection mode

section

variable {shift n : Nat} {base remainder : U64}

/-- The carry does not overflow. -/
theorem base_succ (hbase : base.toNat = n / 2 ^ shift) (hhigh : n / 2 ^ shift < 2 ^ 53) :
    (base + 1#64).toNat = n / 2 ^ shift + 1 := by
  rw [BitVec.toNat_add, hbase]
  show (n / 2 ^ shift + 1) % 2 ^ 64 = _
  exact Nat.mod_eq_of_lt (by omega)

variable (hpos : 0 < shift) (hshift : shift ≤ 11) (hbase : base.toNat = n / 2 ^ shift)
  (hremainder : remainder.toNat = n % 2 ^ shift) (hlow : 2 ^ 52 ≤ n / 2 ^ shift)
  (hhigh : n / 2 ^ shift < 2 ^ 53) (hrest : n % 2 ^ shift ≠ 0)

include hpos hshift hbase hremainder hlow hhigh hrest

/-- To nearest: the remainder against half of the place, a tie by the last
bit of the base. -/
theorem roundBase_nearest (negative : Bool) :
    Rounds (Significant 53) (EvenSignificand 53) .nearestEven (n : Int)
      (((roundBase 0 negative shift base remainder).toNat * 2 ^ shift : Nat) : Int) := by
  have hneighbours := significant_neighbours (by decide) hlow hhigh hrest
  have hsplit := Nat.div_add_mod' n (2 ^ shift)
  have hnext : (n / 2 ^ shift + 1) * 2 ^ shift = n / 2 ^ shift * 2 ^ shift + 2 ^ shift :=
    Nat.succ_mul _ _
  have hdouble : 2 ^ shift = 2 * 2 ^ (shift - 1) := by
    obtain ⟨k, rfl⟩ : ∃ k, shift = k + 1 := ⟨shift - 1, by omega⟩
    exact Nat.pow_succ'
  -- More than half, or half with an odd base, goes up; everything else stays.
  unfold roundBase
  dsimp only
  simp only [BitVec.lt_def, ← BitVec.toNat_inj (y := 1#64 <<< (shift - 1)),
    one_shiftLeft_toNat (show shift - 1 < 64 by omega), hremainder, low_bit_ne_zero, hbase]
  split
  next htaken =>
    rw [base_succ hbase hhigh]
    refine hneighbours.nearest_high ?_
    rcases htaken with hmore | ⟨htie, hodd⟩
    · exact Or.inl (by omega)
    · refine Or.inr ⟨by omega, ?_⟩
      exact evenSignificand_mul (by decide) (by omega) hhigh (by omega)
  next hleft =>
    rw [hbase]
    refine hneighbours.nearest_low ?_
    obtain ⟨hmore, htie⟩ := not_or.mp hleft
    by_cases hhalf : n % 2 ^ shift = 2 ^ (shift - 1)
    · refine Or.inr ⟨by omega, ?_⟩
      exact evenSignificand_mul (by decide) hlow (Nat.le_of_lt hhigh) (by omega)
    · exact Or.inl (by omega)

/-- **One of the neighbours is taken**, the one that the direction asks for. -/
theorem roundBase_rounds (mode : Nat) (negative : Bool) :
    Rounds (Significant 53) (EvenSignificand 53) (magnitudeDirection mode negative) (n : Int)
      (((roundBase mode negative shift base remainder).toNat * 2 ^ shift : Nat) : Int) := by
  have hneighbours := significant_neighbours (by decide) hlow hhigh hrest
  have hcarry := base_succ hbase hhigh
  have hne : remainder ≠ 0#64 := by
    rintro rfl
    exact hrest hremainder.symm
  -- To nearest, down, up and toward zero; the sign turns down and up around for the magnitude.
  match mode with
  | 0 =>
    have hdirection : magnitudeDirection 0 negative = .nearestEven := by cases negative <;> rfl
    rw [hdirection]
    exact roundBase_nearest hpos hshift hbase hremainder hlow hhigh hrest negative
  | 1 =>
    cases negative with
    | true =>
      have htaken : roundBase 1 true shift base remainder = base + 1#64 := if_pos ⟨rfl, hne⟩
      rw [htaken, hcarry]
      exact hneighbours.up
    | false =>
      have hnot : ¬(false = true ∧ remainder ≠ 0#64) := fun h => Bool.false_ne_true h.1
      have hleft : roundBase 1 false shift base remainder = base :=
        (if_neg hnot : (if _ then base + 1#64 else base) = base)
      rw [hleft, hbase]
      exact hneighbours.down
  | 2 =>
    cases negative with
    | true =>
      have hnot : ¬(true = false ∧ remainder ≠ 0#64) := fun h => Bool.false_ne_true h.1.symm
      have hleft : roundBase 2 true shift base remainder = base :=
        (if_neg hnot : (if _ then base + 1#64 else base) = base)
      rw [hleft, hbase]
      exact hneighbours.down
    | false =>
      have htaken : roundBase 2 false shift base remainder = base + 1#64 := if_pos ⟨rfl, hne⟩
      rw [htaken, hcarry]
      exact hneighbours.up
  | mode + 3 =>
    have hdirection : magnitudeDirection (mode + 3) negative = .towardZero := by
      cases negative <;> rfl
    have hpositive : ¬(n : Int) ≤ 0 := by
      have := Nat.div_le_self n (2 ^ shift)
      omega
    rw [hdirection]
    show Rounds _ _ _ _ ((base.toNat * 2 ^ shift : Nat) : Int)
    rw [hbase]
    exact ⟨fun _ => hneighbours.down, fun h => absurd h hpositive⟩

end

/-- **The rounded magnitude** is the magnitude rounded in the direction that the sign
leaves of the mode. -/
theorem roundMagnitude_rounds (mode : Nat) (negative : Bool) {magnitude : U64}
    (hlow : 2 ^ 53 ≤ magnitude.toNat) (hhigh : magnitude.toNat ≤ 2 ^ 63) :
    let r := roundMagnitude mode negative magnitude
    Significant 53 (r.roundedMagnitude.toNat : Int) ∧
      Rounds (Significant 53) (EvenSignificand 53) (magnitudeDirection mode negative)
        (magnitude.toNat : Int) (r.roundedMagnitude.toNat : Int) ∧
      (r.remainder = 0#64 ↔ Significant 53 (magnitude.toNat : Int)) := by
  have hno := roundMagnitude_noOverflow mode negative hlow hhigh
  obtain ⟨hpos, hshift, hfrom, hto⟩ := roundMagnitude_shift mode negative hlow hhigh
  have hrounded : (roundMagnitude mode negative magnitude).roundedBase =
      roundBase mode negative (roundMagnitude mode negative magnitude).shift
        (roundMagnitude mode negative magnitude).base
        (roundMagnitude mode negative magnitude).remainder := rfl
  dsimp only
  generalize roundMagnitude mode negative magnitude = r at *
  have hsplit := Nat.div_add_mod' magnitude.toNat (2 ^ r.shift)
  have hbound : r.roundedBase.toNat ≤ 2 ^ 53 := by
    have := hno.base
    have := hno.roundedBase
    omega
  have hsignificant : Significant 53 (r.roundedMagnitude.toNat : Int) := by
    rw [hno.roundedMagnitude]
    exact significant_mul (by decide) hbound
  -- With nothing cut off the magnitude is its own rounding.
  refine ⟨hsignificant, ?_⟩
  by_cases hexact : r.remainder = 0#64
  · -- nothing is cut off
    have hsame : r.roundedMagnitude.toNat = magnitude.toNat := by
      rw [hno.roundedMagnitude, hrounded, hexact, roundBase_exact mode negative hshift, hno.base]
      have hzero : magnitude.toNat % 2 ^ r.shift = 0 := by rw [← hno.remainder, hexact]; rfl
      omega
    rw [hsame] at hsignificant ⊢
    exact ⟨rounds_self _ hsignificant, iff_of_true hexact hsignificant⟩
  · have hrest : magnitude.toNat % 2 ^ r.shift ≠ 0 := by
      rw [← hno.remainder]
      exact fun h => hexact (BitVec.eq_of_toNat_eq h)
    refine ⟨?_, iff_of_false hexact fun hmagnitude => ?_⟩
    · rw [hno.roundedMagnitude, hrounded]
      exact roundBase_rounds hpos hshift hno.base hno.remainder hfrom hto hrest mode negative
    · have hneighbours := significant_neighbours (by decide) hfrom hto hrest
      rcases hneighbours.none_between _ hmagnitude with hle | hge
      · exact absurd hneighbours.low_lt (not_lt.mpr hle)
      · exact absurd hneighbours.lt_high (not_lt.mpr hge)

/-! ## The conversion -/

/-- The magnitude as a number. -/
theorem int64Magnitude_toNat (input : U64) :
    (int64Magnitude input).toNat = input.toInt.natAbs ∧ input.toInt.natAbs ≤ 2 ^ 63 := by
  have hlow := BitVec.le_toInt input
  have hhigh := BitVec.toInt_lt (x := input)
  have hcases : input.toInt = input.toNat ∨ input.toInt = input.toNat - 2 ^ 64 := by
    rw [BitVec.toInt_eq_toNat_cond]
    split
    · exact Or.inl rfl
    · exact Or.inr rfl
  have hlt := input.isLt
  refine ⟨?_, by omega⟩
  unfold int64Magnitude
  split
  next hneg =>
    rw [BitVec.slt_iff_toInt_lt, BitVec.toInt_zero] at hneg
    rw [BitVec.toNat_sub]
    show (2 ^ 64 - input.toNat + 0) % 2 ^ 64 = _
    omega
  next hpos =>
    rw [BitVec.slt_iff_toInt_lt, BitVec.toInt_zero] at hpos
    omega

/-- The integer by its sign and magnitude. -/
theorem int64_signed (input : U64) :
    input.toInt = signedMagnitude (input.slt 0#64) (int64Magnitude input) := by
  have habs := (int64Magnitude_toNat input).1
  unfold signedMagnitude
  rw [habs]
  split
  next hneg =>
    rw [BitVec.slt_iff_toInt_lt, BitVec.toInt_zero] at hneg
    omega
  next hpos =>
    rw [BitVec.slt_iff_toInt_lt, BitVec.toInt_zero] at hpos
    omega

/-- Rounding the magnitude in the direction that the sign leaves rounds the
number. -/
theorem rounds_signed {mode : Nat} {negative : Bool} {magnitude rounded : U64}
    (h : Rounds (Significant 53) (EvenSignificand 53) (magnitudeDirection mode negative)
      (magnitude.toNat : Int) (rounded.toNat : Int)) :
    Rounds (Significant 53) (EvenSignificand 53) (modeDirection mode)
      (signedMagnitude negative magnitude) (signedMagnitude negative rounded) := by
  cases negative with
  | false => exact h
  | true =>
    have hmirror : (modeDirection mode).mirror.mirror = modeDirection mode := by
      cases modeDirection mode <;> rfl
    have hneg := h.neg (fun z (hz : Significant 53 z) => hz.neg)
      fun z (hz : EvenSignificand 53 z) => hz.neg
    unfold magnitudeDirection at hneg
    rw [if_pos rfl, hmirror] at hneg
    exact hneg

/-- The 53 bits from the leading one on. -/
theorem significand_bounds {m e : Nat} (hle : 2 ^ e ≤ m) (hnext : m < 2 ^ (e + 1)) :
    2 ^ 52 ≤ m * 2 ^ 52 / 2 ^ e ∧ m * 2 ^ 52 / 2 ^ e < 2 ^ 53 := by
  constructor
  · rw [Nat.le_div_iff_mul_le (Nat.two_pow_pos _), Nat.mul_comm]
    exact Nat.mul_le_mul_right _ hle
  · rw [Nat.div_lt_iff_lt_mul (Nat.two_pow_pos _)]
    rw [Nat.pow_succ] at hnext
    omega

/-- They are all there is of an integer of 53 significant bits. -/
theorem significand_exact {m e : Nat} (hle : 2 ^ e ≤ m) (hsignificant : Significant 53 (m : Int)) :
    m * 2 ^ 52 / 2 ^ e * 2 ^ e = m * 2 ^ 52 := by
  refine Nat.div_mul_cancel ?_
  by_cases hsmall : e ≤ 52
  · exact Dvd.dvd.mul_left (Nat.pow_dvd_pow 2 hsmall) _
  · have hsplit : 2 ^ e = 2 ^ (e - 52) * 2 ^ 52 := by
      rw [← Nat.pow_add, show e - 52 + 52 = e by omega]
    have hlarge : 2 ^ (53 - 1) * 2 ^ (e - 52) ≤ (m : Int).natAbs := by
      rw [Nat.mul_comm, ← hsplit]
      exact hle
    rw [hsplit]
    exact Nat.mul_dvd_mul_right (significant_dvd (by decide) hsignificant hlarge) _

/-- The double is exact. -/
theorem doubleOf_isDoubleOf {negative : Bool} {magnitude : U64}
    (hsignificant : Significant 53 (magnitude.toNat : Int)) :
    IsDoubleOf (doubleOf negative magnitude) (signedMagnitude negative magnitude) := by
  -- Zero is a double of its own; any other value has its highest bit at the exponent.
  unfold doubleOf
  split
  next hzero =>
    subst hzero
    refine Or.inl ⟨?_, rfl⟩
    cases negative <;> rfl
  next hne =>
    right
    have hlt := magnitude.isLt
    obtain ⟨hle, hnext⟩ := bitWidth_bounds hne
    dsimp only
    generalize bitWidth magnitude - 1 = exponent at hle hnext ⊢
    have hexponent : exponent ≤ 63 := by
      by_contra hbig
      have := Nat.pow_le_pow_right (n := 2) (by decide) (show 64 ≤ exponent by omega)
      omega
    have hexact := significand_exact hle hsignificant
    obtain ⟨hfrom, hto⟩ := significand_bounds hle hnext
    have hpos := Nat.two_pow_pos exponent
    refine ⟨exponent, _, by omega, hfrom, hto, ?_, ?_⟩
    · rw [hexact]
      unfold signedMagnitude
      cases negative with
      | false => rfl
      | true => rw [if_pos rfl, Int.natAbs_neg, Int.natAbs_natCast]
    · generalize magnitude.toNat * 2 ^ 52 / 2 ^ exponent = significand at *
      have hsign : (if signedMagnitude negative magnitude < 0 then 2 ^ 63 else 0) =
          if negative = true then 2 ^ 63 else 0 := by
        unfold signedMagnitude
        cases negative with
        | false => exact if_neg (by rw [if_neg Bool.false_ne_true]; omega)
        | true => exact if_pos (by rw [if_pos rfl]; omega)
      rw [hsign, BitVec.toNat_ofNat]
      apply Nat.mod_eq_of_lt
      cases negative with
      | false =>
        rw [if_neg Bool.false_ne_true]
        omega
      | true =>
        rw [if_pos rfl]
        omega

/-- The magnitude that the conversion makes a double of. -/
def roundedMagnitude (s : CpuState) (input : U64) : U64 :=
  if int64Magnitude input < 1#64 <<< 53 then int64Magnitude input
  else
    (roundMagnitude (mxcsrRoundingMode s) (input.slt 0#64) (int64Magnitude input)).roundedMagnitude

/-- The value and the exceptions of the conversion. -/
theorem convertInt64ToDouble_rounds (s : CpuState) (input : U64) :
    let negative := input.slt 0#64
    let rounded := signedMagnitude negative (roundedMagnitude s input)
    Significant 53 ((roundedMagnitude s input).toNat : Int) ∧
      Rounds (Significant 53) (EvenSignificand 53) (modeDirection (mxcsrRoundingMode s)) input.toInt
        rounded ∧
      (int64Magnitude input).toNat = input.toInt.natAbs ∧
      (¬int64Magnitude input < 1#64 <<< 53 →
        (roundMagnitude (mxcsrRoundingMode s) negative (int64Magnitude input)).NoOverflow
          (int64Magnitude input)) ∧
      IsDoubleOf (convertInt64ToDouble s input).1 rounded ∧
      (convertInt64ToDouble s input).2 &&& ~~~kSseExceptionPrecision = 0#32 ∧
      ((convertInt64ToDouble s input).2 = kSseExceptionPrecision ↔
        ¬Significant 53 input.toInt) := by
  obtain ⟨habs, hbound⟩ := int64Magnitude_toNat input
  have hsigned := int64_signed input
  have hlimit : (1#64 <<< 53).toNat = 2 ^ 53 := rfl
  have hsame : Significant 53 input.toInt ↔
      Significant 53 ((int64Magnitude input).toNat : Int) := by
    unfold Significant
    rw [habs]
    rfl
  unfold roundedMagnitude convertInt64ToDouble
  dsimp only
  -- Below `2 ^ 53` every integer is a double; above it the magnitude is rounded.
  by_cases hsmall : int64Magnitude input < 1#64 <<< 53
  · simp only [if_pos hsmall]
    have hexact : Significant 53 ((int64Magnitude input).toNat : Int) := by
      refine ⟨(int64Magnitude input).toNat, 0, ?_, ?_⟩
      · rw [BitVec.lt_def, hlimit] at hsmall
        exact hsmall
      · rw [Nat.pow_zero, Nat.mul_one, Int.natAbs_natCast]
    refine ⟨hexact, ?_, habs, fun h => absurd hsmall h, doubleOf_isDoubleOf hexact, rfl, ?_⟩
    · rw [← hsigned]
      exact rounds_self _ (hsame.mpr hexact)
    · refine iff_of_false (by decide) (not_not.mpr (hsame.mpr hexact))
  · simp only [if_neg hsmall]
    have hlow : 2 ^ 53 ≤ (int64Magnitude input).toNat := by
      rw [BitVec.lt_def, hlimit] at hsmall
      omega
    have hhigh : (int64Magnitude input).toNat ≤ 2 ^ 63 := by omega
    obtain ⟨hsignificant, hrounds, hexact⟩ :=
      roundMagnitude_rounds (mxcsrRoundingMode s) (input.slt 0#64) hlow hhigh
    refine ⟨hsignificant, ?_, habs, fun _ => roundMagnitude_noOverflow _ _ hlow hhigh,
      doubleOf_isDoubleOf hsignificant, ?_, ?_⟩
    · have hnumber := rounds_signed hrounds
      rwa [← hsigned] at hnumber
    · split
      next => decide
      next => rfl
    · rw [hsame, ← hexact]
      split
      next hne => exact iff_of_true rfl hne
      next heq => exact iff_of_false (by decide) heq

/-- **From 64-bit integers to doubles**: what `CVTSI2SD` packs into its
destination is the correctly rounded source. -/
theorem int64_to_double (s : CpuState) (input : U64) :
    let negative := input.slt 0#64
    let rounded := signedMagnitude negative (roundedMagnitude s input)
    Significant 53 ((roundedMagnitude s input).toNat : Int) ∧
      Rounds (Significant 53) (EvenSignificand 53) (modeDirection (mxcsrRoundingMode s)) input.toInt
        rounded ∧
      (int64Magnitude input).toNat = input.toInt.natAbs ∧
      (¬int64Magnitude input < 1#64 <<< 53 →
        (roundMagnitude (mxcsrRoundingMode s) negative (int64Magnitude input)).NoOverflow
          (int64Magnitude input)) ∧
      IsDoubleOf (convertInt64ToDouble s input).1 rounded ∧
      (convertInt64ToDouble s input).2 &&& ~~~kSseExceptionPrecision = 0#32 ∧
      ((convertInt64ToDouble s input).2 = kSseExceptionPrecision ↔
        ¬Significant 53 input.toInt) ∧
      ∀ F ctx, ConvertsInt64 F ctx s input → handleCvtsi2sdRm64 F ctx = F.reported ctx false
        (packDouble (F.readVec s (ctx.instr.opRegister 0)) (convertInt64ToDouble s input)) := by
  obtain ⟨hsignificant, hrounds, habs, hbounds, hdouble, hmask, hprecision⟩ :=
    convertInt64ToDouble_rounds s input
  exact ⟨hsignificant, hrounds, habs, hbounds, hdouble, hmask, hprecision,
    fun _ _ h => h.handler_eq⟩

/-- `CVTSI2SD XMM0, RAX` with `2 ^ 53 + 1` in RAX. -/
def tieContext : ExecutionContext :=
  { fullVectors .rax with
    state := (fullVectors .rax).state.setGpr 0 (BitVec.ofNat 64 (2 ^ 53 + 1)) }

/-- A tie goes to the even neighbour, and the exception is masked. -/
theorem int64_to_double_tie :
    handleCvtsi2sdRm64 vectorHost tieContext = .ok () (vectorHost.vectorWritten tieContext false
      (packDouble (vectorHost.readVec tieContext.state (.other 77))
        (0x4340000000000000#64, kSseExceptionPrecision))) := by
  obtain ⟨-, -, -, -, -, -, -, hhandler⟩ :=
    int64_to_double tieContext.state (BitVec.ofNat 64 (2 ^ 53 + 1))
  have hruns : ConvertsInt64 vectorHost tieContext tieContext.state (BitVec.ofNat 64 (2 ^ 53 + 1)) :=
    ⟨⟨rfl, by decide⟩, rfl, rfl⟩
  have hvalue : convertInt64ToDouble tieContext.state (BitVec.ofNat 64 (2 ^ 53 + 1)) =
      (0x4340000000000000#64, kSseExceptionPrecision) := by decide
  have hrun := hhandler vectorHost tieContext hruns
  rw [hvalue] at hrun
  exact hrun

/-- `2 ^ 53 + 1` is a tie, `2 ^ 63 - 1` carries into the next power of two. -/
example : ((convertInt64ToDouble {} (BitVec.ofNat 64 (2 ^ 53 + 1))).1,
    (convertInt64ToDouble {} (BitVec.ofNat 64 (2 ^ 63 - 1))).1) =
    (0x4340000000000000#64, 0x43E0000000000000#64) := by decide

end Seven
