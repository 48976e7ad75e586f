import Mathlib.Data.Rat.Floor
import Mathlib.Order.WithBot
import Seven.Cpu.Float80
import Seven.Lib.IntegerRounding

/-!
# The value of an x87 scalar

A finite scalar stands for a dyadic rational: its significand, scaled by its
exponent, in units of the smallest one. Every encoding counts, the ones with
a clear top bit too. The values of all finite scalars are the representable
rationals.

> `Float80.fraction_representable`: what is above the floor of a value is
> representable, except close below zero.
-/

namespace Seven

open Seven.Lib

/-- A number without the sign it was given. -/
theorem abs_signed (negative : Bool) {z : ℚ} (hz : 0 ≤ z) :
    |if negative = true then -z else z| = z := by
  cases negative with
  | true => rw [if_pos rfl, abs_neg, abs_of_nonneg hz]
  | false => rw [if_neg Bool.false_ne_true, abs_of_nonneg hz]

namespace Float80

/-! ## Values -/

/-- The biased exponent. -/
def exponent (x : Float80) : Nat := (x.signExp &&& 0x7FFF#16).toNat

/-- Neither a NaN nor an infinity. -/
def IsFinite (x : Float80) : Prop := x.isnan = false ∧ x.isinf = false

/-- The units of the smallest scalar in one. -/
@[irreducible] def unitsPerOne : Nat := 2 ^ 16445

/-- The unit is a power of two, spelled so that nothing evaluates it. -/
theorem unitsPerOne_eq : ∃ n, unitsPerOne = 2 ^ n ∧ n = 16445 := by
  unfold unitsPerOne
  exact ⟨16445, rfl, rfl⟩

/-- The unit is not zero, as a number of units. -/
theorem unitsPerOne_pos : 0 < unitsPerOne := by
  obtain ⟨n, hpow, _⟩ := unitsPerOne_eq
  rw [hpow]
  exact Nat.two_pow_pos n

/-- The unit is not zero, as a rational. -/
theorem unitsPerOne_ne_zero : (unitsPerOne : ℚ) ≠ 0 := Nat.cast_ne_zero.mpr unitsPerOne_pos.ne'

/-- The significand at its place; exponents 0 and 1 have the same. -/
def magnitude (x : Float80) : Nat := x.signif.toNat * 2 ^ (x.exponent - 1)

/-- The number in units, with its sign. -/
def units (x : Float80) : Int := if x.signbit then -x.magnitude else x.magnitude

/-- The number itself. -/
def value (x : Float80) : ℚ := x.units / unitsPerOne

/-- The number line with its ends: what comparisons compare. -/
def extended (x : Float80) : WithBot (WithTop ℚ) :=
  if x.isinf then (if x.signbit then ⊥ else ((⊤ : WithTop ℚ) : WithBot (WithTop ℚ)))
  else ((x.value : WithTop ℚ) : WithBot (WithTop ℚ))

/-- Some finite number has this value. -/
def Representable (z : ℚ) : Prop := ∃ x : Float80, x.IsFinite ∧ x.value = z

/-- A finite number in the line with both infinities. -/
theorem extended_finite {x : Float80} (h : x.IsFinite) :
    x.extended = ((x.value : WithTop ℚ) : WithBot (WithTop ℚ)) := by
  unfold extended
  rw [h.2, if_neg Bool.false_ne_true]

/-- Finite is an exponent that is not all ones. -/
theorem isFinite_iff (x : Float80) : x.IsFinite ↔ x.exponent ≠ 0x7FFF := by
  have hexp : x.exponent = 0x7FFF ↔ x.signExp &&& 0x7FFF#16 = 0x7FFF#16 := by
    unfold exponent
    rw [← BitVec.toNat_inj]
    rfl
  unfold IsFinite isnan isinf
  rw [Ne, hexp]
  by_cases hall : x.signExp &&& 0x7FFF#16 = 0x7FFF#16
  · rw [hall]
    by_cases hinf : x.signif = 0x8000000000000000#64
    · simp [hinf]
    · simp [hinf]
  · simp [hall]

/-- Infinity is no NaN. -/
theorem isnan_of_isinf {x : Float80} (h : x.isinf = true) : x.isnan = false := by
  unfold isinf at h
  obtain ⟨_, hsignif⟩ := Bool.and_eq_true_iff.mp h
  unfold isnan
  rw [bne, hsignif, Bool.not_true, Bool.and_false]

/-! ## Sign and size -/

/-- Minus leaves the exponent. -/
theorem exponent_of_neg (x : Float80) : x.neg.exponent = x.exponent := by
  unfold exponent
  rw [exponent_neg]

/-- Minus of a finite number is finite. -/
theorem isFinite_neg {x : Float80} (h : x.IsFinite) : x.neg.IsFinite := by
  rw [isFinite_iff] at h ⊢
  rwa [exponent_of_neg]

/-- The sign is bit 15 of the high half. -/
theorem signbit_eq (x : Float80) : x.signbit = x.signExp.getLsbD 15 := by
  have hpow : 0x8000#16 = BitVec.twoPow 16 15 := by decide
  unfold signbit
  rw [hpow, BitVec.and_twoPow]
  cases x.signExp.getLsbD 15 <;> decide

/-- Minus turns the sign. -/
theorem signbit_neg (x : Float80) : x.neg.signbit = !x.signbit := by
  rw [signbit_eq, signbit_eq, signExp_neg, BitVec.getLsbD_xor]
  have hbit : (0x8000#16).getLsbD 15 = true := by decide
  rw [hbit, Bool.xor_true]

/-- Minus leaves the magnitude. -/
theorem magnitude_neg (x : Float80) : x.neg.magnitude = x.magnitude := by
  unfold magnitude
  rw [exponent_of_neg, signif_neg]

/-- The value by its sign. -/
theorem value_eq (x : Float80) :
    x.value = if x.signbit = true then -((x.magnitude : ℚ) / unitsPerOne)
      else (x.magnitude : ℚ) / unitsPerOne := by
  unfold value units
  cases x.signbit with
  | true =>
    rw [if_pos rfl, if_pos rfl]
    push_cast
    exact neg_div _ _
  | false =>
    rw [if_neg Bool.false_ne_true, if_neg Bool.false_ne_true]
    rfl

/-- The value of minus. -/
theorem value_neg (x : Float80) : x.neg.value = -x.value := by
  rw [value_eq, value_eq, signbit_neg, magnitude_neg]
  cases x.signbit <;> simp

/-- The absolute value in its parts. -/
theorem abs_parts (x : Float80) : x.abs.exponent = x.exponent ∧ x.abs.signif = x.signif ∧
    x.abs.signbit = false := by
  have htwice : x.signExp &&& 0x7FFF#16 &&& 0x7FFF#16 = x.signExp &&& 0x7FFF#16 := by
    rw [BitVec.and_assoc, BitVec.and_self]
  have hbit : (0x7FFF#16).getLsbD 15 = false := by decide
  unfold exponent
  rw [signbit_eq]
  unfold abs
  rw [signExp_make, signif_make, htwice, BitVec.getLsbD_and, hbit, Bool.and_false]
  exact ⟨rfl, rfl, rfl⟩

/-- The absolute value of a finite number is finite. -/
theorem isFinite_abs {x : Float80} (h : x.IsFinite) : x.abs.IsFinite := by
  rw [isFinite_iff] at h ⊢
  rwa [x.abs_parts.1]

/-- The value of the absolute value. -/
theorem value_abs (x : Float80) : x.abs.value = |x.value| := by
  obtain ⟨hexp, hsig, hsign⟩ := x.abs_parts
  have habs : x.abs.magnitude = x.magnitude := by
    unfold magnitude
    rw [hexp, hsig]
  rw [value_eq, value_eq, hsign, habs, if_neg Bool.false_ne_true,
    abs_signed _ (div_nonneg (Nat.cast_nonneg _) (Nat.cast_nonneg _))]

/-- The absolute value of infinity is infinity. -/
theorem isinf_abs (x : Float80) : x.abs.isinf = x.isinf := by
  have htwice : x.signExp &&& 0x7FFF#16 &&& 0x7FFF#16 = x.signExp &&& 0x7FFF#16 := by
    rw [BitVec.and_assoc, BitVec.and_self]
  unfold isinf abs
  rw [signExp_make, signif_make, htwice]

/-! ## Which rationals are representable -/

/-- The representable numbers are closed under minus. -/
theorem Representable.neg {z : ℚ} (h : Representable z) : Representable (-z) := by
  obtain ⟨x, hx, rfl⟩ := h
  exact ⟨x.neg, isFinite_neg hx, x.value_neg⟩

/-- A significand of 64 bits at any place. -/
theorem representable_mul {m e : Nat} (hm : m < 2 ^ 64) (he : e < 0x7FFE) :
    Representable (((m * 2 ^ e : Nat) : ℚ) / unitsPerOne) := by
  let x := make (BitVec.ofNat 16 (e + 1)) (BitVec.ofNat 64 m)
  have hsignExp : x.signExp = BitVec.ofNat 16 (e + 1) := signExp_make _ _
  have hsignif : x.signif.toNat = m := by
    show (make _ _).signif.toNat = m
    rw [signif_make, BitVec.toNat_ofNat, Nat.mod_eq_of_lt hm]
  have hexponent : x.exponent = e + 1 := by
    have hmask : (0x7FFF : Nat) = 2 ^ 15 - 1 := rfl
    unfold exponent
    rw [hsignExp, BitVec.toNat_and, BitVec.toNat_ofNat, Nat.mod_eq_of_lt (by omega)]
    show (e + 1) &&& 0x7FFF = e + 1
    rw [hmask, Nat.and_two_pow_sub_one_eq_mod, Nat.mod_eq_of_lt (by omega)]
  have hsign : x.signbit = false := by
    rw [signbit_eq, hsignExp, BitVec.getLsbD_ofNat, Nat.testBit_lt_two_pow (by omega),
      Bool.and_false]
  refine ⟨x, (isFinite_iff x).mpr (by omega), ?_⟩
  unfold value units magnitude
  rw [hsign, hsignif, hexponent, if_neg Bool.false_ne_true, Nat.add_sub_cancel]
  push_cast
  rfl

/-- The same at a place relative to one. -/
theorem representable_scaled {m k d : Nat} (hm : m < 2 ^ 64) (hd : d ≤ 16445)
    (hk : k + 16445 < 0x7FFE + d) :
    Representable (((m * 2 ^ k : Nat) : ℚ) / ((2 ^ d : Nat) : ℚ)) := by
  obtain ⟨e, hpow, he⟩ := unitsPerOne_eq
  obtain ⟨j, rfl⟩ : ∃ j, e = d + j := ⟨e - d, by omega⟩
  have h := representable_mul hm (by omega : k + j < 0x7FFE)
  have hne : ((2 ^ j : Nat) : ℚ) ≠ 0 := Nat.cast_ne_zero.mpr (Nat.two_pow_pos _).ne'
  rwa [hpow, Nat.pow_add, Nat.pow_add, ← Nat.mul_assoc, Nat.cast_mul, Nat.cast_mul (2 ^ d),
    mul_div_mul_right _ _ hne] at h

/-- A significand over a power of two. -/
theorem representable_div {m d : Nat} (hm : m < 2 ^ 64) (hd : d ≤ 16445) :
    Representable ((m : ℚ) / ((2 ^ d : Nat) : ℚ)) := by
  have h := representable_scaled (k := 0) hm hd (by omega)
  rwa [Nat.pow_zero, Nat.mul_one] at h

/-- Naturals of 64 bits. -/
theorem representable_nat {n : Nat} (hn : n < 2 ^ 64) : Representable (n : ℚ) := by
  have h := representable_div hn (Nat.zero_le 16445)
  rwa [Nat.pow_zero, Nat.cast_one, div_one] at h

/-- Halves of naturals of 64 bits. -/
theorem representable_half {n : Nat} (hn : n < 2 ^ 64) : Representable ((n : ℚ) / 2) :=
  representable_div hn (by decide : 1 ≤ 16445)

/-- Integers of 64 bits and a sign. -/
theorem representable_int {k : Int} (hk : k.natAbs < 2 ^ 64) : Representable (k : ℚ) := by
  have h := representable_nat hk
  rcases Int.natAbs_eq k with heq | heq
  · have hcast := congrArg (Int.cast : ℤ → ℚ) heq
    rw [Int.cast_natCast] at hcast
    rw [hcast]
    exact h
  · have hcast := congrArg (Int.cast : ℤ → ℚ) heq
    rw [Int.cast_neg, Int.cast_natCast] at hcast
    rw [hcast]
    exact h.neg

/-- The signed significand. -/
def significand (x : Float80) : Int := if x.signbit then -x.signif.toNat else x.signif.toNat

/-- A significand has 64 bits. -/
theorem significand_lt (x : Float80) : x.significand.natAbs < 2 ^ 64 := by
  have hlt := x.signif.isLt
  unfold significand
  split <;> omega

/-- The units are the significand shifted by the exponent. -/
theorem units_eq (x : Float80) : x.units = x.significand * ((2 ^ (x.exponent - 1) : Nat) : Int) := by
  unfold units significand magnitude
  split
  next => rw [Nat.cast_mul, Int.neg_mul]
  next => rw [Nat.cast_mul]

/-- A value that is no integer has its significand behind the point. -/
theorem value_of_fraction {x : Float80} (h : ¬IsInteger x.value) :
    ∃ d, 0 < d ∧ d ≤ 16445 ∧ x.value = x.significand / ((2 ^ d : Nat) : ℚ) := by
  obtain ⟨e, hpow, he⟩ := unitsPerOne_eq
  have hne (k : Nat) : ((2 ^ k : Nat) : ℚ) ≠ 0 := Nat.cast_ne_zero.mpr (Nat.two_pow_pos _).ne'
  unfold value at h ⊢
  rw [units_eq, hpow, Int.cast_mul, Int.cast_natCast] at h ⊢
  by_cases hlarge : e ≤ x.exponent - 1
  · obtain ⟨k, hk⟩ : ∃ k, x.exponent - 1 = k + e := ⟨x.exponent - 1 - e, by omega⟩
    refine absurd ⟨x.significand * ((2 ^ k : Nat) : Int), ?_⟩ h
    rw [hk, Nat.pow_add, Nat.cast_mul, ← mul_assoc, mul_div_assoc, div_self (hne e), mul_one,
      Int.cast_mul, Int.cast_natCast]
  · obtain ⟨d, hd⟩ : ∃ d, e = d + (x.exponent - 1) := ⟨e - (x.exponent - 1), by omega⟩
    refine ⟨d, by omega, by omega, ?_⟩
    rw [hd, Nat.pow_add, Nat.cast_mul, mul_div_mul_right _ _ (hne _)]

/-- **Above the floor**: the rest is representable, or close to one and above
minus one. -/
theorem fraction_representable {x : Float80} (h : ¬IsInteger x.value) :
    Representable (x.value - ⌊x.value⌋) ∨ (⌊x.value⌋ = -1 ∧ 1 < 2 * (x.value - ⌊x.value⌋)) := by
  obtain ⟨d, hpos, hd, hvalue⟩ := value_of_fraction h
  have hlt := x.significand_lt
  have hpow := Nat.two_pow_pos d
  have hne : ((2 ^ d : Nat) : ℚ) ≠ 0 := Nat.cast_ne_zero.mpr hpow.ne'
  -- The floor of a quotient by `2 ^ d` is the integer quotient, and the fraction its remainder.
  have hfloor : ⌊x.value⌋ = x.significand / ((2 ^ d : Nat) : Int) := by
    rw [hvalue]
    exact Rat.floor_intCast_div_natCast _ _
  have hrest : x.value - ⌊x.value⌋ =
      ((x.significand % ((2 ^ d : Nat) : Int) : Int) : ℚ) / ((2 ^ d : Nat) : ℚ) := by
    rw [hfloor, Int.emod_def, hvalue, Int.cast_sub, Int.cast_mul, Int.cast_natCast, sub_div,
      mul_div_cancel_left₀ _ hne]
  have hmod := Int.emod_nonneg x.significand (by omega : ((2 ^ d : Nat) : Int) ≠ 0)
  have hmod' := Int.emod_lt_of_pos x.significand (by omega : (0 : Int) < ((2 ^ d : Nat) : Int))
  obtain ⟨m, hm⟩ := Int.eq_ofNat_of_zero_le hmod
  rw [hrest]
  by_cases hsmall : m < 2 ^ 64
  · left
    rw [hm, Int.cast_natCast]
    exact representable_div hsmall hd
  · -- only a significand below zero leaves that much
    right
    have hwide : 2 ^ 65 ≤ 2 ^ d := by
      have hover : 2 ^ 64 < 2 ^ d := by omega
      exact Nat.pow_le_pow_right (by decide) ((Nat.pow_lt_pow_iff_right (by decide)).mp hover)
    have hneg : x.significand < 0 := by
      by_contra hnonneg
      rw [Int.emod_eq_of_lt (by omega) (by omega)] at hm
      omega
    have hdiv : x.significand / ((2 ^ d : Nat) : Int) = -1 := by
      rw [Int.ediv_eq_iff_of_pos (by omega)]
      constructor <;> omega
    refine ⟨by rw [hfloor, hdiv], ?_⟩
    have hrem : x.significand % ((2 ^ d : Nat) : Int) = x.significand + ((2 ^ d : Nat) : Int) := by
      rw [Int.emod_def, hdiv]
      omega
    have hcast : (0 : ℚ) < ((2 ^ d : Nat) : ℚ) := Nat.cast_pos.mpr hpow
    have hint : ((2 ^ d : Nat) : Int) < 2 * (x.significand + ((2 ^ d : Nat) : Int)) := by omega
    have hrat : ((2 ^ d : Nat) : ℚ) < 2 * ((x.significand + ((2 ^ d : Nat) : Int) : Int) : ℚ) := by
      exact_mod_cast hint
    rw [hrem, ← mul_div_assoc, lt_div_iff₀ hcast, one_mul]
    exact hrat

/-- A value that is no integer is not large. -/
theorem floor_bounds {x : Float80} (h : ¬IsInteger x.value) :
    -2 ^ 63 ≤ ⌊x.value⌋ ∧ ⌊x.value⌋ < 2 ^ 63 := by
  obtain ⟨d, hpos, hd, hvalue⟩ := value_of_fraction h
  have hlt := x.significand_lt
  have htwo : 2 ≤ 2 ^ d := Nat.le_self_pow (by omega) 2
  rw [hvalue, Rat.floor_intCast_div_natCast]
  generalize 2 ^ d = p at htwo
  constructor
  · rw [Int.le_ediv_iff_mul_le (by omega)]
    omega
  · rw [Int.ediv_lt_iff_lt_mul (by omega)]
    omega

end Float80

end Seven
