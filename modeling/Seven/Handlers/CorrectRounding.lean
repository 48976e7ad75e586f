import Mathlib.Data.Set.Finite.Lemmas
import Seven.Cpu.Float80Value
import Seven.Handlers.FloatLanes
import Seven.Handlers.X87Image

/-!
# Correct rounding

What the integer store relies on softfloat for: arithmetic rounds to a nearest
scalar, comparisons and conversions are exact, NaNs and infinities go through.
Which of two nearest scalars, and what happens on overflow, is left open.

> `exactFloat_correctlyRounds`: calculating with rationals and rounding once is
> correct.
-/

namespace Seven

open Seven.Lib

/-! ## What softfloat is relied on for -/

/-- `y` is `r` rounded to nearest, if `r` does not overflow. -/
def RoundsTo (r : ℚ) (y : Float80) : Prop :=
  (∃ a b, Float80.Representable a ∧ Float80.Representable b ∧ a ≤ r ∧ r ≤ b) →
    y.IsFinite ∧ Nearest Float80.Representable r y.value

/-- The integer that a mode of `extF80_roundToInt` asks for. -/
def SoftRounding.integer (m : SoftRounding) (q : ℚ) : ℤ :=
  match m with
  | .min => ⌊q⌋
  | .max => ⌈q⌉
  | .minMag => if 0 ≤ q then ⌊q⌋ else ⌈q⌉

/-- Arithmetic is correctly rounded, comparisons and conversions are exact,
NaNs and infinities go through. -/
structure SoftFloat.CorrectlyRounds (F : SoftFloat) : Prop where
  eq : ∀ x y : Float80, F.extF80Eq x y = true ↔
    x.isnan = false ∧ y.isnan = false ∧ x.extended = y.extended
  lt : ∀ x y : Float80, F.extF80Lt x y = true ↔
    x.isnan = false ∧ y.isnan = false ∧ x.extended < y.extended
  add : ∀ x y : Float80, x.IsFinite → y.IsFinite →
    RoundsTo (x.value + y.value) (F.extF80Add x y)
  sub : ∀ x y : Float80, x.IsFinite → y.IsFinite →
    RoundsTo (x.value - y.value) (F.extF80Sub x y)
  mul : ∀ x y : Float80, x.IsFinite → y.IsFinite →
    RoundsTo (x.value * y.value) (F.extF80Mul x y)
  div : ∀ x y : Float80, x.IsFinite → y.IsFinite → y.value ≠ 0 →
    RoundsTo (x.value / y.value) (F.extF80Div x y)
  add_nan : ∀ x y : Float80, x.isnan = true ∨ y.isnan = true → (F.extF80Add x y).isnan = true
  sub_nan : ∀ x y : Float80, x.isnan = true ∨ y.isnan = true → (F.extF80Sub x y).isnan = true
  add_infinity : ∀ x y : Float80, x.isinf = true → y.IsFinite → F.extF80Add x y = x
  sub_infinity : ∀ x : Float80, x.isinf = true → (F.extF80Sub x x).isnan = true
  roundToInt : ∀ (x : Float80) m, x.IsFinite →
    (F.extF80RoundToInt x m).IsFinite ∧ (F.extF80RoundToInt x m).value = m.integer x.value
  roundToInt_nan : ∀ (x : Float80) m, x.isnan = true → (F.extF80RoundToInt x m).isnan = true
  roundToInt_infinity : ∀ (x : Float80) m, x.isinf = true → F.extF80RoundToInt x m = x
  ofInt : ∀ i, (F.i32ToExtF80 i).IsFinite ∧ (F.i32ToExtF80 i).value = i.toInt
  ofInt64 : ∀ i, (F.i64ToExtF80 i).IsFinite ∧ (F.i64ToExtF80 i).value = i.toInt
  ofDouble : ∀ d, FloatSize.double.isnan d = false → FloatSize.double.isinf d = false →
    (F.f64ToExtF80 d).IsFinite ∧
      (F.f64ToExtF80 d).value = FloatSize.double.units d / ((2 ^ 1074 : Nat) : ℚ)
  toInt64 : ∀ (x : Float80) (k : ℤ), x.IsFinite → x.value = k → -2 ^ 63 ≤ k → k < 2 ^ 63 →
    F.extF80ToI64 x = BitVec.ofInt 64 k

/-- A representable number is not rounded. -/
theorem RoundsTo.exact {r : ℚ} {y : Float80} (h : RoundsTo r y) (hr : Float80.Representable r) :
    y.IsFinite ∧ y.value = r := by
  obtain ⟨hfinite, hnear⟩ := h ⟨r, r, hr, hr, le_rfl, le_rfl⟩
  exact ⟨hfinite, hnear.exact hr⟩

section

variable {F : SoftFloat} (hF : F.CorrectlyRounds)

include hF

/-- Equality of finite numbers. -/
theorem extF80Eq_finite {x y : Float80} (hx : x.IsFinite) (hy : y.IsFinite) :
    F.extF80Eq x y = true ↔ x.value = y.value := by
  rw [hF.eq, Float80.extended_finite hx, Float80.extended_finite hy]
  constructor
  · exact fun h => WithTop.coe_injective (WithBot.coe_injective h.2.2)
  · exact fun h => ⟨hx.1, hy.1, by rw [h]⟩

/-- Order of finite numbers. -/
theorem extF80Lt_finite {x y : Float80} (hx : x.IsFinite) (hy : y.IsFinite) :
    F.extF80Lt x y = true ↔ x.value < y.value := by
  rw [hF.lt, Float80.extended_finite hx, Float80.extended_finite hy, WithBot.coe_lt_coe,
    WithTop.coe_lt_coe]
  exact ⟨fun h => h.2.2, fun h => ⟨hx.1, hy.1, h⟩⟩

/-- A NaN is neither equal nor below. -/
theorem extF80_nan {x y : Float80} (h : x.isnan = true ∨ y.isnan = true) :
    F.extF80Eq x y = false ∧ F.extF80Lt x y = false := by
  constructor
  · rw [← Bool.not_eq_true, hF.eq]
    rintro ⟨hx, hy, _⟩
    rcases h with h | h
    · exact Bool.noConfusion (h.symm.trans hx)
    · exact Bool.noConfusion (h.symm.trans hy)
  · rw [← Bool.not_eq_true, hF.lt]
    rintro ⟨hx, hy, _⟩
    rcases h with h | h
    · exact Bool.noConfusion (h.symm.trans hx)
    · exact Bool.noConfusion (h.symm.trans hy)

/-- The constants of the code. -/
theorem soft_constants :
    (F.zero.IsFinite ∧ F.zero.value = 0) ∧ ((F.ofInt 1#32).IsFinite ∧ (F.ofInt 1#32).value = 1) ∧
      ((F.ofInt 2#32).IsFinite ∧ (F.ofInt 2#32).value = 2) ∧
      (F.ofDouble 0x3FE0000000000000#64).IsFinite ∧
      (F.ofDouble 0x3FE0000000000000#64).value = 1 / 2 := by
  have hzero := hF.ofInt 0#32
  have hone := hF.ofInt 1#32
  have htwo := hF.ofInt 2#32
  have hhalf := hF.ofDouble 0x3FE0000000000000#64 (by decide +kernel) (by decide +kernel)
  have hunits : FloatSize.double.units 0x3FE0000000000000#64 * 2 = ((2 ^ 1074 : Nat) : Int) := by
    decide +kernel
  have hcast := congrArg (Int.cast : ℤ → ℚ) hunits
  have hcastTwo : ((2 : ℤ) : ℚ) = 2 := Int.cast_ofNat 2
  rw [Int.cast_mul, Int.cast_natCast, hcastTwo] at hcast
  have hne : ((2 ^ 1074 : Nat) : ℚ) ≠ 0 := Nat.cast_ne_zero.mpr (pow_ne_zero 1074 two_ne_zero)
  refine ⟨⟨hzero.1, hzero.2.trans ?_⟩, ⟨hone.1, hone.2.trans ?_⟩, ⟨htwo.1, htwo.2.trans ?_⟩,
    hhalf.1, hhalf.2.trans ?_⟩
  · exact_mod_cast (by decide : (0#32).toInt = 0)
  · exact_mod_cast (by decide : (1#32).toInt = 1)
  · exact_mod_cast (by decide : (2#32).toInt = 2)
  · rw [← hcast, div_eq_div_iff (by rwa [hcast]) two_ne_zero, one_mul]

/-- Zero is the value zero. -/
theorem isZero_finite {x : Float80} (hx : x.IsFinite) : F.isZero x = true ↔ x.value = 0 := by
  obtain ⟨⟨hzero, hvalue⟩, _⟩ := soft_constants hF
  unfold SoftFloat.isZero
  rw [extF80Eq_finite hF hx hzero, hvalue]

end

/-! ## Calculating with rationals -/

/-- There are finitely many scalars, so one of them is nearest. -/
theorem exists_nearest (r : ℚ) :
    ∃ y : Float80, y.IsFinite ∧ Nearest Float80.Representable r y.value := by
  have hfinite : Finite Float80 := Finite.of_injective BitVec.toFin fun _ _ => BitVec.eq_of_toFin_eq
  have hsome : {y : Float80 | y.IsFinite}.Nonempty := ⟨0#80, by decide, by decide⟩
  obtain ⟨y, hy, hmin⟩ := Set.exists_min_image {y : Float80 | y.IsFinite} (fun y => |r - y.value|)
    (Set.toFinite _) hsome
  refine ⟨y, hy, ⟨y, hy, rfl⟩, ?_⟩
  rintro z ⟨x, hx, rfl⟩
  exact hmin x hx

/-- A number nearest to `r`. -/
noncomputable def nearestScalar (r : ℚ) : Float80 := (exists_nearest r).choose

/-- It rounds `r`. -/
theorem nearestScalar_rounds (r : ℚ) : RoundsTo r (nearestScalar r) :=
  fun _ => (exists_nearest r).choose_spec

/-- It is `r` where `r` is representable. -/
theorem nearestScalar_exact {r : ℚ} (hr : Float80.Representable r) :
    (nearestScalar r).IsFinite ∧ (nearestScalar r).value = r :=
  (nearestScalar_rounds r).exact hr

/-- A rounded integer of a scalar is representable. -/
theorem representable_roundToInt (m : SoftRounding) {x : Float80} (hx : x.IsFinite) :
    Float80.Representable (m.integer x.value) := by
  -- An integer rounds to itself; any other value lies between two neighbours that fit 64 bits.
  by_cases hint : IsInteger x.value
  · obtain ⟨k, hk⟩ := hint
    have hself : m.integer x.value = k := by
      rw [← hk]
      cases m with
      | min => exact Int.floor_intCast k
      | max => exact Int.ceil_intCast k
      | minMag =>
        unfold SoftRounding.integer
        dsimp only
        rw [Int.floor_intCast, Int.ceil_intCast, ite_self]
    rw [hself, hk]
    exact ⟨x, hx, rfl⟩
  · obtain ⟨hlow, hhigh⟩ := Float80.floor_bounds hint
    have hceil : ⌈x.value⌉ ≤ ⌊x.value⌋ + 1 := Int.ceil_le_floor_add_one x.value
    have hfloor : ⌊x.value⌋ ≤ ⌈x.value⌉ := Int.floor_le_ceil x.value
    apply Float80.representable_int
    unfold SoftRounding.integer
    cases m with
    | min => dsimp only; omega
    | max => dsimp only; omega
    | minMag =>
      dsimp only
      split <;> omega

/-- The size of a finite double: 53 bits at a place. -/
theorem double_magnitude {d : BitVec 64} (hnan : FloatSize.double.isnan d = false)
    (hinf : FloatSize.double.isinf d = false) :
    ∃ m k, m < 2 ^ 64 ∧ k ≤ 2045 ∧ (FloatSize.double.units d = ((m * 2 ^ k : Nat) : Int) ∨
      FloatSize.double.units d = -((m * 2 ^ k : Nat) : Int)) := by
  have hfields : FloatSize.double.fields d < 2047 * 2 ^ 52 := by
    have hle := of_decide_eq_false hnan
    have hne := of_decide_eq_false hinf
    have hinfinity : FloatSize.double.infinity = 2047 * 2 ^ 52 := by decide +kernel
    omega
  have hbits : FloatSize.double.fractionBits = 52 := rfl
  unfold FloatSize.units
  dsimp only
  rw [hbits]
  generalize FloatSize.double.fields d = f at hfields
  have hfraction := Nat.mod_lt f (Nat.two_pow_pos 52)
  obtain ⟨m, k, hm, hk, hmagnitude⟩ : ∃ m k, m < 2 ^ 64 ∧ k ≤ 2045 ∧
      (if f / 2 ^ 52 = 0 then f % 2 ^ 52
        else (2 ^ 52 + f % 2 ^ 52) * 2 ^ (f / 2 ^ 52 - 1)) = m * 2 ^ k := by
    -- A subnormal has exponent zero; a normal number has the hidden bit in front of its fraction.
    split
    · exact ⟨f % 2 ^ 52, 0, by omega, by omega, by rw [Nat.pow_zero, Nat.mul_one]⟩
    · exact ⟨2 ^ 52 + f % 2 ^ 52, f / 2 ^ 52 - 1, by omega, by omega, rfl⟩
  refine ⟨m, k, hm, hk, ?_⟩
  rw [hmagnitude]
  split
  · exact Or.inr rfl
  · exact Or.inl rfl

/-- Every finite double is a scalar. -/
theorem representable_double {d : BitVec 64} (hnan : FloatSize.double.isnan d = false)
    (hinf : FloatSize.double.isinf d = false) :
    Float80.Representable (FloatSize.double.units d / ((2 ^ 1074 : Nat) : ℚ)) := by
  obtain ⟨m, k, hm, hk, hunits⟩ := double_magnitude hnan hinf
  have h := Float80.representable_scaled hm (by omega : 1074 ≤ 16445) (by omega : k + 16445 < _)
  rcases hunits with hunits | hunits
  · rw [hunits, Int.cast_natCast]
    exact h
  · rw [hunits, Int.cast_neg, Int.cast_natCast, neg_div]
    exact h.neg

/-- An operation on two finite scalars; a NaN or else an infinity goes
through. -/
noncomputable def exactBinary (f : ℚ → ℚ → ℚ) (x y : Float80) : Float80 :=
  if x.isnan || y.isnan then Float80.quietNaN
  else if x.isinf then x
  else if y.isinf then y
  else nearestScalar (f x.value y.value)

open Classical in
/-- Exact calculation, rounded once. -/
noncomputable def exactFloat : SoftFloat :=
  { bitwiseFloat with
    extF80Eq := fun x y => decide (x.isnan = false ∧ y.isnan = false ∧ x.extended = y.extended)
    extF80Lt := fun x y => decide (x.isnan = false ∧ y.isnan = false ∧ x.extended < y.extended)
    extF80Add := exactBinary (· + ·)
    extF80Sub := fun x y =>
      if x.isinf && y.isinf then Float80.quietNaN else exactBinary (· - ·) x y
    extF80Mul := exactBinary (· * ·)
    extF80Div := exactBinary (· / ·)
    extF80RoundToInt := fun x m =>
      if x.isnan || x.isinf then x else nearestScalar (m.integer x.value)
    i32ToExtF80 := fun i => nearestScalar i.toInt
    i64ToExtF80 := fun i => nearestScalar i.toInt
    f64ToExtF80 := fun d => nearestScalar (FloatSize.double.units d / ((2 ^ 1074 : Nat) : ℚ))
    extF80ToI64 := fun x => BitVec.ofInt 64 ⌊x.value⌋ }

/-- The exact operation, rounded. -/
theorem exactBinary_rounds (f : ℚ → ℚ → ℚ) {x y : Float80} (hx : x.IsFinite) (hy : y.IsFinite) :
    RoundsTo (f x.value y.value) (exactBinary f x y) := by
  have hrun : exactBinary f x y = nearestScalar (f x.value y.value) := by
    unfold exactBinary
    rw [hx.1, hx.2, hy.1, hy.2]
    rfl
  rw [hrun]
  exact nearestScalar_rounds _

/-- A NaN goes through. -/
theorem exactBinary_nan (f : ℚ → ℚ → ℚ) {x y : Float80} (h : x.isnan = true ∨ y.isnan = true) :
    (exactBinary f x y).isnan = true := by
  unfold exactBinary
  rw [if_pos (Bool.or_eq_true_iff.mpr h)]
  decide

/-- The exact library rounds correctly. -/
theorem exactFloat_correctlyRounds : exactFloat.CorrectlyRounds where
  eq x y := decide_eq_true_iff
  lt x y := decide_eq_true_iff
  add x y hx hy := exactBinary_rounds (· + ·) hx hy
  sub x y hx hy := by
    show RoundsTo _ (if x.isinf && y.isinf then _ else _)
    rw [hx.2]
    exact exactBinary_rounds (· - ·) hx hy
  mul x y hx hy := exactBinary_rounds (· * ·) hx hy
  div x y hx hy _ := exactBinary_rounds (· / ·) hx hy
  add_nan x y h := exactBinary_nan _ h
  sub_nan x y h := by
    show (if x.isinf && y.isinf then Float80.quietNaN else exactBinary _ x y).isnan = true
    split
    · decide
    · exact exactBinary_nan _ h
  add_infinity x y hx hy := by
    have hnan : x.isnan = false := Float80.isnan_of_isinf hx
    show exactBinary _ x y = x
    unfold exactBinary
    rw [hnan, hy.1, hx]
    rfl
  sub_infinity x hx := by
    have hnan : Float80.quietNaN.isnan = true := by decide
    show (if x.isinf && x.isinf then Float80.quietNaN else _).isnan = true
    rw [hx]
    exact hnan
  roundToInt x m hx := by
    show Float80.IsFinite (if x.isnan || x.isinf then x else _) ∧
      Float80.value (if x.isnan || x.isinf then x else _) = _
    rw [hx.1, hx.2]
    exact nearestScalar_exact (representable_roundToInt m hx)
  roundToInt_nan x m hx := by
    show Float80.isnan (if x.isnan || x.isinf then x else _) = true
    rw [hx]
    exact hx
  roundToInt_infinity x m hx := by
    show (if x.isnan || x.isinf then x else _) = x
    rw [hx, Bool.or_true, if_pos rfl]
  ofInt i := nearestScalar_exact (Float80.representable_int (by
    have hlow := i.le_toInt
    have hhigh := i.toInt_lt
    omega))
  ofInt64 i := nearestScalar_exact (Float80.representable_int (by
    have hlow := i.le_toInt
    have hhigh := i.toInt_lt
    omega))
  ofDouble d hnan hinf := nearestScalar_exact (representable_double hnan hinf)
  toInt64 x k hx hvalue _ _ := by
    show BitVec.ofInt 64 ⌊x.value⌋ = _
    rw [hvalue, Int.floor_intCast]

end Seven
