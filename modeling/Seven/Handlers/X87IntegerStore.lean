import Seven.Handlers.CorrectRounding
import Seven.Handlers.X87Compare

/-!
# Storing an integer from the x87

`FIST`, `FISTP` and `FISTTP` round ST(0) to an integer and store it, or the
integer indefinite value when it does not fit. The rounding is done in 80-bit
arithmetic: to the nearest even by floor, a subtraction, two comparisons and
a remainder. It is right for every finite value, also where the subtraction
is not exact (`x87RoundToControl_rounds`). The flags are not always: the
precision exception is raised by comparing the rounded value with the value,
before the range is looked at.

> `integer_store_iff`: the store is as specified unless the value is a NaN or
> a fraction whose integer does not fit, and PE is not set already.
-/

namespace Seven

open Seven.Lib

/-! ## The stores -/

/-- The integer stores. -/
inductive IntegerStore where
  | fistM16int | fistM32int | fistM64int
  | fistpM16int | fistpM32int | fistpM64int
  | fisttpM16int | fisttpM32int | fisttpM64int

/-- RC, the rounding control. -/
def roundingControl (s : CpuState) : RoundingMode :=
  let mode := (s.x87ControlWord >>> 10) &&& 0x3#16
  if mode = 0#16 then .nearestEven
  else if mode = 1#16 then .down
  else if mode = 2#16 then .up
  else .towardZero

namespace IntegerStore

/-- The instruction. -/
def transfer : IntegerStore → X87Transfer
  | fistM16int => .fistM16int
  | fistM32int => .fistM32int
  | fistM64int => .fistM64int
  | fistpM16int => .fistpM16int
  | fistpM32int => .fistpM32int
  | fistpM64int => .fistpM64int
  | fisttpM16int => .fisttpM16int
  | fisttpM32int => .fisttpM32int
  | fisttpM64int => .fisttpM64int

/-- The bytes of the integer. -/
def width : IntegerStore → Nat
  | fistM16int | fistpM16int | fisttpM16int => 2
  | fistM32int | fistpM32int | fisttpM32int => 4
  | fistM64int | fistpM64int | fisttpM64int => 8

/-- The forms that pop. -/
def pops : IntegerStore → Bool
  | fistM16int | fistM32int | fistM64int => false
  | _ => true

/-- Rounds toward zero, whatever the control word says. -/
def truncates : IntegerStore → Bool
  | fisttpM16int | fisttpM32int | fisttpM64int => true
  | _ => false

/-- The rounding of a form. -/
def mode (c : IntegerStore) (s : CpuState) : RoundingMode :=
  if c.truncates then .towardZero else roundingControl s

/-- All are one handler. -/
theorem handler_eq (c : IntegerStore) (H : X87Host) :
    c.transfer.handler H = x87StoreInteger H.soft c.width c.pops c.truncates := by
  cases c <;> rfl

/-- Two, four or eight bytes. -/
theorem width_cases (c : IntegerStore) : c.width = 2 ∨ c.width = 4 ∨ c.width = 8 := by
  cases c <;> simp [width]

end IntegerStore

/-! ## What should be stored -/

/-- `k` is the value rounded, and an integer of `width` bytes. -/
structure RoundsWithin (mode : RoundingMode) (width : Nat) (x : Float80) (k : ℤ) : Prop where
  finite : x.IsFinite
  rounds : Rounds IsInteger IsEvenInteger mode x.value (k : ℚ)
  lower : -2 ^ (8 * width - 1) ≤ k
  upper : k < 2 ^ (8 * width - 1)

/-- The integer to store and the exception to raise. -/
inductive IntegerResult (mode : RoundingMode) (width : Nat) (x : Float80) :
    ℤ → BitVec 16 → Prop where
  | exact (k : ℤ) : RoundsWithin mode width x k → x.value = k → IntegerResult mode width x k 0#16
  | inexact (k : ℤ) : RoundsWithin mode width x k → x.value ≠ k →
      IntegerResult mode width x k kX87ExceptionPrecision
  | indefinite : (∀ k, ¬RoundsWithin mode width x k) →
      IntegerResult mode width x (-2 ^ (8 * width - 1)) kX87ExceptionInvalid

/-- The run ends with the integer stored and no other flag raised. -/
def IntegerStored (H : X87Host) (c : IntegerStore) (ctx : ExecutionContext) : Prop :=
  ∃ n exceptions after,
    IntegerResult (c.mode ctx.state) c.width (ctx.state.x87Get 0) n exceptions ∧
    c.transfer.handler H ctx = .ok () after ∧
    after.memory = ctx.memory.stored (memoryAddress ctx.state ctx.instr) (BitVec.ofInt 64 n)
      c.width ∧
    after.state.x87StatusWord &&& kX87ExceptionMask =
      (ctx.state.x87StatusWord ||| exceptions) &&& kX87ExceptionMask

/-- A NaN, or a fraction whose integer does not fit. -/
def FractionRefused (mode : RoundingMode) (width : Nat) (x : Float80) : Prop :=
  x.isnan = true ∨ (x.IsFinite ∧ ¬IsInteger x.value ∧ ∀ k, ¬RoundsWithin mode width x k)

section

variable {F : SoftFloat} (hF : F.CorrectlyRounds)

include hF

/-! ## Parity -/

/-- The remainder by two of an integer. -/
theorem fmod_two {a : Float80} {n : Nat} (ha : a.IsFinite) (hvalue : a.value = n)
    (hn : n < 2 ^ 64) :
    (F.fmod a (F.ofInt 2#32)).IsFinite ∧ (F.fmod a (F.ofInt 2#32)).value = ((n % 2 : Nat) : ℚ) := by
  obtain ⟨_, _, ⟨htwo, htwoValue⟩, _⟩ := soft_constants hF
  have hnonzero : ¬F.isZero (F.ofInt 2#32) = true := by
    rw [isZero_finite hF htwo, htwoValue]
    exact two_ne_zero
  have hquotient := hF.div a (F.ofInt 2#32) ha htwo (by rw [htwoValue]; exact two_ne_zero)
  rw [hvalue, htwoValue] at hquotient
  -- The quotient of a 64-bit integer by two is representable, so no step rounds.
  obtain ⟨hdiv, hdivValue⟩ := hquotient.exact (Float80.representable_half hn)
  obtain ⟨htrunc, htruncValue⟩ := hF.roundToInt _ .minMag hdiv
  have hfloor : SoftRounding.minMag.integer ((n : ℚ) / 2) = ((n / 2 : Nat) : ℤ) := by
    have hpos : (0 : ℚ) ≤ (n : ℚ) / 2 := by positivity
    unfold SoftRounding.integer
    dsimp only
    rw [if_pos hpos]
    exact_mod_cast Rat.floor_natCast_div_natCast n 2
  rw [hdivValue, hfloor] at htruncValue
  have hproduct := hF.mul _ _ htrunc htwo
  rw [htruncValue, htwoValue] at hproduct
  have hback : (((n / 2 : Nat) : ℤ) : ℚ) * 2 = ((n / 2 * 2 : Nat) : ℚ) := by push_cast; rfl
  rw [hback] at hproduct
  obtain ⟨hmul, hmulValue⟩ := hproduct.exact (Float80.representable_nat (by omega))
  have hrest := hF.sub a _ ha hmul
  rw [hvalue, hmulValue] at hrest
  have hmod : (n : ℚ) - ((n / 2 * 2 : Nat) : ℚ) = ((n % 2 : Nat) : ℚ) := by
    rw [sub_eq_iff_eq_add]
    exact_mod_cast (by omega : n = n % 2 + n / 2 * 2)
  rw [hmod] at hrest
  obtain ⟨hsub, hsubValue⟩ := hrest.exact (Float80.representable_nat (by omega))
  have hrun : F.fmod a (F.ofInt 2#32) =
      F.extF80Sub a (F.extF80Mul (F.trunc (F.extF80Div a (F.ofInt 2#32))) (F.ofInt 2#32)) := by
    unfold SoftFloat.fmod
    rw [ha.1, ha.2, htwo.1, eq_false_of_ne_true hnonzero]
    rfl
  rw [hrun]
  exact ⟨hsub, hsubValue⟩

/-- The test of `x87_round_half_even`. -/
theorem parity_iff {a : Float80} {k : ℤ} (ha : a.IsFinite) (hvalue : a.value = k)
    (hk : k.natAbs < 2 ^ 64) :
    F.isZero (F.fmod a.abs (F.ofInt 2#32)) = true ↔ Even k := by
  have habs : a.abs.value = (k.natAbs : ℚ) := by
    rw [Float80.value_abs, hvalue, Nat.cast_natAbs, Int.cast_abs]
  obtain ⟨hfinite, hrem⟩ := fmod_two hF (Float80.isFinite_abs ha) habs hk
  rw [isZero_finite hF hfinite, hrem, Nat.cast_eq_zero, ← Nat.even_iff, Int.natAbs_even]

/-! ## Rounding -/

/-- `y` is the integer that `q` rounds to. -/
def RoundedInteger (mode : RoundingMode) (q : ℚ) (y : Float80) : Prop :=
  y.IsFinite ∧ ∃ k : ℤ, y.value = k ∧ Rounds IsInteger IsEvenInteger mode q (k : ℚ)

/-- The library's floor. -/
theorem floor_finite {x : Float80} (hx : x.IsFinite) :
    (F.floor x).IsFinite ∧ (F.floor x).value = ⌊x.value⌋ := hF.roundToInt x .min hx

/-- The fraction of `x87_round_half_even`: exact, or rounded and above a half. -/
theorem fraction_finite {x : Float80} (hx : x.IsFinite) (hint : ¬IsInteger x.value) :
    (F.extF80Sub x (F.floor x)).IsFinite ∧
      ((F.extF80Sub x (F.floor x)).value = x.value - ⌊x.value⌋ ∨
        (1 / 2 ≤ (F.extF80Sub x (F.floor x)).value ∧ ¬Even ⌊x.value⌋ ∧
          1 < 2 * (x.value - ⌊x.value⌋))) := by
  obtain ⟨hflo, hfloValue⟩ := floor_finite hF hx
  have hsub := hF.sub x _ hx hflo
  rw [hfloValue] at hsub
  rcases Float80.fraction_representable hint with hrep | ⟨hfloor, hnear⟩
  · obtain ⟨hfrac, hfracValue⟩ := hsub.exact hrep
    exact ⟨hfrac, Or.inl hfracValue⟩
  · -- the fraction lies between the representable zero and one
    have hzero : Float80.Representable 0 := by
      exact_mod_cast Float80.representable_nat (by decide : 0 < 2 ^ 64)
    have hone : Float80.Representable 1 := by
      exact_mod_cast Float80.representable_nat (by decide : 1 < 2 ^ 64)
    have hhalf : Float80.Representable (1 / 2) := by
      exact_mod_cast Float80.representable_half (by decide : 1 < 2 ^ 64)
    have hbelow := Int.floor_le x.value
    have habove := Int.lt_floor_add_one x.value
    obtain ⟨hfrac, hnearest⟩ := hsub ⟨0, 1, hzero, hone, by linarith, by linarith⟩
    refine ⟨hfrac, Or.inr ⟨hnearest.above hhalf (by linarith), ?_, hnear⟩⟩
    rw [hfloor]
    decide

/-- An integer has no fraction and stays. -/
theorem x87RoundHalfEven_integer {x : Float80} (hx : x.IsFinite) (hint : IsInteger x.value) :
    x87RoundHalfEven F x = F.floor x := by
  obtain ⟨_, _, _, hhalf, hhalfValue⟩ := soft_constants hF
  obtain ⟨hflo, hfloValue⟩ := floor_finite hF hx
  have hsub := hF.sub x _ hx hflo
  rw [hfloValue, isInteger_floor hint, sub_self] at hsub
  obtain ⟨hfrac, hfracValue⟩ := hsub.exact
    (by exact_mod_cast Float80.representable_nat (by decide : 0 < 2 ^ 64))
  have hless : F.extF80Lt (F.extF80Sub x (F.floor x)) (F.ofDouble 0x3FE0000000000000#64) =
      true := by
    rw [extF80Lt_finite hF hfrac hhalf, hfracValue, hhalfValue]
    norm_num
  unfold x87RoundHalfEven
  dsimp only
  rw [if_pos hless]

/-- The integer above a fraction is exact. -/
theorem floor_succ {x : Float80} (hx : x.IsFinite) (hint : ¬IsInteger x.value) :
    (F.extF80Add (F.floor x) (F.ofInt 1#32)).IsFinite ∧
      (F.extF80Add (F.floor x) (F.ofInt 1#32)).value = ((⌊x.value⌋ + 1 : ℤ) : ℚ) := by
  obtain ⟨_, ⟨hone, honeValue⟩, _⟩ := soft_constants hF
  obtain ⟨hflo, hfloValue⟩ := floor_finite hF hx
  obtain ⟨hlow, hhigh⟩ := Float80.floor_bounds hint
  have hadd := hF.add _ _ hflo hone
  have hsum : (⌊x.value⌋ : ℚ) + 1 = ((⌊x.value⌋ + 1 : ℤ) : ℚ) := by
    push_cast
    rfl
  rw [hfloValue, honeValue, hsum] at hadd
  exact hadd.exact (Float80.representable_int (by omega))

/-- **Round half even** is right for every finite value. -/
theorem x87RoundHalfEven_rounds {x : Float80} (hx : x.IsFinite) :
    RoundedInteger .nearestEven x.value (x87RoundHalfEven F x) := by
  obtain ⟨_, _, _, hhalf, hhalfValue⟩ := soft_constants hF
  obtain ⟨hflo, hfloValue⟩ := floor_finite hF hx
  -- An integer is its own floor, and the parity is not looked at.
  by_cases hint : IsInteger x.value
  · rw [x87RoundHalfEven_integer hF hx hint]
    exact ⟨hflo, _, hfloValue, rounds_integer_self _ hint⟩
  · obtain ⟨hup, hupValue⟩ := floor_succ hF hx hint
    obtain ⟨hfrac, hexact⟩ := fraction_finite hF hx hint
    -- `fraction_finite` leaves two cases: the fraction is exact, or it is rounded near one.
    obtain ⟨hlow, hhigh⟩ := Float80.floor_bounds hint
    have hupRounds (hnear : 1 < 2 * (x.value - ⌊x.value⌋) ∨
        (2 * (x.value - ⌊x.value⌋) = 1 ∧ ¬Even ⌊x.value⌋)) :
        RoundedInteger .nearestEven x.value (F.extF80Add (F.floor x) (F.ofInt 1#32)) :=
      ⟨hup, _, hupValue, rounds_nearest_succ hint hnear⟩
    have hfloRounds (hnear : 2 * (x.value - ⌊x.value⌋) < 1 ∨
        (2 * (x.value - ⌊x.value⌋) = 1 ∧ Even ⌊x.value⌋)) :
        RoundedInteger .nearestEven x.value (F.floor x) :=
      ⟨hflo, _, hfloValue, rounds_nearest_floor hint hnear⟩
    unfold x87RoundHalfEven
    dsimp only
    split
    next hless =>
      -- The fraction is below one half.
      rw [extF80Lt_finite hF hfrac hhalf, hhalfValue] at hless
      rcases hexact with hvalue | ⟨hge, _, _⟩
      · exact hfloRounds (Or.inl (by linarith))
      · exact absurd hless (not_lt.mpr hge)
    next hless =>
      rw [extF80Lt_finite hF hfrac hhalf, hhalfValue] at hless
      split
      next hmore =>
        -- The fraction is above one half.
        rw [extF80Lt_finite hF hhalf hfrac, hhalfValue] at hmore
        rcases hexact with hvalue | ⟨_, _, hnear⟩
        · exact hupRounds (Or.inl (by linarith))
        · exact hupRounds (Or.inl hnear)
      next hmore =>
        rw [extF80Lt_finite hF hhalf hfrac, hhalfValue] at hmore
        -- A tie: the floor is taken when it is even.
        have hparity := parity_iff hF hflo hfloValue (by omega)
        split
        next heven =>
          rcases hexact with hvalue | ⟨_, hodd, _⟩
          · exact hfloRounds (Or.inr ⟨by linarith, hparity.mp heven⟩)
          · exact absurd (hparity.mp heven) hodd
        next hodd =>
          rcases hexact with hvalue | ⟨_, _, hnear⟩
          · exact hupRounds (Or.inr ⟨by linarith, fun h => hodd (hparity.mpr h)⟩)
          · exact hupRounds (Or.inl hnear)

/-- Truncation rounds towards zero. -/
theorem trunc_rounds {x : Float80} (hx : x.IsFinite) :
    RoundedInteger .towardZero x.value (F.trunc x) := by
  obtain ⟨hfinite, hvalue⟩ := hF.roundToInt x .minMag hx
  exact ⟨hfinite, _, hvalue, rounds_trunc x.value⟩

/-- **Main result** on the arithmetic: every finite value is rounded as the
control word says. -/
theorem x87RoundToControl_rounds (s : CpuState) {x : Float80} (hx : x.IsFinite) :
    RoundedInteger (roundingControl s) x.value (x87RoundToControl F s x) := by
  unfold roundingControl x87RoundToControl
  dsimp only
  split
  · exact x87RoundHalfEven_rounds hF hx
  · split
    · obtain ⟨hfinite, hvalue⟩ := floor_finite hF hx
      exact ⟨hfinite, _, hvalue, rounds_floor x.value⟩
    · split
      · obtain ⟨hfinite, hvalue⟩ := hF.roundToInt x .max hx
        exact ⟨hfinite, _, hvalue, rounds_ceil x.value⟩
      · exact trunc_rounds hF hx

/-- A NaN stays one. -/
theorem x87RoundToControl_nan (s : CpuState) {x : Float80} (hx : x.isnan = true) :
    (x87RoundToControl F s x).isnan = true := by
  have hround (m : SoftRounding) := hF.roundToInt_nan x m hx
  unfold x87RoundToControl x87RoundHalfEven
  dsimp only
  repeat' split
  · exact hround .min
  · exact hF.add_nan _ _ (Or.inl (hround .min))
  · exact hround .min
  · exact hF.add_nan _ _ (Or.inl (hround .min))
  · exact hround .min
  · exact hround .max
  · exact hround .minMag

/-- So does an infinity, through a fraction and a remainder that are NaNs. -/
theorem x87RoundToControl_infinity (s : CpuState) {x : Float80} (hx : x.isinf = true) :
    x87RoundToControl F s x = x := by
  obtain ⟨_, ⟨hone, _⟩, _⟩ := soft_constants hF
  have hround (m : SoftRounding) := hF.roundToInt_infinity x m hx
  -- The fraction of an infinity is a NaN, and no comparison with a NaN holds.
  have hnearest : x87RoundHalfEven F x = x := by
    have hfloor : F.floor x = x := hround .min
    have hfrac := extF80_nan hF (y := F.ofDouble 0x3FE0000000000000#64)
      (Or.inl (hF.sub_infinity x hx))
    have hfrac' : F.extF80Lt (F.ofDouble 0x3FE0000000000000#64) (F.extF80Sub x x) = false :=
      (extF80_nan hF (Or.inr (hF.sub_infinity x hx))).2
    have hrest : F.fmod x.abs (F.ofInt 2#32) = Float80.quietNaN := by
      unfold SoftFloat.fmod
      rw [x.isinf_abs, hx, Bool.or_true, Bool.true_or, if_pos rfl]
    have hparity : F.isZero Float80.quietNaN = false :=
      (extF80_nan hF (Or.inl (by decide))).1
    unfold x87RoundHalfEven
    dsimp only
    rw [hfloor, hfrac.2, hfrac', hrest, hparity]
    exact hF.add_infinity x _ hx hone
  unfold x87RoundToControl
  dsimp only
  rw [hnearest]
  repeat' split
  · rfl
  · exact hround .min
  · exact hround .max
  · exact hround .minMag

/-- `rounded`, of any store. -/
theorem rounded_cases (c : IntegerStore) (s : CpuState) (x : Float80) :
    let rounded := if c.truncates then F.trunc x else x87RoundToControl F s x
    (x.IsFinite → RoundedInteger (c.mode s) x.value rounded) ∧
      (x.isnan = true → rounded.isnan = true) ∧ (x.isinf = true → rounded = x) := by
  unfold IntegerStore.mode
  cases c.truncates with
  | true => exact ⟨trunc_rounds hF, hF.roundToInt_nan x _, hF.roundToInt_infinity x _⟩
  | false =>
    exact ⟨x87RoundToControl_rounds hF s, x87RoundToControl_nan hF s,
      x87RoundToControl_infinity hF s⟩

/-! ## The range -/

/-- The bounds of a width. -/
theorem integerBounds_values {width : Nat} (hwidth : width = 2 ∨ width = 4 ∨ width = 8) :
    ∃ lower upper, integerBounds F width = some (lower, upper) ∧
      (lower.IsFinite ∧ lower.value = ((-2 ^ (8 * width - 1) : ℤ) : ℚ)) ∧
      upper.IsFinite ∧ upper.value = ((2 ^ (8 * width - 1) - 1 : ℤ) : ℚ) := by
  rcases hwidth with rfl | rfl | rfl
  · obtain ⟨hlower, hlowerValue⟩ := hF.ofInt (-0x8000#32)
    obtain ⟨hupper, hupperValue⟩ := hF.ofInt 0x7FFF#32
    exact ⟨_, _, rfl, ⟨hlower, hlowerValue⟩, hupper, hupperValue⟩
  · obtain ⟨hlower, hlowerValue⟩ := hF.ofInt 0x80000000#32
    obtain ⟨hupper, hupperValue⟩ := hF.ofInt 0x7FFFFFFF#32
    exact ⟨_, _, rfl, ⟨hlower, hlowerValue⟩, hupper, hupperValue⟩
  · obtain ⟨hlower, hlowerValue⟩ := hF.ofInt64 0x8000000000000000#64
    obtain ⟨hupper, hupperValue⟩ := hF.ofInt64 0x7FFFFFFFFFFFFFFF#64
    exact ⟨_, _, rfl, ⟨hlower, hlowerValue⟩, hupper, hupperValue⟩

/-- The number in bits, and the flags. -/
def storeOutcome (F : SoftFloat) (value rounded lower upper : Float80) : U64 × BitVec 16 :=
  let exceptions := if !F.extF80Eq rounded value then kX87ExceptionPrecision else 0#16
  let refused := rounded.isnan || rounded.isinf || F.extF80Lt rounded lower ||
    F.extF80Lt upper rounded
  (F.extF80ToI64 (if refused then lower else rounded),
    if refused then exceptions ||| kX87ExceptionInvalid else exceptions)

/-- The code's flags are the right ones and, of a fraction that is refused,
the precision exception. -/
def IntegerOutcome (mode : RoundingMode) (width : Nat) (x : Float80)
    (outcome : U64 × BitVec 16) : Prop :=
  ∃ n exceptions, IntegerResult mode width x n exceptions ∧ outcome.1 = BitVec.ofInt 64 n ∧
    ((¬FractionRefused mode width x ∧ outcome.2 = exceptions) ∨
      (FractionRefused mode width x ∧ exceptions = kX87ExceptionInvalid ∧
        outcome.2 = kX87ExceptionPrecision ||| kX87ExceptionInvalid))

section

variable {mode : RoundingMode} {width : Nat} {x rounded lower upper : Float80}
  (hwidth : width = 2 ∨ width = 4 ∨ width = 8)
  (hlower : lower.IsFinite ∧ lower.value = ((-2 ^ (8 * width - 1) : ℤ) : ℚ))
  (hupper : upper.IsFinite ∧ upper.value = ((2 ^ (8 * width - 1) - 1 : ℤ) : ℚ))

include hwidth hlower in
/-- The indefinite value in bits. -/
theorem indefinite_bits : F.extF80ToI64 lower = BitVec.ofInt 64 (-2 ^ (8 * width - 1)) := by
  obtain ⟨hfinite, hvalue⟩ := hlower
  refine hF.toInt64 lower _ hfinite hvalue ?_ ?_
  · rcases hwidth with rfl | rfl | rfl <;> decide
  · rcases hwidth with rfl | rfl | rfl <;> decide

include hwidth hlower in
/-- The outcome of a NaN. -/
theorem outcome_nan (hx : x.isnan = true) (hrounded : rounded.isnan = true) :
    IntegerOutcome mode width x (storeOutcome F x rounded lower upper) := by
  have hnot (k : ℤ) : ¬RoundsWithin mode width x k := by
    intro h
    exact Bool.noConfusion (hx.symm.trans h.finite.1)
  have heq := (extF80_nan hF (y := x) (Or.inl hrounded)).1
  refine ⟨_, _, .indefinite hnot, ?_, Or.inr ⟨Or.inl hx, rfl, ?_⟩⟩
  · unfold storeOutcome
    dsimp only
    rw [hrounded, Bool.true_or, Bool.true_or, Bool.true_or, if_pos rfl]
    exact indefinite_bits hF hwidth hlower
  · unfold storeOutcome
    dsimp only
    rw [hrounded, heq]
    rfl

include hwidth hlower in
/-- The outcome of an infinity. -/
theorem outcome_infinity (hx : x.isinf = true) :
    IntegerOutcome mode width x (storeOutcome F x x lower upper) := by
  have hnan : x.isnan = false := Float80.isnan_of_isinf hx
  have hnot (k : ℤ) : ¬RoundsWithin mode width x k := by
    intro h
    exact Bool.noConfusion (hx.symm.trans h.finite.2)
  have heq : F.extF80Eq x x = true := (hF.eq x x).mpr ⟨hnan, hnan, rfl⟩
  refine ⟨_, _, .indefinite hnot, ?_, Or.inl ⟨?_, ?_⟩⟩
  · unfold storeOutcome
    dsimp only
    rw [hx, Bool.or_true, Bool.true_or, Bool.true_or, if_pos rfl]
    exact indefinite_bits hF hwidth hlower
  · rintro (h | ⟨hfinite, _⟩)
    · exact Bool.noConfusion (hnan.symm.trans h)
    · exact Bool.noConfusion (hx.symm.trans hfinite.2)
  · unfold storeOutcome
    dsimp only
    rw [hx, heq, Bool.or_true]
    rfl

include hwidth hlower hupper in
/-- The outcome of a number. -/
theorem outcome_finite (hx : x.IsFinite) (hrounded : RoundedInteger mode x.value rounded) :
    IntegerOutcome mode width x (storeOutcome F x rounded lower upper) := by
  obtain ⟨hfinite, k, hvalue, hrounds⟩ := hrounded
  have heq : F.extF80Eq rounded x = true ↔ x.value = k := by
    rw [extF80Eq_finite hF hfinite hx, hvalue, eq_comm]
  have hbelow : F.extF80Lt rounded lower = true ↔ k < -2 ^ (8 * width - 1) := by
    rw [extF80Lt_finite hF hfinite hlower.1, hvalue, hlower.2, Int.cast_lt]
  have habove : F.extF80Lt upper rounded = true ↔ 2 ^ (8 * width - 1) - 1 < k := by
    rw [extF80Lt_finite hF hupper.1 hfinite, hvalue, hupper.2, Int.cast_lt]
  unfold storeOutcome
  dsimp only
  rw [hfinite.1, hfinite.2, Bool.false_or, Bool.false_or]
  -- In range the rounded integer is stored, out of range the integer indefinite.
  by_cases hfits : -2 ^ (8 * width - 1) ≤ k ∧ k < 2 ^ (8 * width - 1)
  · have hwithin : RoundsWithin mode width x k := ⟨hx, hrounds, hfits.1, hfits.2⟩
    have hnot : ¬FractionRefused mode width x := by
      rintro (h | ⟨_, _, h⟩)
      · exact Bool.noConfusion (hx.1.symm.trans h)
      · exact h k hwithin
    have hkept : ¬(F.extF80Lt rounded lower || F.extF80Lt upper rounded) = true := by
      rw [Bool.or_eq_true, hbelow, habove]
      omega
    have hbits : F.extF80ToI64 rounded = BitVec.ofInt 64 k := by
      refine hF.toInt64 rounded k hfinite hvalue ?_ ?_
      · rcases hwidth with rfl | rfl | rfl <;> omega
      · rcases hwidth with rfl | rfl | rfl <;> omega
    rw [if_neg hkept, if_neg hkept]
    by_cases hexact : x.value = k
    · rw [heq.mpr hexact]
      exact ⟨_, _, .exact k hwithin hexact, hbits, Or.inl ⟨hnot, rfl⟩⟩
    · rw [eq_false_of_ne_true (fun h => hexact (heq.mp h))]
      exact ⟨_, _, .inexact k hwithin hexact, hbits, Or.inl ⟨hnot, rfl⟩⟩
  · have hnone (k' : ℤ) : ¬RoundsWithin mode width x k' := by
      intro h
      obtain rfl := rounds_integer_unique hrounds h.rounds
      exact hfits ⟨h.lower, h.upper⟩
    have hrefused : (F.extF80Lt rounded lower || F.extF80Lt upper rounded) = true := by
      rw [Bool.or_eq_true, hbelow, habove]
      omega
    have hbits := indefinite_bits hF hwidth hlower
    rw [if_pos hrefused, if_pos hrefused]
    -- Out of range the source raises precision as well, unless the value is an integer.
    by_cases hexact : x.value = k
    · have hnot : ¬FractionRefused mode width x := by
        rintro (h | ⟨_, h, _⟩)
        · exact Bool.noConfusion (hx.1.symm.trans h)
        · exact h ⟨k, hexact.symm⟩
      rw [heq.mpr hexact]
      exact ⟨_, _, .indefinite hnone, hbits, Or.inl ⟨hnot, rfl⟩⟩
    · have hfraction : ¬IsInteger x.value := by
        intro hint
        obtain rfl := rounds_integer_unique hrounds (rounds_integer_self mode hint)
        exact hexact (isInteger_floor hint).symm
      rw [eq_false_of_ne_true (fun h => hexact (heq.mp h))]
      exact ⟨_, _, .indefinite hnone, hbits, Or.inr ⟨Or.inr ⟨hx, hfraction, hnone⟩, rfl, rfl⟩⟩

end

end

/-- The specification asks for one integer and one exception. -/
theorem IntegerResult.unique {mode : RoundingMode} {width : Nat} {x : Float80} {n n' : ℤ}
    {e e' : BitVec 16} (h : IntegerResult mode width x n e) (h' : IntegerResult mode width x n' e') :
    n = n' ∧ e = e' := by
  cases h with
  | exact _ hk hexact =>
    cases h' with
    | exact _ hk' _ => exact ⟨rounds_integer_unique hk.rounds hk'.rounds, rfl⟩
    | inexact _ hk' hne =>
      obtain rfl := rounds_integer_unique hk.rounds hk'.rounds
      exact absurd hexact hne
    | indefinite hnone => exact absurd hk (hnone _)
  | inexact _ hk hne =>
    cases h' with
    | exact _ hk' hexact =>
      obtain rfl := rounds_integer_unique hk.rounds hk'.rounds
      exact absurd hexact hne
    | inexact _ hk' _ => exact ⟨rounds_integer_unique hk.rounds hk'.rounds, rfl⟩
    | indefinite hnone => exact absurd hk (hnone _)
  | indefinite hnone =>
    cases h' with
    | exact _ hk' _ => exact absurd hk' (hnone _)
    | inexact _ hk' _ => exact absurd hk' (hnone _)
    | indefinite _ => exact ⟨rfl, rfl⟩

/-! ## A store from end to end -/

/-- Fewer exceptions are masked too. -/
theorem masked_of_and {s : CpuState} {e f : BitVec 16} (h : x87ExceptionsMasked s f = true)
    (hsub : e &&& f = e) : x87ExceptionsMasked s e = true := by
  unfold x87ExceptionsMasked at h ⊢
  rw [beq_iff_eq] at h ⊢
  rw [← hsub, BitVec.and_assoc, BitVec.and_assoc, ← BitVec.and_assoc f, h]
  exact BitVec.and_zero

/-- Exceptions, if any, in the status word. -/
def CpuState.x87RaisedIfAny (s : CpuState) (e : BitVec 16) : CpuState :=
  if e ≠ 0#16 then s.x87Raised e else s

/-- An exception that is masked, or none. -/
theorem x87ExceptionIfAny_masked {e : BitVec 16} {ctx : ExecutionContext}
    (h : x87ExceptionsMasked ctx.state e = true) :
    x87ExceptionIfAny e ctx = .ok () { ctx with state := ctx.state.x87RaisedIfAny e } := by
  unfold x87ExceptionIfAny CpuState.x87RaisedIfAny
  split
  · exact x87Exception_masked h
  · rfl

/-- It leaves the unit. -/
theorem x87RaisedIfAny_keeps (s : CpuState) (e : BitVec 16) : KeepsUnit s (s.x87RaisedIfAny e) := by
  unfold CpuState.x87RaisedIfAny
  split
  · exact x87Raised_keeps s e
  · exact ⟨rfl, fun hs => ⟨hs, rfl, rfl, rfl⟩⟩

/-- The flags that are there afterwards. -/
theorem x87RaisedIfAny_flags {s : CpuState} {e : BitVec 16} (h : x87ExceptionsMasked s e = true)
    (hnoFault : e &&& kX87ExceptionStackFault = 0#16) :
    (s.x87RaisedIfAny e).x87StatusWord &&& kX87ExceptionMask =
      (s.x87StatusWord ||| e) &&& kX87ExceptionMask := by
  unfold CpuState.x87RaisedIfAny
  split
  next =>
    rw [x87Raised_masked h, hnoFault, BitVec.or_zero, BitVec.and_or_distrib_right,
      BitVec.and_or_distrib_right, BitVec.and_assoc, BitVec.and_self]
  next hzero =>
    obtain rfl := not_ne_iff.mp hzero
    rw [BitVec.or_zero]

/-- The precision exception besides the invalid operation changes nothing only
when it is there. -/
theorem precision_flag (sw : BitVec 16) :
    (sw ||| (kX87ExceptionPrecision ||| kX87ExceptionInvalid)) &&& kX87ExceptionMask =
        (sw ||| kX87ExceptionInvalid) &&& kX87ExceptionMask ↔
      sw &&& kX87ExceptionPrecision = kX87ExceptionPrecision := by
  constructor
  · intro h
    have hpart := congrArg (fun w => w &&& kX87ExceptionPrecision) h
    have hwith : (sw ||| (kX87ExceptionPrecision ||| kX87ExceptionInvalid)) &&& kX87ExceptionMask &&&
        kX87ExceptionPrecision = kX87ExceptionPrecision := by
      rw [BitVec.and_assoc, BitVec.and_or_distrib_right, BitVec.or_comm, BitVec.and_comm sw]
      exact or_and_absorb kX87ExceptionPrecision sw
    have hwithout : (sw ||| kX87ExceptionInvalid) &&& kX87ExceptionMask &&& kX87ExceptionPrecision =
        sw &&& kX87ExceptionPrecision := by
      rw [BitVec.and_assoc, BitVec.and_or_distrib_right]
      exact BitVec.or_zero
    exact hwithout.symm.trans (hpart.symm.trans hwith)
  · intro h
    rw [← BitVec.or_assoc, ← h, or_and_absorb]

/-- A pop of a register in use leaves the flags. -/
theorem x87PoppedIf_flags (pop : Bool) {s : CpuState} (hused : s.x87IsEmpty 0 = false) :
    (s.x87PoppedIf pop).x87StatusWord &&& kX87ExceptionMask =
      s.x87StatusWord &&& kX87ExceptionMask := by
  have hfield : ∀ b : BitVec 8, ((b &&& 0x7#8).setWidth 16 <<< 11) &&& kX87ExceptionMask = 0#16 := by
    decide +kernel
  have htag : ¬s.x87Tags (Fin.ofNat 8 s.x87Top.toNat) = kX87TagEmpty := by
    intro h
    unfold CpuState.x87IsEmpty CpuState.x87PhysIndex at hused
    exact beq_eq_false_iff_ne.mp hused h
  cases pop with
  | false => rfl
  | true =>
    unfold CpuState.x87PoppedIf CpuState.x87Pop
    dsimp only
    rw [if_pos rfl, if_neg htag, if_pos rfl]
    show (s.x87StatusWord &&& ~~~0x3800#16 ||| _) &&& kX87ExceptionMask = _
    rw [BitVec.and_or_distrib_right, hfield, BitVec.or_zero, BitVec.and_assoc]
    rfl

section

variable {H : X87Host} (c : IntegerStore) {ctx : ExecutionContext}
  (hused : ctx.state.x87IsEmpty 0 = false)
  (hmasked : x87ExceptionsMasked ctx.state (kX87ExceptionInvalid ||| kX87ExceptionPrecision) = true)
  (hwritable : ∀ value, ctx.memory.accepts (memoryAddress ctx.state ctx.instr) value c.width = true)

include hused hmasked hwritable in
/-- The run, by the pure part. -/
theorem handler_outcome {lower upper : Float80} {outcome : U64 × BitVec 16}
    (hbounds : integerBounds H.soft c.width = some (lower, upper))
    (houtcome : storeOutcome H.soft (ctx.state.x87Get 0)
      (if c.truncates then H.soft.trunc (ctx.state.x87Get 0)
        else x87RoundToControl H.soft ctx.state (ctx.state.x87Get 0)) lower upper = outcome)
    (hflags : outcome.2 &&& (kX87ExceptionInvalid ||| kX87ExceptionPrecision) = outcome.2) :
    c.transfer.handler H ctx = .ok () { ctx with
      memory := ctx.memory.stored (memoryAddress ctx.state ctx.instr) outcome.1 c.width
      state := (ctx.state.x87RaisedIfAny outcome.2).x87PoppedIf c.pops } := by
  -- The store comes first: the flags and the pop follow it.
  have hget : (get : HandlerM ExecutionContext) ctx = .ok ctx ctx := rfl
  have hwrite := writeMemoryChecked_ok (hwritable outcome.1)
  have hraise := @x87ExceptionIfAny_masked outcome.2 { ctx with
    memory := ctx.memory.stored (memoryAddress ctx.state ctx.instr) outcome.1 c.width }
    (masked_of_and hmasked hflags)
  have hinvalid : x87ExceptionsMasked (ctx.state.x87RaisedIfAny outcome.2) kX87ExceptionInvalid =
      true :=
    (masked_congr (x87RaisedIfAny_keeps _ _).controlWord _).trans (masked_of_and hmasked rfl)
  have hpop := @popIf_masked c.pops { ctx with
    memory := ctx.memory.stored (memoryAddress ctx.state ctx.instr) outcome.1 c.width
    state := ctx.state.x87RaisedIfAny outcome.2 } hinvalid
  have hsteps : x87StoreInteger H.soft c.width c.pops c.truncates ctx =
      (writeMemoryChecked (memoryAddress ctx.state ctx.instr) outcome.1 c.width >>= fun _ =>
        x87ExceptionIfAny outcome.2 >>= fun _ => popIf c.pops) ctx := by
    unfold x87StoreInteger
    rw [bind_ok hget, if_neg (by rw [hused]; exact Bool.false_ne_true), hbounds, ← houtcome]
    rfl
  rw [c.handler_eq, hsteps, bind_ok hwrite, bind_ok hraise]
  exact hpop

variable (hF : H.soft.CorrectlyRounds) (hs : X87WellFormed ctx.state)

include hused hmasked hwritable hF hs

/-- Result and flags of a run. -/
theorem handler_result : ∃ n exceptions raised after,
    IntegerResult (c.mode ctx.state) c.width (ctx.state.x87Get 0) n exceptions ∧
    c.transfer.handler H ctx = .ok () after ∧
    after.memory = ctx.memory.stored (memoryAddress ctx.state ctx.instr) (BitVec.ofInt 64 n)
      c.width ∧
    after.state.x87StatusWord &&& kX87ExceptionMask =
      (ctx.state.x87StatusWord ||| raised) &&& kX87ExceptionMask ∧
    ((¬FractionRefused (c.mode ctx.state) c.width (ctx.state.x87Get 0) ∧ raised = exceptions) ∨
      (FractionRefused (c.mode ctx.state) c.width (ctx.state.x87Get 0) ∧
        exceptions = kX87ExceptionInvalid ∧
        raised = kX87ExceptionPrecision ||| kX87ExceptionInvalid)) := by
  obtain ⟨lower, upper, hbounds, hlower, hupper⟩ := integerBounds_values hF c.width_cases
  obtain ⟨hfinite, hnan, hinf⟩ := rounded_cases hF c ctx.state (ctx.state.x87Get 0)
  have houtcome : IntegerOutcome (c.mode ctx.state) c.width (ctx.state.x87Get 0)
      (storeOutcome H.soft (ctx.state.x87Get 0)
        (if c.truncates then H.soft.trunc (ctx.state.x87Get 0)
          else x87RoundToControl H.soft ctx.state (ctx.state.x87Get 0)) lower upper) := by
    -- A NaN, an infinity and a finite number go through the same two comparisons.
    cases hisNan : (ctx.state.x87Get 0).isnan with
    | true => exact outcome_nan hF c.width_cases hlower hisNan (hnan hisNan)
    | false =>
      cases hisInf : (ctx.state.x87Get 0).isinf with
      | true =>
        rw [hinf hisInf]
        exact outcome_infinity hF c.width_cases hlower hisInf
      | false =>
        exact outcome_finite hF c.width_cases hlower hupper ⟨hisNan, hisInf⟩
          (hfinite ⟨hisNan, hisInf⟩)
  generalize hpure : storeOutcome H.soft (ctx.state.x87Get 0)
    (if c.truncates then H.soft.trunc (ctx.state.x87Get 0)
      else x87RoundToControl H.soft ctx.state (ctx.state.x87Get 0)) lower upper = outcome at houtcome
  obtain ⟨n, exceptions, hresult, hbits, hraised⟩ := houtcome
  have hflags : outcome.2 &&& (kX87ExceptionInvalid ||| kX87ExceptionPrecision) = outcome.2 := by
    rcases hraised with ⟨_, h⟩ | ⟨_, _, h⟩
    · rw [h]
      cases hresult <;> rfl
    · rw [h]
      rfl
  have hnoFault : outcome.2 &&& kX87ExceptionStackFault = 0#16 := by
    rw [← hflags, BitVec.and_assoc]
    exact BitVec.and_zero
  -- Raising a flag keeps the tags and the top, so the pop finds its register.
  have hused' : (ctx.state.x87RaisedIfAny outcome.2).x87IsEmpty 0 = false := by
    obtain ⟨_, hsame⟩ := (x87RaisedIfAny_keeps ctx.state outcome.2).registers hs
    unfold CpuState.x87IsEmpty CpuState.x87PhysIndex at hused ⊢
    rwa [hsame.tags, hsame.top]
  refine ⟨n, exceptions, outcome.2, _, hresult,
    handler_outcome c hused hmasked hwritable hbounds hpure hflags, by rw [hbits], ?_, hraised⟩
  exact (x87PoppedIf_flags c.pops hused').trans
    (x87RaisedIfAny_flags (masked_of_and hmasked hflags) hnoFault)

/-- What is not refused is stored. -/
theorem stored_of_kept (h : ¬FractionRefused (c.mode ctx.state) c.width (ctx.state.x87Get 0)) :
    IntegerStored H c ctx := by
  obtain ⟨n, exceptions, raised, after, hresult, hrun, hmemory, hstatus, hraised⟩ :=
    handler_result c hused hmasked hwritable hF hs
  rcases hraised with ⟨_, rfl⟩ | ⟨hrefused, _⟩
  · exact ⟨n, raised, after, hresult, hrun, hmemory, hstatus⟩
  · exact absurd hrefused h

/-- A fraction that is refused raises the precision exception too. -/
theorem stored_of_refused (h : FractionRefused (c.mode ctx.state) c.width (ctx.state.x87Get 0)) :
    IntegerStored H c ctx ↔
      ctx.state.x87StatusWord &&& kX87ExceptionPrecision = kX87ExceptionPrecision := by
  obtain ⟨n, exceptions, raised, after, hresult, hrun, hmemory, hstatus, hraised⟩ :=
    handler_result c hused hmasked hwritable hF hs
  obtain ⟨rfl, rfl⟩ : exceptions = kX87ExceptionInvalid ∧
      raised = kX87ExceptionPrecision ||| kX87ExceptionInvalid := by
    rcases hraised with ⟨hkept, _⟩ | ⟨_, hflags⟩
    · exact absurd h hkept
    · exact hflags
  rw [← precision_flag]
  constructor
  · rintro ⟨n', exceptions', after', hresult', hrun', _, hstatus'⟩
    obtain ⟨_, rfl⟩ := hresult.unique hresult'
    cases hrun.symm.trans hrun'
    rw [← hstatus, hstatus']
  · intro hsame
    exact ⟨n, _, after, hresult, hrun, hmemory, hstatus.trans hsame⟩

/-- **Main result**: the integer and the flags are the right ones unless the
value is a NaN or a fraction that does not fit, and the precision flag is not
there already. -/
theorem integer_store_iff : IntegerStored H c ctx ↔
    ¬FractionRefused (c.mode ctx.state) c.width (ctx.state.x87Get 0) ∨
      ctx.state.x87StatusWord &&& kX87ExceptionPrecision = kX87ExceptionPrecision := by
  by_cases h : FractionRefused (c.mode ctx.state) c.width (ctx.state.x87Get 0)
  · rw [or_iff_right (not_not_intro h)]
    exact stored_of_refused c hused hmasked hwritable hF hs h
  · exact iff_of_true (stored_of_kept c hused hmasked hwritable hF hs h) (Or.inl h)

end

/-! ## Two and a half, and a NaN -/

/-- The arithmetic of `exactFloat`. -/
noncomputable def exactHost : X87Host := { bitwiseHost with soft := exactFloat }

/-- `5/2` on the stack. -/
def halfLoaded : CpuState := (emptyStack.x87Push bitwiseFloat 0x4000A000000000000000#80).2

/-- Its value. -/
theorem halfLoaded_value : (halfLoaded.x87Get 0).IsFinite ∧ (halfLoaded.x87Get 0).value = 5 / 2 := by
  have hget : halfLoaded.x87Get 0 = 0x4000A000000000000000#80 := by decide +kernel
  have hsign : Float80.signbit 0x4000A000000000000000#80 = false := by decide +kernel
  have hmagnitude : Float80.magnitude 0x4000A000000000000000#80 * 2 = 5 * Float80.unitsPerOne := by
    decide +kernel
  have hcast := congrArg (Nat.cast : ℕ → ℚ) hmagnitude
  rw [Nat.cast_mul, Nat.cast_mul, Nat.cast_ofNat, Nat.cast_ofNat] at hcast
  rw [hget]
  refine ⟨⟨by decide +kernel, by decide +kernel⟩, ?_⟩
  rw [Float80.value_eq, hsign, if_neg Bool.false_ne_true,
    div_eq_div_iff Float80.unitsPerOne_ne_zero two_ne_zero]
  exact hcast

/-- The page takes a store. -/
theorem imageContext_writable (s : CpuState) (hs : s.mode = .long64) (value : U64) {width : Nat}
    (hpos : 0 < width) (hwidth : width ≤ 8) :
    (imageContext s).memory.accepts (memoryAddress s (imageContext s).instr) value width = true := by
  have hspan := imageContext_page s 0 width hpos hwidth (by omega)
  rw [imageContext_address hs]
  exact hspan.accepts hpos hwidth value

/-- Two and a half is stored as two. -/
theorem integer_store_half : IntegerStored exactHost .fistM16int (imageContext halfLoaded) := by
  obtain ⟨hfinite, hvalue⟩ := halfLoaded_value
  refine (@integer_store_iff exactHost .fistM16int (imageContext halfLoaded) (by decide +kernel)
    (by decide +kernel) (fun value => imageContext_writable _ rfl value (by decide) (by decide))
    exactFloat_correctlyRounds (loaded_wellFormed _)).mpr (Or.inl ?_)
  rintro (hnan | ⟨_, _, hnone⟩)
  · exact Bool.noConfusion (hfinite.1.symm.trans hnan)
  · have hmode : IntegerStore.fistM16int.mode (imageContext halfLoaded).state = .nearestEven := by
      decide +kernel
    have hfloor : ⌊(5 / 2 : ℚ)⌋ = 2 := by norm_num
    have hfraction : ¬IsInteger (5 / 2 : ℚ) := by
      rintro ⟨k, hk⟩
      rw [eq_div_iff two_ne_zero] at hk
      have hdouble : k * 2 = 5 := by exact_mod_cast hk
      omega
    -- a tie, and the floor is even
    have hrounds := rounds_nearest_floor hfraction (Or.inr ⟨by rw [hfloor]; norm_num, by
      rw [hfloor]
      decide⟩)
    refine hnone 2 ⟨hfinite, ?_, by decide, by decide⟩
    rw [hmode]
    show Rounds IsInteger IsEvenInteger .nearestEven (halfLoaded.x87Get 0).value _
    rwa [hvalue, ← hfloor]

/-- A NaN raises the invalid operation and the precision exception. -/
theorem integer_store_nan :
    exactHost.soft.CorrectlyRounds ∧ X87WellFormed nanLoaded ∧ nanLoaded.x87IsEmpty 0 = false ∧
      x87ExceptionsMasked nanLoaded (kX87ExceptionInvalid ||| kX87ExceptionPrecision) = true ∧
      (∀ value, (imageContext nanLoaded).memory.accepts
        (memoryAddress nanLoaded (imageContext nanLoaded).instr) value 2 = true) ∧
      ¬IntegerStored exactHost .fistM16int (imageContext nanLoaded) := by
  have hs : X87WellFormed nanLoaded := loaded_wellFormed _
  have hused : nanLoaded.x87IsEmpty 0 = false := by decide +kernel
  have hmasked : x87ExceptionsMasked nanLoaded
      (kX87ExceptionInvalid ||| kX87ExceptionPrecision) = true := by
    decide +kernel
  have hwritable (value : U64) : (imageContext nanLoaded).memory.accepts
      (memoryAddress nanLoaded (imageContext nanLoaded).instr) value 2 = true :=
    imageContext_writable _ rfl value (by decide) (by decide)
  refine ⟨exactFloat_correctlyRounds, hs, hused, hmasked, hwritable, ?_⟩
  rw [@stored_of_refused exactHost .fistM16int (imageContext nanLoaded) hused hmasked hwritable
    exactFloat_correctlyRounds hs (Or.inl (by decide +kernel))]
  decide +kernel

end Seven
