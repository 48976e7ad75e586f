import Seven.Handlers.FloatLanes
import Seven.Handlers.UpperBits

/-!
# Minimum and maximum

`MINPS` and its siblings return their second operand when an operand is a NaN
or both are zeros, so that a program can choose by the order of the operands.
The handlers call `std::fmin` and `std::fmax`, which return the number when
one operand is a quiet NaN, and may return any of two zeros.

> `min_max_iff`: element by element, when the library's answer is the
> instruction's.
-/

namespace Seven

open Seven.Lib

/-- `MIN` and `MAX`. -/
inductive MinMax where
  | min | max
deriving DecidableEq, Repr

namespace MinMax

/-- The library's operation. -/
def op : MinMax → FloatOp
  | .min => .min
  | .max => .max

/-- Is `a` the answer, by the order of the numbers alone? -/
def wins (m : MinMax) (size : FloatSize) (a b : size.Lane) : Bool :=
  match m with
  | .min => size.less a b
  | .max => size.less b a

/-- The order in which the answer comes first. -/
def Before (m : MinMax) (x y : Int) : Prop :=
  match m with
  | .min => x ≤ y
  | .max => y ≤ x

/-- A NaN, or two zeros. -/
def Special (size : FloatSize) (a b : size.Lane) : Prop :=
  size.unordered a b = true ∨ (size.iszero a = true ∧ size.iszero b = true)

/-- What the instruction is to make of `a` and `b`. -/
structure OperandRule (m : MinMax) (size : FloatSize) (a b r : size.Lane) : Prop where
  second : Special size a b → r = b
  ordered : ¬Special size a b → (r = a ∨ r = b) ∧
    m.Before (size.units r) (size.units a) ∧ m.Before (size.units r) (size.units b)

/-- A special pair gives the second operand. -/
theorem operandRule_special {m : MinMax} {size : FloatSize} {a b r : size.Lane}
    (h : Special size a b) : m.OperandRule size a b r ↔ r = b :=
  ⟨fun hrule => hrule.second h, fun heq => ⟨fun _ => heq, fun hnot => absurd h hnot⟩⟩

end MinMax

/-! ## The library -/

/-- The operand that a library takes where `minNum` and `maxNum` leave it the
choice: of two NaNs, and of two equal numbers. -/
abbrev Choice : Type := MinMax → (size : FloatSize) → size.Lane → size.Lane → Bool

/-- The operand chosen. -/
def Choice.pick (second : Choice) (m : MinMax) (size : FloatSize) (a b : size.Lane) : size.Lane :=
  if second m size a b then b else a

/-- `std::fmin` and `std::fmax` are `minNum` and `maxNum`: a number wins
against a quiet NaN, and a signaling NaN makes the answer a quiet NaN. -/
structure LaneArith.FollowsMinMaxNum (A : LaneArith) (second : Choice) : Prop where
  wins : ∀ (m : MinMax) (size : FloatSize) (a b : size.Lane),
    m.wins size a b = true → A.binary m.op size a b = a
  loses : ∀ (m : MinMax) (size : FloatSize) (a b : size.Lane),
    m.wins size b a = true → A.binary m.op size a b = b
  equal : ∀ (m : MinMax) (size : FloatSize) (a b : size.Lane),
    size.equal a b = true → A.binary m.op size a b = second.pick m size a b
  number_left : ∀ (m : MinMax) (size : FloatSize) (a b : size.Lane),
    size.isnan a = false → size.isnan b = true → size.issignaling b = false →
    A.binary m.op size a b = a
  number_right : ∀ (m : MinMax) (size : FloatSize) (a b : size.Lane),
    size.isnan a = true → size.issignaling a = false → size.isnan b = false →
    A.binary m.op size a b = b
  nans : ∀ (m : MinMax) (size : FloatSize) (a b : size.Lane),
    size.isnan a = true → size.isnan b = true →
    A.binary m.op size a b = second.pick m size a b ||| size.quietBit
  signaling : ∀ (m : MinMax) (size : FloatSize) (a b : size.Lane),
    size.issignaling a = true ∨ size.issignaling b = true →
    size.isnan (A.binary m.op size a b) = true ∧ size.issignaling (A.binary m.op size a b) = false

/-- The operands of which the library's answer is the instruction's. -/
structure Choice.Suits (second : Choice) (m : MinMax) (size : FloatSize) (a b : size.Lane) :
    Prop where
  nan : size.isnan b = true → size.isnan a = true ∧ size.issignaling b = false ∧
    (second m size a b = true ∨ a ||| size.quietBit = b)
  number : size.isnan b = false → size.issignaling a = false ∧
    (size.iszero a = true → size.iszero b = true → a = b ∨ second m size a b = true)

/-! ## Elements -/

section

variable {size : FloatSize} {a b : size.Lane}

/-- A signaling NaN is a NaN. -/
theorem FloatSize.issignaling_isnan (h : size.issignaling a = true) : size.isnan a = true := by
  unfold FloatSize.issignaling at h
  rw [Bool.and_eq_true] at h
  exact h.1

/-- Quieting a quiet NaN changes nothing. -/
theorem FloatSize.quiet_or (hnan : size.isnan a = true) (hquiet : size.issignaling a = false) :
    a ||| size.quietBit = a := by
  have hbit : a &&& size.quietBit ≠ 0#_ := by
    intro hzero
    unfold FloatSize.issignaling at hquiet
    rw [hnan, hzero] at hquiet
    exact absurd hquiet (by simp)
  have hpow : size.quietBit = BitVec.twoPow _ (size.fractionBits - 1) := rfl
  rw [hpow, BitVec.and_twoPow] at hbit
  have hset : a.getLsbD (size.fractionBits - 1) = true := by
    by_contra hclear
    exact hbit (if_neg hclear)
  apply BitVec.eq_of_getLsbD_eq
  intro j hj
  rw [hpow, BitVec.getLsbD_or, BitVec.getLsbD_twoPow]
  by_cases hj' : size.fractionBits - 1 = j
  · rw [← hj', hset, Bool.true_or]
  · rw [decide_eq_false hj', Bool.and_false, Bool.or_false]

/-- A zero is a number. -/
theorem FloatSize.iszero_number (h : size.iszero a = true) : size.isnan a = false := by
  have hfields : size.fields a = 0 := of_decide_eq_true h
  unfold FloatSize.isnan
  rw [hfields]
  exact decide_eq_false (Nat.not_lt_zero _)

/-- Zero of either sign has no units. -/
theorem FloatSize.iszero_units (h : size.iszero a = true) : size.units a = 0 := by
  have hfields : size.fields a = 0 := of_decide_eq_true h
  unfold FloatSize.units
  rw [hfields, Nat.zero_div, Nat.zero_mod]
  simp

/-- Two numbers are ordered. -/
theorem FloatSize.unordered_eq_false (ha : size.isnan a = false) (hb : size.isnan b = false) :
    size.unordered a b = false := by
  unfold FloatSize.unordered
  rw [ha, hb]
  rfl

/-- A NaN is not. -/
theorem FloatSize.unordered_eq_true (h : size.isnan a = true ∨ size.isnan b = true) :
    size.unordered a b = true := by
  unfold FloatSize.unordered
  rcases h with h | h
  · rw [h, Bool.true_or]
  · rw [h, Bool.or_true]

/-- Two numbers are in order, one way or the other, or equal. -/
theorem FloatSize.trichotomy (ha : size.isnan a = false) (hb : size.isnan b = false) :
    (size.less a b = true ∧ size.units a < size.units b) ∨
      (size.equal a b = true ∧ size.units a = size.units b) ∨
      (size.less b a = true ∧ size.units b < size.units a) := by
  have hab := FloatSize.unordered_eq_false ha hb
  have hba := FloatSize.unordered_eq_false hb ha
  unfold FloatSize.less FloatSize.equal
  rw [hab, hba]
  rcases Int.lt_trichotomy (size.units a) (size.units b) with h | h | h
  · exact Or.inl ⟨by simp [h], h⟩
  · exact Or.inr (Or.inl ⟨by simp [h], h⟩)
  · exact Or.inr (Or.inr ⟨by simp [h], h⟩)

variable {A : LaneArith} {second : Choice} (hlib : A.FollowsMinMaxNum second) (m : MinMax)

include hlib

/-- Of two NaNs. -/
theorem operandRule_nans (ha : size.isnan a = true) (hb : size.isnan b = true) :
    A.binary m.op size a b = b ↔
      size.issignaling b = false ∧ (second m size a b = true ∨ a ||| size.quietBit = b) := by
  by_cases hsignaling : size.issignaling b = true
  · refine iff_of_false (fun h => ?_) fun h => Bool.noConfusion (hsignaling.symm.trans h.1)
    have hquiet := (hlib.signaling m size a b (Or.inr hsignaling)).2
    rw [h, hsignaling] at hquiet
    cases hquiet
  · have hquiet := eq_false_of_ne_true hsignaling
    rw [hlib.nans m size a b ha hb]
    unfold Choice.pick
    by_cases hsecond : second m size a b = true
    · rw [if_pos hsecond]
      exact iff_of_true (FloatSize.quiet_or hb hquiet) ⟨hquiet, Or.inl hsecond⟩
    · rw [if_neg hsecond]
      exact ⟨fun h => ⟨hquiet, Or.inr h⟩, fun h => h.2.resolve_left hsecond⟩

/-- Of two numbers. -/
theorem operandRule_numbers (ha : size.isnan a = false) (hb : size.isnan b = false) :
    m.OperandRule size a b (A.binary m.op size a b) ↔
      (size.iszero a = true → size.iszero b = true → a = b ∨ second m size a b = true) := by
  have hordered : ¬size.unordered a b = true := by
    rw [FloatSize.unordered_eq_false ha hb]
    exact Bool.false_ne_true
  -- Two zeros compare equal, and only the sign tells which one is taken.
  by_cases hzeros : size.iszero a = true ∧ size.iszero b = true
  · have hunits := (FloatSize.iszero_units hzeros.1).trans (FloatSize.iszero_units hzeros.2).symm
    have hequal : size.equal a b = true := by
      unfold FloatSize.equal
      rw [FloatSize.unordered_eq_false ha hb, decide_eq_true hunits]
      rfl
    rw [MinMax.operandRule_special (Or.inr hzeros), hlib.equal m size a b hequal]
    unfold Choice.pick
    by_cases hsecond : second m size a b = true
    · rw [if_pos hsecond]
      exact iff_of_true rfl fun _ _ => Or.inr hsecond
    · rw [if_neg hsecond]
      exact ⟨fun h _ _ => Or.inl h, fun h => (h hzeros.1 hzeros.2).resolve_right hsecond⟩
  · have hnot : ¬MinMax.Special size a b := not_or.mpr ⟨hordered, hzeros⟩
    refine iff_of_true ⟨fun h => absurd h hnot, fun _ => ?_⟩ fun hza hzb => absurd ⟨hza, hzb⟩ hzeros
    -- Less, equal or greater: the winner is the one the library names.
    rcases FloatSize.trichotomy ha hb with
      ⟨hless, hunits⟩ | ⟨hequal, hunits⟩ | ⟨hless, hunits⟩
    · cases m with
      | min =>
        rw [hlib.wins .min size a b hless]
        exact ⟨Or.inl rfl, Int.le_refl _, Int.le_of_lt hunits⟩
      | max =>
        rw [hlib.loses .max size a b hless]
        exact ⟨Or.inr rfl, Int.le_of_lt hunits, Int.le_refl _⟩
    · rw [hlib.equal m size a b hequal]
      unfold Choice.pick MinMax.Before
      cases m <;> cases second _ size a b <;> simp [hunits]
    · cases m with
      | min =>
        rw [hlib.loses .min size a b hless]
        exact ⟨Or.inr rfl, Int.le_of_lt hunits, Int.le_refl _⟩
      | max =>
        rw [hlib.wins .max size a b hless]
        exact ⟨Or.inl rfl, Int.le_refl _, Int.le_of_lt hunits⟩

/-- **One element.** -/
theorem operandRule_iff :
    m.OperandRule size a b (A.binary m.op size a b) ↔ second.Suits m size a b := by
  have hsuits : second.Suits m size a b ↔
      (size.isnan b = true → size.isnan a = true ∧ size.issignaling b = false ∧
        (second m size a b = true ∨ a ||| size.quietBit = b)) ∧
      (size.isnan b = false → size.issignaling a = false ∧
        (size.iszero a = true → size.iszero b = true → a = b ∨ second m size a b = true)) :=
    ⟨fun h => ⟨h.nan, h.number⟩, fun h => ⟨h.1, h.2⟩⟩
  have hrule (h : size.isnan a = true ∨ size.isnan b = true) :
      m.OperandRule size a b (A.binary m.op size a b) ↔ A.binary m.op size a b = b :=
    MinMax.operandRule_special (Or.inl (FloatSize.unordered_eq_true h))
  rw [hsuits]
  -- The four cases of which operand is a NaN.
  cases ha : size.isnan a with
  | true =>
    cases hb : size.isnan b with
    | true =>
      rw [hrule (Or.inl ha), operandRule_nans hlib m ha hb]
      exact ⟨fun h => ⟨fun _ => ⟨rfl, h⟩, nofun⟩, fun h => (h.1 rfl).2⟩
    | false =>
      rw [hrule (Or.inl ha)]
      by_cases hsignaling : size.issignaling a = true
      · refine iff_of_false (fun h => ?_) fun h => ?_
        · have hnan := (hlib.signaling m size a b (Or.inl hsignaling)).1
          rw [h, hb] at hnan
          cases hnan
        · exact Bool.noConfusion (hsignaling.symm.trans (h.2 rfl).1)
      · have hquiet := eq_false_of_ne_true hsignaling
        refine iff_of_true (hlib.number_right m size a b ha hquiet hb)
          ⟨nofun, fun _ => ⟨hquiet, fun hzero => ?_⟩⟩
        exact Bool.noConfusion (ha.symm.trans (FloatSize.iszero_number hzero))
  | false =>
    cases hb : size.isnan b with
    | true =>
      rw [hrule (Or.inr hb)]
      refine iff_of_false (fun h => ?_) fun h => Bool.noConfusion (h.1 rfl).1
      -- A signaling NaN is quieted on the way, so the result is not the operand itself.
      by_cases hsignaling : size.issignaling b = true
      · have hquiet := (hlib.signaling m size a b (Or.inr hsignaling)).2
        rw [h, hsignaling] at hquiet
        cases hquiet
      · rw [hlib.number_left m size a b ha hb (eq_false_of_ne_true hsignaling)] at h
        rw [h, hb] at ha
        cases ha
    | false =>
      have hsignaling : size.issignaling a = false := by
        by_contra h
        exact Bool.noConfusion
          ((FloatSize.issignaling_isnan (Bool.eq_true_of_not_eq_false h)).symm.trans ha)
      rw [operandRule_numbers hlib m ha hb]
      exact ⟨fun h => ⟨nofun, fun _ => ⟨hsignaling, h⟩⟩, fun h => (h.2 rfl).2⟩

end

/-! ## Handlers -/

/-- Legacy and VEX, packed and scalar. -/
inductive MinMaxForm where
  | packed | scalar
  | vexPacked (len : VexLength)
  | vexScalar
deriving DecidableEq, Repr

namespace MinMaxForm

/-- The handler's code. -/
def code : MinMaxForm → MinMax → FloatSize → FloatCode
  | .packed, m, size => .packed m.op size
  | .scalar, m, size => .scalar m.op size
  | .vexPacked len, m, size => .vexPacked m.op size len
  | .vexScalar, m, size => .vexScalar m.op size

/-- The elements that are calculated. -/
def count : MinMaxForm → FloatSize → Nat
  | .packed, size => 16 / size.bytes
  | .vexPacked len, size => len.length.bytes / size.bytes
  | .scalar, _ | .vexScalar, _ => 1

/-- The lanes fill the vector. -/
theorem count_bytes (form : MinMaxForm) (m : MinMax) (size : FloatSize) :
    size.bytes * form.count size ≤ (form.code m size).length.bytes := by
  cases form with
  | vexPacked len => cases len <;> cases size <;> cases m <;> decide
  | _ => cases size <;> cases m <;> decide

end MinMaxForm

variable {F : FloatHost} {A : LaneArith} {second : Choice} (form : MinMaxForm) (m : MinMax)
  (size : FloatSize) {ctx after : ExecutionContext} {lhs rhs : BitVec 512}

/-- Every form is the loop over the library's answers. -/
theorem minMax_eq (hdst : F.IsVectorOperand ctx.instr 0)
    (hread : F.floatOperands (ctx.instr.opRegister 0) (form.code m size) ctx =
      .ok (lhs, rhs) ctx) :
    ∃ start, (form.code m size).handler (F.withLanes A) ctx =
      F.reported ctx (!(form.code m size).legacy) (laneLoop (form.count size) start fun i =>
        A.binaryLane m.op size (unpackLane size lhs i) (unpackLane size rhs i)) := by
  have hcompute (mxcsr : BitVec 32) (imm : U64) : ∃ start,
      (F.withLanes A).compute (form.code m size) mxcsr imm lhs rhs =
        laneLoop (form.count size) start fun i =>
          A.binaryLane m.op size (unpackLane size lhs i) (unpackLane size rhs i) := by
    cases form with
    | packed => exact ⟨lhs, rfl⟩
    | scalar => exact ⟨lhs, rfl⟩
    | vexPacked len => exact ⟨0#512, rfl⟩
    | vexScalar => exact ⟨lhs, rfl⟩
  obtain ⟨start, hloop⟩ := hcompute ctx.state.mxcsr ctx.instr.immediate8
  refine ⟨start, ?_⟩
  rw [FloatCode.handler_eq (F.withLanes A) (form.code m size) hdst hread, hloop]
  rfl

/-- An element of the destination is the library's answer. -/
theorem minMax_lane (hdst : F.IsVectorOperand ctx.instr 0)
    (hlength : F.vectorWidth (ctx.instr.opRegister 0) = (form.code m size).length.bytes)
    (hread : F.floatOperands (ctx.instr.opRegister 0) (form.code m size) ctx = .ok (lhs, rhs) ctx)
    (hrun : (form.code m size).handler (F.withLanes A) ctx = .ok () after) {i : Nat}
    (hi : i < form.count size) :
    lane (8 * size.bytes) (F.slotOf after.state ctx.instr 0) i =
      A.binary m.op size (unpackLane size lhs i) (unpackLane size rhs i) := by
  obtain ⟨start, hloop⟩ := minMax_eq (A := A) form m size hdst hread
  rw [hloop] at hrun
  unfold X87Host.reported at hrun
  split at hrun
  next =>
    cases hrun
    exact F.lane_vectorWritten _ _ _ hlength (VectorLength.bytes_bounds _).2
      (form.count_bytes m size) hi
  next => cases hrun

/-- What is masked does not stop. -/
theorem minMax_runs (hdst : F.IsVectorOperand ctx.instr 0)
    (hread : F.floatOperands (ctx.instr.opRegister 0) (form.code m size) ctx = .ok (lhs, rhs) ctx)
    (hmasked : ∀ i < form.count size, sseExceptionsMasked ctx.state
      (A.binaryLane m.op size (unpackLane size lhs i) (unpackLane size rhs i)).2 = true) :
    ∃ after, (form.code m size).handler (F.withLanes A) ctx = .ok () after := by
  obtain ⟨start, hloop⟩ := minMax_eq (A := A) form m size hdst hread
  exact ⟨_, hloop.trans (if_pos ((sseExceptionsMasked_lanes _ _ _).mpr hmasked))⟩

/-- **When the answer is the instruction's**, for an element of its two
operands. -/
theorem min_max_iff (hlib : A.FollowsMinMaxNum second) (hdst : F.IsVectorOperand ctx.instr 0)
    (hlength : F.vectorWidth (ctx.instr.opRegister 0) = (form.code m size).length.bytes)
    (hread : F.floatOperands (ctx.instr.opRegister 0) (form.code m size) ctx = .ok (lhs, rhs) ctx)
    (hrun : (form.code m size).handler (F.withLanes A) ctx = .ok () after) {i : Nat}
    (hi : i < form.count size) :
    m.OperandRule size (unpackLane size lhs i) (unpackLane size rhs i)
        (lane (8 * size.bytes) (F.slotOf after.state ctx.instr 0) i) ↔
      second.Suits m size (unpackLane size lhs i) (unpackLane size rhs i) := by
  rw [minMax_lane form m size hdst hlength hread hrun hi]
  exact operandRule_iff hlib m

/-! ## A library -/

/-- `minNum` or `maxNum`, with the choice that `second` makes. -/
def minMaxNum (second : Choice) (m : MinMax) (size : FloatSize) (a b : size.Lane) : size.Lane :=
  if size.isnan a then
    if size.isnan b then second.pick m size a b ||| size.quietBit
    else if size.issignaling a then a ||| size.quietBit
    else b
  else if size.isnan b then
    if size.issignaling b then b ||| size.quietBit else a
  else if m.wins size a b then a
  else if m.wins size b a then b
  else second.pick m size a b

/-- A library that answers with the number. -/
def numLibrary (second : Choice) : LaneArith where
  binary op size a b :=
    match op with
    | .min => minMaxNum second .min size a b
    | .max => minMaxNum second .max size a b
    | _ => a
  sqrt _ x := x

/-- A quieted NaN is a NaN. -/
theorem FloatSize.isnan_quieted {size : FloatSize} {x : size.Lane} (h : size.isnan x = true) :
    size.isnan (x ||| size.quietBit) = true := by
  have hlt : size.infinity < size.fields x := of_decide_eq_true h
  have hle : size.fields x ≤ size.fields (x ||| size.quietBit) := by
    unfold FloatSize.fields
    rw [BitVec.toNat_or, Nat.or_mod_two_pow]
    exact Nat.left_le_or
  exact decide_eq_true (Nat.lt_of_lt_of_le hlt hle)

/-- It does not signal. -/
theorem FloatSize.issignaling_quieted {size : FloatSize} (x : size.Lane) :
    size.issignaling (x ||| size.quietBit) = false := by
  have hbit : (x ||| size.quietBit) &&& size.quietBit = size.quietBit := by
    apply BitVec.eq_of_getLsbD_eq
    intro j hj
    rw [BitVec.getLsbD_and, BitVec.getLsbD_or]
    cases size.quietBit.getLsbD j <;> simp
  have hset : (size.quietBit == 0#_) = false := by cases size <;> decide
  unfold FloatSize.issignaling
  rw [hbit, hset, Bool.and_false]

/-- Only numbers win. -/
theorem MinMax.wins_number {m : MinMax} {size : FloatSize} {a b : size.Lane}
    (h : m.wins size a b = true) : size.isnan a = false ∧ size.isnan b = false := by
  have hless (x y : size.Lane) (hxy : size.less x y = true) :
      size.isnan x = false ∧ size.isnan y = false := by
    unfold FloatSize.less FloatSize.unordered at hxy
    simp only [Bool.and_eq_true, Bool.not_eq_true', Bool.or_eq_false_iff] at hxy
    exact hxy.1
  cases m with
  | min => exact hless a b h
  | max => exact (hless b a h).symm

/-- They do not both win. -/
theorem MinMax.wins_asymm {m : MinMax} {size : FloatSize} {a b : size.Lane}
    (h : m.wins size a b = true) : m.wins size b a = false := by
  have hless (x y : size.Lane) (hxy : size.less x y = true) : size.less y x = false := by
    unfold FloatSize.less at hxy ⊢
    simp only [Bool.and_eq_true, decide_eq_true_eq] at hxy
    rw [decide_eq_false (Int.not_lt.mpr (Int.le_of_lt hxy.2)), Bool.and_false]
  cases m with
  | min => exact hless a b h
  | max => exact hless b a h

/-- Only numbers are equal. -/
theorem FloatSize.equal_number {size : FloatSize} {a b : size.Lane} (h : size.equal a b = true) :
    size.isnan a = false ∧ size.isnan b = false ∧ size.units a = size.units b := by
  unfold FloatSize.equal FloatSize.unordered at h
  simp only [Bool.and_eq_true, Bool.not_eq_true', Bool.or_eq_false_iff, decide_eq_true_eq] at h
  exact ⟨h.1.1, h.1.2, h.2⟩

/-- Equal numbers do not win. -/
theorem MinMax.wins_equal {m : MinMax} {size : FloatSize} {a b : size.Lane}
    (h : size.units a = size.units b) : m.wins size a b = false := by
  cases m with
  | min =>
    show (_ && decide (size.units a < size.units b)) = false
    rw [decide_eq_false (by omega), Bool.and_false]
  | max =>
    show (_ && decide (size.units b < size.units a)) = false
    rw [decide_eq_false (by omega), Bool.and_false]

/-- The library's minimum and maximum. -/
theorem numLibrary_binary (second : Choice) (m : MinMax) (size : FloatSize) (a b : size.Lane) :
    (numLibrary second).binary m.op size a b = minMaxNum second m size a b := by
  cases m <;> rfl

/-- There is such a library, whatever its choice. -/
theorem numLibrary_follows (second : Choice) : (numLibrary second).FollowsMinMaxNum second where
  wins m size a b h := by
    obtain ⟨ha, hb⟩ := m.wins_number h
    rw [numLibrary_binary, minMaxNum, ha, hb, h]
    rfl
  loses m size a b h := by
    obtain ⟨hb, ha⟩ := m.wins_number h
    rw [numLibrary_binary, minMaxNum, ha, hb, m.wins_asymm h, h]
    rfl
  equal m size a b h := by
    obtain ⟨ha, hb, hunits⟩ := FloatSize.equal_number h
    rw [numLibrary_binary, minMaxNum, ha, hb, m.wins_equal hunits, m.wins_equal hunits.symm]
    rfl
  number_left m size a b ha hb hquiet := by
    rw [numLibrary_binary, minMaxNum, ha, hb, hquiet]
    rfl
  number_right m size a b ha hquiet hb := by
    rw [numLibrary_binary, minMaxNum, ha, hb, hquiet]
    rfl
  nans m size a b ha hb := by
    rw [numLibrary_binary, minMaxNum, ha, hb]
    rfl
  signaling m size a b h := by
    rw [numLibrary_binary]
    unfold minMaxNum
    cases ha : size.isnan a with
    | true =>
      cases hb : size.isnan b with
      | true =>
        have hpick : size.isnan (second.pick m size a b) = true := by
          unfold Choice.pick
          split
          next => exact hb
          next => exact ha
        exact ⟨FloatSize.isnan_quieted hpick, FloatSize.issignaling_quieted _⟩
      | false =>
        have hsignaling : size.issignaling a = true := h.resolve_right fun hb' =>
          Bool.noConfusion (hb.symm.trans (FloatSize.issignaling_isnan hb'))
        simp only [hsignaling, if_true, Bool.false_eq_true, if_false]
        exact ⟨FloatSize.isnan_quieted ha, FloatSize.issignaling_quieted _⟩
    | false =>
      have hsignaling : size.issignaling b = true := h.resolve_left fun ha' =>
        Bool.noConfusion (ha.symm.trans (FloatSize.issignaling_isnan ha'))
      have hb := FloatSize.issignaling_isnan hsignaling
      simp only [hsignaling, hb, if_true, Bool.false_eq_true, if_false]
      exact ⟨FloatSize.isnan_quieted hb, FloatSize.issignaling_quieted _⟩

/-! ## `MINPS XMM0, XMM1` -/

/-- Ones in `XMM0`, `src` in `XMM1`. -/
def onesAgainst (src : BitVec 512) : ExecutionContext :=
  { fullVectors (.other 78) with
    state := { vectors := fun i =>
      if i = vectorSlot 0 then 0x3F8000003F8000003F8000003F800000#512 else src } }

/-- Takes the first operand. -/
def takesFirst : Choice := fun _ _ _ _ => false

/-- `MINPS` of a source against ones. -/
def minps (src : BitVec 512) : EStateM.Result ExecutionResult ExecutionContext Unit :=
  (MinMaxForm.packed.code .min .single).handler (vectorHost.withLanes (numLibrary takesFirst))
    (onesAgainst src)

/-- The operands. -/
def onesRead (src : BitVec 512) : BitVec 512 :=
  vectorHost.readVec (onesAgainst src).state (.other 77)

/-- What it reads. -/
def sourceRead (src : BitVec 512) : BitVec 512 :=
  vectorHost.readVec (onesAgainst src).state (.other 78) &&&
    X87Host.vectorMask (vectorHost.vectorWidth (.other 77))

/-- What `MINPS` leaves in element `i` is right. -/
def MinpsRule (src : BitVec 512) (i : Nat) (after : ExecutionContext) : Prop :=
  MinMax.min.OperandRule .single (unpackLane .single (onesRead src) i)
    (unpackLane .single (sourceRead src) i)
    (lane (8 * FloatSize.single.bytes) (vectorHost.slotOf after.state (onesAgainst src).instr 0) i)

/-- Its destination is a vector. -/
theorem minps_destination (src : BitVec 512) :
    vectorHost.IsVectorOperand (onesAgainst src).instr 0 := by
  have hvector : vectorHost.isVectorRegister (.other 77) = true := by decide
  exact ⟨rfl, hvector⟩

/-- Its operands. -/
theorem minps_reads (src : BitVec 512) :
    vectorHost.floatOperands ((onesAgainst src).instr.opRegister 0)
        (MinMaxForm.packed.code .min .single) (onesAgainst src) =
      .ok (onesRead src, sourceRead src) (onesAgainst src) := rfl

/-- Its length. -/
theorem minps_length (src : BitVec 512) :
    vectorHost.vectorWidth ((onesAgainst src).instr.opRegister 0) =
      (MinMaxForm.packed.code .min .single).length.bytes := by
  show vectorHost.vectorWidth (.other 77) = 16
  decide

/-- Masked exceptions do not stop it. -/
theorem minps_runs {src : BitVec 512} (hmasked : ∀ i < 4, sseExceptionsMasked (onesAgainst src).state
      ((numLibrary takesFirst).binaryLane .min .single (unpackLane .single (onesRead src) i)
        (unpackLane .single (sourceRead src) i)).2 = true) :
    ∃ after, minps src = .ok () after :=
  minMax_runs .packed .min .single (minps_destination src) (minps_reads src) hmasked

/-- Four twos. -/
def twos : BitVec 512 := 0x40000000400000004000000040000000#512

/-- Of one and two. -/
theorem minps_numbers : ∃ after, minps twos = .ok () after ∧ MinpsRule twos 3 after := by
  have hmasked : ∀ i < 4, sseExceptionsMasked (onesAgainst twos).state
      ((numLibrary takesFirst).binaryLane .min .single (unpackLane .single (onesRead twos) i)
        (unpackLane .single (sourceRead twos) i)).2 = true := by decide +kernel
  obtain ⟨after, hrun⟩ := minps_runs hmasked
  have hiff := min_max_iff .packed .min .single (numLibrary_follows takesFirst)
    (minps_destination twos) (minps_length twos) (minps_reads twos) hrun (by decide : 3 < 4)
  have hsuits : takesFirst.Suits .min .single (unpackLane .single (onesRead twos) 3)
      (unpackLane .single (sourceRead twos) 3) := by
    refine ⟨fun hnan => ?_, fun _ => ⟨?_, fun hzero => ?_⟩⟩
    · exact absurd hnan (by decide +kernel)
    · decide +kernel
    · exact absurd hzero (by decide +kernel)
  refine ⟨after, hrun, ?_⟩
  unfold MinpsRule
  exact hiff.mpr hsuits

/-- Of one and a NaN: the one stays. -/
theorem minps_nan : ∃ after, minps (BitVec.allOnes 512) = .ok () after ∧
    ¬MinpsRule (BitVec.allOnes 512) 0 after := by
  obtain ⟨after, hrun⟩ := @minps_runs (BitVec.allOnes 512) (by decide +kernel)
  refine ⟨after, hrun, ?_⟩
  have hlane := minMax_lane .packed .min .single (minps_destination (BitVec.allOnes 512))
    (minps_length _) (minps_reads _) hrun (by decide : 0 < 4)
  unfold MinpsRule
  rw [hlane, operandRule_iff (numLibrary_follows takesFirst) .min]
  exact fun h => absurd (h.nan (by decide +kernel)).1 (by decide +kernel)

end Seven
