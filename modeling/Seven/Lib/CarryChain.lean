import Mathlib.Data.Nat.Digits.Lemmas

/-!
# Carries and borrows through a list of digits

Two numbers are lists of digits in one base, the lowest first. A *column*
takes a digit of each and the carry from the column below, and yields a digit
of the result and the carry into the column above; a chain is one column
after another. What a column does is a parameter. It is exact for an
addition when `d + B * c' = a + b + c`, for a subtraction when
`a + B * c' = d + b + c`, and the two laws telescope:

> `Chain.sum`: the digits and the last carry are those of the exact sum.
> `Chain.difference`: the digits and the last borrow are those of the exact
> difference.
-/

namespace Seven.Lib

/-- `col a b c d c'`: from the digits `a`, `b` and the carry `c`, the digit
`d` and the carry `c'`. -/
abbrev Column := Nat → Nat → Nat → Nat → Nat → Prop

/-- One column after another, the carry of each going into the next. -/
inductive Chain (col : Column) : List Nat → List Nat → Nat → List Nat → Nat → Prop
  | nil (c : Nat) : Chain col [] [] c [] c
  | cons {a b c d c₁ c' : Nat} {as bs ds : List Nat} (hcol : col a b c d c₁)
      (hrest : Chain col as bs c₁ ds c') : Chain col (a :: as) (b :: bs) c (d :: ds) c'

namespace Chain

variable {col : Column} {B c c' : Nat} {as bs ds : List Nat}

/-- Digit for digit. -/
theorem lengths (h : Chain col as bs c ds c') :
    bs.length = as.length ∧ ds.length = as.length := by
  induction h with
  | nil c => exact ⟨rfl, rfl⟩
  | cons hcol hrest ih =>
    rw [List.length_cons, List.length_cons, List.length_cons, ih.1, ih.2]
    exact ⟨rfl, rfl⟩

/-- A chain of a stronger column is one of a weaker. -/
theorem mono {col' : Column} (hcol : ∀ a b c d c', col a b c d c' → col' a b c d c')
    (h : Chain col as bs c ds c') : Chain col' as bs c ds c' := by
  induction h with
  | nil c => exact Chain.nil c
  | cons hd hrest ih => exact Chain.cons (hcol _ _ _ _ _ hd) ih

/-- What holds of every digit a column yields holds of the whole result. -/
theorem digits {P : Nat → Prop} (hP : ∀ a b c d c', col a b c d c' → P d)
    (h : Chain col as bs c ds c') : ∀ d ∈ ds, P d := by
  induction h with
  | nil c => intro d hd; cases hd
  | cons hcol hrest ih =>
    intro d hd
    rcases List.mem_cons.mp hd with rfl | hd
    · exact hP _ _ _ _ _ hcol
    · exact ih d hd

/-- The last carry is one of the carries. -/
theorem last_le {k : Nat} (hcarry : ∀ a b c d c', col a b c d c' → c' ≤ k) (hc : c ≤ k)
    (h : Chain col as bs c ds c') : c' ≤ k := by
  induction h with
  | nil c => exact hc
  | cons hcol hrest ih => exact ih (hcarry _ _ _ _ _ hcol)

/-- Columns that add exactly add the numbers. -/
theorem add_exact (hcol : ∀ a b c d c', col a b c d c' → d + B * c' = a + b + c)
    (h : Chain col as bs c ds c') :
    Nat.ofDigits B ds + B ^ as.length * c' = Nat.ofDigits B as + Nat.ofDigits B bs + c := by
  induction h with
  | nil c => simp
  | @cons a b c d c₁ c' as bs ds hd hrest ih =>
    have hstep := hcol _ _ _ _ _ hd
    simp only [Nat.ofDigits_cons, List.length_cons]
    calc
      d + B * Nat.ofDigits B ds + B ^ (as.length + 1) * c'
          = d + B * (Nat.ofDigits B ds + B ^ as.length * c') := by ring
      _ = d + B * c₁ + B * (Nat.ofDigits B as + Nat.ofDigits B bs) := by rw [ih]; ring
      _ = _ := by rw [hstep]; ring

/-- Columns that subtract exactly subtract them. -/
theorem sub_exact (hcol : ∀ a b c d c', col a b c d c' → a + B * c' = d + b + c)
    (h : Chain col as bs c ds c') :
    Nat.ofDigits B as + B ^ as.length * c' = Nat.ofDigits B ds + Nat.ofDigits B bs + c := by
  induction h with
  | nil c => simp
  | @cons a b c d c₁ c' as bs ds hd hrest ih =>
    have hstep := hcol _ _ _ _ _ hd
    simp only [Nat.ofDigits_cons, List.length_cons]
    calc
      a + B * Nat.ofDigits B as + B ^ (as.length + 1) * c'
          = a + B * (Nat.ofDigits B as + B ^ as.length * c') := by ring
      _ = a + B * c₁ + B * (Nat.ofDigits B ds + Nat.ofDigits B bs) := by rw [ih]; ring
      _ = _ := by rw [hstep]; ring

/-- The result of a chain is a number of the operands' length. -/
theorem result_lt (hB : 1 < B) (hdigit : ∀ a b c d c', col a b c d c' → d < B)
    (h : Chain col as bs c ds c') : Nat.ofDigits B ds < B ^ as.length := by
  rw [← h.lengths.2]
  exact Nat.ofDigits_lt_base_pow_length hB (h.digits hdigit)

/-- **Addition.** The result is the exact sum modulo `B ^ n`, and the last
carry is set exactly when that cut something off. -/
theorem sum (hB : 1 < B) (hdigit : ∀ a b c d c', col a b c d c' → d < B)
    (hcarry : ∀ a b c d c', col a b c d c' → c' ≤ 1) (hc : c ≤ 1)
    (hcol : ∀ a b c d c', col a b c d c' → d + B * c' = a + b + c)
    (h : Chain col as bs c ds c') :
    Nat.ofDigits B ds = (Nat.ofDigits B as + Nat.ofDigits B bs + c) % B ^ as.length ∧
      (c' = 1 ↔ B ^ as.length ≤ Nat.ofDigits B as + Nat.ofDigits B bs + c) := by
  have hlt := h.result_lt hB hdigit
  have hexact := h.add_exact hcol
  have hle := h.last_le hcarry hc
  rw [← hexact]
  constructor
  · rw [Nat.add_mul_mod_self_left, Nat.mod_eq_of_lt hlt]
  · rcases (show c' = 0 ∨ c' = 1 by omega) with rfl | rfl
    · rw [Nat.mul_zero]
      omega
    · rw [Nat.mul_one]
      omega

/-- **Subtraction.** The result is the exact difference modulo `B ^ n`, and
the last borrow is set exactly when the subtrahend is the greater. -/
theorem difference (hB : 1 < B) (hdigit : ∀ a b c d c', col a b c d c' → d < B)
    (hcarry : ∀ a b c d c', col a b c d c' → c' ≤ 1) (hc : c ≤ 1)
    (hcol : ∀ a b c d c', col a b c d c' → a + B * c' = d + b + c)
    (h : Chain col as bs c ds c') :
    ((Nat.ofDigits B ds : Nat) : Int) =
        ((Nat.ofDigits B as : Nat) - (Nat.ofDigits B bs : Nat) - c : Int) %
          (B ^ as.length : Nat) ∧
      (c' = 1 ↔ Nat.ofDigits B as < Nat.ofDigits B bs + c) := by
  have hlt := h.result_lt hB hdigit
  have hexact := h.sub_exact hcol
  have hle := h.last_le hcarry hc
  generalize Nat.ofDigits B as = x at *
  generalize Nat.ofDigits B bs = y at *
  generalize Nat.ofDigits B ds = z at *
  rcases (show c' = 0 ∨ c' = 1 by omega) with rfl | rfl
  · rw [Nat.mul_zero, Nat.add_zero] at hexact
    refine ⟨?_, by omega⟩
    rw [show (x - y - c : Int) = z by omega, Int.emod_eq_of_lt (by omega) (by omega)]
  · rw [Nat.mul_one] at hexact
    refine ⟨?_, by omega⟩
    rw [show (x - y - c : Int) = z + (B ^ as.length : Nat) * (-1) by omega,
      Int.add_mul_emod_self_left, Int.emod_eq_of_lt (by omega) (by omega)]

end Chain

/-! ## Machines with a carry flag -/

section Runs

variable {α σ : Type*}

/-- `step x y s s' z`: one step of the machine on the digits `x` and `y`, from
the state `s` to `s'`, with `z` for its result. -/
abbrev DigitStep (α σ : Type*) := α → α → σ → σ → α → Prop

/-- A step on each pair of digits, lowest first. Between two of them the state
may change in any way that leaves the carry flag alone. -/
inductive DigitRun (step : DigitStep α σ) (carry : σ → Bool) :
    Bool → List α → List α → List α → Bool → Prop
  | nil (cf : Bool) : DigitRun step carry cf [] [] [] cf
  | cons {x y z : α} {xs ys zs : List α} {s s' : σ} {cf' : Bool} (hstep : step x y s s' z)
      (hrest : DigitRun step carry (carry s') xs ys zs cf') :
      DigitRun step carry (carry s) (x :: xs) (y :: ys) (z :: zs) cf'

/-- One kind of step on the lowest digits, another on all above. -/
inductive LongRun (first next : DigitStep α σ) (carry : σ → Bool) :
    List α → List α → List α → Bool → Prop
  | mk {x y z : α} {xs ys zs : List α} {s s' : σ} {cf' : Bool} (hlow : first x y s s' z)
      (hrest : DigitRun next carry (carry s') xs ys zs cf') :
      LongRun first next carry (x :: xs) (y :: ys) (z :: zs) cf'

/-- From every carry the step can be taken on digits that are `valid`. -/
def StepExists (step : DigitStep α σ) (carry : σ → Bool) (valid : α → Prop) : Prop :=
  ∀ x y cf, valid x → valid y → ∃ s s' z, carry s = cf ∧ step x y s s' z

/-- The column of a step that takes the carry `taken s` in. -/
def stepColumn (step : DigitStep α σ) (carry : σ → Bool) (taken : σ → Bool) (value : α → Nat) :
    Column := fun a b c d c' =>
  ∃ x y z s s', step x y s s' z ∧ value x = a ∧ value y = b ∧ (taken s).toNat = c ∧
    value z = d ∧ (carry s').toNat = c'

variable {first next : DigitStep α σ} {carry : σ → Bool} {value : α → Nat} {xs ys zs : List α}
  {cf cf' : Bool} {B : Nat}

/-- Any two lists of valid digits of one length are run through. -/
theorem digitRun_exists {valid : α → Prop} (hnext : StepExists next carry valid) :
    ∀ (xs ys : List α) (cf : Bool), ys.length = xs.length → (∀ x ∈ xs, valid x) →
      (∀ y ∈ ys, valid y) → ∃ zs cf', DigitRun next carry cf xs ys zs cf'
  | [], [], cf, _, _, _ => ⟨[], cf, DigitRun.nil cf⟩
  | x :: xs, y :: ys, cf, hlen, hxs, hys => by
    obtain ⟨s, s', z, rfl, hstep⟩ := hnext x y cf (hxs x List.mem_cons_self)
      (hys y List.mem_cons_self)
    obtain ⟨zs, cf', hrest⟩ := digitRun_exists hnext xs ys (carry s') (Nat.succ.inj hlen)
      (fun x hx => hxs x (List.mem_cons_of_mem _ hx))
      (fun y hy => hys y (List.mem_cons_of_mem _ hy))
    exact ⟨z :: zs, cf', DigitRun.cons hstep hrest⟩

/-- A long run exists where every step does. -/
theorem longRun_exists {valid : α → Prop} (hfirst : StepExists first carry valid)
    (hnext : StepExists next carry valid) (hne : xs ≠ []) (hlen : ys.length = xs.length)
    (hxs : ∀ x ∈ xs, valid x) (hys : ∀ y ∈ ys, valid y) :
    ∃ zs cf, LongRun first next carry xs ys zs cf := by
  cases xs with
  | nil => exact absurd rfl hne
  | cons x xs =>
    cases ys with
    | nil => cases hlen
    | cons y ys =>
      obtain ⟨s, s', z, -, hlow⟩ := hfirst x y false (hxs x List.mem_cons_self)
        (hys y List.mem_cons_self)
      obtain ⟨zs, cf, hrest⟩ := digitRun_exists hnext xs ys (carry s') (Nat.succ.inj hlen)
        (fun x hx => hxs x (List.mem_cons_of_mem _ hx))
        (fun y hy => hys y (List.mem_cons_of_mem _ hy))
      exact ⟨z :: zs, cf, LongRun.mk hlow hrest⟩

/-- A run is a chain of its own columns. -/
theorem DigitRun.chain (h : DigitRun next carry cf xs ys zs cf') :
    Chain (stepColumn next carry carry value) (xs.map value) (ys.map value) cf.toNat
      (zs.map value) cf'.toNat := by
  induction h with
  | nil cf => exact Chain.nil _
  | cons hstep hrest ih => exact Chain.cons ⟨_, _, _, _, _, hstep, rfl, rfl, rfl, rfl, rfl⟩ ih

/-- What holds of every result of a step holds of the whole result. -/
theorem DigitRun.results {P : α → Prop} (hP : ∀ x y s s' z, next x y s s' z → P z)
    (h : DigitRun next carry cf xs ys zs cf') : ∀ z ∈ zs, P z := by
  induction h with
  | nil cf => intro z hz; cases hz
  | cons hstep hrest ih =>
    intro z hz
    rcases List.mem_cons.mp hz with rfl | hz
    · exact hP _ _ _ _ _ hstep
    · exact ih z hz

/-- What every step's result has, all results have. -/
theorem LongRun.results {P : α → Prop} (hfirst : ∀ x y s s' z, first x y s s' z → P z)
    (hnext : ∀ x y s s' z, next x y s s' z → P z) (h : LongRun first next carry xs ys zs cf) :
    ∀ z ∈ zs, P z := by
  cases h with
  | mk hlow hrest =>
    intro z hz
    rcases List.mem_cons.mp hz with rfl | hz
    · exact hfirst _ _ _ _ _ hlow
    · exact hrest.results hnext z hz

/-- The columns of a long run: the lowest takes no carry in. -/
def longColumn (first next : DigitStep α σ) (carry : σ → Bool) (value : α → Nat) : Column :=
  fun a b c d c' => stepColumn first carry (fun _ => false) value a b c d c' ∨
    stepColumn next carry carry value a b c d c'

/-- A long run is a chain that starts without a carry. -/
theorem LongRun.chain (h : LongRun first next carry xs ys zs cf) :
    Chain (longColumn first next carry value) (xs.map value) (ys.map value) 0 (zs.map value)
      cf.toNat := by
  cases h with
  | mk hlow hrest =>
    refine Chain.cons (Or.inl ⟨_, _, _, _, _, hlow, rfl, rfl, rfl, rfl, rfl⟩) ?_
    exact hrest.chain.mono fun _ _ _ _ _ h => Or.inr h

/-- What both steps do to the numbers of their digits, the columns do. -/
theorem longColumn_law {law : Column}
    (hfirst : ∀ x y s s' z, first x y s s' z →
      law (value x) (value y) 0 (value z) (carry s').toNat)
    (hnext : ∀ x y s s' z, next x y s s' z →
      law (value x) (value y) (carry s).toNat (value z) (carry s').toNat) :
    ∀ a b c d c', longColumn first next carry value a b c d c' → law a b c d c' := by
  rintro a b c d c' (⟨_, _, _, _, _, hs, rfl, rfl, rfl, rfl, rfl⟩ |
    ⟨_, _, _, _, _, hs, rfl, rfl, rfl, rfl, rfl⟩)
  · exact hfirst _ _ _ _ _ hs
  · exact hnext _ _ _ _ _ hs

/-- The carry of a column is a digit. -/
theorem longColumn_carry : ∀ a b c d c', longColumn first next carry value a b c d c' → c' ≤ 1 := by
  rintro a b c d c' (⟨_, _, _, _, _, -, -, -, -, -, rfl⟩ | ⟨_, _, _, _, _, -, -, -, -, -, rfl⟩) <;>
    exact Bool.toNat_le _

/-- **Addition by steps.** -/
theorem LongRun.sum (hB : 1 < B)
    (hfirst : ∀ x y s s' z, first x y s s' z →
      value z < B ∧ value z + B * (carry s').toNat = value x + value y)
    (hnext : ∀ x y s s' z, next x y s s' z →
      value z < B ∧ value z + B * (carry s').toNat = value x + value y + (carry s).toNat)
    (h : LongRun first next carry xs ys zs cf) :
    Nat.ofDigits B (zs.map value) =
        (Nat.ofDigits B (xs.map value) + Nat.ofDigits B (ys.map value)) % B ^ xs.length ∧
      (cf = true ↔
        B ^ xs.length ≤ Nat.ofDigits B (xs.map value) + Nat.ofDigits B (ys.map value)) := by
  have hdigit : ∀ a b c d c', longColumn first next carry value a b c d c' → d < B :=
    longColumn_law (fun _ _ _ _ _ hs => (hfirst _ _ _ _ _ hs).1)
      fun _ _ _ _ _ hs => (hnext _ _ _ _ _ hs).1
  have hcolumn : ∀ a b c d c', longColumn first next carry value a b c d c' → d + B * c' = a + b + c :=
    longColumn_law (fun _ _ _ _ _ hs => (hfirst _ _ _ _ _ hs).2)
      fun _ _ _ _ _ hs => (hnext _ _ _ _ _ hs).2
  have hlaw := (@LongRun.chain _ _ first next carry value xs ys zs cf h).sum hB hdigit
    longColumn_carry (Nat.zero_le 1) hcolumn
  rw [List.length_map, Nat.add_zero] at hlaw
  rw [show cf = true ↔ cf.toNat = 1 by cases cf <;> decide]
  exact hlaw

/-- **Subtraction by steps.** -/
theorem LongRun.difference (hB : 1 < B)
    (hfirst : ∀ x y s s' z, first x y s s' z →
      value z < B ∧ value x + B * (carry s').toNat = value z + value y)
    (hnext : ∀ x y s s' z, next x y s s' z →
      value z < B ∧ value x + B * (carry s').toNat = value z + value y + (carry s).toNat)
    (h : LongRun first next carry xs ys zs cf) :
    ((Nat.ofDigits B (zs.map value) : Nat) : Int) =
        ((Nat.ofDigits B (xs.map value) : Nat) - (Nat.ofDigits B (ys.map value) : Nat) : Int) %
          (B ^ xs.length : Nat) ∧
      (cf = true ↔ Nat.ofDigits B (xs.map value) < Nat.ofDigits B (ys.map value)) := by
  have hdigit : ∀ a b c d c', longColumn first next carry value a b c d c' → d < B :=
    longColumn_law (fun _ _ _ _ _ hs => (hfirst _ _ _ _ _ hs).1)
      fun _ _ _ _ _ hs => (hnext _ _ _ _ _ hs).1
  have hcolumn : ∀ a b c d c', longColumn first next carry value a b c d c' → a + B * c' = d + b + c :=
    longColumn_law (fun _ _ _ _ _ hs => (hfirst _ _ _ _ _ hs).2)
      fun _ _ _ _ _ hs => (hnext _ _ _ _ _ hs).2
  have hlaw := (@LongRun.chain _ _ first next carry value xs ys zs cf h).difference hB hdigit
    longColumn_carry (Nat.zero_le 1) hcolumn
  rw [List.length_map, Nat.add_zero, Int.natCast_zero, Int.sub_zero] at hlaw
  rw [show cf = true ↔ cf.toNat = 1 by cases cf <;> decide]
  exact hlaw

end Runs

end Seven.Lib
