import Mathlib.Tactic.Common

/-!
# What a failing computation leaves behind

An `EStateM` computation that fails keeps the state it had reached. Code
that is to be run again after a failure has to know what that state is:
`FailsAt bad v x s t` says that whenever `x`, started in `s`, fails with an
error of the kind `bad`, the view `v` of the state it leaves is `t`. With
`t = v s` it says that a failing run is invisible to `v`.

The rules follow the shape of the computation. A bind whose first part
succeeds is judged by its second part, one whose first part fails by the
first (`failsAt_bind_ok`, `failsAt_bind_error`); what cannot fail can be
dropped behind a computation (`failsAt_bind_total`); and a computation that
never changes the state can be dropped in front of one
(`failsAt_quiet_bind`).
-/

namespace Seven.Lib

section

variable {ε σ τ α β : Type}

/-- A failure of `x` from `s` with a `bad` error leaves a state that looks
like `t`. -/
def FailsAt (bad : ε → Prop) (v : σ → τ) (x : EStateM ε σ α) (s : σ) (t : τ) : Prop :=
  ∀ e s', x s = .error e s' → bad e → v s' = t

/-- `x` cannot fail. -/
def Total (x : EStateM ε σ α) : Prop := ∀ s, ∃ a s', x s = .ok a s'

/-- `x` does not change the state, whether it fails or not. -/
def Quiet (x : EStateM ε σ α) : Prop := ∀ s, (∃ a, x s = .ok a s) ∨ ∃ e, x s = .error e s

variable {bad : ε → Prop} {v : σ → τ} {x : EStateM ε σ α} {f : α → EStateM ε σ β} {s s' : σ}
  {t : τ}

/-- A first part that succeeds. -/
theorem bind_ok {a : α} (h : x s = .ok a s') : (x >>= f) s = f a s' := by
  show EStateM.bind x f s = f a s'
  unfold EStateM.bind
  rw [h]

/-- A first part that fails. -/
theorem bind_error {e : ε} (h : x s = .error e s') : (x >>= f) s = .error e s' := by
  show EStateM.bind x f s = .error e s'
  unfold EStateM.bind
  rw [h]

/-! ## One computation -/

/-- A run that succeeds owes nothing. -/
theorem failsAt_ok {a : α} (h : x s = .ok a s') : FailsAt bad v x s t := by
  intro e s'' he
  rw [h] at he
  cases he

/-- A run that fails owes the view. -/
theorem failsAt_error_iff {e : ε} (h : x s = .error e s') (hbad : bad e) :
    FailsAt bad v x s t ↔ v s' = t := by
  constructor
  · intro hx
    exact hx e s' h hbad
  · rintro rfl e' s'' he _
    rw [h] at he
    cases he
    rfl

/-- What cannot fail owes nothing. -/
theorem Total.failsAt (h : Total x) (s : σ) : FailsAt bad v x s t := by
  obtain ⟨a, s', ha⟩ := h s
  exact failsAt_ok ha

/-- What changes nothing fails where it began. -/
theorem Quiet.failsAt (h : Quiet x) (s : σ) : FailsAt bad v x s (v s) := by
  rcases h s with ⟨a, ha⟩ | ⟨e, he⟩
  · exact failsAt_ok ha
  · intro e' s' he' _
    rw [he] at he'
    cases he'
    rfl

/-- What changes nothing ends where it began. -/
theorem Quiet.ok_eq {a : α} (h : Quiet x) (hx : x s = .ok a s') : s' = s := by
  rcases h s with ⟨b, hb⟩ | ⟨e, he⟩
  · rw [hb] at hx
    cases hx
    rfl
  · rw [he] at hx
    cases hx

/-! ## Binds -/

/-- A first part that succeeds leaves it to the rest. -/
theorem failsAt_bind_ok {a : α} (h : x s = .ok a s') :
    FailsAt bad v (x >>= f) s t ↔ FailsAt bad v (f a) s' t := by
  unfold FailsAt
  rw [bind_ok h]

/-- A first part that fails settles it. -/
theorem failsAt_bind_error {e : ε} (h : x s = .error e s') :
    FailsAt bad v (x >>= f) s t ↔ FailsAt bad v x s t := by
  unfold FailsAt
  rw [bind_error h, h]
  constructor
  · intro hx e' s'' he
    cases he
    exact hx e s' rfl
  · intro hx e' s'' he
    cases he
    exact hx e s' rfl

/-- A rest that cannot fail adds nothing. -/
theorem failsAt_bind_total (hf : ∀ a, Total (f a)) :
    FailsAt bad v (x >>= f) s t ↔ FailsAt bad v x s t := by
  cases hx : x s with
  | ok a s' =>
    rw [failsAt_bind_ok hx]
    exact iff_of_true ((hf a).failsAt s') (failsAt_ok hx)
  | error e s' => exact failsAt_bind_error hx

/-- A quiet computation in front only decides what is run. -/
theorem failsAt_quiet_bind (hx : Quiet x) :
    FailsAt bad v (x >>= f) s (v s) ↔ ∀ a, x s = .ok a s → FailsAt bad v (f a) s (v s) := by
  rcases hx s with ⟨a, ha⟩ | ⟨e, he⟩
  · rw [failsAt_bind_ok ha]
    constructor
    · intro h a' ha'
      rw [ha] at ha'
      cases ha'
      exact h
    · intro h
      exact h a ha
  · rw [failsAt_bind_error he]
    refine iff_of_true (hx.failsAt s) ?_
    intro a ha
    rw [he] at ha
    cases ha

/-- One after the other. -/
theorem Total.bind (hx : Total x) (hf : ∀ a, Total (f a)) : Total (x >>= f) := by
  intro s
  obtain ⟨a, s', ha⟩ := hx s
  rw [bind_ok ha]
  exact hf a s'

/-- One after the other. -/
theorem Quiet.bind (hx : Quiet x) (hf : ∀ a, Quiet (f a)) : Quiet (x >>= f) := by
  intro s
  rcases hx s with ⟨a, ha⟩ | ⟨e, he⟩
  · rw [bind_ok ha]
    exact hf a s
  · exact Or.inr ⟨e, bind_error he⟩

/-- A value. -/
theorem Total.pure (a : α) : Total (pure a : EStateM ε σ α) := fun s => ⟨a, s, rfl⟩

/-- A value. -/
theorem Quiet.pure (a : α) : Quiet (pure a : EStateM ε σ α) := fun _ => Or.inl ⟨a, rfl⟩

/-- The state read. -/
theorem Quiet.get : Quiet (get : EStateM ε σ σ) := fun s => Or.inl ⟨s, rfl⟩

end

end Seven.Lib
