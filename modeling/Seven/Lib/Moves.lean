import Seven.Lib.Commutes

/-!
# Relations a computation moves along

What a computation leaves alone, or keeps true, is a relation between the
state it starts in and the state it ends in. `Moves R x` says that every run
of `x` is along `R`, whether it ends with a value or with an error;
`FailsAlong R x` says it of the failing runs only. With `IsPath R` the rules
follow the sequencing: a bind moves along `R` when its parts do, and fails
along `R` when its first part moves and its second part fails along `R`. So a
change behind the last step that can fail never counts.

`MovesAt` is the same at one state, for computations that use what they have
read of it. `Raises P x` is about the errors themselves: every error that `x`
ends with is a `P`.
-/

namespace Seven.Lib

variable {ε σ α β : Type}

/-- The state a run ends in. -/
def finalState : EStateM.Result ε σ α → σ
  | .ok _ s => s
  | .error _ s => s

/-- A relation that runs compose along. -/
structure IsPath (R : σ → σ → Prop) : Prop where
  refl : ∀ s, R s s
  trans : ∀ {a b c}, R a b → R b c → R a c

/-- The run from `s` ends along `R`, whether it fails or not. -/
def MovesAt (R : σ → σ → Prop) (x : EStateM ε σ α) (s : σ) : Prop := R s (finalState (x s))

/-- Every run does. -/
def Moves (R : σ → σ → Prop) (x : EStateM ε σ α) : Prop := ∀ s, MovesAt R x s

/-- Every run that fails does. -/
def FailsAlong (R : σ → σ → Prop) (x : EStateM ε σ α) : Prop := ∀ s e s', x s = .error e s' → R s s'

variable {R : σ → σ → Prop} {x : EStateM ε σ α} {f : α → EStateM ε σ β} {s s' : σ}

/-- At a run that succeeds. -/
theorem MovesAt.ok {a : α} (h : MovesAt R x s) (hx : x s = .ok a s') : R s s' := by
  unfold MovesAt at h
  rw [hx] at h
  exact h

/-- At a run that fails. -/
theorem MovesAt.error {e : ε} (h : MovesAt R x s) (hx : x s = .error e s') : R s s' := by
  unfold MovesAt at h
  rw [hx] at h
  exact h

/-- One after the other, from one state. -/
theorem MovesAt.bind (hR : IsPath R) (hx : MovesAt R x s) (hf : ∀ a, Moves R (f a)) :
    MovesAt R (x >>= f) s := by
  unfold MovesAt
  cases hr : x s with
  | ok a t =>
    rw [bind_ok hr]
    exact hR.trans (hx.ok hr) (hf a t)
  | error e t =>
    rw [bind_error hr]
    exact hx.error hr

namespace Moves

/-- A value. -/
theorem pure (hR : IsPath R) (a : α) : Moves R (pure a : EStateM ε σ α) := hR.refl

/-- What changes nothing. -/
theorem of_quiet (hR : IsPath R) (hx : Quiet x) : Moves R x := by
  intro s
  unfold MovesAt
  rcases hx s with ⟨a, ha⟩ | ⟨e, he⟩
  · rw [ha]
    exact hR.refl s
  · rw [he]
    exact hR.refl s

/-- One after the other. -/
theorem bind (hR : IsPath R) (hx : Moves R x) (hf : ∀ a, Moves R (f a)) : Moves R (x >>= f) :=
  fun s => (hx s).bind hR hf

/-- A program that looks at its state first. -/
theorem get_bind {g : σ → EStateM ε σ β} (hg : ∀ s, MovesAt R (g s) s) : Moves R (get >>= g) := hg

/-- Either branch. -/
theorem ite {c : Prop} [Decidable c] {y : EStateM ε σ α} (hx : Moves R x) (hy : Moves R y) :
    Moves R (if c then x else y) := by
  by_cases h : c
  · rw [if_pos h]
    exact hx
  · rw [if_neg h]
    exact hy

/-- The two halves put together. -/
theorem of_keeps (hok : Keeps R x) (herror : FailsAlong R x) : Moves R x := by
  intro s
  unfold MovesAt
  cases hx : x s with
  | ok a s' => exact hok s a s' hx
  | error e s' => exact herror s e s' hx

/-- A stronger relation. -/
theorem mono {Q : σ → σ → Prop} (h : Moves R x) (hRQ : ∀ s t, R s t → Q s t) : Moves Q x :=
  fun s => hRQ s _ (h s)

/-- The half about failures. -/
theorem failsAlong (h : Moves R x) : FailsAlong R x := fun s _ _ hx => (h s).error hx

end Moves

namespace FailsAlong

/-- A stronger relation. -/
theorem mono {Q : σ → σ → Prop} (h : FailsAlong R x) (hRQ : ∀ s t, R s t → Q s t) :
    FailsAlong Q x := fun s e s' hx => hRQ s s' (h s e s' hx)

/-- What cannot fail. -/
theorem of_total (h : Total x) : FailsAlong R x := by
  intro s e s' hx
  obtain ⟨a, t, ha⟩ := h s
  rw [ha] at hx
  cases hx

/-- One after the other. -/
theorem bind (hR : IsPath R) (hx : Moves R x) (hf : ∀ a, FailsAlong R (f a)) :
    FailsAlong R (x >>= f) := by
  intro s e s' h
  rcases of_bind_error h with hx' | ⟨a, u, hx', hf'⟩
  · exact (hx s).error hx'
  · exact hR.trans ((hx s).ok hx') (hf a u e s' hf')

/-- **A change that cannot fail does not count.** -/
theorem bind_total (hx : FailsAlong R x) (hf : ∀ a, Total (f a)) : FailsAlong R (x >>= f) := by
  intro s e s' h
  rcases of_bind_error h with hx' | ⟨a, u, _, hf'⟩
  · exact hx s e s' hx'
  · obtain ⟨b, t, hb⟩ := hf a u
    rw [hb] at hf'
    cases hf'

end FailsAlong

/-! ## Errors -/

/-- Every error has `P`. -/
def Raises (P : ε → Prop) (x : EStateM ε σ α) : Prop := ∀ s e s', x s = .error e s' → P e

namespace Raises

variable {P : ε → Prop}

/-- What cannot fail. -/
theorem of_total (h : Total x) : Raises P x := by
  intro s e s' hx
  obtain ⟨a, t, ha⟩ := h s
  rw [ha] at hx
  cases hx

/-- A value. -/
theorem pure (a : α) : Raises P (pure a : EStateM ε σ α) := of_total (.pure a)

/-- One after the other. -/
theorem bind (hx : Raises P x) (hf : ∀ a, Raises P (f a)) : Raises P (x >>= f) := by
  intro s e s' h
  rcases of_bind_error h with hx' | ⟨a, u, _, hf'⟩
  · exact hx s e s' hx'
  · exact hf a u e s' hf'

/-- A program that looks at its state first. -/
theorem get_bind {g : σ → EStateM ε σ β} (hg : ∀ s, Raises P (g s)) : Raises P (get >>= g) :=
  fun s e s' h => hg s s e s' h

/-- Either branch. -/
theorem ite {c : Prop} [Decidable c] {y : EStateM ε σ α} (hx : Raises P x) (hy : Raises P y) :
    Raises P (if c then x else y) := by
  by_cases h : c
  · rw [if_pos h]
    exact hx
  · rw [if_neg h]
    exact hy

end Raises

end Seven.Lib
