import Seven.Lib.Failure

/-!
# Computations that commute with a map on states

Two runs of one computation often differ in a part of the state that the
computation does not look at. `Commutes P f x` says that `x`, started where
`P` holds, does not see the map `f`: run from `f s` it ends as from `s`, with
the same value or error, in the image of the state it ends in — and where it
succeeds, `P` still holds, so that the next computation can be asked the same.

The rules follow the shape of a computation: `Commutes.pure` and
`Commutes.bind`. `Carries P f x` is the one-sided form, for a
map that may make a failure succeed. `Keeps R x` is the companion for one run:
a success relates the state it started in to the state it ends in.
-/

namespace Seven.Lib

variable {ε σ α β : Type}

/-- A result with its state mapped. -/
def mapState (f : σ → σ) : EStateM.Result ε σ α → EStateM.Result ε σ α
  | .ok a s => .ok a (f s)
  | .error e s => .error e (f s)

/-- A bind that succeeds has run both parts. -/
theorem of_bind_ok {x : EStateM ε σ α} {g : α → EStateM ε σ β} {s t : σ} {b : β}
    (h : (x >>= g) s = .ok b t) : ∃ a u, x s = .ok a u ∧ g a u = .ok b t := by
  cases hx : x s with
  | ok a u =>
    rw [bind_ok hx] at h
    exact ⟨a, u, rfl, h⟩
  | error e u =>
    rw [bind_error hx] at h
    cases h

/-- A bind that fails has failed in one of its parts. -/
theorem of_bind_error {x : EStateM ε σ α} {g : α → EStateM ε σ β} {s t : σ} {e : ε}
    (h : (x >>= g) s = .error e t) :
    x s = .error e t ∨ ∃ a u, x s = .ok a u ∧ g a u = .error e t := by
  cases hx : x s with
  | ok a u =>
    rw [bind_ok hx] at h
    exact Or.inr ⟨a, u, rfl, h⟩
  | error e' u =>
    rw [bind_error hx] at h
    cases h
    exact Or.inl rfl

/-- From a state with `P`, the computation does not see `f`. -/
def Commutes (P : σ → Prop) (f : σ → σ) (x : EStateM ε σ α) : Prop :=
  ∀ s, P s → x (f s) = mapState f (x s) ∧ ∀ a s', x s = .ok a s' → P s'

namespace Commutes

variable {P : σ → Prop} {f : σ → σ} {x : EStateM ε σ α} {g : α → EStateM ε σ β} {s s' : σ}

/-- At a run that succeeds. -/
theorem ok {a : α} (h : Commutes P f x) (hs : P s) (hx : x s = .ok a s') :
    x (f s) = .ok a (f s') ∧ P s' := by
  obtain ⟨hmap, hkeep⟩ := h s hs
  rw [hx] at hmap
  exact ⟨hmap, hkeep a s' hx⟩

/-- At a run that fails. -/
theorem error {e : ε} (h : Commutes P f x) (hs : P s) (hx : x s = .error e s') :
    x (f s) = .error e (f s') := by
  have hmap := (h s hs).1
  rw [hx] at hmap
  exact hmap

/-- A success in the image of `f` comes from a success. -/
theorem of_ok_map {a : α} (h : Commutes P f x) (hs : P s) (hx : x (f s) = .ok a s') :
    ∃ t, x s = .ok a t ∧ s' = f t ∧ P t := by
  obtain ⟨hmap, hkeep⟩ := h s hs
  cases hr : x s with
  | ok b t =>
    rw [hx, hr] at hmap
    cases hmap
    exact ⟨t, rfl, rfl, hkeep a t hr⟩
  | error e t =>
    rw [hx, hr] at hmap
    cases hmap

/-- A value. -/
theorem pure (a : α) : Commutes P f (pure a : EStateM ε σ α) := by
  intro s hs
  refine ⟨rfl, ?_⟩
  rintro b s' ⟨⟩
  exact hs

/-- One after the other. -/
theorem bind (hx : Commutes P f x) (hg : ∀ a, Commutes P f (g a)) : Commutes P f (x >>= g) := by
  intro s hs
  cases hr : x s with
  | ok a t =>
    obtain ⟨hmap, ht⟩ := hx.ok hs hr
    rw [bind_ok hmap, bind_ok hr]
    exact hg a t ht
  | error e t =>
    have hmap := hx.error hs hr
    rw [bind_error hmap, bind_error hr]
    refine ⟨rfl, ?_⟩
    rintro b s' ⟨⟩

end Commutes

/-- From a state with `P`, a success of the computation is one from `f s` too,
with the same value and into the image of the state it ended in. A failure may
be anything there: `f` may have removed its cause. -/
def Carries (P : σ → Prop) (f : σ → σ) (x : EStateM ε σ α) : Prop :=
  ∀ s, P s → ∀ a s', x s = .ok a s' → x (f s) = .ok a (f s') ∧ P s'

namespace Carries

variable {P : σ → Prop} {f : σ → σ} {x : EStateM ε σ α} {g : α → EStateM ε σ β}

/-- A value. -/
theorem pure (a : α) : Carries P f (pure a : EStateM ε σ α) := by
  rintro s hs b s' ⟨⟩
  exact ⟨rfl, hs⟩

/-- One after the other. -/
theorem bind (hx : Carries P f x) (hg : ∀ a, Carries P f (g a)) : Carries P f (x >>= g) := by
  intro s hs b s' h
  obtain ⟨a, t, hxa, hga⟩ := of_bind_ok h
  obtain ⟨hxf, ht⟩ := hx s hs a t hxa
  rw [bind_ok hxf]
  exact hg a t ht b s' hga

end Carries

/-- A success of `x` moves along `R`. -/
def Keeps (R : σ → σ → Prop) (x : EStateM ε σ α) : Prop := ∀ s a s', x s = .ok a s' → R s s'

namespace Keeps

variable {R : σ → σ → Prop} {x : EStateM ε σ α} {g : α → EStateM ε σ β}

/-- A value. -/
theorem pure (hrefl : ∀ s, R s s) (a : α) : Keeps R (pure a : EStateM ε σ α) := by
  rintro s b s' ⟨⟩
  exact hrefl s

/-- One after the other. -/
theorem bind (htrans : ∀ {a b c}, R a b → R b c → R a c) (hx : Keeps R x)
    (hg : ∀ a, Keeps R (g a)) : Keeps R (x >>= g) := by
  intro s b s' h
  cases hr : x s with
  | ok a t =>
    rw [bind_ok hr] at h
    exact htrans (hx s a t hr) (hg a t b s' h)
  | error e t =>
    rw [bind_error hr] at h
    cases h

end Keeps

end Seven.Lib
