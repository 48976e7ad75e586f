import Seven.Lib.BoundedRetry

/-!
# Triples for a machine that runs a body over and over

`Triple body P Q` is total correctness of code that runs on such a machine:
from every state in `P` some number of attempts leads to a state in `Q`. The
rules are those of a program logic for code with jumps. Triples in a row are
one triple (`Triple.seq`), and a loop has a variant (`Triple.loop`, and
`Triple.count` for a counter).

`Triple.retry` is the reading for the bounded loop: what the attempts of a
triple have made is what the rest of the loop starts from.
-/

namespace Seven.Lib

variable {ρ σ : Type*} {body : σ → Answer ρ σ}

/-- Two stretches in a row. -/
theorem Reaches.trans {m n : Nat} {s t u : σ} (h : Reaches body m s t) (h' : Reaches body n t u) :
    Reaches body (m + n) s u := by
  induction h with
  | refl s => simpa using h'
  | again hs _ ih =>
    rw [Nat.add_right_comm]
    exact (ih h').again hs

/-- From every state in `P` the attempts lead to one in `Q`. -/
def Triple (body : σ → Answer ρ σ) (P Q : σ → Prop) : Prop :=
  ∀ s, P s → ∃ n t, Reaches body n s t ∧ Q t

section rules

variable {P P' Q Q' R : σ → Prop}

/-- No step. -/
theorem Triple.skip : Triple body P P := fun s h => ⟨0, s, Reaches.refl s, h⟩

/-- One attempt. -/
theorem Triple.one (h : ∀ s, P s → ∃ t, body s = .again t ∧ Q t) : Triple body P Q := by
  intro s hs
  obtain ⟨t, ht, hq⟩ := h s hs
  exact ⟨1, t, (Reaches.refl t).again ht, hq⟩

/-- The rule of consequence. -/
theorem Triple.conseq (h : Triple body P Q) (hpre : ∀ s, P' s → P s) (hpost : ∀ s, Q s → Q' s) :
    Triple body P' Q' := by
  intro s hs
  obtain ⟨n, t, hreach, hq⟩ := h s (hpre s hs)
  exact ⟨n, t, hreach, hpost t hq⟩

/-- The rule of sequence. -/
theorem Triple.seq (h : Triple body P Q) (h' : Triple body Q R) : Triple body P R := by
  intro s hs
  obtain ⟨m, t, hst, hq⟩ := h s hs
  obtain ⟨n, u, htu, hr⟩ := h' t hq
  exact ⟨m + n, u, hst.trans htu, hr⟩

/-- Two ways to go on. -/
theorem Triple.cases (h : Triple body P R) (h' : Triple body Q R) :
    Triple body (fun s => P s ∨ Q s) R := by
  rintro s (hs | hs)
  · exact h s hs
  · exact h' s hs

/-- **The rule of a loop**: every pass ends it or makes the variant smaller. -/
theorem Triple.loop {α : Type*} {r : α → α → Prop} (hwf : WellFounded r) {I : α → σ → Prop}
    (h : ∀ a, Triple body (I a) fun s => Q s ∨ ∃ b, r b a ∧ I b s) (a : α) :
    Triple body (I a) Q := by
  induction a using hwf.induction with
  | h a ih =>
    refine (h a).seq (Triple.cases Triple.skip ?_)
    rintro s ⟨b, hb, hs⟩
    exact ih b hb s hs

/-- **The rule of a loop with a counter.** -/
theorem Triple.count {I : Nat → σ → Prop} (h : ∀ n, Triple body (I (n + 1)) (I n)) (n : Nat) :
    Triple body (I n) (I 0) := by
  induction n with
  | zero => exact Triple.skip
  | succ n ih => exact (h n).seq ih

end rules

/-- **A triple in the bounded loop.** -/
theorem Triple.retry {P Q : σ → Prop} (h : Triple body P Q) {s : σ} (hs : P s) :
    ∃ n t, Q t ∧ Reaches body n s t ∧ ∀ (exhausted : σ → ρ) (m : Nat),
      retry body exhausted (m + n) s = Lib.retry body exhausted m t := by
  obtain ⟨n, t, hreach, hq⟩ := h s hs
  exact ⟨n, t, hq, hreach, fun exhausted m => retry_reaches hreach m⟩

end Seven.Lib
