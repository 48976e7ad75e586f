import Mathlib.Tactic.Common

/-!
# A body rerun a bounded number of times

`retry body exhausted n s` runs `body` from `s`; an attempt that answers
`done` ends the loop, one that answers `again` is followed by the next, and
after `n` attempts `exhausted` gives the result. Four questions come up
for such a loop.

When does the bound not matter? `Settles body n s` says that one of the
first `n` attempts is `done`; then any larger bound gives the same result
(`retry_settled`).

What do the attempts so far leave of the loop? `Reaches body k s s'` is `k`
attempts that answer `again`; the loop from `s` is then the loop from `s'`
with `k` attempts less (`retry_reaches`).

How does a loop end? With the answer of an attempt it reaches, or with the
attempts used up (`retry_cases`).

When do two loops agree? `retry_sim`: when related states give related
answers, attempt by attempt.
-/

namespace Seven.Lib

/-- What one attempt answers. -/
inductive Answer (ρ σ : Type*) where
  | done (r : ρ)
  | again (s : σ)

section

variable {ρ σ : Type*} (body : σ → Answer ρ σ) (exhausted : σ → ρ)

/-- The loop: at most `n` rounds, `exhausted` when none of them is the last. -/
def retry : Nat → σ → ρ
  | 0, s => exhausted s
  | n + 1, s =>
    match body s with
    | .done r => r
    | .again s' => retry n s'

/-- One of the first `n` attempts ends the loop. -/
def Settles : Nat → σ → Prop
  | 0, _ => False
  | n + 1, s =>
    match body s with
    | .done _ => True
    | .again s' => Settles n s'

/-- `k` attempts that answer `again`. -/
inductive Reaches : Nat → σ → σ → Prop
  | refl (s : σ) : Reaches 0 s s
  | again {k : Nat} {s s₁ s' : σ} (h : body s = .again s₁) (hrest : Reaches k s₁ s') :
      Reaches (k + 1) s s'

variable {body exhausted}

/-- The round that ends it. -/
theorem retry_done {n : Nat} {s : σ} {r : ρ} (h : body s = .done r) :
    retry body exhausted (n + 1) s = r := by
  rw [retry, h]

/-- A round that goes on. -/
theorem retry_again {n : Nat} {s s' : σ} (h : body s = .again s') :
    retry body exhausted (n + 1) s = retry body exhausted n s' := by
  rw [retry, h]

/-- **Attempts that answer `again` use up the bound and nothing else.** -/
theorem retry_reaches {k : Nat} {s s' : σ} (h : Reaches body k s s') (n : Nat) :
    retry body exhausted (n + k) s = retry body exhausted n s' := by
  induction h with
  | refl s => rfl
  | again hs _ ih =>
    rw [← ih]
    exact retry_again hs

/-- **How a loop ends.** -/
theorem retry_cases : ∀ (n : Nat) (s : σ),
    (∃ k s' r, k < n ∧ Reaches body k s s' ∧ body s' = .done r ∧ retry body exhausted n s = r) ∨
      ∃ s', Reaches body n s s' ∧ retry body exhausted n s = exhausted s'
  | 0, s => Or.inr ⟨s, Reaches.refl s, rfl⟩
  | n + 1, s => by
    cases hs : body s with
    | done r => exact Or.inl ⟨0, s, r, by omega, Reaches.refl s, hs, retry_done hs⟩
    | again t =>
      rw [retry_again hs]
      rcases retry_cases n t with ⟨k, s', r, hk, hreach, hdone, hr⟩ | ⟨s', hreach, hr⟩
      · exact Or.inl ⟨k + 1, s', r, by omega, hreach.again hs, hdone, hr⟩
      · exact Or.inr ⟨s', hreach.again hs, hr⟩

/-- A round that ends it settles it. -/
theorem settles_done {n : Nat} {s : σ} {r : ρ} (h : body s = .done r) :
    Settles body (n + 1) s := by
  rw [Settles, h]
  trivial

/-- A round that goes on leaves the rest to settle it. -/
theorem settles_again_iff {n : Nat} {s s' : σ} (h : body s = .again s') :
    Settles body (n + 1) s ↔ Settles body n s' := by
  rw [Settles, h]

/-- **The bound is invisible to a loop that settles below it.** -/
theorem retry_settled {n m : Nat} {s : σ} (h : Settles body n s) (hnm : n ≤ m) :
    retry body exhausted m s = retry body exhausted n s := by
  induction n generalizing m s with
  | zero => exact absurd h (by simp [Settles])
  | succ n ih =>
    obtain ⟨m, rfl⟩ : ∃ k, m = k + 1 := ⟨m - 1, by omega⟩
    cases hs : body s with
    | done r => rw [retry_done hs, retry_done hs]
    | again s' =>
      rw [retry_again hs, retry_again hs]
      exact ih ((settles_again_iff hs).mp h) (by omega)

end

section

variable {ρ σ ρ' σ' : Type*} {body : σ → Answer ρ σ} {body' : σ' → Answer ρ' σ'}
  {exhausted : σ → ρ} {exhausted' : σ' → ρ'}

/-- Two answers agree up to a relation on results and one on states. -/
def AnswersAgree (Q : ρ → ρ' → Prop) (R : σ → σ' → Prop) : Answer ρ σ → Answer ρ' σ' → Prop
  | .done r, .done r' => Q r r'
  | .again s, .again s' => R s s'
  | _, _ => False

/-- **Attempts that agree make loops that agree.** The relation may depend
on the number of attempts left, so that it can carry a condition on the
attempts to come. -/
theorem retry_sim {Q : ρ → ρ' → Prop} {R : Nat → σ → σ' → Prop}
    (hbody : ∀ n s s', R (n + 1) s s' → AnswersAgree Q (R n) (body s) (body' s'))
    (hexhausted : ∀ s s', R 0 s s' → Q (exhausted s) (exhausted' s')) :
    ∀ n s s', R n s s' → Q (retry body exhausted n s) (retry body' exhausted' n s') := by
  intro n
  induction n with
  | zero => exact hexhausted
  | succ n ih =>
    intro s s' h
    have hb := hbody n s s' h
    -- Both bodies are done, or both go round again.
    cases hs : body s with
    | done r =>
      rw [hs] at hb
      cases hs' : body' s' with
      | done r' =>
        rw [hs'] at hb
        rw [retry_done hs, retry_done hs']
        exact hb
      | again t' =>
        rw [hs'] at hb
        exact hb.elim
    | again t =>
      rw [hs] at hb
      cases hs' : body' s' with
      | done r' =>
        rw [hs'] at hb
        exact hb.elim
      | again t' =>
        rw [hs'] at hb
        rw [retry_again hs, retry_again hs']
        exact ih t t' hb

end

end Seven.Lib
