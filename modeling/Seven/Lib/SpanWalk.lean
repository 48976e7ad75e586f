import Mathlib.Data.Nat.ModEq
import Mathlib.Tactic.Common

/-!
# Walking a byte span that is cut at page boundaries

A paged store serves an access of `n` bytes at a wrapping address `a` by
visiting one *chunk* per page: index `a / P`, offset `a % P`, and as many
bytes as fit before the page ends. The loop is `walk` below, over an
arbitrary page size `P`, address width `w` and loop state `σ`.

Reasoning about chunks is awkward (the first and last are partial), so the
module's result `walk_eq_walkBytes` replaces the chunked loop by
`walkBytes`, the loop that does one byte at a time: it applies whenever a
visit of `k + 1` bytes is a visit of one byte followed by a visit of the
`k` remaining ones (`Splits`). From then on every fact about a span is an
induction on its length.

`walk_sim` is the other rule: two walks whose visits agree up to a relation
between their loop states agree up to it.
-/

namespace Seven.Lib

variable {σ τ : Type*} {w : Nat}

/-- Continue with `k` when the first stage succeeded; a failed stage keeps
the state it stopped in. -/
def andThen (r : σ × Bool) (k : σ → σ × Bool) : σ × Bool :=
  if r.2 then k r.1 else r

/-- Going on. -/
@[simp] theorem andThen_true (s : σ) (k : σ → σ × Bool) : andThen (s, true) k = k s := rfl

/-- Stopping. -/
@[simp] theorem andThen_false (s : σ) (k : σ → σ × Bool) :
    andThen (s, false) k = (s, false) := rfl

/-- Steps are associative. -/
theorem andThen_assoc (r : σ × Bool) (k l : σ → σ × Bool) :
    andThen (andThen r k) l = andThen r (fun s => andThen (k s) l) := by
  obtain ⟨s, b⟩ := r
  cases b <;> rfl

/-- Nothing behind. -/
theorem andThen_pure (r : σ × Bool) : andThen r (fun s => (s, true)) = r := by
  obtain ⟨s, b⟩ := r
  cases b <;> rfl

/-- The page walk: visit the chunk of the current page, advance by its
length, stop at the first failed visit. `fuel` bounds the number of chunks;
any fuel of at least `n` is enough, since a chunk is never empty. -/
def walk (P : Nat) (visit : Nat → Nat → Nat → σ → σ × Bool) :
    Nat → BitVec w → Nat → σ → σ × Bool
  | 0, _, _, s => (s, true)
  | fuel + 1, current, remaining, s =>
    if remaining = 0 then (s, true)
    else
      let pageIndex := current.toNat / P
      let pageOffset := current.toNat % P
      let chunk := min remaining (P - pageOffset)
      andThen (visit pageIndex pageOffset chunk s) fun s' =>
        walk P visit fuel (current + BitVec.ofNat w chunk) (remaining - chunk) s'

/-- The same span, one byte at a time. -/
def walkBytes (step : BitVec w → σ → σ × Bool) : Nat → BitVec w → σ → σ × Bool
  | 0, _, s => (s, true)
  | n + 1, a, s => andThen (step a s) fun s' => walkBytes step n (a + 1#w) s'

/-- A visit that can be cut after its first byte, whose one-byte form is
`step`. -/
structure Splits (P : Nat) (visit : Nat → Nat → Nat → σ → σ × Bool)
    (step : BitVec w → σ → σ × Bool) : Prop where
  one : ∀ a s, visit (a.toNat / P) (a.toNat % P) 1 s = step a s
  cons : ∀ page off k s, 0 < k → off + (k + 1) ≤ P →
    visit page off (k + 1) s = andThen (visit page off 1 s) (visit page (off + 1) k)

/-- Cutting a byte walk in two. -/
theorem walkBytes_add (step : BitVec w → σ → σ × Bool) (m n : Nat) (a : BitVec w) (s : σ) :
    walkBytes step (m + n) a s =
      andThen (walkBytes step m a s) (walkBytes step n (a + BitVec.ofNat w m)) := by
  induction m generalizing a s with
  | zero => simp [walkBytes]
  | succ m ih =>
    rw [show m + 1 + n = (m + n) + 1 by omega]
    simp only [walkBytes, andThen_assoc]
    congr 1
    funext s'
    rw [ih, BitVec.add_assoc, BitVec.ofNat_add_ofNat, Nat.add_comm 1 m]

/-- Inside a page, the next address has the same page index and the next
offset. -/
theorem succ_in_page {P : Nat} (hdvd : P ∣ 2 ^ w) {a : BitVec w}
    (h : a.toNat % P + 1 < P) :
    (a + 1#w).toNat / P = a.toNat / P ∧ (a + 1#w).toNat % P = a.toNat % P + 1 := by
  have hP : 0 < P := by omega
  -- The page size divides `2 ^ w`, so the last address of the space ends a page.
  have hlt : a.toNat + 1 < 2 ^ w := by
    obtain ⟨q, hq⟩ := hdvd
    have ha := a.isLt
    have hdiv : a.toNat / P < q := by
      rw [hq] at ha
      exact Nat.div_lt_of_lt_mul ha
    calc a.toNat + 1 = P * (a.toNat / P) + (a.toNat % P + 1) := by
          rw [← Nat.add_assoc, Nat.div_add_mod]
      _ < P * (a.toNat / P) + P := by omega
      _ = P * (a.toNat / P + 1) := by rw [Nat.mul_add, Nat.mul_one]
      _ ≤ P * q := Nat.mul_le_mul_left P hdiv
      _ = 2 ^ w := hq.symm
  have hsucc : (a + 1#w).toNat = a.toNat + 1 := by
    rw [BitVec.toNat_add]
    have hone : (1#w).toNat = 1 := by
      rw [BitVec.toNat_ofNat]
      exact Nat.mod_eq_of_lt (by omega)
    rw [hone]
    exact Nat.mod_eq_of_lt hlt
  have hsplit : a.toNat + 1 = (a.toNat % P + 1) + P * (a.toNat / P) := by
    have := Nat.mod_add_div a.toNat P
    omega
  rw [hsucc, hsplit]
  constructor
  · rw [Nat.add_mul_div_left _ _ hP, Nat.div_eq_of_lt h, Nat.zero_add]
  · rw [Nat.add_mul_mod_self_left, Nat.mod_eq_of_lt h]

/-- A visit of a whole chunk is a byte walk over it. -/
theorem Splits.chunk {P : Nat} {visit : Nat → Nat → Nat → σ → σ × Bool}
    {step : BitVec w → σ → σ × Bool} (h : Splits P visit step) (hdvd : P ∣ 2 ^ w) :
    ∀ k a s, 0 < k → a.toNat % P + k ≤ P →
      visit (a.toNat / P) (a.toNat % P) k s = walkBytes step k a s := by
  intro k
  induction k with
  | zero => intro a s h0; omega
  | succ k ih =>
    intro a s _ hk
    rcases Nat.eq_zero_or_pos k with rfl | hpos
    · rw [h.one]
      simp [walkBytes, andThen_pure]
    · obtain ⟨hdiv, hmod⟩ := succ_in_page hdvd (a := a) (by omega)
      rw [h.cons _ _ _ _ hpos hk, h.one]
      simp only [walkBytes]
      congr 1
      funext s'
      have := ih (a + 1#w) s' hpos (by omega)
      rwa [hdiv, hmod] at this

/-- **The chunked walk is the byte walk.** -/
theorem walk_eq_walkBytes {P : Nat} {visit : Nat → Nat → Nat → σ → σ × Bool}
    {step : BitVec w → σ → σ × Bool} (h : Splits P visit step) (hP : 0 < P)
    (hdvd : P ∣ 2 ^ w) : ∀ fuel n (a : BitVec w) s, n ≤ fuel →
      walk P visit fuel a n s = walkBytes step n a s := by
  intro fuel
  induction fuel with
  | zero =>
    intro n a s hn
    rw [Nat.le_zero.mp hn]
    rfl
  | succ fuel ih =>
    intro n a s hn
    unfold walk
    split
    next h0 =>
      rw [h0]
      rfl
    next h0 =>
      have hoff : a.toNat % P < P := Nat.mod_lt _ hP
      have hchunk : 0 < min n (P - a.toNat % P) := by omega
      have hsplit : n = min n (P - a.toNat % P) + (n - min n (P - a.toNat % P)) := by omega
      -- The first chunk is `walkBytes` over its bytes, and the rest is the induction hypothesis.
      conv_rhs => rw [hsplit, walkBytes_add]
      simp only [h.chunk hdvd _ a s hchunk (by omega)]
      congr 1
      funext s'
      exact ih _ _ _ (by omega)

/-- A span that fits in its first page is one visit. -/
theorem walk_one_chunk {P : Nat} (visit : Nat → Nat → Nat → σ → σ × Bool) {n : Nat}
    {a : BitVec w} (hn : 0 < n) (hfit : a.toNat % P + n ≤ P) (s : σ) :
    walk P visit n a n s = visit (a.toNat / P) (a.toNat % P) n s := by
  obtain ⟨fuel, rfl⟩ : ∃ fuel, n = fuel + 1 := ⟨n - 1, by omega⟩
  have hchunk : min (fuel + 1) (P - a.toNat % P) = fuel + 1 := by omega
  unfold walk
  rw [if_neg (by omega)]
  simp only [hchunk, Nat.sub_self]
  have hdone : ∀ s' : σ, walk P visit fuel (a + BitVec.ofNat w (fuel + 1)) 0 s' = (s', true) := by
    intro s'
    cases fuel <;> rfl
  simp only [hdone, andThen_pure]

/-- Two walks whose visits agree up to `R` agree up to `R`. -/
theorem walk_sim {P : Nat} {visit : Nat → Nat → Nat → σ → σ × Bool}
    {visit' : Nat → Nat → Nat → τ → τ × Bool} {R : σ → τ → Prop}
    (h : ∀ page off k s t, R s t →
      (visit page off k s).2 = (visit' page off k t).2 ∧
      R (visit page off k s).1 (visit' page off k t).1) :
    ∀ fuel (a : BitVec w) n s t, R s t →
      (walk P visit fuel a n s).2 = (walk P visit' fuel a n t).2 ∧
      R (walk P visit fuel a n s).1 (walk P visit' fuel a n t).1 := by
  intro fuel
  induction fuel with
  | zero => exact fun _ _ _ _ hR => ⟨rfl, hR⟩
  | succ fuel ih =>
    intro a n s t hR
    unfold walk
    split
    · exact ⟨rfl, hR⟩
    · have hv := h (a.toNat / P) (a.toNat % P) (min n (P - a.toNat % P)) s t hR
      simp only [andThen]
      cases hb : (visit (a.toNat / P) (a.toNat % P) (min n (P - a.toNat % P)) s).2 with
      | false => simpa [hb, ← hv.1] using hv.2
      | true =>
        rw [← hv.1, hb]
        exact ih _ _ _ _ hv.2

end Seven.Lib
