import Mathlib.Data.List.Basic

/-!
# Dispatch to a list of listeners

An event is offered to a list of listeners in order. A listener that does
not listen to it is skipped, one that does is called and answers; the first
refusal ends the dispatch. `called` are the positions of the listeners that
were called, `verdict` is whether none of them refused.

`mem_called` says which positions are called: those the dispatch `Passes`
up to. `called_eq_iff` compares two notions of listening: the same listeners
are called exactly when the notions agree on every listener the dispatch
gets to.
-/

namespace Seven.Lib

variable {H : Type*}

/-- The positions of the listeners that are called, in order. -/
def called (listens answer : H → Bool) : List H → List Nat
  | [] => []
  | h :: hs =>
    if listens h then
      0 :: (if answer h then (called listens answer hs).map (· + 1) else [])
    else (called listens answer hs).map (· + 1)

/-- Did nobody refuse? -/
def verdict (listens answer : H → Bool) : List H → Bool
  | [] => true
  | h :: hs =>
    if listens h then (if answer h then verdict listens answer hs else false)
    else verdict listens answer hs

/-- A dispatch gets past listeners that do not listen or agree. -/
def Passes (listens answer : H → Bool) (hs : List H) : Prop :=
  ∀ h ∈ hs, listens h = true → answer h = true

/-- Nobody listens. -/
theorem passes_nil (listens answer : H → Bool) : Passes listens answer [] :=
  fun _ h => absurd h List.not_mem_nil

/-- The first listener, then the rest. -/
theorem passes_cons {listens answer : H → Bool} {h : H} {hs : List H} :
    Passes listens answer (h :: hs) ↔
      (listens h = true → answer h = true) ∧ Passes listens answer hs :=
  List.forall_mem_cons

/-- The verdict is all of those that listen. -/
theorem verdict_eq_all (listens answer : H → Bool) (hs : List H) :
    verdict listens answer hs = hs.all fun h => !listens h || answer h := by
  induction hs with
  | nil => rfl
  | cons h hs ih =>
    rw [List.all_cons, ← ih, verdict]
    cases listens h <;> cases answer h <;> rfl

/-- The verdict is the specification's. -/
theorem verdict_iff_passes {listens answer : H → Bool} {hs : List H} :
    verdict listens answer hs = true ↔ Passes listens answer hs := by
  rw [verdict_eq_all, List.all_eq_true]
  unfold Passes
  simp only [Bool.or_eq_true, Bool.not_eq_true', ← Bool.not_eq_true, imp_iff_not_or]

/-! ## Which listeners are called -/

/-- Who is called: the first listener, and the others when it passes. -/
theorem mem_called_cons {listens answer : H → Bool} {h : H} {hs : List H} {i : Nat} :
    i ∈ called listens answer (h :: hs) ↔
      (i = 0 ∧ listens h = true) ∨
        ∃ j, i = j + 1 ∧ (listens h = true → answer h = true) ∧ j ∈ called listens answer hs := by
  rw [called]
  cases hl : listens h <;> cases ha : answer h <;> simp [eq_comm, and_comm]

/-- A list splits at its head or further on. -/
theorem exists_split_cons {x : H} {hs : List H} {P : List H → H → Prop} :
    (∃ pre h post, x :: hs = pre ++ h :: post ∧ P pre h) ↔
      P [] x ∨ ∃ pre h post, hs = pre ++ h :: post ∧ P (x :: pre) h := by
  constructor
  · intro ⟨pre, h, post, heq, hP⟩
    cases pre with
    | nil =>
      left
      rw [List.nil_append, List.cons.injEq] at heq
      exact heq.1 ▸ hP
    | cons y pre =>
      right
      rw [List.cons_append, List.cons.injEq] at heq
      exact ⟨pre, h, post, heq.2, heq.1 ▸ hP⟩
  · intro h
    rcases h with hP | ⟨pre, h, post, heq, hP⟩
    · exact ⟨[], x, hs, rfl, hP⟩
    · exact ⟨x :: pre, h, post, by rw [heq, List.cons_append], hP⟩

/-- **Who is called**: the listeners that listen, with nobody refusing in
front of them. -/
theorem mem_called {listens answer : H → Bool} {hs : List H} {i : Nat} :
    i ∈ called listens answer hs ↔
      ∃ pre h post, hs = pre ++ h :: post ∧
        (pre.length = i ∧ listens h = true ∧ Passes listens answer pre) := by
  induction hs generalizing i with
  | nil =>
    constructor
    · intro hi
      exact absurd hi List.not_mem_nil
    · intro ⟨pre, h, post, heq, _⟩
      exact absurd heq.symm (by simp)
  | cons x hs ih =>
    -- The hook called is the head, or stands behind a head that lets the dispatch pass.
    rw [mem_called_cons, exists_split_cons]
    constructor
    · intro hi
      rcases hi with ⟨rfl, hl⟩ | ⟨j, rfl, hpass, hj⟩
      · exact Or.inl ⟨rfl, hl, passes_nil _ _⟩
      · obtain ⟨pre, h, post, heq, hlen, hl, hpre⟩ := ih.mp hj
        refine Or.inr ⟨pre, h, post, heq, ?_, hl, passes_cons.mpr ⟨hpass, hpre⟩⟩
        rw [List.length_cons, hlen]
    · intro hi
      rcases hi with ⟨rfl, hl, _⟩ | ⟨pre, h, post, heq, rfl, hl, hpre⟩
      · exact Or.inl ⟨rfl, hl⟩
      · have ⟨hpass, hpre'⟩ := passes_cons.mp hpre
        exact Or.inr ⟨pre.length, rfl, hpass, ih.mpr ⟨pre, h, post, heq, rfl, hl, hpre'⟩⟩

/-- Nobody refused: every listener that was called agreed. -/
theorem verdict_iff_called {listens answer : H → Bool} {hs : List H} :
    verdict listens answer hs = true ↔
      ∀ i ∈ called listens answer hs, ∃ h, hs[i]? = some h ∧ answer h = true := by
  induction hs with
  | nil =>
    constructor
    · intro _ i hi
      exact absurd hi List.not_mem_nil
    · intro _
      rfl
  | cons x hs ih =>
    rw [verdict_iff_passes, passes_cons, ← verdict_iff_passes, ih]
    constructor
    · intro ⟨hpass, htail⟩ i hi
      rcases mem_called_cons.mp hi with ⟨rfl, hl⟩ | ⟨j, rfl, _, hj⟩
      · exact ⟨x, rfl, hpass hl⟩
      · obtain ⟨h, hget, ha⟩ := htail j hj
        exact ⟨h, by rw [List.getElem?_cons_succ]; exact hget, ha⟩
    · intro hall
      -- Position 0 is called when the head listens, so its answer is known.
      have hpass : listens x = true → answer x = true := by
        intro hl
        obtain ⟨h, hget, ha⟩ := hall 0 (mem_called_cons.mpr (Or.inl ⟨rfl, hl⟩))
        rw [List.getElem?_cons_zero] at hget
        exact Option.some.inj hget ▸ ha
      refine ⟨hpass, fun j hj => ?_⟩
      obtain ⟨h, hget, ha⟩ := hall (j + 1) (mem_called_cons.mpr (Or.inr ⟨j, rfl, hpass, hj⟩))
      rw [List.getElem?_cons_succ] at hget
      exact ⟨h, hget, ha⟩

/-! ## Two notions of listening -/

/-- Indices shifted by one. -/
theorem map_succ_inj {xs ys : List Nat} : xs.map (· + 1) = ys.map (· + 1) ↔ xs = ys :=
  List.map_inj_right fun _ _ => Nat.succ.inj

/-- Two notions of listening call the same listeners when they agree on all
listeners the dispatch gets to. -/
theorem called_eq_iff {p q answer : H → Bool} {hs : List H} :
    called p answer hs = called q answer hs ↔
      ¬ ∃ pre h post, hs = pre ++ h :: post ∧ (Passes q answer pre ∧ p h ≠ q h) := by
  induction hs with
  | nil =>
    constructor
    · intro _ ⟨pre, h, post, heq, _⟩
      exact absurd heq.symm (by simp)
    · intro _
      rfl
  | cons x hs ih =>
    rw [exists_split_cons]
    by_cases hx : p x = q x
    · by_cases hpass : q x = true → answer x = true
      · -- The dispatch gets past the head, in both notions.
        have htail : called p answer (x :: hs) = called q answer (x :: hs) ↔
            called p answer hs = called q answer hs := by
          rw [called, called, hx]
          split
          next hl =>
            rw [if_pos (hpass hl), if_pos (hpass hl), List.cons_inj_right, map_succ_inj]
          next => exact map_succ_inj
        have hcons : ∀ pre, Passes q answer (x :: pre) ↔ Passes q answer pre := by
          intro pre
          exact passes_cons.trans (and_iff_right hpass)
        rw [htail, ih]
        simp only [hcons, hx, ne_eq, not_true, and_false, false_or]
      · -- The head refuses: nothing behind it matters.
        have ⟨hl, ha⟩ := Classical.not_imp.mp hpass
        have hstop : called p answer (x :: hs) = called q answer (x :: hs) := by
          rw [called, called, hx, if_pos hl, if_pos hl, if_neg ha, if_neg ha]
        have hcons : ∀ pre, ¬ Passes q answer (x :: pre) := by
          intro pre hpre
          exact hpass (passes_cons.mp hpre).1
        simp [hstop, hcons, hx]
    · -- Only one notion calls the head.
      have hhead : (0 ∈ called p answer (x :: hs)) ≠ (0 ∈ called q answer (x :: hs)) := by
        simp only [mem_called_cons, true_and, ne_eq]
        simpa using hx
      constructor
      · intro heq
        rw [heq] at hhead
        exact absurd rfl hhead
      · intro hnone
        exact absurd (Or.inl ⟨passes_nil _ _, hx⟩) hnone

end Seven.Lib
