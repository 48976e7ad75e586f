import Mathlib.Data.List.Find

/-!
# The first match in a sorted list

Sorting a list moves the element a first-match search finds. It finds the same
one exactly when that one sorts before every other match
(`find?_mergeSort_iff`).
-/

namespace Seven.Lib

variable {α : Type} {le : α → α → Bool}

/-- The first match of a sorted list sorts before every match. -/
theorem le_of_find?_pairwise {l : List α} (hsorted : l.Pairwise fun x y => le x y = true)
    (hrefl : ∀ x, le x x = true) {p : α → Bool} {x : α} (hx : l.find? p = some x) {y : α}
    (hy : y ∈ l) (hp : p y = true) : le x y = true := by
  induction l with
  | nil => cases hx
  | cons z l ih =>
    have ⟨hz, hl⟩ := List.pairwise_cons.mp hsorted
    by_cases hpz : p z = true
    · rw [List.find?_cons_of_pos hpz] at hx
      rw [← Option.some.inj hx]
      rcases List.mem_cons.mp hy with rfl | hy
      · exact hrefl y
      · exact hz y hy
    · rw [List.find?_cons_of_neg hpz] at hx
      rcases List.mem_cons.mp hy with rfl | hy
      · exact absurd hp hpz
      · exact ih hl hx hy

/-- **A first-match search survives sorting** exactly when its match sorts
before every other one. -/
theorem find?_mergeSort_iff
    (trans : ∀ x y z : α, le x y = true → le y z = true → le x z = true)
    (total : ∀ x y : α, (le x y || le y x) = true) (p : α → Bool) (l : List α) :
    (l.mergeSort le).find? p = l.find? p ↔
      ∀ x, l.find? p = some x → ∀ y ∈ l, p y = true → le x y = true := by
  constructor
  · intro hsame x hx y hy hp
    have hrefl : ∀ z, le z z = true := fun z => by simpa using total z z
    exact le_of_find?_pairwise (List.pairwise_mergeSort trans total l) hrefl (hsame.trans hx)
      (List.mem_mergeSort.mpr hy) hp
  · induction l with
    | nil =>
      intro _
      rw [List.mergeSort_nil]
    | cons a l ih =>
      intro hfirst
      -- `a` is inserted into the sorted rest, behind elements that sort strictly before it
      obtain ⟨l₁, l₂, hcons, hrest, hbefore⟩ := List.mergeSort_cons trans total a l
      rw [hcons]
      by_cases hpa : p a = true
      · have hnone : l₁.find? p = none := by
          rw [List.find?_eq_none]
          intro b hb hpb
          have hmem : b ∈ l := by
            have hsorted : b ∈ l.mergeSort le := by
              rw [hrest]
              exact List.mem_append_left l₂ hb
            exact List.mem_mergeSort.mp hsorted
          have hle := hfirst a (List.find?_cons_of_pos hpa) b (List.mem_cons_of_mem a hmem) hpb
          have := hbefore b hb
          rw [hle] at this
          cases this
        rw [List.find?_append, hnone, Option.none_or, List.find?_cons_of_pos hpa,
          List.find?_cons_of_pos hpa]
      · have hskip : (l₁ ++ a :: l₂).find? p = (l₁ ++ l₂).find? p := by
          rw [List.find?_append, List.find?_append, List.find?_cons_of_neg hpa]
        rw [hskip, ← hrest, List.find?_cons_of_neg hpa]
        apply ih
        intro x hx y hy hp
        exact hfirst x ((List.find?_cons_of_neg hpa).trans hx) y (List.mem_cons_of_mem a hy) hp

end Seven.Lib
