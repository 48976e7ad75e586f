import Mathlib.Tactic.Common

/-!
# Programs that only move data

A step of such a program fills every cell with what another cell held, or with
a blank: a `Rearrangement` says for each cell which one, without a look at the
contents. The steps of a program are one rearrangement again (`along`).

> `eq_iff_apply`: two rearrangements are the same exactly when they leave the
> same contents whatever the contents are, so programs are compared by where
> their data comes from.

Two contents are enough to tell all cells apart: a blank everywhere but in one
cell.
-/

namespace Seven.Lib

variable {ι α κ : Type}

/-- The cell that each cell is filled from; none for a blank. -/
abbrev Rearrangement (ι : Type) : Type := ι → Option ι

namespace Rearrangement

/-- The rearrangement on contents, `blank` where it takes nothing. -/
def apply (r : Rearrangement ι) (blank : α) (cells : ι → α) : ι → α :=
  fun i => (r i).elim blank cells

/-- First `r`, then `q`. -/
def followedBy (r q : Rearrangement ι) : Rearrangement ι := fun i => (q i).bind r

/-- The steps of a program, the first one first. -/
def along (f : κ → Rearrangement ι) : List κ → Rearrangement ι
  | [] => some
  | k :: ks => (f k).followedBy (along f ks)

/-- One after the other, on contents. -/
theorem apply_followedBy (r q : Rearrangement ι) (blank : α) (cells : ι → α) :
    (r.followedBy q).apply blank cells = q.apply blank (r.apply blank cells) := by
  funext i
  unfold apply followedBy
  cases q i <;> rfl

/-- A list of rearrangements, cut in two. -/
theorem along_append (f : κ → Rearrangement ι) (ks ls : List κ) :
    along f (ks ++ ls) = (along f ks).followedBy (along f ls) := by
  induction ks with
  | nil =>
    funext i
    exact (Option.bind_fun_some _).symm
  | cons k ks ih =>
    funext i
    show (along f (ks ++ ls) i).bind (f k) = _
    rw [ih]
    exact Option.bind_assoc _ _ _

/-- The rearrangements of a mapped list. -/
theorem along_map {κ' : Type} (f : κ → Rearrangement ι) (g : κ' → κ) :
    ∀ ks : List κ', along f (ks.map g) = along (fun k => f (g k)) ks
  | [] => rfl
  | k :: ks => by
    show (f (g k)).followedBy (along f (ks.map g)) = _
    rw [along_map f g ks]
    rfl

/-- A cell that no step fills. -/
theorem along_kept {f : κ → Rearrangement ι} {i : ι} :
    ∀ {ks : List κ}, (∀ k ∈ ks, f k i = some i) → along f ks i = some i
  | [], _ => rfl
  | k :: ks, h => by
    show (along f ks i).bind (f k) = some i
    rw [along_kept fun l hl => h l (List.mem_cons_of_mem k hl)]
    exact h k List.mem_cons_self

/-- Steps that keep out of each other's way: one fills the cell, and none
fills what it is filled from. -/
theorem along_parallel {f : κ → Rearrangement ι} {ks : List κ} (hnodup : ks.Nodup) {k : κ}
    (hk : k ∈ ks) {i j : ι} (hother : ∀ l ∈ ks, l ≠ k → f l i = some i) (hfilled : f k i = some j)
    (hsource : ∀ l ∈ ks, f l j = some j) : along f ks i = some j := by
  obtain ⟨before, after, rfl⟩ := List.append_of_mem hk
  have hafter : along f after i = some i := along_kept fun l hl =>
    hother l (List.mem_append_right _ (List.mem_cons_of_mem k hl)) fun hlk => by
      subst hlk
      exact (List.nodup_cons.mp (List.nodup_append.mp hnodup).2.1).1 hl
  have hbefore : along f before j = some j :=
    along_kept fun l hl => hsource l (List.mem_append_left _ hl)
  rw [along_append]
  show ((along f after i).bind (f k)).bind (along f before) = some j
  rw [hafter, Option.bind_some, hfilled, Option.bind_some, hbefore]

/-- A content that marks one cell. -/
def mark [DecidableEq ι] (blank x : α) (i : ι) : ι → α := fun j => if j = i then x else blank

/-- Where a mark ends up says where the cell came from. -/
theorem apply_mark [DecidableEq ι] (r : Rearrangement ι) {blank x : α} (hx : x ≠ blank) (i j : ι) :
    r.apply blank (mark blank x j) i = x ↔ r i = some j := by
  unfold apply mark
  cases h : r i with
  | none =>
    constructor
    · intro hblank
      exact absurd hblank.symm hx
    · intro hsome
      cases hsome
  | some k =>
    by_cases hk : k = j
    · subst hk
      exact ⟨fun _ => rfl, fun _ => if_pos rfl⟩
    · constructor
      · intro hmarked
        rw [Option.elim_some, if_neg hk] at hmarked
        exact absurd hmarked.symm hx
      · intro hsome
        exact absurd (Option.some.inj hsome) hk

/-- **Rearrangements are told apart by contents.** -/
theorem eq_iff_apply [DecidableEq ι] {r q : Rearrangement ι} {blank x : α} (hx : x ≠ blank) :
    r = q ↔ ∀ cells : ι → α, r.apply blank cells = q.apply blank cells := by
  constructor
  · rintro rfl _
    rfl
  · intro h
    funext i
    apply Option.ext
    intro j
    rw [← r.apply_mark hx, ← q.apply_mark hx, h]

end Rearrangement

end Seven.Lib
