import Mathlib.Algebra.Order.Round
import Seven.Lib.Rounding

/-!
# Rounding to an integer

The integers of an ordered field as the representable values: which integer a
direction asks for, in terms of the floor, and that it asks for one only.

> `rounds_floor`, `rounds_ceil`, `rounds_trunc`, `rounds_nearest_floor`,
> `rounds_nearest_succ`: the roundings of a value by its floor.

> `rounds_integer_unique`: a direction asks for one integer.

`Nearest` is rounding to a nearest value without a rule for ties, which is
all that the exact operations of a number format need (`Nearest.exact`).
-/

namespace Seven.Lib

section

variable {α : Type} [AddCommGroup α] [LinearOrder α] [IsOrderedAddMonoid α]

/-- `y` is one of the representable values nearest to `x`. -/
structure Nearest (F : α → Prop) (x y : α) : Prop where
  mem : F y
  nearest : ∀ z, F z → |x - y| ≤ |x - z|

namespace Nearest

variable {F : α → Prop} {x y z : α}

/-- A member of the grid is its own nearest. -/
theorem exact (h : Nearest F x y) (hx : F x) : y = x := by
  have hzero := h.nearest x hx
  rw [sub_self, abs_zero] at hzero
  exact (sub_eq_zero.mp (abs_nonpos_iff.mp hzero)).symm

/-- A nearest value is on the same side of any representable one. -/
theorem above (h : Nearest F x y) (hz : F z) (hle : z ≤ x) : z ≤ y := by
  by_contra hlt
  have hnear := h.nearest z hz
  rw [abs_of_nonneg (sub_nonneg.mpr hle),
    abs_of_nonneg (sub_nonneg.mpr ((not_le.mp hlt).le.trans hle))] at hnear
  exact hlt (sub_le_sub_iff_left x |>.mp hnear)

end Nearest

end

section

variable {α : Type} [Field α] [LinearOrder α] [IsStrictOrderedRing α] [FloorRing α]

/-- `z` is an integer. -/
def IsInteger (z : α) : Prop := ∃ k : ℤ, (k : α) = z

/-- `z` is an even integer. -/
def IsEvenInteger (z : α) : Prop := ∃ k : ℤ, Even k ∧ (k : α) = z

variable {q : α}

/-- An integer is its floor. -/
theorem isInteger_floor (h : IsInteger q) : (⌊q⌋ : α) = q := by
  obtain ⟨k, rfl⟩ := h
  rw [Int.floor_intCast]

/-- A value that is no integer lies between two of them. -/
theorem integer_neighbours (h : ¬IsInteger q) :
    Neighbours IsInteger q (⌊q⌋ : α) ((⌊q⌋ + 1 : ℤ) : α) := by
  refine ⟨⟨_, rfl⟩, ⟨_, rfl⟩, ?_, ?_, ?_⟩
  · exact lt_of_le_of_ne (Int.floor_le q) fun heq => h ⟨_, heq⟩
  · push_cast
    exact Int.lt_floor_add_one q
  · rintro z ⟨k, rfl⟩
    rcases le_or_gt k ⌊q⌋ with hle | hgt
    · exact Or.inl (Int.cast_le.mpr hle)
    · exact Or.inr (Int.cast_le.mpr hgt)

/-- Integers are not rounded. -/
theorem rounds_integer_self (mode : RoundingMode) (h : IsInteger q) :
    Rounds IsInteger IsEvenInteger mode q (⌊q⌋ : α) := by
  rw [isInteger_floor h]
  exact rounds_self mode h

/-- Downwards is the floor. -/
theorem rounds_floor (q : α) : Rounds IsInteger IsEvenInteger .down q (⌊q⌋ : α) := by
  by_cases h : IsInteger q
  · exact rounds_integer_self .down h
  · exact (integer_neighbours h).down

/-- Upwards is the ceiling. -/
theorem rounds_ceil (q : α) : Rounds IsInteger IsEvenInteger .up q (⌈q⌉ : α) := by
  refine ⟨⟨⟨_, rfl⟩, Int.le_ceil q⟩, ?_⟩
  rintro z ⟨⟨k, rfl⟩, hle⟩
  exact Int.cast_le.mpr (Int.ceil_le.mpr hle)

/-- Towards zero is the one or the other. -/
theorem rounds_trunc (q : α) :
    Rounds IsInteger IsEvenInteger .towardZero q ((if 0 ≤ q then ⌊q⌋ else ⌈q⌉ : ℤ) : α) := by
  constructor
  · intro hpos
    rw [if_pos hpos]
    exact rounds_floor q
  · intro hneg
    split
    next hpos =>
      -- zero is rounded either way
      obtain rfl := le_antisymm hneg hpos
      rw [Int.floor_zero, ← Int.ceil_zero (R := α)]
      exact rounds_ceil 0
    next => exact rounds_ceil q

/-- Nearer to the floor, or as near and the floor is even. -/
theorem rounds_nearest_floor (h : ¬IsInteger q)
    (hnear : 2 * (q - ⌊q⌋) < 1 ∨ (2 * (q - ⌊q⌋) = 1 ∧ Even ⌊q⌋)) :
    Rounds IsInteger IsEvenInteger .nearestEven q (⌊q⌋ : α) := by
  refine (integer_neighbours h).nearest_low ?_
  rcases hnear with hlt | ⟨heq, heven⟩
  · left
    push_cast
    linarith
  · right
    push_cast
    exact ⟨by linarith, ⟨_, heven, rfl⟩⟩

/-- To nearest, when the upper neighbour is nearer, or even at a tie. -/
theorem rounds_nearest_succ (h : ¬IsInteger q)
    (hnear : 1 < 2 * (q - ⌊q⌋) ∨ (2 * (q - ⌊q⌋) = 1 ∧ ¬Even ⌊q⌋)) :
    Rounds IsInteger IsEvenInteger .nearestEven q ((⌊q⌋ + 1 : ℤ) : α) := by
  refine (integer_neighbours h).nearest_high ?_
  rcases hnear with hlt | ⟨heq, hodd⟩
  · left
    push_cast
    linarith
  · right
    refine ⟨by push_cast; linarith, ⟨_, ?_, rfl⟩⟩
    exact Int.even_add_one.mpr hodd

/-- **A direction asks for one integer.** -/
theorem rounds_integer_unique {mode : RoundingMode} {a b : ℤ}
    (ha : Rounds IsInteger IsEvenInteger mode q (a : α))
    (hb : Rounds IsInteger IsEvenInteger mode q (b : α)) : a = b := by
  cases mode with
  | down => exact Int.cast_injective (ha.unique hb)
  | up => exact Int.cast_injective (IsLeast.unique ha hb)
  | towardZero =>
    rcases le_total 0 q with hpos | hneg
    · exact Int.cast_injective ((ha.1 hpos).unique (hb.1 hpos))
    · exact Int.cast_injective ((ha.2 hneg).unique (hb.2 hneg))
  | nearestEven =>
    obtain ⟨hamem, hanear, hatie⟩ := ha
    obtain ⟨hbmem, hbnear, hbtie⟩ := hb
    by_contra hne
    have hdistance : |q - a| = |q - b| := le_antisymm (hanear _ hbmem) (hbnear _ hamem)
    have hcast : (b : α) ≠ a := fun h => hne (Int.cast_injective h).symm
    obtain ⟨k, hk, hka⟩ := hatie _ hbmem hcast hdistance.symm
    obtain ⟨l, hl, hlb⟩ := hbtie _ hamem hcast.symm hdistance
    obtain rfl := Int.cast_injective hka
    obtain rfl := Int.cast_injective hlb
    -- two even integers are too far apart to be both nearest
    have hhalf := abs_sub_round q
    have hka := (hanear _ ⟨round q, rfl⟩).trans hhalf
    have hlb := (hbnear _ ⟨round q, rfl⟩).trans hhalf
    rw [abs_le] at hka hlb
    obtain ⟨i, hi⟩ := hk
    obtain ⟨j, hj⟩ := hl
    have hle : ((k - l : ℤ) : α) ≤ ((1 : ℤ) : α) := by
      push_cast
      linarith
    have hge : ((l - k : ℤ) : α) ≤ ((1 : ℤ) : α) := by
      push_cast
      linarith
    have hle' := Int.cast_le.mp hle
    have hge' := Int.cast_le.mp hge
    omega

end

end Seven.Lib
