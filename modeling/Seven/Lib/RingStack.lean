import Mathlib.Algebra.Group.Fin.Basic
import Mathlib.Algebra.Ring.Nat
import Mathlib.Logic.Function.Basic

/-!
# A stack on a ring

A ring of `n` cells, each empty or with an element, and a top that moves
around it: a push writes the cell in front of the top, a pop empties the cell
at it. Neither moves anything else, and a push onto an element and a pop of
nothing are refused.

`Holds` reads a ring as a list, from the top on. A ring that holds a list is
the stack of that list, of depth `n`, wherever its top is: `push_holds`,
`push_full`, `pop_holds`.
-/

namespace Seven.Lib

/-- Cells in a ring and the place of the newest. -/
structure RingStack (n : Nat) (α : Type) where
  cells : Fin n → Option α
  top : Fin n

namespace RingStack

variable {n : Nat} [NeZero n] {α : Type}

/-- Below the top, where the cell is free. -/
def push (r : RingStack n α) (a : α) : Option (RingStack n α) :=
  match r.cells (r.top - 1) with
  | some _ => none
  | none => some ⟨Function.update r.cells (r.top - 1) (some a), r.top - 1⟩

/-- From the top, where the cell is in use. -/
def pop (r : RingStack n α) : Option (α × RingStack n α) :=
  (r.cells r.top).map fun a => (a, ⟨Function.update r.cells r.top none, r.top + 1⟩)

/-- The elements from the top on are those of the list; the cells behind them
are empty. -/
structure Holds (r : RingStack n α) (l : List α) : Prop where
  length_le : l.length ≤ n
  cells : ∀ i < n, r.cells (r.top + Fin.ofNat n i) = l[i]?

/-! ## Places on the ring -/

/-- The cell in front of the top is the last one from the top on. -/
theorem before_top (top : Fin n) : top - 1 = top + Fin.ofNat n (n - 1) := by
  have hpos : 0 < n := Nat.pos_of_ne_zero (NeZero.ne n)
  have hzero : Fin.ofNat n (n - 1) + 1 = 0 := by
    apply Fin.ext
    rw [Fin.val_add, Fin.val_ofNat, Fin.val_one', ← Nat.add_mod, Nat.sub_add_cancel hpos,
      Nat.mod_self, Fin.val_zero]
  rw [sub_eq_iff_eq_add, add_assoc, hzero, add_zero]

/-- The next place. -/
theorem ofNat_succ (i : Nat) : Fin.ofNat n (i + 1) = Fin.ofNat n i + 1 := by
  apply Fin.ext
  rw [Fin.val_add, Fin.val_ofNat, Fin.val_ofNat, Fin.val_one', ← Nat.add_mod]

/-- Two places from the top on are different. -/
theorem place_ne (top : Fin n) {i j : Nat} (hi : i < n) (hj : j < n) (hne : i ≠ j) :
    top + Fin.ofNat n i ≠ top + Fin.ofNat n j := by
  intro h
  have hval := congrArg Fin.val (add_left_cancel h)
  rw [Fin.val_ofNat, Fin.val_ofNat, Nat.mod_eq_of_lt hi, Nat.mod_eq_of_lt hj] at hval
  exact hne hval

/-! ## The stack of a list -/

namespace Holds

variable {r : RingStack n α} {l : List α} {a : α}

/-- A push where there is room. -/
theorem push_holds (h : r.Holds l) (hroom : l.length < n) :
    ∃ r', r.push a = some r' ∧ r'.Holds (a :: l) ∧ r'.top = r.top - 1 := by
  have hpos : 0 < n := Nat.lt_of_le_of_lt (Nat.zero_le _) hroom
  have hfree : r.cells (r.top - 1) = none := by
    rw [before_top, h.cells (n - 1) (by omega)]
    exact List.getElem?_eq_none (by omega)
  refine ⟨⟨Function.update r.cells (r.top - 1) (some a), r.top - 1⟩, ?_, ?_, rfl⟩
  · unfold push
    rw [hfree]
  · refine ⟨hroom, fun i hi => ?_⟩
    show Function.update r.cells (r.top - 1) (some a) (r.top - 1 + Fin.ofNat n i) = (a :: l)[i]?
    cases i with
    | zero =>
      have hzero : r.top - 1 + Fin.ofNat n 0 = r.top - 1 := add_zero _
      rw [hzero, Function.update_self, List.getElem?_cons_zero]
    | succ i =>
      -- one further from the new top is as far from the old one
      have hplace : r.top - 1 + Fin.ofNat n (i + 1) = r.top + Fin.ofNat n i := by
        rw [ofNat_succ, add_comm (Fin.ofNat n i) 1, ← add_assoc, sub_add_cancel]
      rw [hplace, List.getElem?_cons_succ, Function.update_of_ne, h.cells i (by omega)]
      rw [before_top]
      exact place_ne _ (by omega) (by omega) (by omega)

/-- A push on a full ring is refused. -/
theorem push_full (h : r.Holds l) (hfull : l.length = n) : r.push a = none := by
  have hpos : 0 < n := Nat.pos_of_ne_zero (NeZero.ne n)
  have hlast : n - 1 < l.length := by omega
  have hused : r.cells (r.top - 1) = some l[n - 1] := by
    rw [before_top, h.cells (n - 1) (by omega)]
    exact List.getElem?_eq_getElem hlast
  unfold push
  rw [hused]

/-- A pop takes the newest. -/
theorem pop_holds (h : r.Holds (a :: l)) :
    ∃ r', r.pop = some (a, r') ∧ r'.Holds l ∧ r'.top = r.top + 1 := by
  have hlen : l.length + 1 ≤ n := h.length_le
  have htop : r.cells r.top = some a := by
    have hcell := h.cells 0 (by omega)
    rw [List.getElem?_cons_zero] at hcell
    rw [← hcell]
    exact congrArg r.cells (add_zero _).symm
  refine ⟨⟨Function.update r.cells r.top none, r.top + 1⟩, ?_, ?_, rfl⟩
  · unfold pop
    rw [htop]
    rfl
  · refine ⟨by omega, fun i hi => ?_⟩
    show Function.update r.cells r.top none (r.top + 1 + Fin.ofNat n i) = l[i]?
    have hplace : r.top + 1 + Fin.ofNat n i = r.top + Fin.ofNat n (i + 1) := by
      rw [ofNat_succ, add_comm (Fin.ofNat n i) 1, add_assoc]
    have hself : r.top + Fin.ofNat n 0 = r.top := add_zero _
    rw [hplace]
    by_cases hlast : i + 1 = n
    · -- all around the ring: the cell that was emptied
      have haround : r.top + Fin.ofNat n (i + 1) = r.top := by
        rw [hlast]
        have hzero : Fin.ofNat n n = 0 := Fin.ext (Nat.mod_self n)
        rw [hzero, add_zero]
      rw [haround, Function.update_self]
      exact (List.getElem?_eq_none (by omega)).symm
    · have hne := place_ne r.top (by omega : i + 1 < n) (by omega : 0 < n) (by omega)
      rw [hself] at hne
      rw [Function.update_of_ne hne, h.cells (i + 1) (by omega), List.getElem?_cons_succ]

/-- A ring with nothing in it is the empty stack, and conversely. -/
theorem nil_iff : r.Holds [] ↔ ∀ i, r.cells i = none := by
  constructor
  · intro h i
    have hplace : r.top + Fin.ofNat n (i - r.top).val = i := by
      have hself : Fin.ofNat n (i - r.top).val = i - r.top :=
        Fin.ext (Nat.mod_eq_of_lt (i - r.top).isLt)
      rw [hself, add_sub_cancel]
    rw [← hplace, h.cells _ (i - r.top).isLt]
    rfl
  · intro h
    exact ⟨Nat.zero_le n, fun i _ => h _⟩

end Holds

end RingStack

end Seven.Lib
