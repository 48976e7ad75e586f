import Mathlib.Data.BitVec
import Mathlib.Tactic.Ring

/-!
# Copying and filling a block, element by element

A memory is a function from wrapping addresses. A block copy moves elements
of `w` bytes, each read whole before it is written, and advances both
pointers by `w`, up or down. The bytes it has written it may read again: what
ends up in the destination depends on how far apart the two blocks are, in the
direction of the copy.

> `copyBlock_apart`: far enough apart, or in the other direction, the
> destination holds the source as it was.
> `copyBlock_overlap`: closer than the block is long, the destination repeats
> the bytes in between.
> `copyBlock_frame`: whatever lies outside the destination stays.
> `fillBlock_eq`: a fill repeats its element.

A copy downwards is a copy upwards in the mirror (`copyBlock_mirror`).
-/

namespace Seven.Lib

variable {k : Nat} {β : Type}

/-! ## Elements and blocks -/

/-- The next element's address. -/
def advance (down : Bool) (w : Nat) (x : BitVec k) : BitVec k :=
  if down then x - BitVec.ofNat k w else x + BitVec.ofNat k w

/-- The element at `s` to `d`. -/
def copyElement (w : Nat) (s d : BitVec k) (μ : BitVec k → β) : BitVec k → β := fun x =>
  if (x - d).toNat < w then μ (s + (x - d)) else μ x

/-- `n` elements, one after the other, each over what the ones before left. -/
def copyBlock (down : Bool) (w : Nat) :
    Nat → BitVec k → BitVec k → (BitVec k → β) → BitVec k → β
  | 0, _, _, μ => μ
  | n + 1, s, d, μ =>
    copyBlock down w n (advance down w s) (advance down w d) (copyElement w s d μ)

/-- The element `v` to `d`. -/
def fillElement (w : Nat) (v : Nat → β) (d : BitVec k) (μ : BitVec k → β) : BitVec k → β := fun x =>
  if (x - d).toNat < w then v (x - d).toNat else μ x

/-- `n` elements `v`. -/
def fillBlock (down : Bool) (w : Nat) (v : Nat → β) :
    Nat → BitVec k → (BitVec k → β) → BitVec k → β
  | 0, _, μ => μ
  | n + 1, d, μ => fillBlock down w v n (advance down w d) (fillElement w v d μ)

/-- Addresses are counted from the first element. -/
theorem advance_advance (down : Bool) (w i : Nat) (x : BitVec k) :
    advance down (i * w) (advance down w x) = advance down ((i + 1) * w) x := by
  have hsum : BitVec.ofNat k ((i + 1) * w) = BitVec.ofNat k (i * w) + BitVec.ofNat k w := by
    rw [Nat.add_one_mul, BitVec.ofNat_add]
  unfold advance
  rw [hsum]
  cases down with
  | false =>
    rw [if_neg Bool.false_ne_true, if_neg Bool.false_ne_true, if_neg Bool.false_ne_true]
    ring
  | true =>
    rw [if_pos rfl, if_pos rfl, if_pos rfl]
    ring

/-- No step. -/
theorem advance_zero (down : Bool) (x : BitVec k) : advance down 0 x = x := by
  unfold advance
  cases down with
  | false => exact BitVec.add_zero x
  | true => exact BitVec.sub_zero x

/-- A block of one element more, the last one split off. -/
theorem copyBlock_succ (down : Bool) (w : Nat) : ∀ (n : Nat) (s d : BitVec k) (μ : BitVec k → β),
    copyBlock down w (n + 1) s d μ =
      copyElement w (advance down (n * w) s) (advance down (n * w) d) (copyBlock down w n s d μ) := by
  intro n
  induction n with
  | zero =>
    intro s d μ
    rw [Nat.zero_mul, advance_zero, advance_zero]
    rfl
  | succ n ih =>
    intro s d μ
    rw [← advance_advance, ← advance_advance]
    exact ih (advance down w s) (advance down w d) (copyElement w s d μ)

/-- The last element instead of the first. -/
theorem fillBlock_succ (down : Bool) (w : Nat) (v : Nat → β) :
    ∀ (n : Nat) (d : BitVec k) (μ : BitVec k → β),
      fillBlock down w v (n + 1) d μ =
        fillElement w v (advance down (n * w) d) (fillBlock down w v n d μ) := by
  intro n
  induction n with
  | zero =>
    intro d μ
    rw [Nat.zero_mul, advance_zero]
    rfl
  | succ n ih =>
    intro d μ
    rw [← advance_advance]
    exact ih (advance down w d) (fillElement w v d μ)

/-- How far `x` lies from the edge of the block that a run from `d` enters
first, in its direction. -/
def depth (down : Bool) (w : Nat) (d x : BitVec k) : Nat :=
  if down then (d + BitVec.ofNat k (w - 1) - x).toNat else (x - d).toNat

/-- How far the destination lies ahead of the source. -/
def lead (down : Bool) (s d : BitVec k) : Nat := if down then (s - d).toNat else (d - s).toNat

/-! ## Distances -/

/-- A difference without `2 ^ k`. -/
theorem toNat_sub_ite (a b : BitVec k) :
    (a - b).toNat = if b.toNat ≤ a.toNat then a.toNat - b.toNat else 2 ^ k + a.toNat - b.toNat := by
  have ha := a.isLt
  have hb := b.isLt
  rw [BitVec.toNat_sub]
  split
  next hle =>
    rw [show 2 ^ k - b.toNat + a.toNat = a.toNat - b.toNat + 2 ^ k by omega, Nat.add_mod_right,
      Nat.mod_eq_of_lt (by omega)]
  next hlt => rw [Nat.mod_eq_of_lt (by omega), Nat.sub_add_comm hb.le]

/-- One element down. -/
theorem toNat_sub_ofNat {w : Nat} (hw : w < 2 ^ k) (x : BitVec k) :
    (x - BitVec.ofNat k w).toNat = if w ≤ x.toNat then x.toNat - w else 2 ^ k + x.toNat - w := by
  rw [toNat_sub_ite, BitVec.toNat_ofNat, Nat.mod_eq_of_lt hw]

/-- The distance to the element above. -/
theorem toNat_ofNat_sub {w : Nat} (hw : w < 2 ^ k) (x : BitVec k) :
    (BitVec.ofNat k w - x).toNat = if x.toNat ≤ w then w - x.toNat else 2 ^ k + w - x.toNat := by
  rw [toNat_sub_ite, BitVec.toNat_ofNat, Nat.mod_eq_of_lt hw]

section

variable (w : Nat) (s d x : BitVec k)

/-- The address against the next element. -/
theorem sub_advance_up : x - (d + BitVec.ofNat k w) = x - d - BitVec.ofNat k w := by ring

/-- Source and destination move together. -/
theorem add_sub_advance_up :
    s + BitVec.ofNat k w + (x - (d + BitVec.ofNat k w)) = s + (x - d) := by ring

/-- The distance between them stays. -/
theorem gap_advance_up : d + BitVec.ofNat k w - (s + BitVec.ofNat k w) = d - s := by ring

/-- The distance of a byte of the source from the destination. -/
theorem add_sub_sub : s + (x - d) - d = x - d - (d - s) := by ring

end

/-- An element further, the distance is less by `w`, unless the byte lies in
the element that is passed. -/
theorem toNat_sub_lt {w n : Nat} (hspan : (n + 1) * w < 2 ^ k) (t : BitVec k) :
    (t - BitVec.ofNat k w).toNat < n * w ↔ w ≤ t.toNat ∧ t.toNat < (n + 1) * w := by
  rw [Nat.add_one_mul] at hspan ⊢
  rw [toNat_sub_ofNat (by omega)]
  split
  next hle => omega
  next hlt => omega

/-! ## Upwards -/

/-- A block that lies apart from its source, or behind it, is copied as the
source was. -/
theorem copyUp_apart {w : Nat} : ∀ {n : Nat} {s d : BitVec k} {μ : BitVec k → β},
    n * w < 2 ^ k → ((d - s).toNat = 0 ∨ n * w ≤ (d - s).toNat) → ∀ x,
    copyBlock false w n s d μ x = if (x - d).toNat < n * w then μ (s + (x - d)) else μ x := by
  intro n
  induction n with
  | zero =>
    intro s d μ _ _ x
    rw [Nat.zero_mul, if_neg (Nat.not_lt_zero _)]
    rfl
  | succ n ih =>
    intro s d μ hspan hgap x
    have hstep : copyBlock false w (n + 1) s d μ x =
        copyBlock false w n (s + BitVec.ofNat k w) (d + BitVec.ofNat k w)
          (copyElement w s d μ) x := rfl
    have hlt := hspan
    rw [Nat.add_one_mul] at hlt hgap
    rw [hstep, ih (by omega) (by rw [gap_advance_up]; omega) x, add_sub_advance_up, sub_advance_up]
    have hpassed := toNat_sub_lt hspan (x - d)
    unfold copyElement
    by_cases hin : (x - d - BitVec.ofNat k w).toNat < n * w
    · -- a later element: its source has not been written to
      obtain ⟨hge, hlt'⟩ := hpassed.mp hin
      rw [if_pos hin, if_pos hlt', if_neg]
      rw [add_sub_sub]
      have hd := (d - s).isLt
      rw [Nat.add_one_mul] at hlt'
      rw [toNat_sub_ite]
      split
      next hle => omega
      next hfar => omega
    · rw [if_neg hin]
      by_cases hfirst : (x - d).toNat < w
      · rw [if_pos hfirst, if_pos (by rw [Nat.add_one_mul]; omega)]
      · rw [if_neg hfirst, if_neg]
        intro hall
        exact hin (hpassed.mpr ⟨Nat.le_of_not_lt hfirst, hall⟩)

/-- Outside the destination nothing changes, however the blocks lie. -/
theorem copyUp_frame {w : Nat} : ∀ {n : Nat} {s d : BitVec k} {μ : BitVec k → β},
    n * w < 2 ^ k → ∀ x, ¬(x - d).toNat < n * w → copyBlock false w n s d μ x = μ x := by
  intro n
  induction n with
  | zero => exact fun _ _ _ => rfl
  | succ n ih =>
    intro s d μ hspan x hout
    have hstep : copyBlock false w (n + 1) s d μ x =
        copyBlock false w n (s + BitVec.ofNat k w) (d + BitVec.ofNat k w)
          (copyElement w s d μ) x := rfl
    have hpassed := toNat_sub_lt hspan (x - d)
    have hrest : ¬(x - (d + BitVec.ofNat k w)).toNat < n * w := by
      rw [sub_advance_up]
      exact fun hin => hout (hpassed.mp hin).2
    rw [Nat.add_one_mul] at hspan hout
    rw [hstep, ih (by omega) x hrest]
    unfold copyElement
    rw [if_neg (by omega)]

/-- The first element, read again one element on. -/
theorem copyElement_overlap {w : Nat} {s d x : BitVec k} {μ : BitVec k → β}
    (hw : w ≤ (d - s).toNat) (hge : w ≤ (x - d).toNat)
    (hspan : (x - d).toNat + (d - s).toNat < 2 ^ k) :
    copyElement w s d μ (s + BitVec.ofNat k w +
        BitVec.ofNat k (((x - d).toNat - w) % (d - s).toNat)) =
      μ (s + BitVec.ofNat k ((x - d).toNat % (d - s).toNat)) := by
  have hg := (d - s).isLt
  -- `y` is the source byte, `r + w` its distance from `s`
  generalize hr : ((x - d).toNat - w) % (d - s).toNat = r
  have hrest : (x - d).toNat % (d - s).toNat = (r + w) % (d - s).toNat := by
    rw [← hr, Nat.mod_add_mod, Nat.sub_add_cancel hge]
  have hrle : r ≤ (x - d).toNat - w := hr ▸ Nat.mod_le _ _
  have hy : s + BitVec.ofNat k w + BitVec.ofNat k r = s + BitVec.ofNat k (r + w) := by
    rw [BitVec.ofNat_add]
    ring
  have hdistance : s + BitVec.ofNat k (r + w) - d = BitVec.ofNat k (r + w) - (d - s) := by ring
  rw [hy, hrest]
  unfold copyElement
  rw [hdistance, toNat_ofNat_sub (by omega)]
  by_cases hpos : (d - s).toNat = 0
  · have hw0 : w = 0 := by omega
    subst hw0
    rw [if_neg (Nat.not_lt_zero _), hpos, Nat.mod_zero]
  have hrlt : r < (d - s).toNat := hr ▸ Nat.mod_lt _ (by omega)
  by_cases hwrap : (d - s).toNat ≤ r + w
  · -- the byte was written by the first element
    rw [if_pos hwrap, if_pos (by omega), Nat.mod_eq_sub_mod hwrap, Nat.mod_eq_of_lt (by omega)]
    congr 2
    apply BitVec.eq_of_toNat_eq
    rw [toNat_ofNat_sub (by omega), if_pos hwrap, BitVec.toNat_ofNat, Nat.mod_eq_of_lt (by omega)]
  · rw [if_neg hwrap, if_neg (by omega), Nat.mod_eq_of_lt (by omega)]

/-- A block less than its length ahead of its source repeats the bytes in
between. -/
theorem copyUp_overlap {w : Nat} : ∀ {n : Nat} {s d : BitVec k} {μ : BitVec k → β},
    w ≤ (d - s).toNat → n * w + (d - s).toNat < 2 ^ k → ∀ x,
    copyBlock false w n s d μ x =
      if (x - d).toNat < n * w then μ (s + BitVec.ofNat k ((x - d).toNat % (d - s).toNat)) else μ x := by
  intro n
  induction n with
  | zero =>
    intro s d μ _ _ x
    rw [Nat.zero_mul, if_neg (Nat.not_lt_zero _)]
    rfl
  | succ n ih =>
    intro s d μ hw hspan x
    have hstep : copyBlock false w (n + 1) s d μ x =
        copyBlock false w n (s + BitVec.ofNat k w) (d + BitVec.ofNat k w)
          (copyElement w s d μ) x := rfl
    have hlt := hspan
    rw [Nat.add_one_mul] at hlt
    rw [hstep, ih (by rw [gap_advance_up]; exact hw) (by rw [gap_advance_up]; omega) x,
      gap_advance_up, sub_advance_up]
    have hpassed := toNat_sub_lt (n := n) (w := w) (by rw [Nat.add_one_mul]; omega) (x - d)
    by_cases hin : (x - d - BitVec.ofNat k w).toNat < n * w
    -- A later element: its source holds what an earlier element of the copy left there.
    · obtain ⟨hge, hall⟩ := hpassed.mp hin
      rw [if_pos hin, if_pos hall, toNat_sub_ofNat (by omega), if_pos hge]
      exact copyElement_overlap hw hge (by rw [Nat.add_one_mul] at hall; omega)
    · rw [if_neg hin]
      unfold copyElement
      -- The byte is in the first element, or outside the block.
      by_cases hfirst : (x - d).toNat < w
      · rw [if_pos hfirst, if_pos (by rw [Nat.add_one_mul]; omega), Nat.mod_eq_of_lt (by omega),
          BitVec.ofNat_toNat, BitVec.setWidth_eq]
      · rw [if_neg hfirst, if_neg]
        intro hall
        exact hin (hpassed.mpr ⟨Nat.le_of_not_lt hfirst, hall⟩)

/-- A block that is filled repeats the element. -/
theorem fillUp_eq {w : Nat} {v : Nat → β} : ∀ {n : Nat} {d : BitVec k} {μ : BitVec k → β},
    n * w < 2 ^ k → ∀ x,
    fillBlock false w v n d μ x =
      if (x - d).toNat < n * w then v ((x - d).toNat % w) else μ x := by
  intro n
  induction n with
  | zero =>
    intro d μ _ x
    rw [Nat.zero_mul, if_neg (Nat.not_lt_zero _)]
    rfl
  | succ n ih =>
    intro d μ hspan x
    have hstep : fillBlock false w v (n + 1) d μ x =
        fillBlock false w v n (d + BitVec.ofNat k w) (fillElement w v d μ) x := rfl
    have hlt := hspan
    rw [Nat.add_one_mul] at hlt
    rw [hstep, ih (by omega) x, sub_advance_up]
    have hpassed := toNat_sub_lt hspan (x - d)
    by_cases hin : (x - d - BitVec.ofNat k w).toNat < n * w
    -- The pattern repeats with each element.
    · obtain ⟨hge, hall⟩ := hpassed.mp hin
      rw [if_pos hin, if_pos hall, toNat_sub_ofNat (by omega), if_pos hge, ← Nat.mod_eq_sub_mod hge]
    · rw [if_neg hin]
      unfold fillElement
      by_cases hfirst : (x - d).toNat < w
      · rw [if_pos hfirst, if_pos (by rw [Nat.add_one_mul]; omega), Nat.mod_eq_of_lt hfirst]
      · rw [if_neg hfirst, if_neg]
        intro hall
        exact hin (hpassed.mpr ⟨Nat.le_of_not_lt hfirst, hall⟩)

/-! ## Downwards -/

/-- The address of an element in the mirror. -/
def mirror (w : Nat) (d : BitVec k) : BitVec k := -(d + BitVec.ofNat k (w - 1))

/-- Down is up in the mirror. -/
theorem mirror_advance (w : Nat) (d : BitVec k) :
    mirror w (advance true w d) = advance false w (mirror w d) := by
  unfold mirror advance
  rw [if_pos rfl, if_neg Bool.false_ne_true]
  ring

/-- The address against the mirrored element. -/
theorem sub_mirror (w : Nat) (d x : BitVec k) :
    -x - mirror w d = BitVec.ofNat k (w - 1) - (x - d) := by
  unfold mirror
  ring

/-- A byte is in an element exactly when its mirror image is. -/
theorem mirror_lt {w : Nat} (hw : w ≤ 2 ^ k) (v : BitVec k) :
    (BitVec.ofNat k (w - 1) - v).toNat < w ↔ v.toNat < w := by
  have hv := v.isLt
  rcases Nat.eq_zero_or_pos w with rfl | hpos
  · omega
  rw [toNat_ofNat_sub (by omega)]
  split
  next hle => omega
  next hlt => omega

/-- One element in the mirror. -/
theorem copyElement_mirror {w : Nat} (hw : w ≤ 2 ^ k) (s d : BitVec k) (μ : BitVec k → β)
    (x : BitVec k) :
    copyElement w (mirror w s) (mirror w d) (fun y => μ (-y)) (-x) = copyElement w s d μ x := by
  unfold copyElement
  rw [sub_mirror]
  have hsource : -(mirror w s + (BitVec.ofNat k (w - 1) - (x - d))) = s + (x - d) := by
    unfold mirror
    ring
  simp only [mirror_lt hw, hsource, BitVec.neg_neg]

/-- **A copy downwards is a copy upwards in the mirror.** -/
theorem copyBlock_mirror {w : Nat} (hw : w ≤ 2 ^ k) :
    ∀ (n : Nat) (s d : BitVec k) (μ : BitVec k → β) (x : BitVec k),
      copyBlock true w n s d μ x =
        copyBlock false w n (mirror w s) (mirror w d) (fun y => μ (-y)) (-x) := by
  intro n
  induction n with
  | zero =>
    intro s d μ x
    show μ x = μ (- -x)
    rw [BitVec.neg_neg]
  | succ n ih =>
    intro s d μ x
    have himage : (fun y => copyElement w s d μ (-y)) =
        copyElement w (mirror w s) (mirror w d) fun y => μ (-y) := by
      funext y
      rw [← copyElement_mirror hw, BitVec.neg_neg]
    show copyBlock true w n (advance true w s) (advance true w d) (copyElement w s d μ) x = _
    rw [ih, mirror_advance, mirror_advance, himage]
    rfl

/-- One element of a fill in the mirror. -/
theorem fillElement_mirror {w : Nat} (hw : w ≤ 2 ^ k) (v : Nat → β) (d : BitVec k)
    (μ : BitVec k → β) (x : BitVec k) :
    fillElement w (fun j => v (w - 1 - j)) (mirror w d) (fun y => μ (-y)) (-x) =
      fillElement w v d μ x := by
  unfold fillElement
  rw [sub_mirror]
  simp only [mirror_lt hw, BitVec.neg_neg]
  split
  next hin =>
    rw [toNat_ofNat_sub (by omega), if_pos (by omega)]
    congr 1
    omega
  next => rfl

/-- The fill in the mirror, by its elements. -/
theorem fillBlock_mirror {w : Nat} (hw : w ≤ 2 ^ k) (v : Nat → β) :
    ∀ (n : Nat) (d : BitVec k) (μ : BitVec k → β) (x : BitVec k),
      fillBlock true w v n d μ x =
        fillBlock false w (fun j => v (w - 1 - j)) n (mirror w d) (fun y => μ (-y)) (-x) := by
  intro n
  induction n with
  | zero =>
    intro d μ x
    show μ x = μ (- -x)
    rw [BitVec.neg_neg]
  | succ n ih =>
    intro d μ x
    have himage : (fun y => fillElement w v d μ (-y)) =
        fillElement w (fun j => v (w - 1 - j)) (mirror w d) fun y => μ (-y) := by
      funext y
      rw [← fillElement_mirror hw, BitVec.neg_neg]
    show fillBlock true w v n (advance true w d) (fillElement w v d μ) x = _
    rw [ih, mirror_advance, himage]
    rfl

/-! ## Both directions -/

section

variable {down : Bool} {w n : Nat} {s d : BitVec k} {μ : BitVec k → β}

/-- The place in the block is the mirror's. -/
theorem depth_mirror (d x : BitVec k) : (-x - mirror w d).toNat = depth true w d x := by
  have hdiff : BitVec.ofNat k (w - 1) - (x - d) = d + BitVec.ofNat k (w - 1) - x := by ring
  unfold depth
  rw [sub_mirror, hdiff, if_pos rfl]

/-- So is the distance of the blocks. -/
theorem lead_mirror (s d : BitVec k) : (mirror w d - mirror w s).toNat = lead true s d := by
  have hdiff : mirror w d - mirror w s = s - d := by
    unfold mirror
    ring
  unfold lead
  rw [hdiff, if_pos rfl]

/-- **Apart.** A destination that does not begin inside the source, in the
direction of the copy, becomes what the source was. -/
theorem copyBlock_apart (hw : w ≤ 2 ^ k) (hspan : n * w < 2 ^ k)
    (hlead : lead down s d = 0 ∨ n * w ≤ lead down s d) (x : BitVec k) :
    copyBlock down w n s d μ x = if depth down w d x < n * w then μ (s + (x - d)) else μ x := by
  cases down with
  | false => exact copyUp_apart hspan hlead x
  | true =>
    have hsource : -(mirror w s + (-x - mirror w d)) = s + (x - d) := by
      unfold mirror
      ring
    rw [copyBlock_mirror hw, copyUp_apart hspan (by rw [lead_mirror]; exact hlead), depth_mirror, hsource,
      BitVec.neg_neg]

/-- **Overlap.** A destination that begins inside the source repeats the bytes
up to its beginning. -/
theorem copyBlock_overlap (hw : w ≤ 2 ^ k) (hlead : w ≤ lead down s d)
    (hspan : n * w + lead down s d < 2 ^ k) (x : BitVec k) :
    copyBlock down w n s d μ x =
      if depth down w d x < n * w then
        μ (if down then s + BitVec.ofNat k (w - 1) - BitVec.ofNat k (depth down w d x % lead down s d)
          else s + BitVec.ofNat k (depth down w d x % lead down s d))
      else μ x := by
  cases down with
  | false => exact copyUp_overlap hlead hspan x
  | true =>
    have hsource (j : Nat) : -(mirror w s + BitVec.ofNat k j) =
        s + BitVec.ofNat k (w - 1) - BitVec.ofNat k j := by
      unfold mirror
      ring
    rw [copyBlock_mirror hw, copyUp_overlap (by rw [lead_mirror]; exact hlead)
      (by rw [lead_mirror]; exact hspan), depth_mirror, lead_mirror, hsource, BitVec.neg_neg, if_pos rfl]

/-- **Frame.** Only the destination changes. -/
theorem copyBlock_frame (hw : w ≤ 2 ^ k) (hspan : n * w < 2 ^ k) (x : BitVec k)
    (hout : ¬depth down w d x < n * w) : copyBlock down w n s d μ x = μ x := by
  cases down with
  | false => exact copyUp_frame hspan x hout
  | true =>
    rw [copyBlock_mirror hw, copyUp_frame hspan _ (by rw [depth_mirror]; exact hout), BitVec.neg_neg]

/-- **Fill.** The element, again and again. -/
theorem fillBlock_eq {v : Nat → β} (hw : w ≤ 2 ^ k) (hspan : n * w < 2 ^ k) (x : BitVec k) :
    fillBlock down w v n d μ x =
      if depth down w d x < n * w then
        v (if down then w - 1 - depth down w d x % w else depth down w d x % w)
      else μ x := by
  cases down with
  | false => exact fillUp_eq hspan x
  | true => rw [fillBlock_mirror hw, fillUp_eq hspan, depth_mirror, BitVec.neg_neg, if_pos rfl]

end

end Seven.Lib
