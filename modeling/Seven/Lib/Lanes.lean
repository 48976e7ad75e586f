import Mathlib.Tactic.Common

/-!
# Lanes of a bit vector

A vector register is a number of many bits that instructions see as a row of
elements. The loops that take it apart go byte by byte (`copyBytes`) and
element by element (`updateLanes`); what they do is said here by elements:

> `lane_updateLanes`: an element that is updated is the new one, any other
> one is the old one.

`stackLanes` is the other way to build a row, by shifting the parts into
place (`stackLanes_getLsbD`).
-/

namespace Seven.Lib

variable {n m : Nat}

/-- Element `i` of `v`, in elements of `w` bits. -/
def lane (w : Nat) (v : BitVec n) (i : Nat) : BitVec w := (v >>> (w * i)).setWidth w

/-- A bit of a lane. -/
theorem lane_getLsbD (w : Nat) (v : BitVec n) (i : Nat) {j : Nat} (hj : j < w) :
    (lane w v i).getLsbD j = v.getLsbD (w * i + j) := by
  unfold lane
  rw [BitVec.getLsbD_setWidth, BitVec.getLsbD_ushiftRight, decide_eq_true hj, Bool.true_and]

/-- A lane by its bits. -/
theorem lane_eq_iff {w i : Nat} {v : BitVec n} {x : BitVec w} :
    lane w v i = x ↔ ∀ j < w, v.getLsbD (w * i + j) = x.getLsbD j := by
  constructor
  · rintro rfl j hj
    exact (lane_getLsbD w v i hj).symm
  · intro h
    apply BitVec.eq_of_getLsbD_eq
    intro j hj
    rw [lane_getLsbD w v i hj, h j hj]

/-- `(1 << k) - 1`. -/
theorem lowMask_getLsbD {k : Nat} (hk : k < n) (j : Nat) :
    ((1#n <<< k) - 1#n).getLsbD j = decide (j < k) := by
  have hlt : 2 ^ k < 2 ^ n := Nat.pow_lt_pow_right (by decide) hk
  have hpos : 0 < 2 ^ k := Nat.pow_pos (by decide)
  have hone : (1#n).toNat = 1 := by
    rw [BitVec.toNat_ofNat]
    exact Nat.mod_eq_of_lt (by omega)
  have hshift : (1#n <<< k).toNat = 2 ^ k := by
    rw [BitVec.toNat_shiftLeft, hone, Nat.one_shiftLeft]
    exact Nat.mod_eq_of_lt hlt
  have hnat : ((1#n <<< k) - 1#n).toNat = 2 ^ k - 1 := by
    have hsum : 2 ^ n - 1 + 2 ^ k = 2 ^ n + (2 ^ k - 1) := by omega
    rw [BitVec.toNat_sub, hshift, hone, hsum, Nat.add_mod_left]
    exact Nat.mod_eq_of_lt (by omega)
  rw [← BitVec.testBit_toNat, hnat, Nat.testBit_two_pow_sub_one]

/-! ## Bytes -/

/-- Put a byte in its place: clear the eight bits, or it in. -/
def putByte (v : BitVec n) (o : Nat) (b : BitVec 8) : BitVec n :=
  (v &&& ~~~((0xFF#8).setWidth n <<< (8 * o))) ||| (b.setWidth n <<< (8 * o))

/-- A bit after a byte was put in. -/
theorem putByte_getLsbD (v : BitVec n) (o : Nat) (b : BitVec 8) {j : Nat} (hj : j < n) :
    (putByte v o b).getLsbD j =
      if 8 * o ≤ j ∧ j < 8 * o + 8 then b.getLsbD (j - 8 * o) else v.getLsbD j := by
  have hones : (0xFF#8) = BitVec.allOnes 8 := rfl
  unfold putByte
  rw [hones, BitVec.getLsbD_or, BitVec.getLsbD_and, BitVec.getLsbD_not, BitVec.getLsbD_shiftLeft,
    BitVec.getLsbD_shiftLeft, BitVec.getLsbD_setWidth, BitVec.getLsbD_setWidth,
    BitVec.getLsbD_allOnes, decide_eq_true hj, decide_eq_true (by omega : j - 8 * o < n)]
  by_cases hlow : 8 * o ≤ j
  · rw [decide_eq_false (by omega : ¬j < 8 * o)]
    by_cases hhigh : j < 8 * o + 8
    · rw [if_pos ⟨hlow, hhigh⟩, decide_eq_true (by omega : j - 8 * o < 8)]
      simp only [Bool.not_true, Bool.not_false, Bool.and_true, Bool.true_and, Bool.and_false,
        Bool.false_or]
    · rw [if_neg (fun h => hhigh h.2), decide_eq_false (by omega : ¬j - 8 * o < 8),
        BitVec.getLsbD_of_ge b _ (by omega)]
      simp only [Bool.and_false, Bool.not_false, Bool.and_true, Bool.or_false]
  · rw [if_neg (fun h => hlow h.1), decide_eq_true (by omega : j < 8 * o)]
    simp only [Bool.not_true, Bool.and_false, Bool.false_and, Bool.not_false, Bool.and_true,
      Bool.or_false]

/-- Copy `count` bytes of `src` from offset `s` to offset `d`. -/
def copyBytes (count : Nat) (dst : BitVec n) (d : Nat) (src : BitVec m) (s : Nat) : BitVec n :=
  (List.range count).foldl (fun v k => putByte v (d + k) (lane 8 src (s + k))) dst

/-- A bit after bytes were copied. -/
theorem copyBytes_getLsbD (dst : BitVec n) (d : Nat) (src : BitVec m) (s : Nat) {j : Nat}
    (hj : j < n) : ∀ count : Nat,
    (copyBytes count dst d src s).getLsbD j =
      if 8 * d ≤ j ∧ j < 8 * (d + count) then src.getLsbD (8 * s + (j - 8 * d))
      else dst.getLsbD j := by
  intro count
  induction count with
  | zero =>
    rw [if_neg (by omega)]
    rfl
  | succ count ih =>
    have hstep : copyBytes (count + 1) dst d src s =
        putByte (copyBytes count dst d src s) (d + count) (lane 8 src (s + count)) := by
      unfold copyBytes
      rw [List.range_succ, List.foldl_append]
      rfl
    rw [hstep, putByte_getLsbD _ _ _ hj]
    -- The byte put last covers the bit, or an earlier one may.
    by_cases hlast : 8 * (d + count) ≤ j ∧ j < 8 * (d + count) + 8
    · rw [if_pos hlast, if_pos (by omega), lane_getLsbD _ _ _ (by omega)]
      congr 1
      omega
    · rw [if_neg hlast, ih]
      by_cases hin : 8 * d ≤ j ∧ j < 8 * (d + count)
      · rw [if_pos hin, if_pos (by omega)]
      · rw [if_neg hin, if_neg (by omega)]

/-! ## Elements -/

/-- The element of `size` bytes at byte `o`. -/
def loadLane (size : Nat) (v : BitVec n) (o : Nat) : BitVec (8 * size) :=
  copyBytes size 0#(8 * size) 0 v o

/-- Lane-sized `x` to byte `o`. -/
def storeLane (size : Nat) (v : BitVec n) (o : Nat) (x : BitVec (8 * size)) : BitVec n :=
  copyBytes size v o x 0

/-- A load at a lane's place is the lane. -/
theorem loadLane_eq (size : Nat) (v : BitVec n) (i : Nat) :
    loadLane size v (i * size) = lane (8 * size) v i := by
  apply BitVec.eq_of_getLsbD_eq
  intro j hj
  unfold loadLane
  rw [copyBytes_getLsbD _ _ _ _ hj, if_pos (by omega), lane_getLsbD _ _ _ hj, Nat.mul_comm i size,
    ← Nat.mul_assoc, Nat.mul_zero, Nat.sub_zero]

/-- A bit after a lane was stored. -/
theorem storeLane_getLsbD (size : Nat) (v : BitVec n) (o : Nat) (x : BitVec (8 * size)) {j : Nat}
    (hj : j < n) :
    (storeLane size v o x).getLsbD j =
      if 8 * o ≤ j ∧ j < 8 * (o + size) then x.getLsbD (j - 8 * o) else v.getLsbD j := by
  unfold storeLane
  rw [copyBytes_getLsbD _ _ _ _ hj, Nat.mul_zero, Nat.zero_add]

/-- A lane after a lane was stored. -/
theorem lane_storeLane {size : Nat} (v : BitVec n) (k : Nat) (x : BitVec (8 * size)) {i : Nat}
    (hi : 8 * size * (i + 1) ≤ n) :
    lane (8 * size) (storeLane size v (k * size) x) i =
      if i = k then x else lane (8 * size) v i := by
  rw [lane_eq_iff]
  intro j hj
  have hexp : 8 * size * (i + 1) = 8 * size * i + 8 * size := Nat.mul_succ _ _
  have hk : 8 * (k * size) = 8 * size * k := by rw [Nat.mul_comm k size, Nat.mul_assoc]
  rw [storeLane_getLsbD _ _ _ _ (by omega), Nat.mul_add, hk]
  rcases Nat.lt_trichotomy i k with hlt | rfl | hgt
  · -- the element ends before the store begins
    have hbelow : 8 * size * (i + 1) ≤ 8 * size * k := Nat.mul_le_mul_left _ hlt
    rw [if_neg (by omega), if_neg (by omega), lane_getLsbD _ _ _ hj]
  · rw [if_pos (by omega), if_pos rfl, Nat.add_sub_cancel_left]
  · have habove : 8 * size * (k + 1) ≤ 8 * size * i := Nat.mul_le_mul_left _ hgt
    rw [Nat.mul_succ] at habove
    rw [if_neg (by omega), if_neg (by omega), lane_getLsbD _ _ _ hj]

/-- Element by element, store what `f` gives. -/
def updateLanes (size count : Nat) (f : Nat → Option (BitVec (8 * size))) (v : BitVec n) :
    BitVec n :=
  (List.range count).foldl (fun v k => (f k).elim v (storeLane size v (k * size))) v

/-- One lane more. -/
theorem updateLanes_succ (size count : Nat) (f : Nat → Option (BitVec (8 * size))) (v : BitVec n) :
    updateLanes size (count + 1) f v =
      (f count).elim (updateLanes size count f v)
        (storeLane size (updateLanes size count f v) (count * size)) := by
  unfold updateLanes
  rw [List.range_succ, List.foldl_append]
  rfl

/-- A lane after the loop. -/
theorem lane_updateLanes {size : Nat} (f : Nat → Option (BitVec (8 * size))) (v : BitVec n)
    {i : Nat} (hi : 8 * size * (i + 1) ≤ n) : ∀ count : Nat,
    lane (8 * size) (updateLanes size count f v) i =
      if i < count then (f i).getD (lane (8 * size) v i) else lane (8 * size) v i := by
  intro count
  induction count with
  | zero => exact (if_neg (Nat.not_lt_zero i)).symm
  | succ count ih =>
    rw [updateLanes_succ]
    by_cases hlast : i = count
    · rw [if_pos (by omega), hlast]
      rw [hlast, if_neg (Nat.lt_irrefl count)] at ih
      -- A lane that `f` leaves alone keeps the value of `v`.
      cases hf : f count with
      | none => exact ih
      | some x =>
        rw [hlast] at hi
        exact (lane_storeLane _ _ _ hi).trans (if_pos rfl)
    · have hkeep : lane (8 * size) ((f count).elim (updateLanes size count f v)
          (storeLane size (updateLanes size count f v) (count * size))) i =
          lane (8 * size) (updateLanes size count f v) i := by
        cases f count with
        | none => rfl
        | some x => exact (lane_storeLane _ _ _ hi).trans (if_neg hlast)
      rw [hkeep, ih]
      by_cases hlt : i < count
      · rw [if_pos hlt, if_pos (by omega)]
      · rw [if_neg hlt, if_neg (by omega)]

/-- Nothing behind the elements changes. -/
theorem updateLanes_high {size : Nat} (f : Nat → Option (BitVec (8 * size))) (v : BitVec n)
    {j : Nat} (hj : j < n) : ∀ count : Nat, 8 * size * count ≤ j →
    (updateLanes size count f v).getLsbD j = v.getLsbD j := by
  intro count
  induction count with
  | zero => exact fun _ => rfl
  | succ count ih =>
    intro hhigh
    rw [Nat.mul_succ] at hhigh
    have hend : 8 * (count * size + size) = 8 * size * count + 8 * size := by
      rw [Nat.mul_add, Nat.mul_comm count size, Nat.mul_assoc]
    rw [updateLanes_succ]
    cases f count with
    | none => exact ih (by omega)
    | some x =>
      show (storeLane size (updateLanes size count f v) (count * size) x).getLsbD j = v.getLsbD j
      rw [storeLane_getLsbD _ _ _ _ hj, if_neg (by omega)]
      exact ih (by omega)

/-- A byte of an element. -/
theorem lane_lane (size : Nat) (v : BitVec n) (i : Nat) {j : Nat} (hj : j < size) :
    lane 8 (lane (8 * size) v i) j = lane 8 v (i * size + j) := by
  rw [lane_eq_iff]
  intro k hk
  have hplace : 8 * (i * size + j) = 8 * size * i + 8 * j := by
    rw [Nat.mul_add, Nat.mul_comm i size, Nat.mul_assoc]
  rw [lane_getLsbD _ _ _ (by omega), lane_getLsbD _ _ _ hk, hplace, Nat.add_assoc]

/-- Elements are equal when their bytes are. -/
theorem lane_eq_of_bytes {size i k : Nat} {v : BitVec n} {w : BitVec m}
    (h : ∀ j < size, lane 8 v (i * size + j) = lane 8 w (k * size + j)) :
    lane (8 * size) v i = lane (8 * size) w k := by
  apply BitVec.eq_of_getLsbD_eq
  intro j hj
  have hbyte := congrArg (·.getLsbD (j % 8)) (h (j / 8) (by omega))
  have hplace : ∀ i, 8 * (i * size + j / 8) + j % 8 = 8 * size * i + j := by
    intro i
    rw [Nat.mul_add, Nat.mul_comm i, ← Nat.mul_assoc, Nat.add_assoc, Nat.div_add_mod]
  rw [lane_getLsbD _ _ _ (by omega), lane_getLsbD _ _ _ (by omega), hplace, hplace] at hbyte
  rw [lane_getLsbD _ _ _ hj, lane_getLsbD _ _ _ hj]
  exact hbyte

/-! ## Parts shifted into place -/

/-- `f 0`, `f 1`, … of `w` bits each, ored together. -/
def stackLanes (w count : Nat) (f : Nat → BitVec n) : BitVec n :=
  (List.range count).foldl (fun out k => out ||| (f k <<< (w * k))) 0#n

/-- A bit of the stacked lanes. -/
theorem stackLanes_getLsbD {w : Nat} {f : Nat → BitVec n}
    (hf : ∀ k j, w ≤ j → (f k).getLsbD j = false) {i j : Nat} (hj : j < w) (hn : w * i + j < n) :
    ∀ count : Nat,
    (stackLanes w count f).getLsbD (w * i + j) = (decide (i < count) && (f i).getLsbD j) := by
  intro count
  induction count with
  | zero => exact BitVec.getLsbD_zero
  | succ count ih =>
    have hstep : stackLanes w (count + 1) f = stackLanes w count f ||| (f count <<< (w * count)) := by
      unfold stackLanes
      rw [List.range_succ, List.foldl_append]
      rfl
    rw [hstep, BitVec.getLsbD_or, ih, BitVec.getLsbD_shiftLeft, decide_eq_true hn, Bool.true_and]
    rcases Nat.lt_trichotomy i count with hlt | rfl | hgt
    · have hbelow : w * (i + 1) ≤ w * count := Nat.mul_le_mul_left _ hlt
      rw [Nat.mul_succ] at hbelow
      rw [decide_eq_true hlt, decide_eq_true (by omega : i < count + 1),
        decide_eq_true (by omega : w * i + j < w * count)]
      simp only [Bool.not_true, Bool.false_and, Bool.or_false]
    · rw [decide_eq_false (Nat.lt_irrefl i), decide_eq_true (by omega : i < i + 1),
        decide_eq_false (by omega : ¬w * i + j < w * i), Nat.add_sub_cancel_left]
      simp only [Bool.false_and, Bool.false_or, Bool.not_false, Bool.true_and]
    · -- an earlier part has no bits this high
      have habove : w * (count + 1) ≤ w * i := Nat.mul_le_mul_left _ hgt
      rw [Nat.mul_succ] at habove
      rw [decide_eq_false (by omega : ¬i < count), decide_eq_false (by omega : ¬i < count + 1),
        hf count _ (by omega)]
      simp only [Bool.false_and, Bool.and_false, Bool.or_false]

end Seven.Lib
