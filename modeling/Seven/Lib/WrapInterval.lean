import Mathlib.Data.Nat.ModEq
import Mathlib.Tactic.Common

/-!
# Intervals under wrapping ends

Code that stores an interval as a base and a size compares *ends*, and
computes an end as `base + size` in machine arithmetic. The integers have
two relations the code is after: one interval covers another (`Covers`),
two intervals meet (`Meets`). The machine's tests are `coversWrapped` and
`meetsWrapped`, the same comparisons on wrapped ends.

While no end reaches `2 ^ w` and no interval is empty the tests are right.
Past that each goes wrong in its own way: `coversWrapped_iff` says exactly
what the machine decides, `meetsWrapped_eq_iff` exactly where it decides
right. Of two short intervals `meetsWrapped` finds those that meet below the
top; `meetsLast`, which compares the last addresses, also those that end
there (`meetsWrapped_eq_meetsLast_iff`).
-/

namespace Seven.Lib

variable {w : Nat}

/-! ## The two relations -/

/-- `[base, base + size)` covers `[a, a + n)`, as intervals of integers. -/
def Covers (base : BitVec w) (size : Nat) (a : BitVec w) (n : Nat) : Prop :=
  base.toNat ≤ a.toNat ∧ a.toNat + n ≤ base.toNat + size

instance decidableCovers (base : BitVec w) (size : Nat) (a : BitVec w) (n : Nat) :
    Decidable (Covers base size a n) :=
  inferInstanceAs (Decidable (_ ∧ _))

/-- `[base, base + size)` and `[a, a + n)` share an integer. -/
def Meets (base : BitVec w) (size : Nat) (a : BitVec w) (n : Nat) : Prop :=
  ∃ x, (base.toNat ≤ x ∧ x < base.toNat + size) ∧ a.toNat ≤ x ∧ x < a.toNat + n

/-- Two intervals meet when each begins before the other ends. -/
theorem meets_iff (base : BitVec w) (size : Nat) (a : BitVec w) (n : Nat) :
    Meets base size a n ↔
      0 < size ∧ 0 < n ∧ a.toNat < base.toNat + size ∧ base.toNat < a.toNat + n := by
  constructor
  · intro ⟨x, hx⟩
    omega
  · intro h
    exact ⟨max base.toNat a.toNat, by omega⟩

instance decidableMeets (base : BitVec w) (size : Nat) (a : BitVec w) (n : Nat) :
    Decidable (Meets base size a n) :=
  decidable_of_iff _ (meets_iff base size a n).symm

/-! ## Wrapped ends -/

/-- `base + size`, as the machine computes it. -/
def wrapEnd (base : BitVec w) (size : Nat) : BitVec w := base + BitVec.ofNat w size

/-- The end, wrapped. -/
theorem toNat_wrapEnd (base : BitVec w) (size : Nat) :
    (wrapEnd base size).toNat = (base.toNat + size) % 2 ^ w := by
  unfold wrapEnd
  rw [BitVec.toNat_add, BitVec.toNat_ofNat, Nat.add_mod_mod]

/-- An interval below the top has its end. -/
theorem toNat_wrapEnd_of_lt {base : BitVec w} {size : Nat} (h : base.toNat + size < 2 ^ w) :
    (wrapEnd base size).toNat = base.toNat + size := by
  rw [toNat_wrapEnd, Nat.mod_eq_of_lt h]

/-- An interval across the top has its end behind zero. -/
theorem toNat_wrapEnd_of_le {base : BitVec w} {size : Nat} (h : 2 ^ w ≤ base.toNat + size)
    (hsize : size < 2 ^ w) : (wrapEnd base size).toNat = base.toNat + size - 2 ^ w := by
  have hbase := base.isLt
  rw [toNat_wrapEnd, Nat.mod_eq_sub_mod h, Nat.mod_eq_of_lt (by omega)]

/-! ## What the machine decides -/

/-- `a >= base && a + n <= base + size`. -/
def coversWrapped (base : BitVec w) (size : Nat) (a : BitVec w) (n : Nat) : Bool :=
  decide (base ≤ a) && decide (wrapEnd a n ≤ wrapEnd base size)

/-- `!(a >= base + size || a + n <= base)`. -/
def meetsWrapped (base : BitVec w) (size : Nat) (a : BitVec w) (n : Nat) : Bool :=
  decide (a < wrapEnd base size) && decide (base < wrapEnd a n)

/-- **The covering test.** Between an access that stays below the top and an
interval that does not leave the space, the test is right except at
intervals that end at the top, which it never finds. An access that ends at
the top is compared by its base alone. -/
theorem coversWrapped_iff {base a : BitVec w} {size n : Nat} (hn : 0 < n)
    (hsize : base.toNat + size ≤ 2 ^ w) (ha : a.toNat + n ≤ 2 ^ w) :
    coversWrapped base size a n = true ↔
      if a.toNat + n = 2 ^ w then base.toNat ≤ a.toNat
      else Covers base size a n ∧ base.toNat + size < 2 ^ w := by
  unfold coversWrapped Covers
  rw [Bool.and_eq_true, decide_eq_true_iff, decide_eq_true_iff, BitVec.le_def, BitVec.le_def,
    toNat_wrapEnd, toNat_wrapEnd]
  by_cases htop : a.toNat + n = 2 ^ w
  · rw [if_pos htop, htop, Nat.mod_self]
    exact and_iff_left (Nat.zero_le _)
  · rw [if_neg htop, Nat.mod_eq_of_lt (show a.toNat + n < 2 ^ w by omega)]
    by_cases hend : base.toNat + size = 2 ^ w
    · rw [hend, Nat.mod_self]
      omega
    · rw [Nat.mod_eq_of_lt (show base.toNat + size < 2 ^ w by omega)]
      omega

/-- Where the meeting test is right. An empty interval meets nothing, but the
machine finds it strictly inside a longer one. Where two intervals do meet,
each end either stays below the top or, wrapped, still lies above the other
one's base. -/
def MeetsSafe (base : BitVec w) (size : Nat) (a : BitVec w) (n : Nat) : Prop :=
  if size = 0 then
    ¬ (a.toNat < base.toNat ∧ base.toNat < a.toNat + n ∧ a.toNat + n < 2 ^ w)
  else
    Meets base size a n →
      (base.toNat + size < 2 ^ w ∨ a.toNat + 2 ^ w < base.toNat + size) ∧
      (a.toNat + n < 2 ^ w ∨ base.toNat + 2 ^ w < a.toNat + n)

/-- A wrapped end lies above an address when the true end does, and by the
size of the space if it left it. -/
theorem lt_wrapEnd_iff {base a : BitVec w} {size : Nat} (hsize : size < 2 ^ w) :
    a < wrapEnd base size ↔
      a.toNat < base.toNat + size ∧
        (base.toNat + size < 2 ^ w ∨ a.toNat + 2 ^ w < base.toNat + size) := by
  rw [BitVec.lt_def]
  by_cases hend : base.toNat + size < 2 ^ w
  · rw [toNat_wrapEnd_of_lt hend]
    omega
  · have htop : 2 ^ w ≤ base.toNat + size := Nat.le_of_not_lt hend
    rw [toNat_wrapEnd_of_le htop hsize]
    omega

/-- **The meeting test**, for a nonempty access. -/
theorem meetsWrapped_eq_iff {base a : BitVec w} {size n : Nat} (hsize : size < 2 ^ w)
    (hn : 0 < n) (hn' : n < 2 ^ w) :
    meetsWrapped base size a n = decide (Meets base size a n) ↔ MeetsSafe base size a n := by
  have hmachine : meetsWrapped base size a n = true ↔
      (a.toNat < base.toNat + size ∧
        (base.toNat + size < 2 ^ w ∨ a.toNat + 2 ^ w < base.toNat + size)) ∧
      base.toNat < a.toNat + n ∧ (a.toNat + n < 2 ^ w ∨ base.toNat + 2 ^ w < a.toNat + n) := by
    unfold meetsWrapped
    rw [Bool.and_eq_true_iff, decide_eq_true_iff, decide_eq_true_iff, lt_wrapEnd_iff hsize,
      lt_wrapEnd_iff hn']
  have hbase := base.isLt
  have ha := a.isLt
  rw [Bool.eq_iff_iff, decide_eq_true_iff, hmachine]
  unfold MeetsSafe
  rw [meets_iff]
  by_cases hzero : size = 0
  · rw [if_pos hzero]
    omega
  · rw [if_neg hzero]
    omega

/-- Ends below the top: the meeting test is right for nonempty intervals. -/
theorem meetsSafe_of_lt {base a : BitVec w} {size n : Nat} (hsize : 0 < size)
    (hend : base.toNat + size < 2 ^ w) (ha : a.toNat + n < 2 ^ w) : MeetsSafe base size a n := by
  unfold MeetsSafe
  rw [if_neg (by omega)]
  intro _
  exact ⟨Or.inl hend, Or.inl ha⟩

/-! ## Short intervals -/

/-- `!(base + (size - 1) < a || a + (n - 1) < base)`. -/
def meetsLast (base : BitVec w) (size : Nat) (a : BitVec w) (n : Nat) : Bool :=
  !(decide (wrapEnd base (size - 1) < a) || decide (wrapEnd a (n - 1) < base))

section short

variable {base a : BitVec w} {size n : Nat} (hsize : 0 < size) (hn : 0 < n)
  (hshort : size + n ≤ 2 ^ w)

include hsize hn hshort

/-- The meeting test finds what meets below the top. -/
theorem meetsWrapped_iff_below :
    meetsWrapped base size a n = true ↔
      Meets base size a n ∧ base.toNat + size < 2 ^ w ∧ a.toNat + n < 2 ^ w := by
  unfold meetsWrapped
  rw [Bool.and_eq_true_iff, decide_eq_true_iff, decide_eq_true_iff, lt_wrapEnd_iff (by omega),
    lt_wrapEnd_iff (by omega), meets_iff]
  omega

/-- The test by last addresses finds what meets without leaving the space. -/
theorem meetsLast_iff :
    meetsLast base size a n = true ↔
      Meets base size a n ∧ base.toNat + size ≤ 2 ^ w ∧ a.toNat + n ≤ 2 ^ w := by
  have hbase := base.isLt
  have ha := a.isLt
  have hlast {b : BitVec w} {m : Nat} (hb : b.toNat < 2 ^ w) (hm : m - 1 < 2 ^ w) (hpos : 0 < m) :
      (wrapEnd b (m - 1)).toNat =
        if b.toNat + m ≤ 2 ^ w then b.toNat + m - 1 else b.toNat + m - 1 - 2 ^ w := by
    by_cases hend : b.toNat + m ≤ 2 ^ w
    · rw [if_pos hend, toNat_wrapEnd_of_lt (by omega)]
      omega
    · rw [if_neg hend, toNat_wrapEnd_of_le (by omega) hm]
      omega
  unfold meetsLast
  rw [Bool.not_eq_true', Bool.or_eq_false_iff, decide_eq_false_iff_not, decide_eq_false_iff_not,
    BitVec.lt_def, BitVec.lt_def, hlast hbase (by omega) hsize, hlast ha (by omega) hn, meets_iff]
  split <;> split <;> omega

/-- **Where the two tests agree**: unless the intervals meet and one of them
ends at the top. -/
theorem meetsWrapped_eq_meetsLast_iff :
    meetsWrapped base size a n = meetsLast base size a n ↔
      ¬(Meets base size a n ∧ base.toNat + size ≤ 2 ^ w ∧ a.toNat + n ≤ 2 ^ w ∧
        (base.toNat + size = 2 ^ w ∨ a.toNat + n = 2 ^ w)) := by
  rw [Bool.eq_iff_iff, meetsWrapped_iff_below hsize hn hshort, meetsLast_iff hsize hn hshort,
    meets_iff]
  omega

end short

/-! ## Bytes -/

/-- One of the `n` addresses from `a` on, which go on at 0 behind the top,
lies in `[base, base + size)`. -/
def HasByteIn (base : BitVec w) (size : Nat) (a : BitVec w) (n : Nat) : Prop :=
  ∃ k < n, base.toNat ≤ (a + BitVec.ofNat w k).toNat ∧
    (a + BitVec.ofNat w k).toNat < base.toNat + size

instance (base : BitVec w) (size : Nat) (a : BitVec w) (n : Nat) :
    Decidable (HasByteIn base size a n) :=
  inferInstanceAs (Decidable (∃ k < n, _))

/-- Addresses that do not reach the top do not wrap. -/
theorem hasByteIn_iff_meets {base a : BitVec w} {size n : Nat} (ha : a.toNat + n ≤ 2 ^ w) :
    HasByteIn base size a n ↔ Meets base size a n := by
  have haddress {k : Nat} (hk : k < n) : (a + BitVec.ofNat w k).toNat = a.toNat + k := by
    rw [BitVec.toNat_add, BitVec.toNat_ofNat, Nat.add_mod_mod, Nat.mod_eq_of_lt (by omega)]
  constructor
  · rintro ⟨k, hk, hlow, hhigh⟩
    rw [haddress hk] at hlow hhigh
    exact ⟨a.toNat + k, ⟨hlow, hhigh⟩, Nat.le_add_right _ _, by omega⟩
  · rintro ⟨x, ⟨hlow, hhigh⟩, hstart, hend⟩
    refine ⟨x - a.toNat, by omega, ?_⟩
    rw [haddress (by omega)]
    omega

end Seven.Lib
