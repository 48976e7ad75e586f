import Mathlib.Algebra.Order.Group.Abs
import Mathlib.Algebra.Order.Group.Int
import Mathlib.Algebra.Ring.Int.Parity
import Mathlib.Order.Bounds.Basic
import Mathlib.Tactic.Ring

/-!
# Rounding

Rounding a value into a set of representable ones, in the four directions of
IEEE 754. What the directions ask for is stated without an algorithm; an
algorithm finds the two neighbours of the value and takes one of them.

> `Neighbours.down`, `Neighbours.up`, `Neighbours.nearest_low`,
> `Neighbours.nearest_high`: which neighbour a direction asks for.

The second part is about integers of `p` significant bits: cutting off the
low bits of an integer gives its neighbours (`significant_neighbours`).
-/

namespace Seven.Lib

/-- The four rounding directions. -/
inductive RoundingMode where
  | nearestEven | down | up | towardZero
deriving DecidableEq, Repr

section

variable {α : Type} [LinearOrder α]

/-- `x` lies between two representable values that are next to each other. -/
structure Neighbours (F : α → Prop) (x low high : α) : Prop where
  low_mem : F low
  high_mem : F high
  low_lt : low < x
  lt_high : x < high
  none_between : ∀ z, F z → z ≤ low ∨ high ≤ z

namespace Neighbours

variable {F : α → Prop} {x low high : α}

/-- The lower neighbour is the greatest from below. -/
theorem down (h : Neighbours F x low high) : IsGreatest {z | F z ∧ z ≤ x} low := by
  refine ⟨⟨h.low_mem, h.low_lt.le⟩, fun z hz => ?_⟩
  rcases h.none_between z hz.1 with hle | hge
  · exact hle
  · exact absurd (h.lt_high.trans_le hge) (not_lt.mpr hz.2)

/-- The upper neighbour is the least from above. -/
theorem up (h : Neighbours F x low high) : IsLeast {z | F z ∧ x ≤ z} high := by
  refine ⟨⟨h.high_mem, h.lt_high.le⟩, fun z hz => ?_⟩
  rcases h.none_between z hz.1 with hle | hge
  · exact absurd (hle.trans_lt h.low_lt) (not_lt.mpr hz.2)
  · exact hge

end Neighbours

end

section

variable {α : Type} [AddCommGroup α] [LinearOrder α]

/-- `y` is `x` rounded into `F`; of two nearest values the even one. -/
def Rounds (F even : α → Prop) (mode : RoundingMode) (x y : α) : Prop :=
  match mode with
  | .nearestEven =>
    F y ∧ (∀ z, F z → |x - y| ≤ |x - z|) ∧ ∀ z, F z → z ≠ y → |x - z| = |x - y| → even y
  | .down => IsGreatest {z | F z ∧ z ≤ x} y
  | .up => IsLeast {z | F z ∧ x ≤ z} y
  | .towardZero =>
    (0 ≤ x → IsGreatest {z | F z ∧ z ≤ x} y) ∧ (x ≤ 0 → IsLeast {z | F z ∧ x ≤ z} y)

/-- The direction for the negated value. -/
def RoundingMode.mirror : RoundingMode → RoundingMode
  | .down => .up
  | .up => .down
  | mode => mode

variable [IsOrderedAddMonoid α] {F even : α → Prop} {x low high : α}

/-- A representable value rounds to itself. -/
theorem rounds_self (mode : RoundingMode) (hx : F x) : Rounds F even mode x x := by
  have hbelow : IsGreatest {z | F z ∧ z ≤ x} x := ⟨⟨hx, le_rfl⟩, fun z hz => hz.2⟩
  have habove : IsLeast {z | F z ∧ x ≤ z} x := ⟨⟨hx, le_rfl⟩, fun z hz => hz.2⟩
  cases mode with
  | down => exact hbelow
  | up => exact habove
  | towardZero => exact ⟨fun _ => hbelow, fun _ => habove⟩
  | nearestEven =>
    have hzero : |x - x| = 0 := by rw [sub_self, abs_zero]
    refine ⟨hx, fun z _ => hzero ▸ abs_nonneg _, fun z _ hne heq => ?_⟩
    rw [hzero, abs_eq_zero, sub_eq_zero] at heq
    exact absurd heq.symm hne

namespace Neighbours

/-- Any representable value is as far away as the neighbour on its side. -/
theorem distance (h : Neighbours F x low high) {z : α} (hz : F z) :
    (z ≤ low ∧ x - low ≤ |x - z|) ∨ (high ≤ z ∧ high - x ≤ |x - z|) := by
  rcases h.none_between z hz with hle | hge
  · refine Or.inl ⟨hle, ?_⟩
    rw [abs_of_pos (sub_pos.mpr (hle.trans_lt h.low_lt))]
    exact sub_le_sub_left hle x
  · refine Or.inr ⟨hge, ?_⟩
    rw [abs_sub_comm, abs_of_pos (sub_pos.mpr (h.lt_high.trans_le hge))]
    exact sub_le_sub_right hge x

/-- The lower neighbour is nearest. -/
theorem nearest_low (h : Neighbours F x low high)
    (hnear : x - low < high - x ∨ (x - low = high - x ∧ even low)) :
    Rounds F even .nearestEven x low := by
  have hle : x - low ≤ high - x := hnear.elim le_of_lt fun h => h.1.le
  have habs : |x - low| = x - low := abs_of_pos (sub_pos.mpr h.low_lt)
  refine ⟨h.low_mem, fun z hz => ?_, fun z hz hne heq => ?_⟩
  · rw [habs]
    rcases h.distance hz with ⟨_, hfar⟩ | ⟨_, hfar⟩
    · exact hfar
    · exact hle.trans hfar
  · rcases hnear with hlt | ⟨_, heven⟩
    · exfalso
      rw [habs] at heq
      rcases h.distance hz with ⟨hbelow, _⟩ | ⟨_, hfar⟩
      · -- farther down than the neighbour, so not as near
        rw [abs_of_pos (sub_pos.mpr (hbelow.trans_lt h.low_lt))] at heq
        exact hne (sub_right_injective heq)
      · exact absurd (hfar.trans_eq heq) (not_le.mpr hlt)
    · exact heven

/-- The upper neighbour is nearest. -/
theorem nearest_high (h : Neighbours F x low high)
    (hnear : high - x < x - low ∨ (x - low = high - x ∧ even high)) :
    Rounds F even .nearestEven x high := by
  have hle : high - x ≤ x - low := hnear.elim le_of_lt fun h => h.1.ge
  have habs : |x - high| = high - x := by
    rw [abs_sub_comm, abs_of_pos (sub_pos.mpr h.lt_high)]
  refine ⟨h.high_mem, fun z hz => ?_, fun z hz hne heq => ?_⟩
  · rw [habs]
    rcases h.distance hz with ⟨_, hfar⟩ | ⟨_, hfar⟩
    · exact hle.trans hfar
    · exact hfar
  · rcases hnear with hlt | ⟨_, heven⟩
    · exfalso
      rw [habs] at heq
      rcases h.distance hz with ⟨_, hfar⟩ | ⟨habove, _⟩
      · exact absurd (hfar.trans_eq heq) (not_le.mpr hlt)
      · rw [abs_sub_comm, abs_of_pos (sub_pos.mpr (h.lt_high.trans_le habove))] at heq
        exact hne (sub_left_injective heq)
    · exact heven

end Neighbours

/-- Rounding the negated value the other way round. -/
theorem Rounds.neg (hF : ∀ z, F z → F (-z)) (heven : ∀ z, even z → even (-z)) {mode : RoundingMode}
    {y : α} (h : Rounds F even mode x y) : Rounds F even mode.mirror (-x) (-y) := by
  -- Negation turns the greatest value below into the least one above.
  have hup : IsGreatest {z | F z ∧ z ≤ x} y → IsLeast {z | F z ∧ -x ≤ z} (-y) := by
    rintro ⟨⟨hy, hle⟩, hall⟩
    refine ⟨⟨hF y hy, neg_le_neg hle⟩, fun z hz => ?_⟩
    exact neg_le.mp (hall ⟨hF z hz.1, neg_le.mp hz.2⟩)
  have hdown : IsLeast {z | F z ∧ x ≤ z} y → IsGreatest {z | F z ∧ z ≤ -x} (-y) := by
    rintro ⟨⟨hy, hle⟩, hall⟩
    refine ⟨⟨hF y hy, neg_le_neg hle⟩, fun z hz => ?_⟩
    exact le_neg.mp (hall ⟨hF z hz.1, le_neg.mp hz.2⟩)
  have hdist (z : α) : |-x - z| = |x - -z| := by
    rw [← abs_neg, neg_sub, sub_neg_eq_add, sub_neg_eq_add, add_comm]
  cases mode with
  | down => exact hup h
  | up => exact hdown h
  | towardZero =>
    exact ⟨fun hpos => hdown (h.2 (neg_nonneg.mp hpos)), fun hneg => hup (h.1 (neg_nonpos.mp hneg))⟩
  | nearestEven =>
    obtain ⟨hy, hnear, htie⟩ := h
    refine ⟨hF y hy, fun z hz => ?_, fun z hz hne heq => heven y ?_⟩
    · rw [hdist, hdist, neg_neg]
      exact hnear (-z) (hF z hz)
    · rw [hdist, hdist, neg_neg] at heq
      exact htie (-z) (hF z hz) (fun h => hne (neg_eq_iff_eq_neg.mp h)) heq

end

/-! ## Significant bits -/

/-- At most `p` significant bits. -/
def Significant (p : Nat) (v : Int) : Prop := ∃ m e : Nat, m < 2 ^ p ∧ v.natAbs = m * 2 ^ e

/-- The last of the `p` significant bits is clear. -/
def EvenSignificand (p : Nat) (v : Int) : Prop :=
  ∃ m e : Nat, 2 ^ (p - 1) ≤ m ∧ m < 2 ^ p ∧ m % 2 = 0 ∧ v.natAbs = m * 2 ^ e

section

variable {p s b : Nat}

/-- The significant numbers are closed under minus. -/
theorem Significant.neg {v : Int} (h : Significant p v) : Significant p (-v) := by
  unfold Significant at h ⊢
  rwa [Int.natAbs_neg]

/-- So are those with an even significand. -/
theorem EvenSignificand.neg {v : Int} (h : EvenSignificand p v) : EvenSignificand p (-v) := by
  unfold EvenSignificand at h ⊢
  rwa [Int.natAbs_neg]

/-- A multiple of `2 ^ s` by at most `2 ^ p` is representable, the next power
of two included. -/
theorem significant_mul (hp : 0 < p) (hb : b ≤ 2 ^ p) :
    Significant p ((b * 2 ^ s : Nat) : Int) := by
  rcases Nat.lt_or_ge b (2 ^ p) with hlt | hge
  · exact ⟨b, s, hlt, rfl⟩
  · obtain rfl : b = 2 ^ p := Nat.le_antisymm hb hge
    refine ⟨1, p + s, Nat.one_lt_two_pow (by omega), ?_⟩
    rw [Int.natAbs_natCast, Nat.one_mul, Nat.pow_add]

/-- An even significand shifted. -/
theorem evenSignificand_mul (hp : 1 < p) (hlow : 2 ^ (p - 1) ≤ b) (hb : b ≤ 2 ^ p)
    (heven : b % 2 = 0) : EvenSignificand p ((b * 2 ^ s : Nat) : Int) := by
  rcases Nat.lt_or_ge b (2 ^ p) with hlt | hge
  · exact ⟨b, s, hlow, hlt, heven, rfl⟩
  · obtain rfl : b = 2 ^ p := Nat.le_antisymm hb hge
    obtain ⟨k, rfl⟩ : ∃ k, p = k + 2 := ⟨p - 2, by omega⟩
    have hsucc : 2 ^ (k + 2) = 2 * 2 ^ (k + 1) := Nat.pow_succ'
    have hsucc' : 2 ^ (k + 1) = 2 * 2 ^ k := Nat.pow_succ'
    have hpos := Nat.two_pow_pos k
    refine ⟨2 ^ (k + 1), s + 1, Nat.le_refl _, by omega, by omega, ?_⟩
    rw [Int.natAbs_natCast, hsucc, Nat.pow_succ']
    ring

/-- The representable integers from `2 ^ (p - 1) * 2 ^ s` on are multiples of
`2 ^ s`. -/
theorem significant_dvd {v : Int} (hp : 0 < p) (hv : Significant p v)
    (hlarge : 2 ^ (p - 1) * 2 ^ s ≤ v.natAbs) : 2 ^ s ∣ v.natAbs := by
  obtain ⟨m, e, hm, hvalue⟩ := hv
  have hle : s ≤ e := by
    by_contra hlt
    have hsmall : m * 2 ^ e < 2 ^ p * 2 ^ e := Nat.mul_lt_mul_of_pos_right hm (Nat.two_pow_pos e)
    have hpow : 2 ^ p * 2 ^ e ≤ 2 ^ (p - 1) * 2 ^ s := by
      rw [← Nat.pow_add, ← Nat.pow_add]
      exact Nat.pow_le_pow_right (by decide) (by omega)
    omega
  rw [hvalue]
  exact Dvd.dvd.mul_left (Nat.pow_dvd_pow 2 hle) m

/-- **Cutting off low bits**: an integer with `p + s` bits lies between the multiples of
`2 ^ s` around it. -/
theorem significant_neighbours (hp : 0 < p) {n : Nat} (hlow : 2 ^ (p - 1) ≤ n / 2 ^ s)
    (hhigh : n / 2 ^ s < 2 ^ p) (hrest : n % 2 ^ s ≠ 0) :
    Neighbours (Significant p) (n : Int) ((n / 2 ^ s * 2 ^ s : Nat) : Int)
      (((n / 2 ^ s + 1) * 2 ^ s : Nat) : Int) := by
  have hpos := Nat.two_pow_pos s
  have hsplit := Nat.div_add_mod' n (2 ^ s)
  have hmod := Nat.mod_lt n hpos
  have hnext : (n / 2 ^ s + 1) * 2 ^ s = n / 2 ^ s * 2 ^ s + 2 ^ s := Nat.succ_mul _ _
  have hscale : 2 ^ (p - 1) * 2 ^ s ≤ n / 2 ^ s * 2 ^ s := Nat.mul_le_mul_right _ hlow
  refine ⟨significant_mul hp (Nat.le_of_lt hhigh), significant_mul hp hhigh, by omega, by omega, ?_⟩
  intro z hz
  by_contra hbetween
  obtain ⟨hlt, hgt⟩ := not_or.mp hbetween
  -- strictly between two multiples of `2 ^ s` there is no third
  have hlarge : 2 ^ (p - 1) * 2 ^ s ≤ z.natAbs := by omega
  obtain ⟨k, hk⟩ := significant_dvd hp hz hlarge
  have hnat : z.natAbs = z := by omega
  have hbelow : n / 2 ^ s < k := by
    have : n / 2 ^ s * 2 ^ s < k * 2 ^ s := by
      rw [Nat.mul_comm k]
      omega
    exact Nat.lt_of_mul_lt_mul_right this
  have habove : k < n / 2 ^ s + 1 := by
    have : k * 2 ^ s < (n / 2 ^ s + 1) * 2 ^ s := by
      rw [Nat.mul_comm k]
      omega
    exact Nat.lt_of_mul_lt_mul_right this
  omega

end

end Seven.Lib
