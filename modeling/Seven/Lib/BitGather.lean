import Mathlib.Data.Nat.Count

/-!
# Gathering and scattering bits under a mask

The set positions of a mask are numbered from below: the number of a position
is how many set ones lie under it. `scatter` puts bit `k` of a sequence at the
set position numbered `k`; `gather` collects the bits at the set positions
below a bound in the order of their numbers. On the positions of the mask the
two undo each other.
-/

namespace Seven.Lib

section

variable (m x : Nat → Bool)

/-- The number of set positions below `i`. -/
def rank (i : Nat) : Nat := Nat.count (fun k => m k = true) i

/-- Bits spread: the set places of `m`, in order, take the bits of `x`. -/
def scatter (i : Nat) : Bool := m i && x (rank m i)

/-- Bits packed: bit `j` is the one at the `j`-th set place of `m`, below `n`. -/
def gather (n j : Nat) : Bool := decide (∃ i < n, m i = true ∧ rank m i = j ∧ x i = true)

variable {m x}

/-- Nothing lies below the first place. -/
theorem rank_zero : rank m 0 = 0 := Nat.count_zero _

/-- A set place counts. -/
theorem rank_succ_of_set {n : Nat} (h : m n = true) : rank m (n + 1) = rank m n + 1 := by
  unfold rank
  rw [Nat.count_succ, if_pos h]

/-- A clear place does not. -/
theorem rank_succ_of_clear {n : Nat} (h : m n = false) : rank m (n + 1) = rank m n := by
  unfold rank
  rw [Nat.count_succ, if_neg (by rw [h]; exact Bool.false_ne_true), Nat.add_zero]

/-- At most all places are set. -/
theorem rank_le (n : Nat) : rank m n ≤ n := Nat.count_le _

/-- A set place is counted by the ranks behind it. -/
theorem rank_lt {i n : Nat} (hi : i < n) (h : m i = true) : rank m i < rank m n :=
  Nat.count_strict_mono h hi

/-- Above the last set position nothing is counted. -/
theorem rank_of_clear_above {n k : Nat} (hclear : ∀ i, n ≤ i → m i = false) (hk : n ≤ k) :
    rank m k = rank m n := by
  induction k with
  | zero => rw [Nat.le_zero.mp hk]
  | succ k ih =>
    rcases Nat.lt_or_ge k n with hlt | hge
    · rw [show n = k + 1 by omega]
    · rw [rank_succ_of_clear (hclear k hge), ih hge]

/-- Two set positions have two numbers. -/
theorem rank_injective {i j : Nat} (hi : m i = true) (hj : m j = true) (h : rank m i = rank m j) :
    i = j := Nat.count_injective hi hj h

/-- Every number below the count is some set position's. -/
theorem exists_rank {n j : Nat} (h : j < rank m n) : ∃ i < n, m i = true ∧ rank m i = j := by
  induction n with
  | zero =>
    rw [rank_zero] at h
    omega
  | succ n ih =>
    cases hm : m n with
    | true =>
      rw [rank_succ_of_set hm] at h
      by_cases heq : rank m n = j
      · exact ⟨n, Nat.lt_succ_self n, hm, heq⟩
      · obtain ⟨i, hi, hset, hrank⟩ := ih (by omega)
        exact ⟨i, by omega, hset, hrank⟩
    | false =>
      rw [rank_succ_of_clear hm] at h
      obtain ⟨i, hi, hset, hrank⟩ := ih h
      exact ⟨i, by omega, hset, hrank⟩

/-! ## One position more -/

/-- Nothing packed. -/
theorem gather_zero (j : Nat) : gather m x 0 j = false := by
  unfold gather
  rw [decide_eq_false_iff_not]
  rintro ⟨i, hi, -⟩
  exact Nat.not_lt_zero i hi

/-- A clear place packs nothing. -/
theorem gather_succ_of_clear {n : Nat} (h : m n = false) (j : Nat) :
    gather m x (n + 1) j = gather m x n j := by
  unfold gather
  rw [decide_eq_decide]
  constructor
  · rintro ⟨i, hi, hset, hrest⟩
    have hne : i ≠ n := by
      rintro rfl
      rw [h] at hset
      exact Bool.false_ne_true hset
    exact ⟨i, by omega, hset, hrest⟩
  · rintro ⟨i, hi, hrest⟩
    exact ⟨i, by omega, hrest⟩

/-- A set place packs its bit behind those so far. -/
theorem gather_succ_of_set {n : Nat} (h : m n = true) (j : Nat) :
    gather m x (n + 1) j = (gather m x n j || (decide (rank m n = j) && x n)) := by
  unfold gather
  rw [Bool.eq_iff_iff, Bool.or_eq_true, Bool.and_eq_true, decide_eq_true_iff, decide_eq_true_iff,
    decide_eq_true_iff]
  constructor
  · rintro ⟨i, hi, hset, hrank, hx⟩
    by_cases hn : i = n
    · subst hn
      exact Or.inr ⟨hrank, hx⟩
    · exact Or.inl ⟨i, by omega, hset, hrank, hx⟩
  · rintro (⟨i, hi, hrest⟩ | ⟨hrank, hx⟩)
    · exact ⟨i, by omega, hrest⟩
    · exact ⟨n, Nat.lt_succ_self n, h, hrank, hx⟩

/-! ## Both ways -/

/-- Behind the set places there is nothing. -/
theorem gather_high {n j : Nat} (h : rank m n ≤ j) : gather m x n j = false := by
  unfold gather
  rw [decide_eq_false_iff_not]
  rintro ⟨i, hi, hset, hrank, -⟩
  have := rank_lt hi hset
  omega

/-- A scattered sequence is gathered back, as far as the mask reaches. -/
theorem gather_scatter (n j : Nat) :
    gather m (scatter m x) n j = (decide (j < rank m n) && x j) := by
  by_cases hj : j < rank m n
  · rw [decide_eq_true hj, Bool.true_and]
    obtain ⟨i, hi, hset, hrank⟩ := exists_rank hj
    unfold gather
    rw [Bool.eq_iff_iff, decide_eq_true_iff]
    constructor
    · rintro ⟨k, -, hk, hkrank, hx⟩
      unfold scatter at hx
      rw [hk, Bool.true_and, hkrank] at hx
      exact hx
    · intro hx
      refine ⟨i, hi, hset, hrank, ?_⟩
      unfold scatter
      rw [hset, Bool.true_and, hrank]
      exact hx
  · rw [decide_eq_false hj, Bool.false_and]
    exact gather_high (by omega)

/-- A gathered sequence is scattered back to the positions of the mask. -/
theorem scatter_gather {n i : Nat} (hi : i < n) : scatter m (gather m x n) i = (m i && x i) := by
  unfold scatter
  cases hm : m i with
  | false => rw [Bool.false_and, Bool.false_and]
  | true =>
    rw [Bool.true_and, Bool.true_and]
    unfold gather
    rw [Bool.eq_iff_iff, decide_eq_true_iff]
    constructor
    · rintro ⟨k, -, hk, hrank, hx⟩
      rw [← rank_injective hk hm hrank]
      exact hx
    · intro hx
      exact ⟨i, hi, hm, rfl, hx⟩

/-! ## Intervals -/

/-- Inside an interval of set positions the number is the distance to its
start. -/
theorem rank_interval {a l n : Nat} (hm : ∀ i < n, m i = decide (a ≤ i ∧ i < a + l)) {i : Nat}
    (hi : i ≤ n) (hl : i ≤ a + l) : rank m i = i - a := by
  induction i with
  | zero => rw [rank_zero, Nat.zero_sub]
  | succ i ih =>
    have hbit := hm i (by omega)
    by_cases ha : a ≤ i
    · rw [rank_succ_of_set (by rw [hbit, decide_eq_true]; omega), ih (by omega) (by omega)]
      omega
    · rw [rank_succ_of_clear (by rw [hbit, decide_eq_false]; omega), ih (by omega) (by omega)]
      omega

/-- Gathering under an interval is a shift. -/
theorem gather_interval {a l n : Nat} (hm : ∀ i < n, m i = decide (a ≤ i ∧ i < a + l)) (j : Nat) :
    gather m x n j = (decide (j < l) && (decide (a + j < n) && x (a + j))) := by
  unfold gather
  rw [Bool.eq_iff_iff, Bool.and_eq_true, Bool.and_eq_true, decide_eq_true_iff, decide_eq_true_iff,
    decide_eq_true_iff]
  constructor
  · rintro ⟨i, hi, hset, hrank, hx⟩
    rw [hm i hi, decide_eq_true_iff] at hset
    rw [rank_interval hm (by omega) (by omega)] at hrank
    obtain rfl : i = a + j := by omega
    exact ⟨by omega, hi, hx⟩
  · rintro ⟨hj, hn, hx⟩
    refine ⟨a + j, hn, ?_, ?_, hx⟩
    · rw [hm _ hn, decide_eq_true_iff]
      omega
    · rw [rank_interval hm (by omega) (by omega)]
      omega

end

end Seven.Lib
