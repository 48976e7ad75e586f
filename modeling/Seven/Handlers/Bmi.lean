import Seven.Lib.BitGather
import Seven.Handlers.ShiftBits

/-!
# `PDEP` and `PEXT`

Both run over the positions of the mask from below with a second position
that advances at each set one: `pext` writes there, `pdep` reads there. That
second position is the rank of the first, so the loops compute the `gather`
and the `scatter` of the library, and the two instructions undo each other on
the bits a mask has room for.
-/

namespace Seven

open Seven.Lib

/-! ## The loops -/

/-- One pass of `pext`: the result and `destination_bit`. -/
def pextStep (source mask : U64) (st : U64 × Nat) (i : Nat) : U64 × Nat :=
  if (mask >>> i) &&& 1#64 ≠ 0#64 then
    (if (source >>> i) &&& 1#64 ≠ 0#64 then st.1 ||| (1#64 <<< st.2) else st.1, st.2 + 1)
  else st

/-- `PEXT`, bit by bit. -/
def pext (source mask : U64) (size : Nat) : U64 :=
  ((List.range (8 * size)).foldl (pextStep source mask) (0#64, 0)).1

/-- One pass of `pdep`: the result and `source_bit`. -/
def pdepStep (source mask : U64) (st : U64 × Nat) (i : Nat) : U64 × Nat :=
  if (mask >>> i) &&& 1#64 ≠ 0#64 then
    (if (source >>> st.2) &&& 1#64 ≠ 0#64 then st.1 ||| (1#64 <<< i) else st.1, st.2 + 1)
  else st

/-- `PDEP`, bit by bit. -/
def pdep (source mask : U64) (size : Nat) : U64 :=
  ((List.range (8 * size)).foldl (pdepStep source mask) (0#64, 0)).1

/-- The number of ones. -/
def popcount (v : U64) : Nat := rank v.getLsbD 64

/-! ## One pass -/

/-- The source's test of a bit. -/
theorem shift_and_one (v : U64) (i : Nat) : (v >>> i) &&& 1#64 ≠ 0#64 ↔ v.getLsbD i = true := by
  have hlow := flagSet_low (v >>> i)
  rw [BitVec.getLsbD_ushiftRight, Nat.add_zero] at hlow
  rw [← hlow]
  exact bne_iff_ne.symm

/-- A bit put in. -/
theorem getLsbD_or_shift (v : U64) {k : Nat} (hk : k < 64) (j : Nat) :
    (v ||| (1#64 <<< k)).getLsbD j = (v.getLsbD j || decide (k = j)) := by
  rw [BitVec.getLsbD_or, BitVec.getLsbD_shiftLeft, BitVec.getLsbD_one]
  by_cases hkj : k = j
  · subst hkj
    simp [hk]
  · rw [decide_eq_false hkj]
    congr 1
    by_cases hlt : j < k
    · rw [decide_eq_true hlt]
      simp
    · rw [decide_eq_false (by omega : ¬ j - k = 0)]
      simp

section

variable {source mask : U64} {st : U64 × Nat} {i : Nat}

/-- One turn of `PEXT` at a set bit of the mask. -/
theorem pextStep_set (h : mask.getLsbD i = true) (hroom : st.2 < 64) :
    (pextStep source mask st i).2 = st.2 + 1 ∧ ∀ j, (pextStep source mask st i).1.getLsbD j =
      (st.1.getLsbD j || (decide (st.2 = j) && source.getLsbD i)) := by
  unfold pextStep
  rw [if_pos ((shift_and_one mask i).mpr h)]
  refine ⟨rfl, fun j => ?_⟩
  dsimp only
  by_cases hbit : source.getLsbD i = true
  · rw [if_pos ((shift_and_one source i).mpr hbit), getLsbD_or_shift _ hroom, hbit, Bool.and_true]
  · rw [if_neg (fun hc => hbit ((shift_and_one source i).mp hc)), Bool.eq_false_iff.mpr hbit,
      Bool.and_false, Bool.or_false]

/-- One turn of `PDEP` at a set bit of the mask. -/
theorem pdepStep_set (h : mask.getLsbD i = true) (hi : i < 64) :
    (pdepStep source mask st i).2 = st.2 + 1 ∧ ∀ j, (pdepStep source mask st i).1.getLsbD j =
      (st.1.getLsbD j || (decide (i = j) && source.getLsbD st.2)) := by
  unfold pdepStep
  rw [if_pos ((shift_and_one mask i).mpr h)]
  refine ⟨rfl, fun j => ?_⟩
  dsimp only
  by_cases hbit : source.getLsbD st.2 = true
  · rw [if_pos ((shift_and_one source st.2).mpr hbit), getLsbD_or_shift _ hi, hbit, Bool.and_true]
  · rw [if_neg (fun hc => hbit ((shift_and_one source st.2).mp hc)), Bool.eq_false_iff.mpr hbit,
      Bool.and_false, Bool.or_false]

/-- A turn of `PEXT` at a clear bit. -/
theorem pextStep_clear (h : mask.getLsbD i = false) : pextStep source mask st i = st := by
  unfold pextStep
  rw [if_neg]
  intro hc
  rw [shift_and_one, h] at hc
  exact Bool.false_ne_true hc

/-- A turn of `PDEP` at a clear bit. -/
theorem pdepStep_clear (h : mask.getLsbD i = false) : pdepStep source mask st i = st := by
  unfold pdepStep
  rw [if_neg]
  intro hc
  rw [shift_and_one, h] at hc
  exact Bool.false_ne_true hc

end

/-! ## All passes -/

section

variable (source mask : U64)

/-- After `n` passes `destination_bit` is the rank of `n` and the result has
gathered the positions below it. -/
theorem pext_passes (n : Nat) (hn : n ≤ 64) :
    ((List.range n).foldl (pextStep source mask) (0#64, 0)).2 = rank mask.getLsbD n ∧
      ∀ j, ((List.range n).foldl (pextStep source mask) (0#64, 0)).1.getLsbD j =
        gather mask.getLsbD source.getLsbD n j := by
  induction n with
  | zero =>
    refine ⟨rank_zero.symm, fun j => ?_⟩
    rw [gather_zero]
    exact BitVec.getLsbD_zero
  | succ n ih =>
    obtain ⟨hpos, hbits⟩ := ih (by omega)
    rw [List.range_succ, List.foldl_append, List.foldl_cons, List.foldl_nil]
    cases hm : mask.getLsbD n with
    | true =>
      have hroom : rank mask.getLsbD n < 64 := lt_of_le_of_lt (rank_le n) (by omega)
      obtain ⟨hpos', hbits'⟩ := @pextStep_set source _ _ _ hm (hpos ▸ hroom)
      rw [hpos', rank_succ_of_set hm, hpos]
      refine ⟨rfl, fun j => ?_⟩
      rw [hbits', gather_succ_of_set hm, hbits, hpos]
    | false =>
      rw [pextStep_clear hm, rank_succ_of_clear hm]
      refine ⟨hpos, fun j => ?_⟩
      rw [gather_succ_of_clear hm, hbits]

/-- After `n` passes `source_bit` is the rank of `n` and the result has the
positions below it scattered. -/
theorem pdep_passes (n : Nat) (hn : n ≤ 64) :
    ((List.range n).foldl (pdepStep source mask) (0#64, 0)).2 = rank mask.getLsbD n ∧
      ∀ j, ((List.range n).foldl (pdepStep source mask) (0#64, 0)).1.getLsbD j =
        (decide (j < n) && scatter mask.getLsbD source.getLsbD j) := by
  induction n with
  | zero =>
    refine ⟨rank_zero.symm, fun j => ?_⟩
    rw [decide_eq_false (Nat.not_lt_zero j), Bool.false_and]
    exact BitVec.getLsbD_zero
  | succ n ih =>
    obtain ⟨hpos, hbits⟩ := ih (by omega)
    -- only position `n` is new
    have hnew : ∀ j, (decide (j < n + 1) && scatter mask.getLsbD source.getLsbD j) =
        ((decide (j < n) && scatter mask.getLsbD source.getLsbD j) ||
          (decide (n = j) && scatter mask.getLsbD source.getLsbD n)) := by
      intro j
      by_cases hjn : n = j
      · subst hjn
        simp
      · rw [decide_eq_false hjn, Bool.false_and, Bool.or_false,
          decide_eq_decide.mpr (by omega : j < n + 1 ↔ j < n)]
    rw [List.range_succ, List.foldl_append, List.foldl_cons, List.foldl_nil]
    cases hm : mask.getLsbD n with
    | true =>
      obtain ⟨hpos', hbits'⟩ := @pdepStep_set source _ _ _ hm (by omega : n < 64)
      rw [hpos', rank_succ_of_set hm, hpos]
      refine ⟨rfl, fun j => ?_⟩
      have hn : scatter mask.getLsbD source.getLsbD n = source.getLsbD (rank mask.getLsbD n) := by
        unfold scatter
        rw [hm, Bool.true_and]
      rw [hbits', hnew, hbits, hpos, hn]
    | false =>
      rw [pdepStep_clear hm, rank_succ_of_clear hm]
      refine ⟨hpos, fun j => ?_⟩
      have hn : scatter mask.getLsbD source.getLsbD n = false := by
        unfold scatter
        rw [hm, Bool.false_and]
      rw [hnew, hbits, hn, Bool.and_false, Bool.or_false]

/-- `PEXT` gathers. -/
theorem pext_getLsbD {size : Nat} (hsize : size ≤ 8) (j : Nat) :
    (pext source mask size).getLsbD j = gather mask.getLsbD source.getLsbD (8 * size) j :=
  (pext_passes source mask (8 * size) (by omega)).2 j

/-- `PDEP` scatters. -/
theorem pdep_getLsbD {size : Nat} (hsize : size ≤ 8) (j : Nat) :
    (pdep source mask size).getLsbD j =
      (decide (j < 8 * size) && scatter mask.getLsbD source.getLsbD j) :=
  (pdep_passes source mask (8 * size) (by omega)).2 j

end

/-! ## Both ways -/

section

variable {size : Nat} {m : U64}

/-- Above its width the mask is clear. -/
theorem clear_above (hm : m.toNat < 2 ^ (8 * size)) (i : Nat) (hi : 8 * size ≤ i) :
    m.getLsbD i = false := getLsbD_high hm hi

/-- The number of set bits. -/
theorem rank_eq_popcount (hsize : size ≤ 8) (hm : m.toNat < 2 ^ (8 * size)) :
    rank m.getLsbD (8 * size) = popcount m :=
  (rank_of_clear_above (clear_above hm) (by omega)).symm

/-- `PDEP` under a mask of the width. -/
theorem pdep_eq_scatter (hsize : size ≤ 8) (hm : m.toNat < 2 ^ (8 * size)) (x : U64) :
    (pdep x m size).getLsbD = scatter m.getLsbD x.getLsbD := by
  funext i
  rw [pdep_getLsbD x m hsize]
  by_cases hi : i < 8 * size
  · rw [decide_eq_true hi, Bool.true_and]
  · unfold scatter
    rw [clear_above hm i (by omega), Bool.false_and, Bool.and_false]

end

/-- **`PDEP` and `PEXT` undo each other** on the bits the mask has room for,
at both sizes and for every source and every mask of the size. -/
theorem pdep_pext_inverse (size : Nat) (hsize : size = 4 ∨ size = 8) (x m : U64)
    (hm : m.toNat < 2 ^ (8 * size)) :
    (pext (pdep x m size) m size).toNat = x.toNat % 2 ^ popcount m ∧
      pdep (pext x m size) m size = x &&& m ∧
      (∀ i, (pdep x m size).getLsbD i = true → m.getLsbD i = true) ∧
      (pext x m size).toNat < 2 ^ popcount m := by
  have hle : size ≤ 8 := by omega
  have hcount := rank_eq_popcount hle hm
  refine ⟨?_, ?_, ?_, ?_⟩
  -- Bit by bit: PEXT gathers the mask's bits and PDEP scatters them.
  · apply Nat.eq_of_testBit_eq
    intro j
    rw [BitVec.testBit_toNat, pext_getLsbD _ m hle, pdep_eq_scatter hle hm, gather_scatter, hcount,
      Nat.testBit_mod_two_pow, BitVec.testBit_toNat]
  · apply BitVec.eq_of_getLsbD_eq
    intro i _
    have hgather : (pext x m size).getLsbD = gather m.getLsbD x.getLsbD (8 * size) :=
      funext (pext_getLsbD x m hle)
    rw [pdep_getLsbD _ m hle, hgather, BitVec.getLsbD_and]
    by_cases hi : i < 8 * size
    · rw [scatter_gather hi, decide_eq_true hi, Bool.true_and, Bool.and_comm]
    · rw [decide_eq_false hi, clear_above hm i (by omega), Bool.false_and, Bool.and_false]
  · intro i h
    rw [pdep_eq_scatter hle hm] at h
    unfold scatter at h
    rw [Bool.and_eq_true] at h
    exact h.1
  -- Only as many bits are gathered as the mask has.
  · apply Nat.lt_pow_two_of_testBit
    intro j hj
    rw [BitVec.testBit_toNat, pext_getLsbD x m hle]
    exact gather_high (hcount ▸ hj)

/-- A scattered mask of two bits. -/
theorem pdep_pext_two_bits : (pext (pdep 7#64 0x80000001#64 4) 0x80000001#64 4).toNat = 3 :=
  (pdep_pext_inverse 4 (Or.inl rfl) 7#64 0x80000001#64 (by decide)).1

end Seven
