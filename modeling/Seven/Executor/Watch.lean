import Seven.Executor.Step
import Seven.Lib.WrapInterval

/-!
# What a data breakpoint watches

A debug register watches an interval of one to eight bytes. The executor finds
a data breakpoint by the test `ranges_overlap` of `handler_helpers.cpp`, which
compares wrapped ends:

> `DebugMemoryAccess.hits_iff`: it finds the accesses that touch the watched
> interval, when neither ends at the top of the address space or beyond.

`executor.cpp` has a `ranges_overlap` of its own, which compares last bytes
(`rangesOverlap_agree_iff`).
-/

namespace Seven

open Seven.Lib

/-! ## The two tests -/

/-- `ranges_overlap` of `handler_helpers.cpp`. -/
def rangesOverlap (aBase aSize bBase bSize : U64) : Bool :=
  aSize != 0#64 && bSize != 0#64 && decide (aBase < bBase + bSize) && decide (bBase < aBase + aSize)

/-- `ranges_overlap` of `executor.cpp`. -/
def rangesOverlapLast (aBase aSize bBase bSize : U64) : Bool :=
  if aSize = 0#64 ∨ bSize = 0#64 then false
  else
    !(decide (aBase + (aSize - 1#64) < bBase) || decide (bBase + (bSize - 1#64) < aBase))

section tests

variable {aBase aSize bBase bSize : U64}

/-- The last byte's offset. -/
theorem ofNat_pred {n : U64} (hn : n ≠ 0#64) : BitVec.ofNat 64 (n.toNat - 1) = n - 1#64 := by
  have hpos : n.toNat ≠ 0 := fun h => hn (BitVec.eq_of_toNat_eq h)
  bv_omega

/-- The source's test, by intervals. -/
theorem rangesOverlap_eq (ha : aSize ≠ 0#64) (hb : bSize ≠ 0#64) :
    rangesOverlap aBase aSize bBase bSize = meetsWrapped aBase aSize.toNat bBase bSize.toNat := by
  unfold rangesOverlap meetsWrapped wrapEnd
  rw [bne_iff_ne.mpr ha, bne_iff_ne.mpr hb, BitVec.ofNat_toNat, BitVec.ofNat_toNat,
    BitVec.setWidth_eq, BitVec.setWidth_eq]
  exact Bool.and_comm _ _

/-- The test of last bytes, by intervals. -/
theorem rangesOverlapLast_eq (ha : aSize ≠ 0#64) (hb : bSize ≠ 0#64) :
    rangesOverlapLast aBase aSize bBase bSize = meetsLast aBase aSize.toNat bBase bSize.toNat := by
  unfold rangesOverlapLast meetsLast wrapEnd
  rw [if_neg (fun h => h.elim ha hb), ofNat_pred ha, ofNat_pred hb]

/-- **The two tests agree**, unless intervals meet of which one ends at the
top. -/
theorem rangesOverlap_agree_iff (hshort : aSize.toNat + bSize.toNat ≤ 2 ^ 64) :
    rangesOverlap aBase aSize bBase bSize = rangesOverlapLast aBase aSize bBase bSize ↔
      ¬(Meets aBase aSize.toNat bBase bSize.toNat ∧ aBase.toNat + aSize.toNat ≤ 2 ^ 64 ∧
        bBase.toNat + bSize.toNat ≤ 2 ^ 64 ∧
        (aBase.toNat + aSize.toNat = 2 ^ 64 ∨ bBase.toNat + bSize.toNat = 2 ^ 64)) := by
  by_cases hempty : aSize = 0#64 ∨ bSize = 0#64
  · have hfirst : rangesOverlap aBase aSize bBase bSize = false := by
      unfold rangesOverlap
      rcases hempty with rfl | rfl
      · rfl
      · rw [Bool.and_assoc, Bool.and_assoc, bne_self_eq_false, Bool.false_and, Bool.and_false]
    refine iff_of_true (hfirst.trans (if_pos hempty).symm) fun h => ?_
    -- an empty interval meets nothing
    obtain ⟨hasize, hbsize, _⟩ := (meets_iff _ _ _ _).mp h.1
    rcases hempty with rfl | rfl
    · exact absurd hasize (by decide)
    · exact absurd hbsize (by decide)
  · rw [not_or] at hempty
    have ha : aSize.toNat ≠ 0 := fun h => hempty.1 (BitVec.eq_of_toNat_eq h)
    have hb : bSize.toNat ≠ 0 := fun h => hempty.2 (BitVec.eq_of_toNat_eq h)
    rw [rangesOverlap_eq hempty.1 hempty.2, rangesOverlapLast_eq hempty.1 hempty.2]
    exact meetsWrapped_eq_meetsLast_iff (by omega) (by omega) hshort

end tests

/-! ## Watched and touched -/

/-- Does breakpoint `i` report accesses of this kind? -/
def watchReports (s : CpuState) (isRead isWrite : Bool) (i : Fin 4) : Bool :=
  let rw := (s.dr 7 >>> (16 + i.val * 4)) &&& 3#64
  ((s.dr 7 >>> (i.val * 2)) &&& 3#64 != 0#64) &&
    ((rw == 1#64 && isWrite) || (rw == 3#64 && (isRead || isWrite)))

/-- The first byte a register watches. -/
def watchBase (s : CpuState) (i : Fin 4) : U64 := maskLinearAddress s (s.dr (lowIndex i))

/-- How many bytes it watches. -/
def watchSize (s : CpuState) (i : Fin 4) : U64 := drLenFromEncoding (s.dr 7 >>> (18 + i.val * 4))

/-- One to eight. -/
theorem watchSize_bounds (s : CpuState) (i : Fin 4) :
    0 < (watchSize s i).toNat ∧ (watchSize s i).toNat ≤ 8 := by
  unfold watchSize drLenFromEncoding
  split
  next => decide
  next =>
    split
    next => decide
    next =>
      split
      next => decide
      next => decide

/-- Some byte of `a` lies in the interval that breakpoint `i` watches, and `a`
is of the kind it reports. -/
def Touches (s : CpuState) (a : DebugMemoryAccess) (i : Fin 4) : Prop :=
  watchReports s a.isRead a.isWrite i = true ∧
    HasByteIn (watchBase s i) (watchSize s i).toNat a.address a.size

instance (s : CpuState) (a : DebugMemoryAccess) (i : Fin 4) : Decidable (Touches s a i) :=
  inferInstanceAs (Decidable (_ ∧ _))

/-- Both end below the top of the address space. -/
def BelowTop (s : CpuState) (a : DebugMemoryAccess) (i : Fin 4) : Prop :=
  (watchBase s i).toNat + (watchSize s i).toNat < 2 ^ 64 ∧ a.address.toNat + a.size < 2 ^ 64

instance (s : CpuState) (a : DebugMemoryAccess) (i : Fin 4) : Decidable (BelowTop s a i) :=
  inferInstanceAs (Decidable (_ ∧ _))

namespace DebugMemoryAccess

/-- What the code decides of it. -/
def hits (s : CpuState) (a : DebugMemoryAccess) (i : Fin 4) : Bool :=
  dataBreakpointHit s a.address (BitVec.ofNat 64 a.size) a.isRead a.isWrite i

/-- A hit, by the two tests. -/
theorem hits_eq (s : CpuState) (a : DebugMemoryAccess) (i : Fin 4) :
    a.hits s i = (watchReports s a.isRead a.isWrite i &&
      rangesOverlap (watchBase s i) (watchSize s i) a.address (BitVec.ofNat 64 a.size)) := by
  unfold hits dataBreakpointHit watchReports rangesOverlap watchBase watchSize
  dsimp only
  simp only [Bool.and_assoc]

/-- **What the code finds.** -/
theorem hits_iff {s : CpuState} {a : DebugMemoryAccess} {i : Fin 4} (hsize : a.size ≤ 2 ^ 63) :
    a.hits s i = true ↔ Touches s a i ∧ BelowTop s a i := by
  have hwatch := watchSize_bounds s i
  have hnat : (BitVec.ofNat 64 a.size).toNat = a.size := Nat.mod_eq_of_lt (by omega)
  have hwatchpos : watchSize s i ≠ 0#64 := by
    intro hzero
    rw [hzero] at hwatch
    exact absurd hwatch.1 (by decide)
  rw [hits_eq, Bool.and_eq_true]
  unfold Touches BelowTop
  rw [and_assoc]
  refine and_congr_right fun _ => ?_
  -- An access of no bytes meets nothing; a watched interval is never empty.
  by_cases hzero : a.size = 0
  · rw [hzero]
    refine iff_of_false ?_ ?_
    · unfold rangesOverlap
      rw [bne_self_eq_false, Bool.and_false, Bool.false_and, Bool.false_and]
      exact Bool.false_ne_true
    · rintro ⟨⟨k, hk, _⟩, _⟩
      exact absurd hk (Nat.not_lt_zero k)
  · have hpos : BitVec.ofNat 64 a.size ≠ 0#64 := by
      intro h
      have := congrArg BitVec.toNat h
      rw [hnat] at this
      exact hzero this
    -- Neither interval wraps: that the code rejects by comparing the ends.
    rw [rangesOverlap_eq hwatchpos hpos, hnat,
      meetsWrapped_iff_below hwatch.1 (by omega) (by omega)]
    constructor
    · rintro ⟨hmeets, hwatchend, hend⟩
      exact ⟨(hasByteIn_iff_meets (by omega)).mpr hmeets, hwatchend, hend⟩
    · rintro ⟨hbyte, hwatchend, hend⟩
      exact ⟨(hasByteIn_iff_meets (by omega)).mp hbyte, hwatchend, hend⟩

end DebugMemoryAccess

/-! ## Bits -/

/-- A bit of the hits of one access. -/
theorem debugDataBreakpointHits_getLsbD (s : CpuState) (address size : U64)
    (isRead isWrite : Bool) (i : Fin 4) :
    (debugDataBreakpointHits s address size isRead isWrite).getLsbD i.val =
      dataBreakpointHit s address size isRead isWrite i := by
  have hbit : ∀ i j : Fin 4, (1#64 <<< j.val).getLsbD i.val = decide (j = i) := by decide
  have hfold (l : List (Fin 4)) : ∀ bits : U64,
      (l.foldl (fun bits j => if dataBreakpointHit s address size isRead isWrite j then
        bits ||| (1#64 <<< j.val) else bits) bits).getLsbD i.val =
        (bits.getLsbD i.val ||
          decide (i ∈ l ∧ dataBreakpointHit s address size isRead isWrite i = true)) := by
    -- Bit `i` is set by the slot's own turn and by no other.
    induction l with
    | nil =>
      intro bits
      rw [decide_eq_false (fun h => absurd h.1 List.not_mem_nil), Bool.or_false]
      rfl
    | cons j l ih =>
      intro bits
      rw [List.foldl_cons, ih]
      by_cases hj : dataBreakpointHit s address size isRead isWrite j = true
      · rw [if_pos hj, BitVec.getLsbD_or, hbit, Bool.or_assoc, ← Bool.decide_or]
        congr 2
        rw [List.mem_cons]
        refine propext ⟨?_, ?_⟩
        · rintro (rfl | ⟨hmem, hhit⟩)
          · exact ⟨Or.inl rfl, hj⟩
          · exact ⟨Or.inr hmem, hhit⟩
        · rintro ⟨rfl | hmem, hhit⟩
          · exact Or.inl rfl
          · exact Or.inr ⟨hmem, hhit⟩
      · rw [if_neg hj]
        congr 2
        rw [List.mem_cons]
        refine propext ⟨fun h => ⟨Or.inr h.1, h.2⟩, ?_⟩
        rintro ⟨rfl | hmem, hhit⟩
        · exact absurd hhit hj
        · exact ⟨hmem, hhit⟩
  unfold debugDataBreakpointHits
  rw [hfold, BitVec.getLsbD_zero, Bool.false_or]
  simp only [List.mem_finRange, true_and, Bool.decide_eq_true]

/-- The first access' hits, and the others'. -/
theorem collectDataBreakpointHits_cons (s : CpuState) (a : DebugMemoryAccess)
    (l : List DebugMemoryAccess) :
    collectDataBreakpointHits s (a :: l) =
      debugDataBreakpointHits s a.address (BitVec.ofNat 64 a.size) a.isRead a.isWrite |||
        collectDataBreakpointHits s l := by
  have hfold (l : List DebugMemoryAccess) : ∀ bits : U64,
      l.foldl (fun bits a => bits |||
        debugDataBreakpointHits s a.address (BitVec.ofNat 64 a.size) a.isRead a.isWrite) bits =
        bits ||| collectDataBreakpointHits s l := by
    unfold collectDataBreakpointHits
    induction l with
    | nil => exact fun bits => BitVec.or_zero.symm
    | cons a l ih =>
      intro bits
      rw [List.foldl_cons, List.foldl_cons, ih, ih (0#64 ||| _), BitVec.zero_or, BitVec.or_assoc]
  show (a :: l).foldl _ 0#64 = _
  rw [List.foldl_cons, hfold, BitVec.zero_or]

/-- The hits of two lists. -/
theorem collectDataBreakpointHits_append (s : CpuState) (l l' : List DebugMemoryAccess) :
    collectDataBreakpointHits s (l ++ l') =
      collectDataBreakpointHits s l ||| collectDataBreakpointHits s l' := by
  induction l with
  | nil => exact BitVec.zero_or.symm
  | cons a l ih =>
    rw [List.cons_append, collectDataBreakpointHits_cons, collectDataBreakpointHits_cons, ih,
      BitVec.or_assoc]

/-- A bit of the hits of all accesses. -/
theorem collectDataBreakpointHits_getLsbD (s : CpuState) (i : Fin 4) (l : List DebugMemoryAccess) :
    (collectDataBreakpointHits s l).getLsbD i.val = true ↔ ∃ a ∈ l, a.hits s i = true := by
  induction l with
  | nil =>
    refine iff_of_false ?_ ?_
    · show ¬(0#64).getLsbD i.val = true
      rw [BitVec.getLsbD_zero]
      exact Bool.false_ne_true
    · rintro ⟨a, ha, _⟩
      exact absurd ha List.not_mem_nil
  | cons a l ih =>
    rw [collectDataBreakpointHits_cons, BitVec.getLsbD_or, Bool.or_eq_true, ih,
      debugDataBreakpointHits_getLsbD]
    simp only [List.mem_cons, exists_eq_or_imp]
    rfl

/-- A bit is set only for a breakpoint that is hit. -/
theorem debugDataBreakpointHits_ne_zero {s : CpuState} {address size : U64} {isRead isWrite : Bool}
    (h : debugDataBreakpointHits s address size isRead isWrite ≠ 0#64) :
    ∃ i, dataBreakpointHit s address size isRead isWrite i = true := by
  by_contra hnone
  rw [not_exists] at hnone
  have hfold (l : List (Fin 4)) :
      l.foldl (fun bits j => if dataBreakpointHit s address size isRead isWrite j then
        bits ||| (1#64 <<< j.val) else bits) 0#64 = 0#64 := by
    induction l with
    | nil => rfl
    | cons j l ih =>
      rw [List.foldl_cons, if_neg (hnone j)]
      exact ih
  exact h (hfold _)

/-- Some hit. -/
theorem collectDataBreakpointHits_ne_zero_iff (s : CpuState) (l : List DebugMemoryAccess) :
    collectDataBreakpointHits s l ≠ 0#64 ↔ ∃ i : Fin 4, ∃ a ∈ l, a.hits s i = true := by
  constructor
  · intro h
    induction l with
    | nil => exact absurd rfl h
    | cons a l ih =>
      rw [collectDataBreakpointHits_cons] at h
      by_cases hfirst : debugDataBreakpointHits s a.address (BitVec.ofNat 64 a.size) a.isRead
          a.isWrite = 0#64
      · rw [hfirst, BitVec.zero_or] at h
        obtain ⟨i, b, hb, hhit⟩ := ih h
        exact ⟨i, b, List.mem_cons_of_mem a hb, hhit⟩
      · obtain ⟨i, hhit⟩ := debugDataBreakpointHits_ne_zero hfirst
        exact ⟨i, a, List.mem_cons_self, hhit⟩
  · rintro ⟨i, hhit⟩ hzero
    have hbit := (collectDataBreakpointHits_getLsbD s i l).mpr hhit
    rw [hzero, BitVec.getLsbD_zero] at hbit
    exact Bool.false_ne_true hbit

/-- The hits depend on the debug registers and the mode. -/
theorem collectDataBreakpointHits_congr {s t : CpuState} (hdr : t.dr = s.dr)
    (hmode : t.mode = s.mode) (l : List DebugMemoryAccess) :
    collectDataBreakpointHits t l = collectDataBreakpointHits s l := by
  unfold collectDataBreakpointHits debugDataBreakpointHits dataBreakpointHit maskLinearAddress
  rw [hdr, hmode]

end Seven
