import Seven.Handlers.UpperBits

/-!
# String comparisons

`PCMPISTRI`, `PCMPISTRM`, `PCMPESTRI` and `PCMPESTRM` compare every element of
one operand with every element of the other and condense the comparisons to
one bit for each position. The manual says how for elements beyond the end of
a string: what they compare to is overridden.

> `pcmpstr_iff`: the handler does as the manual says, but where a prefix of
> the needle ends the haystack: equal ordered asks for a match only inside of
> the window, the code asks for the whole needle.
-/

namespace Seven

open Seven.Lib

/-- What a string comparison is given. -/
structure Pcmpstr where
  imm : U64
  explicitLengths : Bool
  lhs : BitVec 512
  rhs : BitVec 512
  eax : U64
  edx : U64

namespace Pcmpstr

variable (p : Pcmpstr)

/-! ## The manual -/

/-- Bit 0: words instead of bytes. -/
def words : Bool := p.imm.getLsbD 0

/-- Bit 1: signed elements. -/
def signed : Bool := p.imm.getLsbD 1

/-- Equal any, ranges, equal each, equal ordered. -/
def aggregation : Nat := p.imm.toNat / 4 % 4

/-- Bits 4 and 5: the polarity. -/
def polarity : Nat := p.imm.toNat / 16 % 4

/-- The elements of an operand. -/
def count : Nat := if p.words then 8 else 16

/-- An element as a number. -/
def number {w : Nat} (v : BitVec w) : Int := if p.signed then v.toInt else v.toNat

/-- Element `i` of an operand. -/
def item (bits : BitVec 512) (i : Nat) : Int :=
  if p.words then p.number (lane 16 bits i) else p.number (lane 8 bits i)

/-- Does element `i` belong to the string? An explicit length counts by its
absolute value, an implicit one ends at the first zero. -/
def Valid (bits : BitVec 512) (length : U64) (i : Nat) : Prop :=
  if p.explicitLengths then i < (length.setWidth 32).toInt.natAbs
  else ∀ k ≤ i, p.item bits k ≠ 0

/-- The valid elements of the first operand. -/
def Valid1 : Nat → Prop := p.Valid p.lhs p.eax

/-- The valid elements of the second operand. -/
def Valid2 : Nat → Prop := p.Valid p.rhs p.edx

/-- The comparison of element `j` of the second operand with element `i` of the first,
overridden where either is beyond its string. -/
def BoolRes (j i : Nat) : Prop :=
  match p.aggregation with
  | 0 => p.Valid1 i ∧ p.Valid2 j ∧ p.item p.lhs i = p.item p.rhs j
  | 1 => p.Valid1 i ∧ p.Valid2 j ∧
      if i % 2 = 0 then p.item p.lhs i ≤ p.item p.rhs j else p.item p.rhs j ≤ p.item p.lhs i
  | 2 => (¬p.Valid1 i ∧ ¬p.Valid2 j) ∨
      (p.Valid1 i ∧ p.Valid2 j ∧ p.item p.lhs i = p.item p.rhs j)
  | _ => ¬p.Valid1 i ∨ (p.Valid2 j ∧ p.item p.lhs i = p.item p.rhs j)

/-- Bit `j` of the intermediate result. -/
def IntRes1 (j : Nat) : Prop :=
  match p.aggregation with
  | 0 => ∃ i < p.count, p.BoolRes j i
  | 1 => ∃ k < p.count / 2, p.BoolRes j (2 * k) ∧ p.BoolRes j (2 * k + 1)
  | 2 => p.BoolRes j j
  | _ => ∀ i, j + i < p.count → p.BoolRes (j + i) i

/-- After the polarity. -/
def IntRes2 (j : Nat) : Prop :=
  match p.polarity with
  | 1 => ¬p.IntRes1 j
  | 3 => (p.Valid2 j ∧ ¬p.IntRes1 j) ∨ (¬p.Valid2 j ∧ p.IntRes1 j)
  | _ => p.IntRes1 j

/-- The position that the index forms return: the first or the last one set,
the number of elements when there is none. -/
def Index (k : Nat) : Prop :=
  (k = p.count ∧ ∀ j < p.count, ¬p.IntRes2 j) ∨
    (k < p.count ∧ p.IntRes2 k ∧
      ∀ j < p.count, p.IntRes2 j → if p.imm.getLsbD 6 then j ≤ k else k ≤ j)

/-- Bit `j` of the mask: the result itself, or its bits spread over the
elements. -/
def MaskBit (j : Nat) : Prop :=
  if p.imm.getLsbD 6 then p.IntRes2 (j / (128 / p.count)) else j < p.count ∧ p.IntRes2 j

/-- What a comparison leaves in the registers. -/
structure Outcome (returnMask : Bool) (s after : CpuState) : Prop where
  carry : flagSet after.rflags kFlagCF = true ↔ ∃ j < p.count, p.IntRes2 j
  zero : flagSet after.rflags kFlagZF = true ↔ ∃ j < p.count, ¬p.Valid2 j
  sign : flagSet after.rflags kFlagSF = true ↔ ∃ j < p.count, ¬p.Valid1 j
  overflow : flagSet after.rflags kFlagOF = true ↔ p.IntRes2 0
  cleared : flagSet after.rflags kFlagAF = false ∧ flagSet after.rflags kFlagPF = false
  mask : returnMask = true →
    (∀ j < 128, (after.vectors (vectorSlot 0)).getLsbD j = true ↔ p.MaskBit j) ∧
      ∀ j, 128 ≤ j → (after.vectors (vectorSlot 0)).getLsbD j =
        (s.vectors (vectorSlot 0)).getLsbD j
  index : returnMask = false → ∃ k, p.Index k ∧ after.gpr 1 = BitVec.ofNat 64 k

/-! ## The code -/

/-- The first length. -/
def len1 : Nat :=
  if p.explicitLengths then pcmpExplicitLength p.eax (pcmpElementCount p.imm)
  else pcmpImplicitLength (pcmpExtractSource p.lhs p.imm) (pcmpElementCount p.imm)

/-- The second length. -/
def len2 : Nat :=
  if p.explicitLengths then pcmpExplicitLength p.edx (pcmpElementCount p.imm)
  else pcmpImplicitLength (pcmpExtractSource p.rhs p.imm) (pcmpElementCount p.imm)

/-- The intermediate result of the handler. -/
def intRes1 : BitVec 32 :=
  pcmpAggregate p.imm (pcmpExtractSource p.lhs p.imm) (pcmpExtractSource p.rhs p.imm) p.len1 p.len2
    (pcmpElementCount p.imm)

/-- `IntRes2`. -/
def intRes2 : BitVec 32 :=
  pcmpApplyPolarity p.imm p.intRes1 p.len2 (pcmpElementCount p.imm)

/-- The comparison that an instruction makes of its second operand. -/
def of (H : X87Host) (explicitLengths : Bool) (ctx : ExecutionContext) (rhs : BitVec 512) :
    Pcmpstr where
  imm := ctx.instr.immediate8
  explicitLengths := explicitLengths
  lhs := H.readVec ctx.state (ctx.instr.opRegister 0)
  rhs := rhs
  eax := ctx.state.gpr 0
  edx := ctx.state.gpr 2

/-- The handler does what the manual says. -/
structure Meets (H : X87Host) (returnMask : Bool) (ctx : ExecutionContext) : Prop where
  result : ∀ j < p.count, p.intRes1.getLsbD j = true ↔ p.IntRes1 j
  outcome : ∃ after, H.pcmpstr p.explicitLengths returnMask ctx = .ok () after ∧
    p.Outcome returnMask ctx.state after.state

/-- A proper part of the needle ends the haystack, which fills the window. -/
def PrefixAtEnd : Prop :=
  p.aggregation = 3 ∧ (∀ j < p.count, p.Valid2 j) ∧
    ∃ j < p.count, 0 < j ∧ p.Valid1 (p.count - j) ∧
      ∀ i < p.count - j, p.item p.lhs i = p.item p.rhs (j + i)

/-! ## Bits and lengths -/

/-- One bit more. -/
theorem bitsWhere_succ (n : Nat) (q : Nat → Bool) :
    bitsWhere (n + 1) q =
      if q n then bitsWhere n q ||| (1#32 <<< n) else bitsWhere n q := by
  unfold bitsWhere
  rw [List.range_succ, List.foldl_append]
  rfl

/-- A bit of the collected bits. -/
theorem bitsWhere_getLsbD (q : Nat → Bool) {j : Nat} (hj : j < 32) :
    ∀ n, (bitsWhere n q).getLsbD j = (decide (j < n) && q j) := by
  intro n
  induction n with
  | zero => exact BitVec.getLsbD_zero
  | succ n ih =>
    have hbit : (1#32 <<< n).getLsbD j = decide (n = j) := by
      rw [← BitVec.twoPow_eq, BitVec.getLsbD_twoPow]
      by_cases heq : n = j
      · rw [decide_eq_true heq, decide_eq_true (by omega), Bool.true_and]
      · rw [decide_eq_false heq, Bool.and_false]
    have hor : (bitsWhere (n + 1) q).getLsbD j =
        (decide (j < n) && q j || q n && decide (n = j)) := by
      rw [bitsWhere_succ]
      cases hq : q n with
      | true => rw [if_pos rfl, BitVec.getLsbD_or, ih, hbit, Bool.true_and]
      | false => rw [if_neg Bool.false_ne_true, ih, Bool.false_and, Bool.or_false]
    rw [hor]
    -- Bit `n` is the one the last round sets.
    by_cases heq : n = j
    · subst heq
      simp
    · rw [decide_eq_false heq, Bool.and_false, Bool.or_false,
        decide_eq_decide.mpr (show j < n ↔ j < n + 1 by omega)]

/-- The length of a run from the left. -/
theorem lt_takeWhile_range (q : Nat → Bool) (i : Nat) :
    ∀ n, i < ((List.range n).takeWhile q).length ↔ i < n ∧ ∀ k ≤ i, q k = true := by
  intro n
  induction n generalizing i with
  | zero => simp
  | succ n ih =>
    have hle : ((List.range n).takeWhile q).length ≤ n := by
      have := (List.takeWhile_prefix (l := List.range n) q).length_le
      rwa [List.length_range] at this
    rw [List.range_succ, List.takeWhile_append, List.length_range]
    split
    next hfull =>
      -- all of the first `n` hold, so the last one decides
      have hbelow : ∀ k < n, q k = true := fun k hk => ((ih k).mp (by omega)).2 k (Nat.le_refl k)
      rw [List.length_append, List.length_range]
      cases hq : q n with
      | true =>
        rw [List.takeWhile_cons_of_pos hq]
        refine ⟨fun hi => ⟨hi, fun k hk => ?_⟩, fun h => h.1⟩
        rcases Nat.lt_or_ge k n with hlt | hge
        · exact hbelow k hlt
        · obtain rfl : k = n := by
            have : i < n + 1 := hi
            omega
          exact hq
      | false =>
        rw [List.takeWhile_cons_of_neg (by rw [hq]; exact Bool.false_ne_true)]
        refine ⟨fun hi => ⟨Nat.lt_succ_of_lt hi, fun k hk => hbelow k ?_⟩, ?_⟩
        · exact Nat.lt_of_le_of_lt hk hi
        rintro ⟨hi, hall⟩
        rcases Nat.lt_or_ge i n with hlt | hge
        · exact hlt
        · have := hall n hge
          rw [hq] at this
          cases this
    next hshort =>
      refine (ih i).trans ⟨fun h => ⟨by omega, h.2⟩, fun h => ⟨?_, h.2⟩⟩
      have hend : ¬ ∀ k ≤ ((List.range n).takeWhile q).length, q k = true := fun hall =>
        absurd ((ih _).mpr ⟨by omega, hall⟩) (Nat.lt_irrefl _)
      by_contra hge
      exact hend fun k hk => h.2 k (by omega)

/-! ## What the code works on -/

/-- The elements. -/
theorem count_eq : pcmpElementCount p.imm = p.count := rfl

/-- Eight or sixteen. -/
theorem count_bounds : p.count ≤ 16 ∧ 8 ≤ p.count := by
  unfold count
  split <;> decide

/-- The doubleword that an element of `w` bits is extended to. -/
theorem extended_toInt {w : Nat} (hw : w < 32) (v : BitVec w) :
    (if p.imm.getLsbD 1 then v.signExtend 32 else v.setWidth 32).toInt = p.number v := by
  unfold number signed
  split
  next => exact BitVec.toInt_signExtend_of_le (by omega)
  next =>
    have hv := v.isLt
    have hpow : 2 ^ w ≤ 2 ^ 31 := Nat.pow_le_pow_right (by omega) (by omega)
    have hnat : (v.setWidth 32).toNat = v.toNat := by
      rw [BitVec.toNat_setWidth, Nat.mod_eq_of_lt (by omega)]
    rw [BitVec.toInt_eq_toNat_of_lt (by omega), hnat]

/-- A widened element is zero when the element is. -/
theorem widened_eq_zero {w : Nat} (hw : w < 32) (v : BitVec w) :
    v.setWidth 32 = 0#32 ↔ p.number v = 0 := by
  have hpow : 2 ^ w ≤ 2 ^ 31 := Nat.pow_le_pow_right (by omega) (by omega)
  have hv := v.isLt
  have hnumber : p.number v = 0 ↔ v = 0#w := by
    unfold number
    split
    next => rw [← BitVec.toInt_inj, BitVec.toInt_zero]
    next => rw [← BitVec.toNat_inj, BitVec.toNat_ofNat, Nat.zero_mod, Int.natCast_eq_zero]
  rw [hnumber, ← BitVec.toNat_inj, ← BitVec.toNat_inj, BitVec.toNat_setWidth,
    Nat.mod_eq_of_lt (by omega), BitVec.toNat_ofNat, BitVec.toNat_ofNat, Nat.zero_mod, Nat.zero_mod]

/-- A byte of the operand. -/
theorem loadLane_byte (bits : BitVec 512) (i : Nat) : loadLane 1 bits i = lane 8 bits i :=
  (congrArg (loadLane 1 bits) (Nat.mul_one i)).symm.trans (loadLane_eq 1 bits i)

/-- The signed doubleword of an element is its number. -/
theorem values_eq (bits : BitVec 512) {i : Nat} (hi : i < p.count) :
    ((pcmpExtractSource bits p.imm).values i).toInt = p.item bits i := by
  have hin : ¬pcmpElementCount p.imm ≤ i := Nat.not_le.mpr hi
  show (if pcmpElementCount p.imm ≤ i then 0#32 else _ : BitVec 32).toInt = _
  rw [if_neg hin, loadLane_byte, loadLane_eq]
  unfold item words
  cases p.imm.getLsbD 0 with
  | true => exact p.extended_toInt (by decide) _
  | false => exact p.extended_toInt (by decide) _

/-- An element is not zero. -/
theorem raw_ne_zero (bits : BitVec 512) {i : Nat} (hi : i < p.count) :
    ((pcmpExtractSource bits p.imm).raw i != 0#32) = true ↔ p.item bits i ≠ 0 := by
  have hin : ¬pcmpElementCount p.imm ≤ i := Nat.not_le.mpr hi
  rw [bne_iff_ne]
  show ¬(if pcmpElementCount p.imm ≤ i then 0#32 else _ : BitVec 32) = 0#32 ↔ _
  rw [if_neg hin, loadLane_byte, loadLane_eq]
  unfold item words
  cases p.imm.getLsbD 0 with
  | true => exact not_congr (p.widened_eq_zero (by decide) _)
  | false => exact not_congr (p.widened_eq_zero (by decide) _)

/-- The elements below the length are the valid ones. -/
theorem lt_length (bits : BitVec 512) (length : U64) {i : Nat} (hi : i < p.count) :
    i < (if p.explicitLengths then pcmpExplicitLength length (pcmpElementCount p.imm)
      else pcmpImplicitLength (pcmpExtractSource bits p.imm) (pcmpElementCount p.imm)) ↔
    p.Valid bits length i := by
  unfold Valid
  split
  next =>
    unfold pcmpExplicitLength
    rw [count_eq]
    omega
  next =>
    unfold pcmpImplicitLength
    rw [lt_takeWhile_range, count_eq]
    constructor
    · exact fun h k hk => (p.raw_ne_zero bits (by omega)).mp (h.2 k hk)
    · exact fun h => ⟨hi, fun k hk => (p.raw_ne_zero bits (by omega)).mpr (h k hk)⟩

/-- Inside the first length: valid. -/
theorem lt_len1 {i : Nat} (hi : i < p.count) : i < p.len1 ↔ p.Valid1 i := p.lt_length p.lhs p.eax hi

/-- Inside the second length: valid. -/
theorem lt_len2 {i : Nat} (hi : i < p.count) : i < p.len2 ↔ p.Valid2 i := p.lt_length p.rhs p.edx hi

/-- A length is at most the count. -/
theorem length_le (bits : BitVec 512) (length : U64) :
    (if p.explicitLengths then pcmpExplicitLength length (pcmpElementCount p.imm)
      else pcmpImplicitLength (pcmpExtractSource bits p.imm) (pcmpElementCount p.imm)) ≤
      p.count := by
  split
  next => exact Nat.min_le_right _ _
  next =>
    unfold pcmpImplicitLength
    have := (List.takeWhile_prefix (l := List.range (pcmpElementCount p.imm))
      (fun i => (pcmpExtractSource bits p.imm).raw i != 0#32)).length_le
    rwa [List.length_range] at this

/-- The first length. -/
theorem len1_le : p.len1 ≤ p.count := p.length_le p.lhs p.eax

/-- The second length. -/
theorem len2_le : p.len2 ≤ p.count := p.length_le p.rhs p.edx

/-- Equality of two elements. -/
theorem equal_iff {i j : Nat} (hi : i < p.count) (hj : j < p.count) :
    ((pcmpExtractSource p.lhs p.imm).values i == (pcmpExtractSource p.rhs p.imm).values j) = true ↔
      p.item p.lhs i = p.item p.rhs j := by
  rw [beq_iff_eq, ← BitVec.toInt_inj, p.values_eq _ hi, p.values_eq _ hj]

/-- Order of two elements. -/
theorem sle_iff {i j : Nat} (bits bits' : BitVec 512) (hi : i < p.count) (hj : j < p.count) :
    ((pcmpExtractSource bits p.imm).values i).sle
      ((pcmpExtractSource bits' p.imm).values j) = true ↔ p.item bits i ≤ p.item bits' j := by
  rw [BitVec.sle_iff_toInt_le, p.values_eq _ hi, p.values_eq _ hj]

/-! ## The intermediate result -/

/-- A field of the immediate. -/
theorem field_toNat (v : U64) (k : Nat) : ((v >>> k) &&& 3#64).toNat = v.toNat / 2 ^ k % 4 := by
  rw [BitVec.toNat_and, BitVec.toNat_ushiftRight, Nat.shiftRight_eq_div_pow]
  exact Nat.and_two_pow_sub_one_eq_mod _ 2

/-- Valid elements come first. -/
theorem valid_of_le {bits : BitVec 512} {length : U64} {i k : Nat} (h : p.Valid bits length i)
    (hk : k ≤ i) : p.Valid bits length k := by
  unfold Valid at h ⊢
  split at h
  next hexplicit =>
    rw [if_pos hexplicit]
    exact Nat.lt_of_le_of_lt hk h
  next himplicit =>
    rw [if_neg himplicit]
    exact fun l hl => h l (Nat.le_trans hl hk)

/-- Some of a range. -/
theorem any_range {n : Nat} {q : Nat → Bool} :
    (List.range n).any q = true ↔ ∃ i < n, q i = true := by
  simp only [List.any_eq_true, List.mem_range]

/-- All of a range. -/
theorem all_range {n : Nat} {q : Nat → Bool} :
    (List.range n).all q = true ↔ ∀ i < n, q i = true := by
  simp only [List.all_eq_true, List.mem_range]

section

variable {j : Nat} (hj : j < p.count)

include hj

/-- An element's bit lies in the word. -/
theorem lt_word : j < 32 := by
  have := p.count_bounds
  omega

/-- Equal any. -/
theorem intRes1_any (hmode : p.aggregation = 0) : p.intRes1.getLsbD j = true ↔ p.IntRes1 j := by
  have hcount := p.len1_le
  unfold intRes1 pcmpAggregate IntRes1 BoolRes
  rw [field_toNat, show p.imm.toNat / 2 ^ 2 % 4 = 0 from hmode, hmode]
  show (bitsWhere _ _).getLsbD j = true ↔
    ∃ i < p.count, p.Valid1 i ∧ p.Valid2 j ∧ p.item p.lhs i = p.item p.rhs j
  rw [bitsWhere_getLsbD _ (p.lt_word hj), Bool.and_eq_true, decide_eq_true_iff, any_range,
    p.lt_len2 hj]
  constructor
  · rintro ⟨hvalid, i, hi, heq⟩
    have hi' : i < p.count := by omega
    exact ⟨i, hi', (p.lt_len1 hi').mp hi, hvalid, (p.equal_iff hi' hj).mp heq⟩
  · rintro ⟨i, hi, hvalid1, hvalid2, heq⟩
    exact ⟨hvalid2, i, (p.lt_len1 hi).mpr hvalid1, (p.equal_iff hi hj).mpr heq⟩

/-- Ranges. -/
theorem intRes1_ranges (hmode : p.aggregation = 1) :
    p.intRes1.getLsbD j = true ↔ p.IntRes1 j := by
  have hcount := p.len1_le
  have heven (k : Nat) : 2 * k % 2 = 0 := Nat.mul_mod_right 2 k
  have hodd (k : Nat) : ¬(2 * k + 1) % 2 = 0 := by omega
  unfold intRes1 pcmpAggregate IntRes1 BoolRes
  rw [field_toNat, show p.imm.toNat / 2 ^ 2 % 4 = 1 from hmode, hmode]
  show (bitsWhere _ _).getLsbD j = true ↔ ∃ k < p.count / 2,
    (p.Valid1 (2 * k) ∧ p.Valid2 j ∧ if 2 * k % 2 = 0 then _ else _) ∧
      (p.Valid1 (2 * k + 1) ∧ p.Valid2 j ∧ if (2 * k + 1) % 2 = 0 then _ else _)
  rw [bitsWhere_getLsbD _ (p.lt_word hj), Bool.and_eq_true, decide_eq_true_iff, any_range,
    p.lt_len2 hj]
  simp only [heven, hodd, if_true, if_false, Bool.and_eq_true]
  -- A range is a pair of neighbouring elements, so both of its ends have to be valid.
  constructor
  · rintro ⟨hvalid, k, hk, hlow, hhigh⟩
    have hlast : 2 * k + 1 < p.count := by omega
    have hfirst : 2 * k < p.count := by omega
    exact ⟨k, by omega,
      ⟨(p.lt_len1 hfirst).mp (by omega), hvalid, (p.sle_iff _ _ hfirst hj).mp hlow⟩,
      ⟨(p.lt_len1 hlast).mp (by omega), hvalid, (p.sle_iff _ _ hj hlast).mp hhigh⟩⟩
  · rintro ⟨k, hk, ⟨hvalid1, hvalid2, hlow⟩, ⟨hvalid1', _, hhigh⟩⟩
    have hlast : 2 * k + 1 < p.count := by omega
    have hfirst : 2 * k < p.count := by omega
    have hlen := (p.lt_len1 hlast).mpr hvalid1'
    exact ⟨hvalid2, k, by omega, (p.sle_iff _ _ hfirst hj).mpr hlow,
      (p.sle_iff _ _ hj hlast).mpr hhigh⟩

/-- Equal each. -/
theorem intRes1_each (hmode : p.aggregation = 2) : p.intRes1.getLsbD j = true ↔ p.IntRes1 j := by
  unfold intRes1 pcmpAggregate IntRes1 BoolRes
  rw [field_toNat, show p.imm.toNat / 2 ^ 2 % 4 = 2 from hmode, hmode]
  show (bitsWhere _ _).getLsbD j = true ↔ (¬p.Valid1 j ∧ ¬p.Valid2 j) ∨
    (p.Valid1 j ∧ p.Valid2 j ∧ p.item p.lhs j = p.item p.rhs j)
  rw [bitsWhere_getLsbD _ (p.lt_word hj), decide_eq_true (show j < pcmpElementCount p.imm from hj),
    Bool.true_and, ← p.lt_len1 hj, ← p.lt_len2 hj]
  split
  next hboth =>
    rw [p.equal_iff hj hj]
    exact ⟨fun heq => Or.inr ⟨hboth.1, hboth.2, heq⟩,
      fun h => h.elim (fun hnone => absurd hboth.1 hnone.1) fun hall => hall.2.2⟩
  next hnot =>
    rw [decide_eq_true_iff]
    refine ⟨fun h => Or.inl ⟨Nat.not_lt.mpr h.1, Nat.not_lt.mpr h.2⟩, fun h => ?_⟩
    rcases h with hnone | hall
    · exact ⟨Nat.not_lt.mp hnone.1, Nat.not_lt.mp hnone.2⟩
    · exact absurd ⟨hall.1, hall.2.1⟩ hnot

/-- The code asks for the whole needle. -/
theorem intRes1_ordered (hmode : p.aggregation = 3) :
    p.intRes1.getLsbD j = true ↔
      ∀ i < p.count, p.Valid1 i →
        j + i < p.count ∧ p.Valid2 (j + i) ∧ p.item p.lhs i = p.item p.rhs (j + i) := by
  have hcount := p.len1_le
  have hcount2 := p.len2_le
  unfold intRes1 pcmpAggregate
  rw [field_toNat, show p.imm.toNat / 2 ^ 2 % 4 = 3 from hmode]
  show (bitsWhere _ _).getLsbD j = true ↔ _
  rw [bitsWhere_getLsbD _ (p.lt_word hj), decide_eq_true (show j < pcmpElementCount p.imm from hj),
    Bool.true_and, all_range]
  simp only [Bool.and_eq_true, decide_eq_true_eq]
  rw [count_eq]
  constructor
  · intro h i hi hvalid
    obtain ⟨⟨hlen, hin⟩, heq⟩ := h i (Nat.lt_min.mpr ⟨(p.lt_len1 hi).mpr hvalid, hi⟩)
    exact ⟨hin, (p.lt_len2 hin).mp hlen, (p.equal_iff hi hin).mp heq⟩
  · intro h i hmin
    obtain ⟨hlen, hi⟩ := Nat.lt_min.mp hmin
    obtain ⟨hin, hvalid, heq⟩ := h i hi ((p.lt_len1 hi).mp hlen)
    exact ⟨⟨(p.lt_len2 hin).mpr hvalid, hin⟩, (p.equal_iff hi hin).mpr heq⟩

end

/-- The four aggregations. -/
theorem aggregation_cases :
    p.aggregation = 0 ∨ p.aggregation = 1 ∨ p.aggregation = 2 ∨ p.aggregation = 3 := by
  have := Nat.mod_lt (p.imm.toNat / 4) (show 0 < 4 by decide)
  unfold aggregation
  omega

/-- Equal ordered. -/
theorem ordered_iff (hmode : p.aggregation = 3) {j : Nat} :
    p.IntRes1 j ↔ ∀ i, j + i < p.count → p.Valid1 i →
      p.Valid2 (j + i) ∧ p.item p.lhs i = p.item p.rhs (j + i) := by
  unfold IntRes1 BoolRes
  rw [hmode]
  show (∀ i, j + i < p.count → ¬p.Valid1 i ∨
    (p.Valid2 (j + i) ∧ p.item p.lhs i = p.item p.rhs (j + i))) ↔ _
  exact forall_congr' fun i => imp_congr_right fun _ => imp_iff_not_or.symm

/-- **The intermediate result** is right unless the haystack ends in a part of
the needle. -/
theorem intRes1_iff :
    (∀ j < p.count, p.intRes1.getLsbD j = true ↔ p.IntRes1 j) ↔ ¬p.PrefixAtEnd := by
  rcases p.aggregation_cases with hmode | hmode | hmode | hmode
  · refine iff_of_true (fun j hj => p.intRes1_any hj hmode) fun h => ?_
    rw [h.1] at hmode
    cases hmode
  · refine iff_of_true (fun j hj => p.intRes1_ranges hj hmode) fun h => ?_
    rw [h.1] at hmode
    cases hmode
  · refine iff_of_true (fun j hj => p.intRes1_each hj hmode) fun h => ?_
    rw [h.1] at hmode
    cases hmode
  · constructor
    · rintro hall ⟨_, hfull, j, hj, hpos, hlonger, hprefix⟩
      -- the manual has a match at `j`, the code looks beyond the window
      have hmatch : p.IntRes1 j := (p.ordered_iff hmode).mpr fun i hi _ =>
        ⟨hfull _ hi, hprefix i (by omega)⟩
      have hcode := (p.intRes1_ordered hj hmode).mp ((hall j hj).mpr hmatch)
      have := (hcode (p.count - j) (by omega) hlonger).1
      omega
    · intro hnot j hj
      rw [p.intRes1_ordered hj hmode, p.ordered_iff hmode]
      refine ⟨fun h i hi hvalid => (h i (by omega) hvalid).2, fun h i hi hvalid => ?_⟩
      by_cases hin : j + i < p.count
      · exact ⟨hin, h i hin hvalid⟩
      · -- the needle is longer than the rest of the window
        have hbelow (k : Nat) (hk : k < p.count - j) :=
          h k (by omega) (p.valid_of_le hvalid (by omega))
        have hlast := (hbelow (p.count - 1 - j) (by omega)).1
        exact absurd ⟨hmode, fun k hk => p.valid_of_le hlast (by omega), j, hj, by omega,
          p.valid_of_le hvalid (by omega), fun k hk => (hbelow k hk).2⟩ hnot

/-! ## Polarity -/

/-- The bits after the polarity, of a right intermediate result. -/
theorem intRes2_bit (hres : ∀ j < p.count, p.intRes1.getLsbD j = true ↔ p.IntRes1 j) (j : Nat) :
    p.intRes2.getLsbD j = true ↔ j < p.count ∧ p.IntRes2 j := by
  have hcount := p.count_bounds
  have hlen := p.len2_le
  have hfull : ∀ {k}, ((1#32 <<< pcmpElementCount p.imm) - 1#32).getLsbD k = decide (k < p.count) :=
    fun {k} => lowMask_getLsbD (show p.count < 32 by omega) k
  have hnone : ∀ {v : BitVec 32}, ¬j < p.count →
      (v &&& ((1#32 <<< pcmpElementCount p.imm) - 1#32)).getLsbD j = false := by
    intro v hj
    rw [BitVec.getLsbD_and, hfull, decide_eq_false hj, Bool.and_false]
  -- Outside the elements everything is masked away; inside, the polarity decides.
  by_cases hj : j < p.count
  · have hword : decide (j < 32) = true := decide_eq_true (by omega)
    have hvalid : (if pcmpElementCount p.imm ≤ p.len2 then (1#32 <<< pcmpElementCount p.imm) - 1#32
        else (1#32 <<< p.len2) - 1#32).getLsbD j = decide (j < p.len2) := by
      split
      next hle =>
        rw [hfull, decide_eq_decide]
        exact iff_of_true hj (Nat.lt_of_lt_of_le hj hle)
      next hlt => exact lowMask_getLsbD (show p.len2 < 32 by omega) j
    rw [and_iff_right hj]
    unfold intRes2 pcmpApplyPolarity IntRes2
    rw [field_toNat]
    have hpolarity : p.imm.toNat / 2 ^ 4 % 4 = p.polarity := rfl
    have hbound : p.polarity < 4 := Nat.mod_lt _ (by decide)
    rw [hpolarity]
    generalize p.polarity = polarity at hbound ⊢
    obtain rfl | rfl | rfl | rfl : polarity = 0 ∨ polarity = 1 ∨ polarity = 2 ∨ polarity = 3 := by
      omega
    · show (_ &&& _ : BitVec 32).getLsbD j = true ↔ p.IntRes1 j
      rw [BitVec.getLsbD_and, hfull, decide_eq_true hj, Bool.and_true, hres j hj]
    · show (~~~_ &&& _ : BitVec 32).getLsbD j = true ↔ ¬p.IntRes1 j
      rw [BitVec.getLsbD_and, hfull, decide_eq_true hj, Bool.and_true, BitVec.getLsbD_not, hword,
        Bool.true_and, Bool.not_eq_true', ← hres j hj, Bool.not_eq_true]
    · show (_ &&& _ : BitVec 32).getLsbD j = true ↔ p.IntRes1 j
      rw [BitVec.getLsbD_and, hfull, decide_eq_true hj, Bool.and_true, hres j hj]
    · show (((~~~_ &&& _) ||| (_ &&& ~~~_)) &&& _ : BitVec 32).getLsbD j = true ↔
        (p.Valid2 j ∧ ¬p.IntRes1 j) ∨ (¬p.Valid2 j ∧ p.IntRes1 j)
      rw [BitVec.getLsbD_and, hfull, decide_eq_true hj, Bool.and_true, BitVec.getLsbD_or,
        BitVec.getLsbD_and, BitVec.getLsbD_and, BitVec.getLsbD_not, BitVec.getLsbD_not, hvalid,
        hword, ← p.lt_len2 hj, ← hres j hj]
      cases p.intRes1.getLsbD j <;> simp
  · rw [iff_false_intro (fun h : j < p.count ∧ p.IntRes2 j => hj h.1), iff_false, Bool.not_eq_true]
    unfold intRes2 pcmpApplyPolarity
    split <;> exact hnone hj

/-! ## Flags -/

section

variable {c : Prop} [Decidable c] {rflags bit other : U64}

/-- A flag put in. -/
theorem flagSet_raised (hbit : bit ≠ 0#64) (hclear : flagSet rflags bit = false) :
    flagSet (if c then rflags ||| bit else rflags) bit = decide c := by
  by_cases hc : c
  · rw [if_pos hc, decide_eq_true hc]
    exact flagSet_setFlag_self hbit rflags true
  · rw [if_neg hc, decide_eq_false hc]
    exact hclear

/-- Another flag is left. -/
theorem flagSet_raised_other (hdisjoint : bit &&& other = 0#64) :
    flagSet (if c then rflags ||| bit else rflags) other = flagSet rflags other := by
  by_cases hc : c
  · rw [if_pos hc]
    exact flagSet_setFlag_of_disjoint hdisjoint rflags true
  · rw [if_neg hc]

/-- A flag masked out. -/
theorem flagSet_masked_out {mask : U64} (hmask : ~~~mask &&& bit = 0#64) :
    flagSet (rflags &&& ~~~mask) bit = false := by
  unfold flagSet
  rw [BitVec.and_assoc, hmask, BitVec.and_zero]
  rfl

end

/-- The flags of a comparison: each is set by its own condition. -/
theorem setPcmpstrFlags_spec (s : CpuState) (intres2 : BitVec 32) (len1 len2 count : Nat) :
    let rflags := (setPcmpstrFlags s intres2 len1 len2 count).rflags
    flagSet rflags kFlagCF = decide (intres2 ≠ 0#32) ∧
      flagSet rflags kFlagZF = decide (len2 < count) ∧
      flagSet rflags kFlagSF = decide (len1 < count) ∧
      flagSet rflags kFlagOF = intres2.getLsbD 0 ∧ flagSet rflags kFlagAF = false ∧
      flagSet rflags kFlagPF = false := by
  let arithmetic := kFlagCF ||| kFlagPF ||| kFlagAF ||| kFlagZF ||| kFlagSF ||| kFlagOF
  have hclear (bit : U64) (h : ~~~arithmetic &&& bit = 0#64) :
      flagSet (s.rflags &&& ~~~arithmetic) bit = false := flagSet_masked_out h
  unfold setPcmpstrFlags setFlags
  dsimp only
  -- Each flag is raised by its own line, and by none of the others.
  refine ⟨?_, ?_, ?_, ?_, ?_, ?_⟩
  · rw [flagSet_raised_other (by decide), flagSet_raised_other (by decide),
      flagSet_raised_other (by decide), flagSet_raised (by decide) (hclear _ (by decide))]
  · rw [flagSet_raised_other (by decide), flagSet_raised_other (by decide),
      flagSet_raised (by decide)]
    rw [flagSet_raised_other (by decide), hclear _ (by decide)]
  · rw [flagSet_raised_other (by decide), flagSet_raised (by decide)]
    rw [flagSet_raised_other (by decide), flagSet_raised_other (by decide), hclear _ (by decide)]
  · rw [flagSet_raised (by decide), Bool.decide_eq_true]
    rw [flagSet_raised_other (by decide), flagSet_raised_other (by decide),
      flagSet_raised_other (by decide), hclear _ (by decide)]
  · rw [flagSet_raised_other (by decide), flagSet_raised_other (by decide),
      flagSet_raised_other (by decide), flagSet_raised_other (by decide), hclear _ (by decide)]
  · rw [flagSet_raised_other (by decide), flagSet_raised_other (by decide),
      flagSet_raised_other (by decide), flagSet_raised_other (by decide), hclear _ (by decide)]

/-! ## Index and mask -/

/-- The last of a range. -/
theorem find_last (q : Nat → Bool) {k : Nat} :
    ∀ n, (List.range n).reverse.find? q = some k → ∀ j < n, q j = true → j ≤ k := by
  intro n
  induction n with
  | zero =>
    intro _ j hj
    exact absurd hj (Nat.not_lt_zero j)
  | succ n ih =>
    rw [List.range_succ, List.reverse_append, List.reverse_singleton, List.singleton_append,
      List.find?_cons]
    intro hfind j hj hq
    -- The search goes down from the top, so the first one found is the last one set.
    cases hn : q n with
    | true =>
      rw [hn] at hfind
      cases hfind
      exact Nat.lt_succ_iff.mp hj
    | false =>
      rw [hn] at hfind
      refine ih hfind j (Nat.lt_of_le_of_ne (Nat.lt_succ_iff.mp hj) ?_) hq
      rintro rfl
      rw [hn] at hq
      cases hq

/-- A bit of a row of elements that are all ones or zero. -/
theorem spread_getLsbD {size count j : Nat} (q : Nat → Bool) (hj : j < 8 * size * count)
    (hwide : 8 * size * count ≤ 512) :
    (updateLanes size count (fun i => if q i then some (BitVec.allOnes (8 * size)) else none)
      0#512).getLsbD j = q (j / (8 * size)) := by
  have hpos : 0 < 8 * size := Nat.pos_of_ne_zero fun hzero => by
    rw [hzero, Nat.zero_mul] at hj
    exact Nat.not_lt_zero j hj
  have hsplit := Nat.div_add_mod j (8 * size)
  have hr := Nat.mod_lt j hpos
  have hi : j / (8 * size) < count := Nat.div_lt_of_lt_mul hj
  generalize j / (8 * size) = i at hsplit hi ⊢
  generalize j % (8 * size) = r at hsplit hr
  have hend : 8 * size * (i + 1) ≤ 512 := Nat.le_trans (Nat.mul_le_mul_left _ hi) hwide
  rw [← hsplit, ← lane_getLsbD _ _ _ hr, lane_updateLanes _ _ hend, if_pos hi]
  cases hq : q i with
  | true => rw [if_pos rfl, Option.getD_some, BitVec.getLsbD_allOnes, decide_eq_true hr]
  | false =>
    rw [if_neg Bool.false_ne_true, Option.getD_none, lane_getLsbD _ _ _ hr, BitVec.getLsbD_zero]

section

variable (hbit : ∀ j, p.intRes2.getLsbD j = true ↔ j < p.count ∧ p.IntRes2 j)

include hbit

/-- The index is the specification's. -/
theorem pcmpIndex_spec : p.Index (pcmpIndex p.imm p.intRes2 (pcmpElementCount p.imm)) := by
  unfold pcmpIndex
  dsimp only
  have hmem : ∀ k, k ∈ (if p.imm.getLsbD 6 then (List.range (pcmpElementCount p.imm)).reverse
      else List.range (pcmpElementCount p.imm)) ↔ k < p.count := by
    intro k
    split
    next => rw [List.mem_reverse, List.mem_range, count_eq]
    next => rw [List.mem_range, count_eq]
  cases hfind : List.find? (fun i => p.intRes2.getLsbD i)
      (if p.imm.getLsbD 6 then (List.range (pcmpElementCount p.imm)).reverse
        else List.range (pcmpElementCount p.imm)) with
  | none =>
    refine Or.inl ⟨rfl, fun j hj hres => ?_⟩
    exact List.find?_eq_none.mp hfind j ((hmem j).mpr hj) ((hbit j).mpr ⟨hj, hres⟩)
  | some k =>
    rw [Option.getD_some]
    have hk := (hbit k).mp (List.find?_some hfind)
    refine Or.inr ⟨hk.1, hk.2, fun j hj hres => ?_⟩
    have hset := (hbit j).mpr ⟨hj, hres⟩
    -- The most significant index is asked of the reversed list.
    by_cases hmost : p.imm.getLsbD 6 = true
    · rw [if_pos hmost] at hfind ⊢
      exact find_last _ _ hfind j hj hset
    · rw [if_neg hmost] at hfind ⊢
      have hbefore := (List.find?_range_eq_some.mp hfind).2.2
      by_contra hlt
      have hclear := hbefore j (by omega)
      rw [hset] at hclear
      cases hclear

/-- The mask is the specification's. -/
theorem pcmpMask_spec {j : Nat} (hj : j < 128) :
    (pcmpMask p.imm p.intRes2).getLsbD j = true ↔ p.MaskBit j := by
  unfold pcmpMask MaskBit
  split
  next hspread =>
    have hin : j / (128 / p.count) < p.count := by
      unfold count
      split <;> omega
    refine Iff.trans (Eq.congr_left ?_) ((hbit _).trans (and_iff_right hin))
    unfold count words
    cases p.imm.getLsbD 0 with
    | true => exact spread_getLsbD _ (by omega) (by decide)
    | false => exact spread_getLsbD _ (by omega) (by decide)
  next hplain =>
    rw [BitVec.getLsbD_setWidth, decide_eq_true (show j < 512 by omega), Bool.true_and, hbit]

end

/-! ## The handler -/

/-- What the handler does to the registers. -/
def written (returnMask : Bool) (s : CpuState) : CpuState :=
  let s := setPcmpstrFlags s p.intRes2 p.len1 p.len2 (pcmpElementCount p.imm)
  if returnMask then
    setVector s (vectorSlot 0)
      (mergeVec (s.vectors (vectorSlot 0)) (pcmpMask p.imm p.intRes2) 16 false)
  else
    writeRegister s .ecx (BitVec.ofNat 64 (pcmpIndex p.imm p.intRes2 (pcmpElementCount p.imm))) 4

/-- The handler, its operands read. -/
theorem pcmpstr_run {H : X87Host} {explicitLengths returnMask : Bool} {ctx : ExecutionContext}
    {rhs : BitVec 512} (hdst : H.IsVectorOperand ctx.instr 0)
    (hread : H.readVectorOperand 1 16 ctx = .ok rhs ctx) :
    H.pcmpstr explicitLengths returnMask ctx =
      .ok ()
        { ctx with state := (Pcmpstr.of H explicitLengths ctx rhs).written returnMask ctx.state } := by
  have hget : (get : HandlerM ExecutionContext) ctx = .ok ctx ctx := rfl
  unfold X87Host.pcmpstr
  rw [bind_ok hget, if_pos hdst, bind_ok hread]
  cases returnMask with
  | true => rfl
  | false => rfl

/-- A length below the count has an invalid element. -/
theorem lt_length_iff {n : Nat} {length : Nat} {valid : Nat → Prop}
    (hlength : ∀ i < n, i < length ↔ valid i) : length < n ↔ ∃ j < n, ¬valid j := by
  constructor
  · intro hlt
    exact ⟨length, hlt, fun hvalid => Nat.lt_irrefl _ ((hlength length hlt).mpr hvalid)⟩
  · rintro ⟨j, hj, hnot⟩
    by_contra hge
    exact hnot ((hlength j hj).mp (by omega))

/-- What is written is the outcome. -/
theorem written_outcome (hres : ∀ j < p.count, p.intRes1.getLsbD j = true ↔ p.IntRes1 j)
    (returnMask : Bool) (s : CpuState) : p.Outcome returnMask s (p.written returnMask s) := by
  have hbit := p.intRes2_bit hres
  have hcount := p.count_bounds
  have hflags : (p.written returnMask s).rflags =
      (setPcmpstrFlags s p.intRes2 p.len1 p.len2 (pcmpElementCount p.imm)).rflags := by
    cases returnMask <;> rfl
  obtain ⟨hcarry, hzero, hsign, hoverflow, hadjust, hparity⟩ :=
    setPcmpstrFlags_spec s p.intRes2 p.len1 p.len2 (pcmpElementCount p.imm)
  rw [← hflags] at hcarry hzero hsign hoverflow hadjust hparity
  -- The six flags, then the mask in XMM0, then the index in ECX.
  refine ⟨?_, ?_, ?_, ?_, ⟨hadjust, hparity⟩, ?_, ?_⟩
  · rw [hcarry, decide_eq_true_iff]
    constructor
    · intro hne
      by_contra hnone
      refine hne (BitVec.eq_of_getLsbD_eq fun j _ => ?_)
      rw [BitVec.getLsbD_zero, Bool.eq_false_iff]
      exact fun hset => hnone ⟨j, ((hbit j).mp hset).1, ((hbit j).mp hset).2⟩
    · rintro ⟨j, hj, hset⟩ hnone
      have := (hbit j).mpr ⟨hj, hset⟩
      rw [hnone, BitVec.getLsbD_zero] at this
      cases this
  · rw [hzero, decide_eq_true_iff]
    exact lt_length_iff fun i hi => p.lt_len2 hi
  · rw [hsign, decide_eq_true_iff]
    exact lt_length_iff fun i hi => p.lt_len1 hi
  · rw [hoverflow, hbit, and_iff_right (by omega)]
  · rintro rfl
    have hslot : (p.written true s).vectors (vectorSlot 0) =
        mergeVec (s.vectors (vectorSlot 0)) (pcmpMask p.imm p.intRes2) 16 false :=
      X87Host.setVector_self _ _ _
    rw [hslot]
    refine ⟨fun j hj => ?_, fun j hj => ?_⟩
    · rw [X87Host.mergeVec_low _ _ _ (by omega) (by omega)]
      exact p.pcmpMask_spec hbit hj
    · rcases Nat.lt_or_ge j 512 with hlt | hge
      · rw [X87Host.mergeVec_high _ _ _ hlt (by omega)]
        rfl
      · rw [BitVec.getLsbD_of_ge _ _ hge, BitVec.getLsbD_of_ge _ _ hge]
  · rintro rfl
    refine ⟨_, p.pcmpIndex_spec hbit, ?_⟩
    have hle : pcmpIndex p.imm p.intRes2 (pcmpElementCount p.imm) ≤ p.count := by
      rcases p.pcmpIndex_spec hbit with ⟨hnone, _⟩ | ⟨hlt, _⟩
      · exact Nat.le_of_eq hnone
      · exact Nat.le_of_lt hlt
    show BitVec.ofNat 64 _ &&& 0xFFFFFFFF#64 = _
    refine truncate_of_lt (n := 4) (by decide) ?_
    rw [BitVec.toNat_ofNat]
    exact Nat.lt_of_le_of_lt (Nat.mod_le _ _) (by omega)

end Pcmpstr

/-- **String comparisons.** -/
theorem pcmpstr_iff (H : X87Host) (explicitLengths returnMask : Bool) {ctx : ExecutionContext}
    {rhs : BitVec 512} (hdst : H.IsVectorOperand ctx.instr 0)
    (hread : H.readVectorOperand 1 16 ctx = .ok rhs ctx) :
    (Pcmpstr.of H explicitLengths ctx rhs).Meets H returnMask ctx ↔
      ¬(Pcmpstr.of H explicitLengths ctx rhs).PrefixAtEnd := by
  rw [← Pcmpstr.intRes1_iff]
  exact ⟨fun h => h.result, fun hres => ⟨hres, _, Pcmpstr.pcmpstr_run hdst hread,
    Pcmpstr.written_outcome _ hres returnMask ctx.state⟩⟩

/-- All registers full, and an immediate: strings of sixteen bytes. -/
def fullStrings (imm : U64) : ExecutionContext :=
  { fullVectors (.other 78) with
    instr := { (fullVectors (.other 78)).instr with immediate8 := imm } }

/-- `PCMPISTRM XMM0, XMM1, 8`, equal each. -/
theorem pcmpstr_equalEach :
    (Pcmpstr.of vectorHost.toX87Host false (fullStrings 8#64)
      (BitVec.allOnes 512 &&& X87Host.vectorMask 16 &&& X87Host.vectorMask 16)).Meets
        vectorHost.toX87Host true (fullStrings 8#64) :=
  (pcmpstr_iff vectorHost.toX87Host false true ⟨rfl, by decide⟩ rfl).mpr fun h =>
    absurd h.1 (by decide)

/-- `PCMPISTRM XMM0, XMM1, 12`, equal ordered: the rest of the haystack after the first
byte is a part of the needle, and bit 1 is clear. -/
theorem pcmpstr_equalOrdered :
    let p := Pcmpstr.of vectorHost.toX87Host false (fullStrings 12#64)
      (BitVec.allOnes 512 &&& X87Host.vectorMask 16 &&& X87Host.vectorMask 16)
    ¬p.Meets vectorHost.toX87Host true (fullStrings 12#64) ∧ p.IntRes1 1 ∧
      ∃ after, vectorHost.toX87Host.pcmpstr false true (fullStrings 12#64) = .ok () after ∧
        (after.state.vectors (vectorSlot 0)).getLsbD 1 = false := by
  intro p
  have hitem1 : ∀ k < 16, p.item p.lhs k = 255 := by decide +kernel
  have hitem2 : ∀ k < 16, p.item p.rhs k = 255 := by decide +kernel
  have hvalid : ∀ k < 16, p.Valid2 k := by
    intro k hk l hl
    rw [hitem2 l (by omega)]
    decide
  have hmatch : p.IntRes1 1 := by
    refine (p.ordered_iff (by decide)).mpr fun i hi _ => ?_
    rw [show p.count = 16 by decide] at hi
    exact ⟨hvalid _ hi, (hitem1 i (by omega)).trans (hitem2 _ hi).symm⟩
  have hrun := @Pcmpstr.pcmpstr_run vectorHost.toX87Host false true (fullStrings 12#64) p.rhs
    ⟨rfl, by decide⟩ rfl
  refine ⟨fun h => ?_, hmatch, _, hrun, by decide +kernel⟩
  have hset := (h.result 1 (by decide)).mpr hmatch
  have hclear : p.intRes1.getLsbD 1 = false := by decide +kernel
  rw [hclear] at hset
  cases hset

end Seven
