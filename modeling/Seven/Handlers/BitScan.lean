import Seven.Cpu.Checked
import Seven.Handlers.Multiply
import Seven.Handlers.ShiftBits
import Seven.Handlers.WidePair

/-!
# Bit scans and bit counts

`BSR` and `BSF` find the highest and the lowest set bit of their source by a
loop over the bits. `LZCNT` and `TZCNT` count the zeros in front of these
bits with the bit counts of the C++ library, taken at the operand's own
width. `BSR` walks down and stops at bit 1 whether that is set or not: bit 0
is looked at from there, and the index it started from only stays when the
source is zero, which the handler excludes.

Main result: `bit_scans`.
-/

namespace Seven

open Seven.Lib

/-! ## The handlers -/

/-- The operand size of the scans as an operand width. -/
def RmWideWidth.operand : RmWideWidth → RmWidth
  | .rm16 => .rm16
  | .rm32 => .rm32
  | .rm64 => .rm64

/-- The loop of `BSR` from `bit` down, with the index as preset. -/
def bsrLoop (value : U64) (index : Nat) : Nat → Nat
  | 0 => index
  | bit + 1 =>
    if flagSet value (1#64 <<< (bit + 1)) then bit + 1
    else if bit + 1 = 1 then (if flagSet value 1#64 then 0 else index)
    else bsrLoop value index bit

/-- The loop of `BSF` from `bit` up, with so many rounds left. -/
def bsfLoop (value : U64) (index bit : Nat) : Nat → Nat
  | 0 => index
  | rounds + 1 =>
    if flagSet value (1#64 <<< bit) then bit else bsfLoop value index (bit + 1) rounds

/-- `handle_code_BSR_R16_RM16` and the others; `index` is what the loop finds. -/
def bitScan (index : U64 → Nat) (width : RmWideWidth) : Handler := do
  let value ← readOperandChecked 1 width.bytes
  if value = 0#64 then
    modifyState fun s => setFlags s (setFlag s.rflags kFlagZF true)
  else
    modifyState fun s => setFlags s (setFlag s.rflags kFlagZF false)
    let ctx ← get
    modifyState fun s =>
      writeRegister s (ctx.instr.opRegister 0) (BitVec.ofNat 64 (index value)) width.bytes

/-- `BSR`. -/
def handleBsr (width : RmWideWidth) : Handler :=
  bitScan (fun value => bsrLoop value (8 * width.bytes - 1) (8 * width.bytes - 1)) width

/-- `BSF`. -/
def handleBsf (width : RmWideWidth) : Handler :=
  bitScan (fun value => bsfLoop value 0 0 (8 * width.bytes)) width

/-- `clear_count_flags`. -/
def clearCountFlags (rflags : U64) : U64 :=
  setFlag (setFlag (setFlag (setFlag (setFlag rflags kFlagCF false) kFlagOF false) kFlagSF false)
    kFlagAF false) kFlagPF false

/-- `std::countr_zero`. -/
def countrZero {n : Nat} (v : BitVec n) : U64 := v.ctz.setWidth 64

/-- `std::countl_zero`. -/
def countlZero {n : Nat} (v : BitVec n) : U64 := v.clz.setWidth 64

/-- `tzcnt_narrow` and `lzcnt_narrow`; the 64-bit forms have the same body. -/
def countNarrow (count : ∀ {n : Nat}, BitVec n → U64) (width : RmWideWidth) : Handler := do
  let value ← readOperandChecked 1 width.bytes
  let v := value.setWidth (8 * width.bytes)
  let ctx ← get
  modifyState fun s => writeRegister s (ctx.instr.opRegister 0) (count v) width.bytes
  modifyState fun s => setFlags s (clearCountFlags s.rflags)
  modifyState fun s => setFlags s (setFlag s.rflags kFlagCF (v == 0))
  modifyState fun s => setFlags s (setFlag s.rflags kFlagZF (count v == 0#64))

/-- `TZCNT`. -/
def handleTzcnt (width : RmWideWidth) : Handler := countNarrow countrZero width

/-- `LZCNT`. -/
def handleLzcnt (width : RmWideWidth) : Handler := countNarrow countlZero width

/-! ## The lowest and the highest bit -/

/-- Bit `k` is set and no lower one is. -/
def LowestBit (v : U64) (k : Nat) : Prop :=
  v.getLsbD k = true ∧ ∀ i < k, v.getLsbD i = false

/-- Bit `k` is set and no higher one is. -/
def HighestBit (v : U64) (k : Nat) : Prop :=
  v.getLsbD k = true ∧ ∀ i, k < i → v.getLsbD i = false

section

variable {v : U64} {j k : Nat}

/-- There is one lowest bit. -/
theorem LowestBit.unique (hj : LowestBit v j) (hk : LowestBit v k) : j = k := by
  rcases Nat.lt_trichotomy j k with hlt | heq | hlt
  · have hclear := hk.2 j hlt
    rw [hj.1] at hclear
    cases hclear
  · exact heq
  · have hclear := hj.2 k hlt
    rw [hk.1] at hclear
    cases hclear

/-- There is one highest bit. -/
theorem HighestBit.unique (hj : HighestBit v j) (hk : HighestBit v k) : j = k := by
  rcases Nat.lt_trichotomy j k with hlt | heq | hlt
  · have hclear := hj.2 k hlt
    rw [hk.1] at hclear
    cases hclear
  · exact heq
  · have hclear := hk.2 j hlt
    rw [hj.1] at hclear
    cases hclear

/-- The highest bit is the exponent of the largest power of two in the number. -/
theorem highestBit_iff : HighestBit v k ↔ 2 ^ k ≤ v.toNat ∧ v.toNat < 2 ^ (k + 1) := by
  constructor
  · rintro ⟨hset, hclear⟩
    refine ⟨Nat.ge_two_pow_of_testBit (by rw [BitVec.testBit_toNat]; exact hset), ?_⟩
    apply Nat.lt_pow_two_of_testBit
    intro i hi
    rw [BitVec.testBit_toNat]
    exact hclear i (by omega)
  · rintro ⟨hle, hlt⟩
    have hhigh : ∀ i, k < i → v.getLsbD i = false := by
      intro i hi
      exact getLsbD_high hlt hi
    refine ⟨?_, hhigh⟩
    -- some bit from `k` on is set, and no higher one can be
    obtain ⟨i, hi, hset⟩ := Nat.exists_ge_and_testBit_of_ge_two_pow hle
    rw [BitVec.testBit_toNat] at hset
    rcases Nat.lt_or_eq_of_le hi with hgt | rfl
    · rw [hhigh i hgt] at hset
      cases hset
    · exact hset

/-- A value other than zero has a bit. -/
theorem exists_bit_of_ne_zero (hv : v ≠ 0#64) : ∃ i, v.getLsbD i = true := by
  by_contra hnone
  push Not at hnone
  refine hv (BitVec.eq_of_getLsbD_eq fun i _ => ?_)
  rw [Bool.eq_false_of_not_eq_true (hnone i)]
  exact BitVec.getLsbD_zero.symm

/-- The `BSR` loop finds the highest bit when none is above its start. The
induction is on the bit it stands at. -/
theorem highestBit_bsrLoop (index : Nat) (hv : v ≠ 0#64) {bit : Nat} (hbit : 0 < bit)
    (hlt : bit < 64) (habove : ∀ i, bit < i → v.getLsbD i = false) :
    HighestBit v (bsrLoop v index bit) := by
  induction bit with
  | zero => exact absurd hbit (Nat.lt_irrefl 0)
  | succ bit ih =>
    unfold bsrLoop
    rw [flagSet_bit v hlt]
    -- The loop goes down from the top bit; what lies above the current one is zero.
    cases hset : v.getLsbD (bit + 1) with
    | true =>
      rw [if_pos rfl]
      exact ⟨hset, habove⟩
    | false =>
      rw [if_neg Bool.false_ne_true]
      have hbelow : ∀ i, bit < i → v.getLsbD i = false := by
        intro i hi
        rcases Nat.lt_or_eq_of_le (Nat.succ_le_of_lt hi) with hgt | rfl
        · exact habove i hgt
        · exact hset
      by_cases hlast : bit + 1 = 1
      · -- only bit 0 is left, and the value is not zero
        obtain rfl : bit = 0 := by omega
        obtain ⟨i, hi⟩ := exists_bit_of_ne_zero hv
        have hlow : v.getLsbD 0 = true := by
          rcases Nat.eq_zero_or_pos i with rfl | hpos
          · exact hi
          · rw [hbelow i hpos] at hi
            cases hi
        rw [if_pos hlast, flagSet_low, hlow, if_pos rfl]
        exact ⟨hlow, hbelow⟩
      · rw [if_neg hlast]
        exact ih (by omega) (by omega) hbelow

/-- The `BSF` loop finds the lowest bit when none is below its start and one
is in its reach. -/
theorem lowestBit_bsfLoop (index : Nat) {rounds : Nat} : ∀ {bit : Nat}, bit + rounds ≤ 64 →
    (∀ i < bit, v.getLsbD i = false) → (∃ i < bit + rounds, v.getLsbD i = true) →
    LowestBit v (bsfLoop v index bit rounds) := by
  induction rounds with
  | zero =>
    intro bit hle hbelow hreach
    obtain ⟨i, hi, hset⟩ := hreach
    rw [hbelow i hi] at hset
    cases hset
  | succ rounds ih =>
    intro bit hle hbelow hreach
    unfold bsfLoop
    rw [flagSet_bit v (by omega)]
    -- The loop goes up from bit zero; what lies below the current one is zero.
    cases hset : v.getLsbD bit with
    | true =>
      rw [if_pos rfl]
      exact ⟨hset, hbelow⟩
    | false =>
      rw [if_neg Bool.false_ne_true]
      apply ih (by omega)
      · intro i hi
        rcases Nat.lt_or_eq_of_le (Nat.le_of_lt_succ hi) with hlt | rfl
        · exact hbelow i hlt
        · exact hset
      · obtain ⟨i, hi, hbit⟩ := hreach
        exact ⟨i, by omega, hbit⟩

end

/-! ## The library counts -/

section

variable {n : Nat} {v : U64}

/-- Nor is it zero at a width it fits. -/
theorem setWidth_ne_zero (hlt : v.toNat < 2 ^ n) (hv : v ≠ 0#64) : v.setWidth n ≠ 0#n := by
  intro hzero
  have hnat : (v.setWidth n).toNat = 0 := by rw [hzero, BitVec.toNat_zero]
  rw [BitVec.toNat_setWidth, Nat.mod_eq_of_lt hlt] at hnat
  exact hv (BitVec.eq_of_toNat_eq hnat)

/-- A count of zeros fits where it is written. -/
theorem count_toNat {w : Nat} (count : BitVec w) (hle : count.toNat ≤ w) (hw : w ≤ 64) :
    (count.setWidth 64).toNat = count.toNat := by
  rw [BitVec.toNat_setWidth]
  exact Nat.mod_eq_of_lt (by omega)

/-- At most the width. -/
theorem clz_toNat_le (x : BitVec n) : x.clz.toNat ≤ n := by
  have hle : x.clz ≤ BitVec.ofNat n n := BitVec.clz_le
  have hnat := BitVec.le_def.mp hle
  rwa [BitVec.toNat_ofNat, Nat.mod_eq_of_lt Nat.lt_two_pow_self] at hnat

/-- At most the width. -/
theorem ctz_toNat_le (x : BitVec n) : x.ctz.toNat ≤ n := by
  rw [BitVec.ctz_eq_reverse_clz]
  exact clz_toNat_le x.reverse

/-- `std::countl_zero` as a number. -/
theorem countlZero_toNat (x : BitVec n) (hn : n ≤ 64) : (countlZero x).toNat = x.clz.toNat :=
  count_toNat _ (clz_toNat_le x) hn

/-- `std::countr_zero` as a number. -/
theorem countrZero_toNat (x : BitVec n) (hn : n ≤ 64) : (countrZero x).toNat = x.ctz.toNat :=
  count_toNat _ (ctz_toNat_le x) hn

/-- Of zero: the width. -/
theorem countlZero_zero (hn : n ≤ 64) : countlZero 0#n = BitVec.ofNat 64 n := by
  have hclz : (0#n).clz = BitVec.ofNat n n := BitVec.clz_eq_iff_eq_zero.mpr rfl
  apply BitVec.eq_of_toNat_eq
  rw [countlZero_toNat _ hn, hclz, BitVec.toNat_ofNat, BitVec.toNat_ofNat,
    Nat.mod_eq_of_lt Nat.lt_two_pow_self, Nat.mod_eq_of_lt (by omega)]

/-- Of zero: the width. -/
theorem countrZero_zero (hn : n ≤ 64) : countrZero 0#n = BitVec.ofNat 64 n := by
  have hreverse : (0#n).reverse = 0#n := BitVec.reverse_eq_zero_iff.mpr rfl
  unfold countrZero
  rw [BitVec.ctz_eq_reverse_clz, hreverse]
  exact countlZero_zero hn

/-- The zeros in front of the highest bit, at the operand's own width. -/
theorem highestBit_countlZero (h0 : 0 < n) (hn : n ≤ 64) (hlt : v.toNat < 2 ^ n) (hv : v ≠ 0#64) :
    (countlZero (v.setWidth n)).toNat < n ∧
      HighestBit v (n - 1 - (countlZero (v.setWidth n)).toNat) := by
  have hx := setWidth_ne_zero hlt hv
  have hnat : (v.setWidth n).toNat = v.toNat := by
    rw [BitVec.toNat_setWidth, Nat.mod_eq_of_lt hlt]
  have hupper : v.toNat < 2 ^ (n - (v.setWidth n).clz.toNat) := by
    rw [← hnat]
    exact BitVec.toNat_lt_two_pow_sub_clz
  rw [countlZero_toNat _ hn]
  have hcount : (v.setWidth n).clz.toNat < n := by
    -- with `n` zeros in front the number would be below `2 ^ 0`
    refine Nat.lt_of_le_of_ne (clz_toNat_le _) fun hall => hv ?_
    rw [hall, Nat.sub_self] at hupper
    exact BitVec.eq_of_toNat_eq (Nat.lt_one_iff.mp hupper)
  refine ⟨hcount, highestBit_iff.mpr ⟨?_, ?_⟩⟩
  · rw [← hnat]
    exact BitVec.two_pow_sub_clz_le_toNat_of_ne_zero h0 hx
  · rwa [show n - 1 - (v.setWidth n).clz.toNat + 1 = n - (v.setWidth n).clz.toNat by omega]

/-- The zeros behind the lowest bit. -/
theorem lowestBit_countrZero (hn : n ≤ 64) (hlt : v.toNat < 2 ^ n) (hv : v ≠ 0#64) :
    (countrZero (v.setWidth n)).toNat < n ∧
      LowestBit v (countrZero (v.setWidth n)).toNat := by
  rw [countrZero_toNat _ hn]
  have hset : (v.setWidth n).getLsbD (v.setWidth n).ctz.toNat = true :=
    BitVec.getLsbD_true_ctz_of_ne_zero (setWidth_ne_zero hlt hv)
  have hcount : (v.setWidth n).ctz.toNat < n := BitVec.lt_of_getLsbD hset
  have hbit : ∀ i < n, (v.setWidth n).getLsbD i = v.getLsbD i := by
    intro i hi
    rw [BitVec.getLsbD_setWidth, decide_eq_true hi, Bool.true_and]
  refine ⟨hcount, by rw [← hbit _ hcount]; exact hset, fun i hi => ?_⟩
  rw [← hbit i (by omega)]
  exact BitVec.getLsbD_false_of_lt_ctz hi

end

/-! ## The runs -/

/-- The run ends with `n` in the destination and the flag `bit` as told. -/
def ScanResult (handler : Handler) (ctx : ExecutionContext) (n : Nat) (bit : U64) (raised : Bool) :
    Prop :=
  ∃ c, handler ctx = .ok () c ∧
    readRegister c.state (ctx.instr.opRegister 0) = BitVec.ofNat 64 n ∧
    flagSet c.state.rflags bit = raised

/-- The run only raises the flag `bit`; every register is as before. -/
def OnlyRaises (handler : Handler) (ctx : ExecutionContext) (bit : U64) : Prop :=
  ∃ rflags, handler ctx = .ok () { ctx with state := setFlags ctx.state rflags } ∧
    flagSet rflags bit = true ∧
    ∀ reg, readRegister (setFlags ctx.state rflags) reg = readRegister ctx.state reg

/-- What the decoder promises of a scan: a general register of the width as
the destination, an `RM` operand as the source. -/
structure ScanDecoded (width : RmWideWidth) (instr : Instruction) : Prop where
  source : RmOperand instr 1 width.operand
  general : (instr.opRegister 0).General
  dest : registerWidth (instr.opRegister 0) = width.bytes

/-- The operand's bytes, either way. -/
theorem RmWideWidth.operand_bytes (width : RmWideWidth) : width.operand.bytes = width.bytes := by
  cases width <;> rfl

/-- The operand has bits, at most 64. -/
theorem RmWideWidth.bits_le (width : RmWideWidth) : 0 < 8 * width.bytes ∧ 8 * width.bytes ≤ 64 := by
  cases width <;> decide

section

variable {width : RmWideWidth} {ctx : ExecutionContext} {x : U64}

/-- A decoded source fits its width. -/
theorem ScanDecoded.lt (h : ScanDecoded width ctx.instr)
    (hread : readOperand ctx 1 width.bytes = some x) : x.toNat < 2 ^ (8 * width.bytes) := by
  have hlt := readOperand_lt h.source (by rw [width.operand_bytes]; exact hread)
  rwa [width.operand_bytes] at hlt

/-- The destination holds the index or count that is written to it. -/
theorem ScanDecoded.readRegister_write (h : ScanDecoded width ctx.instr) (s : CpuState) {n : Nat}
    (hn : n ≤ 64) :
    readRegister (writeRegister s (ctx.instr.opRegister 0) (BitVec.ofNat 64 n) width.bytes)
      (ctx.instr.opRegister 0) = BitVec.ofNat 64 n := by
  rw [readRegister_writeRegister s h.general _ (Or.inr h.dest.symm), h.dest]
  have hnat : (BitVec.ofNat 64 n).toNat = n := by
    rw [BitVec.toNat_ofNat]
    exact Nat.mod_eq_of_lt (by omega)
  have hpow : 2 ^ 16 ≤ 2 ^ (8 * width.bytes) := by
    apply Nat.pow_le_pow_right (by decide)
    cases width <;> decide
  apply BitVec.eq_of_toNat_eq
  rw [truncate_toNat _ (by cases width <;> decide), hnat]
  exact Nat.mod_eq_of_lt (by omega)

/-- A scan that finds a bit. -/
theorem bitScan_nonzero (index : U64 → Nat) (h : ScanDecoded width ctx.instr)
    (hread : readOperand ctx 1 width.bytes = some x) (hx : x ≠ 0#64) (hindex : index x ≤ 64) :
    ScanResult (bitScan index width) ctx (index x) kFlagZF false := by
  have hrun : bitScan index width ctx = .ok () { ctx with
      state := writeRegister (setFlags ctx.state (setFlag ctx.state.rflags kFlagZF false))
        (ctx.instr.opRegister 0) (BitVec.ofNat 64 (index x)) width.bytes } := by
    unfold bitScan
    rw [bind_ok (readOperandChecked_ok_iff.mpr hread), if_neg hx]
    rfl
  refine ⟨_, hrun, h.readRegister_write _ hindex, ?_⟩
  dsimp only
  rw [writeRegister_rflags]
  exact flagSet_setFlag_self (by decide) _ _

/-- A scan of zero: ZF, and the destination stays. -/
theorem bitScan_zero (index : U64 → Nat) (hread : readOperand ctx 1 width.bytes = some 0#64) :
    OnlyRaises (bitScan index width) ctx kFlagZF := by
  refine ⟨setFlag ctx.state.rflags kFlagZF true, ?_, flagSet_setFlag_self (by decide) _ _,
    readRegister_setFlags ctx.state _⟩
  unfold bitScan
  rw [bind_ok (readOperandChecked_ok_iff.mpr hread), if_pos rfl]
  rfl

/-- A count: the number, ZF and CF. -/
theorem countNarrow_result (count : ∀ {n : Nat}, BitVec n → U64) (h : ScanDecoded width ctx.instr)
    (hread : readOperand ctx 1 width.bytes = some x)
    (hcount : (count (x.setWidth (8 * width.bytes))).toNat ≤ 64) :
    ScanResult (countNarrow count width) ctx (count (x.setWidth (8 * width.bytes))).toNat kFlagCF
      (x.setWidth (8 * width.bytes) == 0) := by
  have hrun : countNarrow count width ctx = .ok () { ctx with
      state := setFlags
        (writeRegister ctx.state (ctx.instr.opRegister 0)
          (count (x.setWidth (8 * width.bytes))) width.bytes)
        (setFlag
          (setFlag
            (clearCountFlags (writeRegister ctx.state (ctx.instr.opRegister 0)
              (count (x.setWidth (8 * width.bytes))) width.bytes).rflags)
            kFlagCF (x.setWidth (8 * width.bytes) == 0))
          kFlagZF (count (x.setWidth (8 * width.bytes)) == 0#64)) } := by
    unfold countNarrow
    rw [bind_ok (readOperandChecked_ok_iff.mpr hread)]
    rfl
  -- CF is set for an operand of zero, and the result is written before the flags.
  refine ⟨_, hrun, ?_, ?_⟩
  · show readRegister (setFlags (writeRegister _ _ _ _) _) _ = _
    rw [readRegister_setFlags]
    have hwrite := h.readRegister_write ctx.state hcount
    rwa [BitVec.ofNat_toNat, BitVec.setWidth_eq] at hwrite ⊢
  · show flagSet (setFlag (setFlag _ kFlagCF _) kFlagZF _) kFlagCF = _
    rw [flagSet_setFlag_of_disjoint (by decide), flagSet_setFlag_self (by decide)]

/-- The result of a run is one number. -/
theorem ScanResult.of_eq {handler : Handler} {m n : Nat} {bit : U64} {a b : Bool}
    (h : ScanResult handler ctx m bit a) (hmn : m = n) (hab : a = b) :
    ScanResult handler ctx n bit b := by
  rw [← hmn, ← hab]
  exact h

/-- At every width and for every source that is not zero, `BSR` has the
exponent of the largest power of two in it and `BSF` the lowest set bit; these
are `w - 1 - LZCNT` and `TZCNT`. For zero the scans raise ZF and do nothing
else, and the counts are the width, with CF. -/
theorem bit_scans (hdecoded : ScanDecoded width ctx.instr)
    (hread : readOperand ctx 1 width.bytes = some x) :
    (x ≠ 0#64 → ∃ k j l,
      2 ^ k ≤ x.toNat ∧ x.toNat < 2 ^ (k + 1) ∧
      LowestBit x j ∧
      l < 8 * width.bytes ∧ k = 8 * width.bytes - 1 - l ∧
      ScanResult (handleBsr width) ctx k kFlagZF false ∧
      ScanResult (handleLzcnt width) ctx l kFlagCF false ∧
      ScanResult (handleBsf width) ctx j kFlagZF false ∧
      ScanResult (handleTzcnt width) ctx j kFlagCF false) ∧
    (x = 0#64 →
      OnlyRaises (handleBsr width) ctx kFlagZF ∧
      OnlyRaises (handleBsf width) ctx kFlagZF ∧
      ScanResult (handleLzcnt width) ctx (8 * width.bytes) kFlagCF true ∧
      ScanResult (handleTzcnt width) ctx (8 * width.bytes) kFlagCF true) := by
  have hlt := hdecoded.lt hread
  obtain ⟨hpos, hbits⟩ := width.bits_le
  constructor
  -- A set bit exists: the two counts and the two scans name the same positions.
  · intro hx
    have hnonzero : (x.setWidth (8 * width.bytes) == 0) = false :=
      beq_eq_false_iff_ne.mpr (setWidth_ne_zero hlt hx)
    have habove : ∀ i, 8 * width.bytes - 1 < i → x.getLsbD i = false :=
      fun i hi => getLsbD_high hlt (by omega)
    have hreach : ∃ i < 0 + 8 * width.bytes, x.getLsbD i = true := by
      obtain ⟨i, hi⟩ := exists_bit_of_ne_zero hx
      refine ⟨i, ?_, hi⟩
      by_contra hge
      rw [habove i (by omega)] at hi
      cases hi
    obtain ⟨hl, hhigh⟩ := highestBit_countlZero hpos hbits hlt hx
    obtain ⟨hj, hlow⟩ := lowestBit_countrZero hbits hlt hx
    have hbsr := highestBit_bsrLoop (8 * width.bytes - 1) hx
      (by cases width <;> decide) (by omega) habove
    have hbsf := lowestBit_bsfLoop 0 (by omega) (fun i hi => absurd hi (Nat.not_lt_zero i)) hreach
    obtain ⟨hle, hupper⟩ := highestBit_iff.mp hhigh
    refine ⟨_, _, _, hle, hupper, hlow, hl, rfl, ?_, ?_, ?_, ?_⟩
    · have hindex := hbsr.unique hhigh
      exact (bitScan_nonzero _ hdecoded hread hx (by omega)).of_eq hindex rfl
    · exact (countNarrow_result countlZero hdecoded hread (by omega)).of_eq rfl hnonzero
    · have hindex := hbsf.unique hlow
      exact (bitScan_nonzero _ hdecoded hread hx (by omega)).of_eq hindex rfl
    · exact (countNarrow_result countrZero hdecoded hread (by omega)).of_eq rfl hnonzero
  -- No bit is set: BSF and BSR only raise ZF, and the counts give the operand size.
  · rintro rfl
    have hzero : (0#64).setWidth (8 * width.bytes) = 0#(8 * width.bytes) := BitVec.setWidth_zero _ _
    have hnat : (BitVec.ofNat 64 (8 * width.bytes)).toNat = 8 * width.bytes := by
      rw [BitVec.toNat_ofNat]
      exact Nat.mod_eq_of_lt (by omega)
    have hlzcnt : (countlZero ((0#64).setWidth (8 * width.bytes))).toNat = 8 * width.bytes := by
      rw [hzero, countlZero_zero hbits, hnat]
    have htzcnt : (countrZero ((0#64).setWidth (8 * width.bytes))).toNat = 8 * width.bytes := by
      rw [hzero, countrZero_zero hbits, hnat]
    have hflag : ((0#64).setWidth (8 * width.bytes) == 0) = true := by
      rw [hzero]
      exact beq_self_eq_true _
    refine ⟨bitScan_zero _ hread, bitScan_zero _ hread, ?_, ?_⟩
    · exact (countNarrow_result countlZero hdecoded hread (by omega)).of_eq hlzcnt hflag
    · exact (countNarrow_result countrZero hdecoded hread (by omega)).of_eq htzcnt hflag

end

/-- A scan of EBX into EAX. -/
def scanContext (b : U64) : ExecutionContext where
  state := ({} : CpuState).setGpr 3 b
  memory := {}
  instr := { code := .other 0, length := 3, opRegister := fun i => if i = 0 then .eax else .r32 3 }
  nextRip := 3#64

/-- The register form of the context. -/
theorem scanContext_decoded (b : U64) : ScanDecoded .rm32 (scanContext b).instr where
  source := Or.inr ⟨rfl, trivial, rfl⟩
  general := trivial
  dest := rfl

/-- `BSR` of 0x50 and `BSF` of zero. -/
theorem bit_scans_run :
    ScanResult (handleBsr .rm32) (scanContext 0x50#64) 6 kFlagZF false ∧
      OnlyRaises (handleBsf .rm32) (scanContext 0#64) kFlagZF := by
  constructor
  · obtain ⟨k, j, l, hle, hlt, -, -, -, hbsr, -⟩ :=
      (bit_scans (scanContext_decoded 0x50#64) (x := 0x50#64) (by decide)).1 (by decide)
    -- 64 ≤ 80 < 128
    have hk : HighestBit 0x50#64 k := highestBit_iff.mpr ⟨hle, hlt⟩
    have h6 : HighestBit 0x50#64 6 := highestBit_iff.mpr (by decide)
    exact hbsr.of_eq (hk.unique h6) rfl
  · exact ((bit_scans (scanContext_decoded 0#64) (x := 0#64) (by decide)).2 rfl).2.1

end Seven
