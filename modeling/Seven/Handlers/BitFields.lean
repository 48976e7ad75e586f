import Seven.Handlers.BitScan
import Seven.Handlers.Bmi
import Seven.Handlers.MsrLists

/-!
# Bit fields and shifts without flags

The rest of `bmi.cpp`: the shifts that write no flags, `BEXTR` with its loop
over the field, `BZHI`, and the three instructions on the lowest set bit. All
have a 32-bit and a 64-bit form.

`BEXTR` is written as a loop, `BZHI` with a mask and the shifts with the
shifts of C++. They are three ways to the same field, and `PEXT` with an
interval as its mask is a fourth (`bextr_field`). The shifts without flags
have the results of those with flags (`flagless_shifts`).
-/

namespace Seven

open Seven.Lib

/-- The two sizes of these instructions. -/
inductive VexSize where
  | r32 | r64
deriving DecidableEq, Repr

/-- The operand's width. -/
def VexSize.operand : VexSize → RmWidth
  | .r32 => .rm32
  | .r64 => .rm64

/-- The operand's bytes. -/
def VexSize.bytes (size : VexSize) : Nat := size.operand.bytes

/-- Four or eight. -/
theorem VexSize.bounds (size : VexSize) : 0 < size.bytes ∧ size.bytes ≤ 8 := size.operand.bytes_bounds

/-! ## The computations -/

/-- One pass of `bextr`. -/
def bextrStep (source : U64) (start : Nat) (result : U64) (i : Nat) : U64 :=
  if (source >>> (start + i)) &&& 1#64 ≠ 0#64 then result ||| (1#64 <<< i) else result

/-- `BEXTR`: the bits from `start` on, bit by bit. -/
def bextr (source control : U64) (size : Nat) : U64 :=
  let bits := 8 * size
  let start := (control &&& 0xFF#64).toNat
  let len := ((control >>> 8) &&& 0xFF#64).toNat
  if bits ≤ start then 0#64
  else
    let extractLen := if bits ≤ start + len then bits - start else len
    (List.range extractLen).foldl (bextrStep source start) 0#64

/-- The result of `handle_code_bzhi`. -/
def bzhi (source rawIndex : U64) (size : Nat) : U64 :=
  let bits := 8 * size
  let index := (rawIndex &&& 0xFF#64).toNat
  if index = 0 then 0#64
  else if index < bits then source &&& ((1#64 <<< index) - 1#64)
  else source

/-- The count of `SHLX` and the others. -/
def shiftAmount (size : Nat) (value : U64) : Nat :=
  (value &&& BitVec.ofNat 64 (8 * size - 1)).toNat

/-- `RORX`. -/
def rotateRight (value count : U64) (size : Nat) : U64 :=
  let masked := shiftAmount size count
  if masked = 0 then value else (value >>> masked) ||| (value <<< (8 * size - masked))

/-- `SARX`. -/
def arithmeticShiftRight (value count : U64) (size : Nat) : U64 :=
  let masked := shiftAmount size count
  if masked = 0 then value else (signExtend value size).sshiftRight masked &&& maskForWidth size

/-- `SHLX`. -/
def shiftLeft (value count : U64) (size : Nat) : U64 :=
  (value <<< shiftAmount size count) &&& maskForWidth size

/-- `SHRX`. -/
def shiftRight (value count : U64) (size : Nat) : U64 :=
  (value >>> shiftAmount size count) &&& maskForWidth size

/-! ## The handlers -/

/-- The two sources. -/
def vexSources (size : VexSize) : HandlerM (U64 × U64) := do
  let first ← readOperandChecked 1 size.bytes
  let second ← readOperandChecked 2 size.bytes
  return (first, second)

/-- A result without flags. -/
def vexBinary (compute : U64 → U64 → Nat → U64) (size : VexSize) : Handler := do
  let sources ← vexSources size
  writeOperandChecked 0 (compute sources.1 sources.2 size.bytes) size.bytes

def handlePdep : VexSize → Handler := vexBinary pdep
def handlePext : VexSize → Handler := vexBinary pext
def handleSarx : VexSize → Handler := vexBinary arithmeticShiftRight
def handleShlx : VexSize → Handler := vexBinary shiftLeft
def handleShrx : VexSize → Handler := vexBinary shiftRight

/-- `RORX`, its count an immediate. -/
def handleRorx (size : VexSize) : Handler := do
  let source ← readOperandChecked 1 size.bytes
  let ctx ← get
  writeOperandChecked 0 (rotateRight source ctx.instr.immediate8 size.bytes) size.bytes

/-- `ANDN`. -/
def handleAndn (size : VexSize) : Handler := do
  let sources ← vexSources size
  let result := ~~~sources.1 &&& sources.2
  modifyState fun s => setFlags s (setLogicFlags s.rflags result size.bytes)
  writeOperandChecked 0 result size.bytes

/-- The flags of `handle_code_bzhi`. -/
def bzhiFlags (rflags result : U64) (size index : Nat) : U64 :=
  let r := setFlag rflags kFlagSF (flagSet result (1#64 <<< (8 * size - 1)))
  let r := setFlag r kFlagZF (result == 0#64)
  let r := setFlag r kFlagCF (decide (8 * size ≤ index))
  setFlag (setFlag (setFlag r kFlagOF false) kFlagAF false) kFlagPF false

/-- `BZHI`. -/
def handleBzhi (size : VexSize) : Handler := do
  let sources ← vexSources size
  let result := bzhi sources.1 sources.2 size.bytes
  modifyState fun s =>
    setFlags s (bzhiFlags s.rflags result size.bytes (sources.2 &&& 0xFF#64).toNat)
  writeOperandChecked 0 result size.bytes

/-- The flags of `handle_code_bextr`. -/
def bextrFlags (rflags result : U64) : U64 :=
  let r := setFlag rflags kFlagZF (result == 0#64)
  setFlag (setFlag (setFlag (setFlag (setFlag r kFlagCF false) kFlagOF false) kFlagSF false)
    kFlagAF false) kFlagPF false

/-- `BEXTR`. -/
def handleBextr (size : VexSize) : Handler := do
  let sources ← vexSources size
  let result := bextr sources.1 sources.2 size.bytes
  modifyState fun s => setFlags s (bextrFlags s.rflags result)
  writeOperandChecked 0 result size.bytes

/-- `BLSI`, `BLSR` and `BLSMSK`. -/
inductive LowestBitOp where
  | blsi | blsr | blsmsk
deriving DecidableEq, Repr

/-- The result, ZF and CF of the three. -/
def LowestBitOp.compute (op : LowestBitOp) (source : U64) : U64 × Bool × Bool :=
  match op with
  | .blsi =>
    let result := source &&& (~~~source + 1#64)
    (result, result == 0#64, source != 0#64)
  | .blsr =>
    let result := source &&& (source - 1#64)
    (result, result == 0#64, source == 0#64)
  | .blsmsk => (source ^^^ (source - 1#64), false, source == 0#64)

/-- The flags of `BLSI`, `BLSMSK` and `BLSR`. -/
def lowestBitFlags (rflags : U64) (out : U64 × Bool × Bool) (size : Nat) : U64 :=
  let r := setFlag rflags kFlagSF (flagSet out.1 (1#64 <<< (8 * size - 1)))
  let r := setFlag r kFlagZF out.2.1
  let r := setFlag r kFlagCF out.2.2
  setFlag (setFlag (setFlag r kFlagOF false) kFlagAF false) kFlagPF false

/-- `handle_code_blsi`, `handle_code_blsr` and `handle_code_blsmsk`. -/
def handleLowestBit (op : LowestBitOp) (size : VexSize) : Handler := do
  let source ← readOperandChecked 1 size.bytes
  modifyState fun s => setFlags s (lowestBitFlags s.rflags (op.compute source) size.bytes)
  writeOperandChecked 0 (op.compute source).1 size.bytes

/-! ## Fields -/

section fields

variable {size : VexSize} {source control : U64}

/-- The position of a field, in the low byte of the control. -/
def fieldStart (control : U64) : Nat := (control &&& 0xFF#64).toNat

/-- The length of a field, in the second byte. -/
def fieldLength (control : U64) : Nat := ((control >>> 8) &&& 0xFF#64).toNat

/-- A byte is below 256. -/
theorem low_byte_lt (v : U64) : (v &&& 0xFF#64).toNat < 256 := by
  rw [BitVec.toNat_and]
  exact Nat.lt_of_le_of_lt Nat.and_le_right (by decide)

/-- One turn of `BEXTR`. -/
theorem bextrStep_getLsbD (start : Nat) (result : U64) {i : Nat} (hi : i < 64) (j : Nat) :
    (bextrStep source start result i).getLsbD j =
      (result.getLsbD j || (decide (i = j) && source.getLsbD (start + i))) := by
  unfold bextrStep
  by_cases hbit : source.getLsbD (start + i) = true
  · rw [if_pos ((shift_and_one source (start + i)).mpr hbit), getLsbD_or_shift _ hi, hbit,
      Bool.and_true]
  · rw [if_neg (fun hc => hbit ((shift_and_one source (start + i)).mp hc)),
      Bool.eq_false_iff.mpr hbit, Bool.and_false, Bool.or_false]

/-- After `n` passes the result has the first `n` bits of the field. -/
theorem bextr_passes (start n : Nat) (hn : n ≤ 64) (j : Nat) :
    ((List.range n).foldl (bextrStep source start) 0#64).getLsbD j =
      (decide (j < n) && source.getLsbD (start + j)) := by
  induction n with
  | zero => simp
  | succ n ih =>
    rw [List.range_succ, List.foldl_append, List.foldl_cons, List.foldl_nil,
      bextrStep_getLsbD _ _ (by omega), ih (by omega)]
    rcases Nat.lt_trichotomy j n with hlt | rfl | hgt
    · simp [hlt, Nat.lt_succ_of_lt hlt, Nat.ne_of_gt hlt]
    · simp
    · simp [Nat.not_lt_of_gt hgt, Nat.ne_of_lt hgt, show ¬ j < n + 1 by omega]

/-- A bit of `BEXTR`'s result. -/
theorem bextr_getLsbD (hsource : source.toNat < 2 ^ (8 * size.bytes)) (j : Nat) :
    (bextr source control size.bytes).getLsbD j =
      (decide (j < fieldLength control) && source.getLsbD (fieldStart control + j)) := by
  have hbounds := size.bounds
  have hhigh {i : Nat} (hi : 8 * size.bytes ≤ i) : source.getLsbD i = false := getLsbD_high hsource hi
  unfold bextr
  dsimp only
  rw [show (control &&& 0xFF#64).toNat = fieldStart control from rfl,
    show ((control >>> 8) &&& 0xFF#64).toNat = fieldLength control from rfl]
  by_cases hout : 8 * size.bytes ≤ fieldStart control
  · rw [if_pos hout, hhigh (by omega)]
    simp
  · rw [if_neg hout]
    by_cases hcut : 8 * size.bytes ≤ fieldStart control + fieldLength control
    · rw [if_pos hcut, bextr_passes _ _ (by omega)]
      by_cases hj : j < 8 * size.bytes - fieldStart control
      · rw [decide_eq_true hj, decide_eq_true (by omega : j < fieldLength control)]
      · rw [decide_eq_false hj, hhigh (by omega), Bool.and_false, Bool.and_false]
    · rw [if_neg hcut, bextr_passes _ _ (by omega)]

/-- The number in the field. -/
theorem bextr_toNat (hsource : source.toNat < 2 ^ (8 * size.bytes)) :
    (bextr source control size.bytes).toNat =
      source.toNat / 2 ^ fieldStart control % 2 ^ fieldLength control := by
  apply Nat.eq_of_testBit_eq
  intro j
  rw [BitVec.testBit_toNat, bextr_getLsbD hsource, Nat.testBit_mod_two_pow, Nat.testBit_div_two_pow,
    BitVec.testBit_toNat, Nat.add_comm j]

/-- `BZHI` is a remainder. -/
theorem bzhi_toNat (hsource : source.toNat < 2 ^ (8 * size.bytes)) (rawIndex : U64) :
    (bzhi source rawIndex size.bytes).toNat =
      source.toNat % 2 ^ (rawIndex &&& 0xFF#64).toNat := by
  have hbounds := size.bounds
  unfold bzhi
  dsimp only
  generalize (rawIndex &&& 0xFF#64).toNat = index
  by_cases hzero : index = 0
  · rw [if_pos hzero, hzero, Nat.pow_zero, Nat.mod_one]
    rfl
  · rw [if_neg hzero]
    -- Inside the operand the mask keeps the bits below the index; beyond it nothing is cut off.
    by_cases hin : index < 8 * size.bytes
    · have hpow : 2 ^ index < 2 ^ 64 := Nat.pow_lt_pow_right (by decide) (by omega)
      have hpos : 0 < 2 ^ index := Nat.two_pow_pos index
      have hmask : ((1#64 <<< index) - 1#64).toNat = 2 ^ index - 1 := by
        have hone : (1#64 <<< index).toNat = 2 ^ index := by
          rw [BitVec.toNat_shiftLeft, BitVec.toNat_ofNat, Nat.one_mod_eq_one.mpr (by decide),
            Nat.one_shiftLeft, Nat.mod_eq_of_lt hpow]
        rw [BitVec.toNat_sub_of_le]
        · rw [hone]
          rfl
        · rw [BitVec.le_def, hone]
          exact hpos
      rw [if_pos hin, BitVec.toNat_and, hmask, Nat.and_two_pow_sub_one_eq_mod]
    · rw [if_neg hin, Nat.mod_eq_of_lt]
      exact Nat.lt_of_lt_of_le hsource (Nat.pow_le_pow_right (by decide) (by omega))

/-- The mask of a field. -/
def fieldMask (start len : Nat) : U64 := BitVec.ofNat 64 ((2 ^ len - 1) * 2 ^ start)

/-- A bit of a field's mask. -/
theorem fieldMask_getLsbD (start len : Nat) {i : Nat} (hi : i < 64) :
    (fieldMask start len).getLsbD i = decide (start ≤ i ∧ i < start + len) := by
  unfold fieldMask
  rw [BitVec.getLsbD_ofNat, decide_eq_true hi, Bool.true_and, Nat.testBit_mul_two_pow,
    Nat.testBit_two_pow_sub_one, Bool.decide_and]
  by_cases hs : start ≤ i
  · rw [decide_eq_true hs, Bool.true_and, Bool.true_and, decide_eq_decide]
    omega
  · rw [decide_eq_false hs, Bool.false_and, Bool.false_and]

/-- The mask of the control's field, as an operand of the size holds it. -/
def controlMask (size : VexSize) (control : U64) : U64 :=
  truncate (fieldMask (fieldStart control) (fieldLength control)) size.bytes

/-- A bit of the mask the control names. -/
theorem controlMask_getLsbD {i : Nat} (hi : i < 8 * size.bytes) :
    (controlMask size control).getLsbD i =
      decide (fieldStart control ≤ i ∧ i < fieldStart control + fieldLength control) := by
  have hbounds := size.bounds
  unfold controlMask truncate
  rw [getLsbD_mask _ hbounds.2 i, decide_eq_true hi, Bool.true_and,
    fieldMask_getLsbD _ _ (by omega)]

/-- `BEXTR` is `PEXT` under that mask. -/
theorem bextr_eq_pext (hsource : source.toNat < 2 ^ (8 * size.bytes)) :
    bextr source control size.bytes = pext source (controlMask size control) size.bytes := by
  have hbounds := size.bounds
  apply BitVec.eq_of_getLsbD_eq
  intro j _
  rw [bextr_getLsbD hsource, pext_getLsbD _ _ hbounds.2,
    gather_interval fun i hi => controlMask_getLsbD hi]
  by_cases hin : fieldStart control + j < 8 * size.bytes
  · rw [decide_eq_true hin, Bool.true_and]
  · rw [getLsbD_high hsource (by omega), Bool.and_false, Bool.and_false, Bool.and_false]

/-- The count is a remainder. -/
theorem shiftAmount_eq (size : VexSize) (count : U64) :
    shiftAmount size.bytes count = count.toNat % (8 * size.bytes) := by
  unfold shiftAmount
  rw [BitVec.toNat_and]
  cases size with
  | r32 => exact Nat.and_two_pow_sub_one_eq_mod count.toNat 5
  | r64 => exact Nat.and_two_pow_sub_one_eq_mod count.toNat 6

/-- `SHRX` is a division. -/
theorem shiftRight_toNat (hsource : source.toNat < 2 ^ (8 * size.bytes)) (count : U64) :
    (shiftRight source count size.bytes).toNat =
      source.toNat / 2 ^ (count.toNat % (8 * size.bytes)) := by
  unfold shiftRight
  rw [and_maskForWidth_toNat _ size.bounds.2, BitVec.toNat_ushiftRight, shiftAmount_eq,
    Nat.shiftRight_eq_div_pow]
  exact Nat.mod_eq_of_lt (Nat.lt_of_le_of_lt (Nat.div_le_self ..) hsource)

end fields

/-! ## Three ways to a field -/

/-- The sources read. -/
theorem vexSources_ok {size : VexSize} {ctx : ExecutionContext} {a b : U64}
    (ha : readOperand ctx 1 size.bytes = some a) (hb : readOperand ctx 2 size.bytes = some b) :
    vexSources size ctx = .ok (a, b) ctx := by
  unfold vexSources
  rw [bind_ok (readOperandChecked_ok_iff.mpr ha), bind_ok (readOperandChecked_ok_iff.mpr hb)]
  rfl

/-- `BEXTR`, its operands read. -/
theorem handleBextr_ok {size : VexSize} {ctx : ExecutionContext} {source control : U64}
    (hsource : readOperand ctx 1 size.bytes = some source)
    (hcontrol : readOperand ctx 2 size.bytes = some control) :
    handleBextr size ctx = writeOperandChecked 0 (bextr source control size.bytes) size.bytes
      { ctx with
        state := setFlags ctx.state
          (bextrFlags ctx.state.rflags (bextr source control size.bytes)) } := by
  unfold handleBextr
  rw [bind_ok (vexSources_ok hsource hcontrol)]
  rfl

/-- `BZHI`, its operands read. -/
theorem handleBzhi_ok {size : VexSize} {ctx : ExecutionContext} {source index : U64}
    (hsource : readOperand ctx 1 size.bytes = some source)
    (hindex : readOperand ctx 2 size.bytes = some index) :
    handleBzhi size ctx = writeOperandChecked 0 (bzhi source index size.bytes) size.bytes
      { ctx with
        state := setFlags ctx.state (bzhiFlags ctx.state.rflags
          (bzhi source index size.bytes) size.bytes (index &&& 0xFF#64).toNat) } := by
  unfold handleBzhi
  rw [bind_ok (vexSources_ok hsource hindex)]
  rfl

/-- A two-operand instruction, its operands read. -/
theorem vexBinary_ok {compute : U64 → U64 → Nat → U64} {size : VexSize} {ctx : ExecutionContext}
    {a b : U64} (ha : readOperand ctx 1 size.bytes = some a)
    (hb : readOperand ctx 2 size.bytes = some b) :
    vexBinary compute size ctx =
      writeOperandChecked 0 (compute a b size.bytes) size.bytes ctx := by
  unfold vexBinary
  rw [bind_ok (vexSources_ok ha hb)]

/-- `SHRX` by the start and `BZHI` at the length cut the field out. -/
theorem bextr_eq_bzhi {size : VexSize} {source control : U64}
    (hsource : source.toNat < 2 ^ (8 * size.bytes)) (hstart : fieldStart control < 8 * size.bytes) :
    bextr source control size.bytes =
      bzhi (shiftRight source (BitVec.ofNat 64 (fieldStart control)) size.bytes)
        (BitVec.ofNat 64 (fieldLength control)) size.bytes := by
  have hbounds := size.bounds
  have hlength : (BitVec.ofNat 64 (fieldLength control) &&& 0xFF#64).toNat = fieldLength control := by
    have hbyte := low_byte_lt (control >>> 8)
    rw [BitVec.toNat_and, BitVec.toNat_ofNat, Nat.mod_eq_of_lt (by unfold fieldLength; omega)]
    exact (Nat.and_two_pow_sub_one_eq_mod _ 8).trans (Nat.mod_eq_of_lt hbyte)
  have hshift : (shiftRight source (BitVec.ofNat 64 (fieldStart control)) size.bytes).toNat =
      source.toNat / 2 ^ fieldStart control := by
    rw [shiftRight_toNat hsource, BitVec.toNat_ofNat, Nat.mod_eq_of_lt (by omega : _ < 2 ^ 64),
      Nat.mod_eq_of_lt hstart]
  apply BitVec.eq_of_toNat_eq
  rw [bextr_toNat hsource, bzhi_toNat, hlength, hshift]
  rw [hshift]
  exact Nat.lt_of_le_of_lt (Nat.div_le_self ..) hsource

/-- `PEXT` of the source under the field's mask has the field as its result. -/
def PextReads (size : VexSize) (source control field : U64) : Prop :=
  ∀ ctx : ExecutionContext, readOperand ctx 1 size.bytes = some source →
    readOperand ctx 2 size.bytes = some (controlMask size control) →
    handlePext size ctx = writeOperandChecked 0 field size.bytes ctx

/-- `SHRX` of the source by the start has a result of which `BZHI` at the
length leaves the field. -/
def ShrxBzhiReads (size : VexSize) (source control field : U64) : Prop :=
  ∃ shifted,
    (∀ ctx : ExecutionContext, readOperand ctx 1 size.bytes = some source →
      readOperand ctx 2 size.bytes = some (BitVec.ofNat 64 (fieldStart control)) →
      handleShrx size ctx = writeOperandChecked 0 shifted size.bytes ctx) ∧
    ∀ ctx : ExecutionContext, readOperand ctx 1 size.bytes = some shifted →
      readOperand ctx 2 size.bytes = some (BitVec.ofNat 64 (fieldLength control)) →
      ∃ flags, handleBzhi size ctx =
        writeOperandChecked 0 field size.bytes { ctx with state := setFlags ctx.state flags }

/-- **`BEXTR` reads a field.** For every control word, also with a start or an
end beyond the operand, the loop leaves the number in the field; so does `PEXT`
with the field's mask and, for a start inside the operand, `SHRX` by the start
and then `BZHI` at the length. -/
theorem bextr_field (size : VexSize) {ctx : ExecutionContext} {source control : U64}
    (hoperand : RmOperand ctx.instr 1 size.operand)
    (hsource : readOperand ctx 1 size.bytes = some source)
    (hcontrol : readOperand ctx 2 size.bytes = some control) :
    ∃ field, handleBextr size ctx = writeOperandChecked 0 field size.bytes
        { ctx with state := setFlags ctx.state (bextrFlags ctx.state.rflags field) } ∧
      field.toNat = source.toNat / 2 ^ fieldStart control % 2 ^ fieldLength control ∧
      PextReads size source control field ∧
      (fieldStart control < 8 * size.bytes → ShrxBzhiReads size source control field) := by
  have hlt : source.toNat < 2 ^ (8 * size.bytes) := readOperand_lt hoperand hsource
  refine ⟨bextr source control size.bytes, handleBextr_ok hsource hcontrol, bextr_toNat hlt,
    ?_, fun hstart => ?_⟩
  · intro later hvalue hmask
    rw [bextr_eq_pext hlt]
    exact vexBinary_ok hvalue hmask
  · refine ⟨_, fun later hvalue hcount => vexBinary_ok hvalue hcount, fun later hvalue hindex => ?_⟩
    rw [bextr_eq_bzhi hlt hstart]
    exact ⟨_, handleBzhi_ok hvalue hindex⟩

/-- The source in RBX and the control or count in RCX. -/
def fieldContext (source control : U64) : ExecutionContext where
  state := (({} : CpuState).setGpr 3 source).setGpr 1 control
  memory := {}
  instr := { code := .other 0, length := 5
             opRegister := fun i => if i = 0 then .rax else if i = 1 then .r64 3 else .rcx }
  nextRip := 5#64

/-- A field that sticks out of the operand, by `BEXTR` and by `PEXT`. -/
theorem bextr_field_high : ∃ field,
    handleBextr .r64 (fieldContext 0xABCD000000000000#64 0x2030#64) =
        writeOperandChecked 0 field 8 { fieldContext 0xABCD000000000000#64 0x2030#64 with
          state := setFlags (fieldContext 0xABCD000000000000#64 0x2030#64).state
            (bextrFlags (fieldContext 0xABCD000000000000#64 0x2030#64).state.rflags field) } ∧
      handlePext .r64 (fieldContext 0xABCD000000000000#64 (controlMask .r64 0x2030#64)) =
        writeOperandChecked 0 field 8
          (fieldContext 0xABCD000000000000#64 (controlMask .r64 0x2030#64)) ∧
      field.toNat = 0xABCD := by
  obtain ⟨field, hrun, hfield, hpext, -⟩ :=
    @bextr_field .r64 (fieldContext 0xABCD000000000000#64 0x2030#64)
      0xABCD000000000000#64 0x2030#64 (Or.inr ⟨rfl, trivial, rfl⟩) rfl rfl
  exact ⟨field, hrun, hpext _ rfl rfl, hfield.trans (by decide)⟩

/-! ## Shifts without flags -/

/-- `SHLX`, `SHRX`, `SARX` and `RORX`. -/
inductive FlaglessShift where
  | shlx | shrx | sarx | rorx
deriving DecidableEq, Repr

/-- The shift with flags that has the same name. -/
def FlaglessShift.plain : FlaglessShift → ShiftOp
  | .shlx => .shl
  | .shrx => .shr
  | .sarx => .sar
  | .rorx => .ror

/-- The value of a shift without flags. -/
def FlaglessShift.compute : FlaglessShift → U64 → U64 → Nat → U64
  | .shlx => shiftLeft
  | .shrx => shiftRight
  | .sarx => arithmeticShiftRight
  | .rorx => rotateRight

/-- Its handler. -/
def FlaglessShift.handler : FlaglessShift → VexSize → Handler
  | .shlx => handleShlx
  | .shrx => handleShrx
  | .sarx => handleSarx
  | .rorx => handleRorx

/-- Where the count comes from. -/
def FlaglessShift.count (op : FlaglessShift) (size : VexSize) (ctx : ExecutionContext) : Option U64 :=
  match op with
  | .rorx => some ctx.instr.immediate8
  | _ => readOperand ctx 2 size.bytes

/-- The count of the shift group is theirs. -/
theorem maskedCount_eq (size : VexSize) (count : U64) :
    maskedCount size.bytes count = shiftAmount size.bytes count := by
  cases size <;> rfl

/-- The value is that of the shift with flags. -/
theorem flagless_compute (op : FlaglessShift) (size : VexSize) {x : U64}
    (hx : x.toNat < 2 ^ (8 * size.bytes)) (count rflags : U64) (writesOf : Bool) :
    truncate (op.compute x count size.bytes) size.bytes =
      (op.plain.compute size.bytes (maskedCount size.bytes count) writesOf rflags x).1 := by
  have hbounds := size.bounds
  have hmask : x &&& maskForWidth size.bytes = x := mask_eq_self hbounds.2 hx
  have hlt : shiftAmount size.bytes count < 8 * size.bytes := by
    rw [shiftAmount_eq]
    exact Nat.mod_lt _ (by omega)
  have hbits : size.bytes * 8 = 8 * size.bytes := Nat.mul_comm ..
  rw [maskedCount_eq]
  by_cases hzero : shiftAmount size.bytes count = 0
  · -- nothing moves
    cases op <;>
      simp [FlaglessShift.compute, FlaglessShift.plain, ShiftOp.compute, shiftLeft, shiftRight,
        arithmeticShiftRight, rotateRight, shiftCompute, rotateCompute, truncate, hzero, hmask]
  · have hpos : 0 < shiftAmount size.bytes count := by omega
    have hcut (v : U64) : truncate (v &&& maskForWidth size.bytes) size.bytes =
        v &&& maskForWidth size.bytes := truncate_truncate v size.bytes
    -- The result of each is that of the shift with flags at the same count.
    cases op with
    | shlx =>
      refine (hcut _).trans (Eq.trans ?_ (shiftCompute_fst .left _ _ rflags x hpos).symm)
      unfold shiftResult
      dsimp only
      rw [hmask, hbits, if_pos hlt]
    | shrx =>
      refine (hcut _).trans (Eq.trans ?_ (shiftCompute_fst .logicalRight _ _ rflags x hpos).symm)
      unfold shiftResult
      dsimp only
      rw [hmask, hbits, if_pos hlt]
      refine mask_eq_self hbounds.2 ?_
      rw [BitVec.toNat_ushiftRight, Nat.shiftRight_eq_div_pow]
      exact Nat.lt_of_le_of_lt (Nat.div_le_self ..) hx
    | sarx =>
      refine Eq.trans ?_ (shiftCompute_fst .arithmeticRight _ _ rflags x hpos).symm
      show truncate (arithmeticShiftRight x count size.bytes) size.bytes = _
      unfold arithmeticShiftRight shiftResult
      dsimp only
      rw [if_neg hzero, hcut, hmask, hbits, if_pos hlt]
    | rorx =>
      refine Eq.trans ?_ (rotateCompute_fst false _ _ writesOf rflags x hpos).symm
      show truncate (rotateRight x count size.bytes) size.bytes = _
      unfold rotateRight rotated
      dsimp only
      rw [if_neg hzero, hbits, Nat.mod_eq_of_lt hlt, if_neg hzero]
      rfl

/-- **The shifts without flags agree with the shifts with flags**: at both
sizes and for every count the destination takes what `SHL`, `SHR`, `SAR` and
`ROR` of the same operand compute, and RFLAGS stay. -/
theorem flagless_shifts (op : FlaglessShift) (size : VexSize) {ctx : ExecutionContext} {x count : U64}
    (hoperand : RmOperand ctx.instr 1 size.operand) (hx : readOperand ctx 1 size.bytes = some x)
    (hcount : op.count size ctx = some count) :
    ∃ result, op.handler size ctx = writeOperandChecked 0 result size.bytes ctx ∧
      (∀ c, op.handler size ctx = .ok () c → c.state.rflags = ctx.state.rflags) ∧
      ∀ rflags writesOf, truncate result size.bytes =
        (op.plain.compute size.bytes (maskedCount size.bytes count) writesOf rflags x).1 := by
  have hlt : x.toNat < 2 ^ (8 * size.bytes) := readOperand_lt hoperand hx
  have hrun : op.handler size ctx =
      writeOperandChecked 0 (op.compute x count size.bytes) size.bytes ctx := by
    cases op with
    | rorx =>
      obtain rfl : ctx.instr.immediate8 = count := Option.some.inj hcount
      exact bind_ok (readOperandChecked_ok_iff.mpr hx)
    | shlx | shrx | sarx => exact vexBinary_ok hx hcount
  refine ⟨op.compute x count size.bytes, hrun, fun c hc => ?_, fun rflags writesOf =>
    flagless_compute op size hlt count rflags writesOf⟩
  rw [hrun] at hc
  rw [of_writeOperandChecked_ok hc, writeOperand_rflags]

/-- `SARX` by a count above the operand's width. -/
theorem flagless_shifts_sarx : ∃ result,
    handleSarx .r64 (fieldContext 0x8000000000000000#64 68#64) =
        writeOperandChecked 0 result 8 (fieldContext 0x8000000000000000#64 68#64) ∧
      truncate result 8 = 0xF800000000000000#64 := by
  obtain ⟨result, hrun, -, hvalue⟩ := @flagless_shifts .sarx .r64
    (fieldContext 0x8000000000000000#64 68#64) 0x8000000000000000#64 68#64
    (Or.inr ⟨rfl, trivial, rfl⟩) rfl rfl
  exact ⟨result, hrun, (hvalue 0#64 false).trans (by decide)⟩

/-! ## The lowest set bit -/

/-- A bit is listed when it is set. -/
theorem mem_setBits_iff {v : U64} {i : Nat} : i ∈ setBits v ↔ v.getLsbD i = true := by
  rw [mem_setBits]
  exact ⟨fun h => h.2, fun h => ⟨BitVec.lt_of_getLsbD h, h⟩⟩

/-- The set bits, ascending. -/
theorem setBits_sorted (v : U64) : (setBits v).Pairwise (· < ·) :=
  List.Pairwise.filter _ List.pairwise_lt_range

section lowest

variable {v : U64} {k : Nat}

/-- The lowest bit by remainders. -/
theorem LowestBit.mod (h : LowestBit v k) : v.toNat % 2 ^ (k + 1) = 2 ^ k := by
  apply Nat.eq_of_testBit_eq
  intro i
  rw [Nat.testBit_mod_two_pow, Nat.testBit_two_pow, BitVec.testBit_toNat]
  rcases Nat.lt_trichotomy i k with hlt | rfl | hgt
  · simp [h.2 i hlt, Nat.ne_of_gt hlt]
  · simp [h.1]
  · simp [show ¬ i < k + 1 by omega, Nat.ne_of_lt hgt]

/-- `BLSR` clears the lowest set bit and no other. -/
theorem LowestBit.blsr (h : LowestBit v k) (i : Nat) :
    (v &&& (v - 1#64)).getLsbD i = (decide (i ≠ k) && v.getLsbD i) := by
  have hmod := h.mod
  have hpow : 2 ^ k < 2 ^ (k + 1) := Nat.pow_lt_pow_right (by decide) (Nat.lt_succ_self k)
  have hpos : 0 < 2 ^ k := Nat.two_pow_pos k
  have hsplit : v.toNat = 2 ^ (k + 1) * (v.toNat / 2 ^ (k + 1)) + 2 ^ k := by
    have hdiv := Nat.div_add_mod v.toNat (2 ^ (k + 1))
    rw [hmod] at hdiv
    exact hdiv.symm
  have hle : 1#64 ≤ v := by
    rw [BitVec.le_def, BitVec.toNat_ofNat]
    -- The bits below the lowest one are set in the predecessor, and it is cleared.
    omega
  have hpred : (v - 1#64).toNat = 2 ^ (k + 1) * (v.toNat / 2 ^ (k + 1)) + (2 ^ k - 1) := by
    rw [BitVec.toNat_sub_of_le hle, BitVec.toNat_ofNat]
    omega
  have hbit : (v - 1#64).getLsbD i = if i < k + 1 then decide (i < k) else v.getLsbD i := by
    rw [← BitVec.testBit_toNat, ← BitVec.testBit_toNat, hpred,
      Nat.testBit_two_pow_mul_add _ (by omega), Nat.testBit_two_pow_sub_one]
    by_cases hi : i < k + 1
    · rw [if_pos hi, if_pos hi]
    · rw [if_neg hi, if_neg hi]
      conv_rhs => rw [hsplit, Nat.testBit_two_pow_mul_add _ hpow, if_neg hi]
  rw [BitVec.getLsbD_and, hbit]
  -- Below the lowest bit, at it and above it.
  rcases Nat.lt_trichotomy i k with hlt | rfl | hgt
  · simp [h.2 i hlt]
  · simp
  · simp [show ¬ i < k + 1 by omega, Nat.ne_of_gt hgt]

/-- The lowest set bit is the first one, and `BLSR` leaves the others. -/
theorem setBits_cons (h : LowestBit v k) : setBits v = k :: setBits (v &&& (v - 1#64)) := by
  have hmem (i : Nat) : i ∈ setBits (v &&& (v - 1#64)) ↔ i ≠ k ∧ i ∈ setBits v := by
    rw [mem_setBits_iff, mem_setBits_iff, h.blsr, Bool.and_eq_true, decide_eq_true_iff]
  have hsorted : (k :: setBits (v &&& (v - 1#64))).Pairwise (· < ·) := by
    refine List.Pairwise.cons (fun i hi => ?_) (setBits_sorted _)
    obtain ⟨hne, hset⟩ := (hmem i).mp hi
    rw [mem_setBits_iff] at hset
    rcases Nat.lt_trichotomy i k with hlt | heq | hgt
    · rw [h.2 i hlt] at hset
      cases hset
    · exact absurd heq hne
    · exact hgt
  refine List.Pairwise.eq_of_mem_iff (setBits_sorted v) hsorted fun i => ?_
  rw [List.mem_cons, hmem, mem_setBits_iff]
  by_cases hi : i = k
  · simp [hi, h.1]
  · simp [hi]

/-- No bit is set in zero alone. -/
theorem setBits_eq_nil_iff : setBits v = [] ↔ v = 0#64 := by
  constructor
  · exact setBits_eq_nil
  · rintro rfl
    decide

end lowest

end Seven
