import Seven.Handlers.MultiPrecision

/-!
# Decimal arithmetic

`DAA`, `DAS`, `AAA` and `AAS` turn the binary sum or difference in AL into
decimal digits, with the help of the half carry and the carry the binary
instruction left. Chained, they are arithmetic in base 100 (packed digits, two
to a byte) or base 10 (one digit to a byte), and the carry from byte to byte
is the CF the adjustment leaves. One byte is a column of the carry chain again.
-/

namespace Seven

open Seven.Lib

/-! ## The adjustments -/

/-- ZF, SF and PF of the adjusted AL. -/
def adjustFlags (rflags al : U64) : U64 :=
  let r := setFlag rflags kFlagZF (al &&& 0xFF#64 == 0#64)
  let r := setFlag r kFlagSF (al &&& 0x80#64 != 0#64)
  setFlag r kFlagPF (evenParity (al &&& 0xFF#64))

/-- `DAA` and `DAS`, which differ in adding or subtracting the correction. -/
def packedAdjust (correct : U64 → U64 → U64) : Handler := modifyState fun s =>
  let oldAl := readRegister s .al
  let oldCf := flagSet s.rflags kFlagCF
  let oldAf := flagSet s.rflags kFlagAF
  let adjust := oldAf || decide (oldAl &&& 0x0F#64 > 9#64)
  let high := oldCf || decide (oldAl > 0x99#64)
  let al := if adjust then correct oldAl 6#64 else oldAl
  let al := if high then correct al 0x60#64 else al
  let r := setFlag (setFlag s.rflags kFlagCF high) kFlagAF adjust
  setFlags (writeRegister s .al al 1) (adjustFlags r al)

/-- `DAA`. -/
def handleDaa : Handler := packedAdjust (· + ·)

/-- `DAS`. -/
def handleDas : Handler := packedAdjust (· - ·)

/-- `AAA` and `AAS`. -/
def unpackedAdjust (correct : U64 → U64 → U64) : Handler := modifyState fun s =>
  let al := readRegister s .al
  let af := flagSet s.rflags kFlagAF
  let carry := af || decide (al &&& 0x0F#64 > 9#64)
  let ah := readRegister s .ah
  let al := if carry then correct al 6#64 else al
  let ah := if carry then correct ah 1#64 else ah
  let al := al &&& 0x0F#64
  let r := setFlag (setFlag s.rflags kFlagAF carry) kFlagCF carry
  setFlags (writeRegister (writeRegister s .al al 1) .ah ah 1) (adjustFlags r al)

/-- `AAA`. -/
def handleAaa : Handler := unpackedAdjust (· + ·)

/-- `AAS`. -/
def handleAas : Handler := unpackedAdjust (· - ·)

/-! ## What they compute -/

/-- The common flags leave CF. -/
theorem adjustFlags_carry (rflags al : U64) :
    flagSet (adjustFlags rflags al) kFlagCF = flagSet rflags kFlagCF := by
  unfold adjustFlags
  rw [flagSet_setFlag_of_disjoint rfl, flagSet_setFlag_of_disjoint rfl,
    flagSet_setFlag_of_disjoint rfl]

/-- AL as a number. -/
def alValue (s : CpuState) : Nat := (readRegister s .al).toNat

/-- `AL` is a byte. -/
theorem alValue_lt (s : CpuState) : alValue s < 256 := by
  show (s.gpr 0 &&& 0xFF#64).toNat < 256
  rw [BitVec.toNat_and]
  exact Nat.lt_of_le_of_lt Nat.and_le_right (by decide)

/-- The low digit. -/
theorem lowDigit_toNat (v : U64) : (v &&& 0x0F#64).toNat = v.toNat % 16 := by
  rw [BitVec.toNat_and]
  exact Nat.and_two_pow_sub_one_eq_mod _ 4

/-- The low digit against nine. -/
theorem lowDigit_gt (v : U64) : decide (v &&& 0x0F#64 > 9#64) = decide (9 < v.toNat % 16) := by
  rw [decide_eq_decide, gt_iff_lt, BitVec.lt_def, lowDigit_toNat]
  rfl

/-- Does the correction of the low digit apply? -/
def correctsLow (s : CpuState) : Bool :=
  flagSet s.rflags kFlagAF || decide (9 < alValue s % 16)

/-- And that of the high digit? -/
def correctsHigh (s : CpuState) : Bool :=
  flagSet s.rflags kFlagCF || decide (0x99 < alValue s)

/-- The correction of one digit, when it applies. -/
def corrected (correct : U64 → U64 → U64) (applies : Bool) (al amount : U64) : U64 :=
  if applies then correct al amount else al

/-- `AL` as the register read. -/
theorem unsignedAt_alValue (s : CpuState) : unsignedAt 1 (readRegister s .al) = alValue s :=
  Nat.mod_eq_of_lt (alValue_lt s)

/-- A byte written to AL is what AL holds. -/
theorem alValue_write (s : CpuState) (rflags value : U64) :
    alValue (setFlags (writeRegister s .al value 1) rflags) = unsignedAt 1 value := by
  have hread := @readRegister_writeRegister s .al trivial value 1 (Or.inr rfl)
  unfold alValue
  show (readRegister (writeRegister s .al value 1) .al).toNat = _
  rw [hread]
  exact truncate_toNat value (by decide)

/-- A write to AH leaves AL. -/
theorem alValue_write_ah (s : CpuState) (rflags value ah : U64) :
    alValue (setFlags (writeRegister (writeRegister s .al value 1) .ah ah 1) rflags) =
      unsignedAt 1 value := by
  rw [← alValue_write s rflags value]
  unfold alValue
  show (((_ &&& ~~~0xFF00#64) ||| ((ah &&& 0xFF#64) <<< 8)) &&& 0xFF#64).toNat = _
  congr 1
  have hhole : ∀ j < 64, (0xFF#64).getLsbD j = true →
      j < 8 ∧ (0xFF00#64).getLsbD j = false := by decide
  apply BitVec.eq_of_getLsbD_eq
  intro j hj
  show _ = (BitVec.getLsbD ((writeRegister s .al value 1).gpr 0 &&& 0xFF#64) j)
  simp only [BitVec.getLsbD_and, BitVec.getLsbD_or, BitVec.getLsbD_shiftLeft, BitVec.getLsbD_not]
  cases hbit : (0xFF#64).getLsbD j with
  | false => rw [Bool.and_false, Bool.and_false]
  | true =>
    obtain ⟨hlt, hclear⟩ := hhole j hj hbit
    rw [hclear, decide_eq_true hlt, decide_eq_true hj]
    simp only [Bool.not_false, Bool.not_true, Bool.and_true, Bool.and_false, Bool.false_and,
      Bool.or_false]
    rfl

/-- What `DAA` and `DAS` leave. -/
theorem packedAdjust_run (correct : U64 → U64 → U64) {ctx ctx' : ExecutionContext}
    (h : packedAdjust correct ctx = .ok () ctx') :
    alValue ctx'.state = unsignedAt 1 (corrected correct (correctsHigh ctx.state)
        (corrected correct (correctsLow ctx.state) (readRegister ctx.state .al) 6#64) 0x60#64) ∧
      carryFlag ctx' = correctsHigh ctx.state := by
  have hlow : (flagSet ctx.state.rflags kFlagAF ||
      decide (readRegister ctx.state .al &&& 0x0F#64 > 9#64)) = correctsLow ctx.state := by
    rw [lowDigit_gt]
    rfl
  have hhigh : (flagSet ctx.state.rflags kFlagCF ||
      decide (readRegister ctx.state .al > 0x99#64)) = correctsHigh ctx.state := rfl
  unfold packedAdjust modifyState at h
  dsimp only at h
  rw [hlow, hhigh] at h
  cases h
  refine ⟨alValue_write _ _ _, ?_⟩
  show flagSet (adjustFlags _ _) kFlagCF = _
  rw [adjustFlags_carry, flagSet_setFlag_of_disjoint rfl, flagSet_setFlag_self (by decide)]

/-- What `AAA` and `AAS` leave. -/
theorem unpackedAdjust_run (correct : U64 → U64 → U64) {ctx ctx' : ExecutionContext}
    (h : unpackedAdjust correct ctx = .ok () ctx') :
    alValue ctx'.state =
        (corrected correct (correctsLow ctx.state) (readRegister ctx.state .al) 6#64).toNat % 16 ∧
      carryFlag ctx' = correctsLow ctx.state := by
  have hlow : (flagSet ctx.state.rflags kFlagAF ||
      decide (readRegister ctx.state .al &&& 0x0F#64 > 9#64)) = correctsLow ctx.state := by
    rw [lowDigit_gt]
    rfl
  unfold unpackedAdjust modifyState at h
  dsimp only at h
  rw [hlow] at h
  cases h
  refine ⟨?_, ?_⟩
  · refine (alValue_write_ah _ _ _ _).trans ?_
    unfold unsignedAt corrected
    rw [lowDigit_toNat]
    exact Nat.mod_eq_of_lt (by omega)
  · show flagSet (adjustFlags _ _) kFlagCF = _
    rw [adjustFlags_carry, flagSet_setFlag_self (by decide)]

/-! ## One byte -/

/-- The binary instruction into AL and the adjustment right after it: `d` is
what AL holds then. Both operands are valid digits. -/
inductive DecimalStep (op : AluOp) (adjust : Handler) (valid : U64 → Prop) :
    DigitStep U64 ExecutionContext
  | mk {form : BinaryForm} {a b : U64} {ctx mid next ctx' : ExecutionContext}
      (hvalid : valid a ∧ valid b) (hwidth : form.width = 1)
      (hal : ctx.instr.opKind 0 = .register ∧ ctx.instr.opRegister 0 = .al)
      (hoperands : binaryOperands form ctx = .ok (a, b) ctx)
      (hbinary : handleBinary op form ctx = .ok () mid)
      (hnext : next.state.gpr = mid.state.gpr ∧ next.state.rflags = mid.state.rflags)
      (hadjust : adjust next = .ok () ctx') :
      DecimalStep op adjust valid a b ctx ctx' (readRegister ctx'.state .al)

/-- AL after the binary instruction, and the two flags with it. -/
structure BinaryLeft (op : AluOp) (a b : U64) (rflags : U64) (next : ExecutionContext) : Prop where
  al : alValue next.state = unsignedAt 1 (aluCompute op 1 rflags a b).1
  flags : next.state.rflags = (aluCompute op 1 rflags a b).2

/-- The addition or subtraction in front of the adjustment. -/
theorem binaryLeft {op : AluOp} {form : BinaryForm} {a b : U64} {ctx mid next : ExecutionContext}
    (hwidth : form.width = 1)
    (hal : ctx.instr.opKind 0 = .register ∧ ctx.instr.opRegister 0 = .al)
    (hoperands : binaryOperands form ctx = .ok (a, b) ctx)
    (hbinary : handleBinary op form ctx = .ok () mid)
    (hnext : next.state.gpr = mid.state.gpr ∧ next.state.rflags = mid.state.rflags) :
    BinaryLeft op a b ctx.state.rflags next := by
  have hstore := of_handleBinary_ok hoperands hbinary
  have hback : ReadsBack form ctx := by
    refine readsBack_register hal.1 ?_ ?_
    · rw [hal.2]
      trivial
    · rw [hal.2, hwidth]
      rfl
  have hread := hback _ _ hstore
  have hinstr : mid.instr = ctx.instr := storeBinary_instr hstore
  have hmid : readRegister mid.state .al = truncate (aluCompute op 1 ctx.state.rflags a b).1 1 := by
    rw [hwidth] at hread
    unfold destination readOperand at hread
    -- AL is the destination of each form, as an operand, a register or the accumulator.
    rw [hinstr] at hread
    cases form with
    | rm form =>
      simp only [hal.1, hal.2] at hread
      exact Option.some.inj hread
    | regRm width =>
      simp only [hal.2] at hread
      exact Option.some.inj hread
    | accImm width =>
      simp only [hal.2] at hread
      exact Option.some.inj hread
  constructor
  · have hsame : readRegister next.state .al = readRegister mid.state .al := by
      show next.state.gpr 0 &&& 0xFF#64 = mid.state.gpr 0 &&& 0xFF#64
      rw [hnext.1]
    unfold alValue
    rw [hsame, hmid]
    exact truncate_toNat _ (by decide)
  · rw [hnext.2, storeBinary_rflags hstore, hwidth]

/-! ## The corrections are decimal -/

/-- The value of a packed byte, two digits. -/
def packedValue (v : U64) : Nat := 10 * (unsignedAt 1 v / 16) + unsignedAt 1 v % 16

/-- Two decimal digits. -/
def PackedBcd (v : U64) : Prop := unsignedAt 1 v % 16 ≤ 9 ∧ unsignedAt 1 v / 16 ≤ 9

/-- One decimal digit. -/
def UnpackedBcd (v : U64) : Prop := unsignedAt 1 v ≤ 9

section

variable {a b c n d : Nat} {low high : Bool}

/-- `DAA`: the low digit is past nine when it carried or reads so, the high
digit when the byte did. -/
theorem packed_sum (ha : a % 16 ≤ 9 ∧ a / 16 ≤ 9) (hb : b % 16 ≤ 9 ∧ b / 16 ≤ 9) (hc : c ≤ 1)
    (hn : n = (a + b + c) % 256)
    (hlow : low = true ↔ 16 ≤ a % 16 + b % 16 + c ∨ 9 < n % 16)
    (hhigh : high = true ↔ 256 ≤ a + b + c ∨ 0x99 < n)
    (hd : d = (n + 6 * low.toNat + 0x60 * high.toNat) % 256) :
    (d % 16 ≤ 9 ∧ d / 16 ≤ 9) ∧ 10 * (d / 16) + d % 16 + 100 * high.toNat =
      10 * (a / 16) + a % 16 + (10 * (b / 16) + b % 16) + c := by
  cases low <;> cases high <;>
    simp only [Bool.false_eq_true, false_iff, true_iff, Bool.toNat_false, Bool.toNat_true] at * <;>
    omega

/-- `DAS`. -/
theorem packed_difference (ha : a % 16 ≤ 9 ∧ a / 16 ≤ 9) (hb : b % 16 ≤ 9 ∧ b / 16 ≤ 9)
    (hc : c ≤ 1) (hn : n = (a + 512 - b - c) % 256)
    (hlow : low = true ↔ a % 16 < b % 16 + c ∨ 9 < n % 16)
    (hhigh : high = true ↔ a < b + c ∨ 0x99 < n)
    (hd : d = (n + 512 - 6 * low.toNat - 0x60 * high.toNat) % 256) :
    (d % 16 ≤ 9 ∧ d / 16 ≤ 9) ∧ 10 * (a / 16) + a % 16 + 100 * high.toNat =
      10 * (d / 16) + d % 16 + (10 * (b / 16) + b % 16) + c := by
  cases low <;> cases high <;>
    simp only [Bool.false_eq_true, false_iff, true_iff, Bool.toNat_false, Bool.toNat_true] at * <;>
    omega

/-- `AAA`. -/
theorem unpacked_sum (ha : a ≤ 9) (hb : b ≤ 9) (hc : c ≤ 1) (hn : n = (a + b + c) % 256)
    (hlow : low = true ↔ 16 ≤ a % 16 + b % 16 + c ∨ 9 < n % 16)
    (hd : d = (n + 6 * low.toNat) % 16) : d ≤ 9 ∧ d + 10 * low.toNat = a + b + c := by
  cases low <;>
    simp only [Bool.false_eq_true, false_iff, true_iff, Bool.toNat_false, Bool.toNat_true] at * <;>
    omega

/-- `AAS`. -/
theorem unpacked_difference (ha : a ≤ 9) (hb : b ≤ 9) (hc : c ≤ 1)
    (hn : n = (a + 512 - b - c) % 256) (hlow : low = true ↔ a % 16 < b % 16 + c ∨ 9 < n % 16)
    (hd : d = (n + 512 - 6 * low.toNat) % 16) : d ≤ 9 ∧ a + 10 * low.toNat = d + b + c := by
  cases low <;>
    simp only [Bool.false_eq_true, false_iff, true_iff, Bool.toNat_false, Bool.toNat_true] at * <;>
    omega

end

/-! ## Corrected AL as a number -/

/-- Both corrections of `DAA`, at the width. -/
theorem unsignedAt_corrected_add (al : U64) (low high : Bool) :
    unsignedAt 1 (corrected (· + ·) high (corrected (· + ·) low al 6#64) 0x60#64) =
      (unsignedAt 1 al + 6 * low.toNat + 0x60 * high.toNat) % 256 := by
  have h6 : unsignedAt 1 6#64 = 6 := rfl
  have h60 : unsignedAt 1 0x60#64 = 0x60 := rfl
  have hlt : unsignedAt 1 al < 256 := unsignedAt_lt 1 al
  unfold corrected
  cases low <;> cases high <;>
    simp only [Bool.false_eq_true, if_true, if_false, Bool.toNat_true, Bool.toNat_false,
      unsignedAt_add _ _ (by omega : 1 ≤ 8), h6, h60] <;>
    omega

/-- Both corrections of `DAS`, at the width. -/
theorem unsignedAt_corrected_sub (al : U64) (low high : Bool) :
    unsignedAt 1 (corrected (· - ·) high (corrected (· - ·) low al 6#64) 0x60#64) =
      (unsignedAt 1 al + 512 - 6 * low.toNat - 0x60 * high.toNat) % 256 := by
  have h6 : unsignedAt 1 6#64 = 6 := rfl
  have h60 : unsignedAt 1 0x60#64 = 0x60 := rfl
  have hlt : unsignedAt 1 al < 256 := unsignedAt_lt 1 al
  unfold corrected
  cases low <;> cases high <;>
    simp only [Bool.false_eq_true, if_true, if_false, Bool.toNat_true, Bool.toNat_false,
      unsignedAt_sub _ _ (by omega : 1 ≤ 8), h6, h60] <;>
    omega

/-- The low digit behind `DAA`'s first correction. -/
theorem lowDigit_corrected_add (al : U64) (low : Bool) :
    (corrected (· + ·) low al 6#64).toNat % 16 = (unsignedAt 1 al + 6 * low.toNat) % 16 := by
  unfold corrected unsignedAt
  cases low with
  | false =>
    simp only [Bool.false_eq_true, if_false, Bool.toNat_false]
    omega
  | true =>
    simp only [if_true, Bool.toNat_true, BitVec.toNat_add, BitVec.toNat_ofNat]
    omega

/-- The low digit behind `DAS`'s first correction. -/
theorem lowDigit_corrected_sub (al : U64) (low : Bool) :
    (corrected (· - ·) low al 6#64).toNat % 16 =
      (unsignedAt 1 al + 512 - 6 * low.toNat) % 16 := by
  unfold corrected unsignedAt
  cases low with
  | false =>
    simp only [Bool.false_eq_true, if_false, Bool.toNat_false]
    omega
  | true =>
    simp only [if_true, Bool.toNat_true, BitVec.toNat_sub, BitVec.toNat_ofNat]
    omega

/-! ## What the binary instruction leaves for the adjustment -/

/-- AL and the two corrections after a sum of `a`, `b` and a carry `c`. -/
structure SumLeft (a b c : Nat) (s : CpuState) : Prop where
  al : alValue s = (a + b + c) % 256
  low : correctsLow s = true ↔ 16 ≤ a % 16 + b % 16 + c ∨ 9 < alValue s % 16
  high : correctsHigh s = true ↔ 256 ≤ a + b + c ∨ 0x99 < alValue s

/-- AL and the two corrections after a difference. -/
structure DifferenceLeft (a b c : Nat) (s : CpuState) : Prop where
  al : alValue s = (a + 512 - b - c) % 256
  low : correctsLow s = true ↔ a % 16 < b % 16 + c ∨ 9 < alValue s % 16
  high : correctsHigh s = true ↔ a < b + c ∨ 0x99 < alValue s

section

variable {op : AluOp} {a b rflags : U64} {next : ExecutionContext}

/-- `AL`, CF and AF behind an addition. -/
theorem BinaryLeft.sum (hop : op = .add ∨ op = .adc) (h : BinaryLeft op a b rflags next) :
    SumLeft (unsignedAt 1 a) (unsignedAt 1 b) (carryTaken op rflags).toNat next.state := by
  have hexact := aluCompute_add Nat.one_pos (by omega : 1 ≤ 8) rflags a b hop
  have hhalf := aluCompute_add_half Nat.one_pos (by omega : 1 ≤ 8) rflags a b hop
  rw [← h.al, ← h.flags] at hexact
  rw [← h.flags] at hhalf
  have hlt := alValue_lt next.state
  have hc := Bool.toNat_le (flagSet next.state.rflags kFlagCF)
  have hcf : flagSet next.state.rflags kFlagCF = true ↔
      256 ≤ unsignedAt 1 a + unsignedAt 1 b + (carryTaken op rflags).toNat := by
    cases hflag : flagSet next.state.rflags kFlagCF <;>
      simp only [hflag, Bool.toNat_true, Bool.toNat_false, Bool.false_eq_true, false_iff,
        true_iff] at hexact ⊢ <;>
      omega
  refine ⟨by omega, ?_, ?_⟩
  · unfold correctsLow
    rw [hhalf, Bool.or_eq_true, decide_eq_true_iff, decide_eq_true_iff]
  · unfold correctsHigh
    rw [Bool.or_eq_true, hcf, decide_eq_true_iff]

/-- `AL`, CF and AF behind a subtraction. -/
theorem BinaryLeft.difference (hop : op = .sub ∨ op = .sbb) (h : BinaryLeft op a b rflags next) :
    DifferenceLeft (unsignedAt 1 a) (unsignedAt 1 b) (carryTaken op rflags).toNat next.state := by
  have hexact := aluCompute_sub Nat.one_pos (by omega : 1 ≤ 8) rflags a b hop
  have hhalf := aluCompute_sub_half Nat.one_pos (by omega : 1 ≤ 8) rflags a b hop
  rw [← h.al, ← h.flags] at hexact
  rw [← h.flags] at hhalf
  have hlt := alValue_lt next.state
  have ha := unsignedAt_lt 1 a
  have hb := unsignedAt_lt 1 b
  have htaken := Bool.toNat_le (carryTaken op rflags)
  -- The borrow leaves the difference in AL a full byte too large.
  have hcf : flagSet next.state.rflags kFlagCF = true ↔
      unsignedAt 1 a < unsignedAt 1 b + (carryTaken op rflags).toNat := by
    cases hflag : flagSet next.state.rflags kFlagCF <;>
      simp only [hflag, Bool.toNat_true, Bool.toNat_false, Bool.false_eq_true, false_iff,
        true_iff] at hexact ⊢ <;>
      omega
  have hc := Bool.toNat_le (flagSet next.state.rflags kFlagCF)
  refine ⟨by omega, ?_, ?_⟩
  · unfold correctsLow
    rw [hhalf, Bool.or_eq_true, decide_eq_true_iff, decide_eq_true_iff]
  · unfold correctsHigh
    rw [Bool.or_eq_true, hcf, decide_eq_true_iff]

end

/-! ## One byte of a chain -/

section

variable {op : AluOp} {a b d : U64} {ctx ctx' : ExecutionContext}

/-- Two digits are below a hundred. -/
theorem packedValue_lt {v : U64} (h : PackedBcd v) : packedValue v < 100 := by
  unfold PackedBcd packedValue at *
  omega

/-- A column of `DAA` adds. -/
theorem DecimalStep.daa (hop : op = .add ∨ op = .adc)
    (h : DecimalStep op handleDaa PackedBcd a b ctx ctx' d) :
    PackedBcd d ∧ packedValue d + 100 * (carryFlag ctx').toNat =
      packedValue a + packedValue b + (carryTaken op ctx.state.rflags).toNat := by
  cases h with
  | mk hvalid hwidth hal hoperands hbinary hnext hadjust =>
    have hleft := (binaryLeft hwidth hal hoperands hbinary hnext).sum hop
    obtain ⟨hnew, hcf⟩ := packedAdjust_run _ hadjust
    rw [unsignedAt_corrected_add, unsignedAt_alValue] at hnew
    unfold PackedBcd packedValue
    rw [unsignedAt_alValue, hcf]
    exact packed_sum hvalid.1 hvalid.2 (Bool.toNat_le _) hleft.al hleft.low hleft.high hnew

/-- A column of `DAS` subtracts. -/
theorem DecimalStep.das (hop : op = .sub ∨ op = .sbb)
    (h : DecimalStep op handleDas PackedBcd a b ctx ctx' d) :
    PackedBcd d ∧ packedValue a + 100 * (carryFlag ctx').toNat =
      packedValue d + packedValue b + (carryTaken op ctx.state.rflags).toNat := by
  cases h with
  | mk hvalid hwidth hal hoperands hbinary hnext hadjust =>
    have hleft := (binaryLeft hwidth hal hoperands hbinary hnext).difference hop
    obtain ⟨hnew, hcf⟩ := packedAdjust_run _ hadjust
    rw [unsignedAt_corrected_sub, unsignedAt_alValue] at hnew
    unfold PackedBcd packedValue
    rw [unsignedAt_alValue, hcf]
    exact packed_difference hvalid.1 hvalid.2 (Bool.toNat_le _) hleft.al hleft.low hleft.high hnew

/-- A column of `AAA` adds. -/
theorem DecimalStep.aaa (hop : op = .add ∨ op = .adc)
    (h : DecimalStep op handleAaa UnpackedBcd a b ctx ctx' d) :
    UnpackedBcd d ∧ unsignedAt 1 d + 10 * (carryFlag ctx').toNat =
      unsignedAt 1 a + unsignedAt 1 b + (carryTaken op ctx.state.rflags).toNat := by
  cases h with
  | mk hvalid hwidth hal hoperands hbinary hnext hadjust =>
    have hleft := (binaryLeft hwidth hal hoperands hbinary hnext).sum hop
    obtain ⟨hnew, hcf⟩ := unpackedAdjust_run _ hadjust
    rw [lowDigit_corrected_add, unsignedAt_alValue] at hnew
    unfold UnpackedBcd
    rw [unsignedAt_alValue, hcf]
    exact unpacked_sum hvalid.1 hvalid.2 (Bool.toNat_le _) hleft.al hleft.low hnew

/-- A column of `AAS` subtracts. -/
theorem DecimalStep.aas (hop : op = .sub ∨ op = .sbb)
    (h : DecimalStep op handleAas UnpackedBcd a b ctx ctx' d) :
    UnpackedBcd d ∧ unsignedAt 1 a + 10 * (carryFlag ctx').toNat =
      unsignedAt 1 d + unsignedAt 1 b + (carryTaken op ctx.state.rflags).toNat := by
  cases h with
  | mk hvalid hwidth hal hoperands hbinary hnext hadjust =>
    have hleft := (binaryLeft hwidth hal hoperands hbinary hnext).difference hop
    obtain ⟨hnew, hcf⟩ := unpackedAdjust_run _ hadjust
    rw [lowDigit_corrected_sub, unsignedAt_alValue] at hnew
    unfold UnpackedBcd
    rw [unsignedAt_alValue, hcf]
    exact unpacked_difference hvalid.1 hvalid.2 (Bool.toNat_le _) hleft.al hleft.low hnew

end

/-! ## Chains -/

/-- The number of a list of packed bytes, the lowest first. -/
def packedNumber (l : List U64) : Nat := Nat.ofDigits 100 (l.map packedValue)

/-- The number of a list of unpacked digits, the lowest first. -/
def unpackedNumber (l : List U64) : Nat := Nat.ofDigits 10 (l.map (unsignedAt 1))

/-- **Decimal chains.** Byte by byte through AL, each binary instruction
followed by its adjustment, the results are valid digits of the exact decimal
sum or difference, and the last CF is its decimal carry or borrow. -/
theorem decimal_chains (as bs ds : List U64) (cf : Bool) :
    (LongRun (DecimalStep .add handleDaa PackedBcd) (DecimalStep .adc handleDaa PackedBcd)
        carryFlag as bs ds cf →
      (∀ d ∈ ds, PackedBcd d) ∧
        packedNumber ds = (packedNumber as + packedNumber bs) % 100 ^ as.length ∧
        (cf = true ↔ 100 ^ as.length ≤ packedNumber as + packedNumber bs)) ∧
      (LongRun (DecimalStep .sub handleDas PackedBcd) (DecimalStep .sbb handleDas PackedBcd)
          carryFlag as bs ds cf →
        (∀ d ∈ ds, PackedBcd d) ∧
          (packedNumber ds : Int) = (packedNumber as - packedNumber bs) % (100 ^ as.length : Nat) ∧
          (cf = true ↔ packedNumber as < packedNumber bs)) ∧
      (LongRun (DecimalStep .add handleAaa UnpackedBcd) (DecimalStep .adc handleAaa UnpackedBcd)
          carryFlag as bs ds cf →
        (∀ d ∈ ds, UnpackedBcd d) ∧
          unpackedNumber ds = (unpackedNumber as + unpackedNumber bs) % 10 ^ as.length ∧
          (cf = true ↔ 10 ^ as.length ≤ unpackedNumber as + unpackedNumber bs)) ∧
      (LongRun (DecimalStep .sub handleAas UnpackedBcd) (DecimalStep .sbb handleAas UnpackedBcd)
          carryFlag as bs ds cf →
        (∀ d ∈ ds, UnpackedBcd d) ∧
          (unpackedNumber ds : Int) =
            (unpackedNumber as - unpackedNumber bs) % (10 ^ as.length : Nat) ∧
          (cf = true ↔ unpackedNumber as < unpackedNumber bs)) := by
  have hdigit {v : U64} (h : UnpackedBcd v) : unsignedAt 1 v < 10 := Nat.lt_succ_of_le h
  -- The digits stay decimal, and the carries add up along the number.
  refine ⟨fun h => ⟨?_, ?_⟩, fun h => ⟨?_, ?_⟩, fun h => ⟨?_, ?_⟩, fun h => ⟨?_, ?_⟩⟩
  · exact h.results (fun _ _ _ _ _ hs => (hs.daa (Or.inl rfl)).1)
      fun _ _ _ _ _ hs => (hs.daa (Or.inr rfl)).1
  · exact h.sum (by decide)
      (fun _ _ _ _ _ hs => (hs.daa (Or.inl rfl)).imp packedValue_lt id)
      fun _ _ _ _ _ hs => (hs.daa (Or.inr rfl)).imp packedValue_lt id
  · exact h.results (fun _ _ _ _ _ hs => (hs.das (Or.inl rfl)).1)
      fun _ _ _ _ _ hs => (hs.das (Or.inr rfl)).1
  · exact h.difference (by decide)
      (fun _ _ _ _ _ hs => (hs.das (Or.inl rfl)).imp packedValue_lt id)
      fun _ _ _ _ _ hs => (hs.das (Or.inr rfl)).imp packedValue_lt id
  · exact h.results (fun _ _ _ _ _ hs => (hs.aaa (Or.inl rfl)).1)
      fun _ _ _ _ _ hs => (hs.aaa (Or.inr rfl)).1
  · exact h.sum (by decide)
      (fun _ _ _ _ _ hs => (hs.aaa (Or.inl rfl)).imp hdigit id)
      fun _ _ _ _ _ hs => (hs.aaa (Or.inr rfl)).imp hdigit id
  · exact h.results (fun _ _ _ _ _ hs => (hs.aas (Or.inl rfl)).1)
      fun _ _ _ _ _ hs => (hs.aas (Or.inr rfl)).1
  · exact h.difference (by decide)
      (fun _ _ _ _ _ hs => (hs.aas (Or.inl rfl)).imp hdigit id)
      fun _ _ _ _ _ hs => (hs.aas (Or.inr rfl)).imp hdigit id

/-- Every pair of valid bytes can be added or subtracted so. -/
theorem decimalStep_exists (op : AluOp) {adjust : Handler} (hadjust : Total adjust)
    (valid : U64 → Prop) :
    StepExists (DecimalStep op adjust valid) carryFlag
      fun v => valid v ∧ truncate v 1 = v := by
  intro a b cf ha hb
  obtain ⟨mid, _, hstep⟩ := limbStep_registers op .rm8 cf ha.2 hb.2
  obtain ⟨⟨⟩, ctx', hdone⟩ := hadjust mid
  exact ⟨_, ctx', _, limbContext_carry .rm8 cf a b,
    DecimalStep.mk ⟨ha.1, hb.1⟩ rfl ⟨rfl, rfl⟩ hstep.operands hstep.run ⟨rfl, rfl⟩ hdone⟩

/-- 0795 and 0207 in packed digits, with a carry between the bytes. -/
theorem decimal_chains_daa : ∃ (ds : List U64) (cf : Bool),
    LongRun (DecimalStep .add handleDaa PackedBcd) (DecimalStep .adc handleDaa PackedBcd) carryFlag
      [0x95#64, 0x07#64] [0x07#64, 0x02#64] ds cf ∧
    (∀ d ∈ ds, PackedBcd d) ∧ packedNumber ds = 1002 ∧ cf = false := by
  have hdaa : Total handleDaa := by
    unfold handleDaa packedAdjust
    exact modifyState_total _
  have hleft : ∀ v ∈ [0x95#64, 0x07#64], PackedBcd v ∧ truncate v 1 = v := by
    simp [PackedBcd, unsignedAt, truncate, maskForWidth]
  have hright : ∀ v ∈ [0x07#64, 0x02#64], PackedBcd v ∧ truncate v 1 = v := by
    simp [PackedBcd, unsignedAt, truncate, maskForWidth]
  obtain ⟨ds, cf, hrun⟩ := @longRun_exists _ _ _ _ carryFlag [0x95#64, 0x07#64]
    [0x07#64, 0x02#64] _ (decimalStep_exists .add hdaa PackedBcd)
    (decimalStep_exists .adc hdaa PackedBcd) (by decide) rfl hleft hright
  have hsum : packedNumber [0x95#64, 0x07#64] + packedNumber [0x07#64, 0x02#64] = 1002 := by
    decide
  obtain ⟨hdigits, hvalue, hcarry⟩ := (decimal_chains _ _ ds cf).1 hrun
  refine ⟨ds, cf, hrun, hdigits, ?_, ?_⟩
  · rw [hvalue, hsum]
    rfl
  · rw [← Bool.not_eq_true, hcarry, hsum]
    decide

end Seven
