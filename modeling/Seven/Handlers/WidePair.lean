import Seven.Cpu.FlagIntegers
import Seven.Cpu.RegisterCells
import Seven.Handlers.MultiPrecision

/-!
# The double-width accumulator

Multiplication and division work on a number twice as wide as the operand.
It is kept in two registers: the accumulator has the low half and AH, DX, EDX
or RDX the high one. AH and AL are AX, so the pair is one register at the
byte width and two at the others; `pairNat` reads both cases the same way.
-/

namespace Seven

/-- AH, DX, EDX or RDX. -/
def highHalf : RmWidth → Register
  | .rm8 => .ah
  | .rm16 => .dx
  | .rm32 => .edx
  | .rm64 => .rdx

/-- Write the low half, then the high one. -/
def writePair (width : RmWidth) (state : CpuState) (low high : U64) : CpuState :=
  writeRegister (writeRegister state (accumulator width) low width.bytes) (highHalf width) high
    width.bytes

/-- The unsigned number in the pair. -/
def pairNat (width : RmWidth) (state : CpuState) : Nat :=
  (readRegister state (highHalf width)).toNat * 2 ^ (8 * width.bytes) +
    (readRegister state (accumulator width)).toNat

/-- Whether an operand is read as a number or as a two's-complement one. -/
inductive Signedness where
  | unsigned | signed
deriving DecidableEq, Repr

/-- The number an operand of `w` bytes stands for. -/
def Signedness.number : Signedness → Nat → U64 → Int
  | .unsigned, w, v => unsignedAt w v
  | .signed, w, v => signedAt w v

/-- The number in the pair. -/
def Signedness.pair (sign : Signedness) (width : RmWidth) (s : CpuState) : Int :=
  sign.number width.bytes (readRegister s (highHalf width)) * 2 ^ (8 * width.bytes) +
    unsignedAt width.bytes (readRegister s (accumulator width))

/-- What the decoder promises of an `RM` operand: memory, or a general
register of the width. -/
def RmOperand (instr : Instruction) (operandIndex : Nat) (width : RmWidth) : Prop :=
  instr.opKind operandIndex = .memory ∨
    instr.opKind operandIndex = .register ∧ (instr.opRegister operandIndex).General ∧
      registerWidth (instr.opRegister operandIndex) = width.bytes

/-- A one-operand form on RBX at the width, with the pair as given. -/
def pairContext (width : RmWidth) (a d b : U64) : ExecutionContext where
  state := ((({} : CpuState).setGpr 0 a).setGpr 2 d).setGpr 3 b
  memory := {}
  instr := { code := .other 0, length := 3, opRegister := fun _ => width.gpr 3 }
  nextRip := 3#64

/-! ## Registers of a width -/

/-- `AL`, `AX`, `EAX`, `RAX`. -/
theorem accumulator_general (width : RmWidth) : (accumulator width).General := by
  cases width <;> exact trivial

/-- Of the operation's width. -/
theorem accumulator_width (width : RmWidth) : registerWidth (accumulator width) = width.bytes := by
  cases width <;> rfl

/-- `AH`, `DX`, `EDX`, `RDX`. -/
theorem highHalf_general (width : RmWidth) : (highHalf width).General := by
  cases width <;> exact trivial

/-- Of the operation's width. -/
theorem highHalf_width (width : RmWidth) : registerWidth (highHalf width) = width.bytes := by
  cases width <;> rfl

/-- A mask bounds. -/
theorem and_toNat_le (v mask : U64) : (v &&& mask).toNat ≤ mask.toNat := by
  rw [BitVec.toNat_and]
  exact Nat.and_le_right

/-- A general register holds no more than its width. -/
theorem readRegister_lt (s : CpuState) {reg : Register} (hreg : reg.General) :
    (readRegister s reg).toNat < 2 ^ (8 * registerWidth reg) := by
  cases reg with
  | r8 i => exact Nat.lt_succ_of_le (and_toNat_le (s.gpr i) 0xFF#64)
  | r8h i => exact Nat.lt_succ_of_le (and_toNat_le (s.gpr (lowIndex i) >>> 8) 0xFF#64)
  | r16 i => exact Nat.lt_succ_of_le (and_toNat_le (s.gpr i) 0xFFFF#64)
  | r32 i => exact Nat.lt_succ_of_le (and_toNat_le (s.gpr i) 0xFFFFFFFF#64)
  | r64 i => exact (s.gpr i).isLt
  | none | sreg | cr | dr | tr | mm | other => exact hreg.elim

/-- An `RM` operand reads as a value of its width. -/
theorem readOperand_lt {ctx : ExecutionContext} {operandIndex : Nat} {width : RmWidth} {value : U64}
    (hoperand : RmOperand ctx.instr operandIndex width)
    (h : readOperand ctx operandIndex width.bytes = some value) :
    value.toNat < 2 ^ (8 * width.bytes) := by
  unfold readOperand at h
  rcases hoperand with hkind | ⟨hkind, hgeneral, hwidth⟩
  · simp only [hkind] at h
    obtain ⟨bytes, -, rfl⟩ := Option.map_eq_some_iff.mp h
    rw [truncate_toNat _ width.bytes_bounds.2]
    exact Nat.mod_lt _ (Nat.two_pow_pos _)
  · simp only [hkind] at h
    obtain rfl := Option.some.inj h
    rw [← hwidth]
    exact readRegister_lt ctx.state hgeneral

/-! ## Two registers of a width -/

/-- Two registers of one width are the same or have no bit in common. -/
theorem not_overlap_of_ne {reg reg' : Register} (hreg : reg.General) (hreg' : reg'.General)
    (hwidth : registerWidth reg = registerWidth reg') (hne : reg ≠ reg') : ¬ reg.Overlap reg' := by
  rintro ⟨hcell, hlow, hhigh⟩
  apply hne
  -- Registers of one width in one cell are one register, but for the low and the high byte.
  cases reg with
  | r8 i =>
    cases reg' with
    | r8 j => exact congrArg Register.r8 (RegisterCell.gpr.inj hcell)
    | r8h j => exact absurd hhigh (Nat.lt_irrefl 8)
    | none | sreg | cr | dr | tr | mm | other => exact hreg'.elim
    | r16 | r32 | r64 => cases hwidth
  | r8h i =>
    cases reg' with
    | r8 j => exact absurd hlow (Nat.lt_irrefl 8)
    | r8h j =>
      have hindex : lowIndex i = lowIndex j := RegisterCell.gpr.inj hcell
      exact congrArg Register.r8h (Fin.ext (Fin.mk.inj hindex))
    | none | sreg | cr | dr | tr | mm | other => exact hreg'.elim
    | r16 | r32 | r64 => cases hwidth
  | r16 i =>
    cases reg' with
    | r16 j => exact congrArg Register.r16 (RegisterCell.gpr.inj hcell)
    | none | sreg | cr | dr | tr | mm | other => exact hreg'.elim
    | r8 | r8h | r32 | r64 => cases hwidth
  | r32 i =>
    cases reg' with
    | r32 j => exact congrArg Register.r32 (RegisterCell.gpr.inj hcell)
    | none | sreg | cr | dr | tr | mm | other => exact hreg'.elim
    | r8 | r8h | r16 | r64 => cases hwidth
  | r64 i =>
    cases reg' with
    | r64 j => exact congrArg Register.r64 (RegisterCell.gpr.inj hcell)
    | none | sreg | cr | dr | tr | mm | other => exact hreg'.elim
    | r8 | r8h | r16 | r32 => cases hwidth
  | none | sreg | cr | dr | tr | mm | other => exact hreg.elim

/-- A register keeps its value when another one of its width is written. -/
theorem readRegister_writeRegister_ne (s : CpuState) {reg reg' : Register} (hreg : reg.General)
    (hreg' : reg'.General) (hwidth : registerWidth reg = registerWidth reg') (hne : reg ≠ reg')
    (value : U64) {w : Nat} (hw : w = 0 ∨ w = registerWidth reg) :
    readRegister (writeRegister s reg value w) reg' = readRegister s reg' := by
  have hapart := not_overlap_of_ne hreg hreg' hwidth hne
  rcases hw with rfl | rfl
  · exact readRegister_of_not_overlap s value hapart
  · rw [writeRegister_override]
    exact readRegister_of_not_overlap s value hapart

/-! ## The pair -/

section

variable (width : RmWidth) (s : CpuState) (low high : U64)

/-- The high half is not the low one. -/
theorem readRegister_accumulator_of_high (value : U64) :
    readRegister (writeRegister s (highHalf width) value width.bytes) (accumulator width) =
      readRegister s (accumulator width) := by
  have hne : highHalf width ≠ accumulator width := by cases width <;> decide
  exact readRegister_writeRegister_ne s (highHalf_general width) (accumulator_general width)
    ((highHalf_width width).trans (accumulator_width width).symm) hne value
    (Or.inr (highHalf_width width).symm)

/-- The low half reads back. -/
theorem writePair_low :
    readRegister (writePair width s low high) (accumulator width) = truncate low width.bytes := by
  unfold writePair
  rw [readRegister_accumulator_of_high, readRegister_writeRegister _ (accumulator_general width) _
    (Or.inr (accumulator_width width).symm), accumulator_width]

/-- The high half reads back. -/
theorem writePair_high :
    readRegister (writePair width s low high) (highHalf width) = truncate high width.bytes := by
  unfold writePair
  rw [readRegister_writeRegister _ (highHalf_general width) _ (Or.inr (highHalf_width width).symm),
    highHalf_width]

/-- The pair reads back. -/
theorem pairNat_writePair :
    pairNat width (writePair width s low high) =
      unsignedAt width.bytes high * 2 ^ (8 * width.bytes) + unsignedAt width.bytes low := by
  unfold pairNat
  rw [writePair_low, writePair_high, truncate_toNat _ width.bytes_bounds.2,
    truncate_toNat _ width.bytes_bounds.2]
  rfl

/-- AX is the pair of the byte width. -/
theorem pairNat_rm8 : pairNat .rm8 s = (readRegister s .ax).toNat := by
  show ((s.gpr 0 >>> 8) &&& 0xFF#64).toNat * 2 ^ 8 + (s.gpr 0 &&& 0xFF#64).toNat =
    (s.gpr 0 &&& 0xFFFF#64).toNat
  have h8 : ∀ v : U64, (v &&& 0xFF#64).toNat = v.toNat % 2 ^ 8 := by
    intro v
    rw [BitVec.toNat_and]
    exact Nat.and_two_pow_sub_one_eq_mod v.toNat 8
  have h16 : (s.gpr 0 &&& 0xFFFF#64).toNat = (s.gpr 0).toNat % 2 ^ 16 := by
    rw [BitVec.toNat_and]
    exact Nat.and_two_pow_sub_one_eq_mod (s.gpr 0).toNat 16
  rw [h8, h8, h16, BitVec.toNat_ushiftRight, Nat.shiftRight_eq_div_pow]
  omega

end

/-- Two halves put together with a shift. -/
theorem toNat_shiftLeft_or {bits k : Nat} {high low : BitVec bits} (hlow : low.toNat < 2 ^ k)
    (hhigh : high.toNat * 2 ^ k < 2 ^ bits) :
    (high <<< k ||| low).toNat = high.toNat * 2 ^ k + low.toNat := by
  rw [BitVec.toNat_or, BitVec.toNat_shiftLeft, Nat.shiftLeft_eq, Nat.mod_eq_of_lt hhigh,
    ← Nat.shiftLeft_eq, Nat.shiftLeft_add_eq_or_of_lt hlow]

/-! ## The number of a value cut to a width -/

/-- The signed value as a balanced remainder. -/
theorem signedAt_eq_bmod {w : Nat} (h0 : 0 < w) (v : U64) :
    signedAt w v = Int.bmod v.toNat (2 ^ (8 * w)) := by
  have htwice := two_pow_width h0
  unfold signedAt unsignedAt Int.bmod
  rw [← Int.natCast_emod, show ((2 : Int) ^ (8 * w)) = ((2 ^ (8 * w) : Nat) : Int) by norm_cast]
  generalize 2 ^ (8 * w) = m at *
  generalize v.toNat % m = r
  dsimp only
  split <;> split <;> omega

/-- The signed value of the low bits. -/
theorem toInt_setWidth_bytes {w : Nat} (h0 : 0 < w) (v : U64) :
    (v.setWidth (8 * w)).toInt = signedAt w v := by
  rw [BitVec.toInt_setWidth, signedAt_eq_bmod h0]

/-- Truncation does not change it. -/
theorem signedAt_truncate {w : Nat} (hw : w ≤ 8) (v : U64) :
    signedAt w (truncate v w) = signedAt w v := by
  have hunsigned : unsignedAt w (truncate v w) = unsignedAt w v := by
    unfold unsignedAt
    rw [truncate_toNat v hw, Nat.mod_mod]
  unfold signedAt
  rw [hunsigned]

/-- Nor the unsigned one. -/
theorem unsignedAt_truncate {w : Nat} (hw : w ≤ 8) (v : U64) :
    unsignedAt w (truncate v w) = unsignedAt w v := by
  unfold unsignedAt
  rw [truncate_toNat v hw, Nat.mod_mod]

/-- Both are zero together. -/
theorem signedAt_eq_zero_iff {w : Nat} (v : U64) : signedAt w v = 0 ↔ unsignedAt w v = 0 := by
  have hlt := unsignedAt_lt w v
  have hpos := Nat.two_pow_pos (8 * w - 1)
  unfold signedAt
  rw [show ((2 : Int) ^ (8 * w)) = ((2 ^ (8 * w) : Nat) : Int) by norm_cast]
  split <;> omega

/-- It lies between the signed bounds. -/
theorem signedAt_natAbs_le {w : Nat} (h0 : 0 < w) (v : U64) :
    (signedAt w v).natAbs ≤ 2 ^ (8 * w - 1) := by
  have hlt := unsignedAt_lt w v
  have htwice := two_pow_width h0
  unfold signedAt
  rw [show ((2 : Int) ^ (8 * w)) = ((2 ^ (8 * w) : Nat) : Int) by norm_cast]
  split <;> omega

/-- A wide number cut to the width, whatever it was. -/
theorem signedAt_setWidth {bits w : Nat} (h0 : 0 < w) (hw : w ≤ 8) (hbits : 8 * w ≤ bits)
    (q : BitVec bits) :
    signedAt w ((q.setWidth (8 * w)).setWidth 64) = Int.bmod q.toInt (2 ^ (8 * w)) := by
  rw [signedAt_eq_bmod h0, BitVec.toNat_setWidth, BitVec.toNat_setWidth,
    Nat.mod_eq_of_lt (lt_of_lt_of_le (Nat.mod_lt _ (Nat.two_pow_pos _))
      (Nat.pow_le_pow_right (by decide) (by omega : 8 * w ≤ 64))),
    Int.natCast_emod, Int.emod_bmod, BitVec.toInt_eq_toNat_bmod,
    Int.bmod_bmod_of_dvd (Nat.pow_dvd_pow 2 hbits)]

/-- A number that fits is its own remainder. -/
theorem bmod_of_fits {w : Nat} (h0 : 0 < w) {x : Int} (h : ¬ outOfRange w x) :
    Int.bmod x (2 ^ (8 * w)) = x := by
  have htwice := two_pow_width h0
  unfold outOfRange at h
  apply Int.bmod_eq_of_le_mul_two
  · rw [htwice]
    omega
  · rw [htwice]
    omega

/-- A balanced remainder fits. -/
theorem bmod_fits {w : Nat} (h0 : 0 < w) (x : Int) : ¬ outOfRange w (Int.bmod x (2 ^ (8 * w))) := by
  have htwice := two_pow_width h0
  have hpos := Nat.two_pow_pos (8 * w)
  have hle := Int.le_bmod (x := x) hpos
  have hlt := Int.bmod_lt (x := x) hpos
  unfold outOfRange
  rw [htwice] at *
  omega

/-- A number survives the cut exactly when it fits. -/
theorem bmod_eq_self_iff {w : Nat} (h0 : 0 < w) (x : Int) :
    Int.bmod x (2 ^ (8 * w)) = x ↔ ¬ outOfRange w x := by
  constructor
  · intro h
    rw [← h]
    exact bmod_fits h0 x
  · exact bmod_of_fits h0

/-! ## The number in the pair -/

/-- The pair read as an unsigned number. -/
theorem unsigned_pair (width : RmWidth) (s : CpuState) :
    Signedness.unsigned.pair width s = pairNat width s := by
  have hhigh := readRegister_lt s (highHalf_general width)
  have hlow := readRegister_lt s (accumulator_general width)
  rw [highHalf_width] at hhigh
  rw [accumulator_width] at hlow
  unfold Signedness.pair Signedness.number pairNat
  dsimp only
  rw [unsignedAt_of_lt hhigh, unsignedAt_of_lt hlow]
  norm_cast

/-- The signed number is the pair read in two's complement. -/
theorem signed_pair (width : RmWidth) (s : CpuState) :
    Signedness.signed.pair width s = Int.bmod (pairNat width s) (2 ^ (16 * width.bytes)) := by
  have hhigh := readRegister_lt s (highHalf_general width)
  have hlow := readRegister_lt s (accumulator_general width)
  rw [highHalf_width] at hhigh
  rw [accumulator_width] at hlow
  unfold Signedness.pair Signedness.number pairNat Int.bmod
  dsimp only
  unfold signedAt
  rw [unsignedAt_of_lt hhigh, unsignedAt_of_lt hlow]
  generalize (readRegister s (highHalf width)).toNat = high at *
  generalize (readRegister s (accumulator width)).toNat = low at *
  cases width <;> simp only [RmWidth.bytes] at * <;> split_ifs <;> omega

end Seven
