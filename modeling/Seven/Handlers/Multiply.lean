import Seven.Cpu.Checked
import Seven.Handlers.ShiftBits
import Seven.Handlers.WidePair

/-!
# `MUL` and `IMUL`

The one-operand forms multiply by the accumulator and leave the product in
the pair, AX at the byte width. The two- and three-operand forms of `IMUL`
keep only the low half, in a register of their own, and the third operand is
an immediate extended from its own width. All of them multiply in a type wide
enough for the exact product, so that CF and OF can be read off it: they say
that the low half alone is not the product.

Main result: `multiplication_exact`.
-/

namespace Seven

open Seven.Lib

/-! ## The handlers -/

/-- `set_multiply_flags`. ZF and AF are cleared. -/
def setMultiplyFlags (rflags value : U64) (width : Nat) (overflow : Bool) : U64 :=
  let value := truncate value width
  let r := setFlag rflags kFlagCF overflow
  let r := setFlag r kFlagOF overflow
  let r := setFlag r kFlagAF false
  let r := setFlag r kFlagZF false
  let r := setFlag r kFlagSF (flagSet value (signBitForWidth width))
  setFlag r kFlagPF (evenParity value)

/-- A result cast to the operand's unsigned type. -/
def operandCast {bits : Nat} (width : Nat) (value : BitVec bits) : U64 :=
  (value.setWidth (8 * width)).setWidth 64

/-- `handle_code_MUL_RM8`: the product in `AX`. -/
def handleMulRm8 : Handler := do
  let rhs ← readOperandChecked 0 1
  let ctx ← get
  let product := readRegister ctx.state .al * rhs
  let high := (product >>> 8) &&& 0xFF#64
  modifyState fun s =>
    let s := writeRegister s .ax product 2
    setFlags s (setMultiplyFlags s.rflags product 1 (high != 0#64))

/-- `MUL` in an unsigned type of `bits` bits. -/
def mulRm (bits : Nat) (width : RmWidth) : Handler := do
  let rhs ← readOperandChecked 0 width.bytes
  let ctx ← get
  let product := (readRegister ctx.state (accumulator width)).setWidth bits * rhs.setWidth bits
  let high := (product >>> (8 * width.bytes)).setWidth 64
  modifyState fun s =>
    let s := writePair width s (product.setWidth 64) high
    setFlags s (setMultiplyFlags s.rflags (operandCast width.bytes product) width.bytes
      (high != 0#64))

/-- `MUL`, wider forms. -/
def handleMulRm16 : Handler := mulRm 64 .rm16
def handleMulRm32 : Handler := mulRm 64 .rm32
def handleMulRm64 : Handler := mulRm 128 .rm64

/-- The product of two operands cast to their signed type. -/
def imulProduct (bits width : Nat) (lhs rhs : U64) : BitVec bits :=
  (lhs.setWidth (8 * width)).signExtend bits * (rhs.setWidth (8 * width)).signExtend bits

/-- `imul_overflow`: the product is not its own cast. -/
def imulOverflow {bits : Nat} (width : Nat) (product : BitVec bits) : Bool :=
  product != (product.setWidth (8 * width)).signExtend bits

/-- `handle_code_IMUL_RM8`. -/
def handleImulRm8 : Handler := do
  let rhs ← readOperandChecked 0 1
  let ctx ← get
  let product := imulProduct 32 1 (readRegister ctx.state .al) rhs
  modifyState fun s =>
    let s := writeRegister s .ax (operandCast 2 product) 2
    setFlags s (setMultiplyFlags s.rflags (operandCast 1 product) 1 (imulOverflow 1 product))

/-- `IMUL` with one operand, in a signed type of `bits` bits. -/
def imulRm (bits : Nat) (width : RmWidth) : Handler := do
  let w := width.bytes
  let rhs ← readOperandChecked 0 w
  let ctx ← get
  let product := imulProduct bits w (readRegister ctx.state (accumulator width)) rhs
  modifyState fun s =>
    let s := writePair width s (operandCast w product)
      (operandCast w (product.sshiftRight (8 * w)))
    setFlags s (setMultiplyFlags s.rflags (operandCast w product) w (imulOverflow w product))

/-- `IMUL` of one operand, wider forms. -/
def handleImulRm16 : Handler := imulRm 32 .rm16
def handleImulRm32 : Handler := imulRm 64 .rm32
def handleImulRm64 : Handler := imulRm 128 .rm64

/-- `IMUL` of a register by an operand. -/
def imulRegRm (bits width : Nat) : Handler := do
  let ctx ← get
  let lhs := signExtend (readRegister ctx.state (ctx.instr.opRegister 0)) width
  let operand ← readOperandChecked 1 width
  let product := imulProduct bits width lhs (signExtend operand width)
  modifyState fun s =>
    let s := writeRegister s (ctx.instr.opRegister 0) (operandCast width product) width
    setFlags s (setMultiplyFlags s.rflags (operandCast width product) width
      (imulOverflow width product))

/-- `IMUL` of two operands. -/
def handleImulR16Rm16 : Handler := imulRegRm 32 2
def handleImulR32Rm32 : Handler := imulRegRm 64 4
def handleImulR64Rm64 : Handler := imulRegRm 128 8

/-- `imul_reg_rm_imm`. -/
def imulRegRmImm (bits width immWidth : Nat) : Handler := do
  let operand ← readOperandChecked 1 width
  let ctx ← get
  let imm := signExtend (immediateValue ctx.instr 2) immWidth
  let product := imulProduct bits width (signExtend operand width) imm
  let truncated := (product.setWidth (8 * width)).signExtend 64
  modifyState fun s =>
    let s := writeRegister s (ctx.instr.opRegister 0) truncated width
    setFlags s (setMultiplyFlags s.rflags truncated width (imulOverflow width product))

/-- `IMUL` of three operands. -/
def handleImulR16Rm16Imm16 : Handler := imulRegRmImm 32 2 2
def handleImulR16Rm16Imm8 : Handler := imulRegRmImm 32 2 1
def handleImulR32Rm32Imm32 : Handler := imulRegRmImm 64 4 4
def handleImulR32Rm32Imm8 : Handler := imulRegRmImm 64 4 1
def handleImulR64Rm64Imm32 : Handler := imulRegRmImm 128 8 4
def handleImulR64Rm64Imm8 : Handler := imulRegRmImm 128 8 1

/-- The one-operand handlers. -/
def handleMultiply : Signedness → RmWidth → Handler
  | .unsigned, .rm8 => handleMulRm8
  | .unsigned, .rm16 => handleMulRm16
  | .unsigned, .rm32 => handleMulRm32
  | .unsigned, .rm64 => handleMulRm64
  | .signed, .rm8 => handleImulRm8
  | .signed, .rm16 => handleImulRm16
  | .signed, .rm32 => handleImulRm32
  | .signed, .rm64 => handleImulRm64

/-- The forms with a destination of their own: by a register or memory, or
that by an immediate, full or of one byte. -/
inductive ImulForm where
  | regRm (width : RmWideWidth)
  | regRmImm (width : RmWideWidth)
  | regRmImm8 (width : RmWideWidth)
deriving DecidableEq, Repr

/-- The operands' bytes. -/
def ImulForm.width : ImulForm → Nat
  | .regRm width | .regRmImm width | .regRmImm8 width => width.bytes

/-- The handlers of two and three operands. -/
def handleImul : ImulForm → Handler
  | .regRm .rm16 => handleImulR16Rm16
  | .regRm .rm32 => handleImulR32Rm32
  | .regRm .rm64 => handleImulR64Rm64
  | .regRmImm .rm16 => handleImulR16Rm16Imm16
  | .regRmImm .rm32 => handleImulR32Rm32Imm32
  | .regRmImm .rm64 => handleImulR64Rm64Imm32
  | .regRmImm8 .rm16 => handleImulR16Rm16Imm8
  | .regRmImm8 .rm32 => handleImulR32Rm32Imm8
  | .regRmImm8 .rm64 => handleImulR64Rm64Imm8

/-! ## Signed values -/

/-- `sign_extend` is the cast to the signed type of the width and back. -/
theorem signExtend_eq {w : Nat} (h0 : 0 < w) (hw : w ≤ 8) (v : U64) :
    signExtend v w = (v.setWidth (8 * w)).signExtend 64 := by
  have hcut : signExtend v w = signExtend (truncate v w) w := by
    unfold signExtend
    dsimp only
    rw [show truncate v w &&& maskForWidth w = v &&& maskForWidth w from truncate_truncate v w]
  have hlt : (truncate v w).toNat < 2 ^ (8 * w) := by
    rw [truncate_toNat v hw]
    exact Nat.mod_lt _ (Nat.two_pow_pos _)
  have hbit : ∀ i < 8 * w, (truncate v w).getLsbD i = v.getLsbD i := by
    intro i hi
    unfold truncate
    rw [getLsbD_mask v hw i, decide_eq_true hi, Bool.true_and]
  rw [hcut]
  apply BitVec.eq_of_getLsbD_eq
  intro i hi
  rw [getLsbD_signExtend h0 hw hlt hi, BitVec.getLsbD_signExtend, BitVec.getLsbD_setWidth,
    decide_eq_true hi, Bool.true_and]
  -- Below the width the bits are the value's, above it copies of its sign bit.
  by_cases hlow : i < 8 * w
  · rw [if_pos hlow, if_pos hlow, hbit i hlow, decide_eq_true hlow, Bool.true_and]
  · rw [if_neg hlow, if_neg hlow, hbit _ (by omega), BitVec.msb_eq_getLsbD_last,
      BitVec.getLsbD_setWidth, decide_eq_true (by omega), Bool.true_and]

/-- Sign extension is the signed value. -/
theorem signExtend_toInt {w : Nat} (h0 : 0 < w) (hw : w ≤ 8) (v : U64) :
    (signExtend v w).toInt = signedAt w v := by
  rw [signExtend_eq h0 hw, BitVec.toInt_signExtend_of_le (by omega), toInt_setWidth_bytes h0]

/-- A value cut to a width keeps the number of any narrower one it extends. -/
theorem signedAt_signExtend {w v : Nat} (h0 : 0 < v) (hvw : v ≤ w) (hw : w ≤ 8) (x : U64) :
    signedAt w (signExtend x v) = signedAt v x := by
  have hfits : ¬ outOfRange w (signedAt v x) := by
    have hle := bmod_fits h0 (x.toNat : Int)
    have hpow : 2 ^ (8 * v - 1) ≤ 2 ^ (8 * w - 1) := Nat.pow_le_pow_right (by decide) (by omega)
    rw [← signedAt_eq_bmod h0] at hle
    unfold outOfRange at *
    omega
  rw [signedAt_eq_bmod (by omega), ← Int.bmod_bmod_of_dvd (width_pow_dvd hw),
    ← BitVec.toInt_eq_toNat_bmod, signExtend_toInt h0 (by omega), bmod_of_fits (by omega) hfits]

/-! ## The product -/

section

variable {bits w : Nat}

/-- The low part of a product. -/
theorem unsignedAt_operandCast (hw : w ≤ 8) (hbits : 8 * w ≤ bits) (p : BitVec bits) :
    (unsignedAt w (operandCast w p) : Int) = p.toInt % (2 ^ (8 * w) : Nat) := by
  unfold unsignedAt operandCast
  have hlt : p.toNat % 2 ^ (8 * w) < 2 ^ 64 :=
    lt_of_lt_of_le (Nat.mod_lt _ (Nat.two_pow_pos _)) (Nat.pow_le_pow_right (by decide) (by omega))
  have hdvd : ((2 ^ (8 * w) : Nat) : Int) ∣ ((2 ^ bits : Nat) : Int) :=
    Int.natCast_dvd_natCast.mpr (Nat.pow_dvd_pow 2 hbits)
  rw [BitVec.toNat_setWidth, BitVec.toNat_setWidth, Nat.mod_eq_of_lt hlt, Nat.mod_mod,
    Int.natCast_emod, BitVec.toInt_eq_toNat_bmod, ← Int.emod_emod_of_dvd (Int.bmod _ _) hdvd,
    Int.bmod_emod, Int.emod_emod_of_dvd _ hdvd]

/-- The wide type holds the exact product of two signed operands. -/
theorem imulProduct_toInt (h0 : 0 < w) (hw : w ≤ 8) (hbits : 16 * w ≤ bits) (lhs rhs : U64) :
    (imulProduct bits w lhs rhs).toInt = signedAt w lhs * signedAt w rhs := by
  have hcast : ∀ v : U64, ((v.setWidth (8 * w)).signExtend bits).toInt = signedAt w v := by
    intro v
    rw [BitVec.toInt_signExtend_of_le (by omega), toInt_setWidth_bytes h0]
  have hl := signedAt_natAbs_le h0 lhs
  have hr := signedAt_natAbs_le h0 rhs
  have hprod : (signedAt w lhs * signedAt w rhs).natAbs ≤ 2 ^ (16 * w - 2) := by
    rw [Int.natAbs_mul, show 16 * w - 2 = (8 * w - 1) + (8 * w - 1) by omega, Nat.pow_add]
    exact Nat.mul_le_mul hl hr
  have hlt : 2 ^ (16 * w - 2) < 2 ^ (bits - 1) := Nat.pow_lt_pow_right (by decide) (by omega)
  have htwice : 2 ^ bits = 2 * 2 ^ (bits - 1) := by
    rw [← Nat.pow_succ']
    congr 1
    omega
  unfold imulProduct
  rw [BitVec.toInt_mul, hcast, hcast]
  apply Int.bmod_eq_of_le_mul_two <;> omega

/-- The machine's overflow test. -/
theorem imulOverflow_iff (h0 : 0 < w) (hbits : 8 * w ≤ bits) (p : BitVec bits) :
    imulOverflow w p = true ↔ outOfRange w p.toInt := by
  have hcast : ((p.setWidth (8 * w)).signExtend bits).toInt = Int.bmod p.toInt (2 ^ (8 * w)) := by
    rw [BitVec.toInt_signExtend_of_le hbits, BitVec.toInt_setWidth, BitVec.toInt_eq_toNat_bmod,
      Int.bmod_bmod_of_dvd (Nat.pow_dvd_pow 2 hbits)]
  unfold imulOverflow
  rw [bne_iff_ne, ne_eq, ← BitVec.toInt_inj, hcast, ← not_iff_not, not_not,
    ← bmod_eq_self_iff h0, eq_comm]

end

/-! ## The flags -/

/-- CF of a product. -/
theorem setMultiplyFlags_carry (rflags value : U64) (w : Nat) (overflow : Bool) :
    flagSet (setMultiplyFlags rflags value w overflow) kFlagCF = overflow := by
  unfold setMultiplyFlags
  dsimp only
  rw [flagSet_setFlag_of_disjoint (by decide), flagSet_setFlag_of_disjoint (by decide),
    flagSet_setFlag_of_disjoint (by decide), flagSet_setFlag_of_disjoint (by decide),
    flagSet_setFlag_of_disjoint (by decide), flagSet_setFlag_self (by decide)]

/-- OF of a product. -/
theorem setMultiplyFlags_overflow (rflags value : U64) (w : Nat) (overflow : Bool) :
    flagSet (setMultiplyFlags rflags value w overflow) kFlagOF = overflow := by
  unfold setMultiplyFlags
  dsimp only
  rw [flagSet_setFlag_of_disjoint (by decide), flagSet_setFlag_of_disjoint (by decide),
    flagSet_setFlag_of_disjoint (by decide), flagSet_setFlag_of_disjoint (by decide),
    flagSet_setFlag_self (by decide)]

/-! ## What a multiplication leaves -/

/-- The high half only extends the low one. -/
def Signedness.Extends : Signedness → Nat → U64 → U64 → Prop
  | .unsigned, w, _, high => unsignedAt w high = 0
  | .signed, w, low, high => signedAt w high = if signedAt w low < 0 then -1 else 0

/-- The product in the pair, and CF and OF when the low half is not all of it. -/
structure WideProduct (sign : Signedness) (width : RmWidth) (s : CpuState) (product : Int) : Prop where
  pair : sign.pair width s = product
  carry : flagSet s.rflags kFlagCF = true ↔
    ¬ sign.Extends width.bytes (readRegister s (accumulator width)) (readRegister s (highHalf width))
  overflow : flagSet s.rflags kFlagOF = true ↔
    ¬ sign.Extends width.bytes (readRegister s (accumulator width)) (readRegister s (highHalf width))

/-- The low half in a register, and CF and OF when the product does not fit. -/
structure LowProduct (w : Nat) (reg : Register) (s : CpuState) (product : Int) : Prop where
  value : (unsignedAt w (readRegister s reg) : Int) = product % (2 ^ (8 * w) : Nat)
  carry : flagSet s.rflags kFlagCF = true ↔ outOfRange w product
  overflow : flagSet s.rflags kFlagOF = true ↔ outOfRange w product

/-- The flags are not a register. -/
theorem readRegister_setFlags (s : CpuState) (rflags : U64) (reg : Register) :
    readRegister (setFlags s rflags) reg = readRegister s reg := by
  cases reg <;> rfl

/-- The high half extends the low one exactly when the pair is the low one's
number. -/
theorem extends_iff (sign : Signedness) (width : RmWidth) (s : CpuState) :
    sign.Extends width.bytes (readRegister s (accumulator width)) (readRegister s (highHalf width)) ↔
      sign.pair width s = sign.number width.bytes (readRegister s (accumulator width)) := by
  obtain ⟨h0, hw⟩ := width.bytes_bounds
  have hpow : (0 : Int) < 2 ^ (8 * width.bytes) := by positivity
  unfold Signedness.pair
  generalize readRegister s (accumulator width) = low
  generalize readRegister s (highHalf width) = high
  have hlow := unsignedAt_lt width.bytes low
  cases sign with
  | unsigned =>
    show unsignedAt width.bytes high = 0 ↔ ((unsignedAt width.bytes high : Nat) : Int) * _ + _ = _
    constructor
    · intro h
      rw [h]
      simp [Signedness.number]
    · intro h
      have hzero : ((unsignedAt width.bytes high : Nat) : Int) * 2 ^ (8 * width.bytes) = 0 := by
        unfold Signedness.number at h
        dsimp only at h
        omega
      rcases Int.mul_eq_zero.mp hzero with h | h
      · omega
      · omega
  | signed =>
    show signedAt width.bytes high = (if signedAt width.bytes low < 0 then -1 else 0) ↔
      signedAt width.bytes high * 2 ^ (8 * width.bytes) + unsignedAt width.bytes low =
        signedAt width.bytes low
    -- the low half is short of its unsigned number by one unit of the high half, or by none
    have hsplit : signedAt width.bytes low = unsignedAt width.bytes low +
        (if signedAt width.bytes low < 0 then -1 else 0) * 2 ^ (8 * width.bytes) := by
      have hcast : ((2 : Int) ^ (8 * width.bytes)) = ((2 ^ (8 * width.bytes) : Nat) : Int) := by
        norm_cast
      have htwice := two_pow_width h0
      unfold signedAt
      rw [hcast]
      by_cases hneg : unsignedAt width.bytes low < 2 ^ (8 * width.bytes - 1)
      · rw [if_pos hneg, if_neg (by omega)]
        omega
      · rw [if_neg hneg, if_pos (by omega)]
        omega
    constructor
    · intro h
      rw [h, Int.add_comm]
      exact hsplit.symm
    · intro h
      have hmul : signedAt width.bytes high * 2 ^ (8 * width.bytes) =
          (if signedAt width.bytes low < 0 then -1 else 0) * 2 ^ (8 * width.bytes) := by omega
      exact Int.eq_of_mul_eq_mul_right hpow.ne' hmul

section

variable {width : RmWidth} {s : CpuState} {value : U64} {exceeds : Bool}

/-- A pair and a flag that says the low half is not all of it. -/
theorem wideProduct_of {sign : Signedness} {product : Int} (hpair : sign.pair width s = product)
    (hexceeds : exceeds = true ↔
      ¬ product = sign.number width.bytes (readRegister s (accumulator width))) :
    WideProduct sign width
      (setFlags s (setMultiplyFlags s.rflags value width.bytes exceeds)) product := by
  have hsame : ∀ reg, readRegister (setFlags s (setMultiplyFlags s.rflags value width.bytes exceeds))
      reg = readRegister s reg := readRegister_setFlags s _
  have hext : exceeds = true ↔ ¬ sign.Extends width.bytes (readRegister s (accumulator width))
      (readRegister s (highHalf width)) := by
    rw [hexceeds, extends_iff, hpair]
  constructor
  · unfold Signedness.pair
    rw [hsame, hsame]
    exact hpair
  · rw [hsame, hsame, ← hext]
    show flagSet (setMultiplyFlags _ _ _ _) kFlagCF = true ↔ _
    rw [setMultiplyFlags_carry]
  · rw [hsame, hsame, ← hext]
    show flagSet (setMultiplyFlags _ _ _ _) kFlagOF = true ↔ _
    rw [setMultiplyFlags_overflow]

/-- The pair and the flags of an unsigned product. -/
theorem wideProduct_unsigned {product : Nat} (hpair : pairNat width s = product)
    (hexceeds : exceeds = true ↔ product / 2 ^ (8 * width.bytes) ≠ 0) :
    WideProduct .unsigned width
      (setFlags s (setMultiplyFlags s.rflags value width.bytes exceeds)) product := by
  have hlow := readRegister_lt s (accumulator_general width)
  rw [accumulator_width] at hlow
  apply wideProduct_of
  · rw [unsigned_pair, hpair]
  · rw [hexceeds]
    show _ ↔ ¬ (product : Int) = ((unsignedAt width.bytes _ : Nat) : Int)
    rw [unsignedAt_of_lt hlow, ← hpair]
    unfold pairNat
    rw [Nat.mul_comm, Nat.mul_add_div (Nat.two_pow_pos _), Nat.div_eq_of_lt hlow]
    have hpos := Nat.two_pow_pos (8 * width.bytes)
    generalize (readRegister s (highHalf width)).toNat = high
    rcases Nat.eq_zero_or_pos high with rfl | hhigh
    · simp
    · have hmul := Nat.mul_pos hpos hhigh
      omega

/-- The pair and the flags of a signed product. -/
theorem wideProduct_signed {product : Int}
    (hpair : Int.bmod (pairNat width s) (2 ^ (16 * width.bytes)) = product)
    (hexceeds : exceeds = true ↔ outOfRange width.bytes product) :
    WideProduct .signed width
      (setFlags s (setMultiplyFlags s.rflags value width.bytes exceeds)) product := by
  obtain ⟨h0, hw⟩ := width.bytes_bounds
  have hlow := readRegister_lt s (accumulator_general width)
  rw [accumulator_width] at hlow
  -- the low half is the product cut to the width
  have hcut : signedAt width.bytes (readRegister s (accumulator width)) =
      Int.bmod product (2 ^ (8 * width.bytes)) := by
    have hdvd : 2 ^ (8 * width.bytes) ∣ 2 ^ (16 * width.bytes) := Nat.pow_dvd_pow 2 (by omega)
    rw [← hpair, Int.bmod_bmod_of_dvd hdvd, signedAt_eq_bmod h0]
    unfold pairNat
    rw [Nat.add_comm, ← Int.emod_bmod, ← Int.emod_bmod (((_ : Nat) : Int)), ← Int.natCast_emod,
      ← Int.natCast_emod, Nat.add_mul_mod_self_right]
  apply wideProduct_of
  · rw [signed_pair, hpair]
  · rw [hexceeds, ← not_iff_not, not_not, ← bmod_eq_self_iff h0]
    show _ ↔ product = signedAt width.bytes _
    rw [hcut, eq_comm]

end

/-! ## One operand -/

section

variable {width : RmWidth} {ctx : ExecutionContext} {src : U64}

/-- A product fits the pair. -/
theorem mul_lt_square {a b w : Nat} (ha : a < 2 ^ (8 * w)) (hb : b < 2 ^ (8 * w)) :
    a * b < 2 ^ (16 * w) := by
  rw [show 16 * w = 8 * w + 8 * w by omega, Nat.pow_add]
  exact Nat.mul_lt_mul'' ha hb

/-- Two halves cut out of a product. -/
theorem pairNat_halves {s : CpuState} {low high : U64} {p : Nat}
    (hlow : unsignedAt width.bytes low = p % 2 ^ (8 * width.bytes))
    (hhigh : unsignedAt width.bytes high = p / 2 ^ (8 * width.bytes) % 2 ^ (8 * width.bytes)) :
    pairNat width (writePair width s low high) = p % 2 ^ (16 * width.bytes) := by
  rw [pairNat_writePair, hlow, hhigh, show 16 * width.bytes = 8 * width.bytes + 8 * width.bytes by
    omega, Nat.pow_add, Nat.mod_mul, Nat.add_comm, Nat.mul_comm (_ / _ % _)]

/-- `AX` as the pair. -/
theorem pairNat_ax (s : CpuState) (value : U64) :
    pairNat .rm8 (writeRegister s .ax value 2) = value.toNat % 2 ^ 16 := by
  rw [pairNat_rm8, @readRegister_writeRegister s .ax trivial value 2 (Or.inr rfl)]
  exact truncate_toNat value (by decide)

/-- The low part of a value. -/
theorem unsignedAt_setWidth {bits w : Nat} (hw : w ≤ 8) (p : BitVec bits) :
    unsignedAt w (p.setWidth 64) = p.toNat % 2 ^ (8 * w) := by
  unfold unsignedAt
  rw [BitVec.toNat_setWidth, Nat.mod_mod_of_dvd _ (width_pow_dvd hw)]

/-- `MUL` of sixteen bits and more. -/
theorem mulRm_product {bits : Nat} (hbits : 16 * width.bytes ≤ bits)
    (hread : readOperand ctx 0 width.bytes = some src)
    (hsrc : src.toNat < 2 ^ (8 * width.bytes)) :
    ∃ ctx', mulRm bits width ctx = .ok () ctx' ∧ WideProduct .unsigned width ctx'.state
      ((readRegister ctx.state (accumulator width)).toNat * src.toNat : Nat) := by
  obtain ⟨h0, hw⟩ := width.bytes_bounds
  have hacc := readRegister_lt ctx.state (accumulator_general width)
  rw [accumulator_width] at hacc
  have hlt := mul_lt_square hacc hsrc
  have hle : 2 ^ (16 * width.bytes) ≤ 2 ^ bits := Nat.pow_le_pow_right (by decide) hbits
  have hle64 : 2 ^ (8 * width.bytes) ≤ 2 ^ 64 := Nat.pow_le_pow_right (by decide) (by omega)
  have hle8 : 2 ^ (8 * width.bytes) ≤ 2 ^ bits := Nat.pow_le_pow_right (by decide) (by omega)
  -- The product is formed in a type wide enough to hold it, so nothing wraps.
  obtain ⟨p, hp⟩ : ∃ p, (readRegister ctx.state (accumulator width)).setWidth bits *
    src.setWidth bits = p := ⟨_, rfl⟩
  have hnat : p.toNat = (readRegister ctx.state (accumulator width)).toNat * src.toNat := by
    rw [← hp, BitVec.toNat_mul, BitVec.toNat_setWidth, BitVec.toNat_setWidth,
      Nat.mod_eq_of_lt (lt_of_lt_of_le hacc hle8), Nat.mod_eq_of_lt (lt_of_lt_of_le hsrc hle8),
      Nat.mod_eq_of_lt (lt_of_lt_of_le hlt hle)]
  have hhigh : ((p >>> (8 * width.bytes)).setWidth 64).toNat =
      p.toNat / 2 ^ (8 * width.bytes) := by
    rw [BitVec.toNat_setWidth, BitVec.toNat_ushiftRight, Nat.shiftRight_eq_div_pow]
    apply Nat.mod_eq_of_lt
    rw [hnat]
    apply lt_of_lt_of_le (Nat.div_lt_of_lt_mul _) hle64
    rw [← Nat.pow_add, show 8 * width.bytes + 8 * width.bytes = 16 * width.bytes by omega]
    exact hlt
  unfold mulRm
  rw [bind_ok (readOperandChecked_ok_iff.mpr hread)]
  refine ⟨_, rfl, ?_⟩
  dsimp only
  rw [hp, ← hnat]
  -- CF and OF are set where the upper half is not zero.
  apply wideProduct_unsigned
  · rw [pairNat_halves (unsignedAt_setWidth hw p) (by unfold unsignedAt; rw [hhigh]),
      Nat.mod_eq_of_lt (by omega)]
  · rw [bne_iff_ne, ne_eq, ← BitVec.toNat_inj, hhigh]
    rfl

/-- `MUL` of a byte. -/
theorem mulRm8_product (hread : readOperand ctx 0 1 = some src) (hsrc : src.toNat < 2 ^ 8) :
    ∃ ctx', handleMulRm8 ctx = .ok () ctx' ∧ WideProduct .unsigned .rm8 ctx'.state
      ((readRegister ctx.state .al).toNat * src.toNat : Nat) := by
  have hacc : (readRegister ctx.state .al).toNat < 2 ^ 8 := readRegister_lt ctx.state trivial
  have hlt : (readRegister ctx.state .al).toNat * src.toNat < 2 ^ 16 :=
    @mul_lt_square _ _ 1 hacc hsrc
  -- The byte form multiplies in 64 bits and writes AX as a whole.
  have hnat : (readRegister ctx.state .al * src).toNat =
      (readRegister ctx.state .al).toNat * src.toNat := by
    rw [BitVec.toNat_mul, Nat.mod_eq_of_lt (by omega)]
  have hhigh : ((readRegister ctx.state .al * src) >>> 8 &&& 0xFF#64).toNat =
      (readRegister ctx.state .al).toNat * src.toNat / 2 ^ 8 := by
    rw [BitVec.toNat_and, BitVec.toNat_ushiftRight, hnat, Nat.shiftRight_eq_div_pow]
    have hmask := Nat.and_two_pow_sub_one_eq_mod
      ((readRegister ctx.state .al).toNat * src.toNat / 2 ^ 8) 8
    exact hmask.trans (Nat.mod_eq_of_lt (by omega))
  unfold handleMulRm8
  rw [bind_ok (readOperandChecked_ok_iff.mpr hread)]
  refine ⟨_, rfl, ?_⟩
  dsimp only
  rw [← hnat] at hlt ⊢
  apply @wideProduct_unsigned .rm8
  · rw [pairNat_ax, Nat.mod_eq_of_lt hlt]
  · rw [bne_iff_ne, ne_eq, ← BitVec.toNat_inj, hhigh, hnat]
    rfl

/-- The bits above a half, with or without the sign in front. -/
theorem operandCast_sshiftRight {bits w : Nat} (hbits : 16 * w ≤ bits) (p : BitVec bits) :
    operandCast w (p.sshiftRight (8 * w)) = operandCast w (p >>> (8 * w)) := by
  unfold operandCast
  congr 1
  apply BitVec.eq_of_getLsbD_eq
  intro i hi
  rw [BitVec.getLsbD_setWidth, BitVec.getLsbD_setWidth, BitVec.getLsbD_sshiftRight,
    BitVec.getLsbD_ushiftRight, decide_eq_false (by omega : ¬ bits ≤ i), if_pos (by omega)]
  rfl

/-- The low part, unsigned. -/
theorem unsignedAt_cast {bits w : Nat} (hw : w ≤ 8) (p : BitVec bits) :
    unsignedAt w (operandCast w p) = p.toNat % 2 ^ (8 * w) := by
  unfold unsignedAt operandCast
  rw [BitVec.toNat_setWidth, BitVec.toNat_setWidth, Nat.mod_mod_of_dvd _ (width_pow_dvd hw),
    Nat.mod_mod]

/-- The double-width number of a product that fits one. -/
theorem bmod_product {bits w : Nat} (h0 : 0 < w) (hw : w ≤ 8) (hbits : 16 * w ≤ bits)
    (lhs rhs : U64) :
    Int.bmod ((imulProduct bits w lhs rhs).toNat % 2 ^ (16 * w) : Nat) (2 ^ (16 * w)) =
      signedAt w lhs * signedAt w rhs := by
  have hexact := imulProduct_toInt h0 hw hbits lhs rhs
  have hsame := imulProduct_toInt h0 hw (Nat.le_refl _) lhs rhs
  rw [Int.natCast_emod, Int.emod_bmod, ← Int.bmod_bmod_of_dvd (Nat.pow_dvd_pow 2 hbits),
    ← BitVec.toInt_eq_toNat_bmod, hexact, ← hsame, BitVec.toInt_bmod_cancel]

/-- `IMUL` of sixteen bits and more. -/
theorem imulRm_product {bits : Nat} (hbits : 16 * width.bytes ≤ bits)
    (hread : readOperand ctx 0 width.bytes = some src) :
    ∃ ctx', imulRm bits width ctx = .ok () ctx' ∧ WideProduct .signed width ctx'.state
      (signedAt width.bytes (readRegister ctx.state (accumulator width)) *
        signedAt width.bytes src) := by
  obtain ⟨h0, hw⟩ := width.bytes_bounds
  have hexact := imulProduct_toInt h0 hw hbits (readRegister ctx.state (accumulator width)) src
  have hwide := bmod_product h0 hw hbits (readRegister ctx.state (accumulator width)) src
  unfold imulRm
  rw [bind_ok (readOperandChecked_ok_iff.mpr hread)]
  refine ⟨_, rfl, ?_⟩
  dsimp only
  generalize imulProduct bits width.bytes (readRegister ctx.state (accumulator width)) src = p at *
  apply wideProduct_signed
  · rw [operandCast_sshiftRight hbits, pairNat_halves (unsignedAt_cast hw p) (by
      rw [unsignedAt_cast hw, BitVec.toNat_ushiftRight, Nat.shiftRight_eq_div_pow]), hwide]
  · rw [imulOverflow_iff h0 (by omega), hexact]

/-- `IMUL` of a byte. -/
theorem imulRm8_product (hread : readOperand ctx 0 1 = some src) :
    ∃ ctx', handleImulRm8 ctx = .ok () ctx' ∧ WideProduct .signed .rm8 ctx'.state
      (signedAt 1 (readRegister ctx.state .al) * signedAt 1 src) := by
  have hexact := @imulProduct_toInt 32 1 (by decide) (by decide) (by decide)
    (readRegister ctx.state .al) src
  have hwide := @bmod_product 32 1 (by decide) (by decide) (by decide)
    (readRegister ctx.state .al) src
  unfold handleImulRm8
  rw [bind_ok (readOperandChecked_ok_iff.mpr hread)]
  refine ⟨_, rfl, ?_⟩
  dsimp only
  generalize imulProduct 32 1 (readRegister ctx.state .al) src = p at *
  have hcast : (operandCast 2 p).toNat % 2 ^ 16 = p.toNat % 2 ^ 16 :=
    unsignedAt_cast (by decide) p
  apply @wideProduct_signed .rm8
  · rw [pairNat_ax, hcast]
    exact hwide
  · rw [imulOverflow_iff (by decide) (by decide), hexact]
    rfl

/-! ## A destination of its own -/

/-- The operands of a form: the register or the immediate on one side, the
`RM` operand on the other. -/
def ImulForm.factor (form : ImulForm) (ctx : ExecutionContext) : Int :=
  match form with
  | .regRm width => signedAt width.bytes (readRegister ctx.state (ctx.instr.opRegister 0))
  | .regRmImm .rm16 => signedAt 2 (immediateValue ctx.instr 2)
  | .regRmImm _ => signedAt 4 (immediateValue ctx.instr 2)
  | .regRmImm8 _ => signedAt 1 (immediateValue ctx.instr 2)

/-- What the decoder promises of the destination of a form. -/
def ImulForm.Destination (form : ImulForm) (instr : Instruction) : Prop :=
  (instr.opRegister 0).General ∧ registerWidth (instr.opRegister 0) = form.width

/-- The destination of a truncated product. -/
theorem lowProduct_of {w : Nat} {s : CpuState} {reg : Register} {value value' : U64} {exceeds : Bool}
    {product : Int} (hgeneral : reg.General) (hreg : registerWidth reg = w) (hw : w ≤ 8)
    (hvalue : (unsignedAt w value : Int) = product % (2 ^ (8 * w) : Nat))
    (hexceeds : exceeds = true ↔ outOfRange w product) :
    LowProduct w reg (setFlags (writeRegister s reg value w)
      (setMultiplyFlags (writeRegister s reg value w).rflags value' w exceeds)) product := by
  constructor
  · rw [readRegister_setFlags, readRegister_writeRegister s hgeneral value (Or.inr hreg.symm), hreg,
      unsignedAt_truncate hw]
    exact hvalue
  · show flagSet (setMultiplyFlags _ _ _ _) kFlagCF = true ↔ _
    rw [setMultiplyFlags_carry, hexceeds]
  · show flagSet (setMultiplyFlags _ _ _ _) kFlagOF = true ↔ _
    rw [setMultiplyFlags_overflow, hexceeds]

/-- `IMUL` of two operands. -/
theorem imulRegRm_product {bits w : Nat} (h0 : 0 < w) (hw : w ≤ 8) (hbits : 16 * w ≤ bits)
    (hgeneral : (ctx.instr.opRegister 0).General)
    (hreg : registerWidth (ctx.instr.opRegister 0) = w) (hread : readOperand ctx 1 w = some src) :
    ∃ ctx', imulRegRm bits w ctx = .ok () ctx' ∧
      LowProduct w (ctx.instr.opRegister 0) ctx'.state
        (signedAt w (readRegister ctx.state (ctx.instr.opRegister 0)) * signedAt w src) := by
  have hexact := imulProduct_toInt h0 hw hbits
    (signExtend (readRegister ctx.state (ctx.instr.opRegister 0)) w) (signExtend src w)
  rw [signedAt_signExtend h0 (Nat.le_refl w) hw, signedAt_signExtend h0 (Nat.le_refl w) hw] at hexact
  have hget : (get : HandlerM ExecutionContext) ctx = .ok ctx ctx := rfl
  unfold imulRegRm
  rw [bind_ok hget, bind_ok (readOperandChecked_ok_iff.mpr hread)]
  refine ⟨_, rfl, ?_⟩
  dsimp only
  generalize imulProduct bits w (signExtend (readRegister ctx.state (ctx.instr.opRegister 0)) w)
    (signExtend src w) = p at *
  apply lowProduct_of hgeneral hreg hw
  · rw [unsignedAt_operandCast hw (by omega), hexact]
  · rw [imulOverflow_iff h0 (by omega), hexact]

/-- The sign in front of a cast is above its width. -/
theorem unsignedAt_signExtend {bits w : Nat} (hw : w ≤ 8) (p : BitVec bits) :
    unsignedAt w ((p.setWidth (8 * w)).signExtend 64) = unsignedAt w (operandCast w p) := by
  have hlow : ((p.setWidth (8 * w)).signExtend 64).setWidth (8 * w) = p.setWidth (8 * w) := by
    apply BitVec.eq_of_getLsbD_eq
    intro i hi
    rw [BitVec.getLsbD_setWidth, BitVec.getLsbD_signExtend, if_pos hi, decide_eq_true hi,
      decide_eq_true (by omega : i < 64), Bool.true_and, Bool.true_and]
  have hnat := congrArg BitVec.toNat hlow
  rw [BitVec.toNat_setWidth, BitVec.toNat_setWidth] at hnat
  rw [unsignedAt_cast hw]
  exact hnat

/-- `IMUL` of three operands. -/
theorem imulRegRmImm_product {bits w v : Nat} (h0 : 0 < v) (hvw : v ≤ w) (hw : w ≤ 8)
    (hbits : 16 * w ≤ bits) (hgeneral : (ctx.instr.opRegister 0).General)
    (hreg : registerWidth (ctx.instr.opRegister 0) = w) (hread : readOperand ctx 1 w = some src) :
    ∃ ctx', imulRegRmImm bits w v ctx = .ok () ctx' ∧
      LowProduct w (ctx.instr.opRegister 0) ctx'.state
        (signedAt v (immediateValue ctx.instr 2) * signedAt w src) := by
  have hpos : 0 < w := by omega
  have hexact := imulProduct_toInt hpos hw hbits (signExtend src w)
    (signExtend (immediateValue ctx.instr 2) v)
  rw [signedAt_signExtend hpos (Nat.le_refl w) hw, signedAt_signExtend h0 hvw hw,
    Int.mul_comm] at hexact
  unfold imulRegRmImm
  rw [bind_ok (readOperandChecked_ok_iff.mpr hread)]
  refine ⟨_, rfl, ?_⟩
  dsimp only
  generalize imulProduct bits w (signExtend src w) (signExtend (immediateValue ctx.instr 2) v) = p at *
  apply lowProduct_of hgeneral hreg hw
  · rw [unsignedAt_signExtend hw, unsignedAt_operandCast hw (by omega), hexact]
  · rw [imulOverflow_iff hpos (by omega), hexact]

/-! ## All forms -/

/-- The one-operand forms, all of them. -/
theorem handleMultiply_product (sign : Signedness) (hoperand : RmOperand ctx.instr 0 width)
    (hread : readOperand ctx 0 width.bytes = some src) :
    ∃ ctx', handleMultiply sign width ctx = .ok () ctx' ∧ WideProduct sign width ctx'.state
      (sign.number width.bytes (readRegister ctx.state (accumulator width)) *
        sign.number width.bytes src) := by
  have hsrc := readOperand_lt hoperand hread
  cases sign with
  | unsigned =>
    have hacc := readRegister_lt ctx.state (accumulator_general width)
    rw [accumulator_width] at hacc
    have hcast : Signedness.unsigned.number width.bytes (readRegister ctx.state (accumulator width)) *
        Signedness.unsigned.number width.bytes src =
        ((readRegister ctx.state (accumulator width)).toNat * src.toNat : Nat) := by
      show ((unsignedAt _ _ : Nat) : Int) * ((unsignedAt _ _ : Nat) : Int) = _
      rw [unsignedAt_of_lt hacc, unsignedAt_of_lt hsrc]
      norm_cast
    rw [hcast]
    -- The byte form has a handler of its own.
    cases width with
    | rm8 => exact mulRm8_product hread hsrc
    | rm16 => exact mulRm_product (by decide) hread hsrc
    | rm32 => exact mulRm_product (by decide) hread hsrc
    | rm64 => exact mulRm_product (by decide) hread hsrc
  | signed =>
    cases width with
    | rm8 => exact imulRm8_product hread
    | rm16 => exact imulRm_product (by decide) hread
    | rm32 => exact imulRm_product (by decide) hread
    | rm64 => exact imulRm_product (by decide) hread

/-- The two- and three-operand forms, all of them. -/
theorem handleImul_product (form : ImulForm) (hdest : form.Destination ctx.instr)
    (hread : readOperand ctx 1 form.width = some src) :
    ∃ ctx', handleImul form ctx = .ok () ctx' ∧
      LowProduct form.width (ctx.instr.opRegister 0) ctx'.state
        (form.factor ctx * signedAt form.width src) := by
  obtain ⟨hgeneral, hreg⟩ := hdest
  cases form with
  | regRm width =>
    cases width <;>
      exact imulRegRm_product (by decide) (by decide) (by decide) hgeneral hreg hread
  | regRmImm width =>
    cases width <;>
      exact imulRegRmImm_product (by decide) (by decide) (by decide) (by decide) hgeneral hreg hread
  | regRmImm8 width =>
    cases width <;>
      exact imulRegRmImm_product (by decide) (by decide) (by decide) (by decide) hgeneral hreg hread

end

/-- **Multiplication.** `MUL` and one-operand `IMUL` leave the exact product
in the pair, with CF and OF set exactly when the high half is not the
extension of the low one; the other forms of `IMUL` leave the product modulo
the width, with CF and OF set exactly when it does not fit. -/
theorem multiplication_exact :
    (∀ (sign : Signedness) (width : RmWidth) (ctx : ExecutionContext) (src : U64),
      RmOperand ctx.instr 0 width → readOperand ctx 0 width.bytes = some src →
      ∃ ctx', handleMultiply sign width ctx = .ok () ctx' ∧ WideProduct sign width ctx'.state
        (sign.number width.bytes (readRegister ctx.state (accumulator width)) *
          sign.number width.bytes src)) ∧
    ∀ (form : ImulForm) (ctx : ExecutionContext) (src : U64),
      form.Destination ctx.instr → readOperand ctx 1 form.width = some src →
      ∃ ctx', handleImul form ctx = .ok () ctx' ∧
        LowProduct form.width (ctx.instr.opRegister 0) ctx'.state
          (form.factor ctx * signedAt form.width src) :=
  ⟨fun sign _ _ _ hoperand hread => handleMultiply_product sign hoperand hread,
    fun form _ _ hdest hread => handleImul_product form hdest hread⟩

/-- `IMUL BX`, minus seven by two, and `IMUL BX, BX`. -/
theorem multiplication_exact_word :
    (∃ ctx', handleMultiply .signed .rm16 (pairContext .rm16 0xFFF9#64 0#64 2#64) = .ok () ctx' ∧
      WideProduct .signed .rm16 ctx'.state (-14)) ∧
    ∃ ctx', handleImul (.regRm .rm16) (pairContext .rm16 0#64 0#64 0x8000#64) = .ok () ctx' ∧
      LowProduct 2 (.r16 3) ctx'.state 0x40000000 := by
  constructor
  · exact multiplication_exact.1 .signed .rm16 (pairContext .rm16 0xFFF9#64 0#64 2#64) 2#64
      (Or.inr ⟨rfl, trivial, rfl⟩) (by decide)
  · exact multiplication_exact.2 (.regRm .rm16) (pairContext .rm16 0#64 0#64 0x8000#64) 0x8000#64
      ⟨trivial, rfl⟩ (by decide)

end Seven
