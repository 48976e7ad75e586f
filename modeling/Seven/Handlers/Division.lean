import Seven.Cpu.Checked
import Seven.Handlers.WidePair

/-!
# `DIV` and `IDIV`

Each of the eight handlers divides a number of twice the operand's width, in
whatever C++ type holds it: `uint64_t` or `int` for the narrow ones, the
128-bit integers of the library for the wide ones. The quotient is compared
with the bounds of the destination before anything is written, so a division
that does not fit leaves no trace.

The signed quotient of the type itself overflows in one case, the least
number by minus one. The 16- and 32-bit handlers test for it; at 8 bits the
type is wide enough, and at 64 bits the quotient wraps to a number that is
out of the destination's range anyway.

Main result: `division_exact` — either there is no quotient that fits, and
the handler reports a divide error from the state it started in, or the two
registers hold the quotient and the remainder.
-/

namespace Seven

open Seven.Lib

/-! ## The handlers -/

/-- `divide_fault`. -/
def divideFault {α : Type} : HandlerM α := faultHere .divideError 0#32

/-- `read_divisor_checked`. -/
def readDivisorChecked (width : Nat) : HandlerM U64 := do
  let divisor ← readOperandChecked 0 width
  if divisor = 0#64 then divideFault else return divisor

/-- `DIV` in an unsigned type of `bits` bits. -/
def divRm {bits : Nat} (width : RmWidth) (dividend : CpuState → BitVec bits)
    (highest : BitVec bits) : Handler := do
  let divisor ← readDivisorChecked width.bytes
  let ctx ← get
  let quotient := dividend ctx.state / divisor.setWidth bits
  let remainder := dividend ctx.state % divisor.setWidth bits
  if highest < quotient then divideFault
  else modifyState fun s => writePair width s (quotient.setWidth 64) (remainder.setWidth 64)

/-- `handle_code_DIV_RM8`. -/
def handleDivRm8 : Handler :=
  divRm .rm8 (fun s => ((readRegister s .ax).setWidth 16).setWidth 64) 0xFF#64

/-- `handle_code_DIV_RM16`. -/
def handleDivRm16 : Handler :=
  divRm .rm16 (fun s => ((readRegister s .dx).setWidth 32 <<< 16 |||
    (readRegister s .ax).setWidth 32).setWidth 64) 0xFFFF#64

/-- `handle_code_DIV_RM32`. -/
def handleDivRm32 : Handler :=
  divRm .rm32 (fun s => readRegister s .edx <<< 32 ||| readRegister s .eax) 0xFFFFFFFF#64

/-- `handle_code_DIV_RM64`. -/
def handleDivRm64 : Handler :=
  divRm .rm64 (fun s => (readRegister s .rdx).setWidth 128 <<< 64 |||
    (readRegister s .rax).setWidth 128) 0xFFFFFFFFFFFFFFFF#128

/-- The divisor cast to its signed type and promoted to `bits` bits. -/
def signedDivisor (bits : Nat) (width : RmWidth) (divisor : U64) : BitVec bits :=
  (divisor.setWidth (8 * width.bytes)).signExtend bits

/-- A signed result cast to the destination's type. -/
def signedResult {bits : Nat} (width : RmWidth) (value : BitVec bits) : U64 :=
  (value.setWidth (8 * width.bytes)).setWidth 64

/-- `IDIV` in a signed type of `bits` bits; `guarded` handlers test for the
least dividend by minus one. -/
def idivRm {bits : Nat} (width : RmWidth) (guarded : Bool) (dividend : CpuState → BitVec bits)
    (lowest highest : BitVec bits) : Handler := do
  let divisor ← readDivisorChecked width.bytes
  let ctx ← get
  let rhs := signedDivisor bits width divisor
  if guarded && rhs == -BitVec.ofNat bits 1 && dividend ctx.state == BitVec.intMin bits then divideFault
  else
    let quotient := (dividend ctx.state).sdiv rhs
    let remainder := (dividend ctx.state).srem rhs
    if quotient.slt lowest || highest.slt quotient then divideFault
    else
      modifyState fun s =>
        writePair width s (signedResult width quotient) (signedResult width remainder)

/-- `handle_code_IDIV_RM8`. -/
def handleIdivRm8 : Handler :=
  idivRm .rm8 false (fun s => ((readRegister s .ax).setWidth 16).signExtend 32)
    (-128#32) 127#32

/-- `handle_code_IDIV_RM16`. -/
def handleIdivRm16 : Handler :=
  idivRm .rm16 true (fun s => (readRegister s .dx).setWidth 32 <<< 16 |||
    (readRegister s .ax).setWidth 32) (-32768#32) 32767#32

/-- `handle_code_IDIV_RM32`. -/
def handleIdivRm32 : Handler :=
  idivRm .rm32 true (fun s => readRegister s .edx <<< 32 ||| readRegister s .eax)
    (-2147483648#64) 2147483647#64

/-- `handle_code_IDIV_RM64`. -/
def handleIdivRm64 : Handler :=
  idivRm .rm64 false (fun s => (readRegister s .rdx).signExtend 128 <<< 64 |||
    (readRegister s .rax).setWidth 128) (-9223372036854775808#128) 9223372036854775807#128

/-- The eight handlers. -/
def handleDivide : Signedness → RmWidth → Handler
  | .unsigned, .rm8 => handleDivRm8
  | .unsigned, .rm16 => handleDivRm16
  | .unsigned, .rm32 => handleDivRm32
  | .unsigned, .rm64 => handleDivRm64
  | .signed, .rm8 => handleIdivRm8
  | .signed, .rm16 => handleIdivRm16
  | .signed, .rm32 => handleIdivRm32
  | .signed, .rm64 => handleIdivRm64

/-! ## The numbers -/

/-- The quotient is a number of `w` bytes. -/
def Signedness.Fits : Signedness → Nat → Int → Prop
  | .unsigned, w, q => 0 ≤ q ∧ q < 2 ^ (8 * w)
  | .signed, w, q => ¬ outOfRange w q

/-- There is no quotient, or it does not fit. -/
def Signedness.Faults (sign : Signedness) (width : RmWidth) (s : CpuState) (divisor : U64) : Prop :=
  sign.number width.bytes divisor = 0 ∨
    ¬ sign.Fits width.bytes ((sign.pair width s).tdiv (sign.number width.bytes divisor))

/-- A quotient and a remainder, truncated toward zero. -/
structure QuotientRemainder (dividend divisor q r : Int) : Prop where
  exact : dividend = q * divisor + r
  small : r.natAbs < divisor.natAbs
  sign : r = 0 ∨ r.sign = dividend.sign

/-- The truncated quotient and its remainder. -/
theorem quotientRemainder_tdiv (a : Int) {b : Int} (hb : b ≠ 0) :
    QuotientRemainder a b (a.tdiv b) (a.tmod b) := by
  constructor
  · rw [Int.mul_comm]
    exact (Int.mul_tdiv_add_tmod a b).symm
  · rw [Int.natAbs_tmod]
    exact Nat.mod_lt _ (Int.natAbs_pos.mpr hb)
  · by_cases hr : a.tmod b = 0
    · exact Or.inl hr
    · right
      rcases Int.lt_trichotomy a 0 with ha | rfl | ha
      · have hneg : 0 ≤ (-a).tmod b := Int.tmod_nonneg b (by omega)
        rw [Int.neg_tmod] at hneg
        rw [Int.sign_eq_neg_one_of_neg ha, Int.sign_eq_neg_one_of_neg (by omega)]
      · rw [Int.zero_tmod]
      · have hpos : 0 ≤ a.tmod b := Int.tmod_nonneg b (by omega)
        rw [Int.sign_eq_one_of_pos ha, Int.sign_eq_one_of_pos (by omega)]

/-! ## What a division does -/

/-- The result `divide_fault` hands back. -/
def divideErrorAt (ctx : ExecutionContext) : ExecutionResult :=
  { reason := .divideError
    exception := some ⟨.divideError, ctx.state.rip, 0#32⟩
    code := some ctx.instr.code }

/-- A divide error with nothing changed when the division is impossible, and
otherwise the quotient and the remainder in the pair. -/
def Divides (sign : Signedness) (width : RmWidth) (ctx : ExecutionContext) (divisor : U64) : Prop :=
  (handleDivide sign width ctx = .error (divideErrorAt ctx) ctx ↔
    sign.Faults width ctx.state divisor) ∧
  (¬ sign.Faults width ctx.state divisor → ∃ quotient remainder : U64,
    handleDivide sign width ctx =
      .ok () { ctx with state := writePair width ctx.state quotient remainder } ∧
    QuotientRemainder (sign.pair width ctx.state) (sign.number width.bytes divisor)
      (sign.number width.bytes
        (readRegister (writePair width ctx.state quotient remainder) (accumulator width)))
      (sign.number width.bytes
        (readRegister (writePair width ctx.state quotient remainder) (highHalf width))))

section

variable {width : RmWidth} {ctx : ExecutionContext} {divisor : U64}

/-- A divisor that cannot be read. -/
theorem readDivisorChecked_none {w : Nat} (h : readOperand ctx 0 w = none) :
    readDivisorChecked w ctx = .error (pageFaultAt ctx (memoryAddress ctx.state ctx.instr)) ctx := by
  have hread : readOperandChecked 0 w ctx =
      .error (pageFaultAt ctx (memoryAddress ctx.state ctx.instr)) ctx := by
    unfold readOperandChecked
    rw [h]
    rfl
  unfold readDivisorChecked
  rw [bind_error hread]

/-- A divisor of zero. -/
theorem readDivisorChecked_zero {w : Nat} (h : readOperand ctx 0 w = some 0#64) :
    readDivisorChecked w ctx = .error (divideErrorAt ctx) ctx := by
  unfold readDivisorChecked
  rw [bind_ok (readOperandChecked_ok_iff.mpr h), if_pos rfl]
  rfl

/-- A divisor to divide by. -/
theorem readDivisorChecked_some {w : Nat} (h : readOperand ctx 0 w = some divisor)
    (h0 : divisor ≠ 0#64) : readDivisorChecked w ctx = .ok divisor ctx := by
  unfold readDivisorChecked
  rw [bind_ok (readOperandChecked_ok_iff.mpr h), if_neg h0]
  rfl

/-- Every handler starts by reading the divisor. -/
theorem handleDivide_error (sign : Signedness) {r : ExecutionResult}
    (h : readDivisorChecked width.bytes ctx = .error r ctx) :
    handleDivide sign width ctx = .error r ctx := by
  cases sign <;> cases width <;> exact bind_error h

/-- A handler whose outcome is decided by the exact quotient divides. -/
theorem divides_of_outcome {sign : Signedness} (fault : Prop) [Decidable fault]
    (quotient remainder : U64)
    (hrun : handleDivide sign width ctx =
      if fault then .error (divideErrorAt ctx) ctx
      else .ok () { ctx with state := writePair width ctx.state quotient remainder })
    (hfault : fault ↔ sign.Faults width ctx.state divisor)
    (hq : ¬ fault → sign.number width.bytes quotient =
      (sign.pair width ctx.state).tdiv (sign.number width.bytes divisor))
    (hr : ¬ fault → sign.number width.bytes remainder =
      (sign.pair width ctx.state).tmod (sign.number width.bytes divisor)) :
    Divides sign width ctx divisor := by
  have hcut : ∀ v, sign.number width.bytes (truncate v width.bytes) = sign.number width.bytes v := by
    intro v
    have hle := width.bytes_bounds.2
    cases sign with
    | unsigned => exact congrArg Int.ofNat (unsignedAt_truncate hle v)
    | signed => exact signedAt_truncate hle v
  unfold Divides
  rw [hrun, ← hfault]
  by_cases hf : fault
  · rw [if_pos hf]
    exact ⟨iff_of_true rfl hf, fun h => absurd hf h⟩
  · rw [if_neg hf]
    refine ⟨iff_of_false (fun h => by cases h) hf, fun _ => ⟨quotient, remainder, rfl, ?_⟩⟩
    -- Without a fault the divisor is not zero, so quotient and remainder are determined.
    have hnonzero : sign.number width.bytes divisor ≠ 0 := fun h => hf (hfault.mpr (Or.inl h))
    rw [writePair_low, writePair_high, hcut, hcut, hq hf, hr hf]
    exact quotientRemainder_tdiv _ hnonzero

/-- By zero, every division is an error. -/
theorem divides_zero {sign : Signedness} (hfaults : sign.Faults width ctx.state 0#64)
    (hread : readOperand ctx 0 width.bytes = some 0#64) : Divides sign width ctx 0#64 :=
  ⟨iff_of_true (handleDivide_error sign (readDivisorChecked_zero hread)) hfaults,
    fun h => absurd hfaults h⟩

/-! ## Unsigned division -/

/-- The outcome of the handler. -/
theorem divRm_run {bits : Nat} {dividend : CpuState → BitVec bits} {highest : BitVec bits}
    (hread : readOperand ctx 0 width.bytes = some divisor) (hzero : divisor ≠ 0#64) :
    divRm width dividend highest ctx =
      if highest < dividend ctx.state / divisor.setWidth bits then .error (divideErrorAt ctx) ctx
      else .ok () { ctx with
        state := writePair width ctx.state ((dividend ctx.state / divisor.setWidth bits).setWidth 64)
          ((dividend ctx.state % divisor.setWidth bits).setWidth 64) } := by
  unfold divRm
  rw [bind_ok (readDivisorChecked_some hread hzero)]
  show (if _ then divideFault else _ : Handler) ctx = _
  split <;> rfl

/-- A value that fits the width keeps its number when it is cut. -/
theorem unsignedNumber_setWidth {bits : Nat} {v : BitVec bits}
    (hv : v.toNat < 2 ^ (8 * width.bytes)) :
    Signedness.unsigned.number width.bytes (v.setWidth 64) = (v.toNat : Int) := by
  have hw := width.bytes_bounds.2
  have hle : 2 ^ (8 * width.bytes) ≤ 2 ^ 64 := Nat.pow_le_pow_right (by decide) (by omega)
  have hsame : (v.setWidth 64).toNat = v.toNat := by
    rw [BitVec.toNat_setWidth, Nat.mod_eq_of_lt (lt_of_lt_of_le hv hle)]
  show ((unsignedAt width.bytes (v.setWidth 64) : Nat) : Int) = _
  rw [unsignedAt_of_lt (by omega), hsame]

/-- `DIV` of one width, by what its handler is. -/
theorem divides_div {bits : Nat} {dividend : CpuState → BitVec bits} {highest : BitVec bits}
    (hrun : handleDivide .unsigned width = divRm width dividend highest) (hbits : 64 ≤ bits)
    (hvalue : (dividend ctx.state).toNat = pairNat width ctx.state)
    (hhighest : highest.toNat = 2 ^ (8 * width.bytes) - 1)
    (hlt : divisor.toNat < 2 ^ (8 * width.bytes))
    (hread : readOperand ctx 0 width.bytes = some divisor) : Divides .unsigned width ctx divisor := by
  have hnumber : Signedness.unsigned.number width.bytes divisor = (divisor.toNat : Int) :=
    congrArg Int.ofNat (unsignedAt_of_lt hlt)
  have hpow : ((2 : Int) ^ (8 * width.bytes)) = ((2 ^ (8 * width.bytes) : Nat) : Int) := by norm_cast
  have hpos := Nat.two_pow_pos (8 * width.bytes)
  by_cases hzero : divisor = 0#64
  · subst hzero
    exact divides_zero (Or.inl hnumber) hread
  have hne : divisor.toNat ≠ 0 := fun h => hzero (BitVec.eq_of_toNat_eq h)
  have hwide : (divisor.setWidth bits).toNat = divisor.toNat := by
    rw [BitVec.toNat_setWidth, Nat.mod_eq_of_lt]
    exact lt_of_lt_of_le divisor.isLt (Nat.pow_le_pow_right (by decide) hbits)
  have hq : (dividend ctx.state / divisor.setWidth bits).toNat =
      pairNat width ctx.state / divisor.toNat := by
    rw [BitVec.toNat_udiv, hwide, hvalue]
  have hr : (dividend ctx.state % divisor.setWidth bits).toNat =
      pairNat width ctx.state % divisor.toNat := by
    rw [BitVec.toNat_umod, hwide, hvalue]
  have hfits : ¬ highest < dividend ctx.state / divisor.setWidth bits ↔
      pairNat width ctx.state / divisor.toNat < 2 ^ (8 * width.bytes) := by
    rw [BitVec.lt_def, hhighest, hq]
    omega
  -- the remainder is smaller than the divisor, so it fits without a test
  have hrlt : pairNat width ctx.state % divisor.toNat < 2 ^ (8 * width.bytes) :=
    lt_trans (Nat.mod_lt _ (Nat.pos_of_ne_zero hne)) hlt
  refine divides_of_outcome _ _ _ (hrun ▸ divRm_run hread hzero) ?_ ?_ ?_
  · unfold Signedness.Faults Signedness.Fits
    dsimp only
    rw [hnumber, unsigned_pair, hpow, ← Int.ofNat_tdiv, ← not_iff_not, hfits]
    omega
  · intro hno
    rw [hnumber, unsigned_pair, ← Int.ofNat_tdiv,
      unsignedNumber_setWidth (by rw [hq]; exact hfits.mp hno), hq]
  · intro _
    rw [hnumber, unsigned_pair, ← Int.ofNat_tmod,
      unsignedNumber_setWidth (by rw [hr]; exact hrlt), hr]

/-! ## Signed division -/

/-- The quotient of the type is out of the destination's range exactly when
the exact one is: the least number by minus one wraps to another that is. -/
theorem least_by_minus_one {bits w : Nat} (h0 : 0 < w) (hbits : 8 * w < bits) :
    outOfRange w (BitVec.intMin bits).toInt ∧
      outOfRange w ((BitVec.intMin bits).toInt.tdiv (-BitVec.ofNat bits 1).toInt) := by
  have hexp : 8 * w - 1 < bits - 1 := by omega
  have hhalf : 2 ^ (8 * w - 1) < 2 ^ (bits - 1) := Nat.pow_lt_pow_right (by decide) hexp
  have hleast : (BitVec.intMin bits).toInt = -((2 ^ (bits - 1) : Nat) : Int) := by
    rw [BitVec.toInt_intMin_of_pos (by omega)]
    norm_cast
  have hminus : (-BitVec.ofNat bits 1).toInt = -1 := by
    rw [BitVec.neg_one_eq_allOnes, BitVec.toInt_allOnes, if_pos (by omega)]
  rw [hminus, Int.tdiv_neg, Int.tdiv_one, hleast]
  unfold outOfRange
  omega

/-- The range test on the machine's quotient is the range test on the integers'. -/
theorem sdiv_outOfRange_iff {bits w : Nat} (h0 : 0 < w) (hbits : 8 * w < bits) (a b : BitVec bits) :
    outOfRange w (a.sdiv b).toInt ↔ outOfRange w (a.toInt.tdiv b.toInt) := by
  by_cases hmin : a = BitVec.intMin bits ∧ b = -BitVec.ofNat bits 1
  · obtain ⟨rfl, rfl⟩ := hmin
    rw [BitVec.intMin_sdiv_neg_one]
    obtain ⟨hwrapped, hexact⟩ := least_by_minus_one h0 hbits
    exact iff_of_true hwrapped hexact
  · have hne : a ≠ BitVec.intMin bits ∨ b ≠ -BitVec.ofNat bits 1 := by
      by_cases ha : a = BitVec.intMin bits
      · exact Or.inr fun hb => hmin ⟨ha, hb⟩
      · exact Or.inl ha
    rw [BitVec.toInt_sdiv_of_ne_or_ne a b hne]

/-- A quotient in range is the exact one. -/
theorem toInt_sdiv_of_fits {bits w : Nat} (h0 : 0 < w) (hbits : 8 * w < bits) {a b : BitVec bits}
    (h : ¬ outOfRange w (a.toInt.tdiv b.toInt)) : (a.sdiv b).toInt = a.toInt.tdiv b.toInt := by
  have htwice : 2 ^ bits = 2 * 2 ^ (bits - 1) := by
    rw [← Nat.pow_succ']
    congr 1
    omega
  have hhalf : 2 ^ (8 * w - 1) ≤ 2 ^ (bits - 1) := Nat.pow_le_pow_right (by decide) (by omega)
  rw [BitVec.toInt_sdiv]
  unfold outOfRange at h
  apply Int.bmod_eq_of_le_mul_two
  · rw [htwice]
    omega
  · rw [htwice]
    omega

/-- The outcome of the handler, its divisor named. -/
theorem idivRm_run {bits : Nat} {guarded : Bool} {dividend : CpuState → BitVec bits}
    {lowest highest rhs : BitVec bits} (hread : readOperand ctx 0 width.bytes = some divisor)
    (hzero : divisor ≠ 0#64) (hrhs : signedDivisor bits width divisor = rhs) :
    idivRm width guarded dividend lowest highest ctx =
      if (guarded && rhs == -BitVec.ofNat bits 1 && dividend ctx.state == BitVec.intMin bits) = true ∨
        (((dividend ctx.state).sdiv rhs).slt lowest ||
          highest.slt ((dividend ctx.state).sdiv rhs)) = true
      then .error (divideErrorAt ctx) ctx
      else .ok () { ctx with
        state := writePair width ctx.state (signedResult width ((dividend ctx.state).sdiv rhs))
          (signedResult width ((dividend ctx.state).srem rhs)) } := by
  subst hrhs
  unfold idivRm
  rw [bind_ok (readDivisorChecked_some hread hzero)]
  show (if _ then divideFault else if _ then divideFault else _ : Handler) ctx = _
  split
  next hguard => rw [if_pos (Or.inl hguard)]; rfl
  next hguard =>
    split
    next hrange => rw [if_pos (Or.inr hrange)]; rfl
    next hrange =>
      rw [if_neg (not_or.mpr ⟨hguard, hrange⟩)]
      rfl

/-- The signed result, read back. -/
theorem signedAt_signedResult {bits : Nat} (hbits : 8 * width.bytes ≤ bits) {value : BitVec bits}
    (h : ¬ outOfRange width.bytes value.toInt) :
    signedAt width.bytes (signedResult width value) = value.toInt := by
  obtain ⟨h0, hw⟩ := width.bytes_bounds
  unfold signedResult
  rw [signedAt_setWidth h0 hw hbits, bmod_of_fits h0 h]

/-- The two comparisons of the handler are the range test. -/
theorem slt_or_slt_iff {bits w : Nat} {lowest highest q : BitVec bits}
    (hlowest : lowest.toInt = -(2 ^ (8 * w - 1) : Nat))
    (hhighest : highest.toInt = (2 ^ (8 * w - 1) : Nat) - 1) :
    (q.slt lowest || highest.slt q) = true ↔ outOfRange w q.toInt := by
  rw [Bool.or_eq_true, BitVec.slt_iff_toInt_lt, BitVec.slt_iff_toInt_lt, hlowest, hhighest]
  unfold outOfRange
  omega

/-- A divisor that is not zero leaves the range as the only cause. -/
theorem signed_faults_iff {s : CpuState} (h : signedAt width.bytes divisor ≠ 0) :
    Signedness.signed.Faults width s divisor ↔ outOfRange width.bytes
      ((Signedness.signed.pair width s).tdiv (signedAt width.bytes divisor)) := by
  show signedAt width.bytes divisor = 0 ∨ ¬ ¬ outOfRange width.bytes _ ↔ _
  rw [not_not]
  exact ⟨fun hfaults => hfaults.elim (fun hzero => absurd hzero h) id, Or.inr⟩

/-- `IDIV` of one width, by what its handler is. -/
theorem divides_idiv {bits : Nat} {guarded : Bool} {dividend : CpuState → BitVec bits}
    {lowest highest : BitVec bits}
    (hrun : handleDivide .signed width = idivRm width guarded dividend lowest highest)
    (hbits : 8 * width.bytes < bits)
    (hvalue : (dividend ctx.state).toInt = Signedness.signed.pair width ctx.state)
    (hlowest : lowest.toInt = -(2 ^ (8 * width.bytes - 1) : Nat))
    (hhighest : highest.toInt = (2 ^ (8 * width.bytes - 1) : Nat) - 1)
    (hlt : divisor.toNat < 2 ^ (8 * width.bytes))
    (hread : readOperand ctx 0 width.bytes = some divisor) : Divides .signed width ctx divisor := by
  obtain ⟨h0, hw⟩ := width.bytes_bounds
  by_cases hzero : divisor = 0#64
  · subst hzero
    refine divides_zero (Or.inl ?_) hread
    show signedAt width.bytes 0#64 = 0
    rw [signedAt_eq_zero_iff]
    exact Nat.zero_mod _
  have hnonzero : signedAt width.bytes divisor ≠ 0 := by
    intro h
    rw [signedAt_eq_zero_iff, unsignedAt_of_lt hlt] at h
    exact hzero (BitVec.eq_of_toNat_eq h)
  obtain ⟨rhs, hdef⟩ : ∃ rhs, signedDivisor bits width divisor = rhs := ⟨_, rfl⟩
  have hrhs : rhs.toInt = signedAt width.bytes divisor := by
    rw [← hdef]
    unfold signedDivisor
    rw [BitVec.toInt_signExtend_of_le (by omega), toInt_setWidth_bytes h0]
  have hout := sdiv_outOfRange_iff h0 hbits (dividend ctx.state) rhs
  have hexact := @toInt_sdiv_of_fits bits width.bytes h0 hbits (dividend ctx.state) rhs
  have hrem := BitVec.toInt_srem (dividend ctx.state) rhs
  rw [hvalue, hrhs] at hout hexact hrem
  -- the guard only catches what the range test would catch
  have hguard : (guarded && rhs == -BitVec.ofNat bits 1 && dividend ctx.state == BitVec.intMin bits) = true →
      outOfRange width.bytes
        ((Signedness.signed.pair width ctx.state).tdiv (signedAt width.bytes divisor)) := by
    intro h
    rw [Bool.and_eq_true, Bool.and_eq_true, beq_iff_eq, beq_iff_eq] at h
    rw [← hvalue, ← hrhs, h.1.2, h.2]
    exact (least_by_minus_one h0 hbits).2
  -- the remainder is smaller than the divisor, so it fits without a test
  have hsmall : ¬ outOfRange width.bytes ((dividend ctx.state).srem rhs).toInt := by
    have hmod := Nat.mod_lt (Signedness.signed.pair width ctx.state).natAbs
      (Int.natAbs_pos.mpr hnonzero)
    have hle := signedAt_natAbs_le h0 divisor
    rw [← Int.natAbs_tmod, ← hrem] at hmod
    unfold outOfRange
    omega
  have hle : 8 * width.bytes ≤ bits := hbits.le
  refine divides_of_outcome _ _ _ (hrun ▸ idivRm_run hread hzero hdef) ?_ ?_ ?_
  · rw [slt_or_slt_iff hlowest hhighest, hout, signed_faults_iff hnonzero]
    exact ⟨fun h => h.elim hguard id, Or.inr⟩
  · intro hno
    have hin := fun h => hno (Or.inr ((slt_or_slt_iff hlowest hhighest).mpr (hout.mpr h)))
    show signedAt width.bytes (signedResult width _) = _
    rw [signedAt_signedResult hle (by rw [hexact hin]; exact hin), hexact hin]
    rfl
  · intro _
    show signedAt width.bytes (signedResult width _) = _
    rw [signedAt_signedResult hle hsmall, hrem]
    rfl

end

/-! ## The eight handlers -/

/-- `DX:AX`. -/
theorem dividend_rm16 (s : CpuState) :
    ((readRegister s .dx).setWidth 32 <<< 16 ||| (readRegister s .ax).setWidth 32).toNat =
      pairNat .rm16 s := by
  have hhigh : (readRegister s .dx).toNat ≤ 0xFFFF := and_toNat_le _ 0xFFFF#64
  have hlow : (readRegister s .ax).toNat ≤ 0xFFFF := and_toNat_le _ 0xFFFF#64
  have hh : ((readRegister s .dx).setWidth 32).toNat = (readRegister s .dx).toNat := by
    rw [BitVec.toNat_setWidth, Nat.mod_eq_of_lt (by omega)]
  have hl : ((readRegister s .ax).setWidth 32).toNat = (readRegister s .ax).toNat := by
    rw [BitVec.toNat_setWidth, Nat.mod_eq_of_lt (by omega)]
  rw [toNat_shiftLeft_or (by omega) (by omega), hh, hl]
  rfl

/-- `EDX:EAX`. -/
theorem dividend_rm32 (s : CpuState) :
    (readRegister s .edx <<< 32 ||| readRegister s .eax).toNat = pairNat .rm32 s := by
  have hhigh : (readRegister s .edx).toNat ≤ 0xFFFFFFFF := and_toNat_le _ 0xFFFFFFFF#64
  have hlow : (readRegister s .eax).toNat ≤ 0xFFFFFFFF := and_toNat_le _ 0xFFFFFFFF#64
  rw [toNat_shiftLeft_or (by omega) (by omega)]
  rfl

/-- `RDX:RAX`. -/
theorem dividend_rm64 (s : CpuState) :
    ((readRegister s .rdx).setWidth 128 <<< 64 ||| (readRegister s .rax).setWidth 128).toNat =
      pairNat .rm64 s := by
  have hhigh := (readRegister s .rdx).isLt
  have hlow := (readRegister s .rax).isLt
  have hh : ((readRegister s .rdx).setWidth 128).toNat = (readRegister s .rdx).toNat := by
    rw [BitVec.toNat_setWidth, Nat.mod_eq_of_lt (by omega)]
  have hl : ((readRegister s .rax).setWidth 128).toNat = (readRegister s .rax).toNat := by
    rw [BitVec.toNat_setWidth, Nat.mod_eq_of_lt (by omega)]
  rw [toNat_shiftLeft_or (by omega) (by omega), hh, hl]
  rfl

/-- The shift drops the sign bits that the signed cast of the high half adds. -/
theorem signExtend_shift (v : U64) : v.signExtend 128 <<< 64 = v.setWidth 128 <<< 64 := by
  apply BitVec.eq_of_getLsbD_eq
  intro i hi
  simp only [BitVec.getLsbD_shiftLeft, BitVec.getLsbD_signExtend, BitVec.getLsbD_setWidth]
  by_cases hlow : i < 64
  · rw [decide_eq_true hlow]
    simp
  · have hbit : i - 64 < 64 := by omega
    rw [if_pos hbit]

section

variable {ctx : ExecutionContext} {divisor : U64}

/-- `DIV` of every width. -/
theorem divides_div_rm (width : RmWidth) (hlt : divisor.toNat < 2 ^ (8 * width.bytes))
    (hread : readOperand ctx 0 width.bytes = some divisor) : Divides .unsigned width ctx divisor := by
  cases width with
  | rm8 =>
    refine divides_div handleDivRm8.eq_def (Nat.le_refl 64) ?_ rfl hlt hread
    have hax : (readRegister ctx.state .ax).toNat ≤ 0xFFFF := and_toNat_le _ 0xFFFF#64
    rw [BitVec.toNat_setWidth, BitVec.toNat_setWidth, Nat.mod_eq_of_lt (by omega),
      Nat.mod_eq_of_lt (by omega), pairNat_rm8]
  | rm16 =>
    refine divides_div handleDivRm16.eq_def (Nat.le_refl 64) ?_ rfl hlt hread
    have hlt32 := ((readRegister ctx.state .dx).setWidth 32 <<< 16 |||
      (readRegister ctx.state .ax).setWidth 32).isLt
    rw [BitVec.toNat_setWidth, Nat.mod_eq_of_lt (by omega), dividend_rm16]
  | rm32 =>
    refine divides_div handleDivRm32.eq_def (Nat.le_refl 64) ?_ rfl hlt hread
    exact dividend_rm32 ctx.state
  | rm64 =>
    refine divides_div handleDivRm64.eq_def (by decide) ?_ rfl hlt hread
    exact dividend_rm64 ctx.state

/-- `IDIV` of every width. -/
theorem divides_idiv_rm (width : RmWidth) (hlt : divisor.toNat < 2 ^ (8 * width.bytes))
    (hread : readOperand ctx 0 width.bytes = some divisor) : Divides .signed width ctx divisor := by
  cases width with
  | rm8 =>
    refine divides_idiv handleIdivRm8.eq_def (by decide) ?_ rfl rfl hlt hread
    rw [BitVec.toInt_signExtend_of_le (by omega), BitVec.toInt_setWidth, signed_pair, pairNat_rm8]
    rfl
  | rm16 =>
    refine divides_idiv handleIdivRm16.eq_def (by decide) ?_ rfl rfl hlt hread
    rw [BitVec.toInt_eq_toNat_bmod, dividend_rm16, signed_pair]
    rfl
  | rm32 =>
    refine divides_idiv handleIdivRm32.eq_def (by decide) ?_ rfl rfl hlt hread
    rw [BitVec.toInt_eq_toNat_bmod, dividend_rm32, signed_pair]
    rfl
  | rm64 =>
    refine divides_idiv handleIdivRm64.eq_def (by decide) ?_ rfl rfl hlt hread
    rw [signExtend_shift, BitVec.toInt_eq_toNat_bmod, dividend_rm64, signed_pair]
    rfl

end

/-- **Division.** When the divisor can be read, `DIV` and `IDIV` report a
divide error and change nothing exactly when the divisor is zero or the exact
quotient does not fit, and leave that quotient and its remainder otherwise.
When it cannot, they report the page fault. -/
theorem division_exact (sign : Signedness) (width : RmWidth) (ctx : ExecutionContext)
    (hoperand : RmOperand ctx.instr 0 width) :
    (readOperand ctx 0 width.bytes = none →
      handleDivide sign width ctx =
        .error (pageFaultAt ctx (memoryAddress ctx.state ctx.instr)) ctx) ∧
    ∀ divisor, readOperand ctx 0 width.bytes = some divisor → Divides sign width ctx divisor := by
  constructor
  · intro h
    exact handleDivide_error sign (readDivisorChecked_none h)
  · intro divisor h
    have hlt := readOperand_lt hoperand h
    cases sign with
    | unsigned => exact divides_div_rm width hlt h
    | signed => exact divides_idiv_rm width hlt h

/-- `IDIV BX`, minus seven by two. -/
theorem division_exact_word : Divides .signed .rm16 (pairContext .rm16 0xFFF9#64 0xFFFF#64 2#64) 2#64 :=
  (division_exact .signed .rm16 (pairContext .rm16 0xFFF9#64 0xFFFF#64 2#64)
    (Or.inr ⟨rfl, trivial, rfl⟩)).2 2#64 (by decide)

end Seven
