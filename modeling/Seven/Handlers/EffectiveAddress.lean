import Seven.Handlers.Binary

/-!
# Effective addresses and `LEA`

An address is formed in two steps: the offset, which the instruction's
address size cuts, and on top of it the base of an overridden segment,
which the mode cuts. `memory_address` knows the mode and not the address
size, so it cuts once, at the end. This file says for which operands that
is the same:

> `effective_address`: the operand is addressed as the architecture has it
> exactly when what the sum has beyond the address size — its `overhang` —
> is invisible at the mode's width.

Two differences come on top. A `RIP`-relative operand gets no segment base,
where every other operand does, and `LEA` takes its value from the same
function and so with the segment base.
-/

namespace Seven

/-! ## Two cuts of one number -/

/-- Two numbers cut at different places agree exactly when they agree at the
lower cut and neither reaches above it. -/
theorem mod_two_pow_eq_iff (a b p q : Nat) :
    a % 2 ^ p = b % 2 ^ q ↔
      a % 2 ^ min p q = b % 2 ^ min p q ∧ a % 2 ^ p < 2 ^ min p q ∧ b % 2 ^ q < 2 ^ min p q := by
  have hp : 2 ^ min p q ∣ 2 ^ p := Nat.pow_dvd_pow 2 (Nat.min_le_left p q)
  have hq : 2 ^ min p q ∣ 2 ^ q := Nat.pow_dvd_pow 2 (Nat.min_le_right p q)
  constructor
  · intro h
    refine ⟨?_, ?_, ?_⟩
    · rw [← Nat.mod_mod_of_dvd a hp, h, Nat.mod_mod_of_dvd b hq]
    · rcases Nat.le_total p q with hpq | hqp
      · rw [Nat.min_eq_left hpq]
        exact Nat.mod_lt _ (Nat.two_pow_pos p)
      · rw [h, Nat.min_eq_right hqp]
        exact Nat.mod_lt _ (Nat.two_pow_pos q)
    · rcases Nat.le_total p q with hpq | hqp
      · rw [← h, Nat.min_eq_left hpq]
        exact Nat.mod_lt _ (Nat.two_pow_pos p)
      · rw [Nat.min_eq_right hqp]
        exact Nat.mod_lt _ (Nat.two_pow_pos q)
  · rintro ⟨hlow, ha, hb⟩
    rw [← Nat.mod_eq_of_lt ha, ← Nat.mod_eq_of_lt hb, Nat.mod_mod_of_dvd a hp,
      Nat.mod_mod_of_dvd b hq, hlow]

/-- Truncation is a congruence. -/
theorem truncate_eq_iff_modEq {x y : U64} {w : Nat} (hw : w ≤ 8) :
    truncate x w = truncate y w ↔ x.toNat ≡ y.toNat [MOD 2 ^ (8 * w)] := by
  rw [← BitVec.toNat_inj, truncate_toNat x hw, truncate_toNat y hw]
  exact Iff.rfl

/-- A carry out of the container is a multiple of every width's modulus. -/
theorem toNat_add_modEq (x y : U64) {w : Nat} (hw : w ≤ 8) :
    (x + y).toNat ≡ x.toNat + y.toNat [MOD 2 ^ (8 * w)] := by
  have hdvd : 2 ^ (8 * w) ∣ 2 ^ 64 := Nat.pow_dvd_pow 2 (by omega)
  show (x + y).toNat % 2 ^ (8 * w) = (x.toNat + y.toNat) % 2 ^ (8 * w)
  rw [BitVec.toNat_add, Nat.mod_mod_of_dvd _ hdvd]

/-- A common summand decides nothing. -/
theorem truncate_add_left_cancel (x y z : U64) {w : Nat} (hw : w ≤ 8) :
    truncate (x + y) w = truncate (x + z) w ↔ truncate y w = truncate z w := by
  rw [truncate_eq_iff_modEq hw, truncate_eq_iff_modEq hw]
  constructor
  · intro h
    have hsum : x.toNat + y.toNat ≡ x.toNat + z.toNat [MOD 2 ^ (8 * w)] :=
      (toNat_add_modEq x y hw).symm.trans (h.trans (toNat_add_modEq x z hw))
    exact Nat.ModEq.add_left_cancel' _ hsum
  · intro h
    have hsum : x.toNat + y.toNat ≡ x.toNat + z.toNat [MOD 2 ^ (8 * w)] := h.add_left _
    exact (toNat_add_modEq x y hw).trans (hsum.trans (toNat_add_modEq x z hw).symm)

/-- An address has at most eight bytes. -/
theorem instructionPointerWidth_le (mode : ExecutionMode) : instructionPointerWidth mode ≤ 8 := by
  cases mode with
  | real16 => exact Nat.le_of_ble_eq_true rfl
  | compat32 => exact Nat.le_of_ble_eq_true rfl
  | long64 => exact Nat.le_refl 8

/-- A linear address is truncated. -/
theorem maskLinearAddress_eq_truncate (s : CpuState) (value : U64) :
    maskLinearAddress s value = truncate value (instructionPointerWidth s.mode) := rfl

/-! ## The two steps of an address -/

/-- The address size of an instruction: its mode's, or the other one with a
67 prefix. -/
inductive AddressSize where
  | addr16
  | addr32
  | addr64
deriving DecidableEq, Repr

/-- The bytes of an address size. -/
def AddressSize.bytes : AddressSize → Nat
  | .addr16 => 2
  | .addr32 => 4
  | .addr64 => 8

/-- At most eight. -/
theorem AddressSize.bytes_le (size : AddressSize) : size.bytes ≤ 8 := by
  cases size with
  | addr16 => exact Nat.le_of_ble_eq_true rfl
  | addr32 => exact Nat.le_of_ble_eq_true rfl
  | addr64 => exact Nat.le_refl 8

/-- Base, scaled index and displacement, or the target the decoder has
already worked out, before any cut. -/
def rawOffset (s : CpuState) (instr : Instruction) : U64 :=
  if instr.isIpRelMemoryOperand then instr.ipRelMemoryAddress
  else
    (if instr.memoryBase = .none then 0#64 else readRegister s instr.memoryBase) +
      (if instr.memoryIndex = .none then 0#64
        else readRegister s instr.memoryIndex * instr.memoryIndexScale) +
      instr.memoryDisplacement64

/-- The base of the segment the instruction overrides. -/
def segmentBase (s : CpuState) (instr : Instruction) : U64 :=
  if instr.segmentPrefix = .fs then s.fsBase
  else if instr.segmentPrefix = .gs then s.gsBase
  else 0#64

/-- The segment base `memory_address` adds. -/
def addedBase (s : CpuState) (instr : Instruction) : U64 :=
  if instr.isIpRelMemoryOperand then 0#64 else segmentBase s instr

/-- The segment base it leaves out. -/
def omittedBase (s : CpuState) (instr : Instruction) : U64 :=
  if instr.isIpRelMemoryOperand then segmentBase s instr else 0#64

/-- The offset, cut at the address size. -/
def effectiveOffset (s : CpuState) (instr : Instruction) (size : AddressSize) : U64 :=
  truncate (rawOffset s instr) size.bytes

/-- The address of the operand in the architecture's order: the offset
first, then the segment base, then the mode. -/
def effectiveAddress (s : CpuState) (instr : Instruction) (size : AddressSize) : U64 :=
  maskLinearAddress s (effectiveOffset s instr size + segmentBase s instr)

/-- What the sum has beyond the address size. -/
def overhang (s : CpuState) (instr : Instruction) (size : AddressSize) : U64 :=
  rawOffset s instr - effectiveOffset s instr size

/-- The offset and the base that is added. -/
theorem memoryAddress_eq (s : CpuState) (instr : Instruction) :
    memoryAddress s instr = maskLinearAddress s (rawOffset s instr + addedBase s instr) := by
  unfold memoryAddress rawOffset addedBase segmentBase
  by_cases hip : instr.isIpRelMemoryOperand = true
  · rw [if_pos hip, if_pos hip, if_pos hip, BitVec.add_zero]
  · rw [if_neg hip, if_neg hip, if_neg hip]

/-- The base of the segment, added or left out. -/
theorem segmentBase_eq (s : CpuState) (instr : Instruction) :
    segmentBase s instr = addedBase s instr + omittedBase s instr := by
  unfold addedBase omittedBase
  by_cases hip : instr.isIpRelMemoryOperand = true
  · rw [if_pos hip, if_pos hip, BitVec.zero_add]
  · rw [if_neg hip, if_neg hip, BitVec.add_zero]

/-- One cut at the end does for two cuts exactly when the overhang makes up,
at the mode's width, for the base that is left out. -/
theorem memoryAddress_eq_iff (s : CpuState) (instr : Instruction) (size : AddressSize) :
    memoryAddress s instr = effectiveAddress s instr size ↔
      maskLinearAddress s (overhang s instr size) = maskLinearAddress s (omittedBase s instr) := by
  have hraw : rawOffset s instr + addedBase s instr =
      (effectiveOffset s instr size + addedBase s instr) + overhang s instr size := by
    unfold overhang
    bv_omega
  have harch : effectiveOffset s instr size + segmentBase s instr =
      (effectiveOffset s instr size + addedBase s instr) + omittedBase s instr := by
    rw [segmentBase_eq, BitVec.add_assoc]
  rw [memoryAddress_eq, effectiveAddress, hraw, harch]
  exact truncate_add_left_cancel _ _ _ (instructionPointerWidth_le s.mode)

/-! ## `LEA` -/

/-- `lea`: the operand's address, the segment's base included. -/
def leaWidth (width : Nat) : Handler := do
  let ctx ← get
  modifyState fun s =>
    writeRegister s (ctx.instr.opRegister 0) (memoryAddress ctx.state ctx.instr) width

/-- `handle_code_LEA_R64_M`. -/
def handleLeaR64M : Handler := leaWidth 8

/-- `handle_code_LEA_R32_M`. -/
def handleLeaR32M : Handler := leaWidth 4

/-- `handle_code_LEA_R16_M`. -/
def handleLeaR16M : Handler := leaWidth 2

/-- The three handlers. -/
def handleLea : RmWideWidth → Handler
  | .rm16 => handleLeaR16M
  | .rm32 => handleLeaR32M
  | .rm64 => handleLeaR64M

/-- The context after the destination took a value. -/
def withDestination (ctx : ExecutionContext) (value : U64) (width : Nat) : ExecutionContext :=
  { ctx with state := writeRegister ctx.state (ctx.instr.opRegister 0) value width }

/-- `LEA` cannot fail. -/
theorem handleLea_eq (width : RmWideWidth) (ctx : ExecutionContext) :
    handleLea width ctx =
      .ok () (withDestination ctx (memoryAddress ctx.state ctx.instr) width.bytes) := by
  cases width <;> rfl

/-- At most eight. -/
theorem RmWideWidth.bytes_le (width : RmWideWidth) : width.bytes ≤ 8 := by
  cases width with
  | rm16 => exact Nat.le_of_ble_eq_true rfl
  | rm32 => exact Nat.le_of_ble_eq_true rfl
  | rm64 => exact Nat.le_refl 8

/-- A merge at a width takes the value's part of that width. -/
theorem truncate_mergeGpr (raw value : U64) (width : RmWideWidth) (high : Bool) :
    truncate (mergeGpr raw value high width.bytes) width.bytes = truncate value width.bytes := by
  have hdisjoint : ~~~0xFFFF#64 &&& maskForWidth 2 = 0#64 := by decide
  have hlow : 0xFFFF#64 &&& maskForWidth 2 = maskForWidth 2 := by decide
  cases width with
  | rm16 =>
    show ((raw &&& ~~~0xFFFF#64) ||| (value &&& 0xFFFF#64)) &&& maskForWidth 2 =
      value &&& maskForWidth 2
    rw [BitVec.and_or_distrib_right, BitVec.and_assoc, BitVec.and_assoc, hdisjoint, hlow,
      BitVec.and_zero, BitVec.zero_or]
  | rm32 => exact truncate_truncate value 4
  | rm64 => rfl

/-- A register takes the low bytes. -/
theorem mergeGpr_truncate (raw value : U64) (width : RmWideWidth) (high : Bool) :
    mergeGpr raw (truncate value width.bytes) high width.bytes =
      mergeGpr raw value high width.bytes := by
  cases width with
  | rm16 =>
    show (raw &&& ~~~0xFFFF#64) ||| (truncate value 2 &&& 0xFFFF#64) = _
    rw [show truncate value 2 &&& 0xFFFF#64 = truncate value 2 from truncate_truncate value 2]
    rfl
  | rm32 => exact truncate_truncate value 4
  | rm64 => exact BitVec.and_allOnes

/-- A general register takes the merge of the value. -/
theorem writeRegister_general (s : CpuState) {reg : Register} (hreg : reg.General) {w : Nat}
    (hw : w ≠ 0) : ∃ high, ∀ value, writeRegister s reg value w =
      s.setGpr reg.gprIndex (mergeGpr (s.gpr reg.gprIndex) value high w) := by
  have hwidth : (if w ≠ 0 then w else registerWidth reg) = w := if_pos hw
  cases reg with
  | r8 i => exact ⟨false, fun value => by simp only [writeRegister, hwidth]⟩
  | r8h i => exact ⟨true, fun value => by simp only [writeRegister, hwidth]⟩
  | r16 i => exact ⟨false, fun value => by simp only [writeRegister, hwidth]⟩
  | r32 i => exact ⟨false, fun value => by simp only [writeRegister, hwidth]⟩
  | r64 i => exact ⟨false, fun value => by simp only [writeRegister, hwidth]⟩
  | none | sreg | cr | dr | tr | mm | other => exact hreg.elim

/-- The part of a value that a destination keeps is all that matters. -/
theorem withDestination_inj (ctx : ExecutionContext) (width : RmWideWidth) (x y : U64)
    (hreg : (ctx.instr.opRegister 0).General) :
    withDestination ctx x width.bytes = withDestination ctx y width.bytes ↔
      truncate x width.bytes = truncate y width.bytes := by
  have hpos : width.bytes ≠ 0 := by cases width <;> exact Nat.succ_ne_zero _
  obtain ⟨high, hwrite⟩ := writeRegister_general ctx.state hreg hpos
  unfold withDestination
  rw [hwrite, hwrite]
  constructor
  · intro h
    have hgpr := congrArg (fun c => c.state.gpr (ctx.instr.opRegister 0).gprIndex) h
    simp only [CpuState.setGpr_self] at hgpr
    rw [← truncate_mergeGpr _ x width high, hgpr, truncate_mergeGpr]
  · intro h
    rw [← mergeGpr_truncate _ x, h, mergeGpr_truncate]

/-! ## Where the code and the architecture agree -/

/-- The widths at which both ways of computing a `LEA` leave a value alone. -/
def leaCommonBytes (s : CpuState) (size : AddressSize) (width : RmWideWidth) : Nat :=
  min (min (instructionPointerWidth s.mode) width.bytes) (min size.bytes width.bytes)

/-- No segment base reaches the destination, and neither the mode nor the
address size cuts off what the destination would have kept. -/
structure LeaExact (s : CpuState) (instr : Instruction) (size : AddressSize)
    (width : RmWideWidth) : Prop where
  noBase : truncate (addedBase s instr) (leaCommonBytes s size width) = 0#64
  mode_fits :
    (rawOffset s instr + addedBase s instr).toNat %
        2 ^ (8 * min (instructionPointerWidth s.mode) width.bytes) <
      2 ^ (8 * leaCommonBytes s size width)
  size_fits :
    (rawOffset s instr).toNat % 2 ^ (8 * min size.bytes width.bytes) <
      2 ^ (8 * leaCommonBytes s size width)

/-- Two truncations. -/
theorem truncate_truncate_toNat (v : U64) {a b : Nat} (ha : a ≤ 8) (hb : b ≤ 8) :
    (truncate (truncate v a) b).toNat = v.toNat % 2 ^ (8 * min a b) := by
  rw [truncate_toNat _ hb, truncate_toNat _ ha]
  rcases Nat.le_total a b with hab | hba
  · rw [Nat.min_eq_left hab]
    have hle : 2 ^ (8 * a) ≤ 2 ^ (8 * b) := Nat.pow_le_pow_right (by omega) (by omega)
    exact Nat.mod_eq_of_lt (lt_of_lt_of_le (Nat.mod_lt _ (Nat.two_pow_pos _)) hle)
  · rw [Nat.min_eq_right hba]
    exact Nat.mod_mod_of_dvd _ (Nat.pow_dvd_pow 2 (by omega))

/-- The destination takes the offset exactly under `LeaExact`. -/
theorem truncate_memoryAddress_iff (s : CpuState) (instr : Instruction) (size : AddressSize)
    (width : RmWideWidth) :
    truncate (memoryAddress s instr) width.bytes =
        truncate (effectiveOffset s instr size) width.bytes ↔ LeaExact s instr size width := by
  have hm := instructionPointerWidth_le s.mode
  have ha := size.bytes_le
  have hw := width.bytes_le
  have hk : leaCommonBytes s size width ≤ 8 := by
    unfold leaCommonBytes
    omega
  -- both sides are cuts, at the destination with the mode and with the address size
  have hcuts : truncate (memoryAddress s instr) width.bytes =
      truncate (effectiveOffset s instr size) width.bytes ↔
        (rawOffset s instr + addedBase s instr).toNat %
            2 ^ (8 * min (instructionPointerWidth s.mode) width.bytes) =
          (rawOffset s instr).toNat % 2 ^ (8 * min size.bytes width.bytes) := by
    rw [memoryAddress_eq, maskLinearAddress_eq_truncate, effectiveOffset, ← BitVec.toNat_inj,
      truncate_truncate_toNat _ hm hw, truncate_truncate_toNat _ ha hw]
  have hmin : min (8 * min (instructionPointerWidth s.mode) width.bytes)
      (8 * min size.bytes width.bytes) = 8 * leaCommonBytes s size width := by
    unfold leaCommonBytes
    omega
  have hlow : (rawOffset s instr + addedBase s instr).toNat %
        2 ^ (8 * leaCommonBytes s size width) =
      (rawOffset s instr).toNat % 2 ^ (8 * leaCommonBytes s size width) ↔
        truncate (addedBase s instr) (leaCommonBytes s size width) = 0#64 := by
    have hcancel := truncate_add_left_cancel (rawOffset s instr) (addedBase s instr) 0#64 hk
    rw [BitVec.add_zero, truncate_eq_iff_modEq hk,
      show truncate 0#64 (leaCommonBytes s size width) = 0#64 from BitVec.zero_and] at hcancel
    exact hcancel
  rw [hcuts, mod_two_pow_eq_iff, hmin, hlow]
  exact ⟨fun ⟨h1, h2, h3⟩ => ⟨h1, h2, h3⟩, fun h => ⟨h.noBase, h.mode_fits, h.size_fits⟩⟩

/-- An operand is addressed as the architecture has it exactly when the
overhang of its offset makes up for the omitted base, and `LEA` stores the
offset exactly under `LeaExact`. -/
theorem effective_address (ctx : ExecutionContext) (size : AddressSize) :
    (memoryAddress ctx.state ctx.instr = effectiveAddress ctx.state ctx.instr size ↔
        maskLinearAddress ctx.state (overhang ctx.state ctx.instr size) =
          maskLinearAddress ctx.state (omittedBase ctx.state ctx.instr)) ∧
      ∀ width : RmWideWidth, (ctx.instr.opRegister 0).General →
        (handleLea width ctx =
            .ok () (withDestination ctx (effectiveOffset ctx.state ctx.instr size) width.bytes) ↔
          LeaExact ctx.state ctx.instr size width) := by
  refine ⟨memoryAddress_eq_iff ctx.state ctx.instr size, fun width hreg => ?_⟩
  rw [← truncate_memoryAddress_iff, ← withDestination_inj ctx width _ _ hreg, handleLea_eq]
  constructor
  · intro h
    exact (EStateM.Result.ok.inj h).2
  · intro h
    rw [h]

/-- 64-bit code with `FS` based at `0x1000`, `EBX` all ones and `RCX` one. -/
def addressContext (instr : Instruction) : ExecutionContext where
  state := ({ fsBase := 0x1000#64 : CpuState }.setGpr 3 0xFFFFFFFF#64).setGpr 1 1#64
  memory := {}
  instr := instr
  nextRip := 0#64

/-- `LEA RAX, [RBX + RCX*4 + 8]`. -/
def leaScaled : Instruction where
  code := .other 0
  length := 5
  opRegister := fun _ => .rax
  memoryBase := .r64 3
  memoryIndex := .rcx
  memoryIndexScale := 4#64
  memoryDisplacement64 := 8#64

/-- `LEA RAX, FS:[RBX]`. -/
def leaFs : Instruction where
  code := .other 0
  length := 4
  opRegister := fun _ => .rax
  memoryBase := .r64 3
  segmentPrefix := .fs

/-- `[EBX + ECX]`, the 32-bit operand of an instruction with a 67 prefix. -/
def operandEbxEcx : Instruction where
  code := .other 0
  length := 4
  memoryBase := .r32 3
  memoryIndex := .ecx

/-- A scaled index. -/
theorem effective_address_scaled :
    handleLea .rm64 (addressContext leaScaled) =
      .ok () (withDestination (addressContext leaScaled) 0x10000000B#64 8) :=
  ((effective_address (addressContext leaScaled) .addr64).2 .rm64 trivial).mpr
    ⟨rfl, by decide, by decide⟩

/-- Past 4 GiB the 32-bit operand does not wrap, and `LEA` stores the offset
with the base of `FS`. -/
theorem effective_address_fails :
    (memoryAddress (addressContext operandEbxEcx).state operandEbxEcx = 0x100000000#64 ∧
      effectiveAddress (addressContext operandEbxEcx).state operandEbxEcx .addr32 = 0#64) ∧
      ((handleLea .rm64).run (addressContext leaFs)).2.state.gpr 0 = 0x100000FFF#64 ∧
      effectiveOffset (addressContext leaFs).state leaFs .addr64 = 0xFFFFFFFF#64 :=
  ⟨⟨rfl, rfl⟩, rfl, rfl⟩

end Seven
