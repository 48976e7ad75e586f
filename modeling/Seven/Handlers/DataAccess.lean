import Seven.Handlers.Alu
import Seven.Handlers.EffectiveAddress
import Seven.Handlers.Stack

/-!
# The data accesses of a handler

Which byte addresses does an instruction pass to the memory? There are ten
ways to form an address in the handlers, the constructors of `AddressForm`.
A `DataAccess` is one of them with a number of bytes, in the state it is made
in.

`memory_address` and `mask_stack_pointer` cut an address at the mode's width.
No access is cut again on its way to the memory. So an access stays in the
mode's address space when its first address does and it does not run over the
top; for the forms that take a 64-bit register as it is, the first part is a
condition too. `Fits` says both of the registers the address is formed from:

> `DataAccess.confined_iff`: the bytes of an access lie in the mode's address
> space exactly when the access fits.
-/

namespace Seven

/-! ## Address forms -/

/-- The ways the handlers form an address. -/
inductive AddressForm where
  /-- `memory_address(ctx)` and a constant: operands, the selector of a far
  pointer, the second bound of `BOUND`, the fields of an x87 image. -/
  | operand (offset : BitVec 16)
  /-- The element of a bit string that a bit index falls in. -/
  | bitElement (width : RmWideWidth) (index : U64)
  /-- `gpr[4]`: pops, and pushes behind the move of the stack pointer. -/
  | stackTop
  /-- The slot `ENTER` stores the frame pointer in. -/
  | enterSlot (width : StackWidth)
  /-- The slot `LEAVE` loads it from. -/
  | leaveSlot (width : StackWidth)
  /-- `RBX` and `AL`. -/
  | translation
  /-- `RSI`, as far as a loop has moved it. -/
  | source (moved : U64)
  /-- `RDI`, as far as a loop has moved it. -/
  | destination (moved : U64)
  /-- A register under the mask of a width: the store of `MOVDIR64B`. -/
  | maskedRegister (reg : Register) (width : RmWideWidth)
  /-- An entry of the interrupt descriptor table. -/
  | idtEntry (vector : BitVec 8) (offset : BitVec 16)

/-- `read_register` of `SP`, `ESP` and `RSP`, or of another register. -/
def StackWidth.register (i : Fin 16) : StackWidth → Register
  | .w16 => .r16 i
  | .w32 => .r32 i
  | .w64 => .r64 i

/-- `(sp - 2) & 0xFFFF`, `sp - 4`, `sp - 8`: only the first is cut. -/
def enterAddress (s : CpuState) (width : StackWidth) : U64 :=
  let sp := readRegister s (width.register 4)
  match width with
  | .w16 => (sp - 2#64) &&& 0xFFFF#64
  | .w32 => sp - 4#64
  | .w64 => sp - 8#64

/-- The address the form names, in a state. -/
def AddressForm.address (s : CpuState) (instr : Instruction) : AddressForm → U64
  | .operand offset => memoryAddress s instr + offset.setWidth 64
  | .bitElement width index =>
    memoryAddress s instr + index.sshiftRight (bitSpanShift width.bytes) *
      BitVec.ofNat 64 width.bytes
  | .stackTop => s.rsp
  | .enterSlot width => enterAddress s width
  | .leaveSlot width => readRegister s (width.register 5)
  | .translation => readRegister s (.r64 3) + readRegister s .al
  | .source moved => s.gpr 6 + moved
  | .destination moved => s.gpr 7 + moved
  | .maskedRegister reg width => readRegister s reg &&& maskForWidth width.bytes
  | .idtEntry vector offset => idtEntryBase s vector + offset.setWidth 64

/-! ## Accesses -/

/-- A load or a store: what address, how many bytes, in which state. -/
structure DataAccess where
  state : CpuState
  instr : Instruction
  form : AddressForm
  size : Nat

/-- The size of a mode's address space. -/
def addressSpace (mode : ExecutionMode) : Nat := 2 ^ (8 * instructionPointerWidth mode)

example : addressSpace .real16 = 2 ^ 16 ∧ addressSpace .compat32 = 2 ^ 32 := ⟨rfl, rfl⟩

namespace DataAccess

/-- Where the access begins. -/
def address (a : DataAccess) : U64 := a.form.address a.state a.instr

/-- Outside 64-bit mode every byte lies in the mode's address space. -/
def Confined (a : DataAccess) : Prop :=
  a.state.mode ≠ .long64 →
    ∀ i < a.size, (a.address + BitVec.ofNat 64 i).toNat < addressSpace a.state.mode

end DataAccess

/-- `n` bytes at the address do not reach `top`, said of the registers the
address is formed from. -/
def AddressForm.FitsBelow (top : Nat) (s : CpuState) (instr : Instruction) (n : Nat) :
    AddressForm → Prop
  | .operand offset => (memoryAddress s instr).toNat + offset.toNat + n ≤ top
  | .bitElement width index =>
    let start := ((memoryAddress s instr).toNat : Int) +
      index.toInt / (8 * width.bytes) * width.bytes
    0 ≤ start ∧ start + n ≤ top
  | .stackTop => s.rsp.toNat + n ≤ top
  | .enterSlot .w16 => (s.rsp.toNat + 65534) % 2 ^ 16 + n ≤ top
  | .enterSlot .w32 => 4 ≤ s.rsp.toNat % 2 ^ 32 ∧ s.rsp.toNat % 2 ^ 32 - 4 + n ≤ top
  | .enterSlot .w64 => 8 ≤ s.rsp.toNat ∧ s.rsp.toNat - 8 + n ≤ top
  | .leaveSlot width => (s.gpr 5).toNat % 2 ^ (8 * width.bytes) + n ≤ top
  | .translation => ((s.gpr 3).toNat + (s.gpr 0).toNat % 2 ^ 8) % 2 ^ 64 + n ≤ top
  | .source moved => ((s.gpr 6).toNat + moved.toNat) % 2 ^ 64 + n ≤ top
  | .destination moved => ((s.gpr 7).toNat + moved.toNat) % 2 ^ 64 + n ≤ top
  | .maskedRegister reg width =>
    (readRegister s reg).toNat % 2 ^ (8 * width.bytes) + n ≤ top
  | .idtEntry vector offset =>
    (s.idtr.base.toNat + vector.toNat * idtEntrySize s.mode + offset.toNat) % 2 ^ 64 + n ≤ top

/-- The access ends inside the mode's address space. -/
def DataAccess.Fits (a : DataAccess) : Prop :=
  a.state.mode ≠ .long64 → a.size ≠ 0 →
    a.form.FitsBelow (addressSpace a.state.mode) a.state a.instr a.size

/-! ## Fitting is being confined -/

/-- Outside long mode the space has at most 2^32 bytes. -/
theorem addressSpace_le {mode : ExecutionMode} (h : mode ≠ .long64) :
    addressSpace mode ≤ 2 ^ 32 := by
  cases mode with
  | real16 => exact Nat.pow_le_pow_right (Nat.le_succ 1) (Nat.le_of_ble_eq_true rfl)
  | compat32 => exact Nat.le_refl _
  | long64 => exact absurd rfl h

/-- **A range of addresses stays below a bound exactly when it starts there
and ends there.** The address after the last one below `2 ^ 64` is 0, but
before it comes the bound. -/
theorem bytes_lt_iff (a : U64) {n top : Nat} (hn : n ≠ 0) (htop : top < 2 ^ 64) :
    (∀ i < n, (a + BitVec.ofNat 64 i).toNat < top) ↔ a.toNat + n ≤ top := by
  have hbyte {i : Nat} (h : a.toNat + i < 2 ^ 64) :
      (a + BitVec.ofNat 64 i).toNat = a.toNat + i := by
    rw [BitVec.toNat_add, BitVec.toNat_ofNat, Nat.add_mod_mod, Nat.mod_eq_of_lt h]
  constructor
  · intro h
    have hstart := h 0 (Nat.pos_of_ne_zero hn)
    rw [hbyte (by omega)] at hstart
    by_contra hover
    -- the byte at the bound itself
    have hend := h (top - a.toNat) (by omega)
    rw [hbyte (by omega)] at hend
    omega
  · intro h i hi
    rw [hbyte (by omega)]
    omega

/-- An operand's address lies in the space of its mode. -/
theorem memoryAddress_lt (s : CpuState) (instr : Instruction) :
    (memoryAddress s instr).toNat < addressSpace s.mode := by
  have hcut (v : U64) : (maskLinearAddress s v).toNat < addressSpace s.mode := by
    rw [maskLinearAddress_eq_truncate, truncate_toNat v (instructionPointerWidth_le s.mode)]
    exact Nat.mod_lt _ (Nat.two_pow_pos _)
  unfold memoryAddress
  split
  · exact hcut _
  · exact hcut _

/-- A displacement that is not far below: the sum fits exactly when it does
without the container. -/
theorem displaced_fits_iff (a p : U64) {n top : Nat} (ha : a.toNat < 2 ^ 32)
    (hlow : -2 ^ 62 ≤ p.toInt) (htop : top ≤ 2 ^ 32) :
    (a + p).toNat + n ≤ top ↔
      0 ≤ (a.toNat : Int) + p.toInt ∧ (a.toNat : Int) + p.toInt + n ≤ top := by
  have hp := p.isLt
  rw [BitVec.toInt_eq_toNat_cond] at hlow ⊢
  rw [BitVec.toNat_add]
  split at hlow
  · rw [if_pos ‹_›, Nat.mod_eq_of_lt (by omega)]
    omega
  · rw [if_neg ‹_›]
    by_cases hwrap : a.toNat + p.toNat < 2 ^ 64
    · rw [Nat.mod_eq_of_lt hwrap]
      omega
    · rw [Nat.mod_eq_sub_mod (Nat.le_of_not_lt hwrap), Nat.mod_eq_of_lt (by omega)]
      omega

/-- The displacement of a bit string's element: the bit index is divided by
the bits of an element, downwards. -/
theorem bitDisplacement_toInt (width : RmWideWidth) (index : U64) :
    (index.sshiftRight (bitSpanShift width.bytes) * BitVec.ofNat 64 width.bytes).toInt =
      index.toInt / (8 * width.bytes) * width.bytes := by
  have hlow := BitVec.le_toInt index
  have hhigh : index.toInt < 2 ^ 63 := BitVec.toInt_lt
  -- The shift is the floor division by the element's bits, also for a negative index.
  have helement : (index.sshiftRight (bitSpanShift width.bytes)).toInt =
      index.toInt / (8 * width.bytes) := by
    rw [BitVec.toInt_sshiftRight, Int.shiftRight_eq_div_pow]
    cases width with
    | rm16 => rfl
    | rm32 => rfl
    | rm64 => rfl
  have hscale : (BitVec.ofNat 64 width.bytes).toInt = width.bytes := by
    cases width with
    | rm16 => rfl
    | rm32 => rfl
    | rm64 => rfl
  rw [BitVec.toInt_mul, helement, hscale]
  apply Int.bmod_eq_of_le
  · cases width with
    | rm16 => show _ ≤ index.toInt / 16 * 2; omega
    | rm32 => show _ ≤ index.toInt / 32 * 4; omega
    | rm64 => show _ ≤ index.toInt / 64 * 8; omega
  · cases width with
    | rm16 => show index.toInt / 16 * 2 < _; omega
    | rm32 => show index.toInt / 32 * 4 < _; omega
    | rm64 => show index.toInt / 64 * 8 < _; omega

/-- A bit index reaches at most 2^62 bytes down. -/
theorem bitDisplacement_ge (width : RmWideWidth) (index : U64) :
    -2 ^ 62 ≤ index.toInt / (8 * width.bytes) * width.bytes := by
  have hlow := BitVec.le_toInt index
  cases width with
  | rm16 => show _ ≤ index.toInt / 16 * 2; omega
  | rm32 => show _ ≤ index.toInt / 32 * 4; omega
  | rm64 => show _ ≤ index.toInt / 64 * 8; omega

/-- A general register as an instruction of the width reads it. -/
theorem readRegister_toNat (s : CpuState) (width : StackWidth) (i : Fin 16) :
    (readRegister s (width.register i)).toNat = (s.gpr i).toNat % 2 ^ (8 * width.bytes) := by
  cases width with
  | w16 => exact truncate_toNat (s.gpr i) (show 2 ≤ 8 by omega)
  | w32 => exact truncate_toNat (s.gpr i) (show 4 ≤ 8 by omega)
  | w64 => exact (Nat.mod_eq_of_lt (s.gpr i).isLt).symm

/-- A subtraction in 64 bits, against a space of 32. -/
theorem sub_fits_iff (a : U64) {k n top : Nat} (hk : k ≤ 8) (htop : top ≤ 2 ^ 32) :
    (a - BitVec.ofNat 64 k).toNat + n ≤ top ↔ k ≤ a.toNat ∧ a.toNat - k + n ≤ top := by
  have ha := a.isLt
  rw [BitVec.toNat_sub, BitVec.toNat_ofNat, Nat.mod_eq_of_lt (show k < 2 ^ 64 by omega)]
  by_cases hbelow : a.toNat < k
  · rw [Nat.mod_eq_of_lt (by omega)]
    omega
  · rw [Nat.mod_eq_sub_mod (by omega), Nat.mod_eq_of_lt (by omega)]
    omega

/-- `ENTER`'s slot. -/
theorem enterAddress_fits_iff (s : CpuState) (instr : Instruction) (width : StackWidth)
    {n top : Nat} (htop : top ≤ 2 ^ 32) :
    (enterAddress s width).toNat + n ≤ top ↔
      (AddressForm.enterSlot width).FitsBelow top s instr n := by
  have hsp := readRegister_toNat s width 4
  cases width with
  | w16 =>
    show (truncate (readRegister s (.r16 4) - 2#64) 2).toNat + n ≤ top ↔
      (s.rsp.toNat + 65534) % 2 ^ 16 + n ≤ top
    have hsub : (truncate (readRegister s (.r16 4) - 2#64) 2).toNat =
        (s.rsp.toNat + 65534) % 2 ^ 16 := by
      have hsp16 : (readRegister s (.r16 4)).toNat = s.rsp.toNat % 2 ^ 16 := hsp
      rw [truncate_toNat _ (show 2 ≤ 8 by omega), BitVec.toNat_sub, hsp16]
      show (2 ^ 64 - 2 + s.rsp.toNat % 2 ^ 16) % 2 ^ 64 % 2 ^ 16 = _
      omega
    rw [hsub]
  | w32 =>
    have hesp : (readRegister s (.r32 4)).toNat = s.rsp.toNat % 2 ^ 32 := hsp
    show (readRegister s (.r32 4) - 4#64).toNat + n ≤ top ↔
      4 ≤ s.rsp.toNat % 2 ^ 32 ∧ s.rsp.toNat % 2 ^ 32 - 4 + n ≤ top
    rw [← hesp]
    exact sub_fits_iff _ (show 4 ≤ 8 by omega) htop
  | w64 => exact sub_fits_iff s.rsp (show 8 ≤ 8 by omega) htop

/-- A descriptor's words. -/
theorem idtEntryBase_toNat (s : CpuState) (vector : BitVec 8) (offset : BitVec 16) :
    (idtEntryBase s vector + offset.setWidth 64).toNat =
      (s.idtr.base.toNat + vector.toNat * idtEntrySize s.mode + offset.toNat) % 2 ^ 64 := by
  have hvector := vector.isLt
  have hoffset := offset.isLt
  have hsize : idtEntrySize s.mode ≤ 16 := by
    cases s.mode with
    | real16 => exact Nat.le_of_ble_eq_true rfl
    | compat32 => exact Nat.le_of_ble_eq_true rfl
    | long64 => exact Nat.le_refl 16
  have hproduct : vector.toNat * idtEntrySize s.mode ≤ 256 * 16 :=
    Nat.mul_le_mul hvector.le hsize
  unfold idtEntryBase
  rw [BitVec.toNat_add, BitVec.toNat_add, BitVec.toNat_mul, BitVec.toNat_setWidth,
    BitVec.toNat_setWidth, BitVec.toNat_ofNat, Nat.mod_eq_of_lt (show vector.toNat < 2 ^ 64 by omega),
    Nat.mod_eq_of_lt (show offset.toNat < 2 ^ 64 by omega),
    Nat.mod_eq_of_lt (show idtEntrySize s.mode < 2 ^ 64 by omega),
    Nat.mod_eq_of_lt (show vector.toNat * idtEntrySize s.mode < 2 ^ 64 by omega), Nat.mod_add_mod]

/-- **The condition on the registers is that the address fits.** -/
theorem AddressForm.fitsBelow_iff (form : AddressForm) (s : CpuState) (instr : Instruction)
    {n : Nat} (hmode : s.mode ≠ .long64) :
    (form.address s instr).toNat + n ≤ addressSpace s.mode ↔
      form.FitsBelow (addressSpace s.mode) s instr n := by
  have htop := addressSpace_le hmode
  have hoperand := memoryAddress_lt s instr
  -- One case for each way an address is formed; below the top of the space no sum wraps unseen.
  cases form with
  | operand offset =>
    show (memoryAddress s instr + offset.setWidth 64).toNat + n ≤ _ ↔
      (memoryAddress s instr).toNat + offset.toNat + n ≤ _
    have hoffset := offset.isLt
    rw [BitVec.toNat_add, BitVec.toNat_setWidth, Nat.add_mod_mod, Nat.mod_eq_of_lt (by omega)]
  | bitElement width index =>
    have hdisplacement := bitDisplacement_toInt width index
    show (memoryAddress s instr + index.sshiftRight (bitSpanShift width.bytes) *
      BitVec.ofNat 64 width.bytes).toNat + n ≤ _ ↔ _
    rw [displaced_fits_iff _ _ (by omega) (hdisplacement ▸ bitDisplacement_ge width index) htop,
      hdisplacement]
    exact Iff.rfl
  | stackTop => exact Iff.rfl
  | enterSlot width => exact enterAddress_fits_iff s instr width htop
  | leaveSlot width =>
    show (readRegister s (width.register 5)).toNat + n ≤ _ ↔ _
    rw [readRegister_toNat]
    exact Iff.rfl
  | translation =>
    show (s.gpr 3 + truncate (s.gpr 0) 1).toNat + n ≤ _ ↔ _
    rw [BitVec.toNat_add, truncate_toNat _ (show 1 ≤ 8 by omega)]
    exact Iff.rfl
  | source moved =>
    show (s.gpr 6 + moved).toNat + n ≤ _ ↔ ((s.gpr 6).toNat + moved.toNat) % 2 ^ 64 + n ≤ _
    rw [BitVec.toNat_add]
  | destination moved =>
    show (s.gpr 7 + moved).toNat + n ≤ _ ↔ ((s.gpr 7).toNat + moved.toNat) % 2 ^ 64 + n ≤ _
    rw [BitVec.toNat_add]
  | maskedRegister reg width =>
    show (truncate (readRegister s reg) width.bytes).toNat + n ≤ _ ↔ _
    rw [truncate_toNat _ width.bytes_le]
    exact Iff.rfl
  | idtEntry vector offset =>
    show (idtEntryBase s vector + offset.setWidth 64).toNat + n ≤ _ ↔ _
    rw [idtEntryBase_toNat]
    exact Iff.rfl

/-- **An access is confined exactly when it fits.** -/
theorem DataAccess.confined_iff (a : DataAccess) : a.Confined ↔ a.Fits := by
  unfold DataAccess.Confined DataAccess.Fits
  apply forall_congr'
  intro hmode
  have htop := addressSpace_le hmode
  by_cases hsize : a.size = 0
  · rw [hsize]
    exact iff_of_true (fun i hi => absurd hi (Nat.not_lt_zero i)) (fun h => absurd rfl h)
  · rw [bytes_lt_iff a.address hsize (by omega)]
    exact (a.form.fitsBelow_iff a.state a.instr hmode).trans
      ⟨fun h _ => h, fun h => h hsize⟩

end Seven
