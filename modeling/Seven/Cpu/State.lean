import Seven.Memory.Basic

/-!
# CPU state, results, masks

`CpuState` is the architectural state the executor and every handler share,
field for field; register files are functions from a bounded index. The
three execution modes fix the width of the instruction and the stack
pointer, and with it the masks that are applied to them: every address the
core forms goes through `maskLinearAddress`, every stack pointer through
`maskStackPointer`.

`ExecutionResult` is what a handler and a step return. `ok` is *none or
halted*; a fault carries its reason and address.
-/

namespace Seven

-- the register files' sizes, so that an index is the same term in every module
instance neZeroTwo : NeZero 2 := ⟨by decide⟩
instance neZeroSix : NeZero 6 := ⟨by decide⟩
instance neZeroEight : NeZero 8 := ⟨by decide⟩
instance neZeroSixteen : NeZero 16 := ⟨by decide⟩

/-! ## Modes and results -/

/-- `ExecutionMode`. -/
inductive ExecutionMode where
  | real16
  | compat32
  | long64
deriving DecidableEq, Repr

/-- `decoder_bitness`. -/
def decoderBitness : ExecutionMode → Nat
  | .real16 => 16
  | .compat32 => 32
  | .long64 => 64

/-- `instruction_pointer_width`, in bytes. -/
def instructionPointerWidth : ExecutionMode → Nat
  | .real16 => 2
  | .compat32 => 4
  | .long64 => 8

/-- `stack_pointer_width`. -/
def stackPointerWidth (mode : ExecutionMode) : Nat := instructionPointerWidth mode

/-- `StopReason`. -/
inductive StopReason where
  | none
  | halted
  | invalidOpcode
  | unsupportedInstruction
  | floatingPointException
  | pageFault
  | divideError
  | generalProtection
  | decodeError
  | executionLimit
  | stopRequested
deriving DecidableEq, Repr

/-- `ExceptionInfo`. -/
structure ExceptionInfo where
  reason : StopReason
  address : U64
  errorCode : BitVec 32
deriving DecidableEq

/-! ## The state -/

/-- `DescriptorTableRegister`: `GDTR` and `IDTR`. -/
structure DescriptorTableRegister where
  base : U64 := 0#64
  limit : BitVec 16 := 0#16

/-- EFER and STAR as the emulator starts with them. -/
def initialMsr : Std.ExtTreeMap Nat U64 :=
  ((∅ : Std.ExtTreeMap Nat U64).insert 0xC0000080 0xD01#64).insert 0xC0000081 0x0023001000000000#64

/-- `CpuState`. -/
structure CpuState where
  gpr : Fin 16 → U64 := fun _ => 0#64
  mmx : Fin 8 → U64 := fun _ => 0#64
  /-- ES, CS, SS, DS, FS, GS selectors. -/
  sreg : Fin 6 → BitVec 16 := fun _ => 0#16
  cr : Fin 16 → U64 := fun i => if i = 0 then 0x80050033#64 else if i = 4 then 0x370678#64 else 0#64
  dr : Fin 16 → U64 := fun _ => 0#64
  tr : Fin 8 → U64 := fun _ => 0#64
  rip : U64 := 0#64
  mode : ExecutionMode := .long64
  rflags : U64 := 0x202#64
  fsBase : U64 := 0#64
  gsBase : U64 := 0#64
  gdtr : DescriptorTableRegister := {}
  idtr : DescriptorTableRegister := {}
  msr : Std.ExtTreeMap Nat U64 := initialMsr
  xcr : Fin 2 → U64 := fun i => if i = 0 then 3#64 else 0#64
  mxcsr : BitVec 32 := 0x1F80#32
  x87ControlWord : BitVec 16 := 0x037F#16
  x87StatusWord : BitVec 16 := 0#16
  x87Top : BitVec 8 := 0#8
  x87Stack : Fin 8 → BitVec 80 := fun _ => 0#80
  x87Tags : Fin 8 → BitVec 8 := fun _ => 0x3#8
  opmask : Fin 8 → U64 := fun _ => 0#64
  vectors : Fin 32 → BitVec 512 := fun _ => 0#512
  debugSuppression : BitVec 8 := 0#8
  pendingSingleStep : Bool := false
  pendingDebugHitBits : U64 := 0#64

/-- The low four registers of a file of sixteen. -/
def lowIndex (i : Fin 4) : Fin 16 := i.castLE (by decide)

/-! ## Masks and flags -/

/-- `width >= 8 ? ~0 : (1 << width * 8) - 1`. -/
def maskForWidth (width : Nat) : U64 :=
  if width ≥ 8 then BitVec.allOnes 64 else (1#64 <<< (width * 8)) - 1#64

/-- `mode_address_mask`. -/
def modeAddressMask (mode : ExecutionMode) : U64 := maskForWidth (instructionPointerWidth mode)

/-- `mask_instruction_pointer`. -/
def maskInstructionPointer (state : CpuState) (value : U64) : U64 :=
  value &&& modeAddressMask state.mode

/-- `mask_stack_pointer`. -/
def maskStackPointer (state : CpuState) (value : U64) : U64 :=
  value &&& maskForWidth (stackPointerWidth state.mode)

/-- `mask_linear_address`. -/
def maskLinearAddress (state : CpuState) (value : U64) : U64 :=
  value &&& modeAddressMask state.mode

/-- Carry. -/
def kFlagCF : U64 := 1#64 <<< 0
/-- Parity of the low byte. -/
def kFlagPF : U64 := 1#64 <<< 2
/-- Carry out of bit 3. -/
def kFlagAF : U64 := 1#64 <<< 4
/-- Zero. -/
def kFlagZF : U64 := 1#64 <<< 6
/-- Sign. -/
def kFlagSF : U64 := 1#64 <<< 7
/-- Trap after the next instruction. -/
def kFlagTF : U64 := 1#64 <<< 8
/-- Interrupts enabled. -/
def kFlagIF : U64 := 1#64 <<< 9
/-- String instructions go downwards. -/
def kFlagDF : U64 := 1#64 <<< 10
/-- Signed overflow. -/
def kFlagOF : U64 := 1#64 <<< 11
/-- Resume: no execute breakpoint at the next instruction. -/
def kFlagRF : U64 := 1#64 <<< 16

/-- Is a flag bit set? -/
def flagSet (rflags bit : U64) : Bool := rflags &&& bit != 0#64

/-- `set_flag`. -/
def setFlag (rflags bit : U64) (value : Bool) : U64 :=
  if value then rflags ||| bit else rflags &&& ~~~bit

/-- `truncate`. -/
def truncate (value : U64) (width : Nat) : U64 := value &&& maskForWidth width

/-- `sign_bit_for_width`. -/
def signBitForWidth (width : Nat) : U64 := 1#64 <<< (width * 8 - 1)

/-- `sign_extend`. -/
def signExtend (value : U64) (width : Nat) : U64 :=
  let mask := maskForWidth width
  let v := value &&& mask
  if v &&& signBitForWidth width = 0#64 then v else v ||| ~~~mask

/-- `even_parity`, by the table `0x6996` of the parities of a nibble. -/
def evenParity (value : U64) : Bool :=
  let v := value &&& 0xFF#64
  let folded := (v ^^^ (v >>> 4)) &&& 0x0F#64
  (0x6996#64 >>> folded.toNat) &&& 1#64 == 0#64

/-! ## Updates -/

namespace CpuState

/-- A general register replaced. -/
def setGpr (s : CpuState) (i : Fin 16) (value : U64) : CpuState :=
  { s with gpr := fun j => if j = i then value else s.gpr j }

/-- A segment register replaced. -/
def setSreg (s : CpuState) (i : Fin 6) (value : BitVec 16) : CpuState :=
  { s with sreg := fun j => if j = i then value else s.sreg j }

/-- A debug register replaced. -/
def setDr (s : CpuState) (i : Fin 16) (value : U64) : CpuState :=
  { s with dr := fun j => if j = i then value else s.dr j }

/-- The stack pointer, `gpr[4]`. -/
def rsp (s : CpuState) : U64 := s.gpr 4

/-- `RSP` replaced. -/
def setRsp (s : CpuState) (value : U64) : CpuState := s.setGpr 4 value

/-- A register reads back what was put there. -/
@[simp] theorem setGpr_self (s : CpuState) (i : Fin 16) (value : U64) :
    (s.setGpr i value).gpr i = value := if_pos rfl

/-- `RSP` reads back what was put there. -/
@[simp] theorem setRsp_rsp (s : CpuState) (value : U64) : (s.setRsp value).rsp = value := rfl

/-- Moving `RSP` does not change the mode. -/
@[simp] theorem setRsp_mode (s : CpuState) (value : U64) : (s.setRsp value).mode = s.mode := rfl

/-- The last of two moves of `RSP` stands. -/
@[simp] theorem setRsp_setRsp (s : CpuState) (a b : U64) : (s.setRsp a).setRsp b = s.setRsp b := by
  simp only [setRsp, setGpr, mk.injEq, and_true]
  funext j
  split <;> rfl

/-- Writing the stack pointer is invisible exactly when it already holds
the value. -/
theorem setRsp_eq_self_iff (s : CpuState) (value : U64) : s.setRsp value = s ↔ value = s.rsp := by
  constructor
  · intro h
    rw [← h]
    rfl
  · rintro rfl
    have hgpr : (fun j => if j = 4 then s.rsp else s.gpr j) = s.gpr := by
      funext j
      split
      next hj => rw [hj]; rfl
      next => rfl
    simp only [setRsp, setGpr, hgpr]

end CpuState

/-! ## Mask arithmetic -/

/-- The mask is a remainder. -/
theorem maskStackPointer_toNat (s : CpuState) (value : U64) :
    (maskStackPointer s value).toNat = value.toNat % 2 ^ (8 * stackPointerWidth s.mode) := by
  unfold maskStackPointer maskForWidth stackPointerWidth instructionPointerWidth
  cases s.mode with
  | real16 => exact BitVec.toNat_and .. |>.trans (Nat.and_two_pow_sub_one_eq_mod _ 16)
  | compat32 => exact BitVec.toNat_and .. |>.trans (Nat.and_two_pow_sub_one_eq_mod _ 32)
  | long64 => exact BitVec.toNat_and .. |>.trans (Nat.and_two_pow_sub_one_eq_mod _ 64)

/-- Masking twice is masking once. -/
theorem maskStackPointer_idem (s : CpuState) (value : U64) :
    maskStackPointer s (maskStackPointer s value) = maskStackPointer s value := by
  apply BitVec.eq_of_toNat_eq
  simp only [maskStackPointer_toNat, Nat.mod_mod]

end Seven
