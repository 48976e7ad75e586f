import Seven.Handlers.StateFrame
import Seven.Handlers.Decimal
import Seven.Handlers.Binary

/-!
# Who writes RFLAGS

Bit 1 of RFLAGS is always set, bits 3, 5, 15 and those above 21 are reserved
and clear: `FlagsWellFormed`. Most handlers set single flags with `set_flag`
and cannot touch these bits. A few replace the whole register: `POPF`, `IRET`
and `SYSRET` load an image from the stack or from R11, and `SYSCALL` clears
the bits of a mask.

`FlagsFit` says of a handler's context that the image it would load is well
formed (`POPFQ` sets bit 1 itself), and the `_flags_iff` theorems say that
the flags are well formed behind a handler exactly then.
-/

namespace Seven

open Seven.Lib

/-! ## Well-formed flags -/

/-- Bits 3, 5, 15 and 22 to 63. -/
def IsReservedFlag (i : Nat) : Prop := i = 3 ∨ i = 5 ∨ i = 15 ∨ 22 ≤ i

instance (i : Nat) : Decidable (IsReservedFlag i) := by
  unfold IsReservedFlag
  infer_instance

/-- Every reserved bit is clear. -/
def ReservedClear (rflags : U64) : Prop := ∀ i, IsReservedFlag i → rflags.getLsbD i = false

/-- Bit 1 set and the reserved bits clear. -/
structure FlagsWellFormed (rflags : U64) : Prop where
  one : rflags.getLsbD 1 = true
  reserved : ReservedClear rflags

/-- The reserved bits other than bit 1. -/
def kReservedFlags : U64 := 0xFFFFFFFFFFC08028#64

/-- The reserved bits and bit 1. -/
def kFixedFlags : U64 := kReservedFlags ||| 2#64

/-- Which bits these are. -/
theorem getLsbD_kReservedFlags : ∀ i < 64, kReservedFlags.getLsbD i = decide (IsReservedFlag i) := by
  decide

/-- The test as one mask. -/
theorem reservedClear_iff (rflags : U64) :
    ReservedClear rflags ↔ rflags &&& kReservedFlags = 0#64 := by
  constructor
  · intro h
    apply BitVec.eq_of_getLsbD_eq
    intro i hi
    rw [BitVec.getLsbD_and, getLsbD_kReservedFlags i hi, BitVec.getLsbD_zero]
    by_cases hr : IsReservedFlag i
    · rw [h i hr, Bool.false_and]
    · rw [decide_eq_false hr, Bool.and_false]
  · intro h i hr
    by_cases hi : i < 64
    · have hbit := congrArg (BitVec.getLsbD · i) h
      rw [BitVec.getLsbD_and, getLsbD_kReservedFlags i hi, decide_eq_true hr, Bool.and_true] at hbit
      exact hbit.trans BitVec.getLsbD_zero
    · exact BitVec.getLsbD_of_ge _ _ (by omega)

/-- The form is a matter of the fixed bits. -/
theorem flagsWellFormed_iff (rflags : U64) :
    FlagsWellFormed rflags ↔ rflags &&& kFixedFlags = 2#64 := by
  have hone : rflags.getLsbD 1 = true ↔ rflags &&& 2#64 = 2#64 := by
    rw [show (2#64 : U64) = BitVec.twoPow 64 1 by rfl, BitVec.and_twoPow]
    cases rflags.getLsbD 1 with
    | true => exact iff_of_true rfl rfl
    | false => exact iff_of_false Bool.false_ne_true (by decide)
  unfold kFixedFlags
  rw [BitVec.and_or_distrib_left]
  constructor
  · rintro ⟨h1, hr⟩
    rw [(reservedClear_iff rflags).mp hr, hone.mp h1, BitVec.zero_or]
  · intro h
    -- the two masks are disjoint: each part of the union is known from the union
    have hand (mask : U64) := congrArg (· &&& mask) h
    refine ⟨hone.mpr ?_, (reservedClear_iff rflags).mpr ?_⟩
    · have := hand 2#64
      rw [BitVec.and_or_distrib_right, BitVec.and_assoc, BitVec.and_assoc,
        show kReservedFlags &&& 2#64 = 0#64 by decide, BitVec.and_self, BitVec.and_zero,
        BitVec.zero_or] at this
      exact this
    · have := hand kReservedFlags
      rw [BitVec.and_or_distrib_right, BitVec.and_assoc, BitVec.and_assoc,
        show 2#64 &&& kReservedFlags = 0#64 by decide, BitVec.and_self, BitVec.and_zero,
        BitVec.or_zero] at this
      exact this

instance (rflags : U64) : Decidable (FlagsWellFormed rflags) :=
  decidable_of_iff _ (flagsWellFormed_iff rflags).symm

instance (rflags : U64) : Decidable (ReservedClear rflags) :=
  decidable_of_iff _ (reservedClear_iff rflags).symm

/-- Outside of a mask the old flags, inside of it an image: that is how every
load of the flags builds them. -/
theorem getLsbD_merge (rflags image mask : U64) (i : Nat) (hi : i < 64) :
    ((rflags &&& ~~~mask) ||| (image &&& mask)).getLsbD i =
      if mask.getLsbD i then image.getLsbD i else rflags.getLsbD i := by
  rw [BitVec.getLsbD_or, BitVec.getLsbD_and, BitVec.getLsbD_and, BitVec.getLsbD_not]
  cases hm : mask.getLsbD i with
  | true => simp [hi]
  | false => simp [hi]

/-- A load through a mask that has bit 1 leaves the flags well formed exactly
when the image is, where the mask lets it through. -/
theorem flagsWellFormed_merge {rflags image mask : U64} (hold : FlagsWellFormed rflags)
    (hone : mask.getLsbD 1 = true) :
    FlagsWellFormed ((rflags &&& ~~~mask) ||| (image &&& mask)) ↔
      FlagsWellFormed (image &&& mask) := by
  have hbit (i : Nat) (hr : IsReservedFlag i) :
      ((rflags &&& ~~~mask) ||| (image &&& mask)).getLsbD i = (image &&& mask).getLsbD i := by
    by_cases hi : i < 64
    · rw [getLsbD_merge _ _ _ _ hi, BitVec.getLsbD_and, hold.reserved i hr]
      cases mask.getLsbD i with
      | true => rw [if_pos rfl, Bool.and_true]
      | false => rw [if_neg Bool.false_ne_true, Bool.and_false]
    · rw [BitVec.getLsbD_of_ge _ _ (by omega), BitVec.getLsbD_of_ge _ _ (by omega)]
  have hfirst : ((rflags &&& ~~~mask) ||| (image &&& mask)).getLsbD 1 =
      (image &&& mask).getLsbD 1 := by
    rw [getLsbD_merge _ _ _ _ (by decide), hone, if_pos rfl, BitVec.getLsbD_and, hone,
      Bool.and_true]
  constructor
  · rintro ⟨h1, hr⟩
    exact ⟨hfirst ▸ h1, fun i hi => (hbit i hi) ▸ hr i hi⟩
  · rintro ⟨h1, hr⟩
    exact ⟨hfirst.trans h1, fun i hi => (hbit i hi).trans (hr i hi)⟩

/-! ## Single flags -/

/-- Same fixed bits. -/
def SameFixedFlags (s t : CpuState) : Prop := t.rflags &&& kFixedFlags = s.rflags &&& kFixedFlags

/-- What leaves the fixed flags leaves the form. -/
theorem SameFixedFlags.wellFormed {s t : CpuState} (h : SameFixedFlags s t) :
    FlagsWellFormed t.rflags ↔ FlagsWellFormed s.rflags := by
  rw [flagsWellFormed_iff, flagsWellFormed_iff, h]

/-- `CLC` and the like. -/
def setFlagTo (bit : U64) (value : Bool) : Handler :=
  modifyState fun s => setFlags s (setFlag s.rflags bit value)

/-- `kFlagAC`: alignment check, bit 18. -/
def kFlagAC : U64 := 1#64 <<< 18

/-- `CLC`. -/
def handleClc : Handler := setFlagTo kFlagCF false

/-- `STC`. -/
def handleStc : Handler := setFlagTo kFlagCF true

/-- `CMC`. -/
def handleCmc : Handler :=
  modifyState fun s => setFlags s (setFlag s.rflags kFlagCF (!flagSet s.rflags kFlagCF))

/-- `CLD`. -/
def handleCld : Handler := setFlagTo kFlagDF false

/-- `STD`. -/
def handleStd : Handler := setFlagTo kFlagDF true

/-- `CLI`. -/
def handleCli : Handler := setFlagTo kFlagIF false

/-- `STI`. -/
def handleSti : Handler := setFlagTo kFlagIF true

/-- `CLAC`. -/
def handleClac : Handler := setFlagTo kFlagAC false

/-- `STAC`. -/
def handleStac : Handler := setFlagTo kFlagAC true

/-- `SAHF`: five flags, one by one. -/
def handleSahf : Handler := modifyState fun s =>
  let ah := readRegister s .ah
  let r := setFlag s.rflags kFlagSF (ah &&& 0x80#64 != 0#64)
  let r := setFlag r kFlagZF (ah &&& 0x40#64 != 0#64)
  let r := setFlag r kFlagAF (ah &&& 0x10#64 != 0#64)
  let r := setFlag r kFlagPF (ah &&& 0x04#64 != 0#64)
  setFlags s (setFlag r kFlagCF (ah &&& 0x01#64 != 0#64))

/-! ## System calls -/

/-- `read_msr`. -/
def CpuState.readMsr (s : CpuState) (index : Nat) : U64 := s.msr[index]?.getD 0#64

/-- The target of `SYSCALL`. -/
def kMsrLStar : Nat := 0xC0000082

/-- The flags `SYSCALL` clears. -/
def kMsrSFMASK : Nat := 0xC0000084

/-- `R11`, where `SYSCALL` saves the flags. -/
def Register.r11 : Register := .r64 11

/-- `ESP`. -/
def Register.esp : Register := .r32 4

/-- `SYSCALL`. -/
def handleSyscall : Handler := do
  let nextRip := (← get).nextRip
  modifyState fun s =>
    let s := writeRegister s .rcx nextRip 8
    let s := writeRegister s .r11 s.rflags 8
    let lstar := s.readMsr kMsrLStar
    let sfmask := s.readMsr kMsrSFMASK
    { s with rflags := s.rflags &&& ~~~sfmask, rip := lstar }
  takeControlFlow

/-- `SYSRETQ`: `R11` as it is. -/
def handleSysretq : Handler := do
  modifyState fun s =>
    let restoreRip := readRegister s .rcx
    let restoreFlags := readRegister s .r11
    { s with mode := .long64, rip := restoreRip, rflags := restoreFlags }
  takeControlFlow

/-- `SYSRETD`. -/
def handleSysretd : Handler := do
  modifyState fun s =>
    let restoreRip := readRegister s .ecx &&& 0xFFFFFFFF#64
    let restoreFlags := readRegister s .r11 &&& 0xFFFFFFFF#64
    let s := { s with mode := .compat32 }
    let s := writeRegister s .eax restoreRip 4
    let s := writeRegister s .esp (readRegister s .edx) 4
    { s with rip := restoreRip, rflags := restoreFlags }
  takeControlFlow

/-! ## What fits -/

/-- The flags image the instruction would load is well formed. -/
def StackShape.FlagsFit (shape : StackShape) (ctx : ExecutionContext) : Prop :=
  match shape with
  | .popfq => ∀ image ∈ ctx.memory.read ctx.state.rsp 8 .dataRead, ReservedClear (fromBytes image)
  | .iret width =>
    ∀ _target ∈ ctx.memory.read ctx.state.rsp width.bytes .dataRead,
    ∀ _selector ∈ ctx.memory.read (ctx.state.popped width.bytes).rsp 2 .dataRead,
    ∀ image ∈ ctx.memory.read ((ctx.state.popped width.bytes).popped 2).rsp width.bytes .dataRead,
      FlagsWellFormed (truncate (fromBytes image) width.bytes)
  | _ => True

instance (shape : StackShape) (ctx : ExecutionContext) : Decidable (shape.FlagsFit ctx) := by
  unfold StackShape.FlagsFit
  cases shape <;> dsimp only <;> infer_instance

/-! ## Handlers that set single flags -/

/-- Ordinary updates keep the fixed bits: they are no status flags. -/
theorem sameFixedFlags_frame : StateFrame SameFixedFlags where
  refl _ := rfl
  trans h h' := Eq.trans h' h
  gpr _ _ _ := rfl
  sreg _ _ _ := rfl
  register s reg value width := congrArg (· &&& kFixedFlags) (writeRegister_rflags s reg value width)
  rip _ _ := rfl
  mode _ _ := rfl
  flags s value h := by
    have hmask : kFixedFlags = ~~~kStatusFlags &&& kFixedFlags := by decide
    unfold SameFixedFlags
    rw [hmask, ← BitVec.and_assoc, ← BitVec.and_assoc]
    exact congrArg (· &&& kFixedFlags) h

/-- A flag other than a fixed one. -/
theorem setFlagTo_sameFixed {bit : U64} (hbit : bit &&& kFixedFlags = 0#64) (value : Bool) :
    Moves (OnState SameFixedFlags) (setFlagTo bit value) := fun _ => setFlag_and hbit value

/-- An interrupt gate clears IF and TF. -/
theorem enterGate_sameFixed (gate : InterruptGate) (s : CpuState) :
    SameFixedFlags s (enterGate gate s) := by
  have htf (r : U64) : r &&& ~~~kFlagTF &&& kFixedFlags = r &&& kFixedFlags := by
    rw [BitVec.and_assoc, show ~~~kFlagTF &&& kFixedFlags = kFixedFlags by decide]
  unfold SameFixedFlags enterGate
  by_cases hgate : gate.gateType = 0x0E#64
  · rw [if_pos hgate]
    exact (htf _).trans (setFlag_and (by decide) false)
  · rw [if_neg hgate]
    exact htf _

/-- `SAHF` reaches status flags only. -/
theorem sahf_sameFixed : Moves (OnState SameFixedFlags) handleSahf := by
  intro c
  have hset {bit : U64} (hbit : bit &&& kFixedFlags = 0#64) (r : U64) (value : Bool) :
      setFlag r bit value &&& kFixedFlags = r &&& kFixedFlags := setFlag_and hbit value
  show setFlag _ kFlagCF _ &&& kFixedFlags = _
  rw [hset (by decide), hset (by decide), hset (by decide), hset (by decide), hset (by decide)]

/-- The decimal adjustments leave the system flags. -/
theorem systemFlags_adjustFlags (r al : U64) : systemFlags (adjustFlags r al) = systemFlags r := by
  unfold adjustFlags
  simp only [systemFlags_pf, systemFlags_sf, systemFlags_zf]

/-- `DAA` and `DAS` are ordinary. -/
theorem packedAdjust_ordinary (correct : U64 → U64 → U64) (c : ExecutionContext) :
    Ordinary c.state (finalState (packedAdjust correct c)).state := by
  refine .trans (.register _ _ _ _) (.flags _ _ ?_)
  rw [writeRegister_rflags, systemFlags_adjustFlags, systemFlags_af, systemFlags_cf]

/-- `AAA` and `AAS` are ordinary. -/
theorem unpackedAdjust_ordinary (correct : U64 → U64 → U64) (c : ExecutionContext) :
    Ordinary c.state (finalState (unpackedAdjust correct c)).state := by
  refine .trans (.trans (.register _ _ _ _) (.register _ _ _ _)) (.flags _ _ ?_)
  rw [writeRegister_rflags, writeRegister_rflags, systemFlags_adjustFlags, systemFlags_cf,
    systemFlags_af]

/-- Operands are read without a change. -/
theorem binaryOperands_quiet (form : BinaryForm) : Quiet (binaryOperands form) := by
  cases form with
  | rm form =>
    exact Quiet.bind (readOperandChecked_quiet 0 form.width) fun _ =>
      Quiet.bind (aluSource_quiet form) fun _ => Quiet.pure _
  | regRm width =>
    exact Quiet.bind Quiet.get fun _ => Quiet.bind (readOperandChecked_quiet 1 width.bytes) fun _ =>
      Quiet.pure _
  | accImm width => exact Quiet.bind Quiet.get fun _ => Quiet.pure _

section

variable {R : ExecutionContext → ExecutionContext → Prop} (F : HandlerFrame R)
include F

theorem HandlerFrame.packedAdjust (correct : U64 → U64 → U64) :
    Moves R (Seven.packedAdjust correct) := fun c => F.state c _ (packedAdjust_ordinary correct c)

theorem HandlerFrame.unpackedAdjust (correct : U64 → U64 → U64) :
    Moves R (Seven.unpackedAdjust correct) :=
  fun c => F.state c _ (unpackedAdjust_ordinary correct c)

theorem HandlerFrame.handleBinary (op : AluOp) (form : BinaryForm) :
    Moves R (Seven.handleBinary op form) := by
  refine F.push.bind (F.push.of_quiet (binaryOperands_quiet form)) fun operands =>
    Moves.get_bind fun c => ?_
  have hout := systemFlags_aluCompute op form.width c.state.rflags operands.1 operands.2
  cases form with
  | rm form => exact F.flagsThenWriteAt hout
  | regRm width => exact F.state c _ (.trans (.flags c.state _ hout) (.register ..))
  | accImm width => exact F.state c _ (.trans (.flags c.state _ hout) (.register ..))

theorem HandlerFrame.handleCmp (form : BinaryForm) : Moves R (Seven.handleCmp form) :=
  F.push.bind (F.push.of_quiet (binaryOperands_quiet form)) fun _ =>
    F.setFlags fun r => systemFlags_sub r _ _ _ _ _

end

/-! ## Handlers that load them -/

/-- `POPFQ` keeps the form when the popped value has it. -/
theorem popfqFlags_wellFormed_iff (rflags value : U64) :
    FlagsWellFormed (popfqFlags rflags value) ↔ ReservedClear value := by
  have hreserved : popfqFlags rflags value &&& kReservedFlags = value &&& kReservedFlags := by
    unfold popfqFlags
    rw [BitVec.and_or_distrib_right, BitVec.and_or_distrib_right, BitVec.and_assoc,
      BitVec.and_assoc, BitVec.and_assoc,
      show ~~~kSysBits &&& (~~~kFlagRF &&& kReservedFlags) = kReservedFlags by decide,
      show kSysBits &&& kReservedFlags = 0#64 by decide,
      show (kFlagIF ||| 2#64) &&& kReservedFlags = 0#64 by decide,
      BitVec.and_zero, BitVec.or_zero, BitVec.or_zero]
  have hone : (popfqFlags rflags value).getLsbD 1 = true := by
    unfold popfqFlags
    rw [BitVec.getLsbD_or, show (kFlagIF ||| 2#64).getLsbD 1 = true by decide, Bool.or_true]
  constructor
  · rintro ⟨-, h⟩
    rw [reservedClear_iff, ← hreserved]
    exact (reservedClear_iff _).mp h
  · intro h
    refine ⟨hone, (reservedClear_iff _).mpr ?_⟩
    rw [hreserved]
    exact (reservedClear_iff _).mp h

/-- The same, of the handler. -/
theorem popfq_flags_iff {ctx ctx' : ExecutionContext} (h : handlePopfq ctx = .ok () ctx') :
    FlagsWellFormed ctx'.state.rflags ↔ StackShape.popfq.FlagsFit ctx := by
  have hget : (get : HandlerM ExecutionContext) ctx = .ok ctx ctx := rfl
  unfold handlePopfq at h
  rw [bind_ok hget] at h
  cases hread : ctx.memory.read ctx.state.rsp 8 .dataRead with
  | none =>
    rw [bind_error (readMemoryChecked_none hread)] at h
    cases h
  | some image =>
    rw [bind_ok (readMemoryChecked_some hread)] at h
    cases h
    refine (popfqFlags_wellFormed_iff ctx.state.rflags (fromBytes image)).trans ?_
    unfold StackShape.FlagsFit
    dsimp only
    rw [hread]
    exact ⟨fun h image' himage => Option.some.inj himage ▸ h, fun h => h image rfl⟩

/-- All widths replace the low bytes. -/
theorem iretFlags_eq (rflags flags : U64) (width : StackWidth) :
    iretFlags rflags flags width.bytes =
      (rflags &&& ~~~maskForWidth width.bytes) ||| (flags &&& maskForWidth width.bytes) := by
  cases width with
  | w16 => rfl
  | w32 => rfl
  | w64 =>
    show flags = (rflags &&& ~~~BitVec.allOnes 64) ||| (flags &&& BitVec.allOnes 64)
    rw [BitVec.not_allOnes, BitVec.and_zero, BitVec.and_allOnes, BitVec.zero_or]

/-- `IRET` loads the popped value as it is. -/
theorem iret_flags_iff {width : StackWidth} {ctx ctx' : ExecutionContext}
    (h : iretWidth width.bytes width.bytes ctx = .ok () ctx')
    (hold : FlagsWellFormed ctx.state.rflags) :
    FlagsWellFormed ctx'.state.rflags ↔ (StackShape.iret width).FlagsFit ctx := by
  have hwidth : width.bytes ∈ [1, 2, 4, 8] := by cases width <;> decide
  have hmask : (maskForWidth width.bytes).getLsbD 1 = true := by cases width <;> decide
  unfold iretWidth at h
  -- the pops succeed one by one
  cases htarget : ctx.memory.read ctx.state.rsp width.bytes .dataRead with
  | none =>
    rw [bind_error (popWidth_none hwidth htarget)] at h
    cases h
  | some target =>
  rw [bind_ok (popWidth_some hwidth htarget)] at h
  cases hselector : ctx.memory.read (ctx.state.popped width.bytes).rsp 2 .dataRead with
  | none =>
    rw [bind_error (@popWidth_none 2 (by decide) { ctx with state := ctx.state.popped width.bytes }
      hselector)] at h
    cases h
  | some selector =>
  rw [bind_ok (@popWidth_some 2 (by decide) { ctx with state := ctx.state.popped width.bytes } _
    hselector)] at h
  cases himage : ctx.memory.read ((ctx.state.popped width.bytes).popped 2).rsp width.bytes
      .dataRead with
  | none =>
    rw [bind_error (@popWidth_none width.bytes hwidth
      { ctx with state := (ctx.state.popped width.bytes).popped 2 } himage)] at h
    cases h
  | some image =>
  rw [bind_ok (@popWidth_some width.bytes hwidth
    { ctx with state := (ctx.state.popped width.bytes).popped 2 } _ himage)] at h
  cases h
  have hload : FlagsWellFormed (iretFlags ctx.state.rflags (fromBytes image) width.bytes) ↔
      FlagsWellFormed (truncate (fromBytes image) width.bytes) := by
    rw [iretFlags_eq]
    exact flagsWellFormed_merge hold hmask
  refine hload.trans ?_
  unfold StackShape.FlagsFit
  dsimp only
  rw [htarget, hselector, himage]
  refine ⟨fun h _ _ _ _ image' heq => ?_, fun h => h target rfl selector rfl image rfl⟩
  exact Option.some.inj heq ▸ h

/-- **The flags behind a stack instruction** are well formed exactly when the
image it loads fits. -/
theorem StackShape.flags_iff (shape : StackShape) {ctx ctx' : ExecutionContext}
    (h : shape.handler ctx = .ok () ctx') (hold : FlagsWellFormed ctx.state.rflags) :
    FlagsWellFormed ctx'.state.rflags ↔ shape.FlagsFit ctx := by
  have hkeeps (hcontained : shape.Contained (OnState SameFixedFlags)) :
      FlagsWellFormed ctx'.state.rflags :=
    ((shape.moves sameFixedFlags_frame.onState hcontained ctx).ok h).wellFormed.mpr hold
  have hgate (gate : InterruptGate) (c : ExecutionContext) :
      OnState SameFixedFlags c { c with state := enterGate gate c.state } :=
    enterGate_sameFixed gate c.state
  cases shape with
  | popfq => exact popfq_flags_iff h
  | iret width => exact iret_flags_iff h hold
  | popOperand width =>
    refine iff_of_true (hkeeps fun oldSp c => ?_) trivial
    unfold MovesAt notePopSs
    split <;> rfl
  | int vector => exact iff_of_true (hkeeps hgate) trivial
  | into => exact iff_of_true (hkeeps hgate) trivial
  | _ => exact iff_of_true (hkeeps trivial) trivial

end Seven
