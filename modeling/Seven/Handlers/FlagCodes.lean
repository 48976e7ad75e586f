import Seven.Handlers.AluEncodings
import Seven.Handlers.BitFields
import Seven.Handlers.BitString
import Seven.Handlers.FlagWriters
import Seven.Handlers.SsePrecise
import Seven.Handlers.VectorInt

/-!
# The flags behind every writer

The handlers that write RFLAGS and that the dispatch finds beside the stack,
read-modify-write and string families are of three kinds. Most set status
flags of a result, one by one: the arithmetic of two operands, the products,
the bit scans, the bit fields. The comparisons of numbers (`COMIS`, `FCOMI`,
`PCMPxSTRx`) mask all status flags off and set some again. The system calls
load or mask the whole register.

`FlagCode` lists them. Only the system calls can spoil the form of RFLAGS, and
`FlagCode.flags_iff` says when they do.
-/

namespace Seven

open Seven.Lib

/-! ## The codes -/

/-- The handlers that write RFLAGS, but for the stack, read-modify-write and
string families. -/
inductive FlagCode where
  | clc | stc | cmc | cld | std | cli | sti | clac | stac | sahf
  | daa | das | aaa | aas
  | binary (op : AluOp) (form : BinaryForm)
  | cmp (form : BinaryForm)
  | test (form : TestForm)
  | multiply (sign : Signedness) (width : RmWidth)
  | imul (form : ImulForm)
  | bsr (width : RmWideWidth)
  | bsf (width : RmWideWidth)
  | tzcnt (width : RmWideWidth)
  | lzcnt (width : RmWideWidth)
  | bt (width : RmWideWidth) (source : BitIndexSource)
  | andn (size : VexSize)
  | bzhi (size : VexSize)
  | bextr (size : VexSize)
  | lowestBit (op : LowestBitOp) (size : VexSize)
  | comis (size : FloatSize) (quiet : Bool)
  | fcom (form : FcomSti)
  | pcmpstr (explicitLengths returnMask : Bool)
  | syscall | sysretd | sysretq
deriving DecidableEq

/-- The handler of a code. -/
def FlagCode.handler (H : X87Host) : FlagCode → Handler
  | .clc => handleClc
  | .stc => handleStc
  | .cmc => handleCmc
  | .cld => handleCld
  | .std => handleStd
  | .cli => handleCli
  | .sti => handleSti
  | .clac => handleClac
  | .stac => handleStac
  | .sahf => handleSahf
  | .daa => handleDaa
  | .das => handleDas
  | .aaa => handleAaa
  | .aas => handleAas
  | .binary op form => handleBinary op form
  | .cmp form => handleCmp form
  | .test form => handleTest form
  | .multiply sign width => handleMultiply sign width
  | .imul form => handleImul form
  | .bsr width => handleBsr width
  | .bsf width => handleBsf width
  | .tzcnt width => handleTzcnt width
  | .lzcnt width => handleLzcnt width
  | .bt width source => handleBt width source
  | .andn size => handleAndn size
  | .bzhi size => handleBzhi size
  | .bextr size => handleBextr size
  | .lowestBit op size => handleLowestBit op size
  | .comis size quiet => H.scalarCompare size quiet
  | .fcom form => form.handler H
  | .pcmpstr explicitLengths returnMask => H.pcmpstr explicitLengths returnMask
  | .syscall => handleSyscall
  | .sysretd => handleSysretd
  | .sysretq => handleSysretq

/-- The system calls load RFLAGS or mask them; the others set status flags. -/
def FlagCode.loads : FlagCode → Bool
  | .syscall | .sysretd | .sysretq => true
  | _ => false

/-- The flags image the instruction would load is well formed. -/
def FlagCode.FlagsFit (code : FlagCode) (ctx : ExecutionContext) : Prop :=
  match code with
  | .sysretq => FlagsWellFormed (readRegister ctx.state .r11)
  | .sysretd => FlagsWellFormed (readRegister ctx.state .r11 &&& 0xFFFFFFFF#64)
  | .syscall => (ctx.state.readMsr kMsrSFMASK).getLsbD 1 = false
  | _ => True

instance (code : FlagCode) (ctx : ExecutionContext) : Decidable (code.FlagsFit ctx) := by
  unfold FlagCode.FlagsFit
  cases code <;> dsimp only <;> infer_instance

/-! ## Status flags of a result -/

/-- `MUL` and `IMUL` leave the system flags. -/
theorem systemFlags_multiply (r value : U64) (width : Nat) (overflow : Bool) :
    systemFlags (setMultiplyFlags r value width overflow) = systemFlags r := by
  unfold setMultiplyFlags
  simp only [systemFlags_pf, systemFlags_sf, systemFlags_zf, systemFlags_af, systemFlags_of,
    systemFlags_cf]

/-- So do `TZCNT` and `LZCNT`. -/
theorem systemFlags_clearCount (r : U64) : systemFlags (clearCountFlags r) = systemFlags r := by
  unfold clearCountFlags
  simp only [systemFlags_pf, systemFlags_sf, systemFlags_af, systemFlags_of, systemFlags_cf]

/-- So does `BZHI`. -/
theorem systemFlags_bzhi (r result : U64) (size index : Nat) :
    systemFlags (bzhiFlags r result size index) = systemFlags r := by
  unfold bzhiFlags
  simp only [systemFlags_pf, systemFlags_sf, systemFlags_zf, systemFlags_af, systemFlags_of,
    systemFlags_cf]

/-- So does `BEXTR`. -/
theorem systemFlags_bextr (r result : U64) :
    systemFlags (bextrFlags r result) = systemFlags r := by
  unfold bextrFlags
  simp only [systemFlags_pf, systemFlags_sf, systemFlags_zf, systemFlags_af, systemFlags_of,
    systemFlags_cf]

/-- So do `BLSI` and its kin. -/
theorem systemFlags_lowestBit (r : U64) (out : U64 × Bool × Bool) (size : Nat) :
    systemFlags (lowestBitFlags r out size) = systemFlags r := by
  unfold lowestBitFlags
  simp only [systemFlags_pf, systemFlags_sf, systemFlags_zf, systemFlags_af, systemFlags_of,
    systemFlags_cf]

/-- A product's pair of registers. -/
theorem ordinary_writePair (width : RmWidth) (s : CpuState) (low high : U64) :
    Ordinary s (writePair width s low high) := .trans (.register ..) (.register ..)

theorem readBtBaseValue_quiet (width : RmWideWidth) (index : U64) :
    Quiet (readBtBaseValue width index) := by
  refine Quiet.bind Quiet.get fun c => ?_
  split
  · exact readMemoryChecked_quiet _ _
  · exact readOperandChecked_quiet _ _

/-- The sources of a VEX instruction are read without a change. -/
theorem vexSources_quiet (size : VexSize) : Quiet (vexSources size) :=
  Quiet.bind (readOperandChecked_quiet 1 size.bytes) fun _ =>
    Quiet.bind (readOperandChecked_quiet 2 size.bytes) fun _ => Quiet.pure _

section

variable {R : ExecutionContext → ExecutionContext → Prop} (F : HandlerFrame R)
include F

/-- An update of the registers, and behind it one of the status flags. -/
theorem HandlerFrame.updateThenFlags {update : CpuState → CpuState} {flags : CpuState → U64 → U64}
    (hupdate : ∀ s, Ordinary s (update s))
    (hflags : ∀ s r, systemFlags (flags s r) = systemFlags r) :
    Moves R (Seven.modifyState fun s => Seven.setFlags (update s) (flags s (update s).rflags)) :=
  F.modifyState fun s => .trans (hupdate s) (.flags _ _ (hflags s _))

/-- Flags from what has been read, and then the result. -/
theorem HandlerFrame.flagsThenResult {α : Type} {read : HandlerM α} (hread : Quiet read)
    {flags : α → U64 → U64} (hflags : ∀ a r, systemFlags (flags a r) = systemFlags r)
    (result : α → U64) (width : Nat) :
    Moves R (do
      let a ← read
      Seven.modifyState fun s => Seven.setFlags s (flags a s.rflags)
      Seven.writeOperandChecked 0 (result a) width) :=
  F.push.bind (F.push.of_quiet hread) fun a =>
    F.push.bind (F.setFlags (hflags a)) fun _ => F.writeOperandChecked 0 _ _

theorem HandlerFrame.handleTest (form : TestForm) : Moves R (Seven.handleTest form) :=
  F.push.bind (F.push.of_quiet (binaryOperands_quiet form.operands)) fun _ =>
    F.setFlags fun r => systemFlags_logic r _ _

theorem HandlerFrame.handleMultiply (sign : Signedness) (width : RmWidth) :
    Moves R (Seven.handleMultiply sign width) := by
  have hread (w : Nat) := F.push.of_quiet (readOperandChecked_quiet 0 w)
  have hmul (bits : Nat) (width : RmWidth) : Moves R (mulRm bits width) :=
    F.push.bind (hread _) fun _ => F.push.get_bind fun _ =>
      F.updateThenFlags (fun s => ordinary_writePair width s _ _)
        fun _ r => systemFlags_multiply r _ _ _
  have himul (bits : Nat) (width : RmWidth) : Moves R (imulRm bits width) :=
    F.push.bind (hread _) fun _ => F.push.get_bind fun _ =>
      F.updateThenFlags (fun s => ordinary_writePair width s _ _)
        fun _ r => systemFlags_multiply r _ _ _
  -- the byte forms have one register for the whole product
  have hbyte : ∀ sign, Moves R (Seven.handleMultiply sign .rm8)
    | .unsigned | .signed =>
      F.push.bind (hread _) fun _ => F.push.get_bind fun _ =>
        F.updateThenFlags (fun s => .register s .ax _ _) fun _ r => systemFlags_multiply r _ _ _
  cases width with
  | rm8 => exact hbyte sign
  | rm16 | rm32 | rm64 =>
    cases sign with
    | unsigned => exact hmul _ _
    | signed => exact himul _ _

theorem HandlerFrame.handleImul (form : ImulForm) : Moves R (Seven.handleImul form) := by
  have hregRm (bits width : Nat) : Moves R (imulRegRm bits width) :=
    F.push.get_bind fun _ => F.push.bind (F.push.of_quiet (readOperandChecked_quiet 1 width)) fun _ =>
      F.updateThenFlags (fun s => .register s _ _ _) fun _ r => systemFlags_multiply r _ _ _
  have himm (bits width immWidth : Nat) : Moves R (imulRegRmImm bits width immWidth) :=
    F.push.bind (F.push.of_quiet (readOperandChecked_quiet 1 width)) fun _ => F.push.get_bind fun _ =>
      F.updateThenFlags (fun s => .register s _ _ _) fun _ r => systemFlags_multiply r _ _ _
  cases form with
  | regRm width => cases width <;> exact hregRm _ _
  | regRmImm width => cases width <;> exact himm _ _ _
  | regRmImm8 width => cases width <;> exact himm _ _ _

theorem HandlerFrame.bitScan (index : U64 → Nat) (width : RmWideWidth) :
    Moves R (Seven.bitScan index width) := by
  refine F.push.bind (F.push.of_quiet (readOperandChecked_quiet 1 _)) fun value => ?_
  refine Moves.ite (F.setFlags fun r => systemFlags_zf r true) ?_
  exact F.push.bind (F.setFlags fun r => systemFlags_zf r false) fun _ => F.push.get_bind fun _ =>
    F.modifyState fun s => .register s _ _ _

theorem HandlerFrame.countNarrow (count : ∀ {n : Nat}, BitVec n → U64) (width : RmWideWidth) :
    Moves R (Seven.countNarrow count width) := by
  refine F.push.bind (F.push.of_quiet (readOperandChecked_quiet 1 _)) fun value => ?_
  refine F.push.get_bind fun c => F.push.bind (F.modifyState fun s => .register s _ _ _) fun _ => ?_
  refine F.push.bind (F.setFlags systemFlags_clearCount) fun _ => ?_
  exact F.push.bind (F.setFlags fun r => systemFlags_cf r _) fun _ =>
    F.setFlags fun r => systemFlags_zf r _

theorem HandlerFrame.handleBt (width : RmWideWidth) (source : BitIndexSource) :
    Moves R (Seven.handleBt width source) :=
  F.push.get_bind fun _ => F.push.bind (F.push.of_quiet (readBtBaseValue_quiet width _)) fun _ =>
    F.setFlags fun r => systemFlags_cf r _

end

/-! ## Comparisons of numbers -/

/-- An update that does not touch RFLAGS, or its status flags only. -/
theorem modifyState_sameFixed {f : CpuState → CpuState}
    (h : ∀ s, systemFlags (f s).rflags = systemFlags s.rflags) :
    Moves (OnState SameFixedFlags) (modifyState f) :=
  fun c => sameFixedFlags_frame.flags c.state (f c.state).rflags (h c.state)

/-- Masking the status flags off is no change outside of them. -/
theorem systemFlags_masked (r : U64) : systemFlags (r &&& ~~~kStatusFlags) = systemFlags r := by
  unfold systemFlags
  rw [BitVec.and_assoc, BitVec.and_self]

/-- Neither is setting some of them. -/
theorem systemFlags_or (r : U64) {bits : U64} (h : systemFlags bits = 0#64) :
    systemFlags (r ||| bits) = systemFlags r := by
  unfold systemFlags at *
  rw [BitVec.and_or_distrib_right, h, BitVec.or_zero]

/-- Bits of the status flags put in. -/
theorem systemFlags_ite_or (r : U64) (c : Prop) [Decidable c] {bits : U64}
    (h : systemFlags bits = 0#64) :
    systemFlags (if c then r ||| bits else r) = systemFlags r := by
  by_cases hc : c
  · rw [if_pos hc, systemFlags_or r h]
  · rw [if_neg hc]

/-- `COMISS` and its kin leave the system flags. -/
theorem setSseCmpFlags_system (s : CpuState) (relation : Int) :
    systemFlags (setSseCmpFlags s relation).rflags = systemFlags s.rflags := by
  have hmask : kSseCmpFlags = kStatusFlags := by decide
  unfold setSseCmpFlags
  dsimp only [setFlags]
  rw [hmask]
  split_ifs
  · exact (systemFlags_or _ (by decide)).trans (systemFlags_masked _)
  · exact (systemFlags_or _ (by decide)).trans (systemFlags_masked _)
  · exact (systemFlags_or _ (by decide)).trans (systemFlags_masked _)
  · exact systemFlags_masked _

/-- So do the string comparisons of SSE4.2. -/
theorem setPcmpstrFlags_system (s : CpuState) (intres2 : BitVec 32) (len1 len2 count : Nat) :
    systemFlags (setPcmpstrFlags s intres2 len1 len2 count).rflags = systemFlags s.rflags := by
  have hmask : kFlagCF ||| kFlagPF ||| kFlagAF ||| kFlagZF ||| kFlagSF ||| kFlagOF =
      kStatusFlags := by decide
  unfold setPcmpstrFlags
  dsimp only [setFlags]
  rw [hmask, systemFlags_ite_or _ _ (by decide), systemFlags_ite_or _ _ (by decide),
    systemFlags_ite_or _ _ (by decide), systemFlags_ite_or _ _ (by decide), systemFlags_masked]

/-- An exception, raised or masked, leaves them. -/
theorem sseException_sameFixed (exceptions : BitVec 32) :
    Moves (OnState SameFixedFlags) (sseException exceptions) := by
  have hP := sameFixedFlags_frame.onState.push
  refine hP.bind (modifyState_sameFixed fun _ => rfl) fun _ => hP.get_bind fun c => ?_
  exact Moves.ite (hP.pure ()) (hP.of_quiet (faultHere_quiet _ _))

section

variable (H : X87Host)

/-- The scalar comparisons leave the fixed flags. -/
theorem scalarCompare_sameFixed (size : FloatSize) (quiet : Bool) :
    Moves (OnState SameFixedFlags) (H.scalarCompare size quiet) := by
  have hP := sameFixedFlags_frame.onState.push
  refine hP.get_bind fun c => Moves.ite ?_ (hP.of_quiet X87Host.operandFault_quiet)
  refine hP.bind (hP.of_quiet (H.readVectorOperand_quiet _ _)) fun src => ?_
  refine hP.bind (modifyState_sameFixed fun s => setSseCmpFlags_system s _) fun _ => ?_
  exact Moves.ite (sseException_sameFixed _) (hP.pure ())

/-- The string comparisons leave the fixed flags. -/
theorem pcmpstr_sameFixed (explicitLengths returnMask : Bool) :
    Moves (OnState SameFixedFlags) (H.pcmpstr explicitLengths returnMask) := by
  have hP := sameFixedFlags_frame.onState.push
  refine hP.get_bind fun c => Moves.ite ?_ (hP.of_quiet X87Host.operandFault_quiet)
  refine hP.bind (hP.of_quiet (H.readVectorOperand_quiet _ _)) fun rhs => ?_
  refine hP.bind (modifyState_sameFixed fun s => setPcmpstrFlags_system s _ _ _ _) fun _ => ?_
  refine Moves.ite (modifyState_sameFixed fun _ => rfl) ?_
  exact sameFixedFlags_frame.onState.modifyState fun s => .register s _ _ _

/-! ### The x87 comparisons -/

/-- An x87 exception leaves them. -/
theorem x87Exception_sameFixed (exceptions : BitVec 16) :
    Moves (OnState SameFixedFlags) (x87Exception exceptions) := by
  have hP := sameFixedFlags_frame.onState.push
  refine hP.get_bind fun c => hP.bind (modifyState_sameFixed fun _ => rfl) fun _ => ?_
  exact Moves.ite (hP.pure ()) (hP.of_quiet (faultHere_quiet _ _))

/-- Even where there is none. -/
theorem x87ExceptionIfAny_sameFixed (exceptions : BitVec 16) :
    Moves (OnState SameFixedFlags) (x87ExceptionIfAny exceptions) :=
  Moves.ite (x87Exception_sameFixed exceptions) (sameFixedFlags_frame.onState.push.pure ())

/-- A stack fault leaves them. -/
theorem x87StackUnderflow_sameFixed : Moves (OnState SameFixedFlags) x87StackUnderflow :=
  sameFixedFlags_frame.onState.push.bind (modifyState_sameFixed fun _ => rfl) fun _ =>
    x87Exception_sameFixed _

/-- A pop of the x87 stack is not about `RFLAGS`. -/
theorem x87Pop_rflags (s : CpuState) : s.x87Pop.2.rflags = s.rflags := by
  unfold CpuState.x87Pop
  dsimp only
  split_ifs <;> rfl

/-- A pop, or none. -/
theorem popIf_sameFixed (pop : Bool) : Moves (OnState SameFixedFlags) (popIf pop) := by
  cases pop with
  | false => exact sameFixedFlags_frame.onState.push.pure ()
  | true =>
    intro c
    have hpop : SameFixedFlags c.state c.state.x87Pop.2 :=
      congrArg (· &&& kFixedFlags) (x87Pop_rflags c.state)
    show OnState SameFixedFlags c (finalState (popOrUnderflow c))
    unfold popOrUnderflow
    cases hrun : c.state.x87Pop with
    | mk popped s =>
      rw [hrun] at hpop
      cases popped with
      | true => exact hpop
      | false =>
        exact sameFixedFlags_frame.trans hpop
          (x87StackUnderflow_sameFixed { c with state := s })

/-- `FCOMI` sets CF, PF and ZF one by one. -/
theorem x87SetRelation_sameFixed (eflags : Bool) (relation : Int) :
    Moves (OnState SameFixedFlags) (x87SetRelation eflags relation) := by
  refine Moves.ite (modifyState_sameFixed fun s => ?_) (modifyState_sameFixed fun _ => rfl)
  dsimp only [setFlags]
  rw [systemFlags_zf, systemFlags_pf, systemFlags_cf]
  rfl

/-- The x87 comparisons leave the fixed flags. -/
theorem x87Compare_sameFixed (empty : Bool) (operands : CpuState → Float80 × Float80)
    (eflags quiet : Bool) :
    Moves (OnState SameFixedFlags) (x87Compare H.soft empty operands eflags quiet) := by
  have hP := sameFixedFlags_frame.onState.push
  have hset (relation : Int) (exceptions : BitVec 16) : Moves (OnState SameFixedFlags) (do
      x87SetRelation eflags relation
      x87ExceptionIfAny exceptions) :=
    hP.bind (x87SetRelation_sameFixed eflags _) fun _ => x87ExceptionIfAny_sameFixed _
  refine Moves.ite (hP.bind (x87SetRelation_sameFixed eflags _) fun _ => ?_)
    (hP.get_bind fun _ => hset _ _)
  exact hP.bind (x87Exception_sameFixed _) fun _ => hP.get_bind fun _ => hset _ _

/-- So do `FCOMI` and its kin. -/
theorem fcom_sameFixed (form : FcomSti) : Moves (OnState SameFixedFlags) (form.handler H) := by
  have hP := sameFixedFlags_frame.onState.push
  have hst (eflags pop quiet : Bool) :
      Moves (OnState SameFixedFlags) (x87CompareSt0Sti H 1 eflags pop quiet) := by
    refine hP.get_bind fun c => Moves.ite (hP.of_quiet X87Host.operandFault_quiet) ?_
    exact hP.bind (x87Compare_sameFixed H _ _ eflags quiet) fun _ => popIf_sameFixed pop
  cases form <;> exact hst _ _ _

end

/-! ## System calls -/

/-- `SYSCALL` masks `RFLAGS`: bit 1 is the mask's business. -/
theorem syscall_flags_iff {ctx ctx' : ExecutionContext} (h : handleSyscall ctx = .ok () ctx')
    (hold : FlagsWellFormed ctx.state.rflags) :
    FlagsWellFormed ctx'.state.rflags ↔ FlagCode.syscall.FlagsFit ctx := by
  cases h
  show FlagsWellFormed (ctx.state.rflags &&& ~~~ctx.state.readMsr kMsrSFMASK) ↔
    (ctx.state.readMsr kMsrSFMASK).getLsbD 1 = false
  have hbit (i : Nat) (hi : i < 64) :
      (ctx.state.rflags &&& ~~~ctx.state.readMsr kMsrSFMASK).getLsbD i =
        (ctx.state.rflags.getLsbD i && !(ctx.state.readMsr kMsrSFMASK).getLsbD i) := by
    rw [BitVec.getLsbD_and, BitVec.getLsbD_not, decide_eq_true hi, Bool.true_and]
  have hone := hbit 1 (by decide)
  rw [hold.one, Bool.true_and] at hone
  constructor
  · rintro ⟨h1, -⟩
    rw [hone, Bool.not_eq_true'] at h1
    exact h1
  · intro h1
    refine ⟨by rw [hone, h1]; rfl, fun i hi => ?_⟩
    rw [BitVec.getLsbD_and, hold.reserved i hi, Bool.false_and]

/-! ## All writers -/

/-- The codes that load no image keep the fixed bits. -/
theorem FlagCode.sameFixed (H : X87Host) (code : FlagCode)
    (hload : code.loads = false) : Moves (OnState SameFixedFlags) (code.handler H) := by
  have F := sameFixedFlags_frame.onState
  -- The three that load the whole word are excluded; the others write status bits.
  cases code with
  | syscall => cases hload
  | sysretd => cases hload
  | sysretq => cases hload
  | sahf => exact sahf_sameFixed
  | cmc => exact fun _ => setFlag_and (by decide) _
  | daa => exact F.packedAdjust _
  | das => exact F.packedAdjust _
  | aaa => exact F.unpackedAdjust _
  | aas => exact F.unpackedAdjust _
  | binary op form => exact F.handleBinary op form
  | cmp form => exact F.handleCmp form
  | test form => exact F.handleTest form
  | multiply sign width => exact F.handleMultiply sign width
  | imul form => exact F.handleImul form
  | bsr width => exact F.bitScan _ width
  | bsf width => exact F.bitScan _ width
  | tzcnt width => exact F.countNarrow _ width
  | lzcnt width => exact F.countNarrow _ width
  | bt width source => exact F.handleBt width source
  | andn size =>
    exact F.flagsThenResult (vexSources_quiet size) (fun _ r => systemFlags_logic r _ _) _ _
  | bzhi size =>
    exact F.flagsThenResult (vexSources_quiet size) (fun _ r => systemFlags_bzhi r _ _ _) _ _
  | bextr size =>
    exact F.flagsThenResult (vexSources_quiet size) (fun _ r => systemFlags_bextr r _) _ _
  | lowestBit op size =>
    exact F.flagsThenResult (readOperandChecked_quiet 1 _)
      (fun _ r => systemFlags_lowestBit r _ _) _ _
  | comis size quiet => exact scalarCompare_sameFixed H size quiet
  | fcom form => exact fcom_sameFixed H form
  | pcmpstr explicitLengths returnMask => exact pcmpstr_sameFixed H _ _
  | _ => exact setFlagTo_sameFixed (by decide) _

/-- **The flags behind the writers** beside the stack. -/
theorem FlagCode.flags_iff (H : X87Host) (code : FlagCode) {ctx ctx' : ExecutionContext}
    (h : code.handler H ctx = .ok () ctx') (hold : FlagsWellFormed ctx.state.rflags) :
    FlagsWellFormed ctx'.state.rflags ↔ code.FlagsFit ctx := by
  have hkeeps (hload : code.loads = false) : FlagsWellFormed ctx'.state.rflags :=
    ((code.sameFixed H hload ctx).ok h).wellFormed.mpr hold
  cases code with
  | syscall => exact syscall_flags_iff h hold
  | sysretd =>
    cases h
    rfl
  | sysretq =>
    cases h
    rfl
  | _ => exact iff_of_true (hkeeps rfl) trivial

/-- Those that can fail leave the fixed bits alone when they do. -/
theorem FlagCode.failsAlong (H : X87Host) (code : FlagCode) :
    FailsAlong (OnState SameFixedFlags) (code.handler H) := by
  cases hload : code.loads with
  | false => exact (code.sameFixed H hload).failsAlong
  | true =>
    cases code with
    | syscall => exact .of_total fun _ => ⟨(), _, rfl⟩
    | sysretd => exact .of_total fun _ => ⟨(), _, rfl⟩
    | sysretq => exact .of_total fun _ => ⟨(), _, rfl⟩
    | _ => cases hload

end Seven
