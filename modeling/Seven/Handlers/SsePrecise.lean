import Seven.Handlers.FloatLanes
import Seven.Handlers.UpperBits

/-!
# Precise floating-point exceptions

An SSE instruction that stops with an exception that is not masked is to be
undone but for the sticky bits of MXCSR, which tell the handler of the
exception what happened. The templates calculate, report and only then write;
`COMISS` and `COMISD` write the flags first.

> `SseCode.stopsPrecisely_iff`: every handler is precise except an ordered compare
> that stops, from flags other than the ones it writes.
-/

namespace Seven

open Seven.Lib

/-! ## The remaining handlers -/

/-- The conversion of a double to 64 bits, and what the square roots under
VEX calculate. -/
structure SseHost extends FloatHost where
  convertFpToInt64 : BitVec 32 → BitVec 64 → Bool → BitVec 64 × BitVec 32
  vexSqrtPacked : FloatSize → VexLength → BitVec 512 → BitVec 512 × BitVec 32

/-- The flags that a compare writes. -/
def kSseCmpFlags : U64 :=
  kFlagCF ||| kFlagPF ||| kFlagZF ||| kFlagOF ||| kFlagSF ||| kFlagAF

/-- `set_sse_cmp_flags`: the relation is -2 for unordered. -/
def setSseCmpFlags (s : CpuState) (relation : Int) : CpuState :=
  let rf := s.rflags &&& ~~~kSseCmpFlags
  setFlags s
    (if relation = -2 then rf ||| (kFlagCF ||| kFlagPF ||| kFlagZF)
    else if relation < 0 then rf ||| kFlagCF
    else if relation = 0 then rf ||| kFlagZF
    else rf)

/-- The relation of two numbers, and the exceptions of comparing them. -/
def sseRelation (size : FloatSize) (quiet : Bool) (lhs rhs : size.Lane) : Int × BitVec 32 :=
  if size.unordered lhs rhs then (-2, if quiet then 0#32 else kSseExceptionInvalid)
  else if size.less lhs rhs then (-1, 0#32)
  else if size.less rhs lhs then (1, 0#32)
  else (0, 0#32)

/-- `scalar_compare`: `COMISS`, `COMISD` and, quiet, `UCOMISS`, `UCOMISD`;
the VEX forms are the same. -/
def X87Host.scalarCompare (H : X87Host) (size : FloatSize) (quiet : Bool) : Handler := do
  let ctx ← get
  if H.IsVectorOperand ctx.instr 0 then
    let lhs := unpackLane size (H.readVec ctx.state (ctx.instr.opRegister 0)) 0
    let src ← H.readVectorOperand 1 size.bytes
    let result := sseRelation size quiet lhs (unpackLane size src 0)
    modifyState fun s => setSseCmpFlags s result.1
    if result.2 ≠ 0#32 then sseException result.2
  else operandFault

/-- `CVTSD2SI` and, truncating, `CVTTSD2SI`, to 32 or 64 bits. -/
def SseHost.cvtsd2si (F : SseHost) (wide truncateOnly : Bool) : Handler := do
  let src ← F.readVectorOperand 1 8
  let ctx ← get
  let convert := if wide then F.convertFpToInt64 else F.convertFpToInt32
  let result := convert ctx.state.mxcsr (unpackLane .double src 0) truncateOnly
  if result.2 ≠ 0#32 then sseException result.2
  modifyState fun s =>
    writeRegister s (ctx.instr.opRegister 0) result.1 (if wide then 8 else 4)

/-- The handlers of `simd_fp.cpp` that calculate. -/
inductive SseCode where
  | float (c : FloatCode)
  | vexSqrtPacked (size : FloatSize) (len : VexLength)
  | compare (size : FloatSize) (quiet : Bool)
  | cvtpi2pd
  | cvtpd2pi (truncateOnly : Bool)
  | cvtsd2si (wide truncateOnly : Bool)
deriving DecidableEq

/-- The handler of a code. -/
def SseCode.handler (F : SseHost) : SseCode → Handler
  | .float c => c.handler F.toFloatHost
  | .vexSqrtPacked size len => F.vexPackedUnary (F.vexSqrtPacked size len)
  | .compare size quiet => F.scalarCompare size quiet
  | .cvtpi2pd => F.handleCvtpi2pd
  | .cvtpd2pi truncateOnly => F.toX87Host.cvtpd2pi truncateOnly
  | .cvtsd2si wide truncateOnly => F.cvtsd2si wide truncateOnly

/-! ## Precision -/

/-- All that an exception has to leave alone. -/
def withoutSticky (ctx : ExecutionContext) : ExecutionContext :=
  { ctx with state := { ctx.state with mxcsr := ctx.state.mxcsr &&& ~~~kSseExceptionMask } }

/-- The stop is an SSE exception. -/
def IsFloatStop (e : ExecutionResult) : Prop := e.reason = .floatingPointException

/-- A floating-point exception of `h` from `ctx` changes nothing but sticky
bits. -/
def StopsPrecisely {α : Type} (h : HandlerM α) (ctx : ExecutionContext) : Prop :=
  FailsAt IsFloatStop withoutSticky h ctx (withoutSticky ctx)

/-- The sticky bits are not seen. -/
theorem withoutSticky_raised (ctx : ExecutionContext) (exceptions : BitVec 32) :
    withoutSticky { ctx with state := ctx.state.sseRaised exceptions } = withoutSticky ctx := by
  have hmask : (ctx.state.mxcsr ||| (exceptions &&& 0x3F#32)) &&& ~~~kSseExceptionMask =
      ctx.state.mxcsr &&& ~~~kSseExceptionMask := by
    apply BitVec.eq_of_getLsbD_eq
    intro j hj
    unfold kSseExceptionMask
    simp only [BitVec.getLsbD_and, BitVec.getLsbD_or, BitVec.getLsbD_not]
    cases (0x3F#32).getLsbD j <;> simp
  unfold withoutSticky CpuState.sseRaised
  dsimp only
  rw [hmask]

section

variable {α β : Type} {ctx : ExecutionContext}

/-- An exception leaves everything but the sticky bits. -/
theorem sseException_stopsPrecisely (exceptions : BitVec 32) :
    StopsPrecisely (sseException exceptions) ctx := by
  have hrun := sseException_eq exceptions ctx
  by_cases hmasked : sseExceptionsMasked ctx.state exceptions = true
  · rw [if_pos hmasked] at hrun
    exact failsAt_ok hrun
  · rw [if_neg hmasked] at hrun
    intro e after herror _
    rw [hrun] at herror
    cases herror
    exact withoutSticky_raised ctx exceptions

/-- Report, then what cannot fail. -/
theorem StopsPrecisely.report {exceptions : BitVec 32} {rest : HandlerM α} (hrest : Total rest) :
    StopsPrecisely (if exceptions ≠ 0#32 then sseException exceptions >>= fun _ => rest else rest)
      ctx := by
  rw [sseException_ifAny]
  exact (failsAt_bind_total fun _ => hrest).mpr (sseException_stopsPrecisely exceptions)

/-- What is read in front does not matter. -/
theorem StopsPrecisely.quiet_bind {h : HandlerM α} {f : α → HandlerM β} (hq : Quiet h)
    (hf : ∀ a, StopsPrecisely (f a) ctx) : StopsPrecisely (h >>= f) ctx :=
  (failsAt_quiet_bind hq).mpr fun a _ => hf a

/-- A value that is calculated precisely is written precisely. -/
theorem StopsPrecisely.toVector {H : X87Host} {zeroUpper : Bool}
    {compute : Register → HandlerM (BitVec 512)}
    (hcompute : ∀ dst, StopsPrecisely (compute dst) ctx) :
    StopsPrecisely (H.toVector zeroUpper compute) ctx := by
  refine .quiet_bind Quiet.get fun c => ?_
  dsimp only
  split
  next =>
    have hwrite (out : BitVec 512) : Total (H.writeVec (c.instr.opRegister 0) out
        (H.vectorWidth (c.instr.opRegister 0)) zeroUpper) := fun _ => ⟨(), _, rfl⟩
    exact (failsAt_bind_total hwrite).mpr (hcompute _)
  next => exact X87Host.operandFault_quiet.failsAt ctx

end

/-! ## Ordered compares -/

/-- The flags of an unordered result are in `rflags` already. -/
def UnorderedFlags (rflags : U64) : Prop :=
  rflags &&& kSseCmpFlags = kFlagCF ||| kFlagPF ||| kFlagZF

instance (rflags : U64) : Decidable (UnorderedFlags rflags) :=
  inferInstanceAs (Decidable (_ = _))

/-- An unordered result leaves the flags where they say so already. -/
theorem setSseCmpFlags_unordered (s : CpuState) :
    (setSseCmpFlags s (-2)).rflags = s.rflags ↔ UnorderedFlags s.rflags := by
  have hset : (setSseCmpFlags s (-2)).rflags =
      (s.rflags &&& ~~~kSseCmpFlags) ||| (kFlagCF ||| kFlagPF ||| kFlagZF) := rfl
  -- The word is the part outside the three flags together with the part inside.
  have hunion : s.rflags = (s.rflags &&& ~~~kSseCmpFlags) ||| (s.rflags &&& kSseCmpFlags) := by
    apply BitVec.eq_of_getLsbD_eq
    intro j hj
    simp only [BitVec.getLsbD_or, BitVec.getLsbD_and, BitVec.getLsbD_not, hj]
    cases kSseCmpFlags.getLsbD j <;> simp
  have hlow (set : U64) : ((s.rflags &&& ~~~kSseCmpFlags) ||| set) &&& kSseCmpFlags =
      set &&& kSseCmpFlags := by
    apply BitVec.eq_of_getLsbD_eq
    intro j hj
    simp only [BitVec.getLsbD_or, BitVec.getLsbD_and, BitVec.getLsbD_not, hj]
    cases kSseCmpFlags.getLsbD j <;> simp
  have hpart : (kFlagCF ||| kFlagPF ||| kFlagZF) &&& kSseCmpFlags =
      kFlagCF ||| kFlagPF ||| kFlagZF := by decide
  unfold UnorderedFlags
  rw [hset]
  constructor
  · intro h
    rw [← h, hlow, hpart]
  · intro h
    rw [← h]
    exact hunion.symm

/-- An ordered compare of a NaN is about to stop, and to write flags first
that were not there. -/
structure X87Host.ComparesNaN (H : X87Host) (size : FloatSize) (ctx : ExecutionContext)
    (src : BitVec 512) : Prop where
  destination : H.IsVectorOperand ctx.instr 0
  reads : H.readVectorOperand 1 size.bytes ctx = .ok src ctx
  unordered : size.unordered
    (unpackLane size (H.readVec ctx.state (ctx.instr.opRegister 0)) 0) (unpackLane size src 0) = true
  unmasked : sseExceptionsMasked ctx.state kSseExceptionInvalid = false
  flags : ¬UnorderedFlags ctx.state.rflags

/-- The state that a stopped compare leaves looks as before just when its
flags were there. -/
theorem withoutSticky_compared (ctx : ExecutionContext) (exceptions : BitVec 32) :
    withoutSticky { ctx with state := (setSseCmpFlags ctx.state (-2)).sseRaised exceptions } =
      withoutSticky ctx ↔ UnorderedFlags ctx.state.rflags := by
  have hraised := withoutSticky_raised { ctx with state := setSseCmpFlags ctx.state (-2) } exceptions
  rw [← setSseCmpFlags_unordered]
  constructor
  · intro h
    have hrflags := congrArg (fun c => c.state.rflags) h
    exact hrflags
  · intro h
    have hsame : setSseCmpFlags ctx.state (-2) = ctx.state := by
      show { ctx.state with rflags := (setSseCmpFlags ctx.state (-2)).rflags } = ctx.state
      rw [h]
    rw [hsame]
    exact withoutSticky_raised ctx exceptions

/-- The quiet comparisons. -/
theorem X87Host.scalarCompare_quiet (H : X87Host) (size : FloatSize) {ctx : ExecutionContext} :
    StopsPrecisely (H.scalarCompare size true) ctx := by
  refine .quiet_bind Quiet.get fun c => ?_
  split
  next =>
    refine .quiet_bind (H.readVectorOperand_quiet _ _) fun src => ?_
    have hzero : (sseRelation size true (unpackLane size (H.readVec c.state (c.instr.opRegister 0)) 0)
        (unpackLane size src 0)).2 = 0#32 := by
      unfold sseRelation
      rw [if_pos rfl]
      split_ifs <;> rfl
    dsimp only
    rw [hzero, if_neg (not_not_intro rfl)]
    exact (Total.bind (modifyState_total _) fun _ => Total.pure ()).failsAt ctx
  next => exact operandFault_quiet.failsAt ctx

section

variable (H : X87Host) {size : FloatSize} {ctx : ExecutionContext} {src : BitVec 512}
  (hdst : H.IsVectorOperand ctx.instr 0) (hread : H.readVectorOperand 1 size.bytes ctx = .ok src ctx)

include hdst hread

/-- Numbers are compared without an exception. -/
theorem X87Host.scalarCompare_numbers (hnan : ¬size.unordered
      (unpackLane size (H.readVec ctx.state (ctx.instr.opRegister 0)) 0) (unpackLane size src 0) =
      true) :
    StopsPrecisely (H.scalarCompare size false) ctx := by
  have hget : (get : HandlerM ExecutionContext) ctx = .ok ctx ctx := rfl
  have hzero : (sseRelation size false
      (unpackLane size (H.readVec ctx.state (ctx.instr.opRegister 0)) 0)
      (unpackLane size src 0)).2 = 0#32 := by
    unfold sseRelation
    rw [if_neg hnan]
    split_ifs <;> rfl
  unfold scalarCompare StopsPrecisely
  rw [failsAt_bind_ok hget, if_pos hdst, failsAt_bind_ok hread]
  dsimp only
  rw [hzero, if_neg (not_not_intro rfl)]
  exact (Total.bind (modifyState_total _) fun _ => Total.pure ()).failsAt ctx

/-- A NaN that stops the compare does so behind the flags. -/
theorem X87Host.scalarCompare_nan (hnan : size.unordered
      (unpackLane size (H.readVec ctx.state (ctx.instr.opRegister 0)) 0) (unpackLane size src 0) =
      true) :
    StopsPrecisely (H.scalarCompare size false) ctx ↔
      sseExceptionsMasked ctx.state kSseExceptionInvalid = true ∨
        UnorderedFlags ctx.state.rflags := by
  have hget : (get : HandlerM ExecutionContext) ctx = .ok ctx ctx := rfl
  have hrelation : sseRelation size false
      (unpackLane size (H.readVec ctx.state (ctx.instr.opRegister 0)) 0) (unpackLane size src 0) =
      (-2, kSseExceptionInvalid) := by
    unfold sseRelation
    rw [if_pos hnan]
    rfl
  have hset : modifyState (fun s => setSseCmpFlags s (-2)) ctx =
      .ok () { ctx with state := setSseCmpFlags ctx.state (-2) } := rfl
  have hraise := sseException_eq kSseExceptionInvalid
    { ctx with state := setSseCmpFlags ctx.state (-2) }
  have hmasks : sseExceptionsMasked (setSseCmpFlags ctx.state (-2)) kSseExceptionInvalid =
      sseExceptionsMasked ctx.state kSseExceptionInvalid := rfl
  dsimp only at hraise
  rw [hmasks] at hraise
  unfold scalarCompare StopsPrecisely
  rw [failsAt_bind_ok hget, if_pos hdst, failsAt_bind_ok hread]
  dsimp only
  rw [hrelation]
  dsimp only
  rw [failsAt_bind_ok hset, if_pos (by decide)]
  -- Unmasked, the comparison has written its flags before it stops.
  by_cases hmasked : sseExceptionsMasked ctx.state kSseExceptionInvalid = true
  · rw [if_pos hmasked] at hraise
    exact iff_of_true (failsAt_ok hraise) (Or.inl hmasked)
  · rw [if_neg hmasked] at hraise
    have hstop : IsFloatStop (sseStop { ctx with state := setSseCmpFlags ctx.state (-2) }
      kSseExceptionInvalid) := rfl
    rw [failsAt_error_iff hraise hstop, withoutSticky_compared, or_iff_right hmasked]

end

/-- **An ordered compare** is precise unless it meets a NaN, stops, and had
other flags. -/
theorem X87Host.scalarCompare_ordered (H : X87Host) (size : FloatSize) {ctx : ExecutionContext} :
    StopsPrecisely (H.scalarCompare size false) ctx ↔ ¬∃ src, H.ComparesNaN size ctx src := by
  have hget : (get : HandlerM ExecutionContext) ctx = .ok ctx ctx := rfl
  by_cases hdst : H.IsVectorOperand ctx.instr 0
  swap
  · refine iff_of_true ?_ fun ⟨_, hcompare⟩ => hdst hcompare.destination
    unfold scalarCompare StopsPrecisely
    rw [failsAt_bind_ok hget, if_neg hdst]
    exact operandFault_quiet.failsAt ctx
  -- A destination or source that cannot be read stops in front of the flags.
  rcases H.readVectorOperand_quiet 1 size.bytes ctx with ⟨src, hread⟩ | ⟨e, hread⟩
  swap
  · refine iff_of_true ?_ ?_
    · unfold scalarCompare StopsPrecisely
      rw [failsAt_bind_ok hget, if_pos hdst, failsAt_bind_error hread]
      exact (H.readVectorOperand_quiet 1 size.bytes).failsAt ctx
    · rintro ⟨src, hcompare⟩
      have hreads := hcompare.reads
      rw [hread] at hreads
      cases hreads
  have honly : (∃ src', H.ComparesNaN size ctx src') ↔ H.ComparesNaN size ctx src := by
    constructor
    · rintro ⟨src', hcompare⟩
      have hreads := hcompare.reads
      rw [hread] at hreads
      cases hreads
      exact hcompare
    · exact fun hcompare => ⟨src, hcompare⟩
  rw [honly]
  -- Only an unordered comparison raises anything.
  by_cases hnan : size.unordered
      (unpackLane size (H.readVec ctx.state (ctx.instr.opRegister 0)) 0) (unpackLane size src 0) = true
  · rw [H.scalarCompare_nan hdst hread hnan]
    constructor
    · rintro (hmasked | hflags) hcompare
      · exact Bool.noConfusion (hmasked.symm.trans hcompare.unmasked)
      · exact hcompare.flags hflags
    · intro h
      by_contra hneither
      obtain ⟨hmasked, hflags⟩ := not_or.mp hneither
      exact h ⟨hdst, hread, hnan, eq_false_of_ne_true hmasked, hflags⟩
  · exact iff_of_true (H.scalarCompare_numbers hdst hread hnan) fun hcompare =>
      hnan hcompare.unordered

/-! ## Every handler -/

namespace SseCode

/-- `COMISS` or `COMISD`, of a NaN, as above. -/
def SpoilsFlags (H : X87Host) (c : SseCode) (ctx : ExecutionContext) : Prop :=
  ∃ size src, c = .compare size false ∧ H.ComparesNaN size ctx src

/-- The packed and scalar operations. -/
theorem float_stopsPrecisely (F : FloatHost) (c : FloatCode) {ctx : ExecutionContext} :
    StopsPrecisely (c.handler F) ctx := by
  refine .toVector fun dst => ?_
  refine .quiet_bind (F.floatOperands_quiet dst c) fun operands => .quiet_bind Quiet.get fun mid => ?_
  exact .report (Total.pure _)

/-- The packed square roots. -/
theorem vexPackedUnary_stopsPrecisely (H : X87Host)
    (calculate : BitVec 512 → BitVec 512 × BitVec 32) {ctx : ExecutionContext} :
    StopsPrecisely (H.vexPackedUnary calculate) ctx := by
  refine .toVector fun dst => .quiet_bind (H.readVectorOperand_quiet _ _) fun input => ?_
  exact .report (Total.pure _)

/-- `CVTPI2PD`. -/
theorem cvtpi2pd_stopsPrecisely (H : X87Host) {ctx : ExecutionContext} :
    StopsPrecisely H.handleCvtpi2pd ctx := by
  refine .quiet_bind Quiet.get fun c => ?_
  dsimp only
  split
  next => exact X87Host.operandFault_quiet.failsAt ctx
  next =>
    split
    next => exact .quiet_bind (Quiet.pure _) fun _ => (modifyState_total _).failsAt ctx
    next =>
      exact .quiet_bind (readOperandChecked_quiet _ _) fun _ => (modifyState_total _).failsAt ctx

/-- `CVTPD2PI` and `CVTTPD2PI`. -/
theorem cvtpd2pi_stopsPrecisely (H : X87Host) (truncateOnly : Bool) {ctx : ExecutionContext} :
    StopsPrecisely (H.cvtpd2pi truncateOnly) ctx := by
  refine .quiet_bind (H.readVectorOperand_quiet _ _) fun src => .quiet_bind Quiet.get fun c => ?_
  exact .report (modifyState_total _)

/-- `CVTSD2SI` and `CVTTSD2SI`. -/
theorem cvtsd2si_stopsPrecisely (F : SseHost) (wide truncateOnly : Bool) {ctx : ExecutionContext} :
    StopsPrecisely (F.cvtsd2si wide truncateOnly) ctx := by
  refine .quiet_bind (F.readVectorOperand_quiet _ _) fun src => .quiet_bind Quiet.get fun c => ?_
  exact .report (modifyState_total _)

/-- **Which handlers stop precisely.** -/
theorem stopsPrecisely_iff (F : SseHost) (c : SseCode) (ctx : ExecutionContext) :
    StopsPrecisely (c.handler F) ctx ↔ ¬c.SpoilsFlags F.toX87Host ctx := by
  have hother (h : StopsPrecisely (c.handler F) ctx) (hc : ∀ size, c ≠ .compare size false) :
      StopsPrecisely (c.handler F) ctx ↔ ¬c.SpoilsFlags F.toX87Host ctx :=
    iff_of_true h fun ⟨size, _, heq, _⟩ => hc size heq
  cases c with
  | float c => exact hother (float_stopsPrecisely _ c) fun _ => nofun
  | vexSqrtPacked size len => exact hother (vexPackedUnary_stopsPrecisely _ _) fun _ => nofun
  | cvtpi2pd => exact hother (cvtpi2pd_stopsPrecisely _) fun _ => nofun
  | cvtpd2pi truncateOnly => exact hother (cvtpd2pi_stopsPrecisely _ _) fun _ => nofun
  | cvtsd2si wide truncateOnly => exact hother (cvtsd2si_stopsPrecisely F _ _) fun _ => nofun
  | compare size quiet =>
    cases quiet with
    | true => exact hother (F.scalarCompare_quiet size) fun _ => nofun
    | false =>
      refine (F.scalarCompare_ordered size).trans (not_congr ⟨?_, ?_⟩)
      · exact fun ⟨src, hcompare⟩ => ⟨size, src, rfl, hcompare⟩
      · rintro ⟨size', src, heq, hcompare⟩
        cases heq
        exact ⟨src, hcompare⟩

/-! ## `COMISS` of a NaN -/

/-- A host that calculates nothing. -/
def compareHost : SseHost where
  toFloatHost := vectorHost
  convertFpToInt64 _ _ _ := (0#64, 0#32)
  vexSqrtPacked _ _ _ := (0#512, 0#32)

/-- NaNs in `XMM0` and `XMM1`, no exception masked. -/
def unmaskedNaNs : ExecutionContext :=
  { fullVectors (.other 78) with
    state := { (fullVectors (.other 78)).state with mxcsr := 0#32 } }

/-- `COMISS XMM0, XMM1` stops with CF, PF and ZF set. -/
theorem comiss_imprecise :
    ¬StopsPrecisely ((SseCode.compare .single false).handler compareHost) unmaskedNaNs := by
  refine fun h => (compareHost.scalarCompare_ordered .single).mp h
    ⟨compareHost.readVec unmaskedNaNs.state (.other 78) &&& X87Host.vectorMask 4, ?_⟩
  have hdst : compareHost.IsVectorOperand unmaskedNaNs.instr 0 := ⟨rfl, by decide⟩
  have hread : compareHost.readVectorOperand 1 4 unmaskedNaNs =
      .ok (compareHost.readVec unmaskedNaNs.state (.other 78) &&& X87Host.vectorMask 4)
        unmaskedNaNs := rfl
  exact ⟨hdst, hread, by decide +kernel, by decide, by decide⟩

end SseCode

end Seven
