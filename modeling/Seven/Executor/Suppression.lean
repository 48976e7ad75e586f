import Seven.Executor.Frames

/-!
# Breakpoint suppression and faults

`RF` and the debug suppression keep an execute breakpoint from being
delivered again at the instruction it was delivered for. An attempt uses them
up before it knows whether it will complete (`clearSuppression`), and nothing
puts them back. So an attempt that faults later leaves neither, and when the
fault is recovered the breakpoint is delivered a second time.

`Env.fault_suppression` says exactly which faults come early enough;
`Recovered` are the ways a faulting attempt is followed by another.
-/

namespace Seven

open Seven.Lib

variable {W : Type}

/-! ## The suppression -/

/-- `RF` and the debug suppression are the same. -/
structure SameSuppression (s t : CpuState) : Prop where
  rf : flagSet t.rflags kFlagRF = flagSet s.rflags kFlagRF
  debug : t.debugSuppression = s.debugSuppression

/-- RF is a system flag. -/
theorem systemFlags_rf {a b : U64} (h : systemFlags a = systemFlags b) :
    flagSet a kFlagRF = flagSet b kFlagRF := by
  have hrf (r : U64) : r &&& kFlagRF = systemFlags r &&& kFlagRF := by
    unfold systemFlags
    rw [BitVec.and_assoc, show ~~~kStatusFlags &&& kFlagRF = kFlagRF by decide]
  unfold flagSet
  rw [hrf a, hrf b, h]

/-- It is a frame. -/
theorem sameSuppression_frame : StateFrame SameSuppression where
  refl _ := ⟨rfl, rfl⟩
  trans h h' := ⟨h'.rf.trans h.rf, h'.debug.trans h.debug⟩
  gpr _ _ _ := ⟨rfl, rfl⟩
  sreg _ _ _ := ⟨rfl, rfl⟩
  register s reg value width := by
    unfold writeRegister
    split <;> exact ⟨rfl, rfl⟩
  rip _ _ := ⟨rfl, rfl⟩
  mode _ _ := ⟨rfl, rfl⟩
  flags _ _ h := ⟨systemFlags_rf h, rfl⟩

/-- Suppression depends on RF and the shadow. -/
theorem SameSuppression.suppressed {s t : CpuState} (h : SameSuppression s t) :
    suppressed t = suppressed s := by
  unfold Seven.suppressed
  rw [h.rf, h.debug]

/-- Nothing is suppressed once cleared. -/
theorem suppressed_clearSuppression (s : CpuState) : suppressed (clearSuppression s) = false := by
  have hrf : flagSet (clearSuppression s).rflags kFlagRF = false := by
    show flagSet (s.rflags &&& ~~~kFlagRF) kFlagRF = false
    unfold flagSet
    rw [BitVec.and_assoc, show ~~~kFlagRF &&& kFlagRF = 0#64 by decide, BitVec.and_zero]
    rfl
  unfold suppressed
  rw [hrf]
  rfl

/-! ## Faulting attempts -/

/-- The attempt ends before it would use the suppression up. -/
def FaultsEarly : Fetched → Prop
  | .decoded entry => entry.instr.code = .invalid ∨ entry.simdAllowed = false
  | _ => True

instance : DecidablePred FaultsEarly
  | .decoded _ => inferInstanceAs (Decidable (_ ∨ _))
  | .pageFault => isTrue trivial
  | .decodeError => isTrue trivial

/-- The attempt faults. -/
def Env.Faults (env : Env W) (startRip : U64) (s : Caches × Rig W) : Prop :=
  ∃ r clear g, env.attemptFetched startRip (env.fetch s).2 s.2 = (.fault r clear, g)

/-- A failing handler has not touched the suppression it found. -/
theorem core_fault_suppression {env : Env W}
    (hother : ∀ code h, env.otherHandler code = some h → FailsAlong (OnState SameSuppression) h)
    {p : Prologue} {debugSuppressed tfActive clear : Bool} {g g' : Rig W} {r : ExecutionResult}
    (hfault : core env p debugSuppressed tfActive g = (.fault r clear, g')) :
    SameSuppression g.state g'.state := by
  rw [core_eq] at hfault
  dsimp only at hfault
  split at hfault
  -- The handler's own fault, or a `#DB` that cannot be delivered.
  next hreason =>
    have hfails := Env.handler_failsAlong sameSuppression_frame.onState
      (noteDebugBreak_onState sameSuppression_frame.toIsPath) hother p.entry.reportedCode
      (g.context p.instr p.nextRip)
    cases hfault
    unfold Handler.run at hreason ⊢
    cases hrun : env.handler p.entry.reportedCode (g.context p.instr p.nextRip) with
    | ok u ctx =>
      rw [hrun] at hreason
      exact absurd rfl hreason
    | error e ctx => exact hfails e ctx hrun
  next =>
    rw [debugExceptions_eq] at hfault
    split at hfault
    next => cases hfault
    next e _ =>
      -- A failed delivery aborts the attempt and is no fault.
      by_cases hreason : (e.deliver p ((env.handler p.entry.reportedCode).run
          (g.context p.instr p.nextRip)).2 (coreRig env p ((env.handler p.entry.reportedCode).run
          (g.context p.instr p.nextRip)).2 g)).1.reason ≠ .none
      · rw [if_pos hreason] at hfault
        cases hfault
      · rw [if_neg hreason] at hfault
        cases hfault

section

variable {env : Env W} (hhooks : env.HooksAlong SameSuppression)
  (hother : ∀ code h, env.otherHandler code = some h → FailsAlong (OnState SameSuppression) h)
include hhooks

/-- An attempt that ends before the suppression is used up leaves it. -/
theorem early_end_suppression {startRip : U64} {fetched : Fetched} {g g' : Rig W}
    {outcome : Outcome} (hearly : FaultsEarly fetched)
    (hrun : env.attemptFetched startRip fetched g = (outcome, g')) :
    SameSuppression g.state g'.state := by
  cases fetched with
  | pageFault =>
    cases hrun
    exact sameSuppression_frame.refl _
  | decodeError =>
    cases hrun
    exact sameSuppression_frame.refl _
  | decoded entry =>
    change execute env startRip entry g = _ at hrun
    unfold execute at hrun
    dsimp only at hrun
    by_cases hcode : (prologue env entry g.state).instr.code = .invalid
    · rw [if_pos hcode] at hrun
      have halong := invalidOpcode_along sameSuppression_frame hhooks (prologue env entry g.state) g
      rw [hrun] at halong
      exact halong
    -- These two ends come in front of the clearing of the suppression.
    · have hsimd : (!entry.simdAllowed) = true := by
        rcases hearly with hinvalid | hsimd
        · exact absurd hinvalid hcode
        · rw [hsimd]
          rfl
      rw [if_neg hcode, if_pos hsimd] at hrun
      cases hrun
      exact sameSuppression_frame.refl _

include hother

/-- A fault behind that point leaves none. -/
theorem late_fault_suppression {startRip : U64} {fetched : Fetched} {g g' : Rig W}
    {r : ExecutionResult} {clear : Bool} (hset : suppressed g.state = true)
    (hlate : ¬FaultsEarly fetched)
    (hrun : env.attemptFetched startRip fetched g = (.fault r clear, g')) :
    SameSuppression (clearSuppression g.state) g'.state := by
  cases fetched with
  | pageFault => exact absurd trivial hlate
  | decodeError => exact absurd trivial hlate
  | decoded entry =>
    change execute env startRip entry g = _ at hrun
    change ¬(entry.instr.code = .invalid ∨ entry.simdAllowed = false) at hlate
    rw [not_or] at hlate
    -- The other faults lie behind it: of the core, of a trap hook or of an instruction hook.
    cases hreach : reachCore env startRip entry g with
    | some g₁ =>
      rw [execute_core hreach] at hrun
      exact sameSuppression_frame.trans (reachCore_along sameSuppression_frame hhooks hreach)
        (core_fault_suppression hother hrun)
    | none =>
      have hshort := execute_short hreach
      have htraps := traps_along sameSuppression_frame hhooks startRip (prologue env entry g.state)
        (g.mapState clearSuppression)
      generalize execute env startRip entry g = o at hshort hrun
      cases hshort with
      | invalid hcode => exact absurd hcode hlate.1
      | simd _ hsimd => exact absurd hsimd hlate.2
      | breakpoint _ _ hbreak =>
        rw [hset] at hbreak
        cases hbreak
      | trap _ _ _ htrap =>
        cases hrun
        rw [htrap] at htraps
        exact htraps
      | @hook g₂ _ _ _ _ _ htrap hhook =>
        have hinstruction := instructionHooks_along sameSuppression_frame hhooks startRip
          (prologue env entry g.state) g₂
        cases hrun
        rw [htrap] at htraps
        rw [hhook] at hinstruction
        exact sameSuppression_frame.trans htraps hinstruction

end

/-! ## What follows a fault -/

/-- The attempts that may follow a faulting one: the next attempt of the same
step, when a fault hook answers *retry* or *restart*, or the first attempt of
the next step, when the fault is reported and the caller comes back with any
memory. -/
inductive Env.Recovered (env : Env W) (startRip : U64) (s : Caches × Rig W) :
    Caches × Rig W → Prop
  | retried {t : Caches × Rig W} (h : env.attempt startRip s = .again t) : env.Recovered startRip s t
  | reported {out : ExecutionResult × Caches × Rig W} {ex : Executor} {m : Machine W}
      (h : env.attempt startRip s = .done out) (hstate : m.state = (env.leave ex out).2.2.state) :
      env.Recovered startRip s (ex.caches, env.enter ex m)

/-- What follows has the suppression the attempt left. -/
theorem Env.Recovered.sameSuppression {env : Env W} (hout : env.OuterHooksAlong SameSuppression)
    {startRip : U64} {s t : Caches × Rig W} {r : ExecutionResult} {clear : Bool} {g : Rig W}
    (hfault : env.attemptFetched startRip (env.fetch s).2 s.2 = (.fault r clear, g))
    (h : env.Recovered startRip s t) : SameSuppression g.state t.2.state := by
  have hpath := sameSuppression_frame.toIsPath
  have hconclude : SameSuppression g.state
      (answerState (env.conclude startRip (.fault r clear, g))) := by
    have hrecover := hout.tryRecoverFault sameSuppression_frame startRip r g
    dsimp only [Env.conclude]
    split
    next g₂ htry =>
      rw [htry] at hrecover
      exact hrecover
    next g₂ htry =>
      rw [htry] at hrecover
      have hclear : SameSuppression g₂.state
          (if clear then g₂.mapState clearPending else g₂).state := by
        cases clear <;> exact ⟨rfl, rfl⟩
      exact hpath.trans (hpath.trans hrecover hclear) (hout.reportStop hpath r _)
  rw [← hfault] at hconclude
  -- The attempt is made again, or a result is reported and a later step begins on the state left.
  cases h with
  | retried hagain =>
    rw [attempt_again hagain] at hconclude
    exact hconclude
  | @reported out ex m hdone hstate =>
    rw [attempt_done hdone] at hconclude
    have hleave := syncContext_along hpath hout.contextWrite out.2.2
    have hread := syncContext_along hpath hout.contextRead
      { m with log := env.openLog ex.log }
    have henter : SameSuppression (syncContext env.contextRead
        { m with log := env.openLog ex.log }).state (env.enter ex m).state := ⟨rfl, rfl⟩
    refine hpath.trans (hpath.trans hconclude hleave) (hpath.trans ?_ henter)
    rw [show (syncContext env.contextWrite out.2.2).state = m.state from hstate.symm]
    exact hread

/-- The attempt delivers an execute breakpoint instead of executing its
instruction. -/
def Env.DeliversBreakpoint (env : Env W) (startRip : U64) (s : Caches × Rig W) : Prop :=
  ∃ entry, (env.fetch s).2 = .decoded entry ∧ ¬FaultsEarly (.decoded entry) ∧
    suppressed s.2.state = false ∧ hasEnabledExecuteBreakpoints s.2.state = true ∧
    collectExecuteBreakpointHits s.2.state startRip ≠ 0#64

/-- It is delivered in such an attempt: the phase of the breakpoints ends it. -/
theorem Env.DeliversBreakpoint.execute {env : Env W} {startRip : U64} {s : Caches × Rig W}
    (h : env.DeliversBreakpoint startRip s) :
    ∃ entry outcome g, (env.fetch s).2 = .decoded entry ∧
      executeBreakpoints startRip (prologue env entry s.2.state) false
        (s.2.mapState clearSuppression) = (some outcome, g) ∧
      env.attemptFetched startRip (env.fetch s).2 s.2 = (outcome, g) := by
  obtain ⟨entry, hfetch, hvalid, hset, henabled, hhits⟩ := h
  -- Nothing suppresses the breakpoint, so the hits are asked for and end the attempt.
  obtain ⟨outcome, g, hbreak⟩ : ∃ outcome g, executeBreakpoints startRip
      (prologue env entry s.2.state) false (s.2.mapState clearSuppression) = (some outcome, g) := by
    have hhits : (collectExecuteBreakpointHits (clearSuppression s.2.state) startRip == 0#64) =
        false := beq_eq_false_iff_ne.mpr hhits
    have hrun : (false || !(prologue env entry s.2.state).checkExecuteBreakpoints ||
        collectExecuteBreakpointHits (s.2.mapState clearSuppression).state startRip == 0#64) =
        false := by
      show (false || !hasEnabledExecuteBreakpoints s.2.state ||
        collectExecuteBreakpointHits (clearSuppression s.2.state) startRip == 0#64) = false
      rw [henabled, hhits]
      rfl
    rw [executeBreakpoints_eq, breakpointRun]
    dsimp only
    rw [hrun, if_neg Bool.false_ne_true]
    dsimp only
    split <;> exact ⟨_, _, rfl⟩
  refine ⟨entry, outcome, g, hfetch, hbreak, ?_⟩
  change ¬(entry.instr.code = .invalid ∨ entry.simdAllowed = false) at hvalid
  rw [not_or, Bool.not_eq_false] at hvalid
  have hcode : (prologue env entry s.2.state).instr.code ≠ .invalid := hvalid.1
  rw [hfetch]
  show Seven.execute env startRip entry s.2 = _
  unfold Seven.execute
  dsimp only
  rw [if_neg hcode, hvalid.2, if_neg (by decide)]
  change Phase.followedBy (executeBreakpoints startRip _ (suppressed s.2.state)) _ _ = _
  rw [hset]
  exact followedBy_some hbreak _

/-- **When the suppression survives a fault.** An attempt under suppression
that faults is followed by one with the same suppression if and only if it
faulted early: in the fetch, in the decoder, on `INVALID` or on an instruction
of a disabled feature. Where an execute breakpoint is set at the instruction
that is executed next, exactly then it is not delivered again. -/
theorem Env.fault_suppression {env : Env W} (hhooks : env.HooksAlong SameSuppression)
    (hout : env.OuterHooksAlong SameSuppression)
    (hother : ∀ code h, env.otherHandler code = some h → FailsAlong (OnState SameSuppression) h)
    {startRip : U64} {s t : Caches × Rig W} (hset : suppressed s.2.state = true)
    (hfaults : env.Faults startRip s) (hrecovered : env.Recovered startRip s t) :
    (SameSuppression s.2.state t.2.state ↔ FaultsEarly (env.fetch s).2) ∧
    ∀ startRip' entry, (env.fetch t).2 = .decoded entry → ¬FaultsEarly (.decoded entry) →
      hasEnabledExecuteBreakpoints t.2.state = true →
      collectExecuteBreakpointHits t.2.state startRip' ≠ 0#64 →
      (¬env.DeliversBreakpoint startRip' t ↔ FaultsEarly (env.fetch s).2) := by
  obtain ⟨r, clear, g, hfault⟩ := hfaults
  have hafter := hrecovered.sameSuppression hout hfault
  -- Suppressed after the fault exactly where the fault came early: the clearing lies between.
  have hsuppressed : suppressed t.2.state = true ↔ FaultsEarly (env.fetch s).2 := by
    by_cases hearly : FaultsEarly (env.fetch s).2
    · have hkept := early_end_suppression hhooks hearly hfault
      rw [hafter.suppressed, hkept.suppressed]
      exact iff_of_true hset hearly
    · have hlost := late_fault_suppression hhooks hother hset hearly hfault
      rw [hafter.suppressed, hlost.suppressed, suppressed_clearSuppression]
      exact iff_of_false Bool.false_ne_true hearly
  refine ⟨⟨fun hsame => ?_, fun hearly => ?_⟩, fun startRip' entry hfetch hvalid henabled hhits => ?_⟩
  · exact hsuppressed.mp (hsame.suppressed.trans hset)
  · exact sameSuppression_frame.trans (early_end_suppression hhooks hearly hfault) hafter
  · rw [← hsuppressed]
    constructor
    · intro hnone
      by_contra hclear
      rw [Bool.not_eq_true] at hclear
      exact hnone ⟨entry, hfetch, hvalid, hclear, henabled, hhits⟩
    -- With the suppression lost the breakpoint at the new address is delivered.
    · rintro hkept ⟨_, _, _, hclear, _, _⟩
      rw [hkept] at hclear
      cases hclear

/-! `50` is `PUSH AX` at `1000`, where an execute breakpoint is set; `RF` is
set, and the page of the stack is missing. -/

/-- `PUSH AX`. -/
def resumeDecoder : Decode := fun _ bytes _ =>
  bytes.head?.bind fun b =>
    if b = 0x50#8 then
      some { code := .stack .pushR16, length := 1, opRegister := fun _ => .ax }
    else none

/-- Its environment. -/
def resumeEnv : Env Unit := { decode := resumeDecoder }

/-- RF set and an execute breakpoint, the stack not mapped. -/
def resumeMachine : Machine Unit where
  state :=
    { rip := 0x1000#64
      mode := .real16
      rflags := 0x10202#64
      idtr := ⟨0#64, 0x3FF#16⟩
      dr := fun i => if i = 0 then 0x1000#64 else if i = 7 then 1#64 else 0#64
      gpr := fun i => if i = 4 then 0x5800#64 else 0#64 }
  memory := (Memory.writeUnchecked (Memory.map {} 0#64 0x2000#64 kMemoryPermissionAll)
    0x1000#64 [0x50#8]).1
  world := ()

/-- The caller has mapped the page. -/
def mapStackPage (m : Machine Unit) : Machine Unit :=
  { m with memory := Memory.map m.memory 0x5000#64 0x1000#64 kMemoryPermissionAll }

/-- No hooks. -/
theorem resumeEnv_hooksAlong (R : CpuState → CpuState → Prop) : resumeEnv.HooksAlong R :=
  Env.NoCoreHooks.hooksAlong ⟨fun _ => rfl, rfl, fun _ => rfl, rfl, fun _ => rfl⟩ R

/-- Nor outer ones. -/
theorem resumeEnv_outerHooksAlong (R : CpuState → CpuState → Prop) :
    resumeEnv.OuterHooksAlong R where
  fault hook hmem := absurd hmem List.not_mem_nil
  stop hook hmem := absurd hmem List.not_mem_nil
  contextRead f hf := by cases hf
  contextWrite f hf := by cases hf

/-- The attempt of the first step. -/
def resumeStart : Caches × Rig Unit := ({}, resumeEnv.enter {} resumeMachine)

/-- The attempt of the second. -/
def resumeAgain : Caches × Rig Unit :=
  let s := resumeEnv.step {} resumeMachine
  (s.2.1.caches, resumeEnv.enter s.2.1 (mapStackPage s.2.2))

set_option maxRecDepth 20000 in
/-- The push faults. -/
theorem resumeStart_faults : resumeEnv.Faults 0x1000#64 resumeStart := ⟨_, _, _, rfl⟩

set_option maxRecDepth 20000 in
/-- And is recovered. -/
theorem resumeAgain_recovered : resumeEnv.Recovered 0x1000#64 resumeStart resumeAgain :=
  .reported (m := mapStackPage (resumeEnv.step {} resumeMachine).2.2) rfl rfl

set_option maxRecDepth 20000 in
/-- The fault of the `PUSH` is a late one. -/
theorem Env.fault_suppression_push :
    ¬SameSuppression resumeStart.2.state resumeAgain.2.state := by
  have hiff := (Env.fault_suppression (resumeEnv_hooksAlong _) (resumeEnv_outerHooksAlong _)
    (fun code h hnone => by cases hnone) (by decide) resumeStart_faults resumeAgain_recovered).1
  rw [hiff]
  decide +kernel

set_option maxRecDepth 20000 in
/-- The step faults, the page is mapped, and the next step delivers the
breakpoint. -/
theorem Env.resume_redelivers :
    suppressed resumeMachine.state = true ∧
      (resumeEnv.step {} resumeMachine).1.reason = .pageFault ∧
      let s := resumeEnv.step {} resumeMachine
      let s' := resumeEnv.step s.2.1 (mapStackPage s.2.2)
      s'.1.reason = .none ∧ s'.1.retired = 0 ∧ s'.2.2.state.dr 6 = 1#64 := by
  decide +kernel

end Seven
