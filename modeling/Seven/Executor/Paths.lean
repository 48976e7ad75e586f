import Seven.Executor.Plain

/-!
# The paths of an attempt

Most of what can be said about `execute` is about what happens once the
handler runs, or about the attempts in which it does not. `reachCore` tells
the two apart: it is the rig the handler starts in, when the attempt gets
there. `execute_core` is the first half of the split, `execute_short` the
second, with `ShortPath` the ways an attempt ends before.

Two phases deliver debug exceptions: in front of the handler the one of an
execute breakpoint, and behind it those of the instruction. `breakpointRun` is
the first delivery, if there is one, and `debugEvent` the event of the second;
`executeBreakpoints_eq` and `debugExceptions_eq` say that the rest of either
phase is its delivery.
-/

namespace Seven

variable {W : Type}

/-! ## In front of the handler -/

/-- The delivery of a debug exception, about to run. -/
structure DebugDelivery where
  returnRip : U64
  pushRf : Bool
  context : ExecutionContext

/-- What the handler of `#DB` answers. -/
def DebugDelivery.result (d : DebugDelivery) : ExecutionResult × ExecutionContext :=
  (dispatchInterrupt 1#8 d.returnRip none d.pushRf).run d.context

/-- The delivery of an execute breakpoint. -/
def breakpointRun (startRip : U64) (p : Prologue) (suppressed : Bool) (g : Rig W) :
    Option DebugDelivery :=
  let hits := collectExecuteBreakpointHits g.state startRip
  if suppressed || !p.checkExecuteBreakpoints || hits == 0#64 then none
  else
    let g := g.mapState fun s => s.setDr 6 (s.dr 6 ||| hits)
    some ⟨startRip, false, g.context p.instr p.nextRip⟩

/-- **The phase of the execute breakpoints is the delivery of one.** -/
theorem executeBreakpoints_eq (startRip : U64) (p : Prologue) (suppressed : Bool) (g : Rig W) :
    executeBreakpoints startRip p suppressed g =
      match breakpointRun startRip p suppressed g with
      | none => (none, g)
      | some run =>
        let g := g.fromContext run.result.2
        if run.result.1.reason ≠ .none then (some (.fault run.result.1 false), g)
        else
          (some (.finish { code := some p.entry.reportedCode }),
            g.mapState fun s => maskStack { s with rip := maskInstructionPointer s s.rip }) := by
  unfold executeBreakpoints breakpointRun
  by_cases hskip : (suppressed || !p.checkExecuteBreakpoints ||
      collectExecuteBreakpointHits g.state startRip == 0#64) = true
  · rw [if_pos hskip, if_pos hskip]
  · rw [if_neg hskip, if_neg hskip]
    rfl

/-! ## Getting to the handler -/

/-- Is the attempt at `s` under breakpoint suppression? -/
def suppressed (s : CpuState) : Bool := flagSet s.rflags kFlagRF || s.debugSuppression != 0#8

/-- The rig the handler starts in, if the attempt gets to it. -/
def reachCore (env : Env W) (startRip : U64) (entry : DecodedInstruction) (g : Rig W) :
    Option (Rig W) :=
  let p := prologue env entry g.state
  if p.instr.code = .invalid then none
  else if !entry.simdAllowed then none
  else
    match executeBreakpoints startRip p (suppressed g.state) (g.mapState clearSuppression) with
    | (some _, _) => none
    | (none, g) =>
      match traps env startRip p g with
      | (some _, _) => none
      | (none, g) =>
        match instructionHooks env startRip p g with
        | (some _, _) => none
        | (none, g) => some g

/-- Is the trap flag set when the attempt begins? `RF` is another bit. -/
def singleStepping (s : CpuState) : Bool := flagSet (clearSuppression s).rflags kFlagTF

/-- Clearing `RF` leaves `TF`. -/
theorem singleStepping_eq (s : CpuState) : singleStepping s = flagSet s.rflags kFlagTF := by
  unfold singleStepping clearSuppression flagSet
  rw [BitVec.and_assoc, show ~~~kFlagRF &&& kFlagTF = kFlagTF by decide]

/-- A phase that ends the attempt. -/
theorem followedBy_some {phase : Phase W} {g g' : Rig W} {outcome : Outcome}
    (h : phase g = (some outcome, g')) (next : Rig W → Outcome × Rig W) :
    Phase.followedBy phase next g = (outcome, g') := by
  unfold Phase.followedBy
  rw [h]

/-- A phase that does not. -/
theorem followedBy_none {phase : Phase W} {g g' : Rig W} (h : phase g = (none, g'))
    (next : Rig W → Outcome × Rig W) : Phase.followedBy phase next g = next g' := by
  unfold Phase.followedBy
  rw [h]

/-- **An attempt that gets to the handler is the handler and what follows
it.** -/
theorem execute_core {env : Env W} {startRip : U64} {entry : DecodedInstruction} {g g₁ : Rig W}
    (h : reachCore env startRip entry g = some g₁) :
    execute env startRip entry g =
      core env (prologue env entry g.state) (g.state.debugSuppression != 0#8)
        (singleStepping g.state) g₁ := by
  -- The phases in the code's order; one that ends the attempt contradicts the core being reached.
  unfold reachCore at h
  unfold execute
  dsimp only at h ⊢
  by_cases hcode : (prologue env entry g.state).instr.code = .invalid
  · rw [if_pos hcode] at h
    cases h
  rw [if_neg hcode] at h ⊢
  by_cases hsimd : (!entry.simdAllowed) = true
  · rw [if_pos hsimd] at h
    cases h
  rw [if_neg hsimd] at h ⊢
  change Phase.followedBy
    (executeBreakpoints startRip (prologue env entry g.state) (suppressed g.state)) _ _ = _
  rcases hbreak : executeBreakpoints startRip (prologue env entry g.state) (suppressed g.state)
    (g.mapState clearSuppression) with ⟨_ | _, g₂⟩
  case some =>
    rw [hbreak] at h
    cases h
  rw [hbreak] at h
  rw [followedBy_none hbreak]
  dsimp only at h
  rcases htrap : traps env startRip (prologue env entry g.state) g₂ with ⟨_ | _, g₃⟩
  case some =>
    rw [htrap] at h
    cases h
  rw [htrap] at h
  rw [followedBy_none htrap]
  dsimp only at h
  rcases hhook : instructionHooks env startRip (prologue env entry g.state) g₃ with ⟨_ | _, g₄⟩
  case some =>
    rw [hhook] at h
    cases h
  rw [hhook] at h
  cases h
  rw [followedBy_none hhook]
  rfl

/-- A phase of the breakpoints that does not end the attempt changes nothing. -/
theorem executeBreakpoints_none {startRip : U64} {p : Prologue} {quiet : Bool} {g g' : Rig W}
    (h : executeBreakpoints startRip p quiet g = (none, g')) : g' = g := by
  rw [executeBreakpoints_eq] at h
  split at h
  next =>
    cases h
    rfl
  next run _ =>
    split at h
    next => cases h
    next => cases h

/-- How an attempt ends before the handler. -/
inductive ShortPath (env : Env W) (startRip : U64) (entry : DecodedInstruction) (g : Rig W) :
    Outcome × Rig W → Prop
  | invalid (hcode : entry.instr.code = .invalid) :
      ShortPath env startRip entry g (invalidOpcode env (prologue env entry g.state) g)
  | simd (hcode : entry.instr.code ≠ .invalid) (hsimd : entry.simdAllowed = false) :
      ShortPath env startRip entry g
        (.fault (faultAt .unsupportedInstruction g.state.rip (some entry.instr.code)) false, g)
  | breakpoint {outcome : Outcome} {g' : Rig W}
      (hcode : entry.instr.code ≠ .invalid) (hsimd : entry.simdAllowed = true)
      (hbreak : executeBreakpoints startRip (prologue env entry g.state) (suppressed g.state)
        (g.mapState clearSuppression) = (some outcome, g')) :
      ShortPath env startRip entry g (outcome, g')
  | trap {outcome : Outcome} {g' : Rig W}
      (hcode : entry.instr.code ≠ .invalid) (hsimd : entry.simdAllowed = true)
      (hbreak : executeBreakpoints startRip (prologue env entry g.state) (suppressed g.state)
        (g.mapState clearSuppression) = (none, g.mapState clearSuppression))
      (htrap : traps env startRip (prologue env entry g.state) (g.mapState clearSuppression) =
        (some outcome, g')) :
      ShortPath env startRip entry g (outcome, g')
  | hook {g₂ : Rig W} {outcome : Outcome} {g' : Rig W}
      (hcode : entry.instr.code ≠ .invalid) (hsimd : entry.simdAllowed = true)
      (hbreak : executeBreakpoints startRip (prologue env entry g.state) (suppressed g.state)
        (g.mapState clearSuppression) = (none, g.mapState clearSuppression))
      (htrap : traps env startRip (prologue env entry g.state) (g.mapState clearSuppression) =
        (none, g₂))
      (hhook : instructionHooks env startRip (prologue env entry g.state) g₂ =
        (some outcome, g')) :
      ShortPath env startRip entry g (outcome, g')

/-- **An attempt that does not get to the handler ends on one of these
paths.** -/
theorem execute_short {env : Env W} {startRip : U64} {entry : DecodedInstruction} {g : Rig W}
    (h : reachCore env startRip entry g = none) :
    ShortPath env startRip entry g (execute env startRip entry g) := by
  unfold reachCore at h
  unfold execute
  dsimp only at h ⊢
  -- The first phase that ends the attempt names the constructor.
  by_cases hcode : (prologue env entry g.state).instr.code = .invalid
  · rw [if_pos hcode]
    exact .invalid hcode
  rw [if_neg hcode] at h ⊢
  by_cases hsimd : (!entry.simdAllowed) = true
  · rw [if_pos hsimd]
    exact .simd hcode (by rw [Bool.not_eq_true'] at hsimd; exact hsimd)
  rw [if_neg hsimd] at h ⊢
  have hsimd : entry.simdAllowed = true := by
    rw [Bool.not_eq_true, Bool.not_eq_false'] at hsimd
    exact hsimd
  change ShortPath env startRip entry g (Phase.followedBy
    (executeBreakpoints startRip (prologue env entry g.state) (suppressed g.state)) _ _)
  rcases hbreak : executeBreakpoints startRip (prologue env entry g.state) (suppressed g.state)
    (g.mapState clearSuppression) with ⟨_ | outcome, g₁⟩
  case some =>
    rw [followedBy_some hbreak]
    exact .breakpoint hcode hsimd hbreak
  have hsame := executeBreakpoints_none hbreak
  subst hsame
  rw [hbreak] at h
  rw [followedBy_none hbreak]
  dsimp only at h
  rcases htrap : traps env startRip (prologue env entry g.state) (g.mapState clearSuppression)
    with ⟨_ | outcome, g₂⟩
  case some =>
    rw [followedBy_some htrap]
    exact .trap hcode hsimd hbreak htrap
  rw [htrap] at h
  rw [followedBy_none htrap]
  dsimp only at h
  rcases hhook : instructionHooks env startRip (prologue env entry g.state) g₂
    with ⟨_ | outcome, g₃⟩
  case some =>
    rw [followedBy_some hhook]
    exact .hook hcode hsimd hbreak htrap hhook
  rw [hhook] at h
  cases h

/-! ## Behind the handler -/

/-- A debug exception behind an instruction: does it report a single step,
and which data breakpoints does it report? -/
structure DebugEvent where
  singleStep : Bool
  hits : U64
deriving DecidableEq

/-- The data breakpoints the instruction hit. -/
def currentHits (p : Prologue) (ctx : ExecutionContext) (s : CpuState) : U64 :=
  if ctx.debugHitBits ≠ 0#64 then ctx.debugHitBits
  else collectDataBreakpointHits s p.debugMemoryAccesses

/-- The event the debug exceptions deliver. -/
def debugEvent (p : Prologue) (ctx : ExecutionContext) (debugSuppressed tfActive : Bool)
    (s : CpuState) : Option DebugEvent :=
  let shadow := s.debugSuppression != 0#8
  let hits := s.pendingDebugHitBits ||| currentHits p ctx s
  let singleStep := s.pendingSingleStep || (!debugSuppressed && tfActive)
  if !shadow && s.pendingDebugHitBits == 0#64 && !p.checkDataBreakpoints &&
      !s.pendingSingleStep && !tfActive then none
  else if shadow then none
  else if hits == 0#64 && !singleStep then none
  else some ⟨singleStep, hits⟩

/-- Without an event: in the shadow the hits wait. -/
def withholdHits (p : Prologue) (ctx : ExecutionContext) (s : CpuState) : CpuState :=
  if s.debugSuppression != 0#8 then
    { s with pendingDebugHitBits := s.pendingDebugHitBits ||| currentHits p ctx s }
  else s

namespace DebugEvent

/-- The bits of `DR6` the event sets. -/
def bits (e : DebugEvent) : U64 := (if e.singleStep then 1#64 <<< 14 else 0#64) ||| e.hits

/-- The state the event is delivered in. -/
def raise (e : DebugEvent) (s : CpuState) : CpuState :=
  let s := if e.singleStep then
      { s.setDr 6 (s.dr 6 ||| (1#64 <<< 14)) with pendingSingleStep := false } else s
  { s.setDr 6 (s.dr 6 ||| e.hits) with pendingDebugHitBits := 0#64 }

/-- `DR6` is given the hits. -/
theorem raise_dr6 (e : DebugEvent) (s : CpuState) : (e.raise s).dr 6 = s.dr 6 ||| e.bits := by
  unfold raise bits
  cases e.singleStep with
  | true => exact BitVec.or_assoc _ _ _
  | false =>
    show s.dr 6 ||| e.hits = s.dr 6 ||| (0#64 ||| e.hits)
    rw [BitVec.zero_or]

/-- The pending hits are gone. -/
theorem raise_pendingDebugHitBits (e : DebugEvent) (s : CpuState) :
    (e.raise s).pendingDebugHitBits = 0#64 := rfl

/-- A pending step is delivered with them. -/
theorem raise_pendingSingleStep (e : DebugEvent) (s : CpuState) :
    (e.raise s).pendingSingleStep = (s.pendingSingleStep && !e.singleStep) := by
  unfold raise
  cases e.singleStep with
  | true => exact (Bool.and_false _).symm
  | false => exact (Bool.and_true _).symm

/-- The delivery, about to run. -/
def delivery (e : DebugEvent) (p : Prologue) (ctx : ExecutionContext) (g : Rig W) :
    DebugDelivery :=
  let g := g.mapState e.raise
  ⟨g.state.rip, ctx.pushRfForDebug, g.context p.instr g.state.rip⟩

/-- The delivery. -/
def deliver (e : DebugEvent) (p : Prologue) (ctx : ExecutionContext) (g : Rig W) :
    ExecutionResult × Rig W :=
  let g := g.mapState e.raise
  let (db, dbCtx) := (dispatchInterrupt 1#8 g.state.rip none ctx.pushRfForDebug).run
    (g.context p.instr g.state.rip)
  (db, g.fromContext dbCtx)

/-- The delivery, by its result. -/
theorem deliver_eq (e : DebugEvent) (p : Prologue) (ctx : ExecutionContext) (g : Rig W) :
    e.deliver p ctx g =
      ((e.delivery p ctx g).result.1, (g.mapState e.raise).fromContext
        (e.delivery p ctx g).result.2) := rfl

end DebugEvent

/-- Inside a shadow the hits stay pending. -/
theorem withholdHits_shadow {p : Prologue} {ctx : ExecutionContext} {s : CpuState}
    (h : (s.debugSuppression != 0#8) = true) :
    withholdHits p ctx s =
      { s with pendingDebugHitBits := s.pendingDebugHitBits ||| currentHits p ctx s } := if_pos h

/-- Outside they are delivered. -/
theorem withholdHits_clear {p : Prologue} {ctx : ExecutionContext} {s : CpuState}
    (h : (s.debugSuppression != 0#8) = false) : withholdHits p ctx s = s := by
  unfold withholdHits
  rw [h]
  exact if_neg Bool.false_ne_true

/-- **The debug exceptions are the delivery of their event.** -/
theorem debugExceptions_eq (p : Prologue) (ctx : ExecutionContext)
    (debugSuppressed tfActive : Bool) (r : ExecutionResult) (g : Rig W) :
    debugExceptions p ctx debugSuppressed tfActive r g =
      match debugEvent p ctx debugSuppressed tfActive g.state with
      | none => (.finish r, { g with state := withholdHits p ctx g.state })
      | some e =>
        (if (e.deliver p ctx g).1.reason ≠ .none then .abort (e.deliver p ctx g).1 else .finish r,
          (e.deliver p ctx g).2) := by
  unfold debugExceptions debugEvent
  dsimp only
  -- A shadow, the quick test for nothing to do, the hits found, and the delivery, as the code
  -- asks.
  by_cases hshadow : (g.state.debugSuppression != 0#8) = true
  · rw [withholdHits_shadow hshadow, hshadow]
    rfl
  rw [Bool.not_eq_true] at hshadow
  rw [withholdHits_clear hshadow, hshadow]
  by_cases hquiet : (!false && g.state.pendingDebugHitBits == 0#64 && !p.checkDataBreakpoints &&
      !g.state.pendingSingleStep && !tfActive) = true
  · rw [if_pos hquiet, if_pos hquiet]
  rw [if_neg hquiet, if_neg hquiet, if_neg Bool.false_ne_true, if_neg Bool.false_ne_true]
  change (if (g.state.pendingDebugHitBits ||| currentHits p ctx g.state == 0#64 && _) = true then _
    else _) = _
  by_cases hnothing : (g.state.pendingDebugHitBits ||| currentHits p ctx g.state == 0#64 &&
      !(g.state.pendingSingleStep || !debugSuppressed && tfActive)) = true
  · rw [if_pos hnothing, if_pos hnothing]
  rw [if_neg hnothing, if_neg hnothing]
  obtain ⟨e, he⟩ : ∃ e : DebugEvent, e = ⟨g.state.pendingSingleStep ||
      (!debugSuppressed && tfActive), g.state.pendingDebugHitBits ||| currentHits p ctx g.state⟩ :=
    ⟨_, rfl⟩
  rw [← he]
  have hdeliver : (if (e.deliver p ctx g).1.reason ≠ .none
      then (Outcome.abort (e.deliver p ctx g).1, (e.deliver p ctx g).2)
      else (.finish r, (e.deliver p ctx g).2)) =
      (if (e.deliver p ctx g).1.reason ≠ .none then .abort (e.deliver p ctx g).1 else .finish r,
        (e.deliver p ctx g).2) := by
    split <;> rfl
  refine Eq.trans ?_ hdeliver
  subst he
  rfl

end Seven
