import Seven.Executor.SingleStep

/-!
# Events in the shadow of `SS`

The debug exceptions of a load of `SS` wait for the end of the next
instruction, which may be a load of `SS` again. The single step and the data
breakpoints that wait are kept in the state: `pendingEvent`. Without hooks, a
step that ends without a stop adds its own event to the waiting one
(`Env.shadow_step`) or delivers the sum of both (`Env.plain_step`), and so
the events of a chain of loads are delivered once, together with those of the
first instruction behind it (`Env.shadow_delivery`).
-/

namespace Seven

open Seven.Lib

variable {W : Type}

/-! ## Steps without hooks -/

/-- No hook and no context callback is installed. -/
structure Env.NoHooks (env : Env W) : Prop extends env.NoCoreHooks where
  fault : env.faultHooks = []
  stop : env.stopHooks = []
  contextRead : env.contextRead = none
  contextWrite : env.contextWrite = none

/-- The instruction a step executes by its handler, when its first attempt
does. -/
def Env.instruction (env : Env W) (ex : Executor) (m : Machine W) : Option (Execution W) :=
  if ex.stopRequested then none
  else env.executed (env.enter ex m).state.rip (env.start ex m)

/-- The debug exception behind it. -/
def Env.stepEvent (env : Env W) (ex : Executor) (m : Machine W) : Option DebugEvent :=
  if ex.stopRequested then none else env.event (env.enter ex m).state.rip (env.start ex m)

/-- Without hooks there is one attempt. -/
theorem Env.NoHooks.attempt_done {env : Env W} (h : env.NoHooks) (startRip : U64)
    (s : Caches × Rig W) : ∃ r, env.attempt startRip s = .done r := by
  have hrecover (r : ExecutionResult) (g : Rig W) :
      env.tryRecoverFault startRip r g = (false, g) := by
    unfold Env.tryRecoverFault Env.runFaultHooks
    rw [h.fault]
    rfl
  unfold Env.attempt
  dsimp only
  rcases env.attemptFetched startRip (env.fetch s).2 s.2 with ⟨outcome, g⟩
  cases outcome with
  | finish r => exact ⟨_, rfl⟩
  | abort r => exact ⟨_, rfl⟩
  | fault r clear =>
    dsimp only [Env.conclude]
    rw [hrecover]
    exact ⟨_, rfl⟩

/-- **Without hooks a step is its first attempt.** -/
theorem Env.NoHooks.step_eq {env : Env W} (h : env.NoHooks) {ex : Executor} {m : Machine W}
    (hstop : ex.stopRequested = false) {r : ExecutionResult × Caches × Rig W}
    (hdone : env.attempt (env.enter ex m).state.rip (env.start ex m) = .done r) :
    env.step ex m = (r.1, { ex with caches := r.2.1, log := r.2.2.log }, r.2.2.toMachine) := by
  have hattempts : env.attempts (env.enter ex m).state.rip kMaxFaultRetries
      (ex.caches, env.enter ex m) = r := retry_done hdone
  unfold Env.step
  rw [if_neg (by rw [hstop]; exact Bool.false_ne_true)]
  dsimp only
  rw [hattempts]
  unfold Env.leave
  rw [h.contextWrite]
  rfl

/-- A step enters with the machine's state. -/
theorem Env.NoHooks.enter_state {env : Env W} (h : env.NoHooks) (ex : Executor) (m : Machine W) :
    (env.enter ex m).state = enterStep m.state := by
  unfold Env.enter
  rw [h.contextRead]
  rfl

/-- A step that executes was not stopped. -/
theorem Env.step_running_of_none {env : Env W} {ex : Executor} {m : Machine W}
    (hok : (env.step ex m).1.reason = .none) : ex.stopRequested = false := by
  cases hstop : ex.stopRequested with
  | false => rfl
  | true =>
    unfold Env.step at hok
    rw [hstop, if_pos rfl] at hok
    cases hok

/-! ## The events that wait -/

namespace DebugEvent

/-- Nothing. -/
def nothing : DebugEvent := ⟨false, 0#64⟩

/-- Both in one. -/
def union (e f : DebugEvent) : DebugEvent := ⟨e.singleStep || f.singleStep, e.hits ||| f.hits⟩

/-- What is delivered of it. -/
def delivered (e : DebugEvent) : Option DebugEvent := if e = nothing then none else some e

end DebugEvent

/-- The event that waits in the state. -/
def pendingEvent (s : CpuState) : DebugEvent := ⟨s.pendingSingleStep, s.pendingDebugHitBits⟩

/-- The event of the instruction the step executes: a single step if it began
with the trap flag, and the data breakpoints it hit. -/
def Env.ownEvent (env : Env W) (ex : Executor) (m : Machine W) : DebugEvent :=
  match env.instruction ex m with
  | some x => ⟨flagSet m.state.rflags kFlagTF, currentHits x.prologue x.context x.rig.state⟩
  | none => .nothing

/-- The step executes an instruction that sets the debug suppression. -/
def Env.Shadows (env : Env W) (ex : Executor) (m : Machine W) : Prop :=
  ∃ x ∈ env.instruction ex m, x.context.state.debugSuppression ≠ 0#8

instance (env : Env W) (ex : Executor) (m : Machine W) : Decidable (env.Shadows ex m) :=
  inferInstanceAs (Decidable (∃ x ∈ env.instruction ex m, _))

/-- The pending event depends on the debug state. -/
theorem SameDebug.pendingEvent {s t : CpuState} (h : SameDebug s t) :
    pendingEvent t = pendingEvent s := by
  unfold Seven.pendingEvent
  rw [h.singleStep, h.hits]

/-! ## One step -/

/-- How a step without hooks that ends without a stop executed its
instruction. -/
structure Env.Stepped (env : Env W) (ex : Executor) (m : Machine W) (x : Execution W)
    (g : Rig W) : Prop where
  stopRequested : ex.stopRequested = false
  executes : env.Executes (env.enter ex m).state.rip (env.start ex m) x g
  event : env.stepEvent ex m = debugEvent x.prologue x.context
    (m.state.debugSuppression != 0#8) (flagSet m.state.rflags kFlagTF) x.rig.state
  own : env.ownEvent ex m =
    ⟨flagSet m.state.rflags kFlagTF, currentHits x.prologue x.context x.rig.state⟩
  machine : (env.step ex m).2.2 =
    match env.stepEvent ex m with
    | none => { x.rig.toMachine with state := withholdHits x.prologue x.context x.rig.state }
    | some e => (e.deliver x.prologue x.context x.rig).2.toMachine

/-- What a step without hooks leaves. -/
theorem Env.NoHooks.stepped {env : Env W} (h : env.NoHooks) {ex : Executor} {m : Machine W}
    (hok : (env.step ex m).1.reason = .none) {x : Execution W}
    (hx : env.instruction ex m = some x) : ∃ g, env.Stepped ex m x g := by
  have hstop := Env.step_running_of_none hok
  have hexecuted : env.executed (env.enter ex m).state.rip (env.start ex m) = some x := by
    unfold Env.instruction at hx
    rw [hstop] at hx
    exact hx
  obtain ⟨g, hexecutes⟩ := Env.executes hexecuted
  have hstart : (env.start ex m).2.state = enterStep m.state := h.enter_state ex m
  -- The event is decided on the state the instruction left, with TF as it was before it.
  have hevent : env.stepEvent ex m = debugEvent x.prologue x.context
      (m.state.debugSuppression != 0#8) (flagSet m.state.rflags kFlagTF) x.rig.state := by
    unfold Env.stepEvent Env.event
    rw [hstop, hexecuted, singleStepping_eq, hstart]
    rfl
  refine ⟨g, hstop, hexecutes, hevent, ?_, ?_⟩
  · unfold Env.ownEvent
    rw [hx]
  · have hattempt := hexecutes.attempt
    rw [debugExceptions_eq, singleStepping_eq, hstart] at hattempt
    change env.attempt _ _ = withCaches _ (env.conclude _ (match debugEvent x.prologue x.context
      (m.state.debugSuppression != 0#8) (flagSet m.state.rflags kFlagTF) x.rig.state with
      | none => _
      | some e => _)) at hattempt
    rw [← hevent] at hattempt
    cases he : env.stepEvent ex m with
    | none =>
      rw [he] at hattempt
      rw [h.step_eq hstop hattempt]
    | some e =>
      rw [he] at hattempt
      -- A delivery that fails would give the step a reason.
      by_cases hdb : (e.deliver x.prologue x.context x.rig).1.reason ≠ .none
      · dsimp only at hattempt
        rw [if_pos hdb] at hattempt
        rw [h.step_eq hstop hattempt] at hok
        exact absurd hok hdb
      · dsimp only at hattempt
        rw [if_neg hdb] at hattempt
        rw [h.step_eq hstop hattempt]

/-- Without hooks the handler starts where the attempt did, but for the
suppression. -/
theorem Env.NoCoreHooks.reached {env : Env W} (h : env.NoCoreHooks) {startRip : U64}
    {entry : DecodedInstruction} {g g₁ : Rig W} (hreach : reachCore env startRip entry g = some g₁) :
    g₁ = g.mapState clearSuppression := by
  unfold reachCore at hreach
  dsimp only at hreach
  split at hreach
  next => cases hreach
  next =>
    split at hreach
    next => cases hreach
    next =>
      split at hreach
      next => cases hreach
      next g₂ hbreak =>
        cases executeBreakpoints_none hbreak
        rw [h.traps] at hreach
        dsimp only at hreach
        rw [h.instructionHooks] at hreach
        cases hreach
        rfl

section steps

variable {env : Env W} {ex : Executor} {m : Machine W} {x : Execution W} {g : Rig W}

/-- What the handler noted, as seen from the beginning of the step. -/
theorem Env.Stepped.notes (h : env.Stepped ex m x g) (hhooks : env.NoHooks)
    (hother : ∀ code h, env.otherHandler code = some h → Moves DebugNotes h) :
    DebugNotes (g.context x.prologue.instr x.prologue.nextRip) x.context ∧
      g.state = clearSuppression (enterStep m.state) := by
  have hnotes := Env.handler_debugNotes hother x.prologue.entry.reportedCode
    (g.context x.prologue.instr x.prologue.nextRip)
  unfold MovesAt at hnotes
  rw [← run_state, ← h.executes.context] at hnotes
  refine ⟨hnotes, ?_⟩
  rw [hhooks.reached h.executes.reached]
  show clearSuppression (env.enter ex m).state = _
  rw [hhooks.enter_state]

/-- Where no data breakpoint is enabled, none is hit. -/
theorem Env.Stepped.currentHits (h : env.Stepped ex m x g) (hhooks : env.NoHooks)
    (hother : ∀ code h, env.otherHandler code = some h → Moves DebugNotes h)
    (hoff : x.prologue.checkDataBreakpoints = false) :
    currentHits x.prologue x.context x.rig.state = 0#64 := by
  obtain ⟨hnotes, hstate⟩ := h.notes hhooks hother
  have hprologue := h.executes.prologue
  rw [hprologue] at hoff
  have hdisabled : hasEnabledDataBreakpoints (env.start ex m).2.state = false := hoff
  have haccesses : x.prologue.debugMemoryAccesses = [] := by
    rw [hprologue]
    show (if hasEnabledDataBreakpoints (env.start ex m).2.state then _ else _) = _
    rw [hdisabled]
    rfl
  have hdr : g.state.dr = (env.start ex m).2.state.dr := by
    rw [hstate]
    show _ = (env.enter ex m).state.dr
    rw [hhooks.enter_state]
    rfl
  have hbits : x.context.debugHitBits = 0#64 :=
    hnotes.hits ((hasEnabledDataBreakpoints_congr (congrFun hdr 7)).trans hdisabled)
  unfold Seven.currentHits
  rw [hbits, if_neg (not_not_intro rfl), haccesses]
  rfl

/-- **A load of `SS` adds its event to the one that waits.** -/
theorem Env.shadow_step (hhooks : env.NoHooks)
    (hother : ∀ code h, env.otherHandler code = some h → Moves DebugNotes h)
    (hok : (env.step ex m).1.reason = .none) (hshadow : env.Shadows ex m) :
    env.stepEvent ex m = none ∧
      pendingEvent (env.step ex m).2.2.state = (pendingEvent m.state).union (env.ownEvent ex m) ∧
      (env.step ex m).2.2.state.debugSuppression ≠ 0#8 ∧
      flagSet (env.step ex m).2.2.state.rflags kFlagTF = flagSet m.state.rflags kFlagTF := by
  obtain ⟨x, hx, hset⟩ := hshadow
  obtain ⟨g, h⟩ := hhooks.stepped hok hx
  obtain ⟨hnotes, hstate⟩ := h.notes hhooks hother
  have hrig := h.executes.rig_fields
  have hsuppressed : x.rig.state.debugSuppression ≠ 0#8 := by
    rw [hrig.suppression]
    exact hset
  have hnone : env.stepEvent ex m = none := h.event.trans (debugEvent_shadow hsuppressed)
  have hafter := congrArg Machine.state h.machine
  rw [hnone] at hafter
  dsimp only at hafter
  rw [withholdHits_shadow (bne_iff_ne.mpr hsuppressed)] at hafter
  -- a handler that sets the suppression is a load of `SS`
  rcases hnotes.fields with hsame | hnoted
  · have hclear : x.context.state.debugSuppression = 0#8 := by
      rw [hsame.suppression]
      show g.state.debugSuppression = _
      rw [hstate]
      rfl
    exact absurd hclear hset
  refine ⟨hnone, ?_, ?_, ?_⟩
  · have hbits : x.rig.state.pendingDebugHitBits = m.state.pendingDebugHitBits := by
      rw [hrig.hits, hnoted.hits]
      show g.state.pendingDebugHitBits = _
      rw [hstate]
      rfl
    have hstep : x.rig.state.pendingSingleStep =
        (m.state.pendingSingleStep || flagSet m.state.rflags kFlagTF) := by
      rw [hrig.singleStep, hnoted.singleStep, ← singleStepping_eq m.state]
      show (g.state.pendingSingleStep || flagSet g.state.rflags kFlagTF) = _
      rw [hstate]
      rfl
    rw [hafter, h.own]
    unfold pendingEvent DebugEvent.union
    rw [← hbits, ← hstep]
  · rw [hafter]
    exact hsuppressed
  · rw [hafter]
    show flagSet x.rig.state.rflags kFlagTF = _
    have hflags : x.rig.state.rflags = x.context.state.rflags := by
      rw [h.executes.rig, coreRig_state]
      rfl
    rw [hflags, systemFlags_tf hnoted.flags, ← singleStepping_eq m.state]
    show flagSet g.state.rflags kFlagTF = _
    rw [hstate]
    rfl

/-- The debug registers and the fields of the debug exceptions are the same. -/
structure SameDebugRegisters (s t : CpuState) : Prop extends SameDebug s t where
  dr : t.dr = s.dr

/-- Pushes leave the debug registers. -/
theorem sameDebugRegisters_push : PushFrame (OnState SameDebugRegisters) where
  refl c := ⟨sameDebug_frame.refl c.state, rfl⟩
  trans h h' := ⟨h.toSameDebug.trans h'.toSameDebug, h'.dr.trans h.dr⟩
  stack c value := ⟨sameDebug_frame.gpr c.state 4 value, rfl⟩
  memory c _ := ⟨sameDebug_frame.refl c.state, rfl⟩
  taken c := ⟨sameDebug_frame.refl c.state, rfl⟩

/-- A delivery leaves them as it has raised them. -/
theorem DebugEvent.deliver_state (e : DebugEvent) (p : Prologue) (ctx : ExecutionContext)
    (g : Rig W) : SameDebugRegisters (e.raise g.state) (e.deliver p ctx g).2.state := by
  have hdispatch := sameDebugRegisters_push.dispatchInterrupt
    (fun gate c => ⟨⟨rfl, rfl, rfl⟩, rfl⟩) 1#8 (e.raise g.state).rip none
    ctx.pushRfForDebug ((g.mapState e.raise).context p.instr (e.raise g.state).rip)
  unfold DebugEvent.deliver
  show SameDebugRegisters _ (Handler.run _ _).2.state
  rw [run_state]
  exact hdispatch

/-- Nothing is no bit. -/
theorem DebugEvent.bits_nothing : DebugEvent.nothing.bits = 0#64 := rfl

/-- No part of nothing is anything. -/
theorem DebugEvent.of_union_nothing {e e' : DebugEvent} (h : e.union e' = .nothing) :
    e = .nothing := by
  unfold DebugEvent.union DebugEvent.nothing at h
  rw [DebugEvent.mk.injEq, Bool.or_eq_false_iff, BitVec.or_eq_zero_iff] at h
  obtain ⟨⟨hstep, -⟩, hhits, -⟩ := h
  unfold DebugEvent.nothing
  rw [← hstep, ← hhits]

/-- Nothing waits behind a delivery that includes the single step that did. -/
theorem DebugEvent.pendingEvent_raise {e : DebugEvent} {s : CpuState}
    (hstep : s.pendingSingleStep = true → e.singleStep = true) :
    pendingEvent (e.raise s) = .nothing := by
  unfold pendingEvent DebugEvent.nothing
  rw [e.raise_pendingDebugHitBits, e.raise_pendingSingleStep]
  cases hpending : s.pendingSingleStep with
  | false => rfl
  | true =>
    rw [hstep hpending]
    rfl

/-- Without a load of `SS` what waits stays. -/
theorem Env.Stepped.pendingEvent_eq (h : env.Stepped ex m x g) (hhooks : env.NoHooks)
    (hother : ∀ code h, env.otherHandler code = some h → Moves DebugNotes h)
    (hclear : x.context.state.debugSuppression = 0#8) :
    pendingEvent x.rig.state = pendingEvent m.state := by
  obtain ⟨hnotes, hstate⟩ := h.notes hhooks hother
  rcases hnotes.fields with hsame | hnoted
  · rw [h.executes.rig_fields.pendingEvent, hsame.pendingEvent]
    show pendingEvent g.state = _
    rw [hstate]
    rfl
  · rw [hnoted.suppression] at hclear
    exact absurd hclear (by decide)

/-- The event behind an instruction that is not in a shadow of its own making:
all that is due is delivered. -/
theorem debugEvent_plain {p : Prologue} {ctx : ExecutionContext} {debugSuppressed tfActive : Bool}
    {s : CpuState} (hclear : s.debugSuppression = 0#8)
    (hoff : p.checkDataBreakpoints = false → Seven.currentHits p ctx s = 0#64)
    (hdue : (s.pendingSingleStep || (!debugSuppressed && tfActive)) =
      (s.pendingSingleStep || tfActive)) :
    debugEvent p ctx debugSuppressed tfActive s =
      ((pendingEvent s).union ⟨tfActive, Seven.currentHits p ctx s⟩).delivered := by
  unfold debugEvent
  dsimp only
  rw [hclear, hdue]
  -- The quick test finds nothing to do; otherwise the event is nothing or is delivered.
  by_cases hquiet : (!(0#8 != 0#8) && s.pendingDebugHitBits == 0#64 && !p.checkDataBreakpoints &&
      !s.pendingSingleStep && !tfActive) = true
  · rw [if_pos hquiet]
    simp only [Bool.and_eq_true, Bool.not_eq_true', beq_iff_eq] at hquiet
    obtain ⟨⟨⟨⟨-, hbits⟩, hcheck⟩, hstep⟩, htf⟩ := hquiet
    unfold DebugEvent.union pendingEvent
    rw [hbits, hstep, htf, hoff hcheck]
    rfl
  rw [if_neg hquiet, if_neg (by decide)]
  obtain ⟨e, he⟩ : ∃ e : DebugEvent, (⟨s.pendingSingleStep || tfActive,
      s.pendingDebugHitBits ||| Seven.currentHits p ctx s⟩ : DebugEvent) = e := ⟨_, rfl⟩
  have hnothing : ((s.pendingDebugHitBits ||| Seven.currentHits p ctx s) == 0#64 &&
      -- The code's second test is exactly that the event is nothing.
      !(s.pendingSingleStep || tfActive)) = true ↔ e = .nothing := by
    rw [← he, DebugEvent.nothing, DebugEvent.mk.injEq, Bool.and_eq_true, beq_iff_eq,
      Bool.not_eq_true']
    exact And.comm
  show _ = DebugEvent.delivered ⟨s.pendingSingleStep || tfActive,
    s.pendingDebugHitBits ||| Seven.currentHits p ctx s⟩
  rw [he, DebugEvent.delivered]
  exact if_congr hnothing rfl rfl

/-- **An instruction without a shadow of its own delivers what waits**, and
its own event with it. -/
theorem Env.plain_step (hhooks : env.NoHooks)
    (hother : ∀ code h, env.otherHandler code = some h → Moves DebugNotes h)
    (hok : (env.step ex m).1.reason = .none) (hx : env.instruction ex m = some x)
    (hclear : x.context.state.debugSuppression = 0#8)
    (hwaits : m.state.debugSuppression ≠ 0#8 → flagSet m.state.rflags kFlagTF = true →
      m.state.pendingSingleStep = true) :
    env.stepEvent ex m = ((pendingEvent m.state).union (env.ownEvent ex m)).delivered ∧
      pendingEvent (env.step ex m).2.2.state = .nothing ∧
      (env.step ex m).2.2.state.dr 6 =
        x.context.state.dr 6 ||| ((pendingEvent m.state).union (env.ownEvent ex m)).bits := by
  obtain ⟨g, h⟩ := hhooks.stepped hok hx
  have hrig := h.executes.rig_fields
  have hdr6 : x.rig.state.dr = x.context.state.dr := by
    rw [h.executes.rig, coreRig_state]
    rfl
  have hpending := h.pendingEvent_eq hhooks hother hclear
  have hstep : x.rig.state.pendingSingleStep = m.state.pendingSingleStep :=
    congrArg DebugEvent.singleStep hpending
  -- a step that begins suppressed has the single step among what waits
  have hdue : (x.rig.state.pendingSingleStep || (!(m.state.debugSuppression != 0#8) &&
        flagSet m.state.rflags kFlagTF)) =
      (x.rig.state.pendingSingleStep || flagSet m.state.rflags kFlagTF) := by
    rw [hstep]
    by_cases hsuppressed : m.state.debugSuppression = 0#8
    · rw [hsuppressed]
      rfl
    · rw [bne_iff_ne.mpr hsuppressed]
      cases htf : flagSet m.state.rflags kFlagTF with
      | false => rfl
      | true =>
        rw [hwaits hsuppressed htf]
        rfl
  have hevent : env.stepEvent ex m =
      ((pendingEvent m.state).union (env.ownEvent ex m)).delivered := by
    rw [h.event, debugEvent_plain (hrig.suppression.trans hclear)
      (h.currentHits hhooks hother) hdue, hpending, h.own]
  have hafter := congrArg Machine.state h.machine
  rw [hevent] at hafter
  refine ⟨hevent, ?_⟩
  generalize hall : (pendingEvent m.state).union (env.ownEvent ex m) = e at hafter
  by_cases hnothing : e = .nothing
  · subst hnothing
    have hquiet : (x.rig.state.debugSuppression != 0#8) = false := by
      rw [hrig.suppression, hclear]
      rfl
    rw [show (DebugEvent.nothing).delivered = none from if_pos rfl] at hafter
    dsimp only at hafter
    rw [withholdHits_clear hquiet] at hafter
    rw [hafter, hpending, DebugEvent.of_union_nothing hall, hdr6, DebugEvent.bits_nothing,
      BitVec.or_zero]
    exact ⟨rfl, rfl⟩
  · rw [show e.delivered = some e from if_neg hnothing] at hafter
    dsimp only at hafter
    have hdeliver := e.deliver_state x.prologue x.context x.rig
    rw [hafter, hdeliver.pendingEvent, hdeliver.dr, e.raise_dr6, hdr6]
    refine ⟨DebugEvent.pendingEvent_raise fun hwaiting => ?_, rfl⟩
    rw [hstep] at hwaiting
    rw [← hall]
    show (m.state.pendingSingleStep || _) = true
    rw [hwaiting]
    rfl

/-- An attempt under suppression that executes nothing faults. -/
theorem Env.NoCoreHooks.fault_of_not_executed (h : env.NoCoreHooks) {startRip : U64}
    {s : Caches × Rig W} (hset : s.2.state.debugSuppression ≠ 0#8)
    (hnone : env.executed startRip s = none) :
    ∃ r clear g', env.attemptFetched startRip (env.fetch s).2 s.2 = (.fault r clear, g') ∧
      r.reason ≠ .none := by
  have hsuppressed : suppressed s.2.state = true := by
    unfold suppressed
    rw [bne_iff_ne.mpr hset, Bool.or_true]
  unfold Env.executed at hnone
  cases hfetch : (env.fetch s).2 with
  | pageFault => exact ⟨_, _, _, rfl, fun hr => by cases hr⟩
  | decodeError => exact ⟨_, _, _, rfl, fun hr => by cases hr⟩
  | decoded entry =>
    rw [hfetch] at hnone
    show ∃ r clear g', execute env startRip entry s.2 = _ ∧ _
    -- With no hook that acts, only the breakpoint or a fault ends the attempt, and it is
    -- suppressed.
    cases hreach : reachCore env startRip entry s.2 with
    | some g₁ =>
      dsimp only at hnone
      rw [hreach] at hnone
      dsimp only at hnone
      rw [execute_core hreach, core_eq]
      split at hnone
      next hfails => exact ⟨_, _, _, if_pos hfails, hfails⟩
      next => cases hnone
    | none =>
      have hshort := execute_short hreach
      generalize execute env startRip entry s.2 = o at hshort
      cases hshort with
      | invalid _ =>
        unfold invalidOpcode Env.runTrapHooks
        rw [h.trap]
        exact ⟨_, _, _, rfl, fun hr => by cases hr⟩
      | simd _ _ => exact ⟨_, _, _, rfl, fun hr => by cases hr⟩
      | breakpoint _ _ hbreak =>
        rw [hsuppressed] at hbreak
        cases hbreak
      | trap _ _ _ htrap =>
        rw [h.traps] at htrap
        cases htrap
      | hook _ _ _ htrap hhook =>
        rw [h.instructionHooks] at hhook
        cases hhook

/-- A step in the shadow of another that ends without a stop executes its
instruction. -/
theorem Env.NoHooks.instruction_of_shadow (h : env.NoHooks)
    (hok : (env.step ex m).1.reason = .none) (hset : m.state.debugSuppression ≠ 0#8) :
    ∃ x, env.instruction ex m = some x := by
  have hstop := Env.step_running_of_none hok
  unfold Env.instruction
  rw [hstop, if_neg Bool.false_ne_true]
  cases hexecuted : env.executed (env.enter ex m).state.rip (env.start ex m) with
  | some x => exact ⟨x, rfl⟩
  | none =>
    have hstart : (env.start ex m).2.state.debugSuppression ≠ 0#8 := by
      show (env.enter ex m).state.debugSuppression ≠ _
      rw [h.enter_state]
      exact hset
    -- No instruction executed, so the attempt is a fault, which the step would have reported.
    obtain ⟨r, clear, g', hfault, hreason⟩ := h.fault_of_not_executed hstart hexecuted
    obtain ⟨out, hdone⟩ := h.attempt_done (env.enter ex m).state.rip (env.start ex m)
    rw [h.step_eq hstop hdone] at hok
    have hresult : out.1 = r := by
      unfold Env.attempt Env.conclude Env.tryRecoverFault Env.runFaultHooks at hdone
      dsimp only at hdone
      rw [hfault, h.fault] at hdone
      cases hdone
      rfl
    rw [hresult] at hok
    exact absurd hok hreason

end steps

/-! ## The instructions of a step -/

/-- Every instruction that the step gives to a handler, by its code and the
context the handler runs in. -/
def Env.EachInstruction (env : Env W) (ex : Executor) (m : Machine W)
    (Q : Code → ExecutionContext → Prop) : Prop :=
  ∀ k t entry g₁, k < kMaxFaultRetries →
    Reaches (env.attempt (env.enter ex m).state.rip) k (ex.caches, env.enter ex m) t →
    (env.fetch t).2 = .decoded entry →
    reachCore env (env.enter ex m).state.rip entry t.2 = some g₁ →
    Q entry.reportedCode (g₁.context entry.instr (prologue env entry t.2.state).nextRip)

/-- The instruction the first attempt gives to a handler. -/
def Env.firstInstruction (env : Env W) (ex : Executor) (m : Machine W) :
    Option (Code × ExecutionContext) :=
  match (env.fetch (env.start ex m)).2 with
  | .decoded entry =>
    (reachCore env (env.enter ex m).state.rip entry (env.start ex m).2).map fun g₁ =>
      (entry.reportedCode,
        g₁.context entry.instr (prologue env entry (env.start ex m).2.state).nextRip)
  | _ => none

/-- Without hooks there is no other attempt. -/
theorem Env.NoHooks.eachInstruction {env : Env W} (h : env.NoHooks) {ex : Executor} {m : Machine W}
    {Q : Code → ExecutionContext → Prop} (hfirst : ∀ x ∈ env.firstInstruction ex m, Q x.1 x.2) :
    env.EachInstruction ex m Q := by
  intro k t entry g₁ hk hreach hfetch hcore
  cases k with
  | zero =>
    cases hreach
    refine hfirst (_, _) ?_
    unfold Env.firstInstruction
    rw [show env.start ex m = (ex.caches, env.enter ex m) by rfl, hfetch]
    dsimp only
    rw [hcore]
    rfl
  | succ k =>
    obtain ⟨r, hdone⟩ := h.attempt_done (env.enter ex m).state.rip (ex.caches, env.enter ex m)
    cases hreach with
    | again hs _ =>
      rw [hdone] at hs
      cases hs

/-! ## Chains of shadows -/

/-- The event that was waiting, and the events of the first `n` steps. -/
def Env.withheld (env : Env W) (ex : Executor) (m : Machine W) : Nat → DebugEvent
  | 0 => pendingEvent m.state
  | n + 1 => (env.withheld ex m n).union
      (env.ownEvent (env.after ex m n).1 (env.after ex m n).2)

section chain

variable {env : Env W} {ex : Executor} {m : Machine W} {k : Nat}

/-- In a chain of shadows the events add up. -/
theorem Env.shadow_chain (hhooks : env.NoHooks)
    (hother : ∀ code h, env.otherHandler code = some h → Moves DebugNotes h)
    (hok : ∀ i < k, (env.step (env.after ex m i).1 (env.after ex m i).2).1.reason = .none)
    (hshadows : ∀ i < k, env.Shadows (env.after ex m i).1 (env.after ex m i).2) :
    pendingEvent (env.after ex m k).2.state = env.withheld ex m k := by
  induction k with
  | zero => rfl
  | succ k ih =>
    have hwaiting := ih (fun i hi => hok i (by omega)) fun i hi => hshadows i (by omega)
    obtain ⟨-, hstep, -⟩ := Env.shadow_step hhooks hother (hok k (by omega)) (hshadows k (by omega))
    show pendingEvent (env.step (env.after ex m k).1 (env.after ex m k).2).2.2.state = _
    rw [hstep, hwaiting]
    rfl

/-- **Withheld events are delivered once.** Without hooks, when the steps `0`
to `k - 1` execute instructions that set the debug suppression and step `k`
does not, and no step stops:

* behind the first `k` steps nothing is delivered, and all their events wait;
* behind step `k` their union with its own event is delivered, in one debug
  exception that adds all of its bits to `DR6`;
* afterwards nothing waits. -/
theorem Env.shadow_delivery (hhooks : env.NoHooks)
    (hother : ∀ code h, env.otherHandler code = some h → Moves DebugNotes h) (hk : 0 < k)
    (hok : ∀ i ≤ k, (env.step (env.after ex m i).1 (env.after ex m i).2).1.reason = .none)
    (hshadows : ∀ i < k, env.Shadows (env.after ex m i).1 (env.after ex m i).2)
    (hplain : ¬env.Shadows (env.after ex m k).1 (env.after ex m k).2) :
    (∀ i < k, env.stepEvent (env.after ex m i).1 (env.after ex m i).2 = none ∧
      pendingEvent (env.after ex m (i + 1)).2.state = env.withheld ex m (i + 1)) ∧
    env.stepEvent (env.after ex m k).1 (env.after ex m k).2 =
      (env.withheld ex m (k + 1)).delivered ∧
    (∃ x, env.instruction (env.after ex m k).1 (env.after ex m k).2 = some x ∧
      (env.after ex m (k + 1)).2.state.dr 6 =
        x.context.state.dr 6 ||| (env.withheld ex m (k + 1)).bits ∧
      ∀ e, env.stepEvent (env.after ex m k).1 (env.after ex m k).2 = some e →
        (env.after ex m (k + 1)).2 = (e.deliver x.prologue x.context x.rig).2.toMachine) ∧
    pendingEvent (env.after ex m (k + 1)).2.state = .nothing := by
  -- What is withheld grows by one event for each shadowing instruction of the chain.
  have hchain {i : Nat} (hi : i ≤ k) :
      pendingEvent (env.after ex m i).2.state = env.withheld ex m i :=
    Env.shadow_chain hhooks hother (fun j hj => hok j (by omega))
      fun j hj => hshadows j (by omega)
  obtain ⟨j, rfl⟩ : ∃ j, k = j + 1 := ⟨k - 1, by omega⟩
  obtain ⟨-, hpending, hset, htf⟩ :=
    Env.shadow_step hhooks hother (hok j (by omega)) (hshadows j (by omega))
  obtain ⟨x, hx⟩ := hhooks.instruction_of_shadow (hok (j + 1) (Nat.le_refl _)) hset
  have hclear : x.context.state.debugSuppression = 0#8 := by
    by_contra hshadow
    exact hplain ⟨x, hx, hshadow⟩
  -- TF at the last step means a single step is already waiting from the step before.
  have hwaits : flagSet (env.after ex m (j + 1)).2.state.rflags kFlagTF = true →
      (env.after ex m (j + 1)).2.state.pendingSingleStep = true := by
    intro htrap
    obtain ⟨y, hy, -⟩ := hshadows j (by omega)
    obtain ⟨g, hstepped⟩ := hhooks.stepped (hok j (by omega)) hy
    have hown := hstepped.own
    have hstep : (env.after ex m (j + 1)).2.state.pendingSingleStep =
        ((env.after ex m j).2.state.pendingSingleStep ||
          (env.ownEvent (env.after ex m j).1 (env.after ex m j).2).singleStep) :=
      congrArg DebugEvent.singleStep hpending
    rw [hstep, hown]
    show (_ || flagSet (env.after ex m j).2.state.rflags kFlagTF) = true
    rw [htf.symm.trans htrap, Bool.or_true]
  -- The step behind the chain delivers the union, together with its own event.
  obtain ⟨hevent, hnone, hdr6⟩ := Env.plain_step hhooks hother (hok (j + 1) (Nat.le_refl _)) hx
    hclear fun _ => hwaits
  rw [hchain (Nat.le_refl _)] at hevent hdr6
  refine ⟨fun i hi => ⟨?_, hchain (by omega)⟩, hevent, ⟨x, hx, hdr6, fun e he => ?_⟩, hnone⟩
  · exact (Env.shadow_step hhooks hother (hok i (by omega)) (hshadows i hi)).1
  · obtain ⟨g, hstepped⟩ := hhooks.stepped (hok (j + 1) (Nat.le_refl _)) hx
    have hmachine := hstepped.machine
    rw [he] at hmachine
    exact hmachine

end chain

/-! `8e` is `MOV SS, AX`, `50` is `PUSH AX`; the trap flag is set, the vector of
the debug exception is in page zero. -/

/-- `MOV SS, AX` and `PUSH AX`. -/
def shadowDecoder : Decode := fun _ bytes _ =>
  bytes.head?.bind fun b =>
    if b = 0x8E#8 then
      some
        { code := .other 0
          length := 1
          opRegister := fun i => if i = 0 then .ss else .ax }
    else if b = 0x50#8 then
      some { code := .stack .pushR16, length := 1, opRegister := fun _ => .ax }
    else none

/-- Its environment. -/
def shadowEnv : Env Unit where
  decode := shadowDecoder
  otherHandler code := if code = .other 0 then some handleMovSregRm16 else none

/-- TF set, in real mode. -/
def shadowMachine : Machine Unit where
  state :=
    { rip := 0x1000#64
      mode := .real16
      rflags := 0x302#64
      idtr := ⟨0#64, 0x3FF#16⟩
      gpr := fun i => if i = 4 then 0x1800#64 else 0#64 }
  memory := (Memory.writeUnchecked (Memory.map {} 0#64 0x2000#64 kMemoryPermissionAll)
    0x1000#64 [0x8E#8, 0x8E#8, 0x50#8]).1
  world := ()

/-- No hooks. -/
theorem shadowEnv_noHooks : shadowEnv.NoHooks where
  trap _ := rfl
  execution := rfl
  executionAddress _ := rfl
  instruction := rfl
  code _ := rfl
  fault := rfl
  stop := rfl
  contextRead := rfl
  contextWrite := rfl

/-- Its handler notes the shadow only. -/
theorem shadowEnv_otherHandler (code : Code) (h : Handler)
    (hcode : shadowEnv.otherHandler code = some h) : Moves DebugNotes h := by
  change (if code = .other 0 then some handleMovSregRm16 else none) = some h at hcode
  split at hcode
  next =>
    cases hcode
    exact movSreg_debugNotes 2
  next => cases hcode

set_option maxRecDepth 20000 in
/-- Two loads of `SS` in a row: one single step, behind the `PUSH`. -/
theorem Env.shadow_delivery_twice :
    shadowEnv.stepEvent (shadowEnv.after {} shadowMachine 2).1
      (shadowEnv.after {} shadowMachine 2).2 = some ⟨true, 0#64⟩ := by
  have hdelivery := @Env.shadow_delivery Unit shadowEnv {} shadowMachine 2 shadowEnv_noHooks
    shadowEnv_otherHandler (by omega) (by decide +kernel) (by decide +kernel) (by decide +kernel)
  exact hdelivery.2.1.trans (by decide +kernel)

end Seven
