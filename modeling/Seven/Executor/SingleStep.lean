import Seven.Executor.DebugNotes

/-!
# Single steps

An instruction that begins with the trap flag set is followed by a debug
exception that reports a single step. The executor delivers it behind the
handler, and only there: an instruction that a hook stands in for, and one
that is in the shadow it has itself made, get none.

`Env.executed` is the instruction an attempt executes by its handler, and
`Env.event` the debug exception behind it. `Env.single_step` is what holds of
these in every attempt of every step; `Env.pop_ss_no_single_step` is the load
of `SS` on which more would be too much.
-/

namespace Seven

open Seven.Lib

variable {W : Type}

/-! ## The instruction an attempt executes -/

/-- The rig and the caches a step begins with. -/
def Env.start (env : Env W) (ex : Executor) (m : Machine W) : Caches × Rig W :=
  (ex.caches, env.enter ex m)

/-- An instruction and what its handler made of it. -/
structure Execution (W : Type) where
  prologue : Prologue
  result : ExecutionResult
  context : ExecutionContext
  /-- Behind the handler: `RIP` moved on, the stack pointer masked. -/
  rig : Rig W

/-- The instruction that the attempt from `s` executes by its handler, when
that succeeds. -/
def Env.executed (env : Env W) (startRip : U64) (s : Caches × Rig W) : Option (Execution W) :=
  match (env.fetch s).2 with
  | .decoded entry =>
    match reachCore env startRip entry s.2 with
    | some g =>
      let p := prologue env entry s.2.state
      let (r, ctx) := (env.handler entry.reportedCode).run (g.context p.instr p.nextRip)
      if r.reason ≠ .none then none
      else some ⟨p, { r with code := some entry.reportedCode, retired := 1 }, ctx, coreRig env p ctx g⟩
    | none => none
  | _ => none

/-- The debug exception behind it. -/
def Env.event (env : Env W) (startRip : U64) (s : Caches × Rig W) : Option DebugEvent :=
  (env.executed startRip s).bind fun x =>
    debugEvent x.prologue x.context (s.2.state.debugSuppression != 0#8)
      (singleStepping s.2.state) x.rig.state

/-- How an attempt came to execute an instruction. -/
structure Env.Executes (env : Env W) (startRip : U64) (s : Caches × Rig W) (x : Execution W)
    (g : Rig W) : Prop where
  fetched : (env.fetch s).2 = .decoded x.prologue.entry
  reached : reachCore env startRip x.prologue.entry s.2 = some g
  prologue : x.prologue = Seven.prologue env x.prologue.entry s.2.state
  succeeds : ((env.handler x.prologue.entry.reportedCode).run
    (g.context x.prologue.instr x.prologue.nextRip)).1.reason = .none
  result : x.result = { ((env.handler x.prologue.entry.reportedCode).run
    (g.context x.prologue.instr x.prologue.nextRip)).1 with
      code := some x.prologue.entry.reportedCode, retired := 1 }
  context : x.context = ((env.handler x.prologue.entry.reportedCode).run
    (g.context x.prologue.instr x.prologue.nextRip)).2
  rig : x.rig = coreRig env x.prologue x.context g

/-- An attempt that executes has got this far. -/
theorem Env.executes {env : Env W} {startRip : U64} {s : Caches × Rig W} {x : Execution W}
    (h : env.executed startRip s = some x) : ∃ g, env.Executes startRip s x g := by
  unfold Env.executed at h
  split at h
  next entry hfetch =>
    split at h
    next g hreach =>
      dsimp only at h
      split at h
      next => cases h
      next hsucceeds =>
        cases h
        exact ⟨g, hfetch, hreach, rfl, not_not.mp hsucceeds, rfl, rfl, rfl⟩
    next => cases h
  next => cases h

/-- **Behind an executed instruction come the debug exceptions.** -/
theorem Env.Executes.attemptFetched {env : Env W} {startRip : U64} {s : Caches × Rig W}
    {x : Execution W} {g : Rig W} (h : env.Executes startRip s x g) :
    env.attemptFetched startRip (env.fetch s).2 s.2 =
      debugExceptions x.prologue x.context (s.2.state.debugSuppression != 0#8)
        (singleStepping s.2.state) x.result x.rig := by
  rw [h.fetched]
  show execute env startRip x.prologue.entry s.2 = _
  rw [execute_core h.reached, ← h.prologue, core_eq, h.rig, h.context, h.result]
  exact if_neg (not_not_intro h.succeeds)

/-- And goes on like this. -/
theorem Env.Executes.attempt {env : Env W} {startRip : U64} {s : Caches × Rig W}
    {x : Execution W} {g : Rig W} (h : env.Executes startRip s x g) :
    env.attempt startRip s =
      withCaches (env.fetch s).1 (env.conclude startRip
        (debugExceptions x.prologue x.context (s.2.state.debugSuppression != 0#8)
          (singleStepping s.2.state) x.result x.rig)) := by
  unfold Env.attempt
  dsimp only
  rw [h.attemptFetched]

/-- What follows an executed instruction: the delivery of the debug exception,
which aborts the step when it fails, or nothing but the hits to be withheld. -/
def Execution.ending (x : Execution W) : Option DebugEvent → Outcome × Rig W
  | none => (.finish x.result, { x.rig with state := withholdHits x.prologue x.context x.rig.state })
  | some e =>
    let r := e.deliver x.prologue x.context x.rig
    (if r.1.reason ≠ .none then .abort r.1 else .finish x.result, r.2)

/-- The event is dispatched: the attempt ends with its delivery. -/
theorem Env.event_dispatched {env : Env W} {startRip : U64} {s : Caches × Rig W} {x : Execution W}
    (h : env.executed startRip s = some x) :
    env.attempt startRip s =
      withCaches (env.fetch s).1 (env.conclude startRip (x.ending (env.event startRip s))) := by
  obtain ⟨g, hexecutes⟩ := Env.executes h
  have hevent : env.event startRip s = debugEvent x.prologue x.context
      (s.2.state.debugSuppression != 0#8) (singleStepping s.2.state) x.rig.state := by
    unfold Env.event
    rw [h]
    rfl
  rw [hexecutes.attempt, debugExceptions_eq, hevent]
  split
  next hnone =>
    rw [hnone]
    rfl
  next hsome =>
    rw [hsome]
    rfl

/-- Behind its handler an instruction has the fields of the debug exceptions
that the handler left. -/
theorem Env.Executes.rig_fields {env : Env W} {startRip : U64} {s : Caches × Rig W}
    {x : Execution W} {g : Rig W} (h : env.Executes startRip s x g) :
    SameDebug x.context.state x.rig.state := by
  rw [h.rig, coreRig_state]
  exact ⟨rfl, rfl, rfl⟩

/-! ## The trap flag -/

/-- The trap flag and the fields of the debug exceptions are the same. -/
structure SameStepping (s t : CpuState) : Prop extends SameDebug s t where
  trap : flagSet t.rflags kFlagTF = flagSet s.rflags kFlagTF

/-- It is a frame. -/
theorem sameStepping_frame : StateFrame SameStepping where
  refl s := ⟨sameDebug_frame.refl s, rfl⟩
  trans h h' := ⟨h.toSameDebug.trans h'.toSameDebug, h'.trap.trans h.trap⟩
  gpr _ _ _ := ⟨⟨rfl, rfl, rfl⟩, rfl⟩
  sreg _ _ _ := ⟨⟨rfl, rfl, rfl⟩, rfl⟩
  register s reg value width := ⟨sameDebug_register s reg value width, by
    unfold writeRegister
    split <;> rfl⟩
  rip _ _ := ⟨⟨rfl, rfl, rfl⟩, rfl⟩
  mode _ _ := ⟨⟨rfl, rfl, rfl⟩, rfl⟩
  flags _ _ h := ⟨⟨rfl, rfl, rfl⟩, systemFlags_tf h⟩

/-- What the handler of an executed instruction noted, as seen from the
beginning of the attempt. -/
theorem Env.Executes.notes {env : Env W} (hhooks : env.HooksAlong SameStepping)
    (hother : ∀ code h, env.otherHandler code = some h → Moves DebugNotes h)
    {startRip : U64} {s : Caches × Rig W} {x : Execution W} {g : Rig W}
    (h : env.Executes startRip s x g) :
    (x.context.state.debugSuppression = 0#8 ∧
        x.context.state.pendingSingleStep = s.2.state.pendingSingleStep) ∨
      (x.context.state.debugSuppression = 1#8 ∧
        x.context.state.pendingSingleStep =
          (s.2.state.pendingSingleStep || flagSet s.2.state.rflags kFlagTF)) := by
  have hreach := reachCore_along sameStepping_frame hhooks h.reached
  have hnotes := (Env.handler_debugNotes hother x.prologue.entry.reportedCode
    (g.context x.prologue.instr x.prologue.nextRip)).fields
  rw [← run_state, ← h.context] at hnotes
  rcases hnotes with hsame | hshadow
  · left
    exact ⟨hsame.suppression.trans hreach.suppression,
      hsame.singleStep.trans hreach.singleStep⟩
  · right
    refine ⟨hshadow.suppression, hshadow.singleStep.trans ?_⟩
    show (g.state.pendingSingleStep || flagSet g.state.rflags kFlagTF) = _
    rw [hreach.singleStep, hreach.trap, ← singleStepping_eq s.2.state]
    rfl

/-! ## The single step -/

/-- Without a shadow a single step that is due is delivered. -/
theorem debugEvent_singleStep {p : Prologue} {ctx : ExecutionContext}
    {debugSuppressed tfActive : Bool} {s : CpuState} (hshadow : s.debugSuppression = 0#8)
    (hdue : (s.pendingSingleStep || (!debugSuppressed && tfActive)) = true) :
    debugEvent p ctx debugSuppressed tfActive s =
      some ⟨true, s.pendingDebugHitBits ||| currentHits p ctx s⟩ := by
  have hbusy : ¬(!(s.debugSuppression != 0#8) && s.pendingDebugHitBits == 0#64 &&
      !p.checkDataBreakpoints && !s.pendingSingleStep && !tfActive) = true := by
    cases hpending : s.pendingSingleStep with
    | true => simp
    | false =>
      rw [hpending, Bool.false_or, Bool.and_eq_true] at hdue
      rw [hdue.2]
      simp
  unfold debugEvent
  dsimp only
  rw [if_neg hbusy, hshadow, if_neg (by decide), hdue]
  exact if_neg (by simp)

/-- Inside a shadow there is no event. -/
theorem debugEvent_shadow {p : Prologue} {ctx : ExecutionContext} {debugSuppressed tfActive : Bool}
    {s : CpuState} (hshadow : s.debugSuppression ≠ 0#8) :
    debugEvent p ctx debugSuppressed tfActive s = none := by
  unfold debugEvent
  dsimp only
  rw [bne_iff_ne.mpr hshadow, if_neg (by simp), if_pos rfl]

/-- What an event is. -/
theorem debugEvent_some {p : Prologue} {ctx : ExecutionContext} {debugSuppressed tfActive : Bool}
    {s : CpuState} {e : DebugEvent} (h : debugEvent p ctx debugSuppressed tfActive s = some e) :
    e.singleStep = (s.pendingSingleStep || (!debugSuppressed && tfActive)) := by
  unfold debugEvent at h
  dsimp only at h
  split at h
  next => cases h
  next =>
    split at h
    next => cases h
    next =>
      split at h
      next => cases h
      next =>
        cases h
        rfl

/-- The step bit of `DR6`. -/
theorem DebugEvent.raise_singleStep {e : DebugEvent} (h : e.singleStep = true) (s : CpuState) :
    (e.raise s).dr 6 &&& (1#64 <<< 14) = 1#64 <<< 14 := by
  rw [e.raise_dr6, DebugEvent.bits, h, if_pos rfl, BitVec.and_or_distrib_right,
    BitVec.and_or_distrib_right, BitVec.and_self]
  ext i hi
  simp only [BitVec.getElem_or, BitVec.getElem_and]
  cases (1#64 <<< 14)[i] <;> simp

/-- **The single step of executed instructions.** In every attempt:

* an instruction that begins with the trap flag and without debug suppression
  is followed by a debug exception that reports a single step, unless it has
  made a shadow itself; then its single step is left pending;
* an instruction that begins with a single step pending is followed by one
  that reports it, unless it makes a shadow;
* an instruction that begins with neither is not followed by one.

The attempt ends with the delivery of that exception, and with none when there
is none. -/
theorem Env.single_step (env : Env W) (hhooks : env.HooksAlong SameStepping)
    (hother : ∀ code h, env.otherHandler code = some h → Moves DebugNotes h)
    (startRip : U64) (s : Caches × Rig W) :
    (∀ x, env.executed startRip s = some x → flagSet s.2.state.rflags kFlagTF = true →
      s.2.state.debugSuppression = 0#8 →
      if x.context.state.debugSuppression = 0#8 then
        ∃ e, env.event startRip s = some e ∧ e.singleStep = true ∧
          (e.raise x.rig.state).dr 6 &&& (1#64 <<< 14) = 1#64 <<< 14
      else env.event startRip s = none ∧ x.rig.state.pendingSingleStep = true) ∧
    (∀ x, env.executed startRip s = some x → s.2.state.pendingSingleStep = true →
      x.context.state.debugSuppression = 0#8 →
      ∃ e, env.event startRip s = some e ∧ e.singleStep = true ∧
        (e.raise x.rig.state).dr 6 &&& (1#64 <<< 14) = 1#64 <<< 14) ∧
    (flagSet s.2.state.rflags kFlagTF = false → s.2.state.pendingSingleStep = false →
      ∀ e, env.event startRip s = some e → e.singleStep = false) ∧
    (∀ x, env.executed startRip s = some x → env.attempt startRip s =
      withCaches (env.fetch s).1 (env.conclude startRip (x.ending (env.event startRip s)))) := by
  have hevent {x : Execution W} (hx : env.executed startRip s = some x) :
      env.event startRip s = debugEvent x.prologue x.context (s.2.state.debugSuppression != 0#8)
        (singleStepping s.2.state) x.rig.state := by
    unfold Env.event
    rw [hx]
    rfl
  -- whatever makes a single step due outside a shadow, the event reports it
  have hdue {x : Execution W} (hx : env.executed startRip s = some x)
      (hshadow : x.context.state.debugSuppression = 0#8)
      (hstep : (x.rig.state.pendingSingleStep || (!(s.2.state.debugSuppression != 0#8) &&
        singleStepping s.2.state)) = true) :
      ∃ e, env.event startRip s = some e ∧ e.singleStep = true ∧
        (e.raise x.rig.state).dr 6 &&& (1#64 <<< 14) = 1#64 <<< 14 := by
    obtain ⟨g, hexecutes⟩ := Env.executes hx
    have hclear := hexecutes.rig_fields.suppression.trans hshadow
    refine ⟨_, (hevent hx).trans (debugEvent_singleStep hclear hstep), rfl, ?_⟩
    exact DebugEvent.raise_singleStep rfl _
  refine ⟨fun x hx htrap hsuppressed => ?_, fun x hx hpending hshadow => ?_,
    fun htrap hpending e he => ?_, fun x hx => Env.event_dispatched hx⟩
  · obtain ⟨g, hexecutes⟩ := Env.executes hx
    by_cases hshadow : x.context.state.debugSuppression = 0#8
    · rw [if_pos hshadow]
      refine hdue hx hshadow ?_
      rw [hsuppressed, singleStepping_eq, htrap]
      simp
    · rw [if_neg hshadow, hevent hx]
      -- only a load of `SS` leaves the suppression set, and it keeps the step
      have hrig := hexecutes.rig_fields
      refine ⟨debugEvent_shadow (by rw [hrig.suppression]; exact hshadow), ?_⟩
      rcases hexecutes.notes hhooks hother with ⟨hclear, -⟩ | ⟨-, hstep⟩
      · exact absurd hclear hshadow
      · rw [hrig.singleStep, hstep, htrap, Bool.or_true]
  · obtain ⟨g, hexecutes⟩ := Env.executes hx
    refine hdue hx hshadow ?_
    rcases hexecutes.notes hhooks hother with ⟨-, hstep⟩ | ⟨hset, -⟩
    · rw [hexecutes.rig_fields.singleStep, hstep, hpending, Bool.true_or]
    · rw [hset] at hshadow
      exact absurd hshadow (by decide)
  · -- nothing was due before, and the handler cannot have made it so
    unfold Env.event at he
    obtain ⟨x, hx, he⟩ := Option.bind_eq_some_iff.mp he
    obtain ⟨g, hexecutes⟩ := Env.executes hx
    rw [debugEvent_some he, singleStepping_eq, htrap, Bool.and_false, Bool.or_false,
      hexecutes.rig_fields.singleStep]
    rcases hexecutes.notes hhooks hother with ⟨-, hstep⟩ | ⟨-, hstep⟩
    · rw [hstep, hpending]
    · rw [hstep, hpending, htrap]
      rfl

/-! `50` is `PUSH RAX`, `17` is `POP SS`; the trap flag is set. -/

/-- `PUSH RAX`. -/
def stepDecoder : Decode := fun _ bytes _ =>
  bytes.head?.bind fun b =>
    if b = 0x50#8 then
      some { code := .stack .pushR64, length := 1, opRegister := fun _ => .rax }
    else if b = 0x17#8 then
      some { code := .stack .popwSs, length := 1, opRegister := fun _ => .ss }
    else none

/-- Its environment. -/
def stepEnv : Env Unit := { decode := stepDecoder }

/-- No hooks. -/
theorem stepEnv_noCoreHooks : stepEnv.NoCoreHooks :=
  ⟨fun _ => rfl, rfl, fun _ => rfl, rfl, fun _ => rfl⟩

/-- One opcode at `1000`, the stack in the same page. -/
def traceRig (opcode : Byte) (mode : ExecutionMode) : Rig Unit where
  state :=
    { rip := 0x1000#64
      mode := mode
      rflags := 0x302#64
      gpr := fun i => if i = 4 then 0x1800#64 else 0#64 }
  memory := (Memory.writeUnchecked (Memory.map {} 0x1000#64 0x1000#64 kMemoryPermissionAll)
    0x1000#64 [opcode]).1
  world := ()
  log := {}

set_option maxRecDepth 20000 in
/-- `PUSH` is followed by its single step. -/
theorem Env.single_step_push :
    ∃ e, stepEnv.event 0x1000#64 ({}, traceRig 0x50#8 .long64) = some e ∧ e.singleStep = true := by
  have hstep := (stepEnv.single_step (stepEnv_noCoreHooks.hooksAlong _)
    (fun code h hnone => by cases hnone) 0x1000#64 ({}, traceRig 0x50#8 .long64)).1
    _ rfl (by decide) rfl
  rw [if_pos (by rfl)] at hstep
  obtain ⟨e, he, hsingle, -⟩ := hstep
  exact ⟨e, he, hsingle⟩

set_option maxRecDepth 20000 in
/-- `POP SS` is executed and followed by none. -/
theorem Env.pop_ss_no_single_step :
    ¬∀ (env : Env Unit) (startRip : U64) (s : Caches × Rig Unit) (x : Execution Unit),
      env.executed startRip s = some x → x.result.retired = 1 →
      flagSet s.2.state.rflags kFlagTF = true → s.2.state.debugSuppression = 0#8 →
      ∃ e, env.event startRip s = some e ∧ e.singleStep = true := by
  intro h
  obtain ⟨e, he, -⟩ := h stepEnv 0x1000#64 ({}, traceRig 0x17#8 .compat32) _ rfl rfl (by decide) rfl
  have hnone : (stepEnv.event 0x1000#64 ({}, traceRig 0x17#8 .compat32)).isNone = true := by
    decide +kernel
  rw [he] at hnone
  cases hnone

end Seven
