import Seven.Handlers.StateFrame
import Seven.Executor.Paths

/-!
# What a step leaves alone

A relation between CPU states that contains what the executor itself does to
the state (`StepFrame`), what the hooks do (`HooksAlong`, `OuterHooksAlong`)
and what the handlers do that the step runs, contains the whole step:
`Env.step_along`. It is the step lemma of every invariant of the CPU state
that is about a few of its fields.

The handlers are asked in the contexts the step runs them in
(`EachHandler`), so that a relation may contain a handler's update only
there.
-/

namespace Seven

open Seven.Lib

variable {W : Type} {R : CpuState → CpuState → Prop}

/-! ## Handlers -/

section

variable {R : ExecutionContext → ExecutionContext → Prop}

/-- The handlers the dispatch finds elsewhere. -/
theorem otherHandler_cases {env : Env W} {P : Handler → Prop}
    (hother : ∀ code h, env.otherHandler code = some h → P h) (hunsupported : P unsupported)
    (code : Code) : P ((env.otherHandler code).getD unsupported) := by
  cases hcode : env.otherHandler code with
  | none => exact hunsupported
  | some h => exact hother code h hcode

/-- The unsupported instruction changes nothing. -/
theorem unsupported_quiet : Quiet unsupported := fun _ => Or.inr ⟨_, rfl⟩

/-- Every handler fails along a frame that the other handlers fail along. -/
theorem Env.handler_failsAlong {env : Env W} (F : HandlerFrame R)
    (hbreak : ∀ c hits goOn, R c (noteDebugBreak c hits goOn).1)
    (hother : ∀ code h, env.otherHandler code = some h → FailsAlong R h) (code : Code) :
    FailsAlong R (env.handler code) := by
  have hrest (code : Code) :=
    otherHandler_cases hother (F.push.of_quiet unsupported_quiet).failsAlong code
  cases code with
  | stack c => exact c.shape.failsAlong F
  | rmw c => exact (c.moves F).failsAlong
  | string op width => exact (stringImpl_moves F hbreak op width.bytes).failsAlong
  | _ => exact hrest _

end

/-- A note of a hit is not in the state. -/
theorem noteDebugBreak_onState (hR : IsPath R) (c : ExecutionContext) (hits : U64) (goOn : Bool) :
    OnState R c (noteDebugBreak c hits goOn).1 := by
  unfold OnState
  rw [(noteDebugBreak_frame c hits goOn).1]
  exact hR.refl c.state

/-- What a handler leaves, by its run. -/
theorem run_state (h : Handler) (ctx : ExecutionContext) :
    (h.run ctx).2 = finalState (h ctx) := by
  unfold Handler.run
  cases h ctx with
  | ok a c => rfl
  | error e c => rfl

/-! ## Hooks -/

/-- The hooks of an attempt change the CPU state along the relation. -/
structure Env.HooksAlong (env : Env W) (R : CpuState → CpuState → Prop) : Prop where
  trap : ∀ kind, ∀ hook ∈ env.trapHooks kind, ∀ event m, R m.state (hook event m).2.state
  execution : ∀ hook ∈ env.executionHooks, ∀ rip m, R m.state (hook rip m).state
  executionAddress : ∀ address, ∀ hook ∈ env.executionAddressHooks address, ∀ rip m,
    R m.state (hook rip m).state
  instruction : ∀ hook ∈ env.instructionHooks, ∀ event m, R m.state (hook event m).2.state
  code : ∀ code, ∀ hook ∈ env.codeHooks code, ∀ event m, R m.state (hook event m).2.state

/-- Without hooks nothing moves. -/
theorem Env.NoCoreHooks.hooksAlong {env : Env W} (h : env.NoCoreHooks)
    (R : CpuState → CpuState → Prop) : env.HooksAlong R where
  trap kind hook hmem := by
    rw [h.trap] at hmem
    exact absurd hmem List.not_mem_nil
  execution hook hmem := by
    rw [h.execution] at hmem
    exact absurd hmem List.not_mem_nil
  executionAddress address hook hmem := by
    rw [h.executionAddress] at hmem
    exact absurd hmem List.not_mem_nil
  instruction hook hmem := by
    rw [h.instruction] at hmem
    exact absurd hmem List.not_mem_nil
  code code hook hmem := by
    rw [h.code] at hmem
    exact absurd hmem List.not_mem_nil

/-- Hooks one after the other. -/
theorem runHooks_along {A : Type} [DecidableEq A] (hR : IsPath R) (pass : A) :
    ∀ (hooks : List (Machine W → A × Machine W)),
      (∀ hook ∈ hooks, ∀ m, R m.state (hook m).2.state) → ∀ m,
        R m.state (runHooks pass hooks m).2.state
  | [], _, m => hR.refl m.state
  | hook :: hooks, h, m => by
    have hfirst := h hook List.mem_cons_self m
    unfold runHooks
    split
    next a m' hrun =>
      rw [hrun] at hfirst
      split
      next =>
        have hrest := runHooks_along hR pass hooks
          (fun hook hmem => h hook (List.mem_cons_of_mem _ hmem)) m'
        exact hR.trans hfirst hrest
      next => exact hfirst

/-- Callbacks one after the other. -/
theorem foldl_along {A : Type} (hR : IsPath R) {f : A → Machine W → Machine W} :
    ∀ (hooks : List A), (∀ hook ∈ hooks, ∀ m, R m.state (f hook m).state) → ∀ m : Machine W,
      R m.state (hooks.foldl (fun m hook => f hook m) m).state
  | [], _, m => hR.refl m.state
  | hook :: hooks, h, m =>
    hR.trans (h hook List.mem_cons_self m)
      (foldl_along hR hooks (fun hook hmem => h hook (List.mem_cons_of_mem _ hmem)) _)

namespace Env.HooksAlong

variable {env : Env W} (h : env.HooksAlong R)
include h

/-- Trap hooks. -/
theorem runTrapHooks (hR : IsPath R) (kind : TrapKind) (event : InstructionEvent) (m : Machine W) :
    R m.state (env.runTrapHooks kind event m).2.state := by
  refine runHooks_along hR _ _ (fun hook hmem m => ?_) m
  obtain ⟨f, hf, rfl⟩ := List.mem_map.mp hmem
  exact h.trap kind f hf event m

/-- Instruction hooks. -/
theorem runInstructionHooks (hR : IsPath R) (event : InstructionEvent) (m : Machine W) :
    R m.state (env.runInstructionHooks event m).2.state := by
  refine runHooks_along hR _ _ (fun hook hmem m => ?_) m
  obtain ⟨f, hf, rfl⟩ := List.mem_map.mp hmem
  rcases List.mem_append.mp hf with hf | hf
  · exact h.instruction f hf event m
  · exact h.code _ f hf event m

/-- Execution hooks. -/
theorem runExecutionHooks (hR : IsPath R) (m : Machine W) :
    R m.state (env.runExecutionHooks m).state := by
  have hfirst : R m.state (env.executionHooks.foldl (fun m hook => hook m.state.rip m) m).state :=
    foldl_along hR _ (fun hook hmem m => h.execution hook hmem _ m) m
  exact hR.trans hfirst
    (foldl_along hR _ (fun hook hmem m => h.executionAddress _ hook hmem _ m) _)

end Env.HooksAlong

/-! ## Phases -/

/-- The stack pointer masked. -/
theorem StateFrame.maskStack (F : StateFrame R) (s : CpuState) : R s (Seven.maskStack s) :=
  F.gpr s 4 _

/-- A new `RIP`, and the mask of the stack pointer. -/
theorem StateFrame.goTo (F : StateFrame R) (s : CpuState) (rip : U64) :
    R s (Seven.maskStack { s with rip := rip }) := F.trans (F.rip s rip) (F.maskStack _)

/-- The state where a hook stands in. -/
theorem afterHandled_state (env : Env W) (startRip : U64) (p : Prologue) (g : Rig W) :
    (afterHandled env startRip p g).2.state =
      maskStack { g.state with
        rip := if g.state.rip = startRip then p.nextRip
          else maskInstructionPointer g.state g.state.rip } := by
  unfold afterHandled
  cases env.collectCodeStats <;> rfl

/-- The trap hooks' part of an attempt. -/
theorem traps_along {env : Env W} (F : StateFrame R) (h : env.HooksAlong R) (startRip : U64)
    (p : Prologue) (g : Rig W) : R g.state (traps env startRip p g).2.state := by
  unfold traps
  split
  next => exact F.refl g.state
  next kind _ =>
    have hhook := h.runTrapHooks F.toIsPath kind p.event g.toMachine
    dsimp only
    split
    next =>
      refine F.trans hhook ?_
      show R _ (afterHandled env startRip p _).2.state
      rw [afterHandled_state]
      exact F.goTo _ _
    next => exact hhook
    next => exact hhook

/-- The instruction hooks' part. -/
theorem instructionHooks_along {env : Env W} (F : StateFrame R) (h : env.HooksAlong R)
    (startRip : U64) (p : Prologue) (g : Rig W) :
    R g.state (instructionHooks env startRip p g).2.state := by
  have hexecution := h.runExecutionHooks F.toIsPath g.toMachine
  have hhook := F.trans hexecution
    (h.runInstructionHooks F.toIsPath p.event (env.runExecutionHooks g.toMachine))
  unfold instructionHooks
  dsimp only
  split
  next => exact hhook
  next =>
    refine F.trans hhook ?_
    show R _ (afterHandled env startRip p _).2.state
    rw [afterHandled_state]
    exact F.goTo _ _
  next => exact hhook

/-- What the hooks make of the state on the way to the handler. -/
theorem reachCore_along {env : Env W} (F : StateFrame R) (h : env.HooksAlong R) {startRip : U64}
    {entry : DecodedInstruction} {g g₁ : Rig W} (hreach : reachCore env startRip entry g = some g₁) :
    R (clearSuppression g.state) g₁.state := by
  -- Through each phase in turn; where one ends the attempt the core is not reached.
  unfold reachCore at hreach
  dsimp only at hreach
  split at hreach
  next => cases hreach
  next =>
    split at hreach
    next => cases hreach
    next =>
      split at hreach
      next => cases hreach
      next g₂ hbreak =>
        cases executeBreakpoints_none hbreak
        have htraps := traps_along F h startRip (prologue env entry g.state)
          (g.mapState clearSuppression)
        split at hreach
        next => cases hreach
        next g₃ htrap =>
          rw [htrap] at htraps
          have hhooks := instructionHooks_along F h startRip (prologue env entry g.state) g₃
          split at hreach
          next => cases hreach
          next g₄ hhook =>
            rw [hhook] at hhooks
            cases hreach
            exact F.trans htraps hhooks

/-! ## Attempts and steps -/

/-- A frame that contains what the executor does to the state besides. -/
structure StepFrame (R : CpuState → CpuState → Prop) : Prop extends StateFrame R where
  suppression : ∀ s, R s (clearSuppression s)
  pending : ∀ (s : CpuState) singleStep hits,
    R s { s with pendingSingleStep := singleStep, pendingDebugHitBits := hits }
  gate : ∀ gate s, R s (enterGate gate s)

/-- A debug event raised. -/
theorem StepFrame.raise (F : StepFrame R) (e : DebugEvent) (s : CpuState) : R s (e.raise s) := by
  have hdr (s : CpuState) (value : U64) : R s (s.setDr 6 value) := F.register s (.dr 6) value 0
  have hstep (b : Bool) : R s (if b then
      { s.setDr 6 (s.dr 6 ||| (1#64 <<< 14)) with pendingSingleStep := false } else s) := by
    cases b with
    | true => exact F.trans (hdr s _) (F.pending _ false (s.setDr 6 _).pendingDebugHitBits)
    | false => exact F.refl s
  have hhits (s : CpuState) : R s { s.setDr 6 (s.dr 6 ||| e.hits) with pendingDebugHitBits := 0#64 } :=
    F.trans (hdr s _) (F.pending _ (s.setDr 6 _).pendingSingleStep 0#64)
  exact F.trans (hstep e.singleStep) (hhits _)

/-- The execute breakpoints' part. -/
theorem executeBreakpoints_along (F : StepFrame R) (startRip : U64) (p : Prologue)
    (quiet : Bool) (g : Rig W) : R g.state (executeBreakpoints startRip p quiet g).2.state := by
  unfold executeBreakpoints
  dsimp only
  split
  next => exact F.refl g.state
  next =>
    have hdr (value : U64) : R g.state (g.state.setDr 6 value) :=
      F.register g.state (.dr 6) value 0
    have hdispatch (value : U64) (ctx : ExecutionContext) (hctx : ctx.state = g.state.setDr 6 value) :
        R g.state ((dispatchInterrupt 1#8 startRip none false).run ctx).2.state := by
      rw [run_state]
      have hmoves := F.onState.push.dispatchInterrupt (fun gate c => F.gate gate c.state) 1#8 startRip none false ctx
      unfold MovesAt OnState at hmoves
      rw [hctx] at hmoves
      exact F.trans (hdr value) hmoves
    split
    next => exact hdispatch _ _ rfl
    next => exact F.trans (hdispatch _ _ rfl) (F.goTo _ _)

/-- The invalid opcode's part. -/
theorem invalidOpcode_along {env : Env W} (F : StateFrame R) (h : env.HooksAlong R) (p : Prologue)
    (g : Rig W) : R g.state (invalidOpcode env p g).2.state := by
  have hhook := h.runTrapHooks F.toIsPath .invalidOpcode p.event g.toMachine
  unfold invalidOpcode
  dsimp only
  split
  next =>
    refine F.trans hhook ?_
    cases env.collectCodeStats <;> exact F.goTo _ _
  next => exact hhook
  next => exact hhook

/-- The debug exceptions' part. -/
theorem debugExceptions_along (F : StepFrame R) (p : Prologue) (ctx : ExecutionContext)
    (debugSuppressed tfActive : Bool) (r : ExecutionResult) (g : Rig W) :
    R g.state (debugExceptions p ctx debugSuppressed tfActive r g).2.state := by
  rw [debugExceptions_eq]
  split
  next =>
    show R g.state (withholdHits p ctx g.state)
    unfold withholdHits
    split
    next => exact F.pending _ _ _
    next => exact F.refl g.state
  next e _ =>
    show R g.state (e.deliver p ctx g).2.state
    have hdispatch := F.onState.push.dispatchInterrupt (fun gate c => F.gate gate c.state) 1#8 (e.raise g.state).rip none
      ctx.pushRfForDebug ((g.mapState e.raise).context p.instr (e.raise g.state).rip)
    refine F.trans (F.raise e g.state) ?_
    unfold DebugEvent.deliver
    show R _ (Handler.run _ _).2.state
    rw [run_state]
    exact hdispatch

/-- The core of an attempt. -/
theorem core_along {env : Env W} (F : StepFrame R) (p : Prologue) (debugSuppressed tfActive : Bool)
    {g : Rig W} (hcore : MovesAt (OnState R) (env.handler p.entry.reportedCode)
      (g.context p.instr p.nextRip)) :
    R g.state (core env p debugSuppressed tfActive g).2.state := by
  have hrun : R g.state
      ((env.handler p.entry.reportedCode).run (g.context p.instr p.nextRip)).2.state := by
    rw [run_state]
    exact hcore
  rw [core_eq]
  dsimp only
  split
  next => exact hrun
  next =>
    refine F.trans (F.trans hrun ?_) (debugExceptions_along F _ _ _ _ _ _)
    rw [coreRig_state]
    exact F.goTo _ _

/-- **An attempt moves along a frame** when its handler does. -/
theorem execute_along {env : Env W} (F : StepFrame R) (h : env.HooksAlong R) {startRip : U64}
    {entry : DecodedInstruction} {g : Rig W}
    (hcore : ∀ g₁, reachCore env startRip entry g = some g₁ →
      MovesAt (OnState R) (env.handler entry.reportedCode)
        (g₁.context entry.instr (prologue env entry g.state).nextRip)) :
    R g.state (execute env startRip entry g).2.state := by
  -- To the core, or to one of the five ends in front of it.
  cases hreach : reachCore env startRip entry g with
  | some g₁ =>
    rw [execute_core hreach]
    refine F.trans (F.trans (F.suppression _) (reachCore_along F.toStateFrame h hreach)) ?_
    exact core_along F _ _ _ (hcore g₁ hreach)
  | none =>
    have hshort := execute_short hreach
    have hbreak := F.trans (F.suppression g.state) (executeBreakpoints_along F startRip
      (prologue env entry g.state) (suppressed g.state) (g.mapState clearSuppression))
    have htraps := F.trans (F.suppression g.state) (traps_along F.toStateFrame h startRip
      (prologue env entry g.state) (g.mapState clearSuppression))
    generalize execute env startRip entry g = o at hshort
    cases hshort with
    | invalid _ => exact invalidOpcode_along F.toStateFrame h _ _
    | simd _ _ => exact F.refl _
    | breakpoint _ _ hrun =>
      rw [hrun] at hbreak
      exact hbreak
    | trap _ _ _ hrun =>
      rw [hrun] at htraps
      exact htraps
    | @hook g₂ _ _ _ _ _ hrun hhook =>
      have hhooks := instructionHooks_along F.toStateFrame h startRip
        (prologue env entry g.state) g₂
      rw [hrun] at htraps
      rw [hhook] at hhooks
      exact F.trans htraps hhooks

/-- The hooks around the attempts. -/
structure Env.OuterHooksAlong (env : Env W) (R : CpuState → CpuState → Prop) : Prop where
  fault : ∀ hook ∈ env.faultHooks, ∀ event m, R m.state (hook event m).2.state
  stop : ∀ hook ∈ env.stopHooks, ∀ event m, R m.state (hook event m).state
  contextRead : ∀ f ∈ env.contextRead, ∀ s w, R s (f s w).1
  contextWrite : ∀ f ∈ env.contextWrite, ∀ s w, R s (f s w).1

namespace Env.OuterHooksAlong

variable {env : Env W} (h : env.OuterHooksAlong R)
include h

/-- The stop reported. -/
theorem reportStop (F : IsPath R) (r : ExecutionResult) (g : Rig W) :
    R g.state (env.reportStop r g).2.state :=
  foldl_along F _ (fun hook hmem m => h.stop hook hmem _ m) g.toMachine

/-- The fault hooks. -/
theorem tryRecoverFault (F : StateFrame R) (startRip : U64) (r : ExecutionResult) (g : Rig W) :
    R g.state (env.tryRecoverFault startRip r g).2.state := by
  have hhook (event : FaultHookEvent) : R g.state (env.runFaultHooks event g.toMachine).2.state := by
    refine runHooks_along F.toIsPath _ _ (fun hook hmem m => ?_) g.toMachine
    obtain ⟨f, hf, rfl⟩ := List.mem_map.mp hmem
    exact h.fault f hf event m
  have hrun := hhook ⟨r, startRip, faultAddressOf r g.state.rip⟩
  unfold Env.tryRecoverFault
  split
  next heq =>
    rw [heq] at hrun
    exact hrun
  next heq =>
    rw [heq] at hrun
    exact F.trans hrun (F.goTo _ _)
  next heq =>
    rw [heq] at hrun
    exact hrun

end Env.OuterHooksAlong

/-- The state an answer carries. -/
def answerState : Answer (ExecutionResult × Rig W) (Rig W) → CpuState
  | .done (_, g) => g.state
  | .again g => g.state

/-- What follows the outcome. -/
theorem conclude_along {env : Env W} (F : StepFrame R) (h : env.OuterHooksAlong R) (startRip : U64)
    (o : Outcome × Rig W) : R o.2.state (answerState (env.conclude startRip o)) := by
  rcases o with ⟨outcome, g⟩
  cases outcome with
  | finish r => exact F.refl g.state
  | abort r => exact h.reportStop F.toIsPath r _
  | fault r clear =>
    have hrecover := h.tryRecoverFault F.toStateFrame startRip r g
    dsimp only [Env.conclude]
    split
    next g₂ htry =>
      rw [htry] at hrecover
      exact hrecover
    next g₂ htry =>
      rw [htry] at hrecover
      have hclear : R g₂.state (if clear then g₂.mapState clearPending else g₂).state := by
        cases clear with
        | true => exact F.pending _ false 0#64
        | false => exact F.refl _
      exact F.trans (F.trans hrecover hclear) (h.reportStop F.toIsPath r _)

/-- Step: one attempt. -/
theorem attempt_along {env : Env W} (F : StepFrame R) (h : env.HooksAlong R)
    (hout : env.OuterHooksAlong R) {startRip : U64} {s : Caches × Rig W}
    (hcore : ∀ entry g₁, (env.fetch s).2 = .decoded entry →
      reachCore env startRip entry s.2 = some g₁ →
      MovesAt (OnState R) (env.handler entry.reportedCode)
        (g₁.context entry.instr (prologue env entry s.2.state).nextRip)) :
    R s.2.state (answerState (env.conclude startRip
      (env.attemptFetched startRip (env.fetch s).2 s.2))) := by
  refine F.trans ?_ (conclude_along F hout startRip _)
  cases hfetch : (env.fetch s).2 with
  | pageFault => exact F.refl _
  | decodeError => exact F.refl _
  | decoded entry => exact execute_along F h fun g₁ => hcore entry g₁ hfetch

/-- An attempt that is repeated. -/
theorem attempt_again {env : Env W} {startRip : U64} {s s' : Caches × Rig W}
    (h : env.attempt startRip s = .again s') :
    answerState (env.conclude startRip (env.attemptFetched startRip (env.fetch s).2 s.2)) =
      s'.2.state := by
  unfold Env.attempt at h
  dsimp only at h
  cases hconclude : env.conclude startRip (env.attemptFetched startRip (env.fetch s).2 s.2) with
  | done r =>
    rw [hconclude] at h
    cases h
  | again g =>
    rw [hconclude] at h
    cases h
    rfl

/-- An attempt that is the last. -/
theorem attempt_done {env : Env W} {startRip : U64} {s : Caches × Rig W}
    {r : ExecutionResult × Caches × Rig W} (h : env.attempt startRip s = .done r) :
    answerState (env.conclude startRip (env.attemptFetched startRip (env.fetch s).2 s.2)) =
      r.2.2.state := by
  unfold Env.attempt at h
  dsimp only at h
  cases hconclude : env.conclude startRip (env.attemptFetched startRip (env.fetch s).2 s.2) with
  | done r =>
    rw [hconclude] at h
    cases h
    rfl
  | again g =>
    rw [hconclude] at h
    cases h

/-- Every handler that the retry loop from `s` runs, in the context it runs
it in. -/
def Env.EachHandlerFrom (env : Env W) (startRip : U64) (n : Nat) (s : Caches × Rig W)
    (Q : Handler → ExecutionContext → Prop) : Prop :=
  ∀ k t entry g₁, k < n → Reaches (env.attempt startRip) k s t →
    (env.fetch t).2 = .decoded entry → reachCore env startRip entry t.2 = some g₁ →
    Q (env.handler entry.reportedCode)
      (g₁.context entry.instr (prologue env entry t.2.state).nextRip)

/-- Every handler that the step runs. -/
def Env.EachHandler (env : Env W) (ex : Executor) (m : Machine W)
    (Q : Handler → ExecutionContext → Prop) : Prop :=
  env.EachHandlerFrom (env.enter ex m).state.rip kMaxFaultRetries (ex.caches, env.enter ex m) Q

/-- Run: all attempts of a step. -/
theorem attempts_along {env : Env W} (F : StepFrame R) (h : env.HooksAlong R)
    (hout : env.OuterHooksAlong R) {startRip : U64} :
    ∀ {n : Nat} {s : Caches × Rig W},
      env.EachHandlerFrom startRip n s (fun handler ctx => MovesAt (OnState R) handler ctx) →
      R s.2.state (env.attempts startRip n s).2.2.state
  | 0, s, _ => hout.reportStop F.toIsPath _ s.2
  | n + 1, s, hcore => by
    have hattempt := attempt_along F h hout fun entry g₁ hfetch hreach =>
      hcore 0 s entry g₁ (by omega) (Reaches.refl s) hfetch hreach
    unfold Env.attempts
    cases hs : env.attempt startRip s with
    | done r =>
      rw [retry_done hs, ← attempt_done hs]
      exact hattempt
    | again t =>
      rw [attempt_again hs] at hattempt
      rw [retry_again hs]
      refine F.trans hattempt (attempts_along F h hout fun k u entry g₁ hk hreach => ?_)
      exact hcore (k + 1) u entry g₁ (by omega) (hreach.again hs)

/-- The context imported and exported. -/
theorem syncContext_along (hR : IsPath R) {callback : Option (CpuState → W → CpuState × W)}
    (h : ∀ f ∈ callback, ∀ s w, R s (f s w).1) (g : Rig W) :
    R g.state (syncContext callback g).state := by
  cases callback with
  | none => exact hR.refl g.state
  | some f => exact h f rfl g.state g.world

/-- **A step moves along a frame** that its hooks and the handlers it runs
move along. -/
theorem Env.step_along {env : Env W} (F : StepFrame R) (h : env.HooksAlong R)
    (hout : env.OuterHooksAlong R) {ex : Executor} {m : Machine W}
    (hcore : ex.stopRequested = false →
      env.EachHandler ex m fun handler ctx => MovesAt (OnState R) handler ctx) :
    R m.state (env.step ex m).2.2.state := by
  unfold Env.step
  cases hstop : ex.stopRequested with
  | true =>
    rw [if_pos rfl]
    exact hout.reportStop F.toIsPath { reason := .stopRequested } { m with log := env.openLog ex.log }
  | false =>
    rw [if_neg Bool.false_ne_true]
    have henter : R m.state (env.enter ex m).state := by
      have hmask (s : CpuState) : R s (enterStep s) := F.goTo s _
      have hread := syncContext_along F.toIsPath hout.contextRead
        { m with log := env.openLog ex.log }
      exact F.trans hread (hmask _)
    refine F.trans (F.trans henter (attempts_along F h hout (hcore hstop))) ?_
    exact syncContext_along F.toIsPath hout.contextWrite _

/-! ## Runs -/

/-- Executor and machine behind the first `n` steps. -/
def Env.after (env : Env W) (ex : Executor) (m : Machine W) : Nat → Executor × Machine W
  | 0 => (ex, m)
  | n + 1 => (env.step (env.after ex m n).1 (env.after ex m n).2).2

/-- A run moves along what its steps move along. -/
theorem Env.after_along {env : Env W} (hR : IsPath R) {ex : Executor} {m : Machine W} {n : Nat}
    (h : ∀ k < n, R (env.after ex m k).2.state
      (env.step (env.after ex m k).1 (env.after ex m k).2).2.2.state) :
    R m.state (env.after ex m n).2.state := by
  induction n with
  | zero => exact hR.refl m.state
  | succ n ih => exact hR.trans (ih fun k hk => h k (by omega)) (h n (by omega))

end Seven
