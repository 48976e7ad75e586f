import Seven.Executor.Run

/-!
# Observers are invisible

Hosts trace, count and log by hooks that look at everything and answer that
the core should go on. Here such observers are attached to an environment
among its own hooks: in any number, in any order, at all seven hook points.
What they record is a part of the world that the environment does not see.

> `observers_invisible`: with its observers taken out, an environment runs as
> before, whatever the guest does and whatever its own hooks answer: the same
> result, the same executor with all its records, the same state and memory and
> the same world.

The observers are erased phase by phase (`Erases`); `runHooks_erases` is the
step for one list of hooks.
-/

namespace Seven

open Seven.Lib

variable {W U E A α : Type}

/-! ## Observers -/

/-- A hook of the environment's own, or an observer: it sees the event and the
whole machine, and changes its own records. -/
inductive Attached (κ E W U : Type) where
  | own (hook : κ)
  | watch (record : E → Machine (W × U) → U)

/-- The hooks that are not watching. -/
def ownHooks {κ : Type} (hooks : List (Attached κ E W U)) : List κ :=
  hooks.filterMap fun
    | .own hook => some hook
    | .watch _ => none

/-- The machine without the records of the observers. -/
def Machine.bare (m : Machine (W × U)) : Machine W := ⟨m.state, m.memory, m.world.1⟩

/-- What a hook of the environment's own makes of the machine. -/
def Machine.around (m : Machine (W × U)) (b : Machine W) : Machine (W × U) :=
  ⟨b.state, b.memory, (b.world, m.world.2)⟩

/-- The records replaced. -/
def Machine.record (m : Machine (W × U)) (records : U) : Machine (W × U) :=
  { m with world := (m.world.1, records) }

/-- The machine without the records, in an attempt. -/
def Rig.bare (g : Rig (W × U)) : Rig W := ⟨g.toMachine.bare, g.log⟩

/-- A hook that answers; an observer answers that the next one is asked. -/
def Attached.answering (pass : A) :
    Attached (E → Machine W → A × Machine W) E W U → E → Machine (W × U) → A × Machine (W × U)
  | .own hook, event, m => ((hook event m.bare).1, m.around (hook event m.bare).2)
  | .watch record, event, m => (pass, m.record (record event m))

/-- A stop hook among watchers. -/
def Attached.notified :
    Attached (E → Machine W → Machine W) E W U → E → Machine (W × U) → Machine (W × U)
  | .own hook, event, m => m.around (hook event m.bare)
  | .watch record, event, m => m.record (record event m)

/-- An environment with observers among its hooks. -/
structure WatchedEnv (W U : Type) where
  /-- Everything but the hooks. -/
  base : RunEnv W
  trapHooks : TrapKind →
    List (Attached (InstructionEvent → Machine W → HookAction × Machine W) InstructionEvent W U)
  executionHooks : List (Attached (U64 → Machine W → Machine W) U64 W U)
  executionAddressHooks : U64 → List (Attached (U64 → Machine W → Machine W) U64 W U)
  instructionHooks :
    List (Attached (InstructionEvent → Machine W → HookAction × Machine W) InstructionEvent W U)
  codeHooks : Code →
    List (Attached (InstructionEvent → Machine W → HookAction × Machine W) InstructionEvent W U)
  faultHooks :
    List (Attached (FaultHookEvent → Machine W → FaultHookAction × Machine W) FaultHookEvent W U)
  stopHooks : List (Attached (StopHookEvent → Machine W → Machine W) StopHookEvent W U)

/-- A callback of the environment leaves the records alone. -/
def aroundRecords (f : CpuState → W → CpuState × W) (s : CpuState) (w : W × U) :
    CpuState × (W × U) :=
  ((f s w.1).1, ((f s w.1).2, w.2))

namespace WatchedEnv

variable (A : WatchedEnv W U)

/-- Without the observers. -/
def bare : RunEnv W :=
  { A.base with
    trapHooks := fun kind => ownHooks (A.trapHooks kind)
    executionHooks := ownHooks A.executionHooks
    executionAddressHooks := fun rip => ownHooks (A.executionAddressHooks rip)
    instructionHooks := ownHooks A.instructionHooks
    codeHooks := fun code => ownHooks (A.codeHooks code)
    faultHooks := ownHooks A.faultHooks
    stopHooks := ownHooks A.stopHooks }

/-- With them. -/
def watched : RunEnv (W × U) where
  decode := A.base.decode
  simdProfileAllows := A.base.simdProfileAllows
  usedMemory := A.base.usedMemory
  otherHandler := A.base.otherHandler
  decodeCacheDisabled := A.base.decodeCacheDisabled
  collectCodeStats := A.base.collectCodeStats
  contextRead := A.base.contextRead.map aroundRecords
  contextWrite := A.base.contextWrite.map aroundRecords
  trapHooks := fun kind => (A.trapHooks kind).map (Attached.answering .continueToCore)
  executionHooks := A.executionHooks.map Attached.notified
  executionAddressHooks := fun rip => (A.executionAddressHooks rip).map Attached.notified
  instructionHooks := A.instructionHooks.map (Attached.answering .continueToCore)
  codeHooks := fun code => (A.codeHooks code).map (Attached.answering .continueToCore)
  faultHooks := A.faultHooks.map (Attached.answering .stop)
  stopHooks := A.stopHooks.map Attached.notified
  takeStop := fun w => ((A.base.takeStop w.1).1, ((A.base.takeStop w.1).2, w.2))

end WatchedEnv

/-! ## Lists of hooks -/

/-- An answer with the machine it leaves. -/
def bareAnswer (x : A × Machine (W × U)) : A × Machine W := (x.1, x.2.bare)

/-- An answer and a machine with records, taken apart. -/
theorem eq_of_bareAnswer {x : A × Machine (W × U)} {y : A × Machine W} (h : bareAnswer x = y) :
    ∃ action m, x = (action, m) ∧ y = (action, m.bare) :=
  ⟨x.1, x.2, rfl, h.symm⟩

/-- **A list of hooks** answers as its own hooks do. -/
theorem runHooks_erases [DecidableEq A] (pass : A) (event : E) :
    ∀ (hooks : List (Attached (E → Machine W → A × Machine W) E W U)) (m : Machine (W × U)),
      bareAnswer (runHooks pass ((hooks.map (Attached.answering pass)).map (· event)) m) =
        runHooks pass ((ownHooks hooks).map (· event)) m.bare
  | [], _ => rfl
  | .watch record :: hooks, m => by
    have hrest := runHooks_erases pass event hooks (m.record (record event m))
    -- an observer answers `pass`, so the next hook is asked
    show bareAnswer (if pass = pass then _ else _) = _
    rw [if_pos rfl]
    exact hrest
  | .own hook :: hooks, m => by
    have hrest := runHooks_erases pass event hooks (m.around (hook event m.bare).2)
    show bareAnswer (if (hook event m.bare).1 = pass then _ else _) =
      if (hook event m.bare).1 = pass then _ else _
    by_cases hpass : (hook event m.bare).1 = pass
    · rw [if_pos hpass, if_pos hpass]
      exact hrest
    · rw [if_neg hpass, if_neg hpass]
      rfl

/-- The events of one list may depend on the state. -/
theorem notify_erases (event : Machine (W × U) → E) (event' : Machine W → E)
    (hevent : ∀ m, event m = event' m.bare) :
    ∀ (hooks : List (Attached (E → Machine W → Machine W) E W U)) (m : Machine (W × U)),
      ((hooks.map Attached.notified).foldl (fun m hook => hook (event m) m) m).bare =
        (ownHooks hooks).foldl (fun m hook => hook (event' m) m) m.bare
  | [], _ => rfl
  | .watch record :: hooks, m =>
    notify_erases event event' hevent hooks (m.record (record (event m) m))
  | .own hook :: hooks, m => by
    refine (notify_erases event event' hevent hooks (m.around (hook (event m) m.bare))).trans ?_
    rw [hevent m]
    rfl

section hooks

variable (A : WatchedEnv W U)

/-- The trap hooks. -/
theorem runTrapHooks_erases (kind : TrapKind) (event : InstructionEvent) (m : Machine (W × U)) :
    bareAnswer (A.watched.runTrapHooks kind event m) = A.bare.runTrapHooks kind event m.bare :=
  runHooks_erases HookAction.continueToCore event (A.trapHooks kind) m

/-- The instruction hooks. -/
theorem runInstructionHooks_erases (event : InstructionEvent) (m : Machine (W × U)) :
    bareAnswer (A.watched.runInstructionHooks event m) = A.bare.runInstructionHooks event m.bare := by
  have hhooks := runHooks_erases .continueToCore event
    (A.instructionHooks ++ A.codeHooks event.instr.code) m
  unfold ownHooks at hhooks
  rw [List.map_append, List.filterMap_append] at hhooks
  exact hhooks

/-- The fault hooks. -/
theorem runFaultHooks_erases (event : FaultHookEvent) (m : Machine (W × U)) :
    bareAnswer (A.watched.runFaultHooks event m) = A.bare.runFaultHooks event m.bare :=
  runHooks_erases FaultHookAction.stop event A.faultHooks m

/-- The execution hooks. -/
theorem runExecutionHooks_erases (m : Machine (W × U)) :
    (A.watched.runExecutionHooks m).bare = A.bare.runExecutionHooks m.bare := by
  have hrip : ∀ m : Machine (W × U), m.state.rip = m.bare.state.rip := fun _ => rfl
  have hall := notify_erases (fun m => m.state.rip) (fun m => m.state.rip) hrip A.executionHooks m
  -- the second list is looked up where the hooks of the first have left `rip`
  have haddress := notify_erases (fun m => m.state.rip) (fun m => m.state.rip) hrip
    (A.executionAddressHooks
      ((ownHooks A.executionHooks).foldl (fun m hook => hook m.state.rip m) m.bare).state.rip)
    ((A.executionHooks.map Attached.notified).foldl (fun m hook => hook m.state.rip m) m)
  rw [hall] at haddress
  unfold Env.runExecutionHooks
  dsimp only
  rw [hrip, show ((A.watched.executionHooks.foldl (fun m hook => hook m.state.rip m) m).bare) = _
    from hall]
  exact haddress

/-- The stop hooks. -/
theorem notifyStopHooks_erases (event : StopHookEvent) (m : Machine (W × U)) :
    (A.watched.notifyStopHooks event m).bare = A.bare.notifyStopHooks event m.bare :=
  notify_erases (fun _ => event) (fun _ => event) (fun _ => rfl) A.stopHooks m

end hooks

/-! ## Phases -/

/-- The same answer, and the same rig without the records. -/
structure ErasesTo (x : α × Rig (W × U)) (y : α × Rig W) : Prop where
  answer : x.1 = y.1
  rig : x.2.bare = y.2

/-- An answer and a rig with records, taken apart. -/
theorem ErasesTo.eqs {x : α × Rig (W × U)} {y : α × Rig W} (h : ErasesTo x y) :
    ∃ answer g, x = (answer, g) ∧ y = (answer, g.bare) :=
  ⟨x.1, x.2, rfl, Prod.ext h.answer.symm h.rig.symm⟩

/-- A phase with observers, and the phase without. -/
def Erases (f : Rig (W × U) → α × Rig (W × U)) (f' : Rig W → α × Rig W) : Prop :=
  ∀ g, ErasesTo (f g) (f' g.bare)

/-- A phase and what follows it. -/
theorem Erases.followedBy {phase : Phase (W × U)} {phase' : Phase W}
    {next : Rig (W × U) → Outcome × Rig (W × U)} {next' : Rig W → Outcome × Rig W}
    (hphase : Erases phase phase') (hnext : Erases next next') :
    Erases (Phase.followedBy phase next) (Phase.followedBy phase' next') := by
  intro g
  obtain ⟨o, t, hwatched, hbare⟩ := (hphase g).eqs
  unfold Phase.followedBy
  rw [hwatched, hbare]
  cases o with
  | some outcome => exact ⟨rfl, rfl⟩
  | none => exact hnext t

section phases

variable (A : WatchedEnv W U) (startRip : U64) (p : Prologue)

/-- The end of a handled instruction. -/
theorem afterHandled_erases :
    Erases (afterHandled A.watched.toEnv startRip p) (afterHandled A.bare.toEnv startRip p) := by
  intro g
  unfold afterHandled
  have hstats : A.watched.collectCodeStats = A.bare.collectCodeStats := rfl
  rw [hstats]
  cases A.bare.collectCodeStats <;> exact ⟨rfl, rfl⟩

/-- The invalid opcode. -/
theorem invalidOpcode_erases :
    Erases (invalidOpcode A.watched.toEnv p) (invalidOpcode A.bare.toEnv p) := by
  intro g
  obtain ⟨action, m, hwatched, hbare⟩ :=
    eq_of_bareAnswer (runTrapHooks_erases A .invalidOpcode p.event g.toMachine)
  have hbare : A.bare.runTrapHooks .invalidOpcode p.event g.bare.toMachine = (action, m.bare) := hbare
  have hstats : A.watched.collectCodeStats = A.bare.collectCodeStats := rfl
  unfold invalidOpcode
  rw [hwatched, hbare]
  cases action with
  | act =>
    dsimp only
    rw [hstats]
    cases A.bare.collectCodeStats <;> exact ⟨rfl, rfl⟩
  | stop r => exact ⟨rfl, rfl⟩
  | continueToCore => exact ⟨rfl, rfl⟩

/-- The execute breakpoints. -/
theorem executeBreakpoints_erases (quiet : Bool) :
    Erases (executeBreakpoints (W := W × U) startRip p quiet)
      (executeBreakpoints startRip p quiet) := by
  intro g
  rw [executeBreakpoints_eq, executeBreakpoints_eq]
  have hsame : breakpointRun startRip p quiet g = breakpointRun startRip p quiet g.bare := rfl
  rw [hsame]
  cases breakpointRun startRip p quiet g.bare with
  | none => exact ⟨rfl, rfl⟩
  | some run =>
    dsimp only
    split <;> exact ⟨rfl, rfl⟩

/-- The trap hooks' part of an attempt. -/
theorem traps_erases : Erases (traps A.watched.toEnv startRip p) (traps A.bare.toEnv startRip p) := by
  intro g
  unfold traps
  cases p.entry.trapKind with
  | none => exact ⟨rfl, rfl⟩
  | some kind =>
    obtain ⟨action, m, hwatched, hbare⟩ :=
      eq_of_bareAnswer (runTrapHooks_erases A kind p.event g.toMachine)
    have hbare : A.bare.runTrapHooks kind p.event g.bare.toMachine = (action, m.bare) := hbare
    dsimp only
    rw [hwatched, hbare]
    cases action with
    | act =>
      have hafter := afterHandled_erases A startRip p (g.withMachine m)
      exact ⟨congrArg some hafter.answer, hafter.rig⟩
    | stop r => exact ⟨rfl, rfl⟩
    | continueToCore => exact ⟨rfl, rfl⟩

/-- The instruction hooks' part. -/
theorem instructionHooks_erases :
    Erases (instructionHooks A.watched.toEnv startRip p)
      (instructionHooks A.bare.toEnv startRip p) := by
  intro g
  have hexecution := runExecutionHooks_erases A g.toMachine
  have hhooks := runInstructionHooks_erases A p.event (A.watched.runExecutionHooks g.toMachine)
  rw [hexecution] at hhooks
  obtain ⟨action, m, hwatched, hbare⟩ := eq_of_bareAnswer hhooks
  have hbare : A.bare.runInstructionHooks p.event (A.bare.runExecutionHooks g.bare.toMachine) =
      (action, m.bare) := hbare
  unfold instructionHooks
  dsimp only [Rig.withMachine]
  rw [hwatched, hbare]
  cases action with
  | act =>
    have hafter := afterHandled_erases A startRip p ⟨m, g.log⟩
    exact ⟨congrArg some hafter.answer, hafter.rig⟩
  | stop r => exact ⟨rfl, rfl⟩
  | continueToCore => exact ⟨rfl, rfl⟩

/-- The debug exceptions' part. -/
theorem debugExceptions_erases (ctx : ExecutionContext) (debugSuppressed tfActive : Bool)
    (r : ExecutionResult) :
    Erases (debugExceptions (W := W × U) p ctx debugSuppressed tfActive r)
      (debugExceptions p ctx debugSuppressed tfActive r) := by
  intro g
  rw [debugExceptions_eq, debugExceptions_eq]
  have hsame : debugEvent p ctx debugSuppressed tfActive g.bare.state =
      debugEvent p ctx debugSuppressed tfActive g.state := rfl
  rw [hsame]
  cases debugEvent p ctx debugSuppressed tfActive g.state with
  | none => exact ⟨rfl, rfl⟩
  | some e => exact ⟨rfl, rfl⟩

/-- The core. -/
theorem core_erases (debugSuppressed tfActive : Bool) :
    Erases (core A.watched.toEnv p debugSuppressed tfActive)
      (core A.bare.toEnv p debugSuppressed tfActive) := by
  intro g
  have hhandler : A.watched.handler p.entry.reportedCode = A.bare.handler p.entry.reportedCode := by
    unfold Env.handler
    rfl
  -- a handler has no world: its context is the same with the records and without
  have hcontext : g.context p.instr p.nextRip = g.bare.context p.instr p.nextRip := rfl
  rw [core_eq, core_eq, hhandler, hcontext]
  dsimp only
  split
  next => exact ⟨rfl, rfl⟩
  next =>
    have hdebug := debugExceptions_erases p
      ((A.bare.handler p.entry.reportedCode).run (g.bare.context p.instr p.nextRip)).2 debugSuppressed
      tfActive { ((A.bare.handler p.entry.reportedCode).run
        (g.bare.context p.instr p.nextRip)).1 with code := some p.entry.reportedCode, retired := 1 }
      (coreRig A.watched.toEnv p ((A.bare.handler p.entry.reportedCode).run
        (g.bare.context p.instr p.nextRip)).2 g)
    have hrig (ctx : ExecutionContext) :
        (coreRig A.watched.toEnv p ctx g).bare = coreRig A.bare.toEnv p ctx g.bare := by
      have hstats : A.watched.collectCodeStats = A.bare.collectCodeStats := rfl
      unfold coreRig
      rw [hstats]
      cases A.bare.collectCodeStats <;> rfl
    rw [hrig] at hdebug
    exact hdebug

/-- The attempt on a decoded instruction. -/
theorem execute_erases (entry : DecodedInstruction) :
    Erases (execute A.watched.toEnv startRip entry) (execute A.bare.toEnv startRip entry) := by
  intro g
  have hprologue :
      prologue A.watched.toEnv entry g.state = prologue A.bare.toEnv entry g.bare.state := rfl
  unfold execute
  dsimp only
  rw [hprologue]
  split
  next => exact invalidOpcode_erases A _ g
  next =>
    split
    next => exact ⟨rfl, rfl⟩
    next =>
      exact ((executeBreakpoints_erases startRip _ _).followedBy
        ((traps_erases A startRip _).followedBy ((instructionHooks_erases A startRip _).followedBy
          (core_erases A _ _ _)))) (g.mapState clearSuppression)

/-- The attempt on what was fetched. -/
theorem attemptFetched_erases (fetched : Fetched) :
    Erases (A.watched.attemptFetched startRip fetched) (A.bare.attemptFetched startRip fetched) := by
  intro g
  unfold Env.attemptFetched
  cases fetched with
  | pageFault => exact ⟨rfl, rfl⟩
  | decodeError => exact ⟨rfl, rfl⟩
  | decoded entry => exact execute_erases A startRip entry g

/-! ## Steps -/

/-- The stop reported. -/
theorem reportStop_erases (r : ExecutionResult) :
    Erases (A.watched.reportStop r) (A.bare.reportStop r) := by
  intro g
  have hhooks := notifyStopHooks_erases A ⟨r, g.state.rip⟩ g.toMachine
  exact ⟨rfl, congrArg (fun m => Rig.mk m (g.log.countStop r.reason)) hhooks⟩

/-- The stop of a violation. -/
theorem stopWith_erases (r : ExecutionResult) :
    Erases (A.watched.stopWith startRip r) (A.bare.stopWith startRip r) := by
  intro g
  exact reportStop_erases A r (g.mapLog (recordViolation startRip (faultAddressOf r g.state.rip) r))

/-- The fault hooks' part. -/
theorem tryRecoverFault_erases (r : ExecutionResult) :
    Erases (A.watched.tryRecoverFault startRip r) (A.bare.tryRecoverFault startRip r) := by
  intro g
  obtain ⟨action, m, hwatched, hbare⟩ := eq_of_bareAnswer
    (runFaultHooks_erases A ⟨r, startRip, faultAddressOf r g.state.rip⟩ g.toMachine)
  have hbare : A.bare.runFaultHooks ⟨r, startRip, faultAddressOf r g.bare.state.rip⟩
      g.bare.toMachine = (action, m.bare) := hbare
  unfold Env.tryRecoverFault
  rw [hwatched, hbare]
  cases action <;> exact ⟨rfl, rfl⟩

/-- An attempt ends or goes on as it does without the observers. -/
theorem conclude_erases {o : Outcome × Rig (W × U)} {o' : Outcome × Rig W} (h : ErasesTo o o') :
    AnswersAgree ErasesTo (fun g g' => g.bare = g') (A.watched.conclude startRip o)
      (A.bare.conclude startRip o') := by
  obtain ⟨outcome, g, rfl, rfl⟩ := h.eqs
  cases outcome with
  | finish r => exact ⟨rfl, rfl⟩
  | abort r => exact stopWith_erases A startRip r g
  | fault r clear =>
    obtain ⟨recovered, t, hwatched, hbare⟩ := (tryRecoverFault_erases A startRip r g).eqs
    dsimp only [Env.conclude]
    rw [hwatched, hbare]
    cases recovered with
    | true => exact rfl
    | false =>
      cases clear with
      | true => exact stopWith_erases A startRip r (t.mapState clearPending)
      | false => exact stopWith_erases A startRip r t

/-- The same caches with the rig. -/
structure SameButWatched (s : Caches × Rig (W × U)) (s' : Caches × Rig W) : Prop where
  caches : s.1 = s'.1
  rig : s.2.bare = s'.2

/-- Sessions apart but for the records. -/
theorem SameButWatched.eqs {s : Caches × Rig (W × U)} {s' : Caches × Rig W}
    (h : SameButWatched s s') : ∃ c g, s = (c, g) ∧ s' = (c, g.bare) :=
  ⟨s.1, s.2, rfl, Prod.ext h.caches.symm h.rig.symm⟩

/-- The same result besides. -/
structure SameAnswer (x : ExecutionResult × Caches × Rig (W × U))
    (x' : ExecutionResult × Caches × Rig W) : Prop where
  result : x.1 = x'.1
  after : SameButWatched x.2 x'.2

/-- Step: one attempt. -/
theorem attempt_erases {s : Caches × Rig (W × U)} {s' : Caches × Rig W} (h : SameButWatched s s') :
    AnswersAgree SameAnswer SameButWatched (A.watched.attempt startRip s)
      (A.bare.attempt startRip s') := by
  obtain ⟨c, g, rfl, rfl⟩ := h.eqs
  have hfetch : A.watched.fetch (c, g) = A.bare.fetch (c, g.bare) := rfl
  have hconclude := conclude_erases A startRip
    (attemptFetched_erases A startRip (A.bare.fetch (c, g.bare)).2 g)
  unfold Env.attempt
  dsimp only
  rw [hfetch]
  generalize A.watched.conclude startRip
    (A.watched.attemptFetched startRip (A.bare.fetch (c, g.bare)).2 g) = a at hconclude ⊢
  generalize A.bare.conclude startRip
    (A.bare.attemptFetched startRip (A.bare.fetch (c, g.bare)).2 g.bare) = a' at hconclude ⊢
  -- The two conclude alike, so both are done or both go again.
  cases a with
  | done r =>
    cases a' with
    | done r' => exact ⟨hconclude.answer, rfl, hconclude.rig⟩
    | again g' => exact hconclude.elim
  | again t =>
    cases a' with
    | done r' => exact hconclude.elim
    | again t' => exact ⟨rfl, hconclude⟩

/-- Run: all attempts of a step. -/
theorem attempts_erases (n : Nat) {s : Caches × Rig (W × U)} {s' : Caches × Rig W}
    (h : SameButWatched s s') :
    SameAnswer (A.watched.attempts startRip n s) (A.bare.attempts startRip n s') := by
  have hexhausted (s : Caches × Rig (W × U)) (s' : Caches × Rig W) (h : SameButWatched s s') :
      SameAnswer (A.watched.exhausted s) (A.bare.exhausted s') := by
    have hreport := reportStop_erases A { reason := .executionLimit } s.2
    rw [h.rig] at hreport
    exact ⟨rfl, h.caches, hreport.rig⟩
  exact retry_sim (R := fun _ => SameButWatched) (fun _ _ _ h => attempt_erases A startRip h)
    hexhausted n s s' h

end phases

/-- The context imported and exported. -/
theorem syncContext_erases (f : Option (CpuState → W → CpuState × W)) (g : Rig (W × U)) :
    (syncContext (f.map aroundRecords) g).bare = syncContext f g.bare := by
  cases f <;> rfl

/-- The same executor and, without the records, the same machine. -/
structure ErasesRun (x : ExecutionResult × Executor × Machine (W × U))
    (x' : ExecutionResult × Executor × Machine W) : Prop where
  result : x.1 = x'.1
  executor : x.2.1 = x'.2.1
  machine : x.2.2.bare = x'.2.2

/-- Results apart but for the records. -/
theorem ErasesRun.eqs {x : ExecutionResult × Executor × Machine (W × U)}
    {x' : ExecutionResult × Executor × Machine W} (h : ErasesRun x x') :
    ∃ r ex m, x = (r, ex, m) ∧ x' = (r, ex, m.bare) :=
  ⟨x.1, x.2.1, x.2.2, rfl, Prod.ext h.result.symm (Prod.ext h.executor.symm h.machine.symm)⟩

section runs

variable (A : WatchedEnv W U)

/-- **One step** of the executor. -/
theorem step_erases (ex : Executor) (m : Machine (W × U)) :
    ErasesRun (A.watched.step ex m) (A.bare.step ex m.bare) := by
  unfold Env.step
  split
  next =>
    have hreport := reportStop_erases A { reason := .stopRequested }
      ({ m with log := A.watched.openLog ex.log } : Rig (W × U))
    exact ⟨rfl, rfl, congrArg Rig.toMachine hreport.rig⟩
  next =>
    have henter : (A.watched.enter ex m).bare = A.bare.enter ex m.bare := by
      have hread := syncContext_erases A.base.contextRead
        ({ m with log := A.watched.openLog ex.log } : Rig (W × U))
      exact congrArg (fun g => Rig.mapState g enterStep) hread
    -- the attempts are told where the step began
    have hrip : (A.watched.enter ex m).state.rip = (A.bare.enter ex m.bare).state.rip := by
      rw [← henter]
      rfl
    have hattempts := attempts_erases A (A.watched.enter ex m).state.rip kMaxFaultRetries
      (⟨rfl, henter⟩ : SameButWatched (ex.caches, A.watched.enter ex m)
        (ex.caches, A.bare.enter ex m.bare))
    dsimp only
    rw [← hrip]
    generalize A.watched.attempts _ _ _ = x at hattempts ⊢
    generalize A.bare.attempts _ _ _ = x' at hattempts ⊢
    obtain ⟨hresult, hcaches, hrig⟩ := hattempts
    have hwrite := syncContext_erases A.base.contextWrite x.2.2
    rw [hrig] at hwrite
    refine ⟨hresult, ?_, congrArg Rig.toMachine hwrite⟩
    show ({ ex with caches := x.2.1, log := _ } : Executor) = { ex with caches := x'.2.1, log := _ }
    rw [hcaches]
    exact congrArg (fun g => ({ ex with caches := x'.2.1, log := g.log } : Executor)) hwrite

/-- The same index, executor and machine, between two passes. -/
structure SamePass (s : Nat × Executor × Machine (W × U)) (s' : Nat × Executor × Machine W) :
    Prop where
  index : s.1 = s'.1
  executor : s.2.1 = s'.2.1
  machine : s.2.2.bare = s'.2.2

/-- Passes apart but for the records. -/
theorem SamePass.eqs {s : Nat × Executor × Machine (W × U)} {s' : Nat × Executor × Machine W}
    (h : SamePass s s') : ∃ i ex m, s = (i, ex, m) ∧ s' = (i, ex, m.bare) :=
  ⟨s.1, s.2.1, s.2.2, rfl, Prod.ext h.index.symm (Prod.ext h.executor.symm h.machine.symm)⟩

/-- The report of a run. -/
theorem report_erases (r : ExecutionResult) (ex : Executor) (m : Machine (W × U)) :
    ErasesRun (A.watched.report r (ex, m)) (A.bare.report r (ex, m.bare)) := by
  have hreport := reportStop_erases A r ({ m with log := ex.log } : Rig (W × U))
  exact ⟨rfl, congrArg (fun g : Rig W => ({ ex with log := g.log } : Executor)) hreport.rig,
    congrArg Rig.toMachine hreport.rig⟩

/-- The collection of a pass. -/
theorem collect_erases (ex : Executor) (m : Machine (W × U)) :
    (A.watched.collect (ex, m)).1 = (A.bare.collect (ex, m.bare)).1 ∧
      (A.watched.collect (ex, m)).2.bare = (A.bare.collect (ex, m.bare)).2 := ⟨rfl, rfl⟩

/-- **One pass** of the loop. -/
theorem pass_erases {s : Nat × Executor × Machine (W × U)} {s' : Nat × Executor × Machine W}
    (h : SamePass s s') : AnswersAgree ErasesRun SamePass (A.watched.pass s) (A.bare.pass s') := by
  obtain ⟨i, ex, m, rfl, rfl⟩ := h.eqs
  obtain ⟨hcollected, hmachine⟩ := collect_erases A ex m
  unfold RunEnv.pass
  dsimp only
  rw [← hcollected, ← hmachine]
  generalize A.watched.collect (ex, m) = c
  have hstep := step_erases A c.1 c.2
  split
  next => exact report_erases A _ c.1 c.2
  next =>
    obtain ⟨r, ex₁, m₁, hwatched, hbare⟩ := hstep.eqs
    rw [hwatched, hbare]
    dsimp only
    split
    next => exact ⟨rfl, rfl, rfl⟩
    next => exact ⟨rfl, rfl, rfl⟩

/-- **Observers are invisible.** -/
theorem observers_invisible (n : Nat) (ex : Executor) (m : Machine (W × U)) :
    ErasesRun (A.watched.run n (ex, m)) (A.bare.run n (ex, m.bare)) := by
  unfold RunEnv.run
  have hlimit (s : Nat × Executor × Machine (W × U)) (s' : Nat × Executor × Machine W)
      (h : SamePass s s') :
      ErasesRun (A.watched.report { reason := .executionLimit, retired := n } s.2)
        (A.bare.report { reason := .executionLimit, retired := n } s'.2) := by
    obtain ⟨-, ex, m, rfl, rfl⟩ := h.eqs
    exact report_erases A _ ex m
  exact retry_sim (R := fun _ => SamePass) (fun _ _ _ h => pass_erases A h) hlimit n (0, ex, m)
    (0, ex, m.bare) ⟨rfl, rfl, rfl⟩

end runs

end Seven
