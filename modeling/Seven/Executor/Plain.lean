import Seven.Executor.Step

/-!
# Steps with nothing in the way

Most of `execute` deals with hooks and breakpoints. Without hooks, and with
no execute breakpoint at the instruction, an attempt at a valid instruction
is its handler (`execute_plain`). The questions about single handlers are
asked of such steps. What follows a handler that did not fault is the same
in every attempt (`core_eq`).
-/

namespace Seven

variable {W : Type}

/-- No hook runs between the fetch and the handler. -/
structure Env.NoCoreHooks (env : Env W) : Prop where
  trap : ∀ kind, env.trapHooks kind = []
  execution : env.executionHooks = []
  executionAddress : ∀ rip, env.executionAddressHooks rip = []
  instruction : env.instructionHooks = []
  code : ∀ code, env.codeHooks code = []

namespace Env.NoCoreHooks

variable {env : Env W}

/-- No trap hook. -/
theorem runTrapHooks (h : env.NoCoreHooks) (kind : TrapKind) (event : InstructionEvent)
    (m : Machine W) : env.runTrapHooks kind event m = (.continueToCore, m) := by
  unfold Env.runTrapHooks
  rw [h.trap]
  rfl

/-- No instruction hook. -/
theorem runInstructionHooks (h : env.NoCoreHooks) (event : InstructionEvent) (m : Machine W) :
    env.runInstructionHooks event m = (.continueToCore, m) := by
  unfold Env.runInstructionHooks
  rw [h.instruction, h.code]
  rfl

/-- No execution hook. -/
theorem runExecutionHooks (h : env.NoCoreHooks) (m : Machine W) : env.runExecutionHooks m = m := by
  unfold Env.runExecutionHooks
  rw [h.execution]
  simp only [List.foldl_nil, h.executionAddress]

/-- The trap hooks' part does nothing. -/
theorem traps (h : env.NoCoreHooks) (startRip : U64) (p : Prologue) (g : Rig W) :
    Seven.traps env startRip p g = (none, g) := by
  unfold Seven.traps
  split
  next => rfl
  next kind _ =>
    rw [h.runTrapHooks]
    rfl

/-- Nor does the instruction hooks'. -/
theorem instructionHooks (h : env.NoCoreHooks) (startRip : U64) (p : Prologue) (g : Rig W) :
    Seven.instructionHooks env startRip p g = (none, g) := by
  unfold Seven.instructionHooks
  rw [h.runExecutionHooks]
  simp only [h.runInstructionHooks]
  rfl

end Env.NoCoreHooks

/-- A phase that does nothing. -/
theorem Phase.followedBy_pass {phase : Phase W} {g : Rig W} (h : phase g = (none, g))
    (next : Rig W → Outcome × Rig W) : Phase.followedBy phase next g = next g := by
  unfold Phase.followedBy
  rw [h]

/-- With none enabled, no execute breakpoint is hit. -/
theorem collectExecuteBreakpointHits_disabled {s : CpuState}
    (h : hasEnabledExecuteBreakpoints s = false) (rip : U64) :
    collectExecuteBreakpointHits s rip = 0#64 := by
  have hoff (i : Fin 4) : (breakpointEnabled s i && breakpointRw s i == 0#64) = false := by
    unfold hasEnabledExecuteBreakpoints at h
    rcases Bool.and_eq_false_iff.mp h with hdr | hany
    · have hzero : s.dr 7 = 0#64 := by simpa using hdr
      unfold breakpointEnabled
      rw [hzero]
      simp
    · have hnone := List.any_eq_false.mp hany i (List.mem_finRange i)
      simpa using hnone
  unfold collectExecuteBreakpointHits
  simp only [hoff, Bool.false_and, Bool.false_eq_true, if_false]
  rfl

/-- The breakpoints are passed when they are suppressed, when none is enabled
and when none lies at the address. -/
theorem executeBreakpoints_pass {startRip : U64} {p : Prologue} {suppressed : Bool} {g : Rig W}
    (h : suppressed = true ∨ p.checkExecuteBreakpoints = false ∨
      collectExecuteBreakpointHits g.state startRip = 0#64) :
    executeBreakpoints startRip p suppressed g = (none, g) := by
  unfold executeBreakpoints
  have hskip : (suppressed || !p.checkExecuteBreakpoints ||
      collectExecuteBreakpointHits g.state startRip == 0#64) = true := by
    rcases h with h | h | h
    · rw [h]
      rfl
    · rw [h]
      cases suppressed <;> rfl
    · rw [h]
      cases suppressed <;> cases p.checkExecuteBreakpoints <;> rfl
  rw [if_pos hskip]

/-- **Without hooks and without an execute breakpoint at the instruction an
attempt is its handler.** -/
theorem execute_plain {env : Env W} (hhooks : env.NoCoreHooks) {startRip : U64}
    {d : DecodedInstruction} (hcode : d.instr.code ≠ .invalid) (hsimd : d.simdAllowed = true)
    {g : Rig W} (hbreak : collectExecuteBreakpointHits g.state startRip = 0#64) :
    execute env startRip d g =
      core env (prologue env d g.state) (g.state.debugSuppression != 0#8)
        (flagSet (clearSuppression g.state).rflags kFlagTF) (g.mapState clearSuppression) := by
  have hinstr : (prologue env d g.state).instr.code ≠ .invalid := hcode
  -- clearing the suppression leaves the debug registers
  have hbreak' : collectExecuteBreakpointHits (g.mapState clearSuppression).state startRip =
      0#64 := hbreak
  unfold execute
  rw [if_neg hinstr, if_neg (by rw [hsimd]; decide)]
  dsimp only
  rw [Phase.followedBy_pass (executeBreakpoints_pass (Or.inr (Or.inr hbreak'))),
    Phase.followedBy_pass (hhooks.traps _ _ _),
    Phase.followedBy_pass (hhooks.instructionHooks _ _ _)]
  rfl

/-! ## The handler and what follows it -/

/-- The state after an instruction that has completed. -/
def retire (ctx : ExecutionContext) : CpuState :=
  maskStack
    { ctx.state with
      rip := if ctx.controlFlowTaken then maskInstructionPointer ctx.state ctx.state.rip
        else ctx.nextRip }

/-- The rig behind a handler that did not fault. -/
def coreRig (env : Env W) (p : Prologue) (ctx : ExecutionContext) (g : Rig W) : Rig W :=
  let g := g.fromContext ctx
  let g := if env.collectCodeStats then
      (g.mapLog (Log.countCode · p.entry.reportedCode)).mapLog Log.countRetired else g
  g.mapState fun s =>
    maskStack
      { s with rip := if ctx.controlFlowTaken then maskInstructionPointer s s.rip else ctx.nextRip }

/-- The handler's own part of the core, in the terms of `coreRig`. -/
theorem core_eq (env : Env W) (p : Prologue) (debugSuppressed tfActive : Bool) (g : Rig W) :
    core env p debugSuppressed tfActive g =
      let run := (env.handler p.entry.reportedCode).run (g.context p.instr p.nextRip)
      let r : ExecutionResult := { run.1 with code := some p.entry.reportedCode }
      if r.reason ≠ .none then (.fault r debugSuppressed, g.fromContext run.2)
      else
        debugExceptions p run.2 debugSuppressed tfActive { r with retired := 1 }
          (coreRig env p run.2 g) := rfl

/-- State and memory of it are those the instruction leaves. -/
theorem coreRig_eq (env : Env W) (p : Prologue) (ctx : ExecutionContext) (g : Rig W) :
    ∃ l, coreRig env p ctx g = ⟨⟨retire ctx, ctx.memory, g.world⟩, l⟩ := by
  unfold coreRig
  cases env.collectCodeStats with
  | true => exact ⟨_, rfl⟩
  | false => exact ⟨_, rfl⟩

/-- The state of a retired instruction. -/
theorem coreRig_state (env : Env W) (p : Prologue) (ctx : ExecutionContext) (g : Rig W) :
    (coreRig env p ctx g).state = retire ctx := by
  obtain ⟨l, h⟩ := coreRig_eq env p ctx g
  rw [h]

end Seven
