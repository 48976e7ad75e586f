import Seven.Cpu.Checked
import Seven.Executor.Plain

/-!
# Repaired faults

`Env.Recovers` is the part of a step in which the handler page-faults, the
fault hooks put another memory in place, leave the CPU state alone and
answer *retry* or *restart*, once or several times. When the failing handler
changes nothing — the predicate `P` on the contexts stands for the reason —
these attempts cannot be seen afterwards: the step ends like the step of a
machine that had the last memory from the start (`Env.step_recovers`).

The bound on the retries is not the subject here; the number of repairs is
taken to be below it.
-/

namespace Seven

open Seven.Lib

variable {W : Type}

/-- The context the handler of an attempt runs in. -/
def Env.handlerContext (env : Env W) (d : DecodedInstruction) (g : Rig W) : ExecutionContext :=
  (g.mapState clearSuppression).context d.instr (prologue env d g.state).nextRip

/-- `k` attempts at `d` that page-fault under `P` and are repaired. -/
inductive Env.Recovers (env : Env W) (startRip : U64) (d : DecodedInstruction)
    (P : ExecutionContext → Prop) : Nat → Caches × Rig W → Caches × Rig W → Prop
  | refl (s : Caches × Rig W) : Env.Recovers env startRip d P 0 s s
  | fault {k : Nat} {c c₁ : Caches} {g : Rig W} {r : ExecutionResult} {ctx' : ExecutionContext}
      {action : FaultHookAction} {memory : Memory} {world : W} {s' : Caches × Rig W}
      (hfetch : env.fetch (c, g) = (c₁, .decoded d))
      (hsafe : P (env.handlerContext d g))
      (hfail : env.handler d.reportedCode (env.handlerContext d g) = .error r ctx')
      (hpage : PageFault r)
      (hhook : env.runFaultHooks
        ⟨{ r with code := some d.reportedCode }, startRip, faultAddressOf r ctx'.state.rip⟩
        ⟨ctx'.state, ctx'.memory, g.world⟩ = (action, ⟨ctx'.state, memory, world⟩))
      (haction : action ≠ .stop)
      (hrest : Env.Recovers env startRip d P k (c₁, ⟨⟨ctx'.state, memory, world⟩, g.log⟩) s') :
      Env.Recovers env startRip d P (k + 1) (c, g) s'

/-- What has to hold of the instruction and the environment for an attempt
to be its handler. -/
structure Env.PlainAttempt (env : Env W) (d : DecodedInstruction) : Prop where
  hooks : env.NoCoreHooks
  code : d.instr.code ≠ .invalid
  simd : d.simdAllowed = true

/-- A state a step can begin an attempt in, with no breakpoint at the
instruction: one that `RF` or a suppression passes in the first attempt would
be live in the second. -/
structure AttemptState (startRip : U64) (s : CpuState) : Prop where
  rip : s.rip = startRip
  stack : maskStack s = s
  breakpoints : collectExecuteBreakpointHits s startRip = 0#64
  suppression : s.debugSuppression = 0#8

/-- The state of an attempt, its shadow cleared. -/
theorem AttemptState.clear {startRip : U64} {s : CpuState} (h : AttemptState startRip s) :
    AttemptState startRip (clearSuppression s) := by
  refine ⟨h.rip, ?_, h.breakpoints, rfl⟩
  show clearSuppression (maskStack s) = clearSuppression s
  rw [h.stack]

/-- Clearing twice is clearing once. -/
theorem clearSuppression_idem (s : CpuState) :
    clearSuppression (clearSuppression s) = clearSuppression s := by
  unfold clearSuppression
  simp only [BitVec.and_assoc, BitVec.and_self]

/-- A core whose handler fails. -/
theorem core_error {env : Env W} {p : Prologue} {debugSuppressed tfActive : Bool} {g : Rig W}
    {r : ExecutionResult} {ctx' : ExecutionContext}
    (h : env.handler p.entry.reportedCode (g.context p.instr p.nextRip) = .error r ctx')
    (hr : r.reason ≠ .none) :
    core env p debugSuppressed tfActive g =
      (.fault { r with code := some p.entry.reportedCode } debugSuppressed, g.fromContext ctx') := by
  have hrun : (env.handler p.entry.reportedCode).run (g.context p.instr p.nextRip) = (r, ctx') := by
    unfold Handler.run
    rw [h]
  simp only [core, hrun]
  exact if_pos hr

/-- A page fault of the handler is what the attempt answers. -/
theorem execute_faulted {env : Env W} {startRip : U64} {d : DecodedInstruction}
    (hplain : env.PlainAttempt d) {g : Rig W}
    (hbreak : collectExecuteBreakpointHits g.state startRip = 0#64) {r : ExecutionResult}
    {ctx : ExecutionContext}
    (hfail : env.handler d.reportedCode (env.handlerContext d g) = .error r ctx)
    (hpage : PageFault r) :
    execute env startRip d g =
      (.fault { r with code := some d.reportedCode } (g.state.debugSuppression != 0#8),
        ⟨⟨ctx.state, ctx.memory, g.world⟩, g.log⟩) := by
  have hreason : r.reason ≠ .none := by
    rw [hpage]
    decide
  rw [execute_plain hplain.hooks hplain.code hplain.simd hbreak]
  exact @core_error _ env (prologue env d g.state) _ _ (g.mapState clearSuppression) r _ hfail
    hreason

/-- The hooks' answer to a repaired fault. -/
theorem tryRecoverFault_repaired {env : Env W} {startRip : U64} {r : ExecutionResult} {g : Rig W}
    {action : FaultHookAction} {memory : Memory} {world : W}
    (hhook : env.runFaultHooks ⟨r, startRip, faultAddressOf r g.state.rip⟩ g.toMachine =
      (action, ⟨g.state, memory, world⟩))
    (haction : action ≠ .stop) (hstate : AttemptState startRip g.state) :
    env.tryRecoverFault startRip r g = (true, ⟨⟨g.state, memory, world⟩, g.log⟩) := by
  unfold Env.tryRecoverFault
  rw [hhook]
  cases action with
  | stop => exact absurd rfl haction
  | retry => rfl
  | restartInstruction =>
    -- restarting puts back a RIP that is there already
    have hrip : { g.state with rip := startRip } = g.state := by
      rw [← hstate.rip]
    show (true, (⟨⟨maskStack { g.state with rip := startRip }, memory, world⟩, g.log⟩ : Rig W)) = _
    rw [hrip, hstate.stack]

/-- **One repaired fault is one attempt, and it changes memory and world
only.** -/
theorem attempt_repaired {env : Env W} {startRip : U64} {d : DecodedInstruction}
    (hplain : env.PlainAttempt d) {c c₁ : Caches} {g : Rig W} {r : ExecutionResult}
    {action : FaultHookAction} {memory : Memory} {world : W} (hstate : AttemptState startRip g.state)
    (hfetch : env.fetch (c, g) = (c₁, .decoded d))
    (hfail : env.handler d.reportedCode (env.handlerContext d g) =
      .error r (env.handlerContext d g))
    (hpage : PageFault r)
    (hhook : env.runFaultHooks
      ⟨{ r with code := some d.reportedCode }, startRip,
        faultAddressOf r (env.handlerContext d g).state.rip⟩
      ⟨(env.handlerContext d g).state, (env.handlerContext d g).memory, g.world⟩ =
        (action, ⟨(env.handlerContext d g).state, memory, world⟩))
    (haction : action ≠ .stop) :
    env.attempt startRip (c, g) =
      .again (c₁, ⟨⟨clearSuppression g.state, memory, world⟩, g.log⟩) := by
  have hcore : execute env startRip d g =
      (.fault { r with code := some d.reportedCode } (g.state.debugSuppression != 0#8),
        g.mapState clearSuppression) :=
    execute_faulted hplain hstate.breakpoints hfail hpage
  have hrec := @tryRecoverFault_repaired _ env startRip { r with code := some d.reportedCode }
    (g.mapState clearSuppression) action memory world hhook haction hstate.clear
  unfold Env.attempt
  rw [hfetch]
  show withCaches c₁ (env.conclude startRip (execute env startRip d g)) = _
  rw [hcore]
  simp only [Env.conclude, hrec]
  rfl

/-- The rig of a later attempt: memory and world apart, the one the step
began with, or that one with its suppressions cleared. -/
structure Resumed (g g' : Rig W) : Prop where
  state : g'.state = g.state ∨ g'.state = clearSuppression g.state
  log : g'.log = g.log

/-- **The run lemma**: repaired faults use up attempts and nothing else. -/
theorem attempts_recovers {env : Env W} {startRip : U64} {d : DecodedInstruction}
    {P : ExecutionContext → Prop} (hplain : env.PlainAttempt d)
    (hP : ∀ ctx, P ctx → FailsAt PageFault id (env.handler d.reportedCode) ctx ctx)
    {k : Nat} {s s' : Caches × Rig W} (h : env.Recovers startRip d P k s s')
    (hstate : AttemptState startRip s.2.state) (n : Nat) :
    env.attempts startRip (n + k) s = env.attempts startRip n s' ∧ Resumed s.2 s'.2 := by
  induction h with
  | refl s => exact ⟨rfl, Or.inl rfl, rfl⟩
  | @fault k c c₁ g r ctx' action memory world s' hfetch hsafe hfail hpage hhook haction hrest ih =>
    have hctx : ctx' = env.handlerContext d g := hP _ hsafe r ctx' hfail hpage
    subst hctx
    have hattempt := attempt_repaired hplain hstate hfetch hfail hpage hhook haction
    obtain ⟨hrun, hres⟩ := ih hstate.clear
    constructor
    · rw [← hrun]
      exact retry_again hattempt
    · refine ⟨Or.inr ?_, hres.log⟩
      rcases hres.state with hs | hs
      · exact hs
      · exact hs.trans (clearSuppression_idem g.state)

/-- The suppressions do not matter to an attempt that has none to honour. -/
theorem execute_cleared {env : Env W} {startRip : U64} {d : DecodedInstruction}
    (hplain : env.PlainAttempt d) {g : Rig W} (hstate : AttemptState startRip g.state) :
    execute env startRip d (g.mapState clearSuppression) = execute env startRip d g := by
  have hleft := @execute_plain _ env hplain.hooks startRip d hplain.code hplain.simd
    (g.mapState clearSuppression) hstate.clear.breakpoints
  rw [hleft, execute_plain hplain.hooks hplain.code hplain.simd hstate.breakpoints]
  have hidem : (g.mapState clearSuppression).mapState clearSuppression =
      g.mapState clearSuppression := by
    show Rig.mk ⟨clearSuppression (clearSuppression g.state), _, _⟩ _ = _
    rw [clearSuppression_idem]
    rfl
  have hsupp : (g.mapState clearSuppression).state.debugSuppression = g.state.debugSuppression :=
    hstate.suppression.symm
  have htf : (clearSuppression (g.mapState clearSuppression).state).rflags =
      (clearSuppression g.state).rflags := congrArg (·.rflags) (clearSuppression_idem g.state)
  rw [hidem, hsupp, htf]
  rfl

/-- An attempt that resumes ends like one that starts with its memory. -/
theorem execute_resumed {env : Env W} {startRip : U64} {d : DecodedInstruction}
    (hplain : env.PlainAttempt d) {g g' : Rig W} (hstate : AttemptState startRip g.state)
    (h : Resumed g g') :
    execute env startRip d g' =
      execute env startRip d { g with memory := g'.memory, world := g'.world } := by
  obtain ⟨hs, hl⟩ := h
  obtain ⟨⟨s', m', w'⟩, l'⟩ := g'
  simp only at hs hl
  subst hl
  rcases hs with rfl | rfl
  · rfl
  · exact @execute_cleared _ env startRip d hplain
      { g with memory := m', world := w' } hstate

/-- **Repaired faults are invisible to the caller of the step**: result and
machine are those of a step that had the repaired memory from the start. -/
theorem Env.step_recovers {env : Env W} {d : DecodedInstruction} {P : ExecutionContext → Prop}
    (hplain : env.PlainAttempt d)
    (hP : ∀ ctx, P ctx → FailsAt PageFault id (env.handler d.reportedCode) ctx ctx)
    {ex : Executor} (hstop : ex.stopRequested = false) {m m' : Machine W} {k : Nat} {c c' c'' : Caches}
    {g' : Rig W} {r : ExecutionResult × Caches × Rig W}
    (hstate : AttemptState (env.enter ex m).state.rip (env.enter ex m).state)
    (hrec : env.Recovers (env.enter ex m).state.rip d P k (ex.caches, env.enter ex m) (c, g'))
    (hk : k < kMaxFaultRetries)
    (hm' : env.enter ex m' = { env.enter ex m with memory := g'.memory, world := g'.world })
    (hfetch : env.fetch (c, g') = (c', .decoded d))
    (hfetch' : env.fetch (ex.caches, env.enter ex m') = (c'', .decoded d))
    (hdone : env.attempt (env.enter ex m).state.rip (c, g') = .done r) :
    (env.step ex m).1 = (env.step ex m').1 ∧ (env.step ex m).2.2 = (env.step ex m').2.2 := by
  obtain ⟨hrun, hres⟩ := attempts_recovers hplain hP hrec hstate (kMaxFaultRetries - k)
  have hexec := execute_resumed hplain hstate hres
  rw [← hm'] at hexec
  have hrip : (env.enter ex m').state.rip = (env.enter ex m).state.rip := by rw [hm']
  -- both last attempts conclude the same outcome, with different caches
  have hlast : env.attempt (env.enter ex m).state.rip (c, g') =
      withCaches c' (env.conclude (env.enter ex m).state.rip
        (execute env (env.enter ex m).state.rip d g')) := by
    unfold Env.attempt
    rw [hfetch]
    rfl
  have hlast' : env.attempt (env.enter ex m).state.rip (ex.caches, env.enter ex m') =
      withCaches c'' (env.conclude (env.enter ex m).state.rip
        (execute env (env.enter ex m).state.rip d g')) := by
    unfold Env.attempt
    rw [hfetch', hexec]
    rfl
  cases hcon : env.conclude (env.enter ex m).state.rip
      (execute env (env.enter ex m).state.rip d g') with
  | again g'' =>
    rw [hlast, hcon] at hdone
    cases hdone
  | done x =>
    obtain ⟨rx, gx⟩ := x
    rw [hcon] at hlast hlast'
    have h1 : env.attempts (env.enter ex m).state.rip kMaxFaultRetries (ex.caches, env.enter ex m) =
        (rx, c', gx) := by
      have hsplit : kMaxFaultRetries = (kMaxFaultRetries - k - 1 + 1) + k := by omega
      rw [hsplit]
      have hn : kMaxFaultRetries - k - 1 + 1 = kMaxFaultRetries - k := by omega
      rw [hn, hrun, ← hn]
      exact retry_done hlast
    have h2 : env.attempts (env.enter ex m').state.rip kMaxFaultRetries
        (ex.caches, env.enter ex m') = (rx, c'', gx) := by
      rw [hrip]
      exact retry_done hlast'
    unfold Env.step
    rw [hstop]
    simp only [Bool.false_eq_true, if_false, h1, h2]
    exact ⟨rfl, rfl⟩

/-- Faults of an instruction that fail under `P` and are repaired cannot be
told from a mapping that was there from the start: the step returns the
result of the step of `m'`, the machine with the repaired memory, and ends in
the same machine. -/
def RepairsInvisible (code : Code) (P : ExecutionContext → Prop) : Prop :=
  ∀ (W : Type) (env : Env W) (d : DecodedInstruction), d.reportedCode = code →
    env.PlainAttempt d →
    ∀ (ex : Executor) (m m' : Machine W) (k : Nat) (c₁ c₂ c₃ : Caches) (g' : Rig W),
      ex.stopRequested = false →
      AttemptState (env.enter ex m).state.rip (env.enter ex m).state →
      env.Recovers (env.enter ex m).state.rip d P k (ex.caches, env.enter ex m) (c₁, g') →
      k < kMaxFaultRetries →
      env.enter ex m' = { env.enter ex m with memory := g'.memory, world := g'.world } →
      env.fetch (c₁, g') = (c₂, .decoded d) →
      env.fetch (ex.caches, env.enter ex m') = (c₃, .decoded d) →
      (∃ r, env.attempt (env.enter ex m).state.rip (c₁, g') = .done r) →
      (env.step ex m).1 = (env.step ex m').1 ∧ (env.step ex m).2.2 = (env.step ex m').2.2

/-- Repairs in front of a handler that fails precisely. -/
theorem repairsInvisible {code : Code} {P : ExecutionContext → Prop} {h : Handler}
    (hhandler : ∀ (W : Type) (env : Env W), env.handler code = h)
    (hP : ∀ ctx, P ctx → FailsAt PageFault id h ctx ctx) : RepairsInvisible code P := by
  intro W env d hcode hplain ex m m' k c₁ c₂ c₃ g' hstop hstate hrec hk hm' hfetch hfetch' hdone
  obtain ⟨r, hdone⟩ := hdone
  refine Env.step_recovers hplain (fun ctx hctx => ?_) hstop hstate hrec hk hm' hfetch hfetch'
    hdone
  rw [hcode, hhandler W env]
  exact hP ctx hctx

end Seven
