import Seven.Handlers.Faults
import Seven.Executor.Run
import Seven.Executor.SingleStep
import Seven.Executor.Suppression

/-!
# Retired instructions

A step retires an instruction when the instruction's effects are committed:
its handler has succeeded, or a hook has stood in for it
(`Env.attemptCommits`, `Env.stepCommits`). A run counts its passes instead,
and adds what the last step reports. The two agree as long as no step takes
one of two branches: the one that delivers an execute breakpoint and ends
without a stop, though nothing has retired, and the one that reports a debug
exception it could not deliver and forgets the instruction that has retired
before it (`Env.Accounted`).

`RunEnv.run_accounting` is the agreement, for every run of such steps.
-/

namespace Seven

open Seven.Lib

variable {W : Type}

/-! ## What an attempt commits -/

/-- Do the hooks in front of the handler stand in for the instruction? -/
def hooksAct (env : Env W) (p : Prologue) (m : Machine W) : Bool :=
  let (action, m) := match p.entry.trapKind with
    | none => (HookAction.continueToCore, m)
    | some kind => env.runTrapHooks kind p.event m
  action = .act || action = .continueToCore &&
    (env.runInstructionHooks p.event (env.runExecutionHooks m)).1 = .act

/-- Does a hook stand in for the instruction? -/
def hookStandsIn (env : Env W) (startRip : U64) (entry : DecodedInstruction) (g : Rig W) : Bool :=
  let p := prologue env entry g.state
  if p.instr.code = .invalid then (env.runTrapHooks .invalidOpcode p.event g.toMachine).1 = .act
  else if !entry.simdAllowed then false
  else
    match executeBreakpoints startRip p (suppressed g.state) (g.mapState clearSuppression) with
    | (some _, _) => false
    | (none, g) => hooksAct env p g.toMachine

/-- How many instructions the attempt commits. -/
def Env.attemptCommits (env : Env W) (startRip : U64) (s : Caches × Rig W) : Nat :=
  match (env.fetch s).2 with
  | .decoded entry =>
    (hookStandsIn env startRip entry s.2 || (env.executed startRip s).isSome).toNat
  | _ => 0

/-- How many instructions the step commits: what its last attempt does. -/
def Env.stepCommits (env : Env W) (ex : Executor) (m : Machine W) : Nat :=
  if ex.stopRequested then 0
  else
    let startRip := (env.enter ex m).state.rip
    retry (fun s => match env.attempt startRip s with
      | .done _ => .done (env.attemptCommits startRip s)
      | .again t => .again t) (fun _ => 0) kMaxFaultRetries (env.start ex m)

/-! ## The branches that miscount -/

/-- The attempt delivers an execute breakpoint and ends there. -/
def Env.EndsAtBreakpoint (env : Env W) (startRip : U64) (s : Caches × Rig W) : Prop :=
  ∃ entry r g, (env.fetch s).2 = .decoded entry ∧ ¬FaultsEarly (.decoded entry) ∧
    executeBreakpoints startRip (prologue env entry s.2.state) (suppressed s.2.state)
      (s.2.mapState clearSuppression) = (some (.finish r), g)

/-- The debug exception behind the instruction cannot be delivered. -/
def Env.EventFails (env : Env W) (startRip : U64) (s : Caches × Rig W) : Prop :=
  ∃ x e, env.executed startRip s = some x ∧ env.event startRip s = some e ∧
    (e.deliver x.prologue x.context x.rig).1.reason ≠ .none

/-- None of the first `n` attempts from `s` takes one of these branches. -/
def Env.AttemptsAccounted (env : Env W) (startRip : U64) (n : Nat) (s : Caches × Rig W) : Prop :=
  ∀ k t, k < n → Reaches (env.attempt startRip) k s t →
    ¬env.EndsAtBreakpoint startRip t ∧ ¬env.EventFails startRip t

/-- No attempt of the step does. -/
def Env.Accounted (env : Env W) (ex : Executor) (m : Machine W) : Prop :=
  env.AttemptsAccounted (env.enter ex m).state.rip kMaxFaultRetries (env.start ex m)

/-- A hook that stops the run gives a fault for the reason. -/
structure Env.StopsAreFaults (env : Env W) : Prop where
  trap : ∀ kind, ∀ hook ∈ env.trapHooks kind, ∀ event m r,
    (hook event m).1 = .stop (some r) → IsFault r
  instruction : ∀ hook ∈ env.instructionHooks, ∀ event m r,
    (hook event m).1 = .stop (some r) → IsFault r
  code : ∀ code, ∀ hook ∈ env.codeHooks code, ∀ event m r,
    (hook event m).1 = .stop (some r) → IsFault r

/-- The answer of the hooks is the answer of one of them. -/
theorem runHooks_answer {A : Type} [DecidableEq A] (pass : A) :
    ∀ (hooks : List (Machine W → A × Machine W)) (m : Machine W),
      (runHooks pass hooks m).1 = pass ∨
        ∃ hook ∈ hooks, ∃ m', (hook m').1 = (runHooks pass hooks m).1
  | [], _ => Or.inl rfl
  | hook :: hooks, m => by
    unfold runHooks
    split
    next a m' hrun =>
      split
      next =>
        rcases runHooks_answer pass hooks m' with hpass | ⟨other, hmem, m'', hanswer⟩
        · exact Or.inl hpass
        · exact Or.inr ⟨other, List.mem_cons_of_mem _ hmem, m'', hanswer⟩
      next => exact Or.inr ⟨hook, List.mem_cons_self, m, by rw [hrun]⟩

namespace Env.StopsAreFaults

variable {env : Env W} (h : env.StopsAreFaults)
include h

/-- A trap hook that stops answers with a fault. -/
theorem runTrapHooks {kind : TrapKind} {event : InstructionEvent} {m : Machine W}
    {r : ExecutionResult} (hstop : (env.runTrapHooks kind event m).1 = .stop (some r)) :
    IsFault r := by
  rcases runHooks_answer .continueToCore ((env.trapHooks kind).map fun hook => hook event) m with
    hpass | ⟨hook, hmem, m', hanswer⟩
  · unfold Env.runTrapHooks at hstop
    rw [hpass] at hstop
    cases hstop
  · obtain ⟨f, hf, rfl⟩ := List.mem_map.mp hmem
    exact h.trap kind f hf event m' r (hanswer.trans hstop)

/-- An instruction hook that stops does too. -/
theorem runInstructionHooks {event : InstructionEvent} {m : Machine W} {r : ExecutionResult}
    (hstop : (env.runInstructionHooks event m).1 = .stop (some r)) : IsFault r := by
  rcases runHooks_answer .continueToCore
    ((env.instructionHooks ++ env.codeHooks event.instr.code).map fun hook => hook event) m with
    hpass | ⟨hook, hmem, m', hanswer⟩
  · unfold Env.runInstructionHooks at hstop
    rw [hpass] at hstop
    cases hstop
  · obtain ⟨f, hf, rfl⟩ := List.mem_map.mp hmem
    rcases List.mem_append.mp hf with hf | hf
    · exact h.instruction f hf event m' r (hanswer.trans hstop)
    · exact h.code _ f hf event m' r (hanswer.trans hstop)

end Env.StopsAreFaults

/-! ## What an outcome retires -/

/-- What the result of an attempt says, when `commits` is what it commits. -/
def OutcomeAccounted (commits : Nat) : Outcome → Prop
  | .finish r => r.reason = .none ∧ r.retired = 1 ∧ commits = 1
  | .fault r _ => IsFault r ∧ commits = 0
  | .abort _ => False

/-- A fault carries no retirement. -/
theorem faultAt_isFault {reason : StopReason} (h : reason ≠ .none) (rip : U64)
    (code : Option Code) : IsFault (faultAt reason rip code) := ⟨h, rfl⟩

/-- A stop by a hook is a fault, by its own result or by the default. -/
theorem getD_isFault {r : Option ExecutionResult} {default : ExecutionResult}
    (h : ∀ r', r = some r' → IsFault r') (hdefault : IsFault default) :
    IsFault (r.getD default) := by
  cases r with
  | none => exact hdefault
  | some r' => exact h r' rfl

/-- Nor does the stop of a hook. -/
theorem hookStopResult_isFault (p : Prologue) {r : Option ExecutionResult}
    (h : ∀ r', r = some r' → IsFault r') : IsFault (hookStopResult p r) :=
  getD_isFault h ⟨(by decide : StopReason.unsupportedInstruction ≠ .none), rfl⟩

/-- A run of a handler that stops has raised an error. -/
theorem handler_run_isFault {h : Handler} (hfaults : RaisesFaults h) {ctx : ExecutionContext}
    (hreason : (h.run ctx).1.reason ≠ .none) : IsFault (h.run ctx).1 := by
  unfold Handler.run at hreason ⊢
  cases hrun : h ctx with
  | ok u c =>
    rw [hrun] at hreason
    exact absurd rfl hreason
  | error r c => exact hfaults _ _ _ hrun

section attempts

variable {env : Env W} (hstops : env.StopsAreFaults)
  (hother : ∀ code h, env.otherHandler code = some h → RaisesFaults h)

/-- Every handler that fails fails with a fault. -/
theorem Env.handler_faults {env : Env W}
    (hother : ∀ code h, env.otherHandler code = some h → RaisesFaults h) (code : Code) :
    RaisesFaults (env.handler code) := by
  have hrest (code : Code) : RaisesFaults ((env.otherHandler code).getD unsupported) := by
    refine otherHandler_cases hother ?_ code
    intro c e c' h
    cases h
    exact faultAt_isFault (by decide) _ _
  cases code with
  | stack c => exact c.shape.faults
  | rmw c => exact c.faults
  | string op width => exact stringImpl_faults op width.bytes
  | _ => exact hrest _

include hstops

/-- A decoded invalid opcode. -/
theorem invalidOpcode_accounted {startRip : U64} {entry : DecodedInstruction} {g : Rig W}
    (hcode : entry.instr.code = .invalid) :
    OutcomeAccounted (hookStandsIn env startRip entry g).toNat
      (invalidOpcode env (prologue env entry g.state) g).1 := by
  have hcode' : (prologue env entry g.state).instr.code = .invalid := hcode
  unfold invalidOpcode hookStandsIn
  dsimp only
  rw [if_pos hcode']
  cases haction : (env.runTrapHooks .invalidOpcode (prologue env entry g.state).event g.toMachine).1
    with
  | act => exact ⟨rfl, rfl, rfl⟩
  | stop r =>
    refine ⟨getD_isFault (fun r' hr => ?_) (faultAt_isFault (by decide) _ _), rfl⟩
    rw [hr] at haction
    exact hstops.runTrapHooks haction
  | continueToCore => exact ⟨faultAt_isFault (by decide) _ _, rfl⟩

omit hstops in
/-- What an attempt answers where a hook stands in. -/
theorem afterHandled_outcome (env : Env W) (startRip : U64) (p : Prologue) (g : Rig W) :
    (afterHandled env startRip p g).1 =
      .finish { retired := 1, code := some p.entry.reportedCode } := rfl

/-- A trap hook that ends the attempt stands in for the instruction or
faults. -/
theorem traps_some {startRip : U64} {p : Prologue} {g g' : Rig W} {outcome : Outcome}
    (h : traps env startRip p g = (some outcome, g')) :
    ∃ kind, p.entry.trapKind = some kind ∧
      ((env.runTrapHooks kind p.event g.toMachine).1 = .act ∧
          outcome = .finish { retired := 1, code := some p.entry.reportedCode } ∨
        (∃ r, (env.runTrapHooks kind p.event g.toMachine).1 = .stop r) ∧
          ∃ r, outcome = .fault r false ∧ IsFault r) := by
  unfold traps at h
  split at h
  next => cases h
  next kind hkind =>
    refine ⟨kind, hkind, ?_⟩
    dsimp only at h
    cases haction : (env.runTrapHooks kind p.event g.toMachine).1 with
    | act =>
      rw [haction] at h
      cases h
      exact Or.inl ⟨rfl, afterHandled_outcome _ _ _ _⟩
    | stop r =>
      rw [haction] at h
      cases h
      refine Or.inr ⟨⟨r, rfl⟩, _, rfl, getD_isFault (fun r' hr => ?_) (faultAt_isFault (by decide) _ _)⟩
      rw [hr] at haction
      exact hstops.runTrapHooks haction
    | continueToCore =>
      rw [haction] at h
      cases h

omit hstops in
/-- One that does not lets the instruction continue. -/
theorem traps_none {startRip : U64} {p : Prologue} {g g' : Rig W}
    (h : traps env startRip p g = (none, g')) :
    (p.entry.trapKind = none ∧ g' = g) ∨ ∃ kind, p.entry.trapKind = some kind ∧
      (env.runTrapHooks kind p.event g.toMachine).1 = .continueToCore ∧
        g'.toMachine = (env.runTrapHooks kind p.event g.toMachine).2 := by
  unfold traps at h
  split at h
  next hkind =>
    cases h
    exact Or.inl ⟨hkind, rfl⟩
  next kind hkind =>
    refine Or.inr ⟨kind, hkind, ?_⟩
    dsimp only at h
    cases haction : (env.runTrapHooks kind p.event g.toMachine).1 with
    | act =>
      rw [haction] at h
      cases h
    | stop r =>
      rw [haction] at h
      cases h
    | continueToCore =>
      rw [haction] at h
      cases h
      exact ⟨rfl, rfl⟩

/-- An instruction hook that ends the attempt stands in for the instruction or
faults. -/
theorem instructionHooks_some {startRip : U64} {p : Prologue} {g g' : Rig W} {outcome : Outcome}
    (h : instructionHooks env startRip p g = (some outcome, g')) :
    (env.runInstructionHooks p.event (env.runExecutionHooks g.toMachine)).1 = .act ∧
        outcome = .finish { retired := 1, code := some p.entry.reportedCode } ∨
      (∃ r, (env.runInstructionHooks p.event (env.runExecutionHooks g.toMachine)).1 = .stop r) ∧
        ∃ r, outcome = .fault r false ∧ IsFault r := by
  unfold instructionHooks at h
  dsimp only [Rig.withMachine] at h
  cases haction : (env.runInstructionHooks p.event (env.runExecutionHooks g.toMachine)).1 with
  | act =>
    rw [haction] at h
    cases h
    exact Or.inl ⟨rfl, afterHandled_outcome _ _ _ _⟩
  | stop r =>
    have hfault : IsFault (hookStopResult p r) := by
      -- The reason of a stop may be none; the fault at the instruction then stands in for it.
      refine hookStopResult_isFault p fun r' hr => ?_
      rw [hr] at haction
      exact hstops.runInstructionHooks haction
    rw [haction] at h
    dsimp only at h
    rw [if_neg hfault.1] at h
    cases h
    exact Or.inr ⟨⟨r, rfl⟩, _, rfl, hfault⟩
  | continueToCore =>
    rw [haction] at h
    cases h

omit hstops in
/-- An execute breakpoint ends the attempt by its delivery or faults. -/
theorem executeBreakpoints_some {startRip : U64} {p : Prologue} {quiet : Bool} {g g' : Rig W}
    {outcome : Outcome} (h : executeBreakpoints startRip p quiet g = (some outcome, g')) :
    (∃ r, outcome = .finish r) ∨ ∃ r, outcome = .fault r false ∧ IsFault r := by
  unfold executeBreakpoints at h
  dsimp only at h
  split at h
  next => cases h
  next =>
    split at h
    next hreason =>
      cases h
      exact Or.inr ⟨_, rfl, handler_run_isFault (dispatchInterrupt_faults _ _ _ _) hreason⟩
    next =>
      cases h
      exact Or.inl ⟨_, rfl⟩

omit hstops in
/-- Past the breakpoints it is the hooks that decide. -/
theorem hookStandsIn_eq {startRip : U64} {entry : DecodedInstruction} {g : Rig W}
    (hcode : entry.instr.code ≠ .invalid) (hsimd : entry.simdAllowed = true)
    (hbreak : executeBreakpoints startRip (prologue env entry g.state) (suppressed g.state)
      (g.mapState clearSuppression) = (none, g.mapState clearSuppression)) :
    hookStandsIn env startRip entry g =
      hooksAct env (prologue env entry g.state) (g.mapState clearSuppression).toMachine := by
  have hcode' : (prologue env entry g.state).instr.code ≠ .invalid := hcode
  unfold hookStandsIn
  dsimp only
  rw [if_neg hcode', hsimd, hbreak]
  rfl

omit hstops in
/-- A trap hook acts where there is one for the code. -/
theorem hooksAct_trap {p : Prologue} {m : Machine W} {kind : TrapKind}
    (hkind : p.entry.trapKind = some kind) : hooksAct env p m =
      ((env.runTrapHooks kind p.event m).1 = .act ||
        (env.runTrapHooks kind p.event m).1 = .continueToCore &&
          (env.runInstructionHooks p.event
            (env.runExecutionHooks (env.runTrapHooks kind p.event m).2)).1 = .act : Bool) := by
  unfold hooksAct
  rw [hkind]

omit hstops in
/-- Past the traps it is the instruction hooks. -/
theorem hooksAct_eq {startRip : U64} {p : Prologue} {g g' : Rig W}
    (h : traps env startRip p g = (none, g')) :
    hooksAct env p g.toMachine =
      decide ((env.runInstructionHooks p.event (env.runExecutionHooks g'.toMachine)).1 = .act) := by
  rcases traps_none h with ⟨hkind, rfl⟩ | ⟨kind, hkind, hcontinue, hsame⟩
  · unfold hooksAct
    rw [hkind]
    exact Bool.false_or _
  · rw [hooksAct_trap hkind, hcontinue, hsame]
    exact Bool.false_or _

/-- An attempt that ends before the handler is accounted, unless an execute
breakpoint ends it. -/
theorem short_accounted {startRip : U64} {entry : DecodedInstruction} {g : Rig W}
    (hreach : reachCore env startRip entry g = none)
    (hbreak : ¬FaultsEarly (.decoded entry) → ∀ r g', executeBreakpoints startRip
      (prologue env entry g.state) (suppressed g.state) (g.mapState clearSuppression) ≠
        (some (.finish r), g')) :
    OutcomeAccounted (hookStandsIn env startRip entry g).toNat
      (execute env startRip entry g).1 := by
  have hshort := execute_short hreach
  generalize execute env startRip entry g = o at hshort
  -- One case for each way an attempt ends before the core.
  cases hshort with
  | invalid hcode => exact invalidOpcode_accounted hstops hcode
  | simd hcode hsimd =>
    have hnone : hookStandsIn env startRip entry g = false := by
      have hcode' : (prologue env entry g.state).instr.code ≠ .invalid := hcode
      unfold hookStandsIn
      dsimp only
      rw [if_neg hcode', hsimd]
      rfl
    rw [hnone]
    exact ⟨faultAt_isFault (by decide) _ _, rfl⟩
  | @breakpoint outcome g' hcode hsimd hrun =>
    have hnone : hookStandsIn env startRip entry g = false := by
      have hcode' : (prologue env entry g.state).instr.code ≠ .invalid := hcode
      unfold hookStandsIn
      dsimp only
      rw [if_neg hcode', hsimd, hrun]
      rfl
    rw [hnone]
    rcases executeBreakpoints_some hrun with ⟨r, rfl⟩ | ⟨r, rfl, hfault⟩
    · -- a delivered breakpoint finishes without an instruction: excluded
      refine absurd hrun (hbreak ?_ r g')
      rintro (hinvalid | hdisabled)
      -- Neither of the two faults of `FaultsEarly` came first.
      · exact hcode hinvalid
      · rw [hsimd] at hdisabled
        cases hdisabled
    · exact ⟨hfault, rfl⟩
  | @trap outcome g' hcode hsimd hrun htrap =>
    obtain ⟨kind, hkind, hends⟩ := traps_some hstops htrap
    have hstands := (hookStandsIn_eq hcode hsimd hrun).trans (hooksAct_trap hkind)
    rcases hends with ⟨hact, rfl⟩ | ⟨⟨r', hstop⟩, r, rfl, hfault⟩
    · -- the hook stands in for the instruction, which counts as retired
      rw [hact] at hstands
      rw [hstands]
      exact ⟨rfl, rfl, rfl⟩
    · rw [hstop] at hstands
      rw [hstands]
      exact ⟨hfault, rfl⟩
  | @hook g₂ outcome g' hcode hsimd hrun htrap hhook =>
    have hstands := (hookStandsIn_eq hcode hsimd hrun).trans (hooksAct_eq htrap)
    -- A hook that acts retires the instruction; one that stops leaves a fault.
    rcases instructionHooks_some hstops hhook with ⟨hact, rfl⟩ | ⟨⟨r', hstop⟩, r, rfl, hfault⟩
    · rw [hact] at hstands
      rw [hstands]
      exact ⟨rfl, rfl, rfl⟩
    · rw [hstop] at hstands
      rw [hstands]
      exact ⟨hfault, rfl⟩

omit hstops in
/-- An attempt that comes to the handler has not been stood in for. -/
theorem hookStandsIn_reached {startRip : U64} {entry : DecodedInstruction} {g g₁ : Rig W}
    (hreach : reachCore env startRip entry g = some g₁) :
    hookStandsIn env startRip entry g = false := by
  -- To reach the core every hook in front of it has let the instruction through.
  unfold reachCore at hreach
  dsimp only at hreach
  split at hreach
  next => cases hreach
  next hcode =>
    split at hreach
    next => cases hreach
    next hsimd =>
      rw [Bool.not_eq_true, Bool.not_eq_false'] at hsimd
      split at hreach
      next => cases hreach
      next g₂ hbreak =>
        cases executeBreakpoints_none hbreak
        split at hreach
        next => cases hreach
        next g₃ htrap =>
          refine (hookStandsIn_eq hcode hsimd hbreak).trans ((hooksAct_eq htrap).trans ?_)
          unfold instructionHooks at hreach
          dsimp only [Rig.withMachine] at hreach
          cases haction : (env.runInstructionHooks (prologue env entry g.state).event
              (env.runExecutionHooks g₃.toMachine)).1 with
          | act =>
            rw [haction] at hreach
            cases hreach
          | stop r => rfl
          | continueToCore => rfl

omit hstops in
/-- A handler that fails. -/
theorem core_fails {p : Prologue} {debugSuppressed tfActive : Bool} {g : Rig W}
    (h : ((env.handler p.entry.reportedCode).run (g.context p.instr p.nextRip)).1.reason ≠ .none) :
    (core env p debugSuppressed tfActive g).1 =
      .fault { ((env.handler p.entry.reportedCode).run (g.context p.instr p.nextRip)).1 with
        code := some p.entry.reportedCode } debugSuppressed := by
  rw [core_eq]
  exact congrArg Prod.fst (if_pos h)

include hother

/-- **What an attempt's outcome says of what it commits.** -/
theorem attemptFetched_accounted {startRip : U64} {s : Caches × Rig W}
    (hbreak : ¬env.EndsAtBreakpoint startRip s) (hevent : ¬env.EventFails startRip s) :
    OutcomeAccounted (env.attemptCommits startRip s)
      (env.attemptFetched startRip (env.fetch s).2 s.2).1 := by
  -- An attempt whose handler succeeded commits one instruction; any other is judged by its end.
  cases hexecuted : env.executed startRip s with
  | some x =>
    obtain ⟨g, hexecutes⟩ := Env.executes hexecuted
    have hcommits : env.attemptCommits startRip s = 1 := by
      unfold Env.attemptCommits
      rw [hexecutes.fetched, hexecuted]
      exact congrArg Bool.toNat (Bool.or_true _)
    have hresult : x.result.reason = .none ∧ x.result.retired = 1 := by
      rw [hexecutes.result]
      exact ⟨hexecutes.succeeds, rfl⟩
    have hsame : env.event startRip s = debugEvent x.prologue x.context
        (s.2.state.debugSuppression != 0#8) (singleStepping s.2.state) x.rig.state := by
      unfold Env.event
      rw [hexecuted]
      rfl
    rw [hcommits, hexecutes.attemptFetched, debugExceptions_eq, ← hsame]
    cases he : env.event startRip s with
    | none => exact ⟨hresult.1, hresult.2, rfl⟩
    | some e =>
      by_cases hdeliver : (e.deliver x.prologue x.context x.rig).1.reason = .none
      · dsimp only
        rw [if_neg (not_not_intro hdeliver)]
        exact ⟨hresult.1, hresult.2, rfl⟩
      · -- an event that cannot be delivered forgets the instruction: excluded
        exact absurd ⟨x, e, hexecuted, he, hdeliver⟩ hevent
  | none =>
    unfold Env.attemptCommits
    rw [hexecuted]
    cases hfetch : (env.fetch s).2 with
    | pageFault => exact ⟨faultAt_isFault (by decide) _ _, rfl⟩
    | decodeError => exact ⟨faultAt_isFault (by decide) _ _, rfl⟩
    | decoded entry =>
      show OutcomeAccounted (hookStandsIn env startRip entry s.2 || false).toNat
        (execute env startRip entry s.2).1
      rw [Bool.or_false]
      -- Without a success the attempt ends before the core, or the handler raises a fault in it.
      cases hreach : reachCore env startRip entry s.2 with
      | none =>
        exact short_accounted hstops hreach fun hlate r g' hrun =>
          hbreak ⟨entry, r, g', hfetch, hlate, hrun⟩
      | some g₁ =>
        unfold Env.executed at hexecuted
        rw [hfetch] at hexecuted
        dsimp only at hexecuted
        rw [hreach] at hexecuted
        dsimp only at hexecuted
        rw [hookStandsIn_reached hreach, execute_core hreach]
        split at hexecuted
        next hfails =>
          rw [core_fails hfails]
          exact ⟨handler_run_isFault (Env.handler_faults hother _) hfails, rfl⟩
        next => cases hexecuted

end attempts

/-! ## Steps -/

/-- What a step returns, when `commits` is what it commits. -/
def ResultAccounted (commits : Nat) (r : ExecutionResult) : Prop :=
  r.retired = commits ∧ commits = if r.reason = .none then 1 else 0

/-- An attempt answers what its outcome is. -/
theorem attempt_accounted {env : Env W} {startRip : U64} {s : Caches × Rig W}
    (h : OutcomeAccounted (env.attemptCommits startRip s)
      (env.attemptFetched startRip (env.fetch s).2 s.2).1)
    {out : ExecutionResult × Caches × Rig W} (hdone : env.attempt startRip s = .done out) :
    ResultAccounted (env.attemptCommits startRip s) out.1 := by
  unfold Env.attempt at hdone
  dsimp only at hdone
  rcases hrun : env.attemptFetched startRip (env.fetch s).2 s.2 with ⟨outcome, g⟩
  rw [hrun] at h hdone
  cases outcome with
  | finish r =>
    cases hdone
    exact ⟨h.2.1.trans h.2.2.symm, h.2.2.trans (if_pos h.1).symm⟩
  | abort r => exact h.elim
  | fault r clear =>
    dsimp only [Env.conclude] at hdone
    split at hdone
    next => cases hdone
    next =>
      cases hdone
      exact ⟨h.1.2.trans h.2.symm, h.2.trans (if_neg h.1.1).symm⟩

/-- **A step whose attempts take none of the two branches is accounted.** -/
theorem Env.step_accounted {env : Env W} (hstops : env.StopsAreFaults)
    (hother : ∀ code h, env.otherHandler code = some h → RaisesFaults h) {ex : Executor}
    {m : Machine W} (hstop : ex.stopRequested = false) (h : env.Accounted ex m) :
    ResultAccounted (env.stepCommits ex m) (env.step ex m).1 := by
  -- The attempt and the count of its commits retry together.
  have hattempt (n : Nat) (s s' : Caches × Rig W)
      (hs : s' = s ∧ env.AttemptsAccounted (env.enter ex m).state.rip (n + 1) s) :
      AnswersAgree (fun out commits => ResultAccounted commits out.1)
        (fun s s' => s' = s ∧ env.AttemptsAccounted (env.enter ex m).state.rip n s)
        (env.attempt (env.enter ex m).state.rip s)
        (match env.attempt (env.enter ex m).state.rip s' with
        | .done _ => .done (env.attemptCommits (env.enter ex m).state.rip s')
        | .again t => .again t) := by
    obtain ⟨rfl, hbranches⟩ := hs
    cases hs : env.attempt (env.enter ex m).state.rip s' with
    | done out =>
      obtain ⟨hbreak, hevent⟩ := hbranches 0 s' (by omega) (Reaches.refl s')
      exact attempt_accounted (attemptFetched_accounted hstops hother hbreak hevent) hs
    | again t =>
      exact ⟨rfl, fun k u hk hreach => hbranches (k + 1) u (by omega) (hreach.again hs)⟩
  have hexhausted (s : Caches × Rig W) : ResultAccounted 0 (env.exhausted s).1 := ⟨rfl, rfl⟩
  unfold Env.stepCommits
  rw [Env.step_running hstop, hstop, if_neg Bool.false_ne_true]
  exact retry_sim (Q := fun (out : ExecutionResult × Caches × Rig W) commits =>
      ResultAccounted commits out.1)
    (R := fun n s s' => s' = s ∧ env.AttemptsAccounted (env.enter ex m).state.rip n s) hattempt
    (fun s _ _ => hexhausted s) kMaxFaultRetries
    (ex.caches, env.enter ex m) (env.start ex m) ⟨rfl, h⟩

/-! ## Runs -/

namespace RunEnv

variable {env : RunEnv W}

/-- Executor and machine at the beginning of each step of a run. -/
def begun (env : RunEnv W) : Nat → Executor × Machine W → List (Executor × Machine W)
  | 0, _ => []
  | n + 1, s =>
    let t := env.collect s
    if t.1.stopRequested then []
    else t :: if (env.step t.1 t.2).1.reason ≠ .none then [] else env.begun n (env.step t.1 t.2).2

/-- The retired counts of the steps of a run. -/
def stepsRetired (env : RunEnv W) (n : Nat) (s : Executor × Machine W) : Nat :=
  ((env.begun n s).map fun t => (env.step t.1 t.2).1.retired).sum

/-- The instructions a run commits. -/
def committed (env : RunEnv W) (n : Nat) (s : Executor × Machine W) : Nat :=
  ((env.begun n s).map fun t => env.stepCommits t.1 t.2).sum

/-- A pass of a loop at index `i`, by the step it makes. -/
theorem loop_accounted (hstops : env.StopsAreFaults)
    (hother : ∀ code h, env.otherHandler code = some h → RaisesFaults h) (limit : Nat) :
    ∀ (n i : Nat) (s : Executor × Machine W), i + n = limit →
      (∀ t ∈ env.begun n s, env.Accounted t.1 t.2) →
      (retry env.pass (fun t => env.report { reason := .executionLimit, retired := limit } t.2) n
          (i, s)).1.retired = i + env.stepsRetired n s ∧
        env.stepsRetired n s = env.committed n s
  | 0, i, s, hi, _ => ⟨hi.symm, rfl⟩
  | n + 1, i, s, hi, h => by
    -- a pass stops on request, stops with the step, or goes on
    have hpass : env.pass (i, s) =
        if (env.collect s).1.stopRequested then
          .done (env.report { reason := .stopRequested, retired := i } (env.collect s))
        else if (env.step (env.collect s).1 (env.collect s).2).1.reason ≠ .none then
          .done ({ (env.step (env.collect s).1 (env.collect s).2).1 with
            retired := (env.step (env.collect s).1 (env.collect s).2).1.retired + i },
            (env.step (env.collect s).1 (env.collect s).2).2)
        else .again (i + 1, (env.step (env.collect s).1 (env.collect s).2).2) := rfl
    unfold stepsRetired committed begun
    unfold begun at h
    dsimp only at h ⊢
    generalize env.collect s = t at h hpass
    cases hstop : t.1.stopRequested with
    | true =>
      rw [hstop, if_pos rfl] at hpass
      rw [retry_done hpass, if_pos rfl]
      exact ⟨rfl, rfl⟩
    | false =>
      rw [hstop, if_neg Bool.false_ne_true] at h hpass
      rw [if_neg Bool.false_ne_true]
      have hstep := Env.step_accounted hstops hother hstop (h t List.mem_cons_self)
      by_cases hreason : (env.step t.1 t.2).1.reason = .none
      · rw [if_neg (not_not_intro hreason)] at h hpass
        rw [if_neg (not_not_intro hreason), retry_again hpass, List.map_cons, List.map_cons,
          List.sum_cons, List.sum_cons]
        obtain ⟨hrest, hsum⟩ := loop_accounted hstops hother limit n (i + 1) (env.step t.1 t.2).2
          (by omega) fun u hu => h u (List.mem_cons_of_mem _ hu)
        have hone := hstep.2.trans (if_pos hreason)
        have hretired := hstep.1
        unfold stepsRetired committed at hsum
        unfold stepsRetired at hrest
        exact ⟨by rw [hrest, hretired, hone]; omega, by rw [hretired, hsum]⟩
      · rw [if_pos hreason] at hpass
        rw [if_pos hreason, retry_done hpass, List.map_cons, List.map_cons, List.sum_cons,
          List.sum_cons]
        exact ⟨Nat.add_comm _ _, by rw [hstep.1]; rfl⟩

/-- **Composition and accounting of runs.** When the steps of a run take
neither of the two branches:

* if it ends at its limit, then a run of `k` behind it makes of the machine
  what one run of `n + k` makes, and the retired counts add up;
* its retired count is the sum of the counts of its steps;
* and that is the number of instructions its steps have committed. -/
theorem run_accounting (env : RunEnv W) (hquiet : env.QuietReports) (hstops : env.StopsAreFaults)
    (hother : ∀ code h, env.otherHandler code = some h → RaisesFaults h) (n : Nat)
    (s : Executor × Machine W) (hsteps : ∀ t ∈ env.begun n s, env.Accounted t.1 t.2) :
    (∀ t, env.EndsAtLimit n s t → ∀ k,
      (env.run (n + k) s).2.2 = (env.run k (env.run n s).2).2.2 ∧
        (env.run (n + k) s).1.retired =
          (env.run n s).1.retired + (env.run k (env.run n s).2).1.retired) ∧
    (env.run n s).1.retired = env.stepsRetired n s ∧
    env.stepsRetired n s = env.committed n s := by
  obtain ⟨hretired, hcommitted⟩ := loop_accounted hstops hother n n 0 s (Nat.zero_add n) hsteps
  rw [Nat.zero_add] at hretired
  refine ⟨fun t ht k => ?_, hretired, hcommitted⟩
  obtain ⟨-, hmachine, hresult⟩ := hquiet.run_add ht k
  exact ⟨hmachine, by rw [hresult]⟩

end RunEnv

/-! ## Three short runs -/

/-- Steps whose first attempt is their last, with no breakpoint enabled and no
event, are accounted. -/
theorem Env.accounted_of_quiet {env : Env W} {ex : Executor} {m : Machine W}
    {out : ExecutionResult × Caches × Rig W}
    (hdone : env.attempt (env.enter ex m).state.rip (env.start ex m) = .done out)
    (hdisabled : hasEnabledExecuteBreakpoints (env.start ex m).2.state = false)
    (hevent : env.event (env.enter ex m).state.rip (env.start ex m) = none) :
    env.Accounted ex m := by
  rintro k t - hreach
  cases hreach with
  | again hagain _ =>
    rw [hdone] at hagain
    cases hagain
  | refl _ =>
    constructor
    · rintro ⟨entry, r, g, -, -, hrun⟩
      have hcheck : (prologue env entry (env.start ex m).2.state).checkExecuteBreakpoints = false :=
        hdisabled
      unfold executeBreakpoints at hrun
      dsimp only at hrun
      rw [hcheck, if_pos (by simp)] at hrun
      cases hrun
    · rintro ⟨x, e, -, he, -⟩
      rw [hevent] at he
      cases he

/-- `PUSH AX` runs in this environment, as it does in `resumeEnv`. -/
def runEnv : RunEnv Unit := { toEnv := resumeEnv }

/-- The instance reports quietly. -/
theorem runEnv_quietReports : runEnv.QuietReports := fun _ hmem => absurd hmem List.not_mem_nil

/-- And has no hook that stops. -/
theorem runEnv_stopsAreFaults : runEnv.StopsAreFaults where
  trap _ _ hmem := absurd hmem List.not_mem_nil
  instruction _ hmem := absurd hmem List.not_mem_nil
  code _ _ hmem := absurd hmem List.not_mem_nil

/-- The machine of `resumeMachine` with its stack, these flags, this `DR7` and
this limit of the interrupt table. -/
def runMachine (rflags dr7 : U64) (idtLimit : BitVec 16) : Executor × Machine Unit :=
  let m := mapStackPage resumeMachine
  ({}, { m with state := { m.state with
    rflags := rflags
    dr := fun i => if i = 7 then dr7 else m.state.dr i
    idtr := ⟨0#64, idtLimit⟩ } })

set_option maxRecDepth 20000 in
/-- A run of one `PUSH`. -/
theorem RunEnv.run_accounting_push :
    (runEnv.run 1 (runMachine 0x202#64 0#64 0x3FF#16)).1.retired =
      runEnv.stepsRetired 1 (runMachine 0x202#64 0#64 0x3FF#16) := by
  refine (runEnv.run_accounting runEnv_quietReports runEnv_stopsAreFaults
    (fun code h hnone => by cases hnone) 1 (runMachine 0x202#64 0#64 0x3FF#16) ?_).2.1
  intro t ht
  have hbegun : runEnv.begun 1 (runMachine 0x202#64 0#64 0x3FF#16) =
      [runEnv.collect (runMachine 0x202#64 0#64 0x3FF#16)] := rfl
  rw [hbegun, List.mem_singleton] at ht
  subst ht
  exact Env.accounted_of_quiet rfl rfl rfl

set_option maxRecDepth 20000 in
/-- The run counts an execute breakpoint that its step does not count, and
does not count an instruction whose single step cannot be delivered. -/
theorem RunEnv.run_miscounts :
    ((runEnv.run 1 (runMachine 0x202#64 1#64 0x3FF#16)).1.retired = 1 ∧
      runEnv.stepsRetired 1 (runMachine 0x202#64 1#64 0x3FF#16) = 0 ∧
      runEnv.committed 1 (runMachine 0x202#64 1#64 0x3FF#16) = 0) ∧
    (runEnv.run 1 (runMachine 0x302#64 0#64 0#16)).1.retired = 0 ∧
      runEnv.committed 1 (runMachine 0x302#64 0#64 0#16) = 1 := by
  decide +kernel

end Seven
