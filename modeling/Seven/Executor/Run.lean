import Seven.Executor.Frames

/-!
# Runs

`Executor::run` makes steps until one ends with a stop, a stop is requested
or the limit is reached. A stop request is made by host code, at any time;
the executor looks at it between the steps only, so the model collects the
requests there (`RunEnv.collect`).

Two runs one after the other are one run: the first reports its limit, which
counts in the records and is told to the stop hooks, but no step depends on
the records (`Env.step_records`). `RunEnv.run_add` is the composition.
-/

namespace Seven

open Seven.Lib

variable {W : Type}

/-! ## The loop -/

/-- What a run consults besides. -/
structure RunEnv (W : Type) extends Env W where
  /-- Take the stop request out of the world, if host code has made one. -/
  takeStop : W → Bool × W := fun w => (false, w)

namespace RunEnv

variable (env : RunEnv W)

/-- The stop flag as the executor finds it. -/
def collect (s : Executor × Machine W) : Executor × Machine W :=
  let (stop, world) := env.takeStop s.2.world
  ({ s.1 with stopRequested := s.1.stopRequested || stop }, { s.2 with world := world })

/-- The end of a run that the run itself makes. -/
def report (r : ExecutionResult) (s : Executor × Machine W) :
    ExecutionResult × Executor × Machine W :=
  let (r, g) := env.reportStop r { s.2 with log := s.1.log }
  (r, { s.1 with log := g.log }, g.toMachine)

/-- One pass of the loop, with its index. -/
def pass (s : Nat × Executor × Machine W) :
    Answer (ExecutionResult × Executor × Machine W) (Nat × Executor × Machine W) :=
  let (i, ex, m) := s
  let (ex, m) := env.collect (ex, m)
  if ex.stopRequested then .done (env.report { reason := .stopRequested, retired := i } (ex, m))
  else
    let (last, ex, m) := env.step ex m
    if last.reason ≠ .none then .done ({ last with retired := last.retired + i }, ex, m)
    else .again (i + 1, ex, m)

/-- `Executor::run`. -/
def run (maxInstructions : Nat) (s : Executor × Machine W) :
    ExecutionResult × Executor × Machine W :=
  retry env.pass (fun t => env.report { reason := .executionLimit, retired := maxInstructions } t.2)
    maxInstructions (0, s)

/-- The run of `n` ends at its limit, and `t` is what its steps have made. -/
def EndsAtLimit (n : Nat) (s t : Executor × Machine W) : Prop :=
  Reaches env.pass n (0, s) (n, t)

end RunEnv

/-! ## Steps and the records -/

/-- Two runs of a phase that differ in the records only. -/
structure SameRun {α : Type} (x y : α × Rig W) : Prop where
  answer : y.1 = x.1
  machine : y.2.toMachine = x.2.toMachine

/-- The records do not matter for the phase. -/
def Unrecorded {α : Type} (f : Rig W → α × Rig W) : Prop :=
  ∀ m l l', SameRun (f ⟨m, l⟩) (f ⟨m, l'⟩)

/-- Equal machines are answered alike. -/
theorem Unrecorded.same {α : Type} {f : Rig W → α × Rig W} (h : Unrecorded f) {g g' : Rig W}
    (hg : g'.toMachine = g.toMachine) : SameRun (f g) (f g') := by
  rcases g with ⟨m, l⟩
  rcases g' with ⟨m₁, l'⟩
  have hm : m₁ = m := hg
  subst hm
  exact h m₁ l l'

section phases

variable (env : Env W) (startRip : U64)

/-- A phase and what follows it. -/
theorem followedBy_unrecorded {phase : Phase W} {next : Rig W → Outcome × Rig W}
    (hphase : Unrecorded phase) (hnext : Unrecorded next) :
    Unrecorded (Phase.followedBy phase next) := by
  intro m l l'
  have hfirst := hphase m l l'
  unfold Phase.followedBy
  rcases hx : phase ⟨m, l⟩ with ⟨o, g⟩
  rcases hy : phase ⟨m, l'⟩ with ⟨o', g'⟩
  rw [hx, hy] at hfirst
  have ho : o' = o := hfirst.answer
  subst ho
  cases o' with
  | some outcome => exact ⟨rfl, hfirst.machine⟩
  | none => exact hnext.same hfirst.machine

/-- The end of a handled instruction. -/
theorem afterHandled_unrecorded (p : Prologue) : Unrecorded (afterHandled env startRip p) := by
  intro m l l'
  unfold afterHandled
  cases env.collectCodeStats <;> exact ⟨rfl, rfl⟩

/-- The invalid opcode. -/
theorem invalidOpcode_unrecorded (p : Prologue) : Unrecorded (invalidOpcode env p) := by
  intro m l l'
  unfold invalidOpcode
  rcases env.runTrapHooks .invalidOpcode p.event m with ⟨action, m₁⟩
  cases action with
  | act => cases env.collectCodeStats <;> exact ⟨rfl, rfl⟩
  | stop r => exact ⟨rfl, rfl⟩
  | continueToCore => exact ⟨rfl, rfl⟩

/-- The execute breakpoints. -/
theorem executeBreakpoints_unrecorded (p : Prologue) (quiet : Bool) :
    Unrecorded (executeBreakpoints (W := W) startRip p quiet) := by
  intro m l l'
  rw [executeBreakpoints_eq, executeBreakpoints_eq]
  have hsame : breakpointRun startRip p quiet (⟨m, l'⟩ : Rig W) =
      breakpointRun startRip p quiet (⟨m, l⟩ : Rig W) := rfl
  rw [hsame]
  cases breakpointRun startRip p quiet (⟨m, l⟩ : Rig W) with
  | none => exact ⟨rfl, rfl⟩
  | some run =>
    dsimp only
    split <;> exact ⟨rfl, rfl⟩

/-- The trap hooks. -/
theorem traps_unrecorded (p : Prologue) : Unrecorded (traps env startRip p) := by
  intro m l l'
  unfold traps
  cases p.entry.trapKind with
  | none => exact ⟨rfl, rfl⟩
  | some kind =>
    dsimp only
    rcases env.runTrapHooks kind p.event m with ⟨action, m₁⟩
    cases action with
    | act =>
      have hafter := afterHandled_unrecorded env startRip p m₁ l l'
      exact ⟨congrArg some hafter.answer, hafter.machine⟩
    | stop r => exact ⟨rfl, rfl⟩
    | continueToCore => exact ⟨rfl, rfl⟩

/-- The instruction hooks. -/
theorem instructionHooks_unrecorded (p : Prologue) :
    Unrecorded (instructionHooks env startRip p) := by
  intro m l l'
  unfold instructionHooks
  dsimp only [Rig.withMachine]
  rcases env.runInstructionHooks p.event (env.runExecutionHooks m) with ⟨action, m₁⟩
  cases action with
  | act =>
    have hafter := afterHandled_unrecorded env startRip p m₁ l l'
    exact ⟨congrArg some hafter.answer, hafter.machine⟩
  | stop r => exact ⟨rfl, rfl⟩
  | continueToCore => exact ⟨rfl, rfl⟩

/-- The debug exceptions. -/
theorem debugExceptions_unrecorded (p : Prologue) (ctx : ExecutionContext)
    (debugSuppressed tfActive : Bool) (r : ExecutionResult) :
    Unrecorded (debugExceptions (W := W) p ctx debugSuppressed tfActive r) := by
  intro m l l'
  rw [debugExceptions_eq, debugExceptions_eq]
  dsimp only
  cases debugEvent p ctx debugSuppressed tfActive m.state with
  | none => exact ⟨rfl, rfl⟩
  | some e => exact ⟨rfl, rfl⟩

/-- The core. -/
theorem core_unrecorded (p : Prologue) (debugSuppressed tfActive : Bool) :
    Unrecorded (core env p debugSuppressed tfActive) := by
  intro m l l'
  obtain ⟨ctx, hctx⟩ : ∃ ctx, ctx = (⟨m, l⟩ : Rig W).context p.instr p.nextRip := ⟨_, rfl⟩
  have hcore (l : Log) : core env p debugSuppressed tfActive ⟨m, l⟩ =
      let run := (env.handler p.entry.reportedCode).run ctx
      let r : ExecutionResult := { run.1 with code := some p.entry.reportedCode }
      if r.reason ≠ .none then (.fault r debugSuppressed, (⟨m, l⟩ : Rig W).fromContext run.2)
      else
        debugExceptions p run.2 debugSuppressed tfActive { r with retired := 1 }
          (coreRig env p run.2 ⟨m, l⟩) := by
    rw [hctx, core_eq]
    rfl
  rw [hcore l, hcore l']
  dsimp only
  split
  next => exact ⟨rfl, rfl⟩
  next =>
    refine (debugExceptions_unrecorded p _ debugSuppressed tfActive _).same ?_
    unfold coreRig
    cases env.collectCodeStats <;> rfl

/-- The attempt on a decoded instruction. -/
theorem execute_unrecorded (entry : DecodedInstruction) :
    Unrecorded (execute env startRip entry) := by
  intro m l l'
  unfold execute
  dsimp only
  split
  next => exact invalidOpcode_unrecorded env _ m l l'
  next =>
    split
    next => exact ⟨rfl, rfl⟩
    next =>
      exact followedBy_unrecorded (executeBreakpoints_unrecorded startRip _ _)
        (followedBy_unrecorded (traps_unrecorded env startRip _)
          (followedBy_unrecorded (instructionHooks_unrecorded env startRip _)
            (core_unrecorded env _ _ _))) _ _ _

/-! ## Attempts and steps without the records -/

/-- The same caches and the same machine. -/
def SameStart (s s' : Caches × Rig W) : Prop := s'.1 = s.1 ∧ s'.2.toMachine = s.2.toMachine

/-- The same result besides. -/
def SameEnd (x y : ExecutionResult × Caches × Rig W) : Prop := y.1 = x.1 ∧ SameStart x.2 y.2

/-- The stop reported. -/
theorem reportStop_unrecorded (r : ExecutionResult) : Unrecorded (env.reportStop r) :=
  fun _ _ _ => ⟨rfl, rfl⟩

/-- The stop of a violation. -/
theorem stopWith_unrecorded (r : ExecutionResult) : Unrecorded (env.stopWith startRip r) :=
  fun _ _ _ => ⟨rfl, rfl⟩

/-- The fault hooks. -/
theorem tryRecoverFault_unrecorded (r : ExecutionResult) :
    Unrecorded (env.tryRecoverFault startRip r) := by
  intro m l l'
  unfold Env.tryRecoverFault
  dsimp only
  rcases env.runFaultHooks ⟨r, startRip, faultAddressOf r m.state.rip⟩ m with ⟨action, m₁⟩
  cases action <;> exact ⟨rfl, rfl⟩

/-- What follows the outcome. -/
theorem conclude_unrecorded {o o' : Outcome × Rig W} (h : SameRun o o') :
    AnswersAgree SameRun (fun g g' => g'.toMachine = g.toMachine) (env.conclude startRip o)
      (env.conclude startRip o') := by
  rcases o with ⟨outcome, g⟩
  rcases o' with ⟨outcome', g'⟩
  have houtcome : outcome' = outcome := h.answer
  subst houtcome
  -- A recovered fault and a stop change the machine, never by what the log holds.
  cases outcome' with
  | finish r => exact ⟨rfl, h.machine⟩
  | abort r => exact (stopWith_unrecorded env startRip r).same h.machine
  | fault r clear =>
    have hrecover := (tryRecoverFault_unrecorded env startRip r).same h.machine
    dsimp only [Env.conclude]
    rcases hx : env.tryRecoverFault startRip r g with ⟨b, g₁⟩
    rcases hy : env.tryRecoverFault startRip r g' with ⟨b', g₁'⟩
    rw [hx, hy] at hrecover
    have hb : b' = b := hrecover.answer
    have hm : g₁'.toMachine = g₁.toMachine := hrecover.machine
    subst hb
    cases b' with
    | true => exact hm
    | false =>
      refine (stopWith_unrecorded env startRip r).same ?_
      cases clear with
      | false => exact hm
      | true =>
        show Machine.mk (clearPending g₁'.state) g₁'.memory g₁'.world = _
        rw [hm]
        rfl

/-- Step: one attempt. -/
theorem attempt_unrecorded {s s' : Caches × Rig W} (h : SameStart s s') :
    AnswersAgree SameEnd SameStart (env.attempt startRip s) (env.attempt startRip s') := by
  obtain ⟨hcaches, hm⟩ := h
  have hfetch : env.fetch s' = env.fetch s := by
    unfold Env.fetch
    rw [hcaches, hm]
  have hrun : SameRun (env.attemptFetched startRip (env.fetch s).2 s.2)
      -- The fetch and the execution read the machine; what is recorded reads nothing back.
      (env.attemptFetched startRip (env.fetch s).2 s'.2) := by
    have hunrecorded : Unrecorded (env.attemptFetched startRip (env.fetch s).2) := by
      unfold Env.attemptFetched
      cases (env.fetch s).2 with
      | pageFault => exact fun _ _ _ => ⟨rfl, rfl⟩
      | decodeError => exact fun _ _ _ => ⟨rfl, rfl⟩
      | decoded entry => exact execute_unrecorded env startRip entry
    exact hunrecorded.same hm
  have hconclude := conclude_unrecorded env startRip hrun
  unfold Env.attempt
  dsimp only
  rw [hfetch]
  generalize env.conclude startRip (env.attemptFetched startRip (env.fetch s).2 s.2) = a at hconclude
  generalize env.conclude startRip (env.attemptFetched startRip (env.fetch s).2 s'.2) = a'
    at hconclude
  cases a with
  | done r =>
    cases a' with
    | done r' => exact ⟨hconclude.answer, rfl, hconclude.machine⟩
    | again g' => exact hconclude.elim
  | again g =>
    cases a' with
    | done r' => exact hconclude.elim
    | again g' => exact ⟨rfl, hconclude⟩

/-- Run: all attempts of a step. -/
theorem attempts_unrecorded (n : Nat) {s s' : Caches × Rig W} (h : SameStart s s') :
    SameEnd (env.attempts startRip n s) (env.attempts startRip n s') := by
  have hexhausted (s s' : Caches × Rig W) (h : SameStart s s') :
      SameEnd (env.exhausted s) (env.exhausted s') :=
    ⟨rfl, h.1, ((reportStop_unrecorded env { reason := .executionLimit }).same h.2).machine⟩
  exact retry_sim (R := fun _ => SameStart) (fun _ _ _ h => attempt_unrecorded env startRip h)
    hexhausted n s s' h

end phases

/-- The same executor and machine, but for the records. -/
structure SameButRecords (s s' : Executor × Machine W) : Prop where
  caches : s'.1.caches = s.1.caches
  stopRequested : s'.1.stopRequested = s.1.stopRequested
  machine : s'.2 = s.2

/-- The context imported and exported. -/
theorem syncContext_unrecorded (callback : Option (CpuState → W → CpuState × W)) {g g' : Rig W}
    (h : g'.toMachine = g.toMachine) :
    (syncContext callback g').toMachine = (syncContext callback g).toMachine := by
  rcases g with ⟨m, l⟩
  rcases g' with ⟨m₁, l'⟩
  have hm : m₁ = m := h
  subst hm
  cases callback <;> rfl

/-- The entry of a step. -/
theorem enter_unrecorded (env : Env W) (ex ex' : Executor) (m : Machine W) :
    (env.enter ex' m).toMachine = (env.enter ex m).toMachine := by
  have hread : (syncContext env.contextRead { m with log := env.openLog ex'.log }).toMachine =
      (syncContext env.contextRead { m with log := env.openLog ex.log }).toMachine :=
    syncContext_unrecorded env.contextRead rfl
  unfold Env.enter
  show Machine.mk (enterStep _) _ _ = Machine.mk (enterStep _) _ _
  rw [hread]

/-- **No step depends on the records.** -/
theorem Env.step_records (env : Env W) {s s' : Executor × Machine W} (h : SameButRecords s s') :
    (env.step s'.1 s'.2).1 = (env.step s.1 s.2).1 ∧
      SameButRecords (env.step s.1 s.2).2 (env.step s'.1 s'.2).2 := by
  rcases s with ⟨ex, m⟩
  rcases s' with ⟨ex', m₁⟩
  have hm : m₁ = m := h.machine
  -- A stop request answers at once; otherwise the attempts run alike on the two machines.
  subst hm
  cases hrequested : ex.stopRequested with
  | true =>
    have hrequested' : ex'.stopRequested = true := h.stopRequested.trans hrequested
    dsimp only
    unfold Env.step
    rw [if_pos hrequested, if_pos hrequested']
    exact ⟨rfl, h.caches, h.stopRequested, rfl⟩
  | false =>
    have hrequested' : ex'.stopRequested = false := h.stopRequested.trans hrequested
    have henter := enter_unrecorded env ex ex' m₁
    have hattempts := @attempts_unrecorded W env (env.enter ex m₁).state.rip kMaxFaultRetries
      (ex.caches, env.enter ex m₁) (ex'.caches, env.enter ex' m₁) ⟨h.caches, henter⟩
    dsimp only
    rw [Env.step_running hrequested, Env.step_running hrequested',
      show (env.enter ex' m₁).state.rip = (env.enter ex m₁).state.rip by rw [henter]]
    generalize env.attempts (env.enter ex m₁).state.rip kMaxFaultRetries
      (ex.caches, env.enter ex m₁) = x at hattempts
    generalize env.attempts (env.enter ex m₁).state.rip kMaxFaultRetries
      (ex'.caches, env.enter ex' m₁) = y at hattempts
    exact ⟨hattempts.1, hattempts.2.1, h.stopRequested,
      syncContext_unrecorded env.contextWrite hattempts.2.2⟩

/-! ## Runs in a row -/

namespace RunEnv

variable {env : RunEnv W}

/-- The collection of a pass. -/
theorem collect_records {s s' : Executor × Machine W} (h : SameButRecords s s') :
    SameButRecords (env.collect s) (env.collect s') := by
  unfold collect
  dsimp only
  rw [h.machine, h.stopRequested]
  exact ⟨h.caches, rfl, rfl⟩

/-- The stop hooks do nothing to the machine when a run reports its end. -/
def QuietReports (env : RunEnv W) : Prop :=
  ∀ hook ∈ env.stopHooks, ∀ event m,
    event.result.reason = .executionLimit ∨ event.result.reason = .stopRequested → hook event m = m

/-- Callbacks that do nothing. -/
theorem foldl_quiet {A B : Type} {f : A → B → A} {a : A} :
    ∀ {bs : List B}, (∀ b ∈ bs, f a b = a) → bs.foldl f a = a
  | [], _ => rfl
  | b :: bs, h => by
    rw [List.foldl_cons, h b List.mem_cons_self]
    exact foldl_quiet fun b hb => h b (List.mem_cons_of_mem _ hb)

/-- The report of a run's end leaves the machine. -/
theorem QuietReports.report_machine (hquiet : env.QuietReports) {r : ExecutionResult}
    (hr : r.reason = .executionLimit ∨ r.reason = .stopRequested) (s : Executor × Machine W) :
    (env.report r s).2.2 = s.2 :=
  foldl_quiet fun hook hmem => hquiet hook hmem ⟨r, s.2.state.rip⟩ s.2 hr

/-- The same end, but for the records and `n` retired instructions. -/
def SameEndPlus (n : Nat) (x y : ExecutionResult × Executor × Machine W) : Prop :=
  y.1 = { x.1 with retired := x.1.retired + n } ∧ SameButRecords x.2 y.2

/-- Two loops that differ in their index. -/
theorem QuietReports.pass_shift (hquiet : env.QuietReports) {n : Nat}
    {s t : Nat × Executor × Machine W} (hi : t.1 = s.1 + n) (h : SameButRecords s.2 t.2) :
    AnswersAgree (SameEndPlus n) (fun s t => t.1 = s.1 + n ∧ SameButRecords s.2 t.2)
      (env.pass s) (env.pass t) := by
  have hcollect := @collect_records W env s.2 t.2 h
  have hstep := env.step_records hcollect
  rcases s with ⟨i, s⟩
  rcases t with ⟨j, t⟩
  dsimp only at hi h hcollect hstep
  subst hi
  unfold pass
  dsimp only
  change AnswersAgree _ _ (if (env.collect s).1.stopRequested = true then _ else _)
    (if (env.collect t).1.stopRequested = true then _ else _)
  rw [hcollect.stopRequested]
  split
  -- A stop, a result with a reason and another pass each report the index, which is `n` further.
  next =>
    have hreport := hquiet.report_machine (r := { reason := .stopRequested, retired := i })
      (Or.inr rfl) (env.collect s)
    have hreport' := hquiet.report_machine (r := { reason := .stopRequested, retired := i + n })
      (Or.inr rfl) (env.collect t)
    exact ⟨rfl, hcollect.caches, hcollect.stopRequested,
      hreport'.trans (hcollect.machine.trans hreport.symm)⟩
  next =>
    change AnswersAgree _ _ (if (env.step (env.collect s).1 (env.collect s).2).1.reason ≠ .none
      then _ else _) (if (env.step (env.collect t).1 (env.collect t).2).1.reason ≠ .none
      then _ else _)
    rw [hstep.1]
    split
    next =>
      refine ⟨?_, hstep.2⟩
      rw [Nat.add_assoc]
    next =>
      refine ⟨?_, hstep.2⟩
      show i + n + 1 = i + 1 + n
      omega

/-- **Runs in a row.** A run that ends at its limit, and a run of `k` behind
it, leave the machine that one run of both lengths leaves, for the same
reason, and the retired counts add up. -/
theorem QuietReports.run_add (hquiet : env.QuietReports) {n : Nat} {s t : Executor × Machine W}
    (h : env.EndsAtLimit n s t) (k : Nat) :
    (env.run n s).1 = { reason := .executionLimit, retired := n } ∧
      (env.run (n + k) s).2.2 = (env.run k (env.run n s).2).2.2 ∧
      (env.run (n + k) s).1 = { (env.run k (env.run n s).2).1 with
        retired := (env.run n s).1.retired + (env.run k (env.run n s).2).1.retired } := by
  -- The first run ends where its `n` passes lead, and the report that ends it changes no machine.
  have hfirst : env.run n s = env.report { reason := .executionLimit, retired := n } t := by
    have hretry : retry env.pass
        (fun t => env.report { reason := .executionLimit, retired := n } t.2) (0 + n) (0, s) =
        env.report { reason := .executionLimit, retired := n } t := retry_reaches h 0
    rw [Nat.zero_add] at hretry
    exact hretry
  have hboth : env.run (n + k) s = retry env.pass
      (fun t => env.report { reason := .executionLimit, retired := n + k } t.2) k (n, t) := by
    unfold run
    rw [Nat.add_comm n k]
    exact retry_reaches h k
  have hrecords : SameButRecords (env.run n s).2 t := by
    rw [hfirst]
    exact ⟨rfl, rfl, (hquiet.report_machine (Or.inl rfl) t).symm⟩
  have hlimit (s t : Nat × Executor × Machine W) (h : t.1 = s.1 + n ∧ SameButRecords s.2 t.2) :
      SameEndPlus n (env.report { reason := .executionLimit, retired := k } s.2)
        (env.report { reason := .executionLimit, retired := n + k } t.2) := by
    refine ⟨?_, h.2.caches, h.2.stopRequested, ?_⟩
    · rw [Nat.add_comm n k]
      rfl
    · rw [hquiet.report_machine (Or.inl rfl), hquiet.report_machine (Or.inl rfl)]
      exact h.2.machine
  -- The second run and the rest of the long one go pass by pass alike.
  have hsim : SameEndPlus n (env.run k (env.run n s).2) (env.run (n + k) s) := by
    rw [hboth]
    exact retry_sim (R := fun _ s t => t.1 = s.1 + n ∧ SameButRecords s.2 t.2)
      (fun _ _ _ h => hquiet.pass_shift h.1 h.2) hlimit k _ _ ⟨(Nat.zero_add n).symm, hrecords⟩
  have hreason : (env.run n s).1 = { reason := .executionLimit, retired := n } := by
    rw [hfirst]
    rfl
  refine ⟨hreason, hsim.2.machine, ?_⟩
  rw [hsim.1, hreason, Nat.add_comm]

end RunEnv

end Seven
