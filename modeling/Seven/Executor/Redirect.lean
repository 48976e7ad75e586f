import Seven.Executor.Plain

/-!
# Retrying somewhere else

A fault hook may set `RIP` and answer *retry*; the step then goes on at the
new address. It goes on with the address it began at, though:
`instruction_start_rip` is taken once. Execute breakpoints are looked up at
it, a hook that stands in for the core is compared with it, a violation is
recorded at it and *restart* goes back to it. Where none of these branches
is taken (`Env.StartBlind`), the rest of the step is a fresh step at the new
address (`Env.retry_redirected`).
-/

namespace Seven

open Seven.Lib (Answer Reaches Settles retry)

variable {W : Type}

/-! ## The branches that look at the start address -/

/-- No execute breakpoint is checked, or none is at either address. -/
def BlindBreakpoints (a b : U64) (s : CpuState) : Prop :=
  flagSet s.rflags kFlagRF = true ∨ s.debugSuppression ≠ 0#8 ∨
    hasEnabledExecuteBreakpoints s = false ∨
      (collectExecuteBreakpointHits s a = 0#64 ∧ collectExecuteBreakpointHits s b = 0#64)

/-- A hook stood in for the core and left `RIP` where it makes no difference
which of the addresses counts as unmoved: on neither of them, or on one that
the fall-through goes to as well. -/
def BlindHandled (a b : U64) (p : Prologue) (s : CpuState) : Prop :=
  s.rip = a ∨ s.rip = b → p.nextRip = maskInstructionPointer s s.rip

/-- The execution of a decoded instruction takes no branch that tells `a`
and `b` apart. The hooks are asked about this event and this machine only. -/
structure Env.BlindExecution (env : Env W) (a b : U64) (d : DecodedInstruction) (g : Rig W) :
    Prop where
  breakpoints : BlindBreakpoints a b g.state
  trap : ∀ kind m, d.trapKind = some kind →
    env.runTrapHooks kind (prologue env d g.state).event (g.mapState clearSuppression).toMachine =
      (.act, m) → BlindHandled a b (prologue env d g.state) m.state
  instruction : ∀ g₁ m,
    traps env b (prologue env d g.state) (g.mapState clearSuppression) = (none, g₁) →
    env.runInstructionHooks (prologue env d g.state).event
      (env.runExecutionHooks g₁.toMachine) = (.act, m) →
        BlindHandled a b (prologue env d g.state) m.state

/-- The fault hooks answer this fault alike whichever address is reported,
and they do not restart the instruction. -/
structure Env.BlindFault (env : Env W) (a b : U64) (r : ExecutionResult) (g : Rig W) : Prop where
  answer : env.runFaultHooks ⟨r, a, faultAddressOf r g.state.rip⟩ g.toMachine =
    env.runFaultHooks ⟨r, b, faultAddressOf r g.state.rip⟩ g.toMachine
  restart : (env.runFaultHooks ⟨r, b, faultAddressOf r g.state.rip⟩ g.toMachine).1 ≠
    .restartInstruction

/-- The attempt takes no branch that tells `a` and `b` apart. -/
structure Env.BlindAttempt (env : Env W) (a b : U64) (s : Caches × Rig W) : Prop where
  decoded : ∀ d, (env.fetch s).2 = .decoded d → d.instr.code ≠ .invalid →
    d.simdAllowed = true → env.BlindExecution a b d s.2
  fault : ∀ r clear g, env.attemptFetched b (env.fetch s).2 s.2 = (.fault r clear, g) →
    env.BlindFault a b r g

/-- The attempts to come, at most `n`: none tells the addresses apart, and the
last ends without a violation. -/
def Env.StartBlind (env : Env W) (a b : U64) : Nat → Caches × Rig W → Prop
  | 0, _ => False
  | n + 1, s =>
    env.BlindAttempt a b s ∧
      match env.attempt b s with
      | .done (r, _) => r.reason.benign = true
      | .again s' => Env.StartBlind env a b n s'

/-! ## An attempt -/

section attempt

variable {env : Env W} {a b : U64}

/-- A handled instruction ends alike. -/
theorem afterHandled_blind {p : Prologue} {g : Rig W} (h : BlindHandled a b p g.state) :
    afterHandled env a p g = afterHandled env b p g := by
  have hrip : (if g.state.rip = a then p.nextRip else maskInstructionPointer g.state g.state.rip) =
      if g.state.rip = b then p.nextRip else maskInstructionPointer g.state g.state.rip := by
    by_cases hmoved : g.state.rip = a ∨ g.state.rip = b
    · -- on one of the addresses both branches give the fall-through
      rw [← h hmoved, ite_self, ite_self]
    · obtain ⟨ha, hb⟩ := not_or.mp hmoved
      rw [if_neg ha, if_neg hb]
  unfold afterHandled
  simp only [Rig.mapState, hrip]

/-- The execute breakpoints, where they are not asked. -/
theorem executeBreakpoints_blind {p : Prologue} {suppressed : Bool} {g : Rig W}
    (h : suppressed = true ∨ p.checkExecuteBreakpoints = false ∨
      (collectExecuteBreakpointHits g.state a = 0#64 ∧
        collectExecuteBreakpointHits g.state b = 0#64)) :
    executeBreakpoints a p suppressed g = (none, g) ∧
      executeBreakpoints b p suppressed g = (none, g) := by
  rcases h with h | h | ⟨ha, hb⟩
  · exact ⟨executeBreakpoints_pass (Or.inl h), executeBreakpoints_pass (Or.inl h)⟩
  · exact ⟨executeBreakpoints_pass (Or.inr (Or.inl h)),
      executeBreakpoints_pass (Or.inr (Or.inl h))⟩
  · exact ⟨executeBreakpoints_pass (Or.inr (Or.inr ha)),
      executeBreakpoints_pass (Or.inr (Or.inr hb))⟩

/-- The trap hooks, where they go on. -/
theorem traps_blind {p : Prologue} {g : Rig W}
    (h : ∀ kind m, p.entry.trapKind = some kind →
      env.runTrapHooks kind p.event g.toMachine = (.act, m) → BlindHandled a b p m.state) :
    traps env a p g = traps env b p g := by
  unfold traps
  split
  next => rfl
  next kind hkind =>
    have htrap := h kind
    cases hrun : env.runTrapHooks kind p.event g.toMachine with
    | mk action m =>
      cases action with
      | continueToCore => rfl
      | stop r => rfl
      | act =>
        have hsame := @afterHandled_blind _ env a b p (g.withMachine m) (htrap m hkind hrun)
        simp only [hsame]

/-- The instruction hooks, where they go on. -/
theorem instructionHooks_blind {p : Prologue} {g : Rig W}
    (h : ∀ m, env.runInstructionHooks p.event (env.runExecutionHooks g.toMachine) = (.act, m) →
      BlindHandled a b p m.state) :
    instructionHooks env a p g = instructionHooks env b p g := by
  unfold instructionHooks
  dsimp only
  cases hrun : env.runInstructionHooks p.event
      (g.withMachine (env.runExecutionHooks g.toMachine)).toMachine with
  | mk action m =>
    cases action with
    | continueToCore => rfl
    | stop r => rfl
    | act =>
      have hsame := @afterHandled_blind _ env a b p
        ((g.withMachine (env.runExecutionHooks g.toMachine)).withMachine m) (h m hrun)
      simp only [hsame]

/-- **An attempt from the decoded instruction on does not see which of the
addresses the step began at.** -/
theorem execute_blind {d : DecodedInstruction} {g : Rig W}
    (h : d.instr.code ≠ .invalid → d.simdAllowed = true → env.BlindExecution a b d g) :
    execute env a d g = execute env b d g := by
  unfold execute
  dsimp only
  split
  next => rfl
  next hvalid =>
    split
    next => rfl
    next hsimd =>
      have hexec := h hvalid (by simpa using hsimd)
      have hcheck : (flagSet g.state.rflags kFlagRF || g.state.debugSuppression != 0#8) = true ∨
          (prologue env d g.state).checkExecuteBreakpoints = false ∨
          (collectExecuteBreakpointHits (g.mapState clearSuppression).state a = 0#64 ∧
            collectExecuteBreakpointHits (g.mapState clearSuppression).state b = 0#64) := by
        rcases hexec.breakpoints with hrf | hdebug | hnone | hhits
        · refine Or.inl ?_
          rw [hrf, Bool.true_or]
        · refine Or.inl ?_
          rw [bne_iff_ne.mpr hdebug, Bool.or_true]
        · exact Or.inr (Or.inl hnone)
        · exact Or.inr (Or.inr hhits)
      obtain ⟨ha, hb⟩ := executeBreakpoints_blind hcheck
      rw [Phase.followedBy_pass ha, Phase.followedBy_pass hb]
      unfold Phase.followedBy
      rw [traps_blind hexec.trap]
      -- the instruction hooks run on what the trap hooks passed on
      cases htraps : traps env b (prologue env d g.state) (g.mapState clearSuppression) with
      | mk ended g₁ =>
        cases ended with
        | some outcome => rfl
        | none =>
          dsimp only
          rw [instructionHooks_blind fun m => hexec.instruction g₁ m htraps]

/-- The fault hooks, where they do not look at the start. -/
theorem tryRecoverFault_blind {r : ExecutionResult} {g : Rig W} (h : env.BlindFault a b r g) :
    env.tryRecoverFault a r g = env.tryRecoverFault b r g := by
  have hrestart := h.restart
  unfold Env.tryRecoverFault
  rw [h.answer]
  cases hrun : env.runFaultHooks ⟨r, b, faultAddressOf r g.state.rip⟩ g.toMachine with
  | mk action m =>
    rw [hrun] at hrestart
    cases action with
    | stop => rfl
    | retry => rfl
    | restartInstruction => exact absurd rfl hrestart

/-- A benign stop is no violation. -/
theorem recordViolation_benign {r : ExecutionResult} (hr : r.reason.benign = true)
    (startRip address : U64) : recordViolation startRip address r = id := by
  funext l
  exact if_pos hr

/-- A benign stop ends alike. -/
theorem stopWith_blind {r : ExecutionResult} (hr : r.reason.benign = true) (g : Rig W) :
    env.stopWith a r g = env.stopWith b r g := by
  unfold Env.stopWith
  rw [recordViolation_benign hr, recordViolation_benign hr]

/-- What follows the outcome. -/
theorem conclude_blind {outcome : Outcome × Rig W}
    (h : ∀ r clear g, outcome = (.fault r clear, g) → env.BlindFault a b r g) :
    env.conclude a outcome = env.conclude b outcome ∨
      ∃ r g, env.conclude b outcome = .done (r, g) ∧ r.reason.benign = false := by
  obtain ⟨outcome, g⟩ := outcome
  cases outcome with
  -- The start address is only told to a fault hook and to a stop: a result that stops nothing is
  -- blind.
  | finish r => exact Or.inl rfl
  | abort r =>
    cases hr : r.reason.benign with
    | true =>
      refine Or.inl ?_
      show Answer.done (env.stopWith a r g) = Answer.done (env.stopWith b r g)
      rw [stopWith_blind hr]
    | false => exact Or.inr ⟨_, _, rfl, hr⟩
  | fault r clear =>
    unfold Env.conclude
    dsimp only
    rw [tryRecoverFault_blind (h r clear g rfl)]
    cases hrec : env.tryRecoverFault b r g with
    | mk recovered g' =>
      cases recovered with
      | true => exact Or.inl rfl
      | false =>
        dsimp only
        cases hr : r.reason.benign with
        | true =>
          refine Or.inl ?_
          rw [stopWith_blind hr]
        | false => exact Or.inr ⟨_, _, rfl, hr⟩

/-- One attempt: it ends alike, or it ends with a benign stop. -/
theorem attempt_blind {s : Caches × Rig W} (h : env.BlindAttempt a b s) :
    env.attempt a s = env.attempt b s ∨
      ∃ r c g, env.attempt b s = .done (r, c, g) ∧ r.reason.benign = false := by
  have hfetched : env.attemptFetched a (env.fetch s).2 s.2 =
      env.attemptFetched b (env.fetch s).2 s.2 := by
    have hdecoded := h.decoded
    cases hfetch : (env.fetch s).2 with
    | decoded d => exact execute_blind (hdecoded d hfetch)
    | pageFault => rfl
    | decodeError => rfl
  unfold Env.attempt
  dsimp only
  rw [hfetched]
  rcases conclude_blind h.fault with hsame | ⟨r, g, hdone, hr⟩
  · rw [hsame]
    exact Or.inl rfl
  · refine Or.inr ⟨r, (env.fetch s).1, g, ?_, hr⟩
    rw [hdone]
    rfl

end attempt

/-! ## The rest of the step -/

/-- The attempts of a start that is blind settle. -/
theorem Env.StartBlind.settles {env : Env W} {a b : U64} :
    ∀ {n : Nat} {s : Caches × Rig W}, env.StartBlind a b n s → Settles (env.attempt b) n s := by
  intro n
  induction n with
  | zero =>
    intro s h
    exact h
  | succ n ih =>
    intro s h
    have hnext := h.2
    cases hs : env.attempt b s with
    | done r => exact Seven.Lib.settles_done hs
    | again s' =>
      rw [hs] at hnext
      exact (Seven.Lib.settles_again_iff hs).mpr (ih hnext)

/-- **The run lemma**: attempts that are blind to the start address. -/
theorem attempts_blind {env : Env W} {a b : U64} :
    ∀ (n : Nat) (s : Caches × Rig W), env.StartBlind a b n s →
      env.attempts a n s = env.attempts b n s := by
  intro n
  induction n with
  | zero =>
    intro s hblind
    exact hblind.elim
  | succ n ih =>
    intro s hblind
    obtain ⟨hattempt, hnext⟩ := hblind
    -- An answer that does stop would have no blind continuation.
    have hsame : env.attempt a s = env.attempt b s := by
      rcases attempt_blind hattempt with hsame | ⟨r, c, g, hdone, hr⟩
      · exact hsame
      · rw [hdone] at hnext
        exact absurd (hr.symm.trans hnext) (by decide)
    cases hs : env.attempt b s with
    | done r =>
      rw [hs] at hsame
      exact (Seven.Lib.retry_done hsame).trans (Seven.Lib.retry_done hs).symm
    | again s' =>
      rw [hs] at hsame hnext
      exact (Seven.Lib.retry_again hsame).trans
        ((ih s' hnext).trans (Seven.Lib.retry_again hs).symm)

/-- **After a retry at another address the step is a fresh step there**,
when a fresh step would start in the state of the retry — masks, context
callback and records change nothing — and no attempt to come takes a branch
that looks at the address the step began at. -/
theorem Env.retry_redirected (env : Env W) {ex₀ ex : Executor} {m₀ : Machine W} {k : Nat}
    {c : Caches} {g : Rig W} (hstop₀ : ex₀.stopRequested = false)
    (hstop : ex.stopRequested = false) (hcaches : ex.caches = c)
    (hretry : Reaches (env.attempt (env.enter ex₀ m₀).state.rip) k (ex₀.caches, env.enter ex₀ m₀)
      (c, g))
    (hk : k ≤ kMaxFaultRetries) (hfresh : env.enter ex g.toMachine = g)
    (hblind : env.StartBlind (env.enter ex₀ m₀).state.rip g.state.rip (kMaxFaultRetries - k)
      (c, g)) :
    env.step ex₀ m₀ = env.step ex g.toMachine := by
  have hleft : env.attempts (env.enter ex₀ m₀).state.rip kMaxFaultRetries
      (ex₀.caches, env.enter ex₀ m₀) =
      env.attempts (env.enter ex₀ m₀).state.rip (kMaxFaultRetries - k) (c, g) := by
    have hsplit : kMaxFaultRetries = kMaxFaultRetries - k + k := by omega
    have hrun := @Seven.Lib.retry_reaches _ _ _ env.exhausted k _ _ hretry (kMaxFaultRetries - k)
    rw [← hsplit] at hrun
    exact hrun
  have hright : env.attempts g.state.rip kMaxFaultRetries (c, g) =
      env.attempts g.state.rip (kMaxFaultRetries - k) (c, g) :=
    Seven.Lib.retry_settled hblind.settles (Nat.sub_le _ _)
  have hsame := attempts_blind _ _ hblind
  have hrun : env.attempts (env.enter ex₀ m₀).state.rip kMaxFaultRetries
      (ex₀.caches, env.enter ex₀ m₀) = env.attempts g.state.rip kMaxFaultRetries (c, g) :=
    hleft.trans (hsame.trans hright.symm)
  unfold Env.step
  rw [hstop₀, hstop]
  simp only [Bool.false_eq_true, if_false, hfresh, hcaches, hrun]
  unfold Env.leave
  rw [hstop₀, hstop]

/-! `50` is `PUSH RAX`, `A2` is `CPUID`; the fault hook goes on at `2000`. -/

/-- `PUSH RAX` and `CPUID`. -/
def redirectDecoder : Decode := fun _ bytes _ =>
  bytes.head?.bind fun b =>
    if b = 0x50#8 then
      some { code := .stack .pushR64, length := 1, opRegister := fun _ => .rax }
    else if b = 0xA2#8 then some { code := .cpuid, length := 1 }
    else none

/-- Its environment. -/
def redirectEnv (cpuidHooks : List (InstructionEvent → Machine Unit → HookAction × Machine Unit)) :
    Env Unit :=
  { decode := redirectDecoder
    trapHooks := fun kind => if kind = .cpuid then cpuidHooks else []
    faultHooks := [fun _ m => (.retry, { m with state := { m.state with rip := 0x2000#64 } })] }

/-- One opcode at `2000` and a stack page; nothing is mapped at `1000`. -/
def redirectMachine (rip : U64) (opcode : Byte) : Machine Unit :=
  { state := ({ rip := rip } : CpuState).setRsp 0x8000#64
    memory := (Memory.writeUnchecked
      (Memory.map (Memory.map {} 0x2000#64 0x1000#64 kMemoryPermissionAll) 0x7000#64 0x1000#64
        kMemoryPermissionAll) 0x2000#64 [opcode]).1
    world := () }

/-- A step entered twice is entered once. -/
theorem enterStep_idem (s : CpuState) : enterStep (enterStep s) = enterStep s := by
  have hrip : maskInstructionPointer s (maskInstructionPointer s s.rip) =
      maskInstructionPointer s s.rip := by
    unfold maskInstructionPointer
    rw [BitVec.and_assoc, BitVec.and_self]
  show maskStack { maskStack { s with rip := maskInstructionPointer s s.rip } with
    rip := maskInstructionPointer s (maskInstructionPointer s s.rip) } = _
  rw [hrip]
  exact (CpuState.setRsp_eq_self_iff _ _).mpr (maskStackPointer_idem _ _)

/-- A trap hook that stands in for the instruction. -/
def handled (_ : InstructionEvent) (m : Machine Unit) : HookAction × Machine Unit := (.act, m)

set_option maxRecDepth 20000 in
/-- A fetch fault at `1000`, a retry at `2000` and a `PUSH` there: the step
ends like a step at `2000`. The hook for `CPUID` is installed and not called. -/
theorem Env.retry_redirected_push :
    (redirectEnv [handled]).step {} (redirectMachine 0x1000#64 0x50#8) =
      (redirectEnv [handled]).step
        { caches := ((redirectEnv [handled]).fetch
            ({}, (redirectEnv [handled]).enter {} (redirectMachine 0x1000#64 0x50#8))).1 }
        ((redirectEnv [handled]).enter {} (redirectMachine 0x2000#64 0x50#8)).toMachine := by
  -- Entering a step twice is entering it once.
  have hfresh : (redirectEnv [handled]).enter {}
      ((redirectEnv [handled]).enter {} (redirectMachine 0x2000#64 0x50#8)).toMachine =
      (redirectEnv [handled]).enter {} (redirectMachine 0x2000#64 0x50#8) := by
    show Rig.mk ⟨enterStep (enterStep _), _, _⟩ _ = _
    rw [enterStep_idem]
    rfl
  have hattempt : (redirectEnv [handled]).BlindAttempt 0x1000#64 0x2000#64
      (((redirectEnv [handled]).fetch
        ({}, (redirectEnv [handled]).enter {} (redirectMachine 0x1000#64 0x50#8))).1,
        (redirectEnv [handled]).enter {} (redirectMachine 0x2000#64 0x50#8)) := by
    refine ⟨fun d hfetch _ _ => ⟨Or.inr (Or.inr (Or.inl (by decide))), fun kind m htrap => ?_,
      fun g₁ m _ hrun => ?_⟩, fun r clear g hfault => ?_⟩
    · -- a `PUSH` is not trapped
      obtain rfl := Fetched.decoded.inj hfetch
      cases htrap
    · cases hrun
    · cases hfault
  exact Env.retry_redirected (redirectEnv [handled]) rfl rfl rfl
    (Reaches.again rfl (Reaches.refl _)) (by decide) hfresh ⟨hattempt, rfl⟩

set_option maxRecDepth 20000 in
/-- With a hook that handles `CPUID`, the step redirected to a `CPUID` leaves
`RIP` on it, and a step there goes past it. -/
theorem Env.redirected_trap_not_advanced :
    Reaches ((redirectEnv [handled]).attempt 0x1000#64) 1
        ({}, (redirectEnv [handled]).enter {} (redirectMachine 0x1000#64 0xA2#8))
        (((redirectEnv [handled]).fetch
            ({}, (redirectEnv [handled]).enter {} (redirectMachine 0x1000#64 0xA2#8))).1,
          (redirectEnv [handled]).enter {} (redirectMachine 0x2000#64 0xA2#8)) ∧
      ((redirectEnv [handled]).step {} (redirectMachine 0x1000#64 0xA2#8)).2.2.state.rip =
        0x2000#64 ∧
      ((redirectEnv [handled]).step {} (redirectMachine 0x2000#64 0xA2#8)).2.2.state.rip =
        0x2001#64 :=
  ⟨Reaches.again rfl (Reaches.refl _), by decide +kernel, by decide +kernel⟩

end Seven
