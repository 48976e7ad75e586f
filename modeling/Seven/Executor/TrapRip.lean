import Seven.Executor.Plain

/-!
# `RIP` after a handled trap

A trap hook that answers *handled* stands in for the instruction. The step
then ends, and `RIP` should be where the hook left it, or behind the
instruction if the hook left it alone. The step function delivers traps from
two places. The one for *invalid opcode* ends with `next_rip` whatever the
hook did. The one for the other kinds asks whether the hook moved `RIP`, but
compares with the address the *step* began at, which after a fault hook that
retried elsewhere is not the instruction's.

`Env.handled_trap_rip` says exactly when the outcome is right all the same.
-/

namespace Seven

open Seven.Lib (Answer Reaches retry)

variable {W : Type}

/-- Where `RIP` should be: `address` is the trapping instruction's, `m` what
the hook left. -/
def trapRip (address nextRip : U64) (m : Machine W) : U64 :=
  if m.state.rip ≠ address then maskInstructionPointer m.state m.state.rip else nextRip

/-- The attempt from `s` ends in a trap hook of the kind that answers
*handled*, asked about the instruction `p` and leaving the machine `m`. -/
inductive HandledTrap (env : Env W) (startRip : U64) (s : Caches × Rig W) :
    TrapKind → Prologue → Machine W → Prop
  | invalid {entry : DecodedInstruction} {m : Machine W}
      (hfetch : (env.fetch s).2 = .decoded entry) (hcode : entry.instr.code = .invalid)
      (hhook : env.runTrapHooks .invalidOpcode (prologue env entry s.2.state).event
        s.2.toMachine = (.act, m)) :
      HandledTrap env startRip s .invalidOpcode (prologue env entry s.2.state) m
  | other {entry : DecodedInstruction} {kind : TrapKind} {m : Machine W}
      (hfetch : (env.fetch s).2 = .decoded entry) (hcode : entry.instr.code ≠ .invalid)
      (hsimd : entry.simdAllowed = true)
      (hbreak : executeBreakpoints startRip (prologue env entry s.2.state)
        (flagSet s.2.state.rflags kFlagRF || s.2.state.debugSuppression != 0#8)
        (s.2.mapState clearSuppression) = (none, s.2.mapState clearSuppression))
      (hkind : entry.trapKind = some kind) (hinvalid : kind ≠ .invalidOpcode)
      (hhook : env.runTrapHooks kind (prologue env entry s.2.state).event
        (s.2.mapState clearSuppression).toMachine = (.act, m)) :
      HandledTrap env startRip s kind (prologue env entry s.2.state) m

/-- What the code makes of `RIP`. -/
def handledRip (kind : TrapKind) (startRip : U64) (p : Prologue) (m : Machine W) : U64 :=
  if kind = .invalidOpcode then p.nextRip
  else if m.state.rip = startRip then p.nextRip
  else maskInstructionPointer m.state m.state.rip

/-- **A handled trap ends the attempt**, in the state the hook left but for
the stack pointer's mask and `RIP`. -/
theorem HandledTrap.attempt {env : Env W} {startRip : U64} {s : Caches × Rig W} {kind : TrapKind}
    {p : Prologue} {m : Machine W} (h : HandledTrap env startRip s kind p m) :
    ∃ r c g, env.attempt startRip s = .done (r, c, g) ∧
      g.state = maskStack { m.state with rip := handledRip kind startRip p m } := by
  cases h with
  | @invalid entry m hfetch hcode hhook =>
    have hrun : env.attemptFetched startRip (env.fetch s).2 s.2 =
        invalidOpcode env (prologue env entry s.2.state) s.2 := by
      rw [hfetch]
      show execute env startRip entry s.2 = _
      unfold execute
      exact if_pos hcode
    unfold Env.attempt
    dsimp only
    rw [hrun]
    unfold invalidOpcode
    rw [hhook]
    refine ⟨_, _, _, rfl, ?_⟩
    cases env.collectCodeStats <;> rfl
  | @other entry kind m hfetch hcode hsimd hbreak hkind hinvalid hhook =>
    -- the attempt passes the checks and the breakpoints and ends at the trap
    have htrap : traps env startRip (prologue env entry s.2.state)
        (s.2.mapState clearSuppression) =
        (some (afterHandled env startRip (prologue env entry s.2.state)
            ((s.2.mapState clearSuppression).withMachine m)).1,
          (afterHandled env startRip (prologue env entry s.2.state)
            ((s.2.mapState clearSuppression).withMachine m)).2) := by
      unfold traps
      rw [show (prologue env entry s.2.state).entry.trapKind = some kind from hkind]
      simp only [hhook]
    have hrun : env.attemptFetched startRip (env.fetch s).2 s.2 =
        afterHandled env startRip (prologue env entry s.2.state)
          ((s.2.mapState clearSuppression).withMachine m) := by
      rw [hfetch]
      show execute env startRip entry s.2 = _
      unfold execute
      rw [if_neg (show (prologue env entry s.2.state).instr.code ≠ .invalid from hcode),
        if_neg (by rw [hsimd]; decide)]
      dsimp only
      rw [Phase.followedBy_pass hbreak]
      unfold Phase.followedBy
      rw [htrap]
    unfold Env.attempt
    dsimp only
    rw [hrun]
    refine ⟨_, _, _, rfl, ?_⟩
    unfold handledRip
    rw [if_neg hinvalid]
    cases env.collectCodeStats <;> rfl

/-- What the retry loop of a step ends with; the context callback is still to
run. -/
def Env.stepRig (env : Env W) (ex : Executor) (m : Machine W) : Rig W :=
  (env.attempts (env.enter ex m).state.rip kMaxFaultRetries (ex.caches, env.enter ex m)).2.2

/-- The machine behind a step. -/
theorem Env.step_machine (env : Env W) {ex : Executor} (m : Machine W)
    (hstop : ex.stopRequested = false) :
    (env.step ex m).2.2 = (syncContext env.contextWrite (env.stepRig ex m)).toMachine := by
  unfold Env.step
  rw [hstop]
  rfl

/-- A step that comes to a handled trap ends there. -/
theorem HandledTrap.stepRig {env : Env W} {ex : Executor} {m₀ : Machine W} {k : Nat}
    {s : Caches × Rig W} {kind : TrapKind} {p : Prologue} {m : Machine W}
    (hreach : Reaches (env.attempt (env.enter ex m₀).state.rip) k (ex.caches, env.enter ex m₀) s)
    (hk : k < kMaxFaultRetries)
    (h : HandledTrap env (env.enter ex m₀).state.rip s kind p m) :
    (env.stepRig ex m₀).state =
      maskStack { m.state with rip := handledRip kind (env.enter ex m₀).state.rip p m } := by
  obtain ⟨r, c, g, hdone, hstate⟩ := h.attempt
  obtain ⟨n, hn⟩ : ∃ n, kMaxFaultRetries = n + 1 + k := ⟨kMaxFaultRetries - 1 - k, by omega⟩
  unfold Env.stepRig Env.attempts
  rw [hn, Seven.Lib.retry_reaches hreach, Seven.Lib.retry_done hdone]
  exact hstate

/-- **When `RIP` is right.** Of a step that comes, after some retries, to a
trap its hook handles: for *invalid opcode* `RIP` is right exactly when the
hook left it alone or set it to the next instruction itself; for the other
kinds exactly when comparing with the start of the step answers as comparing
with the instruction's address would, or the two answers are one address. -/
theorem Env.handled_trap_rip (env : Env W) (ex : Executor) (m₀ : Machine W) {k : Nat}
    {s : Caches × Rig W} {kind : TrapKind} {p : Prologue} {m : Machine W}
    (hstop : ex.stopRequested = false)
    (hreach : Reaches (env.attempt (env.enter ex m₀).state.rip) k (ex.caches, env.enter ex m₀) s)
    (hk : k < kMaxFaultRetries)
    (htrap : HandledTrap env (env.enter ex m₀).state.rip s kind p m) :
    (env.step ex m₀).2.2 = (syncContext env.contextWrite (env.stepRig ex m₀)).toMachine ∧
      ((env.stepRig ex m₀).state.rip = trapRip s.2.state.rip p.nextRip m ↔
        maskInstructionPointer m.state m.state.rip = p.nextRip ∨
          if kind = .invalidOpcode then m.state.rip = s.2.state.rip
          else (m.state.rip = (env.enter ex m₀).state.rip ↔ m.state.rip = s.2.state.rip)) := by
  refine ⟨env.step_machine m₀ hstop, ?_⟩
  have hrip : (env.stepRig ex m₀).state.rip =
      handledRip kind (env.enter ex m₀).state.rip p m := by
    rw [htrap.stepRig hreach hk]
    rfl
  rw [hrip]
  unfold handledRip trapRip
  -- An undecodable instruction compares RIP with its own address; the others with the step's
  -- start.
  by_cases hkind : kind = .invalidOpcode
  · rw [if_pos hkind, if_pos hkind]
    by_cases hmoved : m.state.rip = s.2.state.rip
    · rw [if_neg (not_not_intro hmoved)]
      exact ⟨fun _ => Or.inr hmoved, fun _ => rfl⟩
    · rw [if_pos hmoved]
      exact ⟨fun h => Or.inl h.symm, fun h => (h.resolve_right hmoved).symm⟩
  · rw [if_neg hkind, if_neg hkind]
    -- The two agree where both have moved or neither has.
    by_cases hstart : m.state.rip = (env.enter ex m₀).state.rip <;>
      by_cases hmoved : m.state.rip = s.2.state.rip
    · rw [if_pos hstart, if_neg (not_not_intro hmoved)]
      exact ⟨fun _ => Or.inr ⟨fun _ => hmoved, fun _ => hstart⟩, fun _ => rfl⟩
    · rw [if_pos hstart, if_pos hmoved]
      exact ⟨fun h => Or.inl h.symm,
        fun h => (h.resolve_right fun hiff => hmoved (hiff.mp hstart)).symm⟩
    · rw [if_neg hstart, if_neg (not_not_intro hmoved)]
      exact ⟨Or.inl, fun h => h.resolve_right fun hiff => hstart (hiff.mpr hmoved)⟩
    · rw [if_neg hstart, if_pos hmoved]
      exact ⟨fun _ => Or.inr ⟨fun h => absurd h hstart, fun h => absurd h hmoved⟩, fun _ => rfl⟩

/-- In the first attempt the start of the step is the instruction's address,
and a trap other than *invalid opcode* is right. -/
theorem HandledTrap.first_attempt {env : Env W} {ex : Executor} {m₀ : Machine W}
    {kind : TrapKind} {p : Prologue} {m : Machine W} (hkind : kind ≠ .invalidOpcode)
    (h : HandledTrap env (env.enter ex m₀).state.rip (ex.caches, env.enter ex m₀) kind p m) :
    (env.stepRig ex m₀).state.rip = trapRip (env.enter ex m₀).state.rip p.nextRip m := by
  rw [h.stepRig (Reaches.refl _) (by decide)]
  show handledRip kind _ p m = _
  unfold handledRip trapRip
  rw [if_neg hkind]
  by_cases hmoved : m.state.rip = (env.enter ex m₀).state.rip
  · rw [if_pos hmoved, if_neg (not_not_intro hmoved)]
  · rw [if_neg hmoved, if_pos hmoved]

/-! `06` is no instruction, `A2` is `CPUID`; the hooks go on at `3000`. -/

/-- `CPUID` and an invalid opcode. -/
def trapDecoder : Decode := fun _ bytes _ =>
  bytes.head?.bind fun b =>
    if b = 0x06#8 then some { code := .invalid, length := 1 }
    else if b = 0xA2#8 then some { code := .cpuid, length := 1 }
    else none

/-- A trap hook that acts and redirects. -/
def trapEnv : Env Unit :=
  { decode := trapDecoder
    trapHooks := fun _ =>
      [fun _ m => (.act, { m with state := { m.state with rip := 0x3000#64 } })] }

/-- One opcode at `1000`. -/
def trapMachine (opcode : Byte) : Machine Unit :=
  { state := { rip := 0x1000#64 }
    memory := (Memory.writeUnchecked (Memory.map {} 0x1000#64 0x1000#64 kMemoryPermissionAll)
      0x1000#64 [opcode]).1
    world := () }

set_option maxRecDepth 20000 in
/-- `CPUID` goes on where its hook says. -/
theorem Env.handled_trap_rip_cpuid :
    (trapEnv.stepRig {} (trapMachine 0xA2#8)).state.rip = 0x3000#64 := by
  have htrap : HandledTrap trapEnv 0x1000#64 ({}, trapEnv.enter {} (trapMachine 0xA2#8)) .cpuid
      _ _ :=
    @HandledTrap.other _ _ _ _ _ .cpuid _ rfl (by decide) rfl rfl rfl (by decide) rfl
  exact (trapEnv.handled_trap_rip {} (trapMachine 0xA2#8) rfl (Reaches.refl _) (by decide)
    htrap).2.mpr (Or.inr Iff.rfl)

set_option maxRecDepth 20000 in
/-- The hook of an invalid opcode sets `RIP` to `3000` as well, and the step
goes on at `1001`. -/
theorem Env.invalid_opcode_trap_rip : ∃ p m,
    HandledTrap trapEnv 0x1000#64 ({}, trapEnv.enter {} (trapMachine 0x06#8)) .invalidOpcode p m ∧
      trapRip 0x1000#64 p.nextRip m = 0x3000#64 ∧
      (trapEnv.step {} (trapMachine 0x06#8)).2.2.state.rip = 0x1001#64 :=
  ⟨_, _, HandledTrap.invalid rfl rfl rfl, rfl, by decide +kernel⟩

end Seven
