import Seven.Lib.Triples
import Seven.Cpu.DataWords
import Seven.Cpu.FlagIntegers
import Seven.Executor.DecodeCache
import Seven.Executor.Paths
import Seven.Executor.Run

/-!
# Guest code on the executor

What does a piece of guest code do? The library's triples, on the loop of
`Executor::run`, make a program logic of it. A guest runs *undisturbed* when
no hook, context callback or stop request gets in between, and its state is
*quiet* when no debug event is armed. Then an instruction that lies in memory
is its handler (`pass_installed`): it is fetched through whatever the two
caches hold, decoded, and executed, and the instruction pointer moves on.

> `Guest.instruction`: the rule of one instruction.
> `Guest.run`: a triple is a property of `Executor::run`.

Code stays installed while the guest stores to pages that are not executable
(`CodeKept`), since then neither the fetch view nor the code epoch moves.
-/

namespace Seven

open Seven.Lib

variable {W : Type}

/-! ## Quiet states -/

/-- Long mode with no debug event armed, pending or suppressed. -/
structure CpuState.Quiet (s : CpuState) : Prop where
  mode : s.mode = .long64
  noTrap : flagSet s.rflags kFlagTF = false
  noResume : flagSet s.rflags kFlagRF = false
  noStep : s.pendingSingleStep = false
  noHits : s.pendingDebugHitBits = 0#64
  noShadow : s.debugSuppression = 0#8
  noBreakpoints : s.dr 7 = 0#64

/-- The state at another instruction. -/
def CpuState.at (s : CpuState) (rip : U64) : CpuState := { s with rip := rip }

section

variable (s : CpuState) (rip : U64)

@[simp] theorem CpuState.at_rip : (s.at rip).rip = rip := rfl
@[simp] theorem CpuState.at_gpr : (s.at rip).gpr = s.gpr := rfl
@[simp] theorem CpuState.at_rflags : (s.at rip).rflags = s.rflags := rfl

end

instance : DecidablePred notStatus := fun i =>
  inferInstanceAs (Decidable (i ≠ 0 ∧ i ≠ 2 ∧ i ≠ 4 ∧ i ≠ 6 ∧ i ≠ 7 ∧ i ≠ 11))

/-- A flag that is not a status flag. -/
theorem flagSet_frame {rflags rflags' : U64}
    (hframe : ∀ i, notStatus i → rflags'.getLsbD i = rflags.getLsbD i) {k : Nat} (hk : k < 64)
    (hnot : notStatus k) : flagSet rflags' (1#64 <<< k) = flagSet rflags (1#64 <<< k) := by
  rw [flagSet_shift _ hk, flagSet_shift _ hk, BitVec.testBit_toNat, BitVec.testBit_toNat,
    hframe k hnot]

/-- Clearing a bit that is clear. -/
theorem and_not_of_clear {v bit : U64} (h : flagSet v bit = false) : v &&& ~~~bit = v := by
  have hzero : v &&& bit = 0#64 := by
    unfold flagSet at h
    exact bne_eq_false_iff_eq.mp h
  apply BitVec.eq_of_getLsbD_eq
  intro i hi
  have hbit := congrArg (·.getLsbD i) hzero
  simp only [BitVec.getLsbD_and, BitVec.getLsbD_zero] at hbit
  simp only [BitVec.getLsbD_and, BitVec.getLsbD_not, hi, decide_true, Bool.true_and]
  cases hv : v.getLsbD i with
  | false => rfl
  | true =>
    rw [hv, Bool.true_and] at hbit
    rw [hbit]
    rfl

namespace CpuState.Quiet

variable {s : CpuState}

/-- The stack pointer is whole. -/
theorem maskStack (h : s.Quiet) : maskStack s = s := by
  have hmask : maskStackPointer s s.rsp = s.rsp := by
    unfold maskStackPointer
    rw [h.mode]
    exact BitVec.and_allOnes
  unfold Seven.maskStack
  exact (s.setRsp_eq_self_iff _).mpr hmask

/-- So is the instruction pointer. -/
theorem maskInstructionPointer (h : s.Quiet) (value : U64) :
    maskInstructionPointer s value = value := by
  unfold Seven.maskInstructionPointer
  rw [h.mode]
  exact BitVec.and_allOnes

/-- And a linear address. -/
theorem maskLinearAddress (h : s.Quiet) (value : U64) : maskLinearAddress s value = value := by
  unfold Seven.maskLinearAddress
  rw [h.mode]
  exact BitVec.and_allOnes

/-- At another instruction. -/
theorem atRip (h : s.Quiet) (rip : U64) : (s.at rip).Quiet :=
  ⟨h.mode, h.noTrap, h.noResume, h.noStep, h.noHits, h.noShadow, h.noBreakpoints⟩

/-- With another register. -/
theorem setGpr (h : s.Quiet) (i : Fin 16) (value : U64) : (s.setGpr i value).Quiet :=
  ⟨h.mode, h.noTrap, h.noResume, h.noStep, h.noHits, h.noShadow, h.noBreakpoints⟩

/-- New status flags. -/
theorem setFlags (h : s.Quiet) {rflags : U64}
    (hframe : ∀ i, notStatus i → rflags.getLsbD i = s.rflags.getLsbD i) :
    (setFlags s rflags).Quiet :=
  ⟨h.mode, (flagSet_frame hframe (by decide : 8 < 64) (by decide)).trans h.noTrap,
    (flagSet_frame hframe (by decide : 16 < 64) (by decide)).trans h.noResume, h.noStep, h.noHits,
    h.noShadow, h.noBreakpoints⟩

/-- There is no shadow to clear. -/
theorem clearSuppression (h : s.Quiet) : clearSuppression s = s := by
  have hflags : s.rflags &&& ~~~kFlagRF = s.rflags := and_not_of_clear h.noResume
  have hshadow := h.noShadow
  unfold Seven.clearSuppression
  cases s
  dsimp only at hflags hshadow ⊢
  rw [hflags, hshadow]

/-- A step enters with the state as it is. -/
theorem enterStep (h : s.Quiet) : enterStep s = s := by
  unfold Seven.enterStep
  rw [h.maskInstructionPointer]
  exact (h.atRip s.rip).maskStack

end CpuState.Quiet

/-! ## Undisturbed guests -/

/-- Nothing of the host's gets in between two instructions. -/
structure RunEnv.Undisturbed (env : RunEnv W) : Prop where
  hooks : env.toEnv.NoCoreHooks
  decode : DecodesWindow env.decode
  contextRead : env.contextRead = none
  contextWrite : env.contextWrite = none
  stopHooks : env.stopHooks = []
  takeStop : ∀ w, env.takeStop w = (false, w)

/-- The instruction lies at `rip`: the window there is in executable pages
and decodes to it, and the dispatch has this handler for it. -/
structure Env.Installed (env : Env W) (m : Memory) (rip : U64) (instr : Instruction)
    (handler : Handler) : Prop where
  pages : FetchesPages m rip
  noFetchHooks : m.hasFetchAccessHooks = false
  window : ∃ window,
    Memory.copyFromPages (hasPermission · .instructionFetch) m.pages rip maxInstructionLength =
      some window ∧
    env.decode 64 window rip = some instr
  valid : instr.code ≠ .invalid
  allowed : env.simdProfileAllows instr = true
  dispatch : env.handler (normalizeReportedCode instr.code) = handler

/-- Installed code stays installed while it is kept. -/
theorem Env.Installed.kept {env : Env W} {m m' : Memory} {rip : U64} {instr : Instruction}
    {handler : Handler} (h : env.Installed m rip instr handler) (hkept : Memory.CodeKept m m') :
    env.Installed m' rip instr handler := by
  have hsame := hkept.access
  refine ⟨⟨?_, ?_⟩, ?_, ?_, h.valid, h.allowed, h.dispatch⟩
  · rw [hsame.passthroughRead]
    exact h.pages.passthrough
  · have hregion := h.pages.mmio
    unfold Memory.findMmioRegion at hregion ⊢
    rw [hsame.mmioRegions, hsame.mmioMinBase, hsame.mmioMaxEnd]
    exact hregion
  · have hhooks := h.noFetchHooks
    unfold Memory.hasFetchAccessHooks at hhooks ⊢
    rw [hsame.accessHooks]
    exact hhooks
  · obtain ⟨window, hwindow, hinstr⟩ := h.window
    refine ⟨window, ?_, hinstr⟩
    rw [Memory.copyFromPages_fetch_congr hkept.view]
    exact hwindow

/-- Code in memory without hooks and regions, all of whose SIMD is allowed. -/
theorem Env.Installed.of_decode {env : Env W} {m : Memory} {rip : U64} {instr : Instruction}
    {handler : Handler} (hpassthrough : m.passthroughRead = none) (hregions : m.mmioRegions = [])
    (hhooks : m.accessHooks = [])
    (hdecode : (Memory.copyFromPages (hasPermission · .instructionFetch) m.pages rip
      maxInstructionLength).bind (env.decode 64 · rip) = some instr)
    (hvalid : instr.code ≠ .invalid) (hallowed : env.simdProfileAllows instr = true)
    (hdispatch : env.handler (normalizeReportedCode instr.code) = handler) :
    env.Installed m rip instr handler := by
  obtain ⟨window, hcopy, hinstr⟩ := Option.bind_eq_some_iff.mp hdecode
  refine ⟨⟨hpassthrough, ?_⟩, ?_, ⟨window, hcopy, hinstr⟩, hvalid, hallowed, hdispatch⟩
  · unfold Memory.findMmioRegion
    rw [hregions]
    simp
  · unfold Memory.hasFetchAccessHooks
    rw [hhooks]
    rfl

/-- An instruction at the address reached. -/
theorem Env.Installed.here {env : Env W} {m : Memory} {a rip : U64} {instr : Instruction}
    {handler : Handler} (h : env.Installed m a instr handler) (hrip : rip = a) :
    env.Installed m rip instr handler := by
  rw [hrip]
  exact h

/-- The executor between two instructions. -/
structure Guest.Ready (env : RunEnv W) (s : Nat × Executor × Machine W) : Prop where
  running : s.2.1.stopRequested = false
  coherent : CachesCoherent env.decode env.simdProfileAllows s.2.1.caches s.2.2.memory
  quiet : s.2.2.state.Quiet

/-- The fetch finds an installed instruction, whatever the caches hold. -/
theorem fetch_installed {env : Env W} (hdecode : DecodesWindow env.decode) {c : Caches} {g : Rig W}
    (hcoh : CachesCoherent env.decode env.simdProfileAllows c g.memory) (hquiet : g.state.Quiet)
    {instr : Instruction} {handler : Handler}
    (hinst : env.Installed g.memory g.state.rip instr handler) :
    CachesCoherent env.decode env.simdProfileAllows (env.fetch (c, g)).1 g.memory ∧
      (env.fetch (c, g)).2 = .decoded (decodedInstruction env.simdProfileAllows instr) := by
  obtain ⟨hcoh', hsame⟩ := env.fetch_agrees hdecode hcoh (fun _ => hinst.pages) c
  refine ⟨hcoh', hsame.trans ?_⟩
  obtain ⟨window, hwindow, hinstr⟩ := hinst.window
  have hread : g.memory.read g.state.rip maxInstructionLength .instructionFetch = some window :=
    (hinst.pages.read_eq hinst.noFetchHooks).trans hwindow
  unfold Env.fetch
  rw [env.uncached_canUse, fetch_uncached, hread]
  have hbits : decoderBitness g.state.mode = 64 := by
    rw [hquiet.mode]
    rfl
  have hdecoded : env.uncached.decode 64 window g.state.rip = some instr := hinstr
  simp only [hbits, hdecoded]
  rfl

/-- The context the handler of an instruction at `RIP` runs in. -/
def guestContext (s : CpuState) (m : Memory) (instr : Instruction) : ExecutionContext :=
  { state := s, memory := m, instr := instr
    nextRip := s.rip + BitVec.ofNat 64 (max 1 instr.length) }

/-- The state behind a handler, at the next instruction. -/
def ExecutionContext.advanced (c : ExecutionContext) : CpuState :=
  c.state.at (if c.controlFlowTaken then c.state.rip else c.nextRip)

/-- In quiet states no debug exception follows. -/
theorem debugExceptions_quiet {p : Prologue} (hp : p.checkDataBreakpoints = false)
    (c : ExecutionContext) (r : ExecutionResult) {g : Rig W} (h : g.state.Quiet) :
    debugExceptions p c false false r g = (.finish r, g) := by
  have hnone : (!(g.state.debugSuppression != 0#8) && g.state.pendingDebugHitBits == 0#64 &&
      !p.checkDataBreakpoints && !g.state.pendingSingleStep && !false) = true := by
    rw [h.noShadow, h.noHits, h.noStep, hp]
    rfl
  unfold debugExceptions
  exact if_pos hnone

/-- An attempt at an installed instruction is its handler. -/
theorem execute_installed {env : Env W} (hhooks : env.NoCoreHooks) {instr : Instruction}
    (hvalid : instr.code ≠ .invalid) (hallowed : env.simdProfileAllows instr = true) {g : Rig W}
    (hquiet : g.state.Quiet) {c : ExecutionContext} (hc : c.state.Quiet)
    (hrun : env.handler (normalizeReportedCode instr.code)
      (guestContext g.state g.memory instr) = .ok () c) :
    ∃ r l, execute env g.state.rip (decodedInstruction env.simdProfileAllows instr) g =
      (.finish r, { state := c.advanced, memory := c.memory, world := g.world, log := l }) ∧
        r.reason = .none := by
  let p := prologue env (decodedInstruction env.simdProfileAllows instr) g.state
  -- With no breakpoint enabled neither kind of hit is looked for.
  have hbreak : hasEnabledExecuteBreakpoints g.state = false := by
    unfold hasEnabledExecuteBreakpoints
    rw [hquiet.noBreakpoints]
    rfl
  have hdata : p.checkDataBreakpoints = false := by
    show hasEnabledDataBreakpoints g.state = false
    unfold hasEnabledDataBreakpoints
    rw [hquiet.noBreakpoints]
    rfl
  have hnext : p.nextRip = g.state.rip + BitVec.ofNat 64 (max 1 instr.length) :=
    hquiet.maskInstructionPointer _
  have hhandler : (env.handler p.entry.reportedCode).run (g.context p.instr p.nextRip) = ({}, c) := by
    rw [hnext]
    show Handler.run _ (guestContext g.state g.memory instr) = _
    unfold Handler.run
    rw [show env.handler p.entry.reportedCode (guestContext g.state g.memory instr) = .ok () c from hrun]
  -- There is nothing to clear, so the attempt starts on the rig as it is.
  have hself : g.mapState clearSuppression = g := by
    show Rig.mk (Machine.mk (clearSuppression g.state) g.memory g.world) g.log = g
    rw [hquiet.clearSuppression]
  have hstate : (coreRig env p c g).state = c.advanced := by
    rw [coreRig_state]
    unfold retire
    rw [hc.maskInstructionPointer]
    exact (hc.atRip _).maskStack
  have hstep := @execute_plain W env hhooks g.state.rip
    (decodedInstruction env.simdProfileAllows instr) hvalid hallowed g
    (collectExecuteBreakpointHits_disabled hbreak _)
  -- No hook, no trap, no shadow: the step is the handler's run and the debug checks behind it.
  rw [hself, hquiet.clearSuppression, hquiet.noTrap, hquiet.noShadow] at hstep
  rw [hstep]
  refine ⟨{ retired := 1, code := some p.entry.reportedCode }, (coreRig env p c g).log, ?_, rfl⟩
  show core env p false false g = _
  rw [core_eq, hhandler]
  dsimp only
  rw [if_neg (fun h => h rfl)]
  rw [debugExceptions_quiet hdata _ _ (by rw [hstate]; exact hc.atRip _)]
  refine congrArg (Prod.mk _) ?_
  rw [← hstate]
  unfold coreRig
  cases env.collectCodeStats <;> rfl

/-- **One instruction of a guest**: a pass of the run loop is the handler of
the instruction that lies at `RIP`. -/
theorem pass_installed {env : RunEnv W} (henv : env.Undisturbed) {s : Nat × Executor × Machine W}
    (hs : Guest.Ready env s) {instr : Instruction} {handler : Handler}
    (hinst : env.Installed s.2.2.memory s.2.2.state.rip instr handler) {c : ExecutionContext}
    (hrun : handler (guestContext s.2.2.state s.2.2.memory instr) = .ok () c)
    (hc : c.state.Quiet) (hcode : Memory.CodeBefore s.2.2.memory c.memory) :
    ∃ ex, env.pass s = .again (s.1 + 1, ex, { s.2.2 with state := c.advanced, memory := c.memory }) ∧
      Guest.Ready env (s.1 + 1, ex, { s.2.2 with state := c.advanced, memory := c.memory }) := by
  obtain ⟨i, ex, m⟩ := s
  obtain ⟨hrunning, hcoh, hquiet⟩ := hs
  dsimp only at hrunning hcoh hquiet hinst hrun hcode ⊢
  let g : Rig W := { m with log := env.openLog ex.log }
  -- The host's stop flag is down, and no hook reads or writes the context.
  have hcollect : env.collect (ex, m) = (ex, m) := by
    have hworld : env.takeStop m.world = (false, m.world) := henv.takeStop m.world
    unfold RunEnv.collect
    rw [hworld]
    show ({ ex with stopRequested := ex.stopRequested || false }, m) = (ex, m)
    rw [Bool.or_false]
  have henter : env.enter ex m = g := by
    unfold Env.enter syncContext
    rw [henv.contextRead]
    show Rig.mk (Machine.mk (enterStep m.state) m.memory m.world) _ = _
    rw [hquiet.enterStep]
  -- Fetch, execute and conclude, each by its own rule.
  obtain ⟨hcoh', hfetch⟩ := fetch_installed (g := g) henv.decode hcoh hquiet hinst
  obtain ⟨r, l, hexecute, hr⟩ := execute_installed (g := g) henv.hooks hinst.valid hinst.allowed
    hquiet hc (hinst.dispatch.symm ▸ hrun)
  have hattempt : env.attempt m.state.rip (ex.caches, g) = .done (r, (env.fetch (ex.caches, g)).1,
      { state := c.advanced, memory := c.memory, world := m.world, log := l }) := by
    rw [env.attempt_eq, hfetch]
    unfold Env.attemptFetched
    dsimp only
    rw [show m.state.rip = g.state.rip from rfl, hexecute]
    rfl
  have hstep : env.step ex m = (r, { ex with caches := (env.fetch (ex.caches, g)).1, log := l },
      { m with state := c.advanced, memory := c.memory }) := by
    rw [Env.step_done hrunning (by rw [henter]; exact hattempt)]
    unfold Env.leave syncContext
    rw [henv.contextWrite]
  refine ⟨{ ex with caches := (env.fetch (ex.caches, g)).1, log := l }, ?_, hrunning,
    hcoh'.advance hcode, hc.atRip _⟩
  unfold RunEnv.pass
  dsimp only
  rw [hcollect, hstep]
  dsimp only
  rw [hrunning, if_neg Bool.false_ne_true, if_neg (fun h => h hr)]

/-! ## Triples -/

namespace Guest

/-- A condition between two instructions. -/
def At (env : RunEnv W) (P : CpuState → Memory → Prop) (s : Nat × Executor × Machine W) : Prop :=
  Ready env s ∧ P s.2.2.state s.2.2.memory

/-- The guest gets from a state in `P` to one in `Q`. -/
def Leads (env : RunEnv W) (P Q : CpuState → Memory → Prop) : Prop :=
  Triple env.pass (At env P) (At env Q)

variable {env : RunEnv W} {P Q R : CpuState → Memory → Prop}

/-- The rule of sequence. -/
theorem Leads.seq (h : Leads env P Q) (h' : Leads env Q R) : Leads env P R := Triple.seq h h'

/-- The rule of a loop with a counter. -/
theorem Leads.count {I : Nat → CpuState → Memory → Prop} (h : ∀ n, Leads env (I (n + 1)) (I n))
    (n : Nat) : Leads env (I n) (I 0) := by
  have hcount := @Triple.count _ _ env.pass (fun n => At env (I n)) h n
  exact hcount

/-- The rule of a loop. -/
theorem Leads.loop {α : Type*} {r : α → α → Prop} (hwf : WellFounded r)
    {I : α → CpuState → Memory → Prop}
    (h : ∀ a, Leads env (I a) fun s m => Q s m ∨ ∃ b, r b a ∧ I b s m) (a : α) :
    Leads env (I a) Q := by
  refine @Triple.loop _ _ env.pass _ _ r hwf (fun a => At env (I a)) (fun a => ?_) a
  refine Triple.conseq (h a) (fun _ hs => hs) ?_
  rintro s ⟨hready, hq | ⟨b, hb, hi⟩⟩
  · exact Or.inl ⟨hready, hq⟩
  · exact Or.inr ⟨b, hb, hready, hi⟩

/-- **The rule of one instruction.** -/
theorem instruction (henv : env.Undisturbed) (instr : Instruction) (handler : Handler)
    (h : ∀ s m, s.Quiet → P s m → env.Installed m s.rip instr handler ∧
      ∃ c, handler (guestContext s m instr) = .ok () c ∧ c.state.Quiet ∧
        Memory.CodeBefore m c.memory ∧ Q c.advanced c.memory) : Leads env P Q := by
  refine Triple.one ?_
  rintro ⟨i, ex, m⟩ ⟨hready, hp⟩
  obtain ⟨hinst, c, hrun, hquiet, hcode, hq⟩ := h m.state m.memory hready.quiet hp
  obtain ⟨ex', hpass, hready'⟩ := pass_installed henv hready hinst hrun hquiet hcode
  exact ⟨_, hpass, hready', hq⟩

/-- This state and this memory. -/
def Exactly (s : CpuState) (m : Memory) (s' : CpuState) (m' : Memory) : Prop := s' = s ∧ m' = m

/-- One instruction from a known state. -/
theorem exactly (henv : env.Undisturbed) {s : CpuState} {m : Memory} {instr : Instruction}
    {handler : Handler} (hinst : env.Installed m s.rip instr handler) {c : ExecutionContext}
    (hrun : s.Quiet → handler (guestContext s m instr) = .ok () c) (hquiet : s.Quiet → c.state.Quiet)
    (hcode : Memory.CodeBefore m c.memory) :
    Leads env (Exactly s m) (Exactly c.advanced c.memory) := by
  refine instruction henv instr handler fun s' m' hs' hexact => ?_
  obtain ⟨rfl, rfl⟩ := hexact
  exact ⟨hinst, c, hrun hs', hquiet hs', hcode, rfl, rfl⟩

/-- Code between two conditions, from known state to known state. -/
theorem of_exactly (h : ∀ s m, s.Quiet → P s m →
    ∃ s' m', Leads env (Exactly s m) (Exactly s' m') ∧ Q s' m') : Leads env P Q := by
  rintro ⟨i, ex, m⟩ ⟨hready, hp⟩
  obtain ⟨s', m', hcode, hq⟩ := h m.state m.memory hready.quiet hp
  obtain ⟨n, t, hreach, hready', rfl, rfl⟩ := hcode (i, ex, m) ⟨hready, rfl, rfl⟩
  exact ⟨n, t, hreach, hready', hq⟩

/-- **A triple is a property of `Executor::run`**: for some limit the run ends
at the limit, with so many instructions retired, in a state that the triple
promises. -/
theorem run (henv : env.Undisturbed) (h : Leads env P Q) {ex : Executor} {m : Machine W}
    (hready : Ready env (0, ex, m)) (hp : P m.state m.memory) :
    ∃ n, (env.run n (ex, m)).1 = { reason := .executionLimit, retired := n } ∧
      Q (env.run n (ex, m)).2.2.state (env.run n (ex, m)).2.2.memory := by
  obtain ⟨n, ⟨i, ex', m'⟩, ⟨_, hq⟩, _, hretry⟩ := Triple.retry h (s := (0, ex, m)) ⟨hready, hp⟩
  have hrun : env.run n (ex, m) =
      env.report { reason := .executionLimit, retired := n } (ex', m') := by
    have hloop := hretry (fun t => env.report { reason := .executionLimit, retired := n } t.2) 0
    rw [Nat.zero_add] at hloop
    exact hloop
  have hmachine : (env.report { reason := .executionLimit, retired := n } (ex', m')).2.2 = m' := by
    unfold RunEnv.report Env.reportStop Env.notifyStopHooks
    rw [henv.stopHooks]
    rfl
  refine ⟨n, ?_, ?_⟩
  · rw [hrun]
    rfl
  · rw [hrun, hmachine]
    exact hq

end Guest

end Seven
