import Seven.Executor.Confinement
import Seven.Executor.DecodeCache
import Seven.Executor.Paths
import Seven.Executor.Run
import Seven.Handlers.AccessSizes
import Seven.Memory.Snapshot

/-!
# Memories that answer alike

Two memories may differ in their epoch, their ids and the order of their
device regions and still answer every access alike (`Memory.Alike`). A program
cannot tell them apart: it only asks (`AccessM.toHandler_alike`). Nor can the
executor, whose attempts are made of programs: steps on two such memories end
alike (`ProgramEnv.step_alike`), and so do runs.

> `ProgramEnv.run_alike`: two executors with coherent caches, on memories
> that answer alike, run to the same result, state and pages.
-/

namespace Seven

open Seven.Lib
open Seven.Lib.Requests (ResultsAgree)

/-! ## Memories -/

namespace Memory

/-- Every access of a size goes the same way in both. -/
def Alike (m m' : Memory) : Prop := ∀ (a : U64) (n : Nat), SizeOk n → SameRoute m m' a n

/-- The pages are the same. -/
theorem Alike.pages {m m' : Memory} (h : Alike m m') : m'.pages = m.pages :=
  (h 0#64 1 (by decide)).pages

/-- So are the hooks. -/
theorem Alike.accessHooks {m m' : Memory} (h : Alike m m') : m'.accessHooks = m.accessHooks :=
  (h 0#64 1 (by decide)).accessHooks

/-- Regions and their bounds decide which region answers. -/
theorem SameAccess.findMmioRegion {m m' : Memory} (h : SameAccess m m') (a : U64) (n : Nat) :
    m'.findMmioRegion a n = m.findMmioRegion a n := by
  unfold Memory.findMmioRegion
  rw [h.mmioRegions, h.mmioMinBase, h.mmioMaxEnd]

/-- A write is answered alike and leaves memories alike. -/
theorem Alike.write {m m' : Memory} (h : Alike m m') (a : U64) {src : List Byte}
    (hsrc : SizeOk src.length) (kind : MemoryAccessKind) :
    (m'.write a src kind).2 = (m.write a src kind).2 ∧
      Alike (m.write a src kind).1 (m'.write a src kind).1 := by
  obtain ⟨hflag, hpages⟩ := (h a src.length hsrc).write kind
  refine ⟨hflag, ?_⟩
  have hlen := Nat.le_of_lt hsrc.2
  have hleft := write_sameAccess m a hlen kind
  have hright := write_sameAccess m' a hlen kind
  intro b n hn
  have hroute := h b n hn
  constructor
  case pages => exact hpages
  case accessHooks => rw [hright.accessHooks, hleft.accessHooks, hroute.accessHooks]
  case passthroughRead =>
    rw [hright.passthroughRead, hleft.passthroughRead, hroute.passthroughRead]
  case passthroughWrite =>
    rw [hright.passthroughWrite, hleft.passthroughWrite, hroute.passthroughWrite]
  case noMmio => rw [hright.mmioRegions, hleft.mmioRegions, hroute.noMmio]
  case region => rw [hright.findMmioRegion, hleft.findMmioRegion, hroute.region]

end Memory

/-! ## Programs -/

/-- Contexts that differ in memories that answer alike. -/
structure SameContext (ctx ctx' : ExecutionContext) : Prop where
  rest : ctx'.withoutMemory = ctx.withoutMemory
  memory : Memory.Alike ctx.memory ctx'.memory

/-- The state is the same. -/
theorem SameContext.state {ctx ctx' : ExecutionContext} (h : SameContext ctx ctx') :
    ctx'.state = ctx.state := by
  have hstate := congrArg ExecutionContext.state h.rest
  exact hstate

/-- So is the instruction. -/
theorem SameContext.instr {ctx ctx' : ExecutionContext} (h : SameContext ctx ctx') :
    ctx'.instr = ctx.instr := by
  have hinstr := congrArg ExecutionContext.instr h.rest
  exact hinstr

/-- **One request.** -/
theorem DataOp.serve_alike (op : DataOp) (ctx ctx' : ExecutionContext) (hop : op.Sized)
    (h : SameContext ctx ctx') : ResultsAgree SameContext (op.serve ctx) (op.serve ctx') := by
  cases op with
  | look => exact ⟨h.rest.symm, h⟩
  | change f =>
    refine ⟨rfl, ?_, h.memory⟩
    exact congrArg (fun c => (f c).withoutMemory) h.rest
  | raise r => exact ⟨rfl, h⟩
  | load form size =>
    refine ⟨?_, h⟩
    -- The two memories read the same bytes, at an address formed from the same state.
    have hread := (h.memory (form.address ctx.state ctx.instr) size hop).read .dataRead
    rw [h.state, h.instr]
    exact hread.symm
  | store form bytes =>
    have hwrite := h.memory.write (form.address ctx.state ctx.instr) hop .dataWrite
    have haddress : form.address ctx'.state ctx'.instr = form.address ctx.state ctx.instr := by
      rw [h.state, h.instr]
    unfold DataOp.serve
    dsimp only
    rw [haddress]
    exact ⟨hwrite.1.symm, h.rest, hwrite.2⟩
  -- A probe looks at the permissions only, which the pages carry.
  | probe address size required =>
    refine ⟨?_, h⟩
    show ctx.memory.hasPermissions address size required =
      ctx'.memory.hasPermissions address size required
    unfold Memory.hasPermissions
    rw [h.memory.pages]

/-- **A program cannot tell the memories apart.** -/
theorem AccessM.toHandler_alike {α : Type} {p : AccessM α} (hp : p.Sized)
    {ctx ctx' : ExecutionContext} (h : SameContext ctx ctx') :
    ResultsAgree SameContext (p.toHandler ctx) (p.toHandler ctx') :=
  Requests.run_agree DataOp.serve_alike hp h

/-- As a handler it returns the same. -/
theorem AccessM.run_alike {p : AccessM Unit} (hp : p.Sized) {ctx ctx' : ExecutionContext}
    (h : SameContext ctx ctx') :
    (Handler.run p.toHandler ctx').1 = (Handler.run p.toHandler ctx).1 ∧
      SameContext (Handler.run p.toHandler ctx).2 (Handler.run p.toHandler ctx').2 := by
  have hagree := toHandler_alike hp h
  unfold Handler.run
  cases hleft : p.toHandler ctx with
  | ok u c =>
    cases hright : p.toHandler ctx' with
    | ok u' c' =>
      rw [hleft, hright] at hagree
      exact ⟨rfl, hagree.2⟩
    | error r c' =>
      rw [hleft, hright] at hagree
      exact hagree.elim
  | error r c =>
    cases hright : p.toHandler ctx' with
    | ok u' c' =>
      rw [hleft, hright] at hagree
      exact hagree.elim
    | error r' c' =>
      rw [hleft, hright] at hagree
      exact ⟨hagree.1.symm, hagree.2⟩

/-! ## Attempts -/

/-- Rigs of the same state and world, on memories that answer alike; the
records may differ. -/
structure SameRig {W : Type} (g g' : Rig W) : Prop where
  state : g'.state = g.state
  world : g'.world = g.world
  memory : Memory.Alike g.memory g'.memory

/-- Machines of the same state and world, on memories that answer alike. -/
structure MachinesAlike {W : Type} (m m' : Machine W) : Prop where
  state : m'.state = m.state
  world : m'.world = m.world
  memory : Memory.Alike m.memory m'.memory

/-- Outcomes of two attempts that agree. -/
def OutcomesAgree {W : Type} (o o' : Outcome × Rig W) : Prop := o'.1 = o.1 ∧ SameRig o.2 o'.2

/-- An environment without hooks, whose handlers are programs of sized
accesses. -/
structure ProgramEnv (W : Type) extends AccessEnv W, RunEnv W where
  hooks : toEnv.NoCoreHooks
  fault : faultHooks = []
  stop : stopHooks = []
  sized : ∀ code p, otherProgram code = some p → p.Sized

section attempt

variable {W : Type} {g g' : Rig W}

/-- A change of the state. -/
theorem SameRig.mapState (h : SameRig g g') (f : CpuState → CpuState) :
    SameRig (g.mapState f) (g'.mapState f) := ⟨congrArg f h.state, h.world, h.memory⟩

/-- The handlers' contexts. -/
theorem SameRig.context (h : SameRig g g') (instr : Instruction) (nextRip : U64) :
    SameContext (g.context instr nextRip) (g'.context instr nextRip) := by
  refine ⟨?_, h.memory⟩
  unfold Rig.context ExecutionContext.withoutMemory
  rw [h.state]

/-- What a handler leaves. -/
theorem SameRig.fromContext (h : SameRig g g') {ctx ctx' : ExecutionContext}
    (hctx : SameContext ctx ctx') : SameRig (g.fromContext ctx) (g'.fromContext ctx') :=
  ⟨hctx.state, h.world, hctx.memory⟩

/-- Phases that agree, one after the other. -/
theorem followedBy_alike {phase : Phase W} {next : Rig W → Outcome × Rig W}
    (hphase : (phase g').1 = (phase g).1 ∧ SameRig (phase g).2 (phase g').2)
    (hnext : ∀ {g g' : Rig W}, SameRig g g' → OutcomesAgree (next g) (next g')) :
    OutcomesAgree (Phase.followedBy phase next g) (Phase.followedBy phase next g') := by
  obtain ⟨hanswer, hrig⟩ := hphase
  unfold Phase.followedBy
  rcases hx : phase g with ⟨o, u⟩
  rcases hy : phase g' with ⟨o', u'⟩
  rw [hx, hy] at hanswer hrig
  have ho : o' = o := hanswer
  subst ho
  cases o' with
  | some outcome => exact ⟨rfl, hrig⟩
  | none => exact hnext hrig

/-- The execute breakpoints. -/
theorem executeBreakpoints_alike (startRip : U64) (p : Prologue) (suppressed : Bool)
    (h : SameRig g g') :
    (executeBreakpoints startRip p suppressed g').1 = (executeBreakpoints startRip p suppressed g).1 ∧
      SameRig (executeBreakpoints startRip p suppressed g).2
        (executeBreakpoints startRip p suppressed g').2 := by
  rw [executeBreakpoints_eq, executeBreakpoints_eq]
  unfold breakpointRun
  rw [h.state]
  -- The test for a hit reads the state, which the two rigs share.
  by_cases hskip : (suppressed || !p.checkExecuteBreakpoints ||
      collectExecuteBreakpointHits g.state startRip == 0#64) = true
  · rw [if_pos hskip, if_pos hskip]
    exact ⟨rfl, h⟩
  · rw [if_neg hskip, if_neg hskip]
    have hmarked := h.mapState fun s =>
      s.setDr 6 (s.dr 6 ||| collectExecuteBreakpointHits g.state startRip)
    -- The delivery of the `#DB` is a program over memory, run on two contexts alike.
    obtain ⟨hresult, hctx⟩ := AccessM.run_alike
      (AccessM.sized_dispatchInterrupt 1#8 startRip none false) (hmarked.context p.instr p.nextRip)
    have hrig := h.fromContext hctx
    unfold DebugDelivery.result
    dsimp only
    rw [← AccessM.toHandler_dispatchInterrupt, hresult]
    split
    next => exact ⟨rfl, hrig⟩
    next =>
      refine ⟨rfl, ?_⟩
      dsimp only
      exact hrig.mapState _

/-- A debug event delivered. -/
theorem deliver_alike (e : DebugEvent) (p : Prologue) {ctx ctx' : ExecutionContext}
    (hpush : ctx'.pushRfForDebug = ctx.pushRfForDebug) (h : SameRig g g') :
    (e.deliver p ctx' g').1 = (e.deliver p ctx g).1 ∧
      SameRig (e.deliver p ctx g).2 (e.deliver p ctx' g').2 := by
  have hraised := h.mapState e.raise
  rw [e.deliver_eq, e.deliver_eq]
  unfold DebugDelivery.result DebugEvent.delivery
  dsimp only
  rw [hpush, hraised.state, ← AccessM.toHandler_dispatchInterrupt]
  obtain ⟨hresult, hctx⟩ := AccessM.run_alike
    (AccessM.sized_dispatchInterrupt 1#8 (g.mapState e.raise).state.rip none ctx.pushRfForDebug)
    (hraised.context p.instr (g.mapState e.raise).state.rip)
  exact ⟨hresult, hraised.fromContext hctx⟩

/-- The debug exceptions. -/
theorem debugExceptions_alike (p : Prologue) {ctx ctx' : ExecutionContext}
    (hctx : SameContext ctx ctx') (debugSuppressed tfActive : Bool) (h : SameRig g g')
    (r : ExecutionResult) :
    OutcomesAgree (debugExceptions p ctx debugSuppressed tfActive r g)
      (debugExceptions p ctx' debugSuppressed tfActive r g') := by
  have hhits : ctx'.debugHitBits = ctx.debugHitBits := by
    have hfield := congrArg ExecutionContext.debugHitBits hctx.rest
    exact hfield
  have hpush : ctx'.pushRfForDebug = ctx.pushRfForDebug := by
    have hfield := congrArg ExecutionContext.pushRfForDebug hctx.rest
    exact hfield
  -- The event is decided by fields the two contexts share.
  have hcurrent : currentHits p ctx' g'.state = currentHits p ctx g.state := by
    unfold currentHits
    rw [hhits, h.state]
  have hevent : debugEvent p ctx' debugSuppressed tfActive g'.state =
      debugEvent p ctx debugSuppressed tfActive g.state := by
    unfold debugEvent
    rw [hcurrent, h.state]
  rw [debugExceptions_eq, debugExceptions_eq, hevent]
  cases debugEvent p ctx debugSuppressed tfActive g.state with
  | none =>
    refine ⟨rfl, ?_, h.world, h.memory⟩
    show withholdHits p ctx' g'.state = withholdHits p ctx g.state
    unfold withholdHits
    rw [hcurrent, h.state]
  | some e =>
    obtain ⟨hresult, hrig⟩ := deliver_alike e p hpush h
    refine ⟨?_, hrig⟩
    dsimp only
    rw [hresult]

/-- What stands behind the handler. -/
theorem coreRig_alike (env : Env W) (p : Prologue) {ctx ctx' : ExecutionContext}
    (hctx : SameContext ctx ctx') (h : SameRig g g') :
    SameRig (coreRig env p ctx g) (coreRig env p ctx' g') := by
  have hflow : ctx'.controlFlowTaken = ctx.controlFlowTaken := by
    have hfield := congrArg ExecutionContext.controlFlowTaken hctx.rest
    exact hfield
  have hnext : ctx'.nextRip = ctx.nextRip := by
    have hfield := congrArg ExecutionContext.nextRip hctx.rest
    exact hfield
  have hrig := h.fromContext hctx
  unfold coreRig
  rw [hflow, hnext]
  dsimp only
  split
  next =>
    have hcounted : SameRig
        (((g.fromContext ctx).mapLog (Log.countCode · p.entry.reportedCode)).mapLog Log.countRetired)
        (((g'.fromContext ctx').mapLog (Log.countCode · p.entry.reportedCode)).mapLog
          Log.countRetired) := ⟨hrig.state, hrig.world, hrig.memory⟩
    exact hcounted.mapState _
  next => exact hrig.mapState _

end attempt

namespace ProgramEnv

variable {W : Type} (A : ProgramEnv W)

/-- Every program asks for fit sizes. -/
theorem sized_program (code : Code) : (A.program code).Sized := by
  have hother : ∀ code, ((A.otherProgram code).getD AccessM.unsupported).Sized := by
    intro code
    cases hcode : A.otherProgram code with
    | none => exact AccessM.sized_look.bind fun _ => AccessM.sized_raise _
    | some p => exact A.sized code p hcode
  cases code with
  | stack c => exact StackShape.sized_program c.sizesOk
  | rmw c => exact c.sized_program
  | string op width => exact AccessM.sized_stringImpl (SizeOk.of_le width.bytes_bounds) op
  | _ => exact hother _

variable {g g' : Rig W}

/-- The core of an attempt. -/
theorem core_alike (p : Prologue) (debugSuppressed tfActive : Bool) (h : SameRig g g') :
    OutcomesAgree (core A.toEnv p debugSuppressed tfActive g)
      (core A.toEnv p debugSuppressed tfActive g') := by
  obtain ⟨hresult, hctx⟩ := AccessM.run_alike (A.sized_program p.entry.reportedCode)
    (h.context p.instr p.nextRip)
  rw [A.toHandler_program] at hresult hctx
  rw [core_eq, core_eq]
  dsimp only
  rw [hresult]
  split
  next => exact ⟨rfl, h.fromContext hctx⟩
  next => exact debugExceptions_alike p hctx _ _ (coreRig_alike A.toEnv p hctx h) _

/-- An attempt on a decoded instruction. -/
theorem execute_alike (startRip : U64) (d : DecodedInstruction) (h : SameRig g g') :
    OutcomesAgree (execute A.toEnv startRip d g) (execute A.toEnv startRip d g') := by
  have hclear := h.mapState clearSuppression
  unfold execute
  rw [h.state]
  dsimp only
  -- Undecodable, then switched off, then the three hooks, then the core: each answers alike.
  split
  next =>
    unfold invalidOpcode
    rw [A.hooks.runTrapHooks, A.hooks.runTrapHooks]
    refine ⟨?_, h⟩
    show Outcome.fault (faultAt .invalidOpcode g'.state.rip _) false = _
    rw [h.state]
    rfl
  next =>
    split
    next => exact ⟨rfl, h⟩
    next =>
      rw [hclear.state]
      refine followedBy_alike (executeBreakpoints_alike startRip _ _ hclear) fun hbreak => ?_
      refine followedBy_alike ?_ fun htrap => followedBy_alike ?_ fun hhook => ?_
      · rw [A.hooks.traps, A.hooks.traps]
        exact ⟨rfl, hbreak⟩
      · rw [A.hooks.instructionHooks, A.hooks.instructionHooks]
        exact ⟨rfl, htrap⟩
      · exact A.core_alike _ _ _ hhook

/-! ## Steps -/

/-- The end of an attempt: nobody recovers from a fault. -/
theorem conclude_alike (startRip : U64) {o o' : Outcome × Rig W} (h : OutcomesAgree o o') :
    ∃ r t t', A.conclude startRip o = .done (r, t) ∧ A.conclude startRip o' = .done (r, t') ∧
      SameRig t t' := by
  obtain ⟨o, g⟩ := o
  obtain ⟨o', g'⟩ := o'
  obtain ⟨ho, hrig⟩ := h
  have ho : o' = o := ho
  subst ho
  -- No fault hook is installed, so no fault is recovered from.
  have hrecover : ∀ (r : ExecutionResult) (g : Rig W),
      A.tryRecoverFault startRip r g = (false, g) := by
    intro r g
    unfold Env.tryRecoverFault Env.runFaultHooks
    rw [A.fault]
    rfl
  have hstop : ∀ {r : ExecutionResult} {g g' : Rig W}, SameRig g g' →
      SameRig (A.stopWith startRip r g).2 (A.stopWith startRip r g').2 := by
    intro r g g' h
    unfold Env.stopWith Env.reportStop Env.notifyStopHooks
    rw [A.stop]
    exact ⟨h.state, h.world, h.memory⟩
  cases o' with
  | finish r => exact ⟨r, g, g', rfl, rfl, hrig⟩
  | abort r => exact ⟨r, _, _, rfl, rfl, hstop hrig⟩
  | fault r clear =>
    have hcleared : SameRig (if clear then g.mapState clearPending else g)
        (if clear then g'.mapState clearPending else g') := by
      cases clear with
      | true => exact hrig.mapState clearPending
      | false => exact hrig
    unfold Env.conclude
    dsimp only
    rw [hrecover, hrecover]
    exact ⟨r, _, _, rfl, rfl, hstop hcleared⟩

/-- Without caches the same instruction is found. -/
theorem fetch_alike (c c' : Caches) (h : SameRig g g') :
    (A.uncached.fetch (c', g')).2 = (A.uncached.fetch (c, g)).2 := by
  have hread := (h.memory g.state.rip maxInstructionLength (by decide)).read .instructionFetch
  unfold Env.fetch
  rw [Env.uncached_canUse, Env.uncached_canUse, fetch_uncached, fetch_uncached, h.state, hread]

/-- An attempt. -/
theorem attemptFetched_alike (startRip : U64) (fetched : Fetched) (h : SameRig g g') :
    OutcomesAgree (A.attemptFetched startRip fetched g) (A.attemptFetched startRip fetched g') := by
  unfold Env.attemptFetched
  cases fetched with
  | decoded d => exact A.execute_alike startRip d h
  | pageFault =>
    refine ⟨?_, h⟩
    show Outcome.fault (faultAt .pageFault g'.state.rip none) false = _
    rw [h.state]
  | decodeError =>
    refine ⟨?_, h⟩
    show Outcome.fault (faultAt .decodeError g'.state.rip none) false = _
    rw [h.state]

/-- The rigs of the first attempts. -/
theorem enter_alike (ex ex' : Executor) {m m' : Machine W} (h : MachinesAlike m m') :
    SameRig (A.enter ex m) (A.enter ex' m') := by
  have hsync : SameRig (syncContext A.contextRead ({ m with log := A.openLog ex.log } : Rig W))
      (syncContext A.contextRead ({ m' with log := A.openLog ex'.log } : Rig W)) := by
    unfold syncContext
    cases A.contextRead with
    | none => exact ⟨h.state, h.world, h.memory⟩
    | some f =>
      dsimp only
      rw [h.state, h.world]
      exact ⟨rfl, rfl, h.memory⟩
  exact hsync.mapState enterStep

/-- The end of a step. -/
theorem leave_alike (ex ex' : Executor) (r : ExecutionResult) (c c' : Caches) (h : SameRig g g') :
    MachinesAlike (A.leave ex (r, c, g)).2.2 (A.leave ex' (r, c', g')).2.2 := by
  unfold Env.leave syncContext
  cases A.contextWrite with
  | none => exact ⟨h.state, h.world, h.memory⟩
  | some f =>
    dsimp only
    rw [h.state, h.world]
    exact ⟨rfl, rfl, h.memory⟩

/-- **One step** on two memories that answer alike. -/
theorem step_alike (hdecode : DecodesWindow A.decode) {ex ex' : Executor} {m m' : Machine W}
    (hrequest : ex'.stopRequested = ex.stopRequested) (h : MachinesAlike m m')
    (hcoh : A.Coherent ⟨ex, m⟩) (hcoh' : A.Coherent ⟨ex', m'⟩)
    (hsafe : A.StepSafe ⟨ex, m⟩) (hsafe' : A.StepSafe ⟨ex', m'⟩) :
    (A.step ex' m').1 = (A.step ex m).1 ∧
      (A.step ex' m').2.1.stopRequested = (A.step ex m).2.1.stopRequested ∧
      MachinesAlike (A.step ex m).2.2 (A.step ex' m').2.2 := by
  cases hrunning : ex.stopRequested with
  | true =>
    rw [Env.step_stopped hrunning A.stop, Env.step_stopped (hrequest.trans hrunning) A.stop]
    exact ⟨rfl, hrequest, h⟩
  | false =>
    have hrunning' := hrequest.trans hrunning
    have hnot : ∀ {ex : Executor}, ex.stopRequested = false → ¬ ex.stopRequested = true := by
      intro ex hex
      rw [hex]
      decide
    unfold Env.StepSafe at hsafe hsafe'
    rw [if_neg (hnot hrunning)] at hsafe
    rw [if_neg (hnot hrunning')] at hsafe'
    have hrig := A.enter_alike ex ex' h
    -- both fetch what they would fetch without their caches
    have hfetch := (A.fetch_agrees hdecode (c := ex.caches) (g := A.enter ex m)
      (by rw [A.enter_memory]; exact hcoh) hsafe.1 {}).2
    have hfetch' := (A.fetch_agrees hdecode (c := ex'.caches) (g := A.enter ex' m')
      (by rw [A.enter_memory]; exact hcoh') hsafe'.1 {}).2
    have hsame : (A.fetch (ex'.caches, A.enter ex' m')).2 = (A.fetch (ex.caches, A.enter ex m)).2 := by
      rw [hfetch, hfetch', A.fetch_alike {} {} hrig]
    obtain ⟨r, t, t', hdone, hdone', hend⟩ := A.conclude_alike (A.enter ex m).state.rip
      (A.attemptFetched_alike (A.enter ex m).state.rip
        (A.fetch (ex.caches, A.enter ex m)).2 hrig)
    have hattempt : A.attempt (A.enter ex m).state.rip (ex.caches, A.enter ex m) =
        .done (r, (A.fetch (ex.caches, A.enter ex m)).1, t) := by
      rw [A.attempt_eq, hdone]
      rfl
    have hattempt' : A.attempt (A.enter ex' m').state.rip (ex'.caches, A.enter ex' m') =
        .done (r, (A.fetch (ex'.caches, A.enter ex' m')).1, t') := by
      rw [A.attempt_eq, hrig.state, hsame, hdone']
      rfl
    rw [Env.step_done hrunning hattempt, Env.step_done hrunning' hattempt']
    refine ⟨rfl, ?_, A.leave_alike ex ex' r _ _ hend⟩
    show ex'.stopRequested = ex.stopRequested
    exact hrequest

/-! ## Runs -/

/-- The discipline of the caches, in the next `n` passes of a run. -/
def PassesSafe (n : Nat) (s : Nat × Executor × Machine W) : Prop :=
  ∀ k u, k < n → Reaches A.pass k s u →
    A.StepSafe ⟨(A.collect u.2).1, (A.collect u.2).2⟩

/-- Two runs between two passes, with `n` passes to go. -/
structure RunsAlike (n : Nat) (s s' : Nat × Executor × Machine W) : Prop where
  index : s'.1 = s.1
  request : s'.2.1.stopRequested = s.2.1.stopRequested
  machine : MachinesAlike s.2.2 s'.2.2
  coherent : A.Coherent ⟨s.2.1, s.2.2⟩
  coherent' : A.Coherent ⟨s'.2.1, s'.2.2⟩
  safe : A.PassesSafe n s
  safe' : A.PassesSafe n s'

/-- A run's pass collects alike. -/
theorem collect_alike {s s' : Executor × Machine W}
    (hrequest : s'.1.stopRequested = s.1.stopRequested) (h : MachinesAlike s.2 s'.2) :
    (A.collect s').1.stopRequested = (A.collect s).1.stopRequested ∧
      MachinesAlike (A.collect s).2 (A.collect s').2 := by
  unfold RunEnv.collect
  dsimp only
  rw [h.world, hrequest]
  exact ⟨rfl, h.state, rfl, h.memory⟩

/-- A run reports alike. -/
theorem report_alike (r : ExecutionResult) {s s' : Executor × Machine W}
    (h : MachinesAlike s.2 s'.2) :
    (A.report r s').1 = (A.report r s).1 ∧
      MachinesAlike (A.report r s).2.2 (A.report r s').2.2 := by
  unfold RunEnv.report Env.reportStop Env.notifyStopHooks
  rw [A.stop]
  exact ⟨rfl, h.state, h.world, h.memory⟩

/-- A pass is the collection and the step. -/
theorem pass_eq (s : Nat × Executor × Machine W) :
    A.pass s =
      let c := A.collect s.2
      let next := A.step c.1 c.2
      if c.1.stopRequested then .done (A.report { reason := .stopRequested, retired := s.1 } c)
      else if next.1.reason ≠ .none then
        .done ({ next.1 with retired := next.1.retired + s.1 }, next.2)
      else .again (s.1 + 1, next.2) := rfl

/-- One pass. -/
theorem pass_alike (hdecode : DecodesWindow A.decode) (n : Nat)
    (s s' : Nat × Executor × Machine W) (h : A.RunsAlike (n + 1) s s') :
    AnswersAgree (fun r r' : ExecutionResult × Executor × Machine W =>
      r'.1 = r.1 ∧ MachinesAlike r.2.2 r'.2.2) (A.RunsAlike n) (A.pass s) (A.pass s') := by
  have hsafe := h.safe 0 s (Nat.succ_pos n) (Reaches.refl s)
  have hsafe' := h.safe' 0 s' (Nat.succ_pos n) (Reaches.refl s')
  obtain ⟨hrequest, hmachine⟩ := A.collect_alike h.request h.machine
  have hcoh : A.Coherent ⟨(A.collect s.2).1, (A.collect s.2).2⟩ := h.coherent
  have hcoh' : A.Coherent ⟨(A.collect s'.2).1, (A.collect s'.2).2⟩ := h.coherent'
  obtain ⟨hresult, hflag, hnext⟩ := A.step_alike hdecode hrequest hmachine hcoh hcoh' hsafe hsafe'
  have hafter : ∀ {s : Nat × Executor × Machine W} {t}, A.PassesSafe (n + 1) s →
      A.pass s = .again t → A.PassesSafe n t := by
    intro s t hs hpass k u hk hreaches
    exact hs (k + 1) u (Nat.succ_lt_succ hk) (hreaches.again hpass)
  have hleft := A.pass_eq s
  have hright := A.pass_eq s'
  dsimp only at hleft hright
  rw [hrequest, h.index, hresult] at hright
  -- The run loop's three ends: a stop request, a result with a reason, another pass.
  by_cases hstop : (A.collect s.2).1.stopRequested = true
  · rw [if_pos hstop] at hleft hright
    rw [hleft, hright]
    exact A.report_alike _ hmachine
  · rw [if_neg hstop] at hleft hright
    by_cases hreason : (A.step (A.collect s.2).1 (A.collect s.2).2).1.reason ≠ .none
    · rw [if_pos hreason] at hleft hright
      rw [hleft, hright]
      exact ⟨rfl, hnext⟩
    · rw [if_neg hreason] at hleft hright
      have hsafeNext := hafter h.safe hleft
      have hsafeNext' := hafter h.safe' hright
      rw [hleft, hright]
      exact ⟨rfl, hflag, hnext, (A.step_agrees hdecode hcoh hsafe).2,
        (A.step_agrees hdecode hcoh' hsafe').2, hsafeNext, hsafeNext'⟩

/-- **Runs on memories that answer alike** end with the same result, the same
state and the same pages, in memories that answer alike. -/
theorem run_alike (hdecode : DecodesWindow A.decode) (n : Nat) {s s' : Executor × Machine W}
    (h : A.RunsAlike n (0, s) (0, s')) :
    (A.run n s').1 = (A.run n s).1 ∧ MachinesAlike (A.run n s).2.2 (A.run n s').2.2 := by
  unfold RunEnv.run
  refine retry_sim (R := A.RunsAlike) (A.pass_alike hdecode) ?_ n (0, s) (0, s') h
  intro t t' ht
  exact A.report_alike _ ht.machine

end ProgramEnv

end Seven
