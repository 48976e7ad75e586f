import Seven.Executor.FetchWindow
import Seven.Executor.Paths
import Seven.Executor.Restart
import Seven.Executor.Watch
import Seven.Handlers.StringPaging

/-!
# Demand paging of repeats

With a host that maps pages on demand, every missing page a repeat touches
costs one fault and one attempt. The handler leaves its registers in front of
the element that faulted, so the next attempt goes on there — if it gets the
same instruction to run: a lookup is made again for each attempt, in a memory
that has been written to and mapped into.

`Env.Paging` is the state between two attempts, with the pages that are still
missing and the context `e` the handler would end in if none were. An attempt
supplies one of the pages (`Paging.attempt_again`) and with none missing it
is the last (`Paging.attempt_done`). **Main result**: `demandPaged_iff` — the
step ends like the step with the pages mapped beforehand when fewer pages are
missing than it makes attempts, and runs into the limit otherwise.

Single steps, pending debug events and breakpoints may be about; what the
last attempt makes of them (`Env.completion`) is what the only attempt of the
other step makes of them. Left out is what the first attempt alone would see:
an execute breakpoint at the instruction and a single step under a
suppression (`SteadyDebug`), since the suppression is gone in the second
attempt. A repeat that writes does not write over its own bytes either.
-/

namespace Seven

open Seven.Lib

/-! ## The code stays -/

section code

variable {op : StringOp} {width : Nat} {p : StringPointers} {m m' : Memory}

/-- A write that does not touch an address leaves what is fetched there. -/
theorem fetchView_write {a x : U64} {src : List Byte} (hlen : src.length ≤ 2 ^ 64)
    (kind : MemoryAccessKind) (hx : ∀ i < src.length, a + BitVec.ofNat 64 i ≠ x) :
    (m.write a src kind).1.fetchView x = m.fetchView x := by
  rcases Memory.write_cases m a hlen kind with hsame | ⟨k, hk⟩
  · rw [hsame]
  · have hacc : accessible (hasPermission · .instructionFetch) (m.write a src kind).1.pages x =
        accessible (hasPermission · .instructionFetch) m.pages x := accessible_congr hk.written.perms x
    have hle := hk.written.le
    have hbyte : byteAt (m.write a src kind).1.pages x = byteAt m.pages x :=
      hk.written.frame (locOf x) fun i hi he => hx i (by omega) (locOf_injective he)
    unfold Memory.fetchView peek
    rw [hacc, hbyte]

/-- A write moves the code epoch on by at most one. -/
theorem codeEpoch_write {a : U64} {src : List Byte} (hlen : src.length ≤ 2 ^ 64)
    (kind : MemoryAccessKind) :
    (m.write a src kind).1.codeEpoch = m.codeEpoch ∨
      (m.write a src kind).1.codeEpoch = m.codeEpoch + 1#64 := by
  rcases Memory.write_cases m a hlen kind with hsame | ⟨k, hk⟩
  · rw [hsame]
    exact Or.inl rfl
  · exact hk.epoch

/-- What an element's write leaves of the code. -/
structure CodeStays (op : StringOp) (width : Nat) (p : StringPointers) (m m' : Memory) : Prop where
  before : Memory.CodeBefore m m'
  epoch : m'.codeEpoch.toNat ≤ m.codeEpoch.toNat + (if op.writes then 1 else 0)
  view : ∀ x, (op.writes = true → ∀ i < width, p.rdi + BitVec.ofNat 64 i ≠ x) →
    m'.fetchView x = m.fetchView x

/-- A writing element leaves the code where it is safe. -/
theorem ElementWrite.codeStays (h : ElementWrite op width p m m') (hwidth : width ≤ 8)
    (hroom : op.writes = true → m.codeEpoch.toNat + 1 < 2 ^ 64) : CodeStays op width p m m' := by
  rcases h with rfl | ⟨hwrites, src, hsrc, hwrite⟩
  · exact ⟨Memory.CodeBefore.refl _, Nat.le_add_right _ _, fun _ _ => rfl⟩
  · have hlen : src.length ≤ 2 ^ 64 := by omega
    have hm : (m.write p.rdi src .dataWrite).1 = m' := congrArg Prod.fst hwrite
    -- The bound on the epoch keeps a bump from wrapping.
    have hepochRoom : m.EpochRoom := by
      unfold Memory.EpochRoom
      rw [BitVec.lt_def, BitVec.toNat_allOnes]
      have := hroom hwrites
      omega
    refine ⟨?_, ?_, fun x hx => ?_⟩
    · have hsafe : Memory.CodeOp.Safe m (.write p.rdi src .dataWrite) :=
        ⟨hepochRoom, hlen, Or.inl (congrArg Prod.snd hwrite)⟩
      have hbefore := hsafe.before
      rw [← hm]
      exact hbefore
    · have hepoch := codeEpoch_write (m := m) (a := p.rdi) hlen .dataWrite
      rw [hm] at hepoch
      rw [if_pos hwrites]
      rcases hepoch with he | he
      · rw [he]
        omega
      · rw [he, BitVec.toNat_add]
        exact Nat.mod_le _ _
    · rw [← hm]
      exact fetchView_write hlen _ (hsrc ▸ hx hwrites)

/-- The fetched bytes elsewhere are not supplied. -/
theorem fetchView_supply {supplies : Nat → PageSupply} {page : Nat} {x : U64}
    (hne : page ≠ pageOf x) : (m.supply supplies page).fetchView x = m.fetchView x := by
  have hentry := Memory.entryAt_supply supplies m hne
  unfold Memory.fetchView peek accessible byteAt
  rw [hentry]

/-- A supply that moves the code epoch on, with room for it, can be told. -/
theorem codeBefore_supply {supplies : Nat → PageSupply} {page : Nat}
    (hbumps : (supplies page).codeBumps ≠ 0#64)
    (hroom : m.codeEpoch.toNat + (supplies page).codeBumps.toNat < 2 ^ 64) :
    Memory.CodeBefore m (m.supply supplies page) := by
  refine Or.inl ?_
  have hpos : (supplies page).codeBumps.toNat ≠ 0 := fun h => hbumps (BitVec.eq_of_toNat_eq h)
  show m.codeEpoch < m.codeEpoch + (supplies page).codeBumps
  rw [BitVec.lt_def, BitVec.toNat_add, Nat.mod_eq_of_lt hroom]
  omega

end code

/-! ## The lookup of an attempt -/

section lookup

variable {W : Type}

/-- The instruction at `rip` can be fetched, through these caches too: the
pages answer its window, and no hook refuses a window that begins with it. -/
structure Env.Fetchable (env : Env W) (bytes : List Byte) (rip : U64) (c : Caches) (m : Memory) :
    Prop where
  caches : CachesCoherent env.decode env.simdProfileAllows c m
  answer : m.PagesAnswer rip maxInstructionLength
  allowed : ∀ window, window.length = maxInstructionLength → window.take bytes.length = bytes →
    m.accessAllowed
      ⟨.instructionFetch, rip, maxInstructionLength, some window, maxInstructionLength⟩ = true
  bytes : ExecutableBytes m rip bytes
  window : ∀ i < maxInstructionLength,
    accessible (hasPermission · .instructionFetch) m.pages (rip + BitVec.ofNat 64 i) = true

variable {env : Env W} {bytes : List Byte} {c : Caches}

/-- What lies at an address begins with every part of it. -/
theorem ExecutableBytes.take {m : Memory} {rip : U64} {window : List Byte}
    (hwindow : ExecutableBytes m rip window) (hbytes : ExecutableBytes m rip bytes)
    (hlen : bytes.length ≤ window.length) : window.take bytes.length = bytes := by
  apply List.ext_getElem?
  intro i
  by_cases hi : i < bytes.length
  · rw [List.getElem?_take_of_lt hi, ← hwindow i (by omega), ← hbytes i hi]
  · rw [List.getElem?_eq_none (by simp; omega), List.getElem?_eq_none (by omega)]

/-- What the fetch answers. -/
theorem Env.Fetchable.fetch {g : Rig W} {instr : Instruction} (hdecode : DecodesWindow env.decode)
    (hextend : DecodesPrefix env.decode) (hlen : bytes.length ≤ maxInstructionLength)
    (hinstr : env.decode (decoderBitness g.state.mode) bytes g.state.rip = some instr)
    (h : env.Fetchable bytes g.state.rip c g.memory) :
    ∃ c₁, env.fetch (c, g) = (c₁, .decoded (decodedInstruction env.simdProfileAllows instr)) ∧
      env.Fetchable bytes g.state.rip c₁ g.memory := by
  obtain ⟨hcoh, hagree⟩ := env.fetch_agrees hdecode h.caches
    (fun _ => ⟨h.answer.passthroughRead, h.answer.region⟩) c
  have hwindow : WindowFetchable g.memory g.state.rip :=
    ⟨h.window, fun window hexec hsize =>
      h.allowed window hsize (hexec.take h.bytes (by rw [hsize]; exact hlen))⟩
  have hfetched := (@fetch_uncached_window env.decode env.simdProfileAllows hextend c _ _
    h.answer.passthroughRead h.answer.region _ hlen h.bytes _ hinstr).1 hwindow
  refine ⟨(env.fetch (c, g)).1, ?_, hcoh, h.answer, h.allowed, h.bytes, h.window⟩
  refine Prod.ext rfl ?_
  rw [hagree]
  unfold Env.fetch
  rw [env.uncached_canUse]
  exact hfetched

/-- It answers the same later, while the code stays. -/
theorem Env.Fetchable.advance {rip : U64} {m m' : Memory} (h : env.Fetchable bytes rip c m)
    (hbefore : Memory.CodeBefore m m') (hanswer : m'.PagesAnswer rip maxInstructionLength)
    (hhooks : m'.accessHooks = m.accessHooks)
    (hview : ∀ i < bytes.length, m'.fetchView (rip + BitVec.ofNat 64 i) =
      m.fetchView (rip + BitVec.ofNat 64 i))
    (hacc : ∀ x, accessible (hasPermission · .instructionFetch) m.pages x = true →
      accessible (hasPermission · .instructionFetch) m'.pages x = true) :
    env.Fetchable bytes rip c m' := by
  refine ⟨h.caches.advance hbefore, hanswer, fun window hsize htake => ?_,
    fun i hi => (hview i hi).trans (h.bytes i hi), fun i hi => hacc _ (h.window i hi)⟩
  have hallowed := h.allowed window hsize htake
  unfold Memory.accessAllowed at hallowed ⊢
  rw [hhooks]
  exact hallowed

/-- A supplied page was missing, so it holds no byte of the instruction. -/
theorem Env.Fetchable.supply {rip : U64} {m : Memory} {supplies : Nat → PageSupply} {page : Nat}
    (h : env.Fetchable bytes rip c m) (hnone : m.pages[page]? = none)
    (hbumps : (supplies page).codeBumps ≠ 0#64)
    (hroom : m.codeEpoch.toNat + (supplies page).codeBumps.toNat < 2 ^ 64) :
    env.Fetchable bytes rip c (m.supply supplies page) := by
  have hapart (x : U64) (hx : accessible (hasPermission · .instructionFetch) m.pages x = true) :
      page ≠ pageOf x := by
    rintro rfl
    obtain ⟨entry, hentry, -⟩ := accessible_iff.mp hx
    exact absurd (hnone.symm.trans hentry) (by simp)
  have hexec (i : Nat) (hi : i < bytes.length) :
      accessible (hasPermission · .instructionFetch) m.pages (rip + BitVec.ofNat 64 i) = true := by
    have hbyte := h.bytes i hi
    rw [List.getElem?_eq_getElem hi] at hbyte
    exact (peek_eq_some_iff.mp hbyte).1
  refine h.advance (codeBefore_supply hbumps hroom) (h.answer.supply supplies page) rfl
    (fun i hi => fetchView_supply (hapart _ (hexec i hi))) fun x hx => ?_
  have hentry := Memory.entryAt_supply supplies m (hapart x hx)
  unfold accessible at hx ⊢
  rw [hentry]
  exact hx

end lookup

/-! ## States between two attempts -/

/-- Debug events that all attempts treat alike. `RF` and the suppression last
for the first attempt only, so a breakpoint at the instruction that they pass
over would be live in the second, and so would a single step. -/
structure SteadyDebug (s : CpuState) : Prop where
  execute : collectExecuteBreakpointHits s s.rip = 0#64
  trap : s.debugSuppression = 0#8 ∨ flagSet s.rflags kFlagTF = false ∨ s.pendingSingleStep = true

/-- No debug exception is due after the instruction. -/
structure NoDebugEvent (s : CpuState) : Prop where
  data : hasEnabledDataBreakpoints s = false
  trap : flagSet s.rflags kFlagTF = false
  singleStep : s.pendingSingleStep = false
  hits : s.pendingDebugHitBits = 0#64

/-- An element in one page for each access, which the pages answer, and apart
from the bytes of the instruction when it writes. -/
structure ElementSafe (op : StringOp) (width : Nat) (rip : U64) (length : Nat) (m : Memory)
    (p : StringPointers) : Prop where
  answer : ∀ a ∈ op.addresses p, m.PagesAnswer a width
  fit : ∀ a ∈ op.addresses p, WithinPage a width
  apart : op.writes = true → ∀ i < width, ∀ j < length,
    p.rdi + BitVec.ofNat 64 i ≠ rip + BitVec.ofNat 64 j

/-- Safe elements do not depend on the bytes. -/
theorem ElementSafe.sameAccess {op : StringOp} {width length : Nat} {rip : U64} {m m' : Memory}
    {p : StringPointers} (h : ElementSafe op width rip length m p)
    (hsame : Memory.SameAccess m m') : ElementSafe op width rip length m' p :=
  ⟨fun a ha => (h.answer a ha).sameAccess hsame, h.fit, h.apart⟩

/-- How far supplying the pages moves the code epoch. -/
def bumpsOf (supplies : Nat → PageSupply) (pages : List Nat) : Nat :=
  (pages.map fun page => (supplies page).codeBumps.toNat).sum

/-- How far the writes to come may move it. -/
def writesLeft (op : StringOp) (s : CpuState) : Nat := if op.writes then (s.gpr 1).toNat else 0

/-- One page less to supply. -/
theorem bumpsOf_erase (supplies : Nat → PageSupply) {page : Nat} {pages : List Nat}
    (h : page ∈ pages) :
    bumpsOf supplies pages =
      (supplies page).codeBumps.toNat + bumpsOf supplies (pages.erase page) := by
  unfold bumpsOf
  rw [((List.perm_cons_erase h).map _).sum_nat]
  rfl

/-- A flag that is not set. -/
theorem and_not_of_and_eq_zero {x b : U64} (h : x &&& b = 0#64) : x &&& ~~~b = x := by
  have hsplit : x = (x &&& ~~~b) ||| (x &&& b) := by
    ext i hi
    simp only [BitVec.getElem_or, BitVec.getElem_and, BitVec.getElem_not]
    cases x[i] <;> cases b[i] <;> rfl
  rw [h, BitVec.or_zero] at hsplit
  exact hsplit.symm

section frame

variable {W : Type} {env : Env W} {d : DecodedInstruction} {g : Rig W} {c : ExecutionContext}

/-- The state behind some turns. -/
theorem frame_state (h : RepeatFrame (env.handlerContext d g) c) :
    c.state = { g.state with gpr := c.state.gpr, rflags := c.state.rflags, debugSuppression := 0#8 } :=
  h.state

/-- An instruction of the middle of a repeat starts where the attempt before
it stopped. -/
theorem handlerContext_of_frame (h : RepeatFrame (env.handlerContext d g) c) (world : W)
    (log : Log) : env.handlerContext d ⟨⟨c.state, c.memory, world⟩, log⟩ = c := by
  have hstate := frame_state h
  -- RF was cleared when the attempt began and no turn sets it again.
  have hrf : c.state.rflags &&& kFlagRF = 0#64 := by
    rw [h.flags kFlagRF (by decide)]
    show (g.state.rflags &&& ~~~kFlagRF) &&& kFlagRF = 0#64
    rw [BitVec.and_assoc, show ~~~kFlagRF &&& kFlagRF = 0#64 by decide, BitVec.and_zero]
  have hclear : clearSuppression c.state = c.state := by
    unfold clearSuppression
    rw [and_not_of_and_eq_zero hrf]
    have hsuppression : c.state.debugSuppression = 0#8 := by rw [hstate]
    rw [← hsuppression]
  have hrip : c.state.rip = g.state.rip := by rw [hstate]
  have hmode : c.state.mode = g.state.mode := by rw [hstate]
  -- The mode and the instruction's address are those of the start, so the next address is too.
  have hnext : maskInstructionPointer c.state
      (c.state.rip + BitVec.ofNat 64 d.instructionLength) =
      maskInstructionPointer g.state (g.state.rip + BitVec.ofNat 64 d.instructionLength) := by
    unfold maskInstructionPointer
    rw [hrip, hmode]
  have hcontext := h.context
  rw [hcontext]
  show ExecutionContext.mk (clearSuppression c.state) c.memory d.instr
    (maskInstructionPointer c.state (c.state.rip + BitVec.ofNat 64 d.instructionLength)) _ _ _ = _
  rw [hclear, hnext]
  rfl

/-- Single stepping does not change on the way. -/
theorem singleStepping_frame (h : RepeatFrame (env.handlerContext d g) c) :
    singleStepping c.state = singleStepping g.state := by
  rw [singleStepping_eq c.state]
  unfold singleStepping flagSet
  rw [h.flags kFlagTF (by decide)]
  rfl

/-- Nor does a steady debug state. -/
theorem SteadyDebug.frame (hsteady : SteadyDebug g.state)
    (h : RepeatFrame (env.handlerContext d g) c) : SteadyDebug c.state := by
  have hstate := frame_state h
  have hsuppression : c.state.debugSuppression = 0#8 := by rw [hstate]
  refine ⟨?_, Or.inl hsuppression⟩
  rw [hstate]
  exact hsteady.execute

end frame

/-! ## One attempt -/

section attempt

variable {W : Type} {env : Env W} {startRip : U64} {d : DecodedInstruction} {c c₁ : Caches}
  {g : Rig W} {ctx : ExecutionContext}

/-- A page fault that the hooks answer with *retry* is an attempt, and the
next one starts in the machine they left. -/
theorem attempt_retried (hplain : env.PlainAttempt d)
    (hbreak : collectExecuteBreakpointHits g.state startRip = 0#64)
    (hfetch : env.fetch (c, g) = (c₁, .decoded d)) {r : ExecutionResult}
    (hfail : env.handler d.reportedCode (env.handlerContext d g) = .error r ctx)
    (hpage : PageFault r) {m : Machine W}
    (hhook : env.runFaultHooks
      ⟨{ r with code := some d.reportedCode }, startRip, faultAddressOf r ctx.state.rip⟩
      ⟨ctx.state, ctx.memory, g.world⟩ = (.retry, m)) :
    env.attempt startRip (c, g) = .again (c₁, ⟨m, g.log⟩) := by
  have hcore := @execute_faulted _ env startRip d hplain g hbreak r ctx hfail hpage
  have hrec : env.tryRecoverFault startRip { r with code := some d.reportedCode }
      ⟨⟨ctx.state, ctx.memory, g.world⟩, g.log⟩ = (true, ⟨m, g.log⟩) := by
    have hhook' : env.runFaultHooks
        ⟨{ r with code := some d.reportedCode }, startRip,
          faultAddressOf { r with code := some d.reportedCode } ctx.state.rip⟩
        ⟨ctx.state, ctx.memory, g.world⟩ = (.retry, m) := hhook
    simp only [Env.tryRecoverFault, hhook']
    rfl
  unfold Env.attempt
  rw [hfetch]
  show withCaches c₁ (env.conclude startRip (execute env startRip d g)) = _
  rw [hcore]
  simp only [Env.conclude, hrec]
  rfl

/-- What an instruction that has completed makes of the step, the debug
exceptions behind it included: the result, and state and memory. -/
def Env.completion (env : Env W) (d : DecodedInstruction) (s : CpuState) (e : ExecutionContext) :
    ExecutionResult × CpuState × Memory :=
  let p := prologue env d s
  let retired : ExecutionResult := { retired := 1, code := some d.reportedCode }
  match debugEvent p e (s.debugSuppression != 0#8) (singleStepping s) (retire e) with
  | none => (retired, retire e, e.memory)
  | some event =>
    let run := event.deliver p e (⟨⟨retire e, e.memory, ()⟩, {}⟩ : Rig Unit)
    (if run.1.reason ≠ .none then run.1 else retired, run.2.state, run.2.memory)

/-- A rig that holds the state and the memory of a completion. -/
def Holds (x : ExecutionResult × CpuState × Memory) (g : Rig W) : Prop :=
  g.state = x.2.1 ∧ g.memory = x.2.2

/-- A handler that succeeds ends the attempt, or the debug exception behind
it cannot be delivered. -/
theorem execute_completed (hplain : env.PlainAttempt d)
    (hbreak : collectExecuteBreakpointHits g.state startRip = 0#64)
    (hok : env.handler d.reportedCode (env.handlerContext d g) = .ok () ctx)
    (hsuppression : ctx.state.debugSuppression = 0#8) :
    ∃ g₁ : Rig W, Holds (env.completion d g.state ctx) g₁ ∧
      (execute env startRip d g = (.finish (env.completion d g.state ctx).1, g₁) ∨
        execute env startRip d g = (.abort (env.completion d g.state ctx).1, g₁) ∧
          (env.completion d g.state ctx).1.reason ≠ .none) := by
  have hrun : (env.handler (prologue env d g.state).entry.reportedCode).run
      ((g.mapState clearSuppression).context (prologue env d g.state).instr
        (prologue env d g.state).nextRip) = ({}, ctx) := by
    have hrun' : (env.handler d.reportedCode).run (env.handlerContext d g) = ({}, ctx) := by
      unfold Handler.run
      rw [hok]
    -- Without a core hook the world the rig keeps is the one it had.
    exact hrun'
  obtain ⟨l, hrig⟩ := coreRig_eq env (prologue env d g.state) ctx (g.mapState clearSuppression)
  have hclear : ((retire ctx).debugSuppression != 0#8) = false := by
    show (ctx.state.debugSuppression != 0#8) = false
    rw [hsuppression]
    rfl
  have hexec : execute env startRip d g =
      debugExceptions (prologue env d g.state) ctx (g.state.debugSuppression != 0#8)
        (singleStepping g.state) { retired := 1, code := some d.reportedCode }
        ⟨⟨retire ctx, ctx.memory, g.world⟩, l⟩ := by
    rw [execute_plain hplain.hooks hplain.code hplain.simd hbreak, core_eq, hrun]
    dsimp only
    rw [hrig]
    exact if_neg (by decide)
  -- An event that fails to be delivered aborts the attempt; any other end finishes it.
  rw [hexec, debugExceptions_eq]
  unfold Env.completion
  dsimp only
  cases debugEvent (prologue env d g.state) ctx (g.state.debugSuppression != 0#8)
      (singleStepping g.state) (retire ctx) with
  | none =>
    dsimp only
    rw [withholdHits_clear hclear]
    exact ⟨_, ⟨rfl, rfl⟩, Or.inl rfl⟩
  | some event =>
    refine ⟨(event.deliver (prologue env d g.state) ctx ⟨⟨retire ctx, ctx.memory, g.world⟩, l⟩).2,
      ⟨rfl, rfl⟩, ?_⟩
    by_cases hfailed : (event.deliver (prologue env d g.state) ctx
        (⟨⟨retire ctx, ctx.memory, ()⟩, {}⟩ : Rig Unit)).1.reason ≠ .none
    · -- the delivery fails alike in every host
      have hfailed' : (event.deliver (prologue env d g.state) ctx
          ⟨⟨retire ctx, ctx.memory, g.world⟩, l⟩).1.reason ≠ .none := hfailed
      dsimp only
      rw [if_pos hfailed, if_pos hfailed']
      exact Or.inr ⟨rfl, hfailed⟩
    · have hfailed' : ¬ (event.deliver (prologue env d g.state) ctx
          ⟨⟨retire ctx, ctx.memory, g.world⟩, l⟩).1.reason ≠ .none := hfailed
      dsimp only
      rw [if_neg hfailed, if_neg hfailed']
      exact Or.inl rfl

/-- **A handler that succeeds makes the attempt the last.** -/
theorem attempt_completed (hplain : env.PlainAttempt d)
    (hbreak : collectExecuteBreakpointHits g.state startRip = 0#64)
    (hfetch : env.fetch (c, g) = (c₁, .decoded d))
    (hok : env.handler d.reportedCode (env.handlerContext d g) = .ok () ctx)
    (hsuppression : ctx.state.debugSuppression = 0#8) :
    ∃ g₁, env.attempt startRip (c, g) = .done ((env.completion d g.state ctx).1, c₁, g₁) ∧
      ((env.completion d g.state ctx).1.reason = .none →
        Holds (env.completion d g.state ctx) g₁) := by
  obtain ⟨g₁, hholds, hexec⟩ := execute_completed hplain hbreak hok hsuppression
  have hattempt : env.attempt startRip (c, g) =
      withCaches c₁ (env.conclude startRip (execute env startRip d g)) := by
    unfold Env.attempt
    rw [hfetch]
    rfl
  rw [hattempt]
  rcases hexec with hfinish | ⟨habort, hreason⟩
  · rw [hfinish]
    exact ⟨g₁, rfl, fun _ => hholds⟩
  · rw [habort]
    exact ⟨_, rfl, fun hnone => absurd hnone hreason⟩

/-- The breakpoints at the operands that the decoder lists for the
instruction, with the registers of `s`. -/
def Env.listedHits (env : Env W) (instr : Instruction) (s : CpuState) : U64 :=
  collectDataBreakpointHits s
    (if hasEnabledDataBreakpoints s then
      collectDebugMemoryAccesses s (env.usedMemory instr) else [])

/-- The shadow is not a register. -/
theorem readRegister_clearSuppression (s : CpuState) (reg : Register) :
    readRegister (clearSuppression s) reg = readRegister s reg := by
  cases reg <;> rfl

/-- Nor does the listing see it. -/
theorem Env.listedHits_clearSuppression (env : Env W) (instr : Instruction) (s : CpuState) :
    env.listedHits instr (clearSuppression s) = env.listedHits instr s := by
  have hlist (used : List UsedMemory) :
      collectDebugMemoryAccesses (clearSuppression s) used = collectDebugMemoryAccesses s used := by
    unfold collectDebugMemoryAccesses debugMemoryAccess
    simp only [readRegister_clearSuppression]
    rfl
  unfold Env.listedHits
  rw [hlist]
  rfl

/-- The handler's own notes go first; without any the listed operands count. -/
theorem currentHits_prologue (hstate : ctx.state = { g.state with
      gpr := ctx.state.gpr, rflags := ctx.state.rflags, debugSuppression := 0#8 }) :
    currentHits (prologue env d g.state) ctx (retire ctx) =
      if ctx.debugHitBits ≠ 0#64 then ctx.debugHitBits else env.listedHits d.instr g.state := by
  have hdr : (retire ctx).dr = g.state.dr := by
    show ctx.state.dr = _
    rw [hstate]
  have hmode : (retire ctx).mode = g.state.mode := by
    show ctx.state.mode = _
    rw [hstate]
  unfold currentHits
  rw [collectDataBreakpointHits_congr hdr hmode]
  rfl

/-- The event depends on these parts. -/
theorem debugEvent_congr {p p' : Prologue} {suppressed suppressed' tf : Bool} {s : CpuState}
    (hdata : p'.checkDataBreakpoints = p.checkDataBreakpoints)
    (hhits : currentHits p' ctx s = currentHits p ctx s)
    (htrap : suppressed' = suppressed ∨ tf = false ∨ s.pendingSingleStep = true) :
    debugEvent p' ctx suppressed' tf s = debugEvent p ctx suppressed tf s := by
  have hstep : (s.pendingSingleStep || (!suppressed' && tf)) =
      (s.pendingSingleStep || (!suppressed && tf)) := by
    rcases htrap with h | h | h
    · rw [h]
    · rw [h, Bool.and_false, Bool.and_false]
    · rw [h, Bool.true_or, Bool.true_or]
  unfold debugEvent
  dsimp only
  rw [hdata, hhits, hstep]

/-- **An interrupted repeat completes as it would have from its beginning**,
when the breakpoints hit are noted by the handler or none is listed. -/
theorem completion_frame {e : ExecutionContext} (hsteady : SteadyDebug g.state)
    (h : RepeatFrame (env.handlerContext d g) ctx)
    (hstate : e.state =
      { g.state with gpr := e.state.gpr, rflags := e.state.rflags, debugSuppression := 0#8 })
    (hlisted : e.debugHitBits ≠ 0#64 ∨
      env.listedHits d.instr ctx.state = env.listedHits d.instr g.state) :
    env.completion d ctx.state e = env.completion d g.state e := by
  have hframe := frame_state h
  have hstep := singleStepping_frame h
  have hstate' : e.state = { ctx.state with
      gpr := e.state.gpr, rflags := e.state.rflags, debugSuppression := 0#8 } := by
    rw [hstate, hframe]
  have hdata : (prologue env d ctx.state).checkDataBreakpoints =
      (prologue env d g.state).checkDataBreakpoints := by
    show hasEnabledDataBreakpoints ctx.state = hasEnabledDataBreakpoints g.state
    rw [hframe]
    rfl
  -- The context and the old state differ in RCX, the pointers and the flags, none of which a hit
  -- reads.
  have hhits : currentHits (prologue env d ctx.state) e (retire e) =
      currentHits (prologue env d g.state) e (retire e) := by
    rw [currentHits_prologue hstate]
    have hctx := @currentHits_prologue _ env d ⟨⟨ctx.state, g.memory, g.world⟩, g.log⟩ e hstate'
    rw [hctx]
    rcases hlisted with hnoted | hsame
    · rw [if_pos hnoted, if_pos hnoted]
    · rw [hsame]
  have hpending : (retire e).pendingSingleStep = g.state.pendingSingleStep := by
    show e.state.pendingSingleStep = _
    rw [hstate]
  have hsuppression : ctx.state.debugSuppression = 0#8 := by rw [hframe]
  -- A shadow left by the instruction before masks a trap only on the first attempt.
  have htrap : (ctx.state.debugSuppression != 0#8) = (g.state.debugSuppression != 0#8) ∨
      singleStepping g.state = false ∨ (retire e).pendingSingleStep = true := by
    rcases hsteady.trap with hnone | hclear | hpend
    · exact Or.inl (by rw [hsuppression, hnone])
    · exact Or.inr (Or.inl (by rw [singleStepping_eq]; exact hclear))
    · exact Or.inr (Or.inr (hpending.trans hpend))
  unfold Env.completion
  dsimp only
  rw [hstep, debugEvent_congr hdata hhits htrap]
  rfl

end attempt

/-! ## A repeat that is paged on demand -/

section paging

variable {W : Type}

/-- What the step keeps of the instruction. -/
def Env.entryOf (env : Env W) (instr : Instruction) : DecodedInstruction :=
  decodedInstruction env.simdProfileAllows instr

/-- The bytes are a repeat, and nothing but fault hooks stands between its
fetch and its handler. -/
structure Env.RunsRepeat (env : Env W) (op : StringOp) (width : RmWidth) (instr : Instruction)
    (bytes : List Byte) : Prop where
  hooks : env.NoCoreHooks
  simd : env.simdProfileAllows instr = true
  decodesWindow : DecodesWindow env.decode
  decodesPrefix : DecodesPrefix env.decode
  length : bytes.length ≤ maxInstructionLength
  code : instr.code = .string op width
  repeats : instr.repeats = true

/-- The fault hooks supply a missing page they are told about, and answer
*retry*. -/
def Env.SuppliesMissing (env : Env W) (supplies : Nat → PageSupply) (missing : List Nat) : Prop :=
  ∀ (event : FaultHookEvent) (m : Machine W), PageFault event.result →
    pageOf event.faultAddress ∈ missing → m.memory.pages[pageOf event.faultAddress]? = none →
    ∃ world, env.runFaultHooks event m =
      (.retry, ⟨m.state, m.memory.supply supplies (pageOf event.faultAddress), world⟩)

/-- An attempt at the repeat is to be made, with these pages missing; on the
memory with the pages supplied the handler would end in `e`. Where it notes no
data breakpoint, the operands the decoder lists hit none at any turn either. -/
structure Env.Paging (env : Env W) (op : StringOp) (width : RmWidth) (instr : Instruction)
    (bytes : List Byte) (supplies : Nat → PageSupply) (e : ExecutionContext) (missing : List Nat)
    (s : Caches × Rig W) : Prop where
  fetchable : env.Fetchable bytes s.2.state.rip s.1 s.2.memory
  decodes : env.decode (decoderBitness s.2.state.mode) bytes s.2.state.rip = some instr
  steady : SteadyDebug s.2.state
  nodup : missing.Nodup
  unmapped : s.2.memory.Missing missing
  bumps : ∀ page ∈ missing, (supplies page).codeBumps ≠ 0#64
  room : s.2.memory.codeEpoch.toNat + writesLeft op s.2.state + bumpsOf supplies missing < 2 ^ 64
  elements : ∀ p ∈ elementsOf op width.bytes
      (mapped supplies missing (env.handlerContext (env.entryOf instr) s.2)),
    ElementSafe op width.bytes s.2.state.rip bytes.length s.2.memory p
  listed : e.debugHitBits ≠ 0#64 ∨ ∀ t ∈ turnsOf op width.bytes
      (mapped supplies missing (env.handlerContext (env.entryOf instr) s.2)),
    env.listedHits instr t = 0#64
  touched : ∀ page ∈ missing, ∃ p ∈ elementsOf op width.bytes
      (mapped supplies missing (env.handlerContext (env.entryOf instr) s.2)),
    ∃ a ∈ op.addresses p, pageOf a = page
  granted : stringImpl op width.bytes
    (mapped supplies missing (env.handlerContext (env.entryOf instr) s.2)) = .ok () e

variable {env : Env W} {op : StringOp} {width : RmWidth} {instr : Instruction} {bytes : List Byte}
  {supplies : Nat → PageSupply} {e : ExecutionContext} {missing : List Nat} {c : Caches} {g : Rig W}

/-- Nothing interferes with the attempt. -/
theorem Env.RunsRepeat.plain (h : env.RunsRepeat op width instr bytes) :
    env.PlainAttempt (env.entryOf instr) := by
  refine ⟨h.hooks, ?_, h.simd⟩
  show instr.code ≠ .invalid
  rw [h.code]
  exact Code.noConfusion

/-- The handler is the string instruction's. -/
theorem Env.RunsRepeat.handler (h : env.RunsRepeat op width instr bytes) :
    env.handler (env.entryOf instr).reportedCode = stringImpl op width.bytes := by
  have hcode : (env.entryOf instr).reportedCode = .string op width := by
    show normalizeReportedCode instr.code = _
    rw [h.code]
    rfl
  rw [hcode]
  rfl

/-- Supplying one page leaves the others. -/
theorem Env.Paging.supply (h : env.Paging op width instr bytes supplies e missing (c, g))
    {page : Nat} (hpage : page ∈ missing) (world : W) :
    env.Paging op width instr bytes supplies e (missing.erase page)
      (c, ⟨⟨g.state, g.memory.supply supplies page, world⟩, g.log⟩) := by
  -- The room for bumps covers the page supplied and the pages still missing.
  have hroom : g.memory.codeEpoch.toNat + writesLeft op g.state +
      ((supplies page).codeBumps.toNat + bumpsOf supplies (missing.erase page)) < 2 ^ 64 := by
    rw [← bumpsOf_erase supplies hpage]
    exact h.room
  have hbump : g.memory.codeEpoch.toNat + (supplies page).codeBumps.toNat < 2 ^ 64 := by omega
  have hctx : mapped supplies (missing.erase page) (env.handlerContext (env.entryOf instr)
      ⟨⟨g.state, g.memory.supply supplies page, world⟩, g.log⟩) =
      mapped supplies missing (env.handlerContext (env.entryOf instr) g) := by
    unfold mapped
    show { env.handlerContext (env.entryOf instr) g with
      memory := (g.memory.supply supplies page).supplyAll supplies (missing.erase page) } = _
    rw [← Memory.supplyAll_erase hpage]
    rfl
  refine ⟨h.fetchable.supply (h.unmapped page hpage) (h.bumps page hpage) hbump,
    h.decodes, h.steady, h.nodup.erase page, h.unmapped.supply_erase h.nodup page,
    fun p hp => h.bumps p (List.mem_of_mem_erase hp), ?_, ?_, ?_, ?_, ?_⟩
  · -- the bumps of the page have moved into the epoch
    show (g.memory.codeEpoch + (supplies page).codeBumps).toNat + writesLeft op g.state +
      bumpsOf supplies (missing.erase page) < 2 ^ 64
    rw [BitVec.toNat_add, Nat.mod_eq_of_lt hbump]
    omega
  · rw [hctx]
    intro p hp
    have hsafe := h.elements p hp
    exact ⟨fun a ha => (hsafe.answer a ha).supply supplies page, hsafe.fit, hsafe.apart⟩
  · rw [hctx]
    exact h.listed
  · rw [hctx]
    exact fun p hp => h.touched p (List.mem_of_mem_erase hp)
  · rw [hctx]
    exact h.granted

/-- What an iteration keeps, between the fetch of the instruction and its
interruption. -/
def Env.PagingContext (env : Env W) (op : StringOp) (bytes : List Byte) (rip : U64) (c : Caches)
    (bumps : Nat) (ctx : ExecutionContext) : Prop :=
  env.Fetchable bytes rip c ctx.memory ∧
    ctx.memory.codeEpoch.toNat + writesLeft op ctx.state + bumps < 2 ^ 64

/-- A turn inside the paging context. -/
theorem Env.PagingContext.iterate {rip : U64} {bumps : Nat} {m : Memory} {a b : ExecutionContext}
    (h : env.PagingContext op bytes rip c bumps a)
    (hsafe : ElementSafe op width.bytes rip bytes.length m (pointersOf a.state))
    (hcount : a.state.gpr 1 ≠ 0#64) (hit : stringIteration op width.bytes a = .ok true b) :
    env.PagingContext op bytes rip c bumps b := by
  obtain ⟨hfetch, hroom⟩ := h
  have hframe := stringIteration_frame width.bytes_bounds.2 hit
  have hdown := stringIteration_count hit
  -- A turn is taken only with a count left, and it takes one off.
  have hpos : (a.state.gpr 1).toNat ≠ 0 := fun hzero => hcount (BitVec.eq_of_toNat_eq hzero)
  have hstays := (stringIteration_write hit).codeStays width.bytes_bounds.2 (fun hwrites => by
    unfold writesLeft at hroom
    rw [if_pos hwrites] at hroom
    omega)
  refine ⟨hfetch.advance hstays.before (hfetch.answer.sameAccess hframe.memory)
    hframe.memory.accessHooks (fun j hj => hstays.view _ fun hwrites i hi =>
      hsafe.apart hwrites i hi j hj) (fun x hx => ?_), ?_⟩
  · rw [accessible_congr hframe.memory.perms]
    exact hx
  · have hepoch := hstays.epoch
    -- Only an operation that writes spends room for the bumps.
    unfold writesLeft at hroom ⊢
    cases hwrites : op.writes with
    | true =>
      simp only [hwrites, if_true] at hepoch hroom ⊢
      omega
    | false =>
      simp only [hwrites, Bool.false_eq_true, if_false] at hepoch hroom ⊢
      omega

/-- A repeat that was interrupted at a missing page is a repeat with the same
pages missing and less left to do. -/
theorem Env.Paging.interrupted (h : env.Paging op width instr bytes supplies e missing (c, g))
    {ctx : ExecutionContext} {a : U64}
    (hint : Interrupted op width.bytes supplies missing
      (env.PagingContext op bytes g.state.rip c (bumpsOf supplies missing))
      (env.handlerContext (env.entryOf instr) g) ctx a e) (world : W) (log : Log) :
    env.Paging op width instr bytes supplies e missing
      (c, ⟨⟨ctx.state, ctx.memory, world⟩, log⟩) := by
  have hctx := handlerContext_of_frame hint.frame world log
  have hstate := frame_state hint.frame
  -- RIP and mode are as before, so the next attempt fetches the same bytes
  have hrip : ctx.state.rip = g.state.rip := by rw [hstate]
  have hmode : ctx.state.mode = g.state.mode := by rw [hstate]
  obtain ⟨before, havoid, hbefore⟩ := hint.elements
  refine ⟨?_, ?_, h.steady.frame hint.frame, h.nodup, h.unmapped.sameAccess hint.frame.memory,
    h.bumps, hint.kept.2, ?_, ?_, ?_, ?_⟩
  · show env.Fetchable bytes ctx.state.rip c ctx.memory
    rw [hrip]
    exact hint.kept.1
  · show env.decode (decoderBitness ctx.state.mode) bytes ctx.state.rip = some instr
    rw [hrip, hmode]
    exact h.decodes
  · intro p hp
    rw [hctx] at hp
    have hp' := h.elements p (by rw [hbefore]; exact List.mem_append_right _ hp)
    show ElementSafe op width.bytes ctx.state.rip bytes.length ctx.memory p
    rw [hrip]
    exact hp'.sameAccess hint.frame.memory
  · refine h.listed.imp_right fun hnone t ht => ?_
    rw [hctx] at ht
    obtain ⟨gone, -, hturns⟩ := hint.turns
    exact hnone t (by rw [hturns]; exact List.mem_append_right _ ht)
  · intro page hpage
    obtain ⟨p, hp, b, hb, rfl⟩ := h.touched page hpage
    rw [hbefore] at hp
    -- the elements that are done touched none of the missing pages
    rcases List.mem_append.mp hp with hp | hp
    · exact absurd hpage (havoid p hp b hb)
    · refine ⟨p, ?_, b, hb, rfl⟩
      rw [hctx]
      exact hp
  · rw [hctx]
    exact hint.resumes

/-- What the repeat ends in has the fields of the state it began in. -/
theorem Env.Paging.end_state (hrun : env.RunsRepeat op width instr bytes)
    (h : env.Paging op width instr bytes supplies e missing (c, g)) :
    e.state =
      { g.state with gpr := e.state.gpr, rflags := e.state.rflags, debugSuppression := 0#8 } :=
  stringImpl_state width.bytes_bounds.2 _
    (mapped supplies missing (env.handlerContext (env.entryOf instr) g)) rfl hrun.repeats h.granted

/-- The interrupted repeat completes as it would have from here. -/
theorem Env.Paging.completion_interrupted (hrun : env.RunsRepeat op width instr bytes)
    (h : env.Paging op width instr bytes supplies e missing (c, g)) {I : ExecutionContext → Prop}
    {ctx : ExecutionContext} {a : U64}
    (hint : Interrupted op width.bytes supplies missing I
      (env.handlerContext (env.entryOf instr) g) ctx a e) :
    env.completion (env.entryOf instr) ctx.state e =
      env.completion (env.entryOf instr) g.state e := by
  refine completion_frame h.steady hint.frame (h.end_state hrun) (h.listed.imp_right fun hnone => ?_)
  obtain ⟨gone, -, hturns⟩ := hint.turns
  have hfirst := turnsOf_succ op width.bytes
    (mapped supplies missing (env.handlerContext (env.entryOf instr) g)) hint.started
  have hhere := turnsOf_succ op width.bytes (mapped supplies missing ctx) hint.count
  -- both begin in front of an element, where nothing listed is hit
  have hstart := hnone (clearSuppression g.state) (by rw [hfirst]; exact List.mem_cons_self)
  have hnow := hnone ctx.state (by
    rw [hturns, hhere]
    exact List.mem_append_right _ List.mem_cons_self)
  rw [env.listedHits_clearSuppression] at hstart
  exact hnow.trans hstart.symm

/-- **An attempt with pages missing supplies one of them**, and changes
nothing of how the instruction is going to complete. -/
theorem Env.Paging.attempt_again (hrun : env.RunsRepeat op width instr bytes)
    (hsupply : env.SuppliesMissing supplies missing)
    (h : env.Paging op width instr bytes supplies e missing (c, g)) (hne : missing ≠ []) :
    ∃ page ∈ missing, ∃ s', env.attempt g.state.rip (c, g) = .again s' ∧
      s'.2.state.rip = g.state.rip ∧
      env.completion (env.entryOf instr) s'.2.state e =
        env.completion (env.entryOf instr) g.state e ∧
      env.Paging op width instr bytes supplies e (missing.erase page) s' := by
  obtain ⟨c₁, hfetch, hfetchable⟩ := h.fetchable.fetch hrun.decodesWindow hrun.decodesPrefix
    hrun.length h.decodes
  have h₁ : env.Paging op width instr bytes supplies e missing (c₁, g) :=
    { h with fetchable := hfetchable }
  have hhandler := hrun.handler
  have hkept : env.PagingContext op bytes g.state.rip c₁ (bumpsOf supplies missing)
      (env.handlerContext (env.entryOf instr) g) := ⟨hfetchable, h.room⟩
  have hpaged : PagedContext width.bytes (fun a => g.memory.PagesAnswer a width.bytes)
      (env.handlerContext (env.entryOf instr) g) := fun a ha => ha
  -- The repeat either gets through or stops in front of an element whose page is missing.
  rcases stringImpl_demand width.bytes_bounds.1 width.bytes_bounds.2
      (fun p hp a ha => ⟨ElementSafe.answer hp a ha, ElementSafe.fit hp a ha⟩)
      (fun a b hsafe hcount hit ha => ha.iterate hsafe hcount hit) _
      (env.handlerContext (env.entryOf instr) g) rfl hrun.repeats
      hpaged h.unmapped hkept h.elements h.granted with
    ⟨ctx, -, -, havoid⟩ | ⟨ctx, a, hint⟩
  · -- every missing page is touched, so the repeat cannot get through
    obtain ⟨page, hpage⟩ := List.exists_mem_of_ne_nil missing hne
    obtain ⟨p, hp, b, hb, rfl⟩ := h.touched page hpage
    exact absurd hpage (havoid p hp b hb)
  · have hnone : ctx.memory.pages[pageOf a]? = none :=
      h.unmapped.sameAccess hint.frame.memory _ hint.page
    -- The fault hook supplies that page, and the attempt is made again at the same address.
    obtain ⟨world, hhook⟩ := hsupply
      ⟨{ pageFaultAt ctx a with code := some (env.entryOf instr).reportedCode }, g.state.rip, a⟩
      ⟨ctx.state, ctx.memory, g.world⟩ rfl hint.page hnone
    have hfail : env.handler (env.entryOf instr).reportedCode
        (env.handlerContext (env.entryOf instr) g) = .error (pageFaultAt ctx a) ctx := by
      rw [hhandler]
      exact hint.fault
    have hrip : ctx.state.rip = g.state.rip := by rw [frame_state hint.frame]
    exact ⟨pageOf a, hint.page, _,
      attempt_retried hrun.plain h.steady.execute hfetch hfail rfl hhook, hrip,
      h.completion_interrupted hrun hint,
      (h₁.interrupted hint world g.log).supply hint.page world⟩

/-- With no page missing the attempt is the last. -/
theorem Env.Paging.attempt_done (hrun : env.RunsRepeat op width instr bytes)
    (h : env.Paging op width instr bytes supplies e [] (c, g)) :
    ∃ c₁ g₁, env.attempt g.state.rip (c, g) =
        .done ((env.completion (env.entryOf instr) g.state e).1, c₁, g₁) ∧
      ((env.completion (env.entryOf instr) g.state e).1.reason = .none →
        Holds (env.completion (env.entryOf instr) g.state e) g₁) := by
  obtain ⟨c₁, hfetch, -⟩ := h.fetchable.fetch hrun.decodesWindow hrun.decodesPrefix hrun.length
    h.decodes
  have hok : env.handler (env.entryOf instr).reportedCode
      (env.handlerContext (env.entryOf instr) g) = .ok () e := by
    rw [hrun.handler]
    exact h.granted
  have hsuppression : e.state.debugSuppression = 0#8 := by rw [h.end_state hrun]
  obtain ⟨g₁, hdone, hholds⟩ :=
    attempt_completed hrun.plain h.steady.execute hfetch hok hsuppression
  exact ⟨c₁, g₁, hdone, hholds⟩

/-- A page less to supply. -/
theorem Env.SuppliesMissing.erase (h : env.SuppliesMissing supplies missing) (page : Nat) :
    env.SuppliesMissing supplies (missing.erase page) :=
  fun event m hfault hmem => h event m hfault (List.mem_of_mem_erase hmem)

/-- **The run lemma**: as long as pages are missing, each attempt supplies
one. -/
theorem Env.Paging.reaches (hrun : env.RunsRepeat op width instr bytes) :
    ∀ (k : Nat) (missing : List Nat) (s : Caches × Rig W), env.SuppliesMissing supplies missing →
      env.Paging op width instr bytes supplies e missing s → k ≤ missing.length →
      ∃ rest s', rest.length = missing.length - k ∧
        Reaches (env.attempt s.2.state.rip) k s s' ∧ s'.2.state.rip = s.2.state.rip ∧
        env.completion (env.entryOf instr) s'.2.state e =
          env.completion (env.entryOf instr) s.2.state e ∧
        env.Paging op width instr bytes supplies e rest s' := by
  intro k
  induction k with
  | zero =>
    intro missing s hsupply h _
    exact ⟨missing, s, rfl, Reaches.refl s, rfl, rfl, h⟩
  | succ k ih =>
    rintro missing ⟨c, g⟩ hsupply h hk
    have hne : missing ≠ [] := List.length_pos_iff.mp (by omega)
    obtain ⟨page, hpage, s₁, hagain, hrip, hsame, hnext⟩ := h.attempt_again hrun hsupply hne
    have hlen := List.length_erase_of_mem hpage
    obtain ⟨rest, s', hrest, hreach, hrip', hsame', hpaging⟩ :=
      ih (missing.erase page) s₁ (hsupply.erase page) hnext (by omega)
    rw [hrip] at hreach hrip'
    exact ⟨rest, s', by omega, Reaches.again hagain hreach, hrip', hsame'.trans hsame, hpaging⟩

/-- With the pages there from the start, none is missing. -/
theorem Env.Paging.supplied :
    ∀ (missing : List Nat) (g : Rig W),
      env.Paging op width instr bytes supplies e missing (c, g) →
      env.Paging op width instr bytes supplies e []
        (c, ⟨⟨g.state, g.memory.supplyAll supplies missing, g.world⟩, g.log⟩) := by
  intro missing
  induction missing with
  | nil =>
    intro g h
    exact h
  | cons page pages ih =>
    intro g h
    have hnext := h.supply List.mem_cons_self g.world
    rw [List.erase_cons_head] at hnext
    exact ih _ hnext

/-! ## The step -/

/-- The machine with the pages mapped beforehand. -/
def Machine.supplied (supplies : Nat → PageSupply) (missing : List Nat) (m : Machine W) :
    Machine W :=
  { m with memory := m.memory.supplyAll supplies missing }

/-- The step enters with the supplied memory. -/
theorem Env.enter_supplied (env : Env W) (ex : Executor) (m : Machine W)
    (supplies : Nat → PageSupply) (missing : List Nat) :
    env.enter ex (m.supplied supplies missing) =
      ⟨⟨(env.enter ex m).state, (env.enter ex m).memory.supplyAll supplies missing,
        (env.enter ex m).world⟩, (env.enter ex m).log⟩ := by
  unfold Env.enter syncContext
  cases env.contextRead <;> rfl

/-- What the context callback after the step makes of the state does not
depend on the host, which the fault hooks have changed. -/
def Env.ExportsBlind (env : Env W) : Prop :=
  ∀ f, env.contextWrite = some f → ∀ s w w', (f s w).1 = (f s w').1

/-- What a step leaves does not depend on the exports. -/
theorem Env.ExportsBlind.leave_state (h : env.ExportsBlind) (ex : Executor)
    {s s' : ExecutionResult × Caches × Rig W} (hstate : s.2.2.state = s'.2.2.state) :
    (env.leave ex s).2.2.state = (env.leave ex s').2.2.state := by
  unfold Env.leave syncContext
  cases hwrite : env.contextWrite with
  | none => exact hstate
  | some f =>
    show (f s.2.2.state s.2.2.world).1 = (f s'.2.2.state s'.2.2.world).1
    rw [hstate]
    exact h f hwrite _ _ _

/-- A step that pages in all its pages within the bound completes the
instruction. -/
theorem Env.step_paged (hrun : env.RunsRepeat op width instr bytes)
    (hsupply : env.SuppliesMissing supplies missing) {ex : Executor}
    (hrunning : ex.stopRequested = false) {m : Machine W}
    (hpaging : env.Paging op width instr bytes supplies e missing (ex.caches, env.enter ex m))
    (hfew : missing.length < kMaxFaultRetries) :
    ∃ c₁ g₁, env.step ex m = env.leave ex
        ((env.completion (env.entryOf instr) (env.enter ex m).state e).1, c₁, g₁) ∧
      ((env.completion (env.entryOf instr) (env.enter ex m).state e).1.reason = .none →
        Holds (env.completion (env.entryOf instr) (env.enter ex m).state e) g₁) := by
  obtain ⟨rest, ⟨c', g'⟩, hrest, hreach, hrip, hsame, hlast⟩ :=
    Env.Paging.reaches hrun missing.length missing _ hsupply hpaging (Nat.le_refl _)
  have hnil : rest = [] := List.length_eq_zero_iff.mp (by omega)
  subst hnil
  obtain ⟨c₁, g₁, hdone, hholds⟩ := hlast.attempt_done hrun
  dsimp only at hrip hsame
  rw [hrip, hsame] at hdone
  rw [hsame] at hholds
  refine ⟨c₁, g₁, ?_, hholds⟩
  have hsplit : kMaxFaultRetries =
      (kMaxFaultRetries - missing.length - 1 + 1) + missing.length := by omega
  have hattempts : env.attempts (env.enter ex m).state.rip kMaxFaultRetries
      (ex.caches, env.enter ex m) =
      ((env.completion (env.entryOf instr) (env.enter ex m).state e).1, c₁, g₁) := by
    rw [hsplit]
    exact (retry_reaches hreach _).trans (retry_done hdone)
  rw [Env.step_running hrunning, hattempts]

/-- A step with more pages to page in runs out of attempts. -/
theorem Env.step_exhausted (hrun : env.RunsRepeat op width instr bytes)
    (hsupply : env.SuppliesMissing supplies missing) {ex : Executor}
    (hrunning : ex.stopRequested = false) {m : Machine W}
    (hpaging : env.Paging op width instr bytes supplies e missing (ex.caches, env.enter ex m))
    (hmany : kMaxFaultRetries ≤ missing.length) :
    (env.step ex m).1.reason = .executionLimit := by
  obtain ⟨rest, s', -, hreach, -, -, -⟩ := Env.Paging.reaches hrun
    kMaxFaultRetries missing _ hsupply hpaging hmany
  have hattempts : env.attempts (env.enter ex m).state.rip kMaxFaultRetries
      (ex.caches, env.enter ex m) = env.exhausted s' := by
    have hretry := @retry_reaches _ _ _ env.exhausted _ _ _ hreach 0
    rw [Nat.zero_add] at hretry
    exact hretry
  rw [Env.step_running hrunning, hattempts]
  rfl

/-- Without a debug event the instruction completes with no reason to stop. -/
theorem Env.completion_quiet {d : DecodedInstruction} {s : CpuState} (hquiet : NoDebugEvent s)
    (hstate : e.state =
      { s with gpr := e.state.gpr, rflags := e.state.rflags, debugSuppression := 0#8 }) :
    (env.completion d s e).1.reason = .none := by
  have hevent : debugEvent (prologue env d s) e (s.debugSuppression != 0#8) (singleStepping s)
      (retire e) = none := by
    have hsuppression : (retire e).debugSuppression = 0#8 := by
      show e.state.debugSuppression = 0#8
      rw [hstate]
    have hhits : (retire e).pendingDebugHitBits = 0#64 := by
      show e.state.pendingDebugHitBits = 0#64
      rw [hstate]
      exact hquiet.hits
    have hstep : (retire e).pendingSingleStep = false := by
      show e.state.pendingSingleStep = false
      rw [hstate]
      exact hquiet.singleStep
    have hdata : (prologue env d s).checkDataBreakpoints = false := hquiet.data
    unfold debugEvent
    rw [singleStepping_eq, hquiet.trap, hsuppression, hhits, hstep, hdata]
    rfl
  unfold Env.completion
  dsimp only
  rw [hevent]

/-- **Demand paging of a repeat, exactly**: with fault hooks that supply the
missing pages, a step with fewer pages missing than it makes attempts returns
what the step with the pages mapped beforehand returns, and where that one
completes it ends in the same state and memory. With more pages missing it
runs into the limit. The other step does complete when no debug exception is
due. -/
theorem Env.demandPaged_iff (hexports : env.ExportsBlind)
    (hrun : env.RunsRepeat op width instr bytes)
    (hsupply : env.SuppliesMissing supplies missing) {ex : Executor}
    (hrunning : ex.stopRequested = false) {m : Machine W}
    (hpaging : env.Paging op width instr bytes supplies e missing (ex.caches, env.enter ex m)) :
    ((env.step ex m).1.reason = .none ↔ missing.length < kMaxFaultRetries ∧
      (env.step ex (m.supplied supplies missing)).1.reason = .none) ∧
    (missing.length < kMaxFaultRetries →
      (env.step ex m).1 = (env.step ex (m.supplied supplies missing)).1 ∧
      ((env.step ex (m.supplied supplies missing)).1.reason = .none →
        (env.step ex m).2.2.state = (env.step ex (m.supplied supplies missing)).2.2.state ∧
        (env.step ex m).2.2.memory = (env.step ex (m.supplied supplies missing)).2.2.memory)) ∧
    (kMaxFaultRetries ≤ missing.length → (env.step ex m).1.reason = .executionLimit) ∧
    (NoDebugEvent (env.enter ex m).state →
      (env.step ex (m.supplied supplies missing)).1.reason = .none) := by
  have hstate : (env.enter ex (m.supplied supplies missing)).state = (env.enter ex m).state := by
    rw [env.enter_supplied]
  have hpaging' : env.Paging op width instr bytes supplies e []
      (ex.caches, env.enter ex (m.supplied supplies missing)) := by
    rw [env.enter_supplied]
    exact Env.Paging.supplied missing _ hpaging
  have hnone : env.SuppliesMissing supplies [] := fun event m _ hmem => absurd hmem List.not_mem_nil
  -- With every page there the step is one attempt, which completes.
  obtain ⟨c', g', hstep', hholds'⟩ := Env.step_paged hrun hnone hrunning hpaging' (by decide)
  rw [hstate] at hstep' hholds'
  have hfewer (hfew : missing.length < kMaxFaultRetries) :
      (env.step ex m).1 = (env.step ex (m.supplied supplies missing)).1 ∧
      ((env.step ex (m.supplied supplies missing)).1.reason = .none →
        (env.step ex m).2.2.state = (env.step ex (m.supplied supplies missing)).2.2.state ∧
        (env.step ex m).2.2.memory =
          (env.step ex (m.supplied supplies missing)).2.2.memory) := by
    -- With fewer pages missing than attempts the last one completes in the same way.
    obtain ⟨c₁, g₁, hstep, hholds⟩ := Env.step_paged hrun hsupply hrunning hpaging hfew
    rw [hstep, hstep']
    refine ⟨rfl, fun hreason => ?_⟩
    obtain ⟨hs, hm⟩ := hholds hreason
    obtain ⟨hs', hm'⟩ := hholds' hreason
    refine ⟨hexports.leave_state ex (hs.trans hs'.symm), ?_⟩
    rw [env.leave_memory, env.leave_memory]
    exact hm.trans hm'.symm
  have hlimit := Env.step_exhausted hrun hsupply hrunning hpaging
  refine ⟨⟨fun hreason => ?_, fun hboth => ?_⟩, hfewer, hlimit, fun hquiet => ?_⟩
  -- As many pages missing as attempts: the limit is the result, and its reason is not none.
  · by_cases hfew : missing.length < kMaxFaultRetries
    · exact ⟨hfew, by rw [← (hfewer hfew).1]; exact hreason⟩
    · rw [hlimit (Nat.le_of_not_lt hfew)] at hreason
      cases hreason
  · rw [(hfewer hboth.1).1]
    exact hboth.2
  · rw [hstep']
    exact Env.completion_quiet hquiet (hpaging.end_state hrun)

end paging

/-! `AA` is `REP STOSB`, `AC` is `REP LODSB`. -/

/-- `REP STOSB`. -/
def repStosb : Instruction := { code := .string .stos .rm8, length := 1, hasRepPrefix := true }

/-- `REP LODSB`. -/
def repLodsb : Instruction := { code := .string .lods .rm8, length := 1, hasRepPrefix := true }

/-- The two instructions. -/
def pagingDecoder : Decode := fun _ bytes _ =>
  bytes.head?.bind fun b =>
    if b = 0xAA#8 then some repStosb else if b = 0xAC#8 then some repLodsb else none

/-- A fault hook that maps the page it is told about. -/
def mapMissing (event : FaultHookEvent) (m : Machine Unit) : FaultHookAction × Machine Unit :=
  (.retry, { m with
    memory := m.memory.map (BitVec.ofNat 64 (pageOf event.faultAddress * kPageSize)) 0x1000#64
      kMemoryPermissionAll })

/-- Zero pages. -/
def zeroPages (_ : Nat) : PageSupply := ⟨{ permissions := kMemoryPermissionAll }, 1#64, 1#64⟩

/-- A fault hook that maps what is missing. -/
def pagingEnv : Env Unit := { decode := pagingDecoder, faultHooks := [mapMissing] }

/-- One opcode at `1000`, and nothing mapped elsewhere. -/
def pagingMemory (opcode : Byte) : Memory :=
  (Memory.writeUnchecked (Memory.map {} 0x1000#64 0x1000#64 kMemoryPermissionAll) 0x1000#64
    [opcode]).1

/-- The code and a state. -/
def pagingMachine (opcode : Byte) (state : CpuState) : Machine Unit :=
  { state := { state with rip := 0x1000#64 }, memory := pagingMemory opcode, world := () }

/-- The hook supplies what is missing. -/
theorem pagingEnv_supplies {missing : List Nat} (h : ∀ page ∈ missing, page + 2 ≤ 2 ^ 52) :
    pagingEnv.SuppliesMissing zeroPages missing := by
  intro event m _ hmem hnone
  refine ⟨(), ?_⟩
  show (FaultHookAction.retry, Machine.mk m.state (m.memory.map _ _ _) m.world) = _
  rw [Memory.map_eq_supply hnone (h _ hmem)]
  rfl

/-- The handler is the string instruction's. -/
theorem pagingEnv_runs {op : StringOp} {instr : Instruction} {opcode : Byte}
    (hcode : instr.code = .string op .rm8) (hrep : instr.repeats = true) :
    pagingEnv.RunsRepeat op .rm8 instr [opcode] := by
  refine ⟨⟨fun _ => rfl, rfl, fun _ => rfl, rfl, fun _ => rfl⟩, rfl, ?_, ?_, Nat.le_add_left 1 14,
    hcode, hrep⟩
  · intro bitness bytes rip
    cases bytes <;> rfl
  · intro bitness bytes rest rip instr h
    cases bytes with
    | nil => cases h
    | cons b bs => exact h

/-- The code can be fetched. -/
theorem pagingMemory_fetchable {opcode : Byte} (h : opcode = 0xAA#8 ∨ opcode = 0xAC#8) :
    pagingEnv.Fetchable [opcode] 0x1000#64 {} (pagingMemory opcode) := by
  have hempty : ({} : Caches).Empty := ⟨fun _ => rfl, fun _ => rfl⟩
  rcases h with rfl | rfl
  · exact ⟨hempty.coherent _, ⟨rfl, rfl, rfl⟩, fun _ _ _ => rfl, by unfold ExecutableBytes; decide,
      by decide⟩
  · exact ⟨hempty.coherent _, ⟨rfl, rfl, rfl⟩, fun _ _ _ => rfl, by unfold ExecutableBytes; decide,
      by decide⟩

/-- The decoder lists no operands. -/
theorem pagingEnv_listedHits (instr : Instruction) (t : CpuState) :
    pagingEnv.listedHits instr t = 0#64 := by
  unfold Env.listedHits
  cases hasEnabledDataBreakpoints t <;> rfl

/-- Two bytes to store across a page boundary, both pages missing. -/
def stosMachine : Machine Unit :=
  pagingMachine 0xAA#8 ((({} : CpuState).setGpr 1 2#64).setGpr 7 0x5FFF#64)

/-- The context of its first attempt, with the pages supplied. -/
def stosContext : ExecutionContext :=
  mapped zeroPages [5, 6] (pagingEnv.handlerContext (pagingEnv.entryOf repStosb)
    (pagingEnv.enter {} stosMachine))

set_option maxRecDepth 20000 in
/-- Two bytes, on either side of a page boundary. -/
theorem stosContext_elements :
    elementsOf .stos 1 stosContext = [⟨0#64, 0x5FFF#64⟩, ⟨0#64, 0x6000#64⟩] := rfl

set_option maxRecDepth 20000 in
/-- With its pages the fill goes through. -/
theorem stosContext_granted : ∃ e, stringImpl .stos 1 stosContext = .ok () e := ⟨_, rfl⟩

/-- The conditions of the fill. -/
theorem stosMachine_paging : ∃ e, pagingEnv.Paging .stos .rm8 repStosb [0xAA#8] zeroPages e [5, 6]
    (({} : Executor).caches, pagingEnv.enter {} stosMachine) := by
  obtain ⟨e, he⟩ := stosContext_granted
  have hin (p : StringPointers) (hp : p ∈ elementsOf .stos 1 stosContext) :
      p = ⟨0#64, 0x5FFF#64⟩ ∨ p = ⟨0#64, 0x6000#64⟩ := by
    rw [stosContext_elements] at hp
    simpa using hp
  refine ⟨e, pagingMemory_fetchable (Or.inl rfl), rfl, ⟨by decide, Or.inl rfl⟩, by decide, ?_, ?_,
    by decide, fun p hp => ?_, Or.inr fun t _ => pagingEnv_listedHits _ t, ?_, he⟩
  -- The pages, the bumps, and the two elements with their pages in turn.
  · rintro page (_ | ⟨_, _ | ⟨_, h⟩⟩)
    · rfl
    · rfl
    · cases h
  · intro page _ h
    exact absurd (show 1#64 = 0#64 from h) (by decide)
  · show ElementSafe .stos 1 0x1000#64 1 (pagingMemory 0xAA#8) p
    have hpages (a : U64) : (pagingMemory 0xAA#8).PagesAnswer a 1 := ⟨rfl, rfl, rfl⟩
    rcases hin p hp with rfl | rfl
    · exact ⟨fun a _ => hpages a, fun a ha => by rw [List.mem_singleton.mp ha]; decide, by decide⟩
    · exact ⟨fun a _ => hpages a, fun a ha => by rw [List.mem_singleton.mp ha]; decide, by decide⟩
  · have hmem (p : StringPointers) (hp : p ∈ [⟨0#64, 0x5FFF#64⟩, ⟨0#64, 0x6000#64⟩]) :
        p ∈ elementsOf .stos 1 stosContext := by
      rw [stosContext_elements]
      exact hp
    rintro page (_ | ⟨_, _ | ⟨_, h⟩⟩)
    · exact ⟨⟨0#64, 0x5FFF#64⟩, hmem _ List.mem_cons_self, 0x5FFF#64, List.mem_cons_self, by decide⟩
    · exact ⟨⟨0#64, 0x6000#64⟩, hmem _ (List.mem_cons_of_mem _ List.mem_cons_self), 0x6000#64,
        List.mem_cons_self, by decide⟩
    · cases h

/-- Two faults, both supplied: the step ends as if the pages had been there. -/
theorem Env.demandPaged_iff_stos :
    (pagingEnv.step {} stosMachine).1.reason = .none ∧
      (pagingEnv.step {} stosMachine).2.2.memory =
        (pagingEnv.step {} (stosMachine.supplied zeroPages [5, 6])).2.2.memory := by
  obtain ⟨e, hpaging⟩ := stosMachine_paging
  have h := Env.demandPaged_iff (fun f hf => by cases hf) (pagingEnv_runs rfl rfl)
    (pagingEnv_supplies (by decide)) rfl hpaging
  have hfew : [5, 6].length < kMaxFaultRetries := by decide
  have hdone := h.2.2.2 ⟨by decide, by decide, rfl, rfl⟩
  exact ⟨h.1.mpr ⟨hfew, hdone⟩, ((h.2.1 hfew).2 hdone).2⟩

/-- A load through eight pages, all of them missing. -/
def lodsMachine : Machine Unit :=
  pagingMachine 0xAC#8 ((({} : CpuState).setGpr 1 0x7001#64).setGpr 6 0x10000#64)

/-- Eight pages in a row. -/
def eightPages : List Nat := List.range' 16 8

/-- The load with its pages there. -/
def lodsContext : ExecutionContext :=
  mapped zeroPages eightPages (pagingEnv.handlerContext (pagingEnv.entryOf repLodsb)
    (pagingEnv.enter {} lodsMachine))

/-- The addresses of the load lie in the eight pages. -/
theorem pageOf_lods {i : Nat} (hi : i < 0x7001) :
    pageOf (0x10000#64 + BitVec.ofNat 64 (i * 1)) = 16 + i / 4096 := by
  unfold pageOf
  rw [BitVec.toNat_add, BitVec.toNat_ofNat, show kPageSize = 4096 from rfl]
  simp only [BitVec.toNat_ofNat]
  omega

/-- It reads 0x7001 bytes. -/
theorem lodsContext_runs :
    (∃ e, stringImpl .lods 1 lodsContext = .ok () e) ∧
      (elementsOf .lods 1 lodsContext).map StringPointers.rsi =
        (List.range 0x7001).map fun i => 0x10000#64 + BitVec.ofNat 64 (i * 1) := by
  refine repLods_runs (by decide) 0x7001 lodsContext rfl rfl rfl (by decide) fun i hi => ?_
  have hpage := pageOf_lods hi
  have hmem : pageOf (0x10000#64 + BitVec.ofNat 64 (i * 1)) ∈ eightPages := by
    unfold eightPages
    rw [hpage, List.mem_range'_1]
    omega
  have hread : hasPermission kMemoryPermissionAll .dataRead = true := by decide
  exact Memory.read_supplied ⟨rfl, rfl, rfl⟩ rfl Nat.one_pos (Nat.mod_lt _ kPageSize_pos) hmem hread

/-- The conditions of the load. -/
theorem lodsMachine_paging : ∃ e, pagingEnv.Paging .lods .rm8 repLodsb [0xAC#8] zeroPages e
    eightPages (({} : Executor).caches, pagingEnv.enter {} lodsMachine) := by
  obtain ⟨⟨e, he⟩, helements⟩ := lodsContext_runs
  refine ⟨e, pagingMemory_fetchable (Or.inr rfl), rfl, ⟨by decide, Or.inl rfl⟩, by decide, ?_, ?_,
    by decide, fun p _ => ?_, Or.inr fun t _ => pagingEnv_listedHits _ t, fun page hpage => ?_, he⟩
  · have hnone : ∀ page ∈ eightPages, (pagingMemory 0xAC#8).pages[page]? = none := by
      unfold Memory.pages eightPages
      decide
    exact hnone
  · intro page _ h
    exact absurd (show 1#64 = 0#64 from h) (by decide)
  · -- one byte lies in one page, and a load writes nothing
    exact ⟨fun a _ => ⟨rfl, rfl, rfl⟩, fun a _ => Nat.mod_lt _ kPageSize_pos,
      fun hwrites => by cases hwrites⟩
  · unfold eightPages at hpage
    rw [List.mem_range'_1] at hpage
    -- The page is reached by one of the elements, at the page's distance from the first.
    have hi : (page - 16) * 4096 < 0x7001 := by omega
    have hmem : 0x10000#64 + BitVec.ofNat 64 ((page - 16) * 4096 * 1) ∈
        (elementsOf .lods 1 lodsContext).map StringPointers.rsi := by
      rw [helements]
      exact List.mem_map_of_mem (List.mem_range.mpr hi)
    obtain ⟨p, hp, hrsi⟩ := List.mem_map.mp hmem
    refine ⟨p, hp, p.rsi, List.mem_cons_self, ?_⟩
    rw [hrsi, pageOf_lods hi]
    omega

/-- Every page it needs is supplied, but the load takes eight attempts to get
to its last page and there is no ninth. -/
theorem Env.step_exhausted_eight_pages :
    ¬ (∀ (e : ExecutionContext) (missing : List Nat) (m : Machine Unit),
        pagingEnv.SuppliesMissing zeroPages missing →
        pagingEnv.Paging .lods .rm8 repLodsb [0xAC#8] zeroPages e missing
          (({} : Executor).caches, pagingEnv.enter {} m) →
        (pagingEnv.step {} m).1.reason = .none) ∧
    (pagingEnv.step {} lodsMachine).1.reason = .executionLimit ∧
    (pagingEnv.step {} (lodsMachine.supplied zeroPages eightPages)).1.reason = .none := by
  obtain ⟨e, hpaging⟩ := lodsMachine_paging
  have hrun : pagingEnv.RunsRepeat .lods .rm8 repLodsb [0xAC#8] := pagingEnv_runs rfl rfl
  have hsupply : pagingEnv.SuppliesMissing zeroPages eightPages := pagingEnv_supplies (by decide)
  have hlimit := Env.step_exhausted hrun hsupply rfl hpaging (by decide)
  refine ⟨fun h => ?_, hlimit, ?_⟩
  · have hnone := h e eightPages lodsMachine hsupply hpaging
    rw [hlimit] at hnone
    cases hnone
  · have hsupplied : pagingEnv.Paging .lods .rm8 repLodsb [0xAC#8] zeroPages e []
        (({} : Executor).caches,
          pagingEnv.enter {} (lodsMachine.supplied zeroPages eightPages)) := by
      rw [pagingEnv.enter_supplied]
      exact Env.Paging.supplied eightPages _ hpaging
    obtain ⟨c₁, g₁, hstep, -⟩ :=
      Env.step_paged hrun (pagingEnv_supplies (by decide)) rfl hsupplied (by decide)
    rw [hstep]
    exact Env.completion_quiet ⟨by decide, by decide, rfl, rfl⟩ (hsupplied.end_state hrun)

end Seven
