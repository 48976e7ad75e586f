import Seven.Lib.BoundedRetry
import Seven.Executor.Fetch

/-!
# The step of the executor

`Executor::step` runs one instruction: fetch and decode, the invalid-opcode
and feature checks, execute breakpoints, trap hooks, instruction hooks, the
handler, and the debug exceptions that follow it. A fault at any of these
goes to the fault hooks first; when one answers *retry* or *restart*, the
whole attempt is made again, at most `kMaxFaultRetries` times.

`execute` is an attempt from the decoded instruction on. It ends in an
`Outcome`: a result to return, a fault to be recovered or reported, or a
failure that is reported without asking the fault hooks. The phases of
`execute` are separate definitions that either end the attempt or pass the
machine on.

Hooks are host code. They may change the CPU state, the memory and anything
they captured, which is the `world` of the machine. Hooks that add or remove
hooks, the tracing of the environment variables and the re-entrant use of
the executor from a hook are outside the model.
-/

namespace Seven

open Seven.Lib (Answer retry)

/-! ## Machine, hooks, environment -/

/-- What a step works on, besides the executor itself. -/
structure Machine (W : Type) where
  state : CpuState
  memory : Memory
  world : W

/-- The instruction a trap or instruction hook sees. -/
structure InstructionEvent where
  instr : Instruction
  nextRip : U64

/-- `FaultHookEvent`. -/
structure FaultHookEvent where
  result : ExecutionResult
  instructionRip : U64
  faultAddress : U64

/-- `StopHookEvent`. -/
structure StopHookEvent where
  result : ExecutionResult
  faultAddress : U64

/-- `FaultHookAction`. -/
inductive FaultHookAction where
  | stop
  | retry
  | restartInstruction
deriving DecidableEq, Repr

/-- Actions of trap hooks: `act` is *handled*. -/
inductive HookAction where
  | continueToCore
  | act
  | stop (result : Option ExecutionResult)
deriving DecidableEq

/-- How an operand is accessed, as the instruction info reports it: `cond`
marks what an instruction may leave out. -/
inductive OpAccess where
  | none
  | read
  | condRead
  | write
  | condWrite
  | readWrite
  | readCondWrite
  | noMemAccess
deriving DecidableEq

/-- `op_access_reads`. -/
def opAccessReads : OpAccess → Bool
  | .read | .condRead | .readWrite | .readCondWrite => true
  | _ => false

/-- `op_access_writes`. -/
def opAccessWrites : OpAccess → Bool
  | .write | .condWrite | .readWrite | .readCondWrite => true
  | _ => false

/-- A memory operand as the third-party instruction info reports it. -/
structure UsedMemory where
  base : Register
  index : Register
  scale : U64
  displacement : U64
  segment : Register
  size : Nat
  access : OpAccess

/-- Everything a step consults that is not the executor, the CPU state or
the memory: third-party code, settings and the installed hooks, in the order
of their registration. -/
structure Env (W : Type) where
  decode : Decode
  simdProfileAllows : Instruction → Bool := fun _ => true
  usedMemory : Instruction → List UsedMemory := fun _ => []
  otherHandler : Code → Option Handler := fun _ => none
  decodeCacheDisabled : Bool := false
  collectCodeStats : Bool := false
  contextRead : Option (CpuState → W → CpuState × W) := none
  contextWrite : Option (CpuState → W → CpuState × W) := none
  trapHooks : TrapKind → List (InstructionEvent → Machine W → HookAction × Machine W) := fun _ => []
  executionHooks : List (U64 → Machine W → Machine W) := []
  executionAddressHooks : U64 → List (U64 → Machine W → Machine W) := fun _ => []
  instructionHooks : List (InstructionEvent → Machine W → HookAction × Machine W) := []
  codeHooks : Code → List (InstructionEvent → Machine W → HookAction × Machine W) := fun _ => []
  faultHooks : List (FaultHookEvent → Machine W → FaultHookAction × Machine W) := []
  stopHooks : List (StopHookEvent → Machine W → Machine W) := []

/-- `Violation`. -/
structure Violation where
  ip : U64
  address : U64
  reason : StopReason
deriving DecidableEq

/-- What the executor records about its steps. -/
structure Log where
  totalSteps : U64 := 0#64
  totalRetired : U64 := 0#64
  codeExecutionCounts : Code → U64 := fun _ => 0#64
  stopReasonCounts : StopReason → U64 := fun _ => 0#64
  violation : Option Violation := none

/-- The machine with the executor's records: what an attempt changes, the
caches apart. -/
structure Rig (W : Type) extends Machine W where
  log : Log

/-- `Executor`, less its hooks: they are the environment's. -/
structure Executor where
  caches : Caches := {}
  log : Log := {}
  stopRequested : Bool := false

namespace Log

/-- A stop counted. -/
def countStop (l : Log) (reason : StopReason) : Log :=
  { l with
    stopReasonCounts := fun r =>
      if r = reason then l.stopReasonCounts r + 1#64 else l.stopReasonCounts r }

/-- A code counted. -/
def countCode (l : Log) (code : Code) : Log :=
  { l with
    codeExecutionCounts := fun c =>
      if c = code then l.codeExecutionCounts c + 1#64 else l.codeExecutionCounts c }

/-- A retirement counted. -/
def countRetired (l : Log) : Log := { l with totalRetired := l.totalRetired + 1#64 }

end Log

namespace Rig

variable {W : Type}

/-- The state changed. -/
def mapState (g : Rig W) (f : CpuState → CpuState) : Rig W := { g with state := f g.state }

/-- The records changed. -/
def mapLog (g : Rig W) (f : Log → Log) : Rig W := { g with log := f g.log }

/-- The machine replaced. -/
def withMachine (g : Rig W) (m : Machine W) : Rig W := { g with toMachine := m }

/-- The context a handler of this instruction runs in. -/
def context (g : Rig W) (instr : Instruction) (nextRip : U64) : ExecutionContext :=
  { state := g.state, memory := g.memory, instr := instr, nextRip := nextRip }

/-- State and memory as a handler left them. -/
def fromContext (g : Rig W) (ctx : ExecutionContext) : Rig W :=
  { g with state := ctx.state, memory := ctx.memory }

end Rig

/-- `mask_stack`. -/
def maskStack (s : CpuState) : CpuState := s.setRsp (maskStackPointer s s.rsp)

/-- `fault_address_of`. -/
def faultAddressOf (result : ExecutionResult) (fallback : U64) : U64 :=
  match result.exception with
  | some e => e.address
  | none => fallback

/-! ## Running hooks -/

section hooks

variable {W : Type}

/-- Run hooks until one answers with something else than `pass`. -/
def runHooks {A : Type} [DecidableEq A] (pass : A) :
    List (Machine W → A × Machine W) → Machine W → A × Machine W
  | [], m => (pass, m)
  | hook :: hooks, m =>
    match hook m with
    | (a, m) => if a = pass then runHooks pass hooks m else (a, m)

/-- `run_fault_hooks`. -/
def Env.runFaultHooks (env : Env W) (event : FaultHookEvent) (m : Machine W) :
    FaultHookAction × Machine W :=
  runHooks .stop (env.faultHooks.map fun hook => hook event) m

/-- `run_trap_hooks`: the hooks of the kind, then those of the code. -/
def Env.runTrapHooks (env : Env W) (kind : TrapKind) (event : InstructionEvent) (m : Machine W) :
    HookAction × Machine W :=
  runHooks .continueToCore ((env.trapHooks kind).map fun hook => hook event) m

/-- Instruction hooks, then the code hooks of the instruction's own code. -/
def Env.runInstructionHooks (env : Env W) (event : InstructionEvent) (m : Machine W) :
    HookAction × Machine W :=
  runHooks .continueToCore
    ((env.instructionHooks ++ env.codeHooks event.instr.code).map fun hook => hook event) m

/-- `run_execution_hooks`. -/
def Env.runExecutionHooks (env : Env W) (m : Machine W) : Machine W :=
  let m := env.executionHooks.foldl (fun m hook => hook m.state.rip m) m
  (env.executionAddressHooks m.state.rip).foldl (fun m hook => hook m.state.rip m) m

/-- `notify_stop_hooks`. -/
def Env.notifyStopHooks (env : Env W) (event : StopHookEvent) (m : Machine W) : Machine W :=
  env.stopHooks.foldl (fun m hook => hook event m) m

end hooks

/-! ## Breakpoints -/

/-- `breakpoint_enabled`. -/
def breakpointEnabled (state : CpuState) (i : Fin 4) : Bool :=
  (state.dr 7 >>> (i.val * 2)) &&& 3#64 != 0#64

/-- `breakpoint_rw`. -/
def breakpointRw (state : CpuState) (i : Fin 4) : U64 := (state.dr 7 >>> (16 + i.val * 4)) &&& 3#64

/-- `has_enabled_execute_breakpoints`. -/
def hasEnabledExecuteBreakpoints (state : CpuState) : Bool :=
  state.dr 7 != 0#64 &&
    (List.finRange 4).any fun i => breakpointEnabled state i && breakpointRw state i == 0#64

/-- `has_enabled_data_breakpoints`. -/
def hasEnabledDataBreakpoints (state : CpuState) : Bool :=
  state.dr 7 != 0#64 &&
    (List.finRange 4).any fun i => breakpointEnabled state i && breakpointRw state i != 0#64

/-- `collect_execute_breakpoint_hits`. -/
def collectExecuteBreakpointHits (state : CpuState) (instructionRip : U64) : U64 :=
  (List.finRange 4).foldl (fun bits i =>
    if breakpointEnabled state i && breakpointRw state i == 0#64 &&
        maskLinearAddress state (state.dr (lowIndex i)) == instructionRip
    then bits ||| (1#64 <<< i.val) else bits) 0#64

/-- `DebugMemoryAccess`. -/
structure DebugMemoryAccess where
  address : U64
  size : Nat
  isRead : Bool
  isWrite : Bool
deriving DecidableEq

/-- The access of an operand the decoder lists. -/
def debugMemoryAccess (state : CpuState) (u : UsedMemory) : DebugMemoryAccess :=
  let base := if u.base = .none then 0#64 else readRegister state u.base
  let index := if u.index = .none then 0#64 else readRegister state u.index * u.scale
  let segment :=
    if u.segment = .fs then state.fsBase else if u.segment = .gs then state.gsBase else 0#64
  { address := maskLinearAddress state (base + index + u.displacement + segment)
    size := max 1 u.size
    isRead := opAccessReads u.access
    isWrite := opAccessWrites u.access }

/-- `collect_debug_memory_accesses`. -/
def collectDebugMemoryAccesses (state : CpuState) (used : List UsedMemory) :
    List DebugMemoryAccess :=
  (used.filter fun u => opAccessReads u.access || opAccessWrites u.access).map
    (debugMemoryAccess state)

/-- `collect_data_breakpoint_hits`. -/
def collectDataBreakpointHits (state : CpuState) (accesses : List DebugMemoryAccess) : U64 :=
  accesses.foldl (fun bits a =>
    bits ||| debugDataBreakpointHits state a.address (BitVec.ofNat 64 a.size) a.isRead a.isWrite)
    0#64

/-! ## The phases of an attempt -/

/-- How an attempt ends. -/
inductive Outcome where
  /-- Return the result. -/
  | finish (r : ExecutionResult)
  /-- Ask the fault hooks; `clearPending` drops the pending debug events when
  they do not recover. -/
  | fault (r : ExecutionResult) (clearPending : Bool)
  /-- Report the failure without asking the fault hooks. -/
  | abort (r : ExecutionResult)

/-- A fault that names the current instruction pointer. -/
def faultAt (reason : StopReason) (rip : U64) (code : Option Code) : ExecutionResult :=
  { reason := reason, exception := some ⟨reason, rip, 0#32⟩, code := code }

section phases

variable {W : Type}

/-- Values computed once per attempt, before anything is executed. -/
structure Prologue where
  entry : DecodedInstruction
  nextRip : U64
  checkExecuteBreakpoints : Bool
  checkDataBreakpoints : Bool
  debugMemoryAccesses : List DebugMemoryAccess

namespace Prologue

/-- The instruction. -/
def instr (p : Prologue) : Instruction := p.entry.instr

/-- What the hooks are told. -/
def event (p : Prologue) : InstructionEvent := ⟨p.instr, p.nextRip⟩

end Prologue

/-- What an attempt computes before anything can happen. -/
def prologue (env : Env W) (entry : DecodedInstruction) (state : CpuState) : Prologue :=
  let checkData := hasEnabledDataBreakpoints state
  { entry := entry
    nextRip := maskInstructionPointer state (state.rip + BitVec.ofNat 64 entry.instructionLength)
    checkExecuteBreakpoints := hasEnabledExecuteBreakpoints state
    checkDataBreakpoints := checkData
    debugMemoryAccesses :=
      if checkData then collectDebugMemoryAccesses state (env.usedMemory entry.instr) else [] }

/-- A phase ends the attempt or passes the rig on. -/
abbrev Phase (W : Type) := Rig W → Option Outcome × Rig W

/-- Run a phase, then what follows it. -/
def Phase.followedBy (phase : Phase W) (next : Rig W → Outcome × Rig W) (g : Rig W) :
    Outcome × Rig W :=
  match phase g with
  | (some outcome, g) => (outcome, g)
  | (none, g) => next g

/-- `INVALID`: a trap hook may handle it, otherwise it faults. -/
def invalidOpcode (env : Env W) (p : Prologue) (g : Rig W) : Outcome × Rig W :=
  let (action, m) := env.runTrapHooks .invalidOpcode p.event g.toMachine
  let g := g.withMachine m
  match action with
  | .act =>
    let g := if env.collectCodeStats then g.mapLog Log.countRetired else g
    (.finish { retired := 1, code := some .invalid },
      g.mapState fun s => maskStack { s with rip := p.nextRip })
  | .stop r => (.fault (r.getD (faultAt .invalidOpcode g.state.rip (some .invalid))) false, g)
  | .continueToCore => (.fault (faultAt .invalidOpcode g.state.rip (some .invalid)) false, g)

/-- After a hook stood in for the core: fall through to the next
instruction unless the hook moved `RIP`. -/
def afterHandled (env : Env W) (startRip : U64) (p : Prologue) (g : Rig W) : Outcome × Rig W :=
  let g := g.mapState fun s =>
    maskStack
      { s with rip := if s.rip = startRip then p.nextRip else maskInstructionPointer s s.rip }
  let g := if env.collectCodeStats then
      (g.mapLog (Log.countCode · p.instr.code)).mapLog Log.countRetired else g
  (.finish { retired := 1, code := some p.entry.reportedCode }, g)

/-- Execute breakpoints, at the address the step began at. -/
def executeBreakpoints (startRip : U64) (p : Prologue) (suppressed : Bool) : Phase W := fun g =>
  let hits := collectExecuteBreakpointHits g.state startRip
  if suppressed || !p.checkExecuteBreakpoints || hits == 0#64 then (none, g)
  else
    let g := g.mapState fun s => s.setDr 6 (s.dr 6 ||| hits)
    let (r, ctx) := (dispatchInterrupt 1#8 startRip none false).run (g.context p.instr p.nextRip)
    let g := g.fromContext ctx
    if r.reason ≠ .none then (some (.fault r false), g)
    else
      (some (.finish { code := some p.entry.reportedCode }),
        g.mapState fun s => maskStack { s with rip := maskInstructionPointer s s.rip })

/-- The trap hooks of an attempt. -/
def traps (env : Env W) (startRip : U64) (p : Prologue) : Phase W := fun g =>
  match p.entry.trapKind with
  | none => (none, g)
  | some kind =>
    let (action, m) := env.runTrapHooks kind p.event g.toMachine
    let g := g.withMachine m
    match action with
    | .act =>
      let (outcome, g) := afterHandled env startRip p g
      (some outcome, g)
    | .stop r =>
      (some (.fault (r.getD (faultAt .generalProtection g.state.rip (some p.instr.code))) false), g)
    | .continueToCore => (none, g)

/-- A stop hook's result, with the defaults filled in. -/
def hookStopResult (p : Prologue) (r : Option ExecutionResult) : ExecutionResult :=
  let r := r.getD { reason := .unsupportedInstruction, code := some p.instr.code }
  { r with code := some (r.code.getD p.entry.reportedCode) }

/-- Execution hooks and instruction hooks. -/
def instructionHooks (env : Env W) (startRip : U64) (p : Prologue) : Phase W := fun g =>
  let g := g.withMachine (env.runExecutionHooks g.toMachine)
  let (action, m) := env.runInstructionHooks p.event g.toMachine
  let g := g.withMachine m
  match action with
  | .stop r =>
    let r := hookStopResult p r
    (some (if r.reason = .none then .finish r else .fault r false), g)
  | .act =>
    let (outcome, g) := afterHandled env startRip p g
    (some outcome, g)
  | .continueToCore => (none, g)

/-- `unsupported`, the default of the dispatch. -/
def unsupported : Handler := fun ctx =>
  .error (faultAt .unsupportedInstruction ctx.state.rip none) ctx

/-- The dispatch on the reported code. -/
def Env.handler (env : Env W) : Code → Handler
  | .stack c => c.handler
  | .rmw c => c.handler
  | .string op width => stringImpl op width.bytes
  | code => (env.otherHandler code).getD unsupported

/-- Debug exceptions of the instruction that has just executed. -/
def debugExceptions (p : Prologue) (ctx : ExecutionContext) (debugSuppressed tfActive : Bool)
    (r : ExecutionResult) (g : Rig W) : Outcome × Rig W :=
  let shadow := g.state.debugSuppression != 0#8
  if !shadow && g.state.pendingDebugHitBits == 0#64 && !p.checkDataBreakpoints &&
      !g.state.pendingSingleStep && !tfActive then (.finish r, g)
  else
    let current :=
      -- The hits the handler noted have precedence over the accesses the instruction decodes to.
      if ctx.debugHitBits ≠ 0#64 then ctx.debugHitBits
      else collectDataBreakpointHits g.state p.debugMemoryAccesses
    if shadow then
      (.finish r, g.mapState fun s =>
        { s with pendingDebugHitBits := s.pendingDebugHitBits ||| current })
    else
      let dataHits := g.state.pendingDebugHitBits ||| current
      let tfHit := g.state.pendingSingleStep || (!debugSuppressed && tfActive)
      if dataHits == 0#64 && !tfHit then (.finish r, g)
      else
        let g := g.mapState fun s =>
          let s := if tfHit then
              { s.setDr 6 (s.dr 6 ||| (1#64 <<< 14)) with pendingSingleStep := false } else s
          { s.setDr 6 (s.dr 6 ||| dataHits) with pendingDebugHitBits := 0#64 }
        let returnRip := g.state.rip
        let (db, dbCtx) := (dispatchInterrupt 1#8 returnRip none ctx.pushRfForDebug).run
          (g.context p.instr returnRip)
        let g := g.fromContext dbCtx
        if db.reason ≠ .none then (.abort db, g) else (.finish r, g)

/-- The handler and what follows it. -/
def core (env : Env W) (p : Prologue) (debugSuppressed tfActive : Bool) (g : Rig W) :
    Outcome × Rig W :=
  let code := p.entry.reportedCode
  let (r, ctx) := (env.handler code).run (g.context p.instr p.nextRip)
  let g := g.fromContext ctx
  let r := { r with code := some code }
  if r.reason ≠ .none then (.fault r debugSuppressed, g)
  else
    let g := if env.collectCodeStats then
        (g.mapLog (Log.countCode · code)).mapLog Log.countRetired else g
    let g := g.mapState fun s =>
      maskStack
        { s with
          rip := if ctx.controlFlowTaken then maskInstructionPointer s s.rip else ctx.nextRip }
    debugExceptions p ctx debugSuppressed tfActive { r with retired := 1 } g

/-- RF and the debug suppression last for one instruction. -/
def clearSuppression (s : CpuState) : CpuState :=
  { s with rflags := s.rflags &&& ~~~kFlagRF, debugSuppression := 0#8 }

/-- An attempt from the decoded instruction on. -/
def execute (env : Env W) (startRip : U64) (entry : DecodedInstruction) (g : Rig W) :
    Outcome × Rig W :=
  let p := prologue env entry g.state
  if p.instr.code = .invalid then invalidOpcode env p g
  else if !entry.simdAllowed then
    (.fault (faultAt .unsupportedInstruction g.state.rip (some p.instr.code)) false, g)
  else
    let rfSuppressed := flagSet g.state.rflags kFlagRF
    let debugSuppressed := g.state.debugSuppression != 0#8
    let g := g.mapState clearSuppression
    let tfActive := flagSet g.state.rflags kFlagTF
    Phase.followedBy (executeBreakpoints startRip p (rfSuppressed || debugSuppressed))
      (Phase.followedBy (traps env startRip p)
        (Phase.followedBy (instructionHooks env startRip p)
          (core env p debugSuppressed tfActive))) g

end phases

/-! ## Faults -/

section faults

variable {W : Type}

/-- Reasons that are not violations. -/
def StopReason.benign : StopReason → Bool
  | .none | .halted | .executionLimit | .stopRequested => true
  | _ => false

/-- A violation recorded, where the stop is one. -/
def recordViolation (startRip address : U64) (r : ExecutionResult) (l : Log) : Log :=
  if r.reason.benign then l
  else { l with violation := some ⟨startRip, address, r.reason⟩ }

/-- `++stop_reason_counts_` and the stop hooks. -/
def Env.reportStop (env : Env W) (r : ExecutionResult) (g : Rig W) : ExecutionResult × Rig W :=
  let g := g.mapLog (Log.countStop · r.reason)
  (r, g.withMachine (env.notifyStopHooks ⟨r, g.state.rip⟩ g.toMachine))

/-- Record the violation and report the stop. -/
def Env.stopWith (env : Env W) (startRip : U64) (r : ExecutionResult) (g : Rig W) :
    ExecutionResult × Rig W :=
  env.reportStop r (g.mapLog (recordViolation startRip (faultAddressOf r g.state.rip) r))

/-- `try_recover_fault`: is the attempt to be repeated? -/
def Env.tryRecoverFault (env : Env W) (startRip : U64) (r : ExecutionResult) (g : Rig W) :
    Bool × Rig W :=
  match env.runFaultHooks ⟨r, startRip, faultAddressOf r g.state.rip⟩ g.toMachine with
  | (.retry, m) => (true, g.withMachine m)
  | (.restartInstruction, m) =>
    (true, (g.withMachine m).mapState fun s => maskStack { s with rip := startRip })
  | (.stop, m) => (false, g.withMachine m)

/-- The pending debug events forgotten. -/
def clearPending (s : CpuState) : CpuState :=
  { s with pendingSingleStep := false, pendingDebugHitBits := 0#64 }

/-- What the outcome of an attempt makes of the step. -/
def Env.conclude (env : Env W) (startRip : U64) :
    Outcome × Rig W → Answer (ExecutionResult × Rig W) (Rig W)
  | (.finish r, g) => .done (r, g)
  | (.abort r, g) => .done (env.stopWith startRip r g)
  | (.fault r clear, g) =>
    match env.tryRecoverFault startRip r g with
    | (true, g) => .again g
    | (false, g) =>
      let g := if clear then g.mapState clearPending else g
      .done (env.stopWith startRip r g)

end faults

/-! ## Attempt and step -/

section step

variable {W : Type}

/-- `can_use_decode_cache`. -/
def Env.canUseDecodeCache (env : Env W) (memory : Memory) : Bool :=
  !memory.hasFetchAccessHooks && !env.decodeCacheDisabled

/-- The outcome of an attempt given what was fetched. -/
def Env.attemptFetched (env : Env W) (startRip : U64) (fetched : Fetched) (g : Rig W) :
    Outcome × Rig W :=
  match fetched with
  | .pageFault => (.fault (faultAt .pageFault g.state.rip none) false, g)
  | .decodeError => (.fault (faultAt .decodeError g.state.rip none) false, g)
  | .decoded entry => execute env startRip entry g

/-- The caches go on to the next attempt or out of the loop. -/
def withCaches (caches : Caches) : Answer (ExecutionResult × Rig W) (Rig W) →
    Answer (ExecutionResult × Caches × Rig W) (Caches × Rig W)
  | .done (r, g) => .done (r, caches, g)
  | .again g => .again (caches, g)

/-- The lookup of an attempt. -/
def Env.fetch (env : Env W) (s : Caches × Rig W) : Caches × Fetched :=
  Seven.fetch env.decode env.simdProfileAllows (env.canUseDecodeCache s.2.memory) s.1 s.2.state
    s.2.memory

/-- One pass of the retry loop. -/
def Env.attempt (env : Env W) (startRip : U64) (s : Caches × Rig W) :
    Answer (ExecutionResult × Caches × Rig W) (Caches × Rig W) :=
  let (caches, fetched) := env.fetch s
  withCaches caches (env.conclude startRip (env.attemptFetched startRip fetched s.2))

/-- `kMaxFaultRetries`. -/
def kMaxFaultRetries : Nat := 8

/-- All attempts used up. -/
def Env.exhausted (env : Env W) (s : Caches × Rig W) : ExecutionResult × Caches × Rig W :=
  let (r, g) := env.reportStop { reason := .executionLimit } s.2
  (r, s.1, g)

/-- Run a context callback. -/
def syncContext (callback : Option (CpuState → W → CpuState × W)) (g : Rig W) : Rig W :=
  match callback with
  | none => g
  | some f =>
    let (state, world) := f g.state g.world
    { g with state := state, world := world }

/-- The masks a step begins with. -/
def enterStep (s : CpuState) : CpuState := maskStack { s with rip := maskInstructionPointer s s.rip }

/-- The retry loop of a step that begins at `startRip`. -/
def Env.attempts (env : Env W) (startRip : U64) (n : Nat) (s : Caches × Rig W) :
    ExecutionResult × Caches × Rig W :=
  retry (env.attempt startRip) env.exhausted n s

/-- The records at the beginning of a step. -/
def Env.openLog (env : Env W) (l : Log) : Log :=
  { l with
    violation := none
    totalSteps := if env.collectCodeStats then l.totalSteps + 1#64 else l.totalSteps }

/-- The rig the first attempt starts from. -/
def Env.enter (env : Env W) (ex : Executor) (m : Machine W) : Rig W :=
  (syncContext env.contextRead { m with log := env.openLog ex.log }).mapState enterStep

/-- What the caller gets from the retry loop: the context callback runs, the
executor keeps caches and records. -/
def Env.leave (env : Env W) (ex : Executor) (s : ExecutionResult × Caches × Rig W) :
    ExecutionResult × Executor × Machine W :=
  let g := syncContext env.contextWrite s.2.2
  (s.1, { ex with caches := s.2.1, log := g.log }, g.toMachine)

/-- A step under a stop request runs nothing. -/
def Env.stopStep (env : Env W) (ex : Executor) (m : Machine W) :
    ExecutionResult × Executor × Machine W :=
  let (r, g) := env.reportStop { reason := .stopRequested } { m with log := env.openLog ex.log }
  (r, { ex with log := g.log }, g.toMachine)

/-- `Executor::step`. -/
def Env.step (env : Env W) (ex : Executor) (m : Machine W) :
    ExecutionResult × Executor × Machine W :=
  if ex.stopRequested then env.stopStep ex m
  else
    let g := env.enter ex m
    env.leave ex (env.attempts g.state.rip kMaxFaultRetries (ex.caches, g))

/-- A step that is not stopped. -/
theorem Env.step_running {env : Env W} {ex : Executor} (hrunning : ex.stopRequested = false)
    (m : Machine W) :
    env.step ex m = env.leave ex
      (env.attempts (env.enter ex m).state.rip kMaxFaultRetries (ex.caches, env.enter ex m)) := by
  unfold Env.step
  rw [if_neg (by rw [hrunning]; decide)]

/-- A step that ends with its first attempt. -/
theorem Env.step_done {env : Env W} {ex : Executor} (hrunning : ex.stopRequested = false)
    {m : Machine W} {r : ExecutionResult × Caches × Rig W}
    (h : env.attempt (env.enter ex m).state.rip (ex.caches, env.enter ex m) = .done r) :
    env.step ex m = env.leave ex r := by
  rw [env.step_running hrunning]
  unfold Env.attempts kMaxFaultRetries
  rw [Lib.retry_done h]

/-- A step that is stopped runs nothing, and where no stop hook listens it
leaves the machine and the executor's caches as they are. -/
theorem Env.step_stopped {env : Env W} {ex : Executor} (hstop : ex.stopRequested = true)
    (hhooks : env.stopHooks = []) (m : Machine W) :
    env.step ex m =
      ({ reason := .stopRequested }, { ex with log := (env.step ex m).2.1.log }, m) := by
  unfold Env.step Env.stopStep Env.reportStop Env.notifyStopHooks
  rw [hstop, hhooks]
  rfl

/-- The context is not about the memory. -/
theorem syncContext_memory (callback : Option (CpuState → W → CpuState × W)) (g : Rig W) :
    (syncContext callback g).memory = g.memory := by
  unfold syncContext
  split <;> rfl

/-- Nor is the entry of a step. -/
theorem Env.enter_memory (env : Env W) (ex : Executor) (m : Machine W) :
    (env.enter ex m).memory = m.memory := syncContext_memory _ _

/-- Nor its end. -/
theorem Env.leave_memory (env : Env W) (ex : Executor) (s : ExecutionResult × Caches × Rig W) :
    (env.leave ex s).2.2.memory = s.2.2.memory := syncContext_memory _ _

end step

end Seven
