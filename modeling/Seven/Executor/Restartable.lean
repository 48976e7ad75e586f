import Seven.Handlers.StackRestart
import Seven.Handlers.AluRestart
import Seven.Executor.Restart

/-!
# Restartable instructions

Fault hooks that repair a mapping rely on a failing instruction having
changed nothing. For the stack instructions this holds exactly under
`StackShape.RestartSafe`: the handler leaves the CPU state on a page fault,
and only then, and a step whose faults are all of this kind and are repaired
ends as if the repaired memory had been there from the start.
-/

namespace Seven

open Seven.Lib

/-! ## Stack instructions -/

/-- **Stack instructions are restartable exactly when no access behind the
first move of the stack pointer is refused.** -/
theorem StackCode.push_pop_restartable_iff (c : StackCode) :
    (∀ ctx : ExecutionContext,
      (∀ r ctx', c.handler ctx = .error r ctx' → r.reason = .pageFault →
        ctx'.state = ctx.state) ↔ c.shape.RestartSafe ctx) ∧
    RepairsInvisible (.stack c) (fun ctx => c.shape.RestartSafe ctx) := by
  constructor
  · intro ctx
    exact c.shape.failsAt_iff seesState_state ctx
  · refine repairsInvisible (fun W env => rfl) fun ctx hsafe => ?_
    exact (c.shape.failsAt_iff seesState_id ctx).mpr hsafe

/-! A machine to run them on: `50` is `PUSH RAX`, `FF` is `PUSH` of the word
at `5000`. -/

/-- `PUSH RAX`. -/
def pushRegister : Instruction :=
  { code := .stack .pushR64, length := 1, opRegister := fun _ => .rax }

/-- `PUSH [0x5000]`. -/
def pushOperand : Instruction :=
  { code := .stack .pushRm64, length := 1, opKind := fun _ => .memory,
    memoryDisplacement64 := 0x5000#64 }

/-- The two instructions. -/
def pushDecoder : Decode := fun _ bytes _ =>
  bytes.head?.bind fun b =>
    if b = 0x50#8 then some pushRegister else if b = 0xFF#8 then some pushOperand else none

/-- A fault hook that maps the page it is told about. -/
def mapFaultPage (event : FaultHookEvent) (m : Machine Unit) : FaultHookAction × Machine Unit :=
  (.retry, { m with
    memory := m.memory.map (pageBaseOf event.faultAddress) 0x1000#64 kMemoryPermissionAll })

/-- A fault hook that maps what is missing. -/
def pushEnv : Env Unit := { decode := pushDecoder, faultHooks := [mapFaultPage] }

/-- One opcode at `1000`, the stack in the page before `8000`, and the pages
at these addresses mapped. -/
def pushMachine (opcode : Byte) (pages : List U64) : Machine Unit :=
  { state := ({ rip := 0x1000#64 } : CpuState).setRsp 0x8000#64
    memory := ((pages.foldl (fun m page => Memory.map m page 0x1000#64 kMemoryPermissionAll)
      (Memory.map {} 0x1000#64 0x1000#64 kMemoryPermissionAll)).writeUnchecked 0x1000#64
        [opcode]).1
    world := () }

/-- The machine of `pushMachine` once the operand's page is mapped. -/
def pushRepaired : Machine Unit :=
  { pushMachine 0xFF#8 [0x7000#64] with
    memory :=
      (pushMachine 0xFF#8 [0x7000#64]).memory.map 0x5000#64 0x1000#64 kMemoryPermissionAll }

set_option maxRecDepth 20000 in
/-- `PUSH` of an unmapped operand to a mapped stack: the fault is repaired
and leaves no trace. -/
theorem StackCode.push_pop_restartable_iff_operand :
    (pushEnv.step {} (pushMachine 0xFF#8 [0x7000#64])).1 = (pushEnv.step {} pushRepaired).1 ∧
      (pushEnv.step {} (pushMachine 0xFF#8 [0x7000#64])).2.2 =
        (pushEnv.step {} pushRepaired).2.2 := by
  have hplain : pushEnv.PlainAttempt (decodedInstruction (fun _ => true) pushOperand) :=
    ⟨⟨fun _ => rfl, rfl, fun _ => rfl, rfl, fun _ => rfl⟩, by decide, rfl⟩
  have hstate : AttemptState (pushEnv.enter {} (pushMachine 0xFF#8 [0x7000#64])).state.rip
      (pushEnv.enter {} (pushMachine 0xFF#8 [0x7000#64])).state := by
    refine ⟨rfl, ?_, by decide, rfl⟩
    exact (CpuState.setRsp_eq_self_iff _ _).mpr (maskStackPointer_idem _ _)
  refine (StackCode.push_pop_restartable_iff .pushRm64).2 Unit pushEnv
    (decodedInstruction (fun _ => true) pushOperand) rfl hplain {} (pushMachine 0xFF#8 [0x7000#64])
    pushRepaired 1 (pushEnv.fetch ({}, pushEnv.enter {} (pushMachine 0xFF#8 [0x7000#64]))).1 _ _
    (pushEnv.enter {} pushRepaired) rfl hstate ?_ (by decide) rfl rfl rfl ⟨_, rfl⟩
  refine Env.Recovers.fault rfl (fun value h => ?_) rfl rfl rfl (by decide) (Env.Recovers.refl _)
  -- the operand cannot be read
  cases h

/-- `PUSH RAX` on an unmapped stack page: the fault leaves the stack pointer
moved, and the retried instruction pushes one slot too low. -/
theorem StackCode.push_fault_moves_stack :
    ¬ (∀ (c : StackCode) (ctx : ExecutionContext) (r : ExecutionResult) (ctx' : ExecutionContext),
      c.handler ctx = .error r ctx' → r.reason = .pageFault → ctx'.state = ctx.state) ∧
    (pushEnv.step {} (pushMachine 0x50#8 [])).1.reason = .none ∧
    (pushEnv.step {} (pushMachine 0x50#8 [])).2.2.state.rsp = 0x7FF0#64 ∧
    (pushEnv.step {} (pushMachine 0x50#8 [0x7000#64])).2.2.state.rsp = 0x7FF8#64 := by
  refine ⟨fun h => ?_, by decide +kernel, by decide +kernel, by decide +kernel⟩
  have hfault := h .pushR64
    { state := (pushMachine 0x50#8 []).state, memory := (pushMachine 0x50#8 []).memory,
      instr := pushRegister, nextRip := 0x1001#64 } _ _ rfl rfl
  exact absurd (congrArg CpuState.rsp hfault) (by decide)

/-! ## Read-modify-write instructions -/

/-- **A read-modify-write instruction with a memory destination is
restartable exactly when its store is accepted or no flag was changed before
it**; the whole step is, when the refused store has also copied nothing. -/
theorem RmwCode.rmw_restartable_iff (c : RmwCode) :
    (∀ ctx : ExecutionContext, c.MemoryForm ctx.instr →
      ((∀ r ctx', c.handler ctx = .error r ctx' → r.reason = .pageFault →
        ctx'.state.rflags = ctx.state.rflags ∧ ctx'.state.gpr = ctx.state.gpr) ↔
          c.RestartSafe ctx)) ∧
    RepairsInvisible (.rmw c)
      (fun ctx => c.MemoryForm ctx.instr ∧ c.RestartSafe ctx ∧ c.StoreAtomic ctx) := by
  constructor
  · intro ctx hform
    rw [← c.restartSafe_iff hform]
    refine forall₄_congr fun r ctx' _ _ => ?_
    constructor
    · rintro ⟨hflags, hgpr⟩
      exact Prod.ext hflags hgpr
    · intro h
      exact ⟨congrArg Prod.fst h, congrArg Prod.snd h⟩
  · refine repairsInvisible (fun W env => rfl) fun ctx hctx => ?_
    obtain ⟨hform, hsafe, hatomic⟩ := hctx
    exact c.failsAt_id hform hsafe hatomic

/-! `10` is `ADC [5000], AL`, `F6` is `NOT BYTE [5000]`. -/

/-- `ADC [0x5000], AL`. -/
def adcMemory : Instruction :=
  { code := .rmw (.alu .adc .rm8R8), length := 1
    opKind := fun i => if i = 0 then .memory else .register
    opRegister := fun _ => .al, memoryDisplacement64 := 0x5000#64 }

/-- `NOT [0x5000]`. -/
def notMemory : Instruction :=
  { code := .rmw (.unary .not .rm8), length := 1, opKind := fun _ => .memory
    memoryDisplacement64 := 0x5000#64 }

/-- The two instructions. -/
def rmwDecoder : Decode := fun _ bytes _ =>
  bytes.head?.bind fun b =>
    if b = 0x10#8 then some adcMemory else if b = 0xF6#8 then some notMemory else none

/-- A fault hook that makes the page it is told about writable. -/
def unprotectFaultPage (event : FaultHookEvent) (m : Machine Unit) :
    FaultHookAction × Machine Unit :=
  (.retry, { m with
    memory := m.memory.reprotect (pageBaseOf event.faultAddress) 0x1000#64 kMemoryPermissionAll })

/-- A fault hook that makes the page writable. -/
def rmwEnv : Env Unit := { decode := rmwDecoder, faultHooks := [unprotectFaultPage] }

/-- One opcode at `1000`, zeros at `5000` with the given permissions, and
the carry set. -/
def rmwMachine (opcode : Byte) (permissions : MemoryPermissionMask) : Machine Unit :=
  { state := { rip := 0x1000#64, rflags := 0x203#64 }
    memory := (Memory.writeUnchecked
      (Memory.map (Memory.map {} 0x1000#64 0x1000#64 kMemoryPermissionAll) 0x5000#64 0x1000#64
        permissions) 0x1000#64 [opcode]).1
    world := () }

/-- The machine of `rmwMachine` once the operand's page is writable. -/
def rmwRepaired (opcode : Byte) : Machine Unit :=
  { rmwMachine opcode MemoryPermission.read with
    memory := (rmwMachine opcode MemoryPermission.read).memory.reprotect 0x5000#64 0x1000#64
      kMemoryPermissionAll }

set_option maxRecDepth 20000 in
/-- `NOT` on a read-only page sets no flag and copies nothing: the fault is
repaired and leaves no trace. -/
theorem RmwCode.rmw_restartable_iff_not :
    (rmwEnv.step {} (rmwMachine 0xF6#8 MemoryPermission.read)).1 =
        (rmwEnv.step {} (rmwRepaired 0xF6#8)).1 ∧
      (rmwEnv.step {} (rmwMachine 0xF6#8 MemoryPermission.read)).2.2 =
        (rmwEnv.step {} (rmwRepaired 0xF6#8)).2.2 := by
  have hplain : rmwEnv.PlainAttempt (decodedInstruction (fun _ => true) notMemory) :=
    ⟨⟨fun _ => rfl, rfl, fun _ => rfl, rfl, fun _ => rfl⟩, by decide, rfl⟩
  have hstate : AttemptState
      (rmwEnv.enter {} (rmwMachine 0xF6#8 MemoryPermission.read)).state.rip
      (rmwEnv.enter {} (rmwMachine 0xF6#8 MemoryPermission.read)).state := by
    refine ⟨rfl, ?_, by decide, rfl⟩
    exact (CpuState.setRsp_eq_self_iff _ _).mpr (maskStackPointer_idem _ _)
  refine (RmwCode.rmw_restartable_iff (.unary .not .rm8)).2 Unit rmwEnv
    (decodedInstruction (fun _ => true) notMemory) rfl hplain {}
    (rmwMachine 0xF6#8 MemoryPermission.read) (rmwRepaired 0xF6#8) 1
    (rmwEnv.fetch ({}, rmwEnv.enter {} (rmwMachine 0xF6#8 MemoryPermission.read))).1 _ _
    (rmwEnv.enter {} (rmwRepaired 0xF6#8)) rfl hstate ?_ (by decide) rfl rfl rfl ⟨_, rfl⟩
  refine Env.Recovers.fault rfl ⟨⟨rfl, fun width h => ?_⟩, ?_, ?_⟩ rfl rfl rfl (by decide)
    (Env.Recovers.refl _)
  · cases h
  · rintro st ⟨⟩
    refine Or.inr ?_
    rintro flags ⟨⟩
    rfl
  · rintro st ⟨⟩
    exact Or.inr rfl

/-- `ADC` on a read-only page: the failed attempt has cleared the carry, so
the retried one adds 0 where 1 was to be added. -/
theorem RmwCode.adc_fault_changes_flags :
    ¬ (∀ (c : RmwCode) (ctx : ExecutionContext) (r : ExecutionResult) (ctx' : ExecutionContext),
      c.MemoryForm ctx.instr → c.handler ctx = .error r ctx' → r.reason = .pageFault →
        ctx'.state.rflags = ctx.state.rflags ∧ ctx'.state.gpr = ctx.state.gpr) ∧
    (rmwEnv.step {} (rmwMachine 0x10#8 MemoryPermission.read)).1.reason = .none ∧
    (rmwEnv.step {} (rmwMachine 0x10#8 MemoryPermission.read)).2.2.memory.read 0x5000#64 1
      .dataRead = some [0#8] ∧
    (rmwEnv.step {} (rmwRepaired 0x10#8)).2.2.memory.read 0x5000#64 1 .dataRead = some [1#8] := by
  refine ⟨fun h => ?_, by decide +kernel, by decide +kernel, by decide +kernel⟩
  have hfault := h (.alu .adc .rm8R8)
    { state := (rmwMachine 0x10#8 MemoryPermission.read).state
      memory := (rmwMachine 0x10#8 MemoryPermission.read).memory
      instr := adcMemory, nextRip := 0x1001#64 } _ _ ⟨rfl, fun _ _ => rfl⟩ rfl rfl
  exact absurd hfault.1 (by decide)

end Seven
