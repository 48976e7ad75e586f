import Seven.Executor.TrapRip

/-!
# `RIP` after a skipped system call

The emulator installs its instruction hooks as trap hooks. A callback that
answers *skip* to a `SYSCALL` and moved `RIP` expects the backend to advance
once more, by the length of the `SYSCALL`: so a redirect is to the target
minus that length, and staying at the address minus the length runs the
`SYSCALL` again. `hookInstruction` adds the length. The executor then takes
the sum, and compares it with the address the step began at to find out
whether `RIP` moved at all.

The one sum that looks unmoved is the address of the step, which is the
`SYSCALL`'s own: running it again is what does not work
(`Env.syscall_redirect`).
-/

namespace Seven

open Seven.Lib (Reaches)

variable {W : Type}

/-! ## The hook -/

/-- `InstructionHookContinuation`. -/
inductive InstructionHookContinuation where
  | runInstruction
  | skipInstruction
deriving DecidableEq, Repr

/-- Host code: it may change the machine. -/
abbrev InstructionHookCallback (W : Type) :=
  U64 → Machine W → InstructionHookContinuation × Machine W

/-- `CpuidResult`. -/
structure CpuidResult where
  eax : BitVec 32
  ebx : BitVec 32
  ecx : BitVec 32
  edx : BitVec 32
deriving DecidableEq

/-- The profile when the host has no `CPUID`. -/
def cpuidFallback (leaf : BitVec 32) : CpuidResult :=
  if leaf = 0#32 then ⟨1#32, 0x756E6547#32, 0x6C65746E#32, 0x49656E69#32⟩
  else if leaf = 1#32 then ⟨0x000306A9#32, 0x00100800#32, 0#32, 0x0183F3FF#32⟩
  else ⟨0#32, 0#32, 0#32, 0#32⟩

/-- `emulate_cpuid_defaults`, on a host whose `CPUID` is `hostCpuid`. -/
def emulateCpuidDefaults (hostCpuid : BitVec 32 → BitVec 32 → CpuidResult) (s : CpuState) :
    CpuState :=
  let leaf := (s.gpr 0).setWidth 32
  let subleaf := (s.gpr 1).setWidth 32
  let host := hostCpuid leaf subleaf
  let r := if host = ⟨0#32, 0#32, 0#32, 0#32⟩ then cpuidFallback leaf else host
  let s := s.setGpr 0 (r.eax.setWidth 64)
  let s := s.setGpr 3 (r.ebx.setWidth 64)
  let s := s.setGpr 1 (r.ecx.setWidth 64)
  s.setGpr 2 (r.edx.setWidth 64)

/-- What the callback is told. -/
def hookData (kind : TrapKind) (s : CpuState) : U64 :=
  match kind with
  | .cpuid => (s.gpr 0).setWidth 32 |>.setWidth 64
  | .syscall => s.gpr 0
  | .invalidOpcode => s.rip
  | _ => 0#64

/-- The trap hook `hook_instruction` installs for the kind. -/
def hookInstruction (hostCpuid : BitVec 32 → BitVec 32 → CpuidResult) (kind : TrapKind)
    (callback : InstructionHookCallback W) (event : InstructionEvent) (m : Machine W) :
    HookAction × Machine W :=
  let trapRip := m.state.rip
  let (action, m) := callback (hookData kind m.state) m
  if kind = .cpuid then
    (.act,
      if action ≠ .skipInstruction then
        { m with state := emulateCpuidDefaults hostCpuid m.state }
      else m)
  else if action = .skipInstruction then
    (.act,
      if kind = .syscall ∧ m.state.rip ≠ trapRip then
        { m with
          state := { m.state with rip := m.state.rip + BitVec.ofNat 64 event.instr.length } }
      else m)
  else (.continueToCore, m)

/-! ## The callbacks of a system call -/

/-- One of the callbacks skips the system call and leaves `m'`; those before
it answer *run* and leave `RIP` alone. -/
inductive SkipsSyscall : List (InstructionHookCallback W) → Machine W → Machine W → Prop
  | here {callback : InstructionHookCallback W} {callbacks : List (InstructionHookCallback W)}
      {m m' : Machine W}
      (hskip : callback (hookData .syscall m.state) m = (.skipInstruction, m')) :
      SkipsSyscall (callback :: callbacks) m m'
  | later {callback : InstructionHookCallback W} {callbacks : List (InstructionHookCallback W)}
      {m m₁ m' : Machine W}
      (hrun : callback (hookData .syscall m.state) m = (.runInstruction, m₁))
      (hrip : m₁.state.rip = m.state.rip) (hrest : SkipsSyscall callbacks m₁ m') :
      SkipsSyscall (callback :: callbacks) m m'

/-- The machine after a skipping callback that moved `RIP`. -/
def advancePast (instr : Instruction) (m : Machine W) : Machine W :=
  { m with state := { m.state with rip := m.state.rip + BitVec.ofNat 64 instr.length } }

/-- A callback that lets the instruction run. -/
theorem hookInstruction_run {hostCpuid : BitVec 32 → BitVec 32 → CpuidResult}
    {callback : InstructionHookCallback W} {m m₁ : Machine W}
    (hrun : callback (hookData .syscall m.state) m = (.runInstruction, m₁))
    (event : InstructionEvent) :
    hookInstruction hostCpuid .syscall callback event m = (.continueToCore, m₁) := by
  unfold hookInstruction
  rw [hrun]
  rfl

/-- A callback that skips it. -/
theorem hookInstruction_skip {hostCpuid : BitVec 32 → BitVec 32 → CpuidResult}
    {callback : InstructionHookCallback W} {m m₁ : Machine W}
    (hskip : callback (hookData .syscall m.state) m = (.skipInstruction, m₁))
    (hmoved : m₁.state.rip ≠ m.state.rip) (event : InstructionEvent) :
    hookInstruction hostCpuid .syscall callback event m = (.act, advancePast event.instr m₁) := by
  unfold hookInstruction
  rw [hskip]
  have hadvance : TrapKind.syscall = .syscall ∧ m₁.state.rip ≠ m.state.rip := ⟨rfl, hmoved⟩
  dsimp only
  rw [if_neg (by decide), if_pos rfl, if_pos hadvance]
  rfl

/-- **The backend advances a moved `RIP` past the instruction.** -/
theorem SkipsSyscall.runHooks {callbacks : List (InstructionHookCallback W)} {m m' : Machine W}
    (hostCpuid : BitVec 32 → BitVec 32 → CpuidResult) (event : InstructionEvent)
    (h : SkipsSyscall callbacks m m') (hmoved : m'.state.rip ≠ m.state.rip) :
    Seven.runHooks .continueToCore
        (callbacks.map fun callback => hookInstruction hostCpuid .syscall callback event) m =
      (.act, advancePast event.instr m') := by
  induction h with
  | here hskip =>
    rw [List.map_cons]
    unfold Seven.runHooks
    rw [hookInstruction_skip hskip hmoved event]
    exact if_neg (by decide)
  | later hrun hrip _ ih =>
    rw [List.map_cons]
    unfold Seven.runHooks
    rw [hookInstruction_run hrun event]
    exact ih (by rw [hrip]; exact hmoved)

/-! ## The step -/

/-- The attempt from `s` comes to the `SYSCALL` of `entry`, one of whose
callbacks skips it and leaves `m`. -/
structure SkippedSyscall (env : Env W) (callbacks : List (InstructionHookCallback W))
    (startRip : U64) (s : Caches × Rig W) (entry : DecodedInstruction) (m : Machine W) : Prop where
  fetched : (env.fetch s).2 = .decoded entry
  code : entry.instr.code = .syscall
  trapKind : entry.trapKind = trapKindForCode entry.instr.code
  simdAllowed : entry.simdAllowed = true
  noBreakpoint : executeBreakpoints startRip (prologue env entry s.2.state)
    (flagSet s.2.state.rflags kFlagRF || s.2.state.debugSuppression != 0#8)
    (s.2.mapState clearSuppression) = (none, s.2.mapState clearSuppression)
  skips : SkipsSyscall callbacks (s.2.mapState clearSuppression).toMachine m

/-- A skipped `SYSCALL` is a handled trap. -/
theorem SkippedSyscall.handledTrap {env : Env W} {callbacks : List (InstructionHookCallback W)}
    {hostCpuid : BitVec 32 → BitVec 32 → CpuidResult} {startRip : U64} {s : Caches × Rig W}
    {entry : DecodedInstruction} {m : Machine W}
    (hhooks : env.trapHooks .syscall = callbacks.map (hookInstruction hostCpuid .syscall))
    (h : SkippedSyscall env callbacks startRip s entry m)
    (hmoved : m.state.rip ≠ s.2.state.rip) :
    HandledTrap env startRip s .syscall (prologue env entry s.2.state)
      (advancePast entry.instr m) := by
  refine HandledTrap.other h.fetched ?_ h.simdAllowed h.noBreakpoint ?_ (by decide) ?_
  · rw [h.code]
    exact Code.noConfusion
  · rw [h.trapKind, h.code]
    rfl
  · unfold Env.runTrapHooks
    rw [hhooks, List.map_map]
    exact h.skips.runHooks hostCpuid _ hmoved

/-- Where the step leaves `RIP`. -/
theorem SkippedSyscall.step_rip {env : Env W} {callbacks : List (InstructionHookCallback W)}
    {hostCpuid : BitVec 32 → BitVec 32 → CpuidResult} {ex : Executor} {m₀ : Machine W} {k : Nat}
    {s : Caches × Rig W} {entry : DecodedInstruction} {m : Machine W}
    (hhooks : env.trapHooks .syscall = callbacks.map (hookInstruction hostCpuid .syscall))
    (hwrite : env.contextWrite = none) (hstop : ex.stopRequested = false)
    (hreach : Reaches (env.attempt (env.enter ex m₀).state.rip) k (ex.caches, env.enter ex m₀) s)
    (hk : k < kMaxFaultRetries)
    (h : SkippedSyscall env callbacks (env.enter ex m₀).state.rip s entry m)
    (hmoved : m.state.rip ≠ s.2.state.rip) :
    (env.step ex m₀).2.2.state.rip =
      if m.state.rip + BitVec.ofNat 64 entry.instr.length = (env.enter ex m₀).state.rip
      then (prologue env entry s.2.state).nextRip
      else maskInstructionPointer m.state (m.state.rip + BitVec.ofNat 64 entry.instr.length) := by
  rw [env.step_machine m₀ hstop, hwrite]
  show (env.stepRig ex m₀).state.rip = _
  rw [(h.handledTrap hhooks hmoved).stepRig hreach hk]
  rfl

/-- **When a redirected system call goes on where it should.** Of a step that
comes, after some retries, to a `SYSCALL` whose callback skips it and moved
`RIP` to `r`: the step ends at `r` plus the length exactly when that sum is
not the address the step began at, or that address is the next instruction's
after all. -/
theorem Env.syscall_redirect (env : Env W) {callbacks : List (InstructionHookCallback W)}
    {hostCpuid : BitVec 32 → BitVec 32 → CpuidResult} (ex : Executor) (m₀ : Machine W) {k : Nat}
    {s : Caches × Rig W} {entry : DecodedInstruction} {m : Machine W}
    (hhooks : env.trapHooks .syscall = callbacks.map (hookInstruction hostCpuid .syscall))
    (hwrite : env.contextWrite = none) (hstop : ex.stopRequested = false)
    (hreach : Reaches (env.attempt (env.enter ex m₀).state.rip) k (ex.caches, env.enter ex m₀) s)
    (hk : k < kMaxFaultRetries)
    (h : SkippedSyscall env callbacks (env.enter ex m₀).state.rip s entry m)
    (hmoved : m.state.rip ≠ s.2.state.rip) :
    (env.step ex m₀).2.2.state.rip =
        maskInstructionPointer m.state (m.state.rip + BitVec.ofNat 64 entry.instr.length) ↔
      m.state.rip + BitVec.ofNat 64 entry.instr.length ≠ (env.enter ex m₀).state.rip ∨
        (prologue env entry s.2.state).nextRip =
          maskInstructionPointer m.state (env.enter ex m₀).state.rip := by
  rw [h.step_rip hhooks hwrite hstop hreach hk hmoved]
  by_cases hsum : m.state.rip + BitVec.ofNat 64 entry.instr.length = (env.enter ex m₀).state.rip
  · rw [if_pos hsum, hsum]
    exact ⟨Or.inr, fun hright => hright.resolve_left (not_not_intro rfl)⟩
  · rw [if_neg hsum]
    exact ⟨fun _ => Or.inl hsum, fun _ => rfl⟩

/-! Every mode keeps the low sixteen bits of `RIP`, and an instruction is
shorter than that. -/

/-- The low bits of the instruction pointer. -/
theorem maskInstructionPointer_low (s : CpuState) (value : U64) :
    (maskInstructionPointer s value).toNat % 2 ^ 16 = value.toNat % 2 ^ 16 := by
  have hmask : (maskInstructionPointer s value).toNat =
      value.toNat % 2 ^ (8 * stackPointerWidth s.mode) := maskStackPointer_toNat s value
  rw [hmask]
  have hdvd : 2 ^ 16 ∣ 2 ^ (8 * stackPointerWidth s.mode) := by
    apply Nat.pow_dvd_pow
    cases s.mode <;> decide
  exact Nat.mod_mod_of_dvd _ hdvd

/-- The next address is another. -/
theorem prologue_nextRip_ne {env : Env W} {entry : DecodedInstruction}
    (hlength : 0 < entry.instructionLength ∧ entry.instructionLength ≤ maxInstructionLength)
    (s s' : CpuState) :
    (prologue env entry s).nextRip ≠ maskInstructionPointer s' s.rip := by
  intro heq
  have hlow := maskInstructionPointer_low s (s.rip + BitVec.ofNat 64 entry.instructionLength)
  rw [show maskInstructionPointer s (s.rip + BitVec.ofNat 64 entry.instructionLength) =
      maskInstructionPointer s' s.rip from heq, maskInstructionPointer_low, BitVec.toNat_add,
    BitVec.toNat_ofNat] at hlow
  unfold maxInstructionLength at hlength
  omega

/-- **In the first attempt** the redirect goes wrong for one target only, the
address of the `SYSCALL` less its length. -/
theorem SkippedSyscall.first_attempt {env : Env W} {callbacks : List (InstructionHookCallback W)}
    {hostCpuid : BitVec 32 → BitVec 32 → CpuidResult} {ex : Executor} {m₀ : Machine W}
    {entry : DecodedInstruction} {m : Machine W}
    (hhooks : env.trapHooks .syscall = callbacks.map (hookInstruction hostCpuid .syscall))
    (hwrite : env.contextWrite = none) (hstop : ex.stopRequested = false)
    (hlength : 0 < entry.instructionLength ∧ entry.instructionLength ≤ maxInstructionLength)
    (h : SkippedSyscall env callbacks (env.enter ex m₀).state.rip
      (ex.caches, env.enter ex m₀) entry m)
    (hmoved : m.state.rip ≠ (env.enter ex m₀).state.rip) :
    (env.step ex m₀).2.2.state.rip =
        maskInstructionPointer m.state (m.state.rip + BitVec.ofNat 64 entry.instr.length) ↔
      m.state.rip ≠ (env.enter ex m₀).state.rip - BitVec.ofNat 64 entry.instr.length := by
  rw [h.step_rip hhooks hwrite hstop (Reaches.refl _) (by decide) hmoved]
  by_cases hsum : m.state.rip + BitVec.ofNat 64 entry.instr.length = (env.enter ex m₀).state.rip
  · rw [if_pos hsum, hsum]
    have hback : m.state.rip =
        (env.enter ex m₀).state.rip - BitVec.ofNat 64 entry.instr.length := by
      rw [← hsum, BitVec.add_sub_cancel]
    exact ⟨fun heq => absurd heq (prologue_nextRip_ne hlength _ _), fun hne => absurd hback hne⟩
  · rw [if_neg hsum]
    refine ⟨fun _ hback => hsum ?_, fun _ => rfl⟩
    rw [hback, BitVec.sub_add_cancel]

/-! `0F 05` is `SYSCALL`; the callback skips it and moves `RIP`. -/

/-- One instruction, `SYSCALL`. -/
def syscallDecoder : Decode := fun _ bytes _ =>
  if bytes.take 2 = [0x0F#8, 0x05#8] then some { code := .syscall, length := 2 } else none

/-- A callback that redirects and skips. -/
def redirectTo (target : U64) : InstructionHookCallback Unit := fun _ m =>
  (.skipInstruction, { m with state := { m.state with rip := target } })

/-- The environment of the instance. -/
def syscallEnv (target : U64) : Env Unit :=
  { decode := syscallDecoder
    trapHooks := fun kind => [hookInstruction (fun _ _ => ⟨0, 0, 0, 0⟩) kind (redirectTo target)] }

/-- Its machine. -/
def syscallMachine : Machine Unit :=
  { state := { rip := 0x1000#64 }
    memory := (Memory.writeUnchecked (Memory.map {} 0x1000#64 0x1000#64 kMemoryPermissionAll)
      0x1000#64 [0x0F#8, 0x05#8]).1
    world := () }

set_option maxRecDepth 20000 in
/-- A redirect to `2FFE` goes on at `3000`. -/
theorem Env.syscall_redirect_forward :
    ((syscallEnv 0x2FFE#64).step {} syscallMachine).2.2.state.rip = 0x3000#64 := by
  have hskips : SkipsSyscall [redirectTo 0x2FFE#64] _ _ :=
    @SkipsSyscall.here _ (redirectTo 0x2FFE#64) [] ((((syscallEnv 0x2FFE#64).enter {}
      syscallMachine).mapState clearSuppression).toMachine) _ rfl
  have hskipped : SkippedSyscall (syscallEnv 0x2FFE#64) [redirectTo 0x2FFE#64] 0x1000#64
      ({}, (syscallEnv 0x2FFE#64).enter {} syscallMachine) _ _ :=
    ⟨rfl, rfl, rfl, rfl, rfl, hskips⟩
  exact (Env.syscall_redirect (syscallEnv 0x2FFE#64) {} syscallMachine rfl rfl rfl
    (Reaches.refl _) (by decide) hskipped (by decide)).mpr (Or.inl (by decide))

set_option maxRecDepth 20000 in
/-- A redirect to two bytes before the `SYSCALL`, to run it again, goes on
behind it. -/
theorem Env.syscall_redirect_back : ∃ entry m,
    SkippedSyscall (syscallEnv 0xFFE#64) [redirectTo 0xFFE#64] 0x1000#64
        ({}, (syscallEnv 0xFFE#64).enter {} syscallMachine) entry m ∧
      maskInstructionPointer m.state (m.state.rip + BitVec.ofNat 64 entry.instr.length) =
        0x1000#64 ∧
      ((syscallEnv 0xFFE#64).step {} syscallMachine).2.2.state.rip = 0x1002#64 :=
  ⟨_, _, ⟨rfl, rfl, rfl, rfl, rfl, SkipsSyscall.here rfl⟩, rfl, by decide +kernel⟩

end Seven
