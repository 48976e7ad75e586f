import Seven.Executor.Shadow
import Seven.Handlers.FlagCodes
import Seven.Handlers.X87Faults

/-!
# RFLAGS over a run

The executor's own updates of RFLAGS clear RF, TF and IF, so the form of the
flags is a matter of the handlers: `Env.flags_wellFormed` says that a run
whose steps load well-formed images only has well-formed flags throughout.
The condition is asked of each handler in the context it runs in, and
`Env.handler_flags_iff` says that no weaker one would do.

`POPFQ` masks what a user may not change but lets the reserved bits through
(`Env.flags_malformed`), and `IRET` loads its image as it is, bit 1 included.
-/

namespace Seven

open Seven.Lib

variable {W : Type}

/-- Well-formed flags stay well formed. -/
def KeepsForm (s t : CpuState) : Prop := FlagsWellFormed s.rflags → FlagsWellFormed t.rflags

/-- Leaving the fixed flags keeps the form. -/
theorem SameFixedFlags.keepsForm {s t : CpuState} (h : SameFixedFlags s t) : KeepsForm s t :=
  h.wellFormed.mpr

/-- Keeping the form is a frame. -/
theorem keepsForm_frame : StepFrame KeepsForm where
  refl _ := id
  trans h h' hs := h' (h hs)
  gpr s i value := (sameFixedFlags_frame.gpr s i value).keepsForm
  sreg s i value := (sameFixedFlags_frame.sreg s i value).keepsForm
  register s reg value width := (sameFixedFlags_frame.register s reg value width).keepsForm
  rip s value := (sameFixedFlags_frame.rip s value).keepsForm
  mode s value := (sameFixedFlags_frame.mode s value).keepsForm
  flags s value h := (sameFixedFlags_frame.flags s value h).keepsForm
  suppression s := by
    have hrf : SameFixedFlags s (clearSuppression s) := by
      show s.rflags &&& ~~~kFlagRF &&& kFixedFlags = _
      rw [BitVec.and_assoc, show ~~~kFlagRF &&& kFixedFlags = kFixedFlags by decide]
    exact hrf.keepsForm
  pending _ _ _ := id
  gate gate s := (enterGate_sameFixed gate s).keepsForm

/-! ## Handlers -/

/-- The handlers behind the other codes: the writers of RFLAGS that `FlagCode`
lists, and handlers that leave the fixed bits alone. These are moves, vector and
x87 arithmetic, which do not write RFLAGS, and the few this development does
not model, which set status flags with `set_flag`. -/
structure Env.FlagDispatch (env : Env W) where
  host : X87Host
  flagCode : Code → Option FlagCode
  writer : ∀ code f, flagCode code = some f → env.otherHandler code = some (f.handler host)
  rest : ∀ code h, flagCode code = none → env.otherHandler code = some h →
    Moves (OnState SameFixedFlags) h

variable {env : Env W}

/-- The image the instruction would load fits. -/
def Env.FlagDispatch.FlagsFit (d : env.FlagDispatch) : Code → ExecutionContext → Prop
  | .stack c, ctx => c.shape.FlagsFit ctx
  | .rmw _, _ => True
  | .string _ _, _ => True
  | code, ctx => ∀ f ∈ d.flagCode code, f.FlagsFit ctx

instance (d : env.FlagDispatch) (code : Code) (ctx : ExecutionContext) :
    Decidable (d.FlagsFit code ctx) := by
  unfold Env.FlagDispatch.FlagsFit
  cases code <;> dsimp only <;> infer_instance

/-- **The flags behind a handler** that has succeeded are well formed exactly
when its image fits. -/
theorem Env.handler_flags_iff (d : env.FlagDispatch) (code : Code) {ctx ctx' : ExecutionContext}
    (h : env.handler code ctx = .ok () ctx') (hold : FlagsWellFormed ctx.state.rflags) :
    FlagsWellFormed ctx'.state.rflags ↔ d.FlagsFit code ctx := by
  have F := sameFixedFlags_frame.onState
  have hbreak := noteDebugBreak_onState sameFixedFlags_frame.toIsPath
  -- The codes outside the modelled groups go to the flag writers, or to a handler that writes
  -- none.
  have hrest (code : Code) (h : ((env.otherHandler code).getD unsupported) ctx = .ok () ctx') :
      FlagsWellFormed ctx'.state.rflags ↔ ∀ f ∈ d.flagCode code, f.FlagsFit ctx := by
    cases hcode : d.flagCode code with
    | some f =>
      rw [d.writer code f hcode] at h
      refine (f.flags_iff d.host h hold).trans ⟨fun hfit f' hf => ?_, fun hfit => hfit f rfl⟩
      cases hf
      exact hfit
    | none =>
      cases hother : env.otherHandler code with
      | none =>
        rw [hother] at h
        cases h
      | some handler =>
        rw [hother] at h
        refine iff_of_true (((d.rest code handler hcode hother ctx).ok h).wellFormed.mpr hold) ?_
        intro f hf
        cases hf
  -- Stack, read-modify-write and string codes, and then the rest.
  cases code with
  | stack c => exact c.shape.flags_iff h hold
  | rmw c => exact iff_of_true (((c.moves F ctx).ok h).wellFormed.mpr hold) trivial
  | string op width =>
    exact iff_of_true (((stringImpl_moves F hbreak op width.bytes ctx).ok h).wellFormed.mpr hold)
      trivial
  | _ => exact hrest _ h

/-- A handler that fails has loaded nothing. -/
theorem Env.handler_flags_fail (d : env.FlagDispatch) (code : Code) :
    FailsAlong (OnState SameFixedFlags) (env.handler code) := by
  have F := sameFixedFlags_frame.onState
  have hbreak := noteDebugBreak_onState sameFixedFlags_frame.toIsPath
  refine Env.handler_failsAlong F hbreak (fun code h hother => ?_) code
  cases hcode : d.flagCode code with
  | some f =>
    have hsame := (d.writer code f hcode).symm.trans hother
    cases hsame
    exact f.failsAlong d.host
  | none => exact (d.rest code h hcode hother).failsAlong

/-- Every handler keeps the form where the flags it loads have it. -/
theorem Env.handler_keepsForm (d : env.FlagDispatch) (code : Code) {ctx : ExecutionContext}
    (hfit : d.FlagsFit code ctx) : MovesAt (OnState KeepsForm) (env.handler code) ctx := by
  intro hold
  cases hrun : env.handler code ctx with
  | ok a ctx' => exact (Env.handler_flags_iff d code hrun hold).mpr hfit
  | error r ctx' => exact (Env.handler_flags_fail d code ctx r ctx' hrun).wellFormed.mpr hold

/-! ## Runs -/

/-- So does every step. -/
theorem Env.step_keepsForm (d : env.FlagDispatch) (hhooks : env.HooksAlong KeepsForm)
    (hout : env.OuterHooksAlong KeepsForm) {ex : Executor} {m : Machine W}
    (hfit : env.EachInstruction ex m d.FlagsFit) :
    KeepsForm m.state (env.step ex m).2.2.state := by
  refine Env.step_along keepsForm_frame hhooks hout fun _ => ?_
  intro k t entry g₁ hk hreach hfetch hcore
  exact Env.handler_keepsForm d entry.reportedCode (hfit k t entry g₁ hk hreach hfetch hcore)

/-- **RFLAGS stays well formed** over every run whose instructions load images
that fit. -/
theorem Env.flags_wellFormed (d : env.FlagDispatch) (hhooks : env.HooksAlong KeepsForm)
    (hout : env.OuterHooksAlong KeepsForm) {ex : Executor} {m : Machine W}
    (hstart : FlagsWellFormed m.state.rflags) {n : Nat}
    (hfit : ∀ k < n, env.EachInstruction (env.after ex m k).1 (env.after ex m k).2 d.FlagsFit) :
    FlagsWellFormed (env.after ex m n).2.state.rflags :=
  Env.after_along keepsForm_frame.toIsPath
    (fun k hk => Env.step_keepsForm d hhooks hout (hfit k hk)) hstart

/-! ## Runs on the machine

`9d` is `POPFQ`, `48 cf` is `IRETQ`, `48 0f 07` is `SYSRETQ`. -/

/-- `POPFQ`, `IRETQ` and `SYSRETQ`. -/
def flagDecoder : Decode := fun _ bytes _ =>
  if bytes.take 1 = [0x9D#8] then some { code := .stack .popfq, length := 1 }
  else if bytes.take 2 = [0x48#8, 0xCF#8] then some { code := .stack .iretq, length := 2 }
  else if bytes.take 3 = [0x48#8, 0x0F#8, 0x07#8] then some { code := .other 0, length := 3 }
  else none

/-- The environment of the witness. -/
def flagEnv : Env Unit where
  decode := flagDecoder
  otherHandler code := if code = .other 0 then some handleSysretq else none

/-- Its dispatch. -/
def flagDispatch : flagEnv.FlagDispatch where
  host := bitwiseHost
  flagCode code := if code = .other 0 then some .sysretq else none
  writer code f h := by
    by_cases hcode : code = .other 0
    · rw [if_pos hcode] at h
      cases h
      exact if_pos hcode
    · rw [if_neg hcode] at h
      cases h
  rest code h hnone hsome := by
    by_cases hcode : code = .other 0
    · rw [if_pos hcode] at hnone
      cases hnone
    · change (if code = .other 0 then some handleSysretq else none) = some h at hsome
      rw [if_neg hcode] at hsome
      cases hsome

/-- No hooks. -/
theorem flagEnv_noHooks : flagEnv.NoHooks where
  trap _ := rfl
  execution := rfl
  executionAddress _ := rfl
  instruction := rfl
  code _ := rfl
  fault := rfl
  stop := rfl
  contextRead := rfl
  contextWrite := rfl

/-- The program at `1000`, the stack at `1800` with these bytes. -/
def flagMachine (program stack : List Byte) : Machine Unit where
  state :=
    { rip := 0x1000#64
      gpr := fun i =>
        if i = 4 then 0x1800#64 else if i = 1 then 0x1040#64 else if i = 11 then 0x246#64 else 0#64 }
  memory :=
    let m := Memory.map {} 0x1000#64 0x1000#64 kMemoryPermissionAll
    let m := (Memory.writeUnchecked m 0x1000#64 program).1
    (Memory.writeUnchecked m 0x1800#64 stack).1
  world := ()

/-- None of them breaks the form. -/
theorem flagEnv_hooksAlong : flagEnv.HooksAlong KeepsForm :=
  flagEnv_noHooks.toNoCoreHooks.hooksAlong KeepsForm

/-- Nor do the outer ones. -/
theorem flagEnv_outerHooksAlong : flagEnv.OuterHooksAlong KeepsForm where
  fault hook hmem := absurd hmem List.not_mem_nil
  stop hook hmem := absurd hmem List.not_mem_nil
  contextRead f hmem := by cases hmem
  contextWrite f hmem := by cases hmem

set_option maxRecDepth 20000 in
/-- A `POPFQ` of `40` and a `SYSRETQ` with `246` in R11. -/
theorem Env.flags_wellFormed_run :
    FlagsWellFormed
      (flagEnv.after {} (flagMachine [0x9D#8, 0x48#8, 0x0F#8, 0x07#8] [0x40#8]) 2).2.state.rflags :=
  Env.flags_wellFormed flagDispatch flagEnv_hooksAlong flagEnv_outerHooksAlong (by decide +kernel)
    fun k hk => flagEnv_noHooks.eachInstruction (by
      match k, hk with
      | 0, _ => decide +kernel
      | 1, _ => decide +kernel)

set_option maxRecDepth 20000 in
/-- `POPFQ` lets bit 3 through. -/
theorem Env.flags_malformed :
    ¬∀ (env : Env Unit) (_ : env.FlagDispatch) (ex : Executor) (m : Machine Unit) (n : Nat),
      env.NoHooks → FlagsWellFormed m.state.rflags →
        FlagsWellFormed (env.after ex m n).2.state.rflags := by
  intro h
  have hpopfq := h flagEnv flagDispatch {} (flagMachine [0x9D#8] [0x0A#8]) 1 flagEnv_noHooks
    (by decide +kernel)
  have hbit : (flagEnv.after {} (flagMachine [0x9D#8] [0x0A#8]) 1).2.state.rflags.getLsbD 3 =
      true := by
    decide +kernel
  rw [hpopfq.reserved 3 (by decide)] at hbit
  cases hbit

set_option maxRecDepth 20000 in
/-- `IRETQ` clears bit 1. -/
example : (flagEnv.after {} (flagMachine [0x48#8, 0xCF#8] [0x40#8, 0x10#8]) 1).2.state.rflags =
    0#64 := by
  decide +kernel

end Seven
