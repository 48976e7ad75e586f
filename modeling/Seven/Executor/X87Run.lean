import Seven.Handlers.X87Stack
import Seven.Executor.Shadow

/-!
# The x87 stack over a run

Over a run of x87 and MMX instructions the stack stays well formed:
`Env.x87_wellFormed`. What the step does around a handler is in other fields
(`keepsX87_step`), and every handler keeps the stack (`X87Code.keepsStack`),
so it does not matter how an instruction ends, or what a restored image says.
-/

namespace Seven

open Seven.Lib

variable {W : Type} {env : Env W}

/-- Keeping the stack well formed is a frame of steps. -/
theorem keepsX87_step : StepFrame KeepsX87 where
  toStateFrame := keepsX87_frame
  suppression _ := keepsX87_of_same rfl rfl rfl
  pending _ _ _ := keepsX87_of_same rfl rfl rfl
  gate _ _ := keepsX87_of_same rfl rfl rfl

/-- The handler of an x87 or MMX code. -/
def IsX87Handler (H : X87Host) (handler : Handler) : Prop := ∃ c : X87Code, handler = c.handler H

/-- Every handler the step runs is one. -/
def Env.StepsX87 (env : Env W) (H : X87Host) (ex : Executor) (m : Machine W) : Prop :=
  env.EachHandler ex m fun handler _ => IsX87Handler H handler

variable {H : X87Host}

/-- Step: an x87 instruction. -/
theorem Env.step_keepsX87 (hhooks : env.HooksAlong KeepsX87)
    (hout : env.OuterHooksAlong KeepsX87) {ex : Executor} {m : Machine W}
    (hsteps : env.StepsX87 H ex m) : KeepsX87 m.state (env.step ex m).2.2.state := by
  refine Env.step_along keepsX87_step hhooks hout fun _ => ?_
  intro k t entry g₁ hk hreach hfetch hcore
  obtain ⟨c, hc⟩ := hsteps k t entry g₁ hk hreach hfetch hcore
  rw [hc]
  exact c.keepsStack H _

/-- **The stack invariant**: it holds after every instruction of a run, and a
push or a pop that is refused changes no register, no tag and not TOP. -/
theorem Env.x87_wellFormed (hhooks : env.HooksAlong KeepsX87)
    (hout : env.OuterHooksAlong KeepsX87) {ex : Executor} {m : Machine W}
    (hstart : X87WellFormed m.state) {n : Nat}
    (hsteps : ∀ k < n, env.StepsX87 H (env.after ex m k).1 (env.after ex m k).2) :
    X87WellFormed (env.after ex m n).2.state ∧
      (∀ (ctx : ExecutionContext) (refuse : Handler) (value : Float80),
        X87WellFormed ctx.state → PushRefusal refuse →
        (ctx.state.x87Push H.soft value).1 = false →
          SameX87Registers ctx.state (finalState (pushOr H.soft refuse value ctx)).state) ∧
      ∀ ctx : ExecutionContext, X87WellFormed ctx.state → ctx.state.x87Pop.1 = false →
        SameX87Registers ctx.state (finalState (popOrUnderflow ctx)).state := by
  refine ⟨?_, fun ctx refuse value hs hrefuse => pushOr_refused H.soft hrefuse hs,
    fun ctx => popOrUnderflow_refused⟩
  exact Env.after_along keepsX87_step.toIsPath
    (fun k hk => Env.step_keepsX87 hhooks hout (hsteps k hk)) hstart

/-! ## A run on the machine

`db e3` is `FNINIT`, `d9 e8` is `FLD1`, `de c1` is `FADDP`. -/

/-- A SoftFloat library with two constants, the rest bitwise. -/
def x87Host : X87Host where
  soft :=
    { bitwiseFloat with
      i32ToExtF80 := fun n => if n = 0#32 then 0#80 else 0x3FFF8000000000000000#80 }
  convertFpToInt32 _ _ _ := (0#64, 0#32)
  i32ToF64 _ := 0#64
  number := fun
    | .other n => BitVec.ofNat 32 n
    | _ => 0#32
  st0 := 217#32
  mm0 := 225#32
  xmm0 := 77#32
  ymm0 := 109#32
  zmm0 := 141#32

/-- The instructions of the program. -/
def x87Decoder : Decode := fun _ bytes _ =>
  if bytes.take 2 = [0xDB#8, 0xE3#8] then some { code := .other 0, length := 2 }
  else if bytes.take 2 = [0xD9#8, 0xE8#8] then some { code := .other 1, length := 2 }
  else if bytes.take 2 = [0xDE#8, 0xC1#8] then
    some { code := .other 2, length := 2, opRegister := fun i => .other (218 - i) }
  else none

/-- Their codes. -/
def x87Table (code : Code) : Option X87Code :=
  if code = .other 0 then some (.control .fninit)
  else if code = .other 1 then some (.fldConst .fld1)
  else if code = .other 2 then some (.arithmetic .fadd .pStiSt0)
  else none

/-- The environment. -/
def x87Env : Env Unit where
  decode := x87Decoder
  otherHandler code := (x87Table code).map (X87Code.handler x87Host)

/-- It has no hooks. -/
theorem x87Env_noHooks : x87Env.NoHooks where
  trap _ := rfl
  execution := rfl
  executionAddress _ := rfl
  instruction := rfl
  code _ := rfl
  fault := rfl
  stop := rfl
  contextRead := rfl
  contextWrite := rfl

/-- Its handlers are x87 handlers. -/
theorem x87Env_handler {code : Code} (h : (x87Table code).isSome = true) :
    IsX87Handler x87Host (x87Env.handler code) := by
  unfold x87Table at h
  by_cases h0 : code = .other 0
  · subst h0
    exact ⟨.control .fninit, rfl⟩
  · by_cases h1 : code = .other 1
    · subst h1
      exact ⟨.fldConst .fld1, rfl⟩
    · by_cases h2 : code = .other 2
      · subst h2
        exact ⟨.arithmetic .fadd .pStiSt0, rfl⟩
      · rw [if_neg h0, if_neg h1, if_neg h2] at h
        cases h

/-- Its steps are x87 steps. -/
theorem x87Env_stepsX87 {ex : Executor} {m : Machine Unit}
    (h : ∀ x ∈ x87Env.firstInstruction ex m, (x87Table x.1).isSome = true) :
    x87Env.StepsX87 x87Host ex m :=
  @Env.NoHooks.eachInstruction _ _ x87Env_noHooks _ _
    (fun code _ => IsX87Handler x87Host (x87Env.handler code)) fun x hx => x87Env_handler (h x hx)

/-- The program at `1000`. -/
def x87Machine (program : List Byte) : Machine Unit where
  state := { rip := 0x1000#64 }
  memory := (Memory.writeUnchecked (Memory.map {} 0x1000#64 0x1000#64 kMemoryPermissionAll)
    0x1000#64 program).1
  world := ()

/-- No hook touches the stack. -/
theorem x87Env_hooksAlong : x87Env.HooksAlong KeepsX87 :=
  x87Env_noHooks.toNoCoreHooks.hooksAlong KeepsX87

/-- Nor do the outer ones. -/
theorem x87Env_outerHooksAlong : x87Env.OuterHooksAlong KeepsX87 where
  fault hook hmem := absurd hmem List.not_mem_nil
  stop hook hmem := absurd hmem List.not_mem_nil
  contextRead f hmem := by cases hmem
  contextWrite f hmem := by cases hmem

/-- `FNINIT; FLD1; FADDP; FADDP`: the first sum has one operand, the second
has none and cannot pop. -/
def x87Program : Machine Unit :=
  x87Machine [0xDB#8, 0xE3#8, 0xD9#8, 0xE8#8, 0xDE#8, 0xC1#8, 0xDE#8, 0xC1#8]

/-- The program starts well formed. -/
theorem x87Program_wellFormed : X87WellFormed x87Program.state where
  top_lt := by decide
  top_eq := by decide
  tags _ := Or.inr (Or.inr rfl)

set_option maxRecDepth 20000 in
/-- Four instructions on. -/
theorem Env.x87_wellFormed_run : X87WellFormed (x87Env.after {} x87Program 4).2.state :=
  (Env.x87_wellFormed x87Env_hooksAlong x87Env_outerHooksAlong x87Program_wellFormed
    fun k hk => x87Env_stepsX87 (by
      match k, hk with
      | 0, _ => decide +kernel
      | 1, _ => decide +kernel
      | 2, _ => decide +kernel
      | 3, _ => decide +kernel)).1

set_option maxRecDepth 20000 in
/-- The fault is masked and all registers are empty. -/
example : (x87Env.after {} x87Program 4).2.state.x87StatusWord = 0x0041#16 ∧
    ∀ i, (x87Env.after {} x87Program 4).2.state.x87Tags i = kX87TagEmpty := by
  decide +kernel

end Seven
