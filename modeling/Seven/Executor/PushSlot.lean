import Seven.Executor.Step
import Seven.Handlers.StackFrame

/-!
# The slot of a push

Every push form is `pushWidth` on a value and a width: the forms differ in
where the value comes from (`pushedValue`). What runs is not the form the
decoder chose but the form `normalizeReportedCode` makes of it, and that
turns `PUSHD_IMM8` and `PUSHD_IMM32` into their eight-byte siblings. In
64-bit code a push of an immediate is eight bytes wide, so this is right
there; the function does not ask for the mode, and outside it is wrong.

> `Env.push_slot`: a push fills a slot of its operand size and the pop of
> that size undoes it — except for these two forms outside 64-bit code.
-/

namespace Seven

open Seven.Lib

variable {W : Type}

/-! ## Forms and operand sizes -/

/-- The width of the one slot a push form fills; `PUSHA` fills eight. -/
def StackShape.slotWidth : StackShape → Option StackWidth
  | .pushOperand w | .pushImm _ w _ | .pushSegment _ w | .pushFlags w => some w
  | _ => none

/-- The value a push form pushes; `none` when its operand cannot be read. -/
def StackShape.pushedValue (ctx : ExecutionContext) : StackShape → Option U64
  | .pushOperand w => readOperand ctx 0 w.bytes
  | .pushImm immWidth _ signExtendImm =>
    (readOperand ctx 0 immWidth).map fun value =>
      if signExtendImm then signExtend value immWidth else value
  | .pushSegment index _ => some ((ctx.state.sreg index).setWidth 64)
  | .pushFlags _ => some ctx.state.rflags
  | _ => none

/-- Is it one of the forms whose reported code is another one? -/
def StackCode.isPushdImm : StackCode → Bool
  | .pushdImm8 | .pushdImm32 => true
  | _ => false

/-- The operand size of a push in its mode: the one in the form's name, but
for an immediate that the decoder calls a doubleword in 64-bit code. -/
def StackCode.operandSize (mode : ExecutionMode) (c : StackCode) : Option StackWidth :=
  if c.isPushdImm ∧ mode = .long64 then some .w64 else c.shape.slotWidth

/-- Whatever the value comes from, it is pushed by `pushWidth`. -/
theorem StackShape.handler_push {shape : StackShape} {ctx : ExecutionContext} {w : StackWidth}
    {value : U64} (hw : shape.slotWidth = some w) (hvalue : shape.pushedValue ctx = some value) :
    shape.handler ctx = pushWidth value w.bytes ctx := by
  cases shape with
  | pushOperand w' =>
    cases hw
    exact bind_ok (readOperandChecked_ok_iff.mpr hvalue)
  | pushImm immWidth w' signExtendImm =>
    cases hw
    obtain ⟨imm, himm, rfl⟩ := Option.map_eq_some_iff.mp hvalue
    exact bind_ok (readOperandChecked_ok_iff.mpr himm)
  | pushSegment index w' =>
    cases hw
    cases hvalue
    show Seven.pushSegment index w.bytes ctx = _
    unfold Seven.pushSegment
    rw [dif_pos index.isLt]
    rfl
  | pushFlags w' =>
    cases hw
    cases hvalue
    rfl
  -- The other shapes push no single slot.
  | pushAll | popOperand | popfq | callRm | callRm32 | callRel | callFarMem | callFarPtr | ret |
    retf | iret | int | into => cases hw

/-! ## What runs -/

/-- The form whose handler runs. -/
def StackCode.normalized : StackCode → StackCode
  | .pushdImm8 => .pushqImm8
  | .pushdImm32 => .pushqImm32
  | c => c

/-- The handler of a normalized code. -/
theorem Env.handler_normalized (env : Env W) (c : StackCode) :
    env.handler (normalizeReportedCode (.stack c)) = c.normalized.handler := by
  cases c <;> rfl

/-- The form that runs pushes the same value. -/
theorem StackCode.normalized_value (c : StackCode) (ctx : ExecutionContext) :
    c.normalized.shape.pushedValue ctx = c.shape.pushedValue ctx := by
  cases c <;> rfl

/-- It has the operand size, except for a doubleword immediate outside
64-bit code: there the slot is eight bytes wide and not four. -/
theorem StackCode.normalized_width (c : StackCode) (mode : ExecutionMode) :
    (c.isPushdImm = true ∧ mode ≠ .long64 → c.operandSize mode = some .w32 ∧
        c.normalized.shape.slotWidth = some .w64) ∧
      (¬ (c.isPushdImm = true ∧ mode ≠ .long64) →
        c.normalized.shape.slotWidth = c.operandSize mode) := by
  unfold StackCode.operandSize
  -- Only `PUSHD` with an immediate is renamed, and outside long mode that changes the slot's
  -- width.
  by_cases hc : c.isPushdImm = true <;> by_cases hmode : mode = .long64
  · refine ⟨fun h => absurd hmode h.2, fun _ => ?_⟩
    rw [if_pos ⟨hc, hmode⟩]
    cases c with
    | pushdImm8 | pushdImm32 => rfl
    | _ => cases hc
  · refine ⟨fun _ => ?_, fun h => absurd ⟨hc, hmode⟩ h⟩
    rw [if_neg fun h => hmode h.2]
    cases c with
    | pushdImm8 | pushdImm32 => exact ⟨rfl, rfl⟩
    | _ => cases hc
  · refine ⟨fun h => absurd h.1 hc, fun _ => ?_⟩
    rw [if_neg fun h => hc h.1]
    cases c with
    | pushdImm8 | pushdImm32 => exact absurd rfl hc
    | _ => rfl
  · refine ⟨fun h => absurd h.1 hc, fun _ => ?_⟩
    rw [if_neg fun h => hc h.1]
    cases c with
    | pushdImm8 | pushdImm32 => exact absurd rfl hc
    | _ => rfl

/-! ## The slot -/

/-- The handler has pushed the value in a slot of this width: nothing but the
stack pointer changed in the state and nothing but the slot in memory, and a
pop of the width comes back with the value and the stack pointer. -/
structure PushesSlot (ctx : ExecutionContext) (value : U64) (width : Nat)
    (after : ExecutionContext) : Prop where
  state : after.state = ctx.state.setRsp
    (maskStackPointer ctx.state (ctx.state.rsp - BitVec.ofNat 64 width))
  slot : after.memory.read after.state.rsp width .dataRead = some (toBytes value width)
  outside : ∀ x, (∀ i < width, after.state.rsp + BitVec.ofNat 64 i ≠ x) →
    byteAt after.memory.pages x = byteAt ctx.memory.pages x
  pop : ∀ c : ExecutionContext, c.state = after.state → c.memory = after.memory →
    ∃ popped, popOperandWidth width c =
        (writeOperandChecked 0 (truncate value width) width >>= fun _ =>
          notePopSs after.state.rsp width) { c with state := popped } ∧
      popped = ctx.state.setRsp (maskStackPointer ctx.state ctx.state.rsp)

/-- A push on a plain slot fills it. -/
theorem pushWidth_slot {ctx : ExecutionContext} (value : U64) (w : StackWidth)
    (hplain : ctx.memory.PlainSpan (ctx.state.pushed w.bytes).rsp w.bytes) :
    ∃ after, pushWidth value w.bytes ctx = .ok () after ∧
      PushesSlot ctx value w.bytes after := by
  have hpos := w.bytes_pos
  have hle := w.bytes_le
  obtain ⟨haccepts, hlanded, hkept⟩ := hplain.stored hpos hle value
  have hread : (ctx.memory.stored (ctx.state.pushed w.bytes).rsp value w.bytes).read
      (ctx.state.pushed w.bytes).rsp w.bytes .dataRead = some (toBytes value w.bytes) :=
    (hplain.sameAccess (ctx.memory.stored_sameAccess _ value hle)).read hpos
      (toBytes_length value w.bytes) hlanded
  -- The bytes stored are the bytes a later pop reads, from any context with that stack and
  -- memory.
  refine ⟨_, pushSlot_ok w.bytes_mem_pop haccepts, rfl, hread, hkept, ?_⟩
  intro c hstate hmemory
  have hbytes : c.memory.read c.state.rsp w.bytes .dataRead = some (toBytes value w.bytes) := by
    rw [hstate, hmemory]
    exact hread
  refine ⟨c.state.popped w.bytes, ?_, ?_⟩
  · rw [← fromBytes_toBytes value w.bytes_mem, ← hstate]
    exact bind_ok (popWidth_some w.bytes_mem_pop hbytes)
  · have hrsp := @popped_rsp ctx.state c.state (by rw [hstate]; rfl) w.bytes (by rw [hstate])
    have hsetRsp : c.state.popped w.bytes = ctx.state.setRsp (c.state.popped w.bytes).rsp := by
      unfold CpuState.popped
      rw [hstate]
      exact CpuState.setRsp_setRsp _ _ _
    rw [hsetRsp, hrsp]

/-- A push has moved the stack pointer by its own width, whatever came of
the store. -/
theorem pushWidth_moves (value : U64) (w : StackWidth) {ctx after : ExecutionContext}
    (h : pushWidth value w.bytes ctx = .ok () after) :
    after.state.lowSp = ctx.state.lowSp - BitVec.ofNat 16 w.bytes := by
  have hwrite := (@pushSlot_eq _ unsupportedInstruction value _ w.bytes_mem_pop ctx).symm.trans h
  rw [(of_writeMemoryChecked_ok hwrite).2]
  exact lowSp_push ctx.state w.bytes

/-- **A push fills a slot of its operand size**, and the pop of that size
undoes it, exactly when it is not a doubleword immediate outside 64-bit
code. -/
theorem Env.push_slot (env : Env W) (ctx : ExecutionContext) {c : StackCode} {w : StackWidth}
    {value : U64} (hsize : c.operandSize ctx.state.mode = some w)
    (hvalue : c.shape.pushedValue ctx = some value)
    (hplain : ctx.memory.PlainSpan (ctx.state.pushed w.bytes).rsp w.bytes) :
    (∃ after, env.handler (normalizeReportedCode (.stack c)) ctx = .ok () after ∧
        PushesSlot ctx value w.bytes after) ↔
      ¬ (c.isPushdImm = true ∧ ctx.state.mode ≠ .long64) := by
  obtain ⟨hwrong, hright⟩ := c.normalized_width ctx.state.mode
  have hvalue' : c.normalized.shape.pushedValue ctx = some value := by
    rw [c.normalized_value]
    exact hvalue
  rw [env.handler_normalized]
  constructor
  · rintro ⟨after, hrun, hslot⟩ hbad
    obtain ⟨hfour, height⟩ := hwrong hbad
    have hw : w = .w32 := Option.some_inj.mp (hsize.symm.trans hfour)
    -- the stack pointer moved by eight and should have moved by four
    have hmoved := pushWidth_moves value .w64
      ((StackShape.handler_push height hvalue').symm.trans hrun)
    have hdown : after.state.lowSp = ctx.state.lowSp - BitVec.ofNat 16 4 := by
      rw [hslot.state, hw]
      exact lowSp_push ctx.state 4
    rw [hmoved] at hdown
    have hnat := congrArg BitVec.toNat hdown
    have hb := ctx.state.lowSp.isLt
    simp only [StackWidth.bytes, BitVec.toNat_sub, BitVec.toNat_ofNat] at hnat
    omega
  · intro hgood
    obtain ⟨after, hrun, hslot⟩ := pushWidth_slot value w hplain
    refine ⟨after, ?_, hslot⟩
    exact (StackShape.handler_push ((hright hgood).trans hsize) hvalue').trans hrun

/-- `PUSHD_IMM8` of `-1` with the stack pointer at the end of a page. -/
def pushMinusOne (mode : ExecutionMode) : ExecutionContext where
  state := ({ mode := mode } : CpuState).setRsp 0x2000#64
  memory := ({} : Memory).map 0x1000#64 0x1000#64 kMemoryPermissionReadWrite
  instr :=
    { code := .stack .pushdImm8, length := 2, opKind := fun _ => .immediate8to32
      immediate8to32 := 0xFFFFFFFF#64 }
  nextRip := 2#64

/-- An environment without instructions. -/
def plainEnv : Env Unit := { decode := fun _ _ _ => none }

/-- In 64-bit code the slot is eight bytes wide and holds the sign-extended
immediate. -/
theorem Env.push_slot_long64 :
    ∃ after, plainEnv.handler (normalizeReportedCode (.stack .pushdImm8)) (pushMinusOne .long64) =
        .ok () after ∧
      PushesSlot (pushMinusOne .long64) 0xFFFFFFFFFFFFFFFF#64 8 after := by
  have hplain : (pushMinusOne .long64).memory.PlainSpan
      ((pushMinusOne .long64).state.pushed 8).rsp 8 :=
    ⟨⟨rfl, rfl⟩, rfl, fun _ _ _ => rfl, by decide +kernel⟩
  exact (@Env.push_slot Unit plainEnv (pushMinusOne .long64) .pushdImm8 .w64 _ rfl rfl hplain).mpr
    fun h => h.2 rfl

/-- In 32-bit code the stack pointer moves by eight bytes, where the operand
size is four. -/
theorem Env.push_slot_compat32 :
    StackCode.pushdImm8.operandSize .compat32 = some .w32 ∧
      ((plainEnv.handler (normalizeReportedCode (.stack .pushdImm8))).run
        (pushMinusOne .compat32)).1 = {} ∧
      ((plainEnv.handler (normalizeReportedCode (.stack .pushdImm8))).run
        (pushMinusOne .compat32)).2.state.rsp = 0x1FF8#64 := by
  refine ⟨rfl, ?_, ?_⟩
  · decide +kernel
  · decide +kernel

end Seven
