import Seven.Handlers.VectorFloat
import Seven.Handlers.X87Image

/-!
# The bits above a vector register

A legacy SSE instruction is to leave the bits from 128 on alone, a VEX or
EVEX instruction to clear those above its length. Which of both a handler
does is its flag; the flags of the VEX and EVEX handlers are all set, and
those of the legacy handlers are clear but for six:

> `VectorCode.upperBits_iff`: `MOVSS` and `MOVSD` from memory, `MOVD`, and
> `MOVQ` in its three forms, keep the bits only if there were none.
-/

namespace Seven

open Seven.Lib

/-! ## The codes -/

/-- The handlers that write a vector register. -/
inductive VectorCode where
  | move (c : MoveCode)
  | int (c : IntCode)
  | pack (c : PackCode)
  | float (c : FloatCode)
  /-- `ANDPS`, `ANDPD` and the others. -/
  | logic (op : LogicOp) (size : FloatSize)
  | vexLogic (op : LogicOp) (size : FloatSize) (len : VexLength)
  | cvtpi2pd
  | movq2dq
deriving DecidableEq

namespace VectorCode

/-- The encodings without VEX. -/
def legacy : VectorCode → Bool
  | .move c => c.legacy
  | .int c => c.legacy
  | .pack c => c.legacy
  | .float c => c.legacy
  | .vexLogic _ _ _ => false
  | .logic _ _ | .cvtpi2pd | .movq2dq => true

/-- The vector length. -/
def length : VectorCode → VectorLength
  | .move c => c.length
  | .int c => c.length
  | .pack c => c.length
  | .float c => c.length
  | .vexLogic _ _ len => len.length
  | .logic _ _ | .cvtpi2pd | .movq2dq => .xmm

variable (F : FloatHost)

/-- The handler of a code. -/
def handler (x : EvexFields) : VectorCode → Handler
  | .move c => c.handler F.toX87Host x
  | .int c => c.handler F.toX87Host x
  | .pack c => c.handler F.toX87Host
  | .float c => c.handler F
  | .logic op _ => F.packedLogic 0 1 op false
  | .vexLogic op _ _ => F.packedLogic 1 2 op true
  | .cvtpi2pd => F.handleCvtpi2pd
  | .movq2dq => F.handleMovq2dq

/-- The string comparisons write `XMM0`. -/
def implicitXmm0 : VectorCode → Bool
  | .int (.pcmpstrm _) => true
  | _ => false

/-- The slot of the destination. -/
def slot (c : VectorCode) (instr : Instruction) : Fin 32 :=
  if c.implicitXmm0 then vectorSlot 0 else F.vectorIndex (instr.opRegister 0)

/-- The destination is a vector register, of the length that the code
names. -/
def WritesVector (c : VectorCode) (instr : Instruction) : Prop :=
  c.implicitXmm0 = true ∨
    (F.IsVectorOperand instr 0 ∧ F.vectorWidth (instr.opRegister 0) = c.length.bytes)

/-- Bits 128 and above unchanged, or the bits above the length zero. -/
def UpperBits (c : VectorCode) (before after : ExecutionContext) : Prop :=
  if c.legacy then
    ∀ j, 128 ≤ j → (after.state.vectors (c.slot F before.instr)).getLsbD j =
      (before.state.vectors (c.slot F before.instr)).getLsbD j
  else
    ∀ j, 8 * c.length.bytes ≤ j →
      (after.state.vectors (c.slot F before.instr)).getLsbD j = false

/-- The legacy instructions that clear the bits. -/
def Clears (instr : Instruction) : VectorCode → Prop
  | .move (.scalarLoad _) => instr.opKind 1 = .memory
  | .move .movdXmmRm32 | .move .movqXmmRm64 | .move .movqXmmXmmm64 | .move .movqXmmm64Xmm => True
  | _ => False

/-! ## Flags -/

/-- What the instruction passes to `write_vec`. -/
def zeroUpper (c : VectorCode) (instr : Instruction) : Bool :=
  match c with
  | .move c => c.zeroUpper instr
  | c => !c.legacy

/-- The forms that clear the bits above. -/
theorem zeroUpper_eq_true_iff (c : VectorCode) (instr : Instruction) :
    c.zeroUpper instr = true ↔ c.legacy = false ∨ c.Clears instr := by
  -- all but the moves go by their encoding
  have hother {c : VectorCode} (hflag : c.zeroUpper instr = !c.legacy) (hkeeps : ¬c.Clears instr) :
      c.zeroUpper instr = true ↔ c.legacy = false ∨ c.Clears instr := by
    rw [hflag, Bool.not_eq_true', or_iff_left hkeeps]
  cases c with
  | move c =>
    cases c with
    | scalarLoad size =>
      show decide (instr.opKind 1 = .memory) = true ↔ true = false ∨ instr.opKind 1 = .memory
      rw [decide_eq_true_iff, or_iff_right Bool.noConfusion]
    | movdXmmRm32 => exact iff_of_true rfl (Or.inr trivial)
    | movqXmmRm64 => exact iff_of_true rfl (Or.inr trivial)
    | movqXmmXmmm64 => exact iff_of_true rfl (Or.inr trivial)
    | movqXmmm64Xmm => exact iff_of_true rfl (Or.inr trivial)
    | vexMov op len store => exact hother rfl id
    | vexMovntdqa len => exact hother rfl id
    | avx evex c => exact hother rfl id
    | evexMov op len store => exact hother rfl id
    | evexMovntdqa len => exact hother rfl id
    | mov op store => exact hother rfl id
    | lddqu => exact hother rfl id
    | movntdqa => exact hother rfl id
    | scalarStore size => exact hother rfl id
    | lowHalf size => exact hother rfl id
    | highHalf size => exact hother rfl id
    | movlhps => exact hother rfl id
    | movhlps => exact hother rfl id
  | int c => exact hother rfl id
  | pack c => exact hother rfl id
  | float c => exact hother rfl id
  | logic op size => exact hother rfl id
  | vexLogic op size len => exact hother rfl id
  | cvtpi2pd => exact hother rfl id
  | movq2dq => exact hother rfl id

/-! ## Destinations -/

/-- `CVTPI2PD` keeps them. -/
theorem cvtpi2pd_merged {H : X87Host} {ctx ctx' : ExecutionContext}
    (hrun : H.handleCvtpi2pd ctx = .ok () ctx') : H.LeavesMerged ctx ctx' 0 false := by
  have hget : (get : HandlerM ExecutionContext) ctx = .ok ctx ctx := rfl
  unfold X87Host.handleCvtpi2pd at hrun
  rw [bind_ok hget] at hrun
  dsimp only at hrun
  split at hrun
  next => cases hrun
  next =>
    -- from an MMX register, or from elsewhere
    split at hrun
    next =>
      cases hrun
      exact ⟨_, _, Nat.le_refl _, X87Host.setVector_self _ _ _⟩
    next =>
      obtain ⟨src, mid, hsource, hwrite⟩ := of_bind_ok hrun
      obtain rfl := (readOperandChecked_quiet 1 8).ok_eq hsource
      cases hwrite
      exact ⟨_, _, Nat.le_refl _, X87Host.setVector_self _ _ _⟩

/-- `MOVQ2DQ` puts 64 bits in. -/
theorem movq2dq_merged {H : X87Host} {ctx ctx' : ExecutionContext}
    (hrun : H.handleMovq2dq ctx = .ok () ctx') : H.LeavesMerged ctx ctx' 0 false := by
  refine ⟨(H.readMmx ctx.state (ctx.instr.opRegister 1)).setWidth 512, 16, H.le_vectorWidth _, ?_⟩
  cases hrun
  refine (X87Host.setVector_self _ _ _).trans ?_
  unfold mergeVec X87Host.slotOf
  rw [if_neg Bool.false_ne_true]
  congr 1
  apply BitVec.eq_of_getLsbD_eq
  intro j hj
  rw [BitVec.getLsbD_and, X87Host.vectorMask_getLsbD 16 hj]
  by_cases hlow : j < 8 * 16
  · rw [decide_eq_true hlow, Bool.and_true]
  · rw [decide_eq_false hlow, Bool.and_false, BitVec.getLsbD_setWidth,
      BitVec.getLsbD_of_ge _ _ (by omega), Bool.and_false]

/-- What a vector instruction leaves in its slot. -/
theorem leaves (x : EvexFields) (c : VectorCode) {ctx ctx' : ExecutionContext}
    (hwrites : c.WritesVector F ctx.instr) (hrun : c.handler F x ctx = .ok () ctx') :
    ∃ value width, width ≤ c.length.bytes ∧
      ctx'.state.vectors (c.slot F ctx.instr) =
        mergeVec (ctx.state.vectors (c.slot F ctx.instr)) value width (c.zeroUpper ctx.instr) := by
  by_cases hxmm0 : c.implicitXmm0 = true
  · -- a string comparison
    have hslot : c.slot F ctx.instr = vectorSlot 0 := if_pos hxmm0
    rw [hslot]
    cases c with
    | int c =>
      cases c with
      | pcmpstrm explicitLengths =>
        obtain ⟨value, hvalue⟩ := F.pcmpstr_leaves hrun
        exact ⟨value, 16, Nat.le_refl 16, hvalue⟩
      | _ => exact absurd hxmm0 Bool.false_ne_true
    | _ => exact absurd hxmm0 Bool.false_ne_true
  · obtain ⟨hdst, hlength⟩ := hwrites.resolve_left hxmm0
    have hslot : c.slot F ctx.instr = F.vectorIndex (ctx.instr.opRegister 0) := if_neg hxmm0
    -- Every other handler writes through a merge into its destination.
    have hmerged : F.LeavesMerged ctx ctx' 0 (c.zeroUpper ctx.instr) := by
      cases c with
      | move c => exact c.leaves F.toX87Host x hdst hrun
      | int c =>
        refine c.leaves F.toX87Host x (fun explicitLengths hc => hxmm0 ?_) hrun
        rw [hc]
        rfl
      | pack c => exact c.leaves F.toX87Host hrun
      | float c => exact c.leaves F hrun
      | logic op size => exact F.packedLogic_merged hrun
      | vexLogic op size len => exact F.packedLogic_merged hrun
      | cvtpi2pd => exact cvtpi2pd_merged hrun
      | movq2dq => exact movq2dq_merged hrun
    obtain ⟨value, width, hwidth, hleft⟩ := hmerged
    rw [hslot]
    rw [hlength] at hwidth
    exact ⟨value, width, hwidth, hleft⟩

/-- A legacy instruction names XMM registers. -/
theorem legacy_length {c : VectorCode} (h : c.legacy = true) : c.length.bytes = 16 := by
  cases c with
  | move c => cases c <;> first | rfl | exact absurd h Bool.false_ne_true
  | int c => cases c <;> first | rfl | exact absurd h Bool.false_ne_true
  | pack c => cases c <;> first | rfl | exact absurd h Bool.false_ne_true
  | float c => cases c <;> first | rfl | exact absurd h Bool.false_ne_true
  | vexLogic op size len => exact absurd h Bool.false_ne_true
  | logic op size => rfl
  | cvtpi2pd => rfl
  | movq2dq => rfl

/-- **When the upper bits are what they should be.** -/
theorem upperBits_iff (x : EvexFields) (c : VectorCode) {ctx ctx' : ExecutionContext}
    (hwrites : c.WritesVector F ctx.instr) (hrun : c.handler F x ctx = .ok () ctx') :
    c.UpperBits F ctx ctx' ↔
      (c.Clears ctx.instr → ∀ j, 128 ≤ j →
        (ctx.state.vectors (c.slot F ctx.instr)).getLsbD j = false) := by
  obtain ⟨value, width, hwidth, hleft⟩ := leaves F x c hwrites hrun
  have hflag := c.zeroUpper_eq_true_iff ctx.instr
  have hbit (j : Nat) (hj : 8 * c.length.bytes ≤ j) :
      (ctx'.state.vectors (c.slot F ctx.instr)).getLsbD j =
        (!c.zeroUpper ctx.instr && (ctx.state.vectors (c.slot F ctx.instr)).getLsbD j) := by
    rw [hleft]
    by_cases hlt : j < 512
    · exact X87Host.mergeVec_high _ _ _ hlt (by omega)
    · rw [BitVec.getLsbD_of_ge _ _ (by omega), BitVec.getLsbD_of_ge _ _ (by omega), Bool.and_false]
  -- the bits in question are the old ones under the flag, at every place above the length
  unfold UpperBits
  by_cases hlegacy : c.legacy = true
  · rw [if_pos hlegacy]
    rw [legacy_length hlegacy] at hbit
    rw [or_iff_right (by rw [hlegacy]; exact Bool.noConfusion)] at hflag
    constructor
    · intro hkept hclears j hj
      rw [← hkept j hj, hbit j hj, hflag.mpr hclears, Bool.not_true, Bool.false_and]
    · intro hzero j hj
      rw [hbit j hj]
      by_cases hclears : c.Clears ctx.instr
      · rw [hzero hclears j hj, Bool.and_false]
      · rw [Bool.eq_false_iff.mpr (mt hflag.mp hclears), Bool.not_false, Bool.true_and]
  · rw [if_neg hlegacy]
    rw [Bool.not_eq_true] at hlegacy
    refine iff_of_true (fun j hj => ?_) fun hclears => ?_
    · rw [hbit j hj, hflag.mpr (Or.inl hlegacy), Bool.not_true, Bool.false_and]
    · -- only legacy instructions are listed
      exfalso
      cases c with
      | move c => cases c <;> first | exact hclears | exact Bool.noConfusion hlegacy
      | _ => exact hclears

end VectorCode

/-! ## `MOVD` under AVX state -/

/-- The decoder's numbers of the vector registers; nothing is calculated. -/
def vectorHost : FloatHost where
  soft := bitwiseFloat
  convertFpToInt32 _ _ _ := (0#64, 0#32)
  i32ToF64 _ := 0#64
  number := fun
    | .other n => BitVec.ofNat 32 n
    | _ => 0#32
  st0 := 217#32
  mm0 := 225#32
  xmm0 := 77#32
  ymm0 := 109#32
  zmm0 := 141#32
  compute _ _ _ _ _ := (0#512, 0#32)

/-- All vector registers full; `XMM0` and, by turns, `XMM1` or `EAX`. -/
def fullVectors (src : Register) : ExecutionContext where
  state := { vectors := fun _ => BitVec.allOnes 512 }
  memory := {}
  instr := { code := .other 0, length := 4, opRegister := fun i => if i = 0 then .other 77 else src }
  nextRip := 4#64

/-- `MOVAPS XMM0, XMM1` keeps the upper bits. -/
theorem VectorCode.movaps_upperBits : ∃ after,
    VectorCode.handler vectorHost {} (.move (.mov .movaps false)) (fullVectors (.other 78)) =
      .ok () after ∧
    VectorCode.UpperBits vectorHost (.move (.mov .movaps false)) (fullVectors (.other 78)) after := by
  have hwrites : VectorCode.WritesVector vectorHost (.move (.mov .movaps false))
      (fullVectors (.other 78)).instr := Or.inr ⟨⟨rfl, by decide⟩, by decide⟩
  obtain ⟨after, hrun⟩ : ∃ after,
      VectorCode.handler vectorHost {} (.move (.mov .movaps false)) (fullVectors (.other 78)) =
        .ok () after := ⟨_, rfl⟩
  exact ⟨after, hrun, (VectorCode.upperBits_iff vectorHost {} _ hwrites hrun).mpr fun h => h.elim⟩

/-- `MOVD XMM0, EAX` clears them. -/
theorem VectorCode.movd_clears : ∃ after,
    VectorCode.handler vectorHost {} (.move .movdXmmRm32) (fullVectors .eax) = .ok () after ∧
    VectorCode.WritesVector vectorHost (.move .movdXmmRm32) (fullVectors .eax).instr ∧
    ¬VectorCode.UpperBits vectorHost (.move .movdXmmRm32) (fullVectors .eax) after := by
  have hwrites : VectorCode.WritesVector vectorHost (.move .movdXmmRm32)
      (fullVectors .eax).instr := Or.inr ⟨⟨rfl, by decide⟩, by decide⟩
  obtain ⟨after, hrun⟩ : ∃ after,
      VectorCode.handler vectorHost {} (.move .movdXmmRm32) (fullVectors .eax) = .ok () after :=
    ⟨_, rfl⟩
  refine ⟨after, hrun, hwrites, fun h => ?_⟩
  obtain ⟨value, width, hwidth, hleft⟩ := VectorCode.leaves vectorHost {} _ hwrites hrun
  have hwidth : width ≤ 16 := hwidth
  have hkept := h 128 (Nat.le_refl 128)
  rw [hleft, X87Host.mergeVec_high _ _ _ (by decide) (by omega)] at hkept
  -- bit 128 was set
  have hset : ((fullVectors .eax).state.vectors
      (VectorCode.slot vectorHost (.move .movdXmmRm32) (fullVectors .eax).instr)).getLsbD 128 = true := by
    show (BitVec.allOnes 512).getLsbD 128 = true
    rw [BitVec.getLsbD_allOnes]
    rfl
  rw [hset] at hkept
  cases hkept

end Seven
