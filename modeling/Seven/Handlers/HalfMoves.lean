import Seven.Handlers.UpperBits

/-!
# Loads and stores of one half

`MOVLPx` and `MOVHPx` load eight bytes into one half of a register and keep the
other half, of the destination or, in the VEX and EVEX forms, of the first
source. All four high forms and the low AVX forms have the same handler, which
takes the kept half from operand 1, the loaded one from operand 2, and puts it
in the high half. That is `VMOVHPx`. In `VMOVLPx` the half is the wrong one, and
`MOVHPx` has no operand 2: its memory operand is operand 1.

> `half_moves_iff`: what each of the loads gets right, and when.
-/

namespace Seven

open Seven.Lib

/-! ## The moves -/

namespace X87Host

variable (H : X87Host)

/-- `xmm_to_gpr`. -/
def xmmToGpr (dst src width : Nat) : Handler := do
  let value ← H.readAny src width
  H.writeAny dst value width false

/-- `high_lane_to_gpr`. -/
def highLaneToGpr (dst src width : Nat) : Handler := do
  let ctx ← get
  -- the file's `read_vec` does not cut the slot to the register's width
  let value := (H.slotOf ctx.state ctx.instr src >>> (width * 8)) &&& vectorMask width
  H.writeAny dst value width false

end X87Host

/-- The encodings of the half moves. -/
inductive HalfForm where
  | legacy | vex | evex
deriving DecidableEq, Repr

/-- `MOVLPS`, `VMOVHPD` and so on. -/
structure HalfMove where
  form : HalfForm
  high : Bool
  size : FloatSize
deriving DecidableEq, Repr

namespace HalfMove

/-- `MOVLPS_XMM_M64`, `VEX_VMOVLPS_XMM_XMM_M64` and so on. -/
def load (c : HalfMove) : MoveCode :=
  match c.form, c.high with
  | .legacy, false => .lowHalf c.size
  | .legacy, true => .highHalf c.size
  | .vex, false => .avx false (.lowHalf c.size)
  | .vex, true => .avx false (.highHalf c.size)
  | .evex, false => .avx true (.lowHalf c.size)
  | .evex, true => .avx true (.highHalf c.size)

/-- `MOVLPS_M64_XMM` and so on, the same for every form. -/
def store (H : X87Host) (c : HalfMove) : Handler :=
  if c.high then H.highLaneToGpr 0 1 8 else H.xmmToGpr 0 1 8

/-- The operand whose other half is kept. -/
def kept (c : HalfMove) : Nat := if c.form = .legacy then 0 else 1

/-- The memory operand of the load. -/
def source (c : HalfMove) : Nat := if c.form = .legacy then 1 else 2

end HalfMove

/-- Bits 64 to 127, or bits 0 to 63. -/
def half (high : Bool) (v : BitVec 512) : U64 := lane 64 v (if high then 1 else 0)

/-! ## What should be -/

/-- The operands of a load: an XMM register, and memory. -/
structure HalfMove.LoadOperands (H : X87Host) (c : HalfMove) (instr : Instruction) : Prop where
  dst : H.IsVectorOperand instr 0
  xmm : H.vectorWidth (instr.opRegister 0) = 16
  memory : instr.opKind c.source = .memory

/-- The operands of a store. -/
structure StoreOperands (H : X87Host) (instr : Instruction) : Prop where
  memory : instr.opKind 0 = .memory
  src : H.IsVectorOperand instr 1

section

variable (H : X87Host) (x : EvexFields) (c : HalfMove) (m : U64) (ctx : ExecutionContext)

/-- The load succeeds, and the half is what was loaded. -/
def HalfLoaded : Prop :=
  ∃ after, c.load.handler H x ctx = .ok () after ∧
    half c.high (H.slotOf after.state ctx.instr 0) = m

/-- And the other half is kept. -/
def HalfMoved : Prop :=
  ∃ after, c.load.handler H x ctx = .ok () after ∧
    half c.high (H.slotOf after.state ctx.instr 0) = m ∧
    half (!c.high) (H.slotOf after.state ctx.instr 0) =
      half (!c.high) (H.slotOf ctx.state ctx.instr c.kept)

/-- What a `MOVHPx` takes for its operand 2 has the loaded bits. -/
def ThirdOperandIs : Prop := ∃ value, H.readAny 2 8 ctx = .ok value ctx ∧ half false value = m

namespace HalfMove

/-- When the loaded half is right. -/
def LoadsHalf (c : HalfMove) : Prop :=
  match c.form, c.high with
  | .legacy, false | .vex, true | .evex, true => True
  | .legacy, true => ThirdOperandIs H m ctx
  | .vex, false | .evex, false => half false (H.slotOf ctx.state ctx.instr 1) = m

/-- When the kept half is right as well. -/
def KeepsHalf (c : HalfMove) : Prop :=
  match c.form, c.high with
  | .legacy, false | .vex, true | .evex, true => True
  | .legacy, true =>
    half false (H.slotOf ctx.state ctx.instr 1) = half false (H.slotOf ctx.state ctx.instr 0)
  | .vex, false | .evex, false => half true (H.slotOf ctx.state ctx.instr 1) = m

end HalfMove

end

/-! ## Halves -/

/-- A half by its bits. -/
theorem half_eq_iff {high : Bool} {v : BitVec 512} {u : U64} :
    half high v = u ↔ ∀ j < 64, v.getLsbD ((if high then 64 else 0) + j) = u.getLsbD j := by
  unfold half
  rw [lane_eq_iff]
  cases high with
  | true => exact Iff.rfl
  | false => exact Iff.rfl

/-- A bit of a half. -/
theorem half_getLsbD (high : Bool) (v : BitVec 512) {j : Nat} (hj : j < 64) :
    (half high v).getLsbD j = v.getLsbD ((if high then 64 else 0) + j) :=
  (half_eq_iff.mp rfl j hj).symm

/-- The halves of a slot after a write of sixteen bytes. -/
theorem half_mergeVec (old value : BitVec 512) (zeroUpper high : Bool) :
    half high (mergeVec old value 16 zeroUpper) = half high value := by
  rw [half_eq_iff]
  intro j hj
  have hin : (if high then 64 else 0) + j < 128 := by
    cases high with
    | true => show 64 + j < 128; omega
    | false => show 0 + j < 128; omega
  rw [X87Host.mergeVec_low _ _ _ (by omega) (by omega), half_getLsbD _ _ hj]

/-- And after a write of eight that keeps the rest. -/
theorem half_mergeVec_eight (old value : BitVec 512) (high : Bool) :
    half high (mergeVec old value 8 false) = half high (if high then old else value) := by
  rw [half_eq_iff]
  intro j hj
  cases high with
  | true =>
    show (mergeVec old value 8 false).getLsbD (64 + j) = (half true old).getLsbD j
    rw [X87Host.mergeVec_high _ _ _ (by omega) (by omega), half_getLsbD _ _ hj]
    rfl
  | false =>
    show (mergeVec old value 8 false).getLsbD (0 + j) = (half false value).getLsbD j
    rw [X87Host.mergeVec_low _ _ _ (by omega) (by omega), half_getLsbD _ _ hj]
    rfl

/-- The value that `merge_high_move` makes of eight bytes. -/
theorem half_mergeHigh (merge value : BitVec 512) (high : Bool) :
    half high ((merge &&& ~~~(X87Host.vectorMask 8 <<< 64)) |||
      ((value <<< 64) &&& (X87Host.vectorMask 8 <<< 64))) =
      half false (if high then value else merge) := by
  have hmask : ∀ j < 128, (X87Host.vectorMask 8 <<< 64).getLsbD j = decide (64 ≤ j) := by
    intro j hj
    rw [BitVec.getLsbD_shiftLeft, decide_eq_true (by omega : j < 512), Bool.true_and]
    by_cases hlow : j < 64
    · rw [decide_eq_true hlow, decide_eq_false (by omega : ¬64 ≤ j)]
      rfl
    · rw [decide_eq_false hlow, X87Host.vectorMask_getLsbD _ (by omega),
        decide_eq_true (by omega : j - 64 < 8 * 8), decide_eq_true (by omega : 64 ≤ j)]
      rfl
  -- The half kept comes from the other source and the half written from the value.
  rw [half_eq_iff]
  intro j hj
  cases high with
  | true =>
    show BitVec.getLsbD _ (64 + j) = (half false value).getLsbD j
    rw [BitVec.getLsbD_or, BitVec.getLsbD_and, BitVec.getLsbD_and, BitVec.getLsbD_not,
      hmask _ (by omega), decide_eq_true (by omega : 64 ≤ 64 + j), BitVec.getLsbD_shiftLeft,
      decide_eq_true (by omega : 64 + j < 512), decide_eq_false (by omega : ¬64 + j < 64),
      Nat.add_sub_cancel_left, half_getLsbD _ _ hj]
    simp
  | false =>
    show BitVec.getLsbD _ (0 + j) = (half false merge).getLsbD j
    rw [BitVec.getLsbD_or, BitVec.getLsbD_and, BitVec.getLsbD_and, BitVec.getLsbD_not,
      hmask _ (by omega), decide_eq_false (by omega : ¬64 ≤ 0 + j),
      decide_eq_true (by omega : 0 + j < 512), half_getLsbD _ _ hj]
    simp

/-! ## One load -/

section

variable {H : X87Host} {x : EvexFields} {c : HalfMove} {m : U64} {ctx : ExecutionContext}

/-- The memory operand. -/
theorem readAny_memory {i : Nat} {bytes : List Byte} (hkind : ctx.instr.opKind i = .memory)
    (hread : ctx.memory.read (memoryAddress ctx.state ctx.instr) 8 .dataRead = some bytes) :
    H.readAny i 8 ctx = .ok (BitVec.ofNat 512 (ofLE bytes)) ctx := by
  have hget : (get : HandlerM ExecutionContext) ctx = .ok ctx ctx := rfl
  have hregister : ¬ctx.instr.opKind i = .register := by
    rw [hkind]
    decide
  unfold X87Host.readAny
  rw [bind_ok hget, if_neg hregister, if_pos hkind]
  unfold X87Host.readVectorOperand
  rw [bind_ok hget, if_neg hregister, if_pos hkind, hread]
  rfl

/-- The eight bytes are the low half. -/
theorem half_read (bytes : List Byte) :
    half false (BitVec.ofNat 512 (ofLE bytes)) = fromBytes bytes := by
  rw [half_eq_iff, fromBytes_eq_ofLE]
  intro j hj
  show (BitVec.ofNat 512 (ofLE bytes)).getLsbD (0 + j) = _
  rw [Nat.zero_add, BitVec.getLsbD_ofNat, BitVec.getLsbD_ofNat, decide_eq_true hj,
    decide_eq_true (by omega : j < 512)]

/-- `merge_high_move` with operand 2 at hand: the high half is the operand, the
low half that of operand 1. -/
theorem mergeHighMove_halves {value : BitVec 512} {zeroUpper : Bool}
    (hwidth : H.vectorWidth (ctx.instr.opRegister 0) = 16)
    (hvalue : H.readAny 2 8 ctx = .ok value ctx) :
    ∃ after, H.mergeHighMove 0 1 2 8 zeroUpper ctx = .ok () after ∧
      half true (H.slotOf after.state ctx.instr 0) = half false value ∧
      half false (H.slotOf after.state ctx.instr 0) =
        half false (H.slotOf ctx.state ctx.instr 1) := by
  have hget : (get : HandlerM ExecutionContext) ctx = .ok ctx ctx := rfl
  refine ⟨_, (bind_ok hvalue).trans ((bind_ok hget).trans rfl), ?_⟩
  have hslot (updated : BitVec 512) : H.slotOf (setVector ctx.state
      (H.vectorIndex (ctx.instr.opRegister 0)) updated) ctx.instr 0 = updated := if_pos rfl
  dsimp only
  rw [hslot, hwidth, half_mergeVec, half_mergeVec]
  exact ⟨half_mergeHigh _ _ true, half_mergeHigh _ _ false⟩

/-- `low_move` of eight bytes that keeps the rest. -/
theorem lowMove_halves {value : BitVec 512} (hdst : H.IsVectorOperand ctx.instr 0)
    (hvalue : H.readAny 1 8 ctx = .ok value ctx) :
    ∃ after, H.lowMove 0 1 8 false ctx = .ok () after ∧
      half false (H.slotOf after.state ctx.instr 0) = half false value ∧
      half true (H.slotOf after.state ctx.instr 0) =
        half true (H.slotOf ctx.state ctx.instr 0) := by
  refine ⟨_, (bind_ok hvalue).trans (H.writeAny_vector hdst _ _ _), ?_⟩
  have hslot (updated : BitVec 512) : H.slotOf (setVector ctx.state
      (H.vectorIndex (ctx.instr.opRegister 0)) updated) ctx.instr 0 = updated := if_pos rfl
  dsimp only
  rw [X87Host.mergeVec_masked, hslot, half_mergeVec_eight, half_mergeVec_eight]
  exact ⟨rfl, rfl⟩

/-- A load that succeeds, by the halves that it leaves. -/
theorem moved_iff {a a' : U64}
    (hrun : ∃ after, c.load.handler H x ctx = .ok () after ∧
      half c.high (H.slotOf after.state ctx.instr 0) = a ∧
      half (!c.high) (H.slotOf after.state ctx.instr 0) = a') :
    (HalfLoaded H x c m ctx ↔ a = m) ∧
      (HalfMoved H x c m ctx ↔
        a = m ∧ a' = half (!c.high) (H.slotOf ctx.state ctx.instr c.kept)) := by
  obtain ⟨after, hok, rfl, rfl⟩ := hrun
  refine ⟨⟨?_, fun h => ⟨after, hok, h⟩⟩, ?_, fun h => ⟨after, hok, h⟩⟩
  · rintro ⟨after', hok', h⟩
    cases hok.symm.trans hok'
    exact h
  · rintro ⟨after', hok', h⟩
    cases hok.symm.trans hok'
    exact h

/-- `MOVHPx` takes its operands from where it has none. -/
theorem legacyHigh_iff {size : FloatSize} (hxmm : H.vectorWidth (ctx.instr.opRegister 0) = 16) :
    (HalfLoaded H x ⟨.legacy, true, size⟩ m ctx ↔ ThirdOperandIs H m ctx) ∧
      (HalfMoved H x ⟨.legacy, true, size⟩ m ctx ↔ ThirdOperandIs H m ctx ∧
        half false (H.slotOf ctx.state ctx.instr 1) =
          half false (H.slotOf ctx.state ctx.instr 0)) := by
  rcases H.readAny_quiet 2 8 ctx with ⟨value, hvalue⟩ | ⟨r, hfault⟩
  · have hthird : ThirdOperandIs H m ctx ↔ half false value = m := by
      refine ⟨?_, fun h => ⟨value, hvalue, h⟩⟩
      rintro ⟨value', hvalue', h⟩
      cases hvalue.symm.trans hvalue'
      exact h
    rw [hthird]
    exact @moved_iff H x ⟨.legacy, true, size⟩ m ctx _ _ (mergeHighMove_halves hxmm hvalue)
  · -- nothing was read, so nothing is loaded
    have hnone : ¬ThirdOperandIs H m ctx := by
      rintro ⟨value, hvalue, _⟩
      cases hfault.symm.trans hvalue
    have herror : (HalfMove.load ⟨.legacy, true, size⟩).handler H x ctx = .error r ctx :=
      bind_error hfault
    refine ⟨iff_of_false ?_ hnone, iff_of_false ?_ fun h => hnone h.1⟩
    · rintro ⟨after, hok, _⟩
      cases herror.symm.trans hok
    · rintro ⟨after, hok, _⟩
      cases herror.symm.trans hok

/-- The AVX forms: one handler for either half. -/
theorem avxHalf_iff {form : HalfForm} (hform : form ≠ .legacy) {high : Bool} {size : FloatSize}
    {bytes : List Byte} (hxmm : H.vectorWidth (ctx.instr.opRegister 0) = 16)
    (hmemory : ctx.instr.opKind (HalfMove.source ⟨form, high, size⟩) = .memory)
    (hread : ctx.memory.read (memoryAddress ctx.state ctx.instr) 8 .dataRead = some bytes) :
    (HalfLoaded H x ⟨form, high, size⟩ (fromBytes bytes) ctx ↔
      HalfMove.LoadsHalf H (fromBytes bytes) ctx ⟨form, high, size⟩) ∧
      (HalfMoved H x ⟨form, high, size⟩ (fromBytes bytes) ctx ↔
        HalfMove.LoadsHalf H (fromBytes bytes) ctx ⟨form, high, size⟩ ∧
        HalfMove.KeepsHalf H (fromBytes bytes) ctx ⟨form, high, size⟩) := by
  have hsource : HalfMove.source ⟨form, high, size⟩ = 2 := if_neg hform
  have hkept : HalfMove.kept ⟨form, high, size⟩ = 1 := if_neg hform
  have hload : (HalfMove.load ⟨form, high, size⟩).handler H x ctx =
      H.mergeHighMove 0 1 2 8 true ctx := by
    cases form with
    | legacy => exact absurd rfl hform
    | vex | evex => cases high <;> rfl
  rw [hsource] at hmemory
  obtain ⟨after, hok, hhigh, hlow⟩ :=
    @mergeHighMove_halves H ctx _ true hxmm (readAny_memory hmemory hread)
  rw [half_read] at hhigh
  -- The merge always fills the high half from memory, whichever half the form names.
  rw [← hload] at hok
  cases high with
  | true =>
    have hmoved := @moved_iff H x ⟨form, true, size⟩ (fromBytes bytes) ctx _ _
      ⟨after, hok, hhigh, hlow⟩
    rw [hkept] at hmoved
    cases form with
    | legacy => exact absurd rfl hform
    | vex | evex =>
      exact ⟨hmoved.1.trans (iff_of_true rfl trivial),
        hmoved.2.trans (iff_of_true ⟨rfl, rfl⟩ ⟨trivial, trivial⟩)⟩
  | false =>
    have hmoved := @moved_iff H x ⟨form, false, size⟩ (fromBytes bytes) ctx _ _
      ⟨after, hok, hlow, hhigh⟩
    rw [hkept] at hmoved
    cases form with
    | legacy => exact absurd rfl hform
    | vex | evex => exact ⟨hmoved.1, hmoved.2.trans (and_congr_right fun _ => eq_comm)⟩

/-- **Which halves a load leaves.** -/
theorem halfMoved_iff {bytes : List Byte} (hoperands : c.LoadOperands H ctx.instr)
    (hread : ctx.memory.read (memoryAddress ctx.state ctx.instr) 8 .dataRead = some bytes) :
    (HalfLoaded H x c (fromBytes bytes) ctx ↔ c.LoadsHalf H (fromBytes bytes) ctx) ∧
      (HalfMoved H x c (fromBytes bytes) ctx ↔
        c.LoadsHalf H (fromBytes bytes) ctx ∧ c.KeepsHalf H (fromBytes bytes) ctx) := by
  obtain ⟨form, high, size⟩ := c
  obtain ⟨hdst, hxmm, hmemory⟩ := hoperands
  have hhalf := half_read bytes
  cases form with
  | legacy =>
    cases high with
    | true => exact legacyHigh_iff hxmm
    | false =>
      obtain ⟨after, hok, hlow, hhigh⟩ := lowMove_halves hdst (readAny_memory hmemory hread)
      have hmoved := @moved_iff H x ⟨.legacy, false, size⟩ (fromBytes bytes) ctx _ _
        ⟨after, hok, hlow.trans hhalf, hhigh⟩
      exact ⟨hmoved.1.trans (iff_of_true rfl trivial),
        hmoved.2.trans (iff_of_true ⟨rfl, rfl⟩ ⟨trivial, trivial⟩)⟩
  | vex => exact avxHalf_iff (by decide) hxmm hmemory hread
  | evex => exact avxHalf_iff (by decide) hxmm hmemory hread

/-! ## Stores -/

/-- The low half survives the mask. -/
theorem half_masked (v : BitVec 512) : half false (v &&& X87Host.vectorMask 8) = half false v := by
  rw [half_eq_iff]
  intro j hj
  show (v &&& X87Host.vectorMask 8).getLsbD (0 + j) = _
  rw [BitVec.getLsbD_and, X87Host.vectorMask_getLsbD _ (by omega),
    decide_eq_true (by omega : 0 + j < 8 * 8), Bool.and_true, half_getLsbD _ _ hj]
  rfl

/-- The high half moved down is the low one. -/
theorem half_shifted (v : BitVec 512) : half false (v >>> 64) = half true v := by
  rw [half_eq_iff]
  intro j hj
  show (v >>> 64).getLsbD (0 + j) = _
  rw [BitVec.getLsbD_ushiftRight, Nat.zero_add, half_getLsbD _ _ hj]
  rfl

/-- Eight bytes of a vector are those of its low half. -/
theorem vectorBytes_eight (value : BitVec 512) :
    vectorBytes value 8 = toBytes (half false value) 8 := by
  unfold vectorBytes toBytes
  apply List.map_congr_left
  intro i hi
  have hbyte := lane_lane 8 value 0 (List.mem_range.mp hi)
  rw [Nat.zero_mul, Nat.zero_add] at hbyte
  exact hbyte.symm

/-- Both stores write a value whose low half is the one to store. -/
theorem store_eq (hoperands : StoreOperands H ctx.instr) : ∃ value : BitVec 512,
    half false value = half c.high (H.slotOf ctx.state ctx.instr 1) ∧
      c.store H ctx = X87Host.writeVectorMemory (value &&& X87Host.vectorMask 8) 8 ctx := by
  have hget : (get : HandlerM ExecutionContext) ctx = .ok ctx ctx := rfl
  have hregister : ¬ctx.instr.opKind 0 = .register := by
    rw [hoperands.memory]
    decide
  have hwrite (value : BitVec 512) : H.writeAny 0 value 8 false ctx =
      X87Host.writeVectorMemory (value &&& X87Host.vectorMask 8) 8 ctx := by
    unfold X87Host.writeAny
    dsimp only
    rw [bind_ok hget, if_neg hregister, if_pos hoperands.memory]
  unfold HalfMove.store
  cases c.high with
  -- The high half is shifted down before it is stored.
  | true =>
    refine ⟨(H.slotOf ctx.state ctx.instr 1 >>> 64) &&& X87Host.vectorMask 8, ?_, ?_⟩
    · rw [half_masked, half_shifted]
    · rw [if_pos rfl]
      unfold X87Host.highLaneToGpr
      rw [bind_ok hget]
      exact hwrite _
  | false =>
    refine ⟨H.slotOf ctx.state ctx.instr 1 &&& X87Host.vectorMask 8, half_masked _, ?_⟩
    have hread : H.readAny 1 8 ctx =
        .ok (H.slotOf ctx.state ctx.instr 1 &&& X87Host.vectorMask 8) ctx := by
      unfold X87Host.readAny
      rw [bind_ok hget, if_pos hoperands.src.1, if_pos hoperands.src.2]
      rfl
    rw [if_neg Bool.false_ne_true]
    unfold X87Host.xmmToGpr
    rw [bind_ok hread]
    exact hwrite _

/-- What a store leaves in plain memory. -/
theorem store_reads (hoperands : StoreOperands H ctx.instr)
    (hplain : ctx.memory.PlainSpan (memoryAddress ctx.state ctx.instr) 8) :
    ∃ stored, c.store H ctx = .ok () stored ∧
      ∃ bytes, stored.memory.read (memoryAddress ctx.state ctx.instr) 8 .dataRead = some bytes ∧
        fromBytes bytes = half c.high (H.slotOf ctx.state ctx.instr 1) := by
  obtain ⟨value, hvalue, hrun⟩ := @store_eq H c ctx hoperands
  obtain ⟨haccepts, hlanded, -⟩ := hplain.stored (by decide) (by decide)
    (half c.high (H.slotOf ctx.state ctx.instr 1))
  have hbytes : vectorBytes (value &&& X87Host.vectorMask 8) 8 =
      toBytes (half c.high (H.slotOf ctx.state ctx.instr 1)) 8 := by
    rw [vectorBytes_eight, half_masked, hvalue]
  refine ⟨{ ctx with
    memory := ctx.memory.stored (memoryAddress ctx.state ctx.instr)
      (half c.high (H.slotOf ctx.state ctx.instr 1)) 8 }, ?_,
    toBytes (half c.high (H.slotOf ctx.state ctx.instr 1)) 8, ?_, ?_⟩
  · unfold Memory.accepts at haccepts
    rw [hrun]
    unfold X87Host.writeVectorMemory Memory.stored
    dsimp only
    rw [hbytes]
    cases hwrite : ctx.memory.write (memoryAddress ctx.state ctx.instr)
      (toBytes (half c.high (H.slotOf ctx.state ctx.instr 1)) 8) .dataWrite with
    | mk memory ok =>
      rw [hwrite] at haccepts
      cases haccepts
      rfl
  · have hsame : Memory.SameAccess ctx.memory (ctx.memory.stored (memoryAddress ctx.state ctx.instr)
        (half c.high (H.slotOf ctx.state ctx.instr 1)) 8) :=
      ctx.memory.stored_sameAccess _ _ (by decide)
    have hafter := hplain.sameAccess hsame
    exact hafter.read (by decide) (toBytes_length _ _) hlanded
  · rw [fromBytes_toBytes_of_le _ (by decide)]
    exact truncate_of_lt (by decide) (half c.high (H.slotOf ctx.state ctx.instr 1)).isLt

/-- **Main result**: a load of either half does what it should exactly when the
half it is given is right and the half it keeps is; and after a store of that
half to plain memory it is back, wherever the load puts it, exactly when the
first of the two holds. -/
theorem half_moves_iff (H : X87Host) (x : EvexFields) (c : HalfMove) {ctx : ExecutionContext}
    {bytes : List Byte} (hoperands : c.LoadOperands H ctx.instr)
    (hread : ctx.memory.read (memoryAddress ctx.state ctx.instr) 8 .dataRead = some bytes) :
    (HalfMoved H x c (fromBytes bytes) ctx ↔
      c.LoadsHalf H (fromBytes bytes) ctx ∧ c.KeepsHalf H (fromBytes bytes) ctx) ∧
    ∀ before : ExecutionContext, StoreOperands H before.instr →
      before.memory.PlainSpan (memoryAddress before.state before.instr) 8 →
      memoryAddress before.state before.instr = memoryAddress ctx.state ctx.instr →
      ∃ stored, c.store H before = .ok () stored ∧
        (stored.memory = ctx.memory →
          (HalfLoaded H x c (half c.high (H.slotOf before.state before.instr 1)) ctx ↔
            c.LoadsHalf H (fromBytes bytes) ctx)) := by
  obtain ⟨hloaded, hmoved⟩ := @halfMoved_iff H x c ctx bytes hoperands hread
  refine ⟨hmoved, fun before hstore hplain haddress => ?_⟩
  obtain ⟨stored, hrun, written, hwritten, hhalf⟩ := @store_reads H c before hstore hplain
  refine ⟨stored, hrun, fun hmemory => ?_⟩
  rw [haddress, hmemory, hread] at hwritten
  rw [← hhalf, ← Option.some.inj hwritten]
  exact hloaded

end

/-! ## Zeros over ones -/

/-- `VMOVxPS XMM0, XMM1, [mem]`: the registers have ones, memory zeros. -/
def halfContext : ExecutionContext :=
  let plain := imageContext { vectors := fun _ => BitVec.allOnes 512 }
  { plain with
    instr := { plain.instr with
      opKind := fun i => if i = 2 then .memory else .register
      opRegister := fun i => .other (77 + i) } }

/-- The operands of the context. -/
theorem halfContext_operands (high : Bool) :
    HalfMove.LoadOperands vectorHost.toX87Host ⟨.vex, high, .single⟩ halfContext.instr :=
  ⟨⟨rfl, by decide +kernel⟩, by decide +kernel, rfl⟩

/-- Its memory. -/
theorem halfContext_read :
    halfContext.memory.read (memoryAddress halfContext.state halfContext.instr) 8 .dataRead =
      some (List.replicate 8 0#8) := by
  decide +kernel

/-- `VMOVHPS` from memory. -/
theorem half_moves_vmovhps : HalfMoved vectorHost.toX87Host {} ⟨.vex, true, .single⟩
    (fromBytes (List.replicate 8 0#8)) halfContext :=
  (half_moves_iff vectorHost.toX87Host {} ⟨.vex, true, .single⟩ (halfContext_operands true)
    halfContext_read).1.mpr ⟨trivial, trivial⟩

/-- `VMOVLPS` leaves the ones of the first source in the low half. -/
theorem half_moves_vmovlps :
    HalfMove.LoadOperands vectorHost.toX87Host ⟨.vex, false, .single⟩ halfContext.instr ∧
      halfContext.memory.read (memoryAddress halfContext.state halfContext.instr) 8 .dataRead =
        some (List.replicate 8 0#8) ∧
      ¬HalfMoved vectorHost.toX87Host {} ⟨.vex, false, .single⟩
        (fromBytes (List.replicate 8 0#8)) halfContext := by
  refine ⟨halfContext_operands false, halfContext_read, fun h => ?_⟩
  have hhalf := ((halfMoved_iff (halfContext_operands false) halfContext_read).2.mp h).1
  have hones : half false (vectorHost.slotOf halfContext.state halfContext.instr 1) =
      BitVec.allOnes 64 := by
    decide +kernel
  have hzero : half false (vectorHost.slotOf halfContext.state halfContext.instr 1) =
      fromBytes (List.replicate 8 0#8) := hhalf
  rw [hones] at hzero
  exact absurd hzero (by decide)

end Seven
