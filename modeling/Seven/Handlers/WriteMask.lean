import Seven.Handlers.UpperBits
import Seven.Handlers.X87Landing

/-!
# Write masks

An EVEX instruction with a mask register writes an element when its bit of
the mask is set; otherwise the element becomes zero or stays. The code does
this in `apply_masked_lanes`. The integer handlers call it, the moves and the
packs do not:

> `MaskedCode.masks_iff`: those mask only if every element that the mask
> turns off is already what the mask would have left.

What an instruction computes is what it leaves without a mask.
-/

namespace Seven

open Seven.Lib

/-! ## The codes -/

/-- The forms that call `apply_masked_lanes`. -/
inductive MaskedIntCode where
  | packed (op : PackedOp) (len : VectorLength)
  | bitwise (op : BitwiseOp) (quad : Bool) (len : VectorLength)
  | shiftImm (op : PackedShift) (len : VectorLength)
  | shiftReg (op : PackedShift) (len : VectorLength)
deriving DecidableEq

/-- The forms that do not. -/
inductive UnmaskedCode where
  | move (op : EvexMovOp) (len : VectorLength) (store : Bool)
  /-- `EVEX_VMOVSS_XMM_K1Z_M32`, `EVEX_VMOVSD_XMM_K1Z_M64`. -/
  | scalarLoad (size : FloatSize)
  /-- `EVEX_VMOVSS_XMM_K1Z_XMM_XMM` and its like. -/
  | scalarMerge (size : FloatSize) (f11 : Bool)
  | pack (op : EvexPackOp) (len : VectorLength)
deriving DecidableEq

/-- The handlers whose form has `K1Z`. -/
inductive MaskedCode where
  | int (c : MaskedIntCode)
  | unmasked (c : UnmaskedCode)
deriving DecidableEq

namespace MaskedIntCode

/-- The code. -/
def code : MaskedIntCode → IntCode
  | .packed op len => .evexPacked op len
  | .bitwise op quad len => .evexBitwise op quad len
  | .shiftImm op len => .evexShiftImm op len
  | .shiftReg op len => .evexShiftReg op len

/-- The bytes of an element. -/
def bytes : MaskedIntCode → Nat
  | .packed op _ => op.bytes
  | .bitwise _ quad _ => if quad then 8 else 4
  | .shiftImm op _ | .shiftReg op _ => op.bytes

end MaskedIntCode

namespace UnmaskedCode

/-- The element's bytes. -/
def bytes : UnmaskedCode → Nat
  | .move op _ _ => op.elementBytes
  | .scalarLoad size | .scalarMerge size _ => size.bytes
  | .pack op _ => op.bytes

/-- The vector length. -/
def length : UnmaskedCode → VectorLength
  | .move _ len _ | .pack _ len => len
  | .scalarLoad _ | .scalarMerge _ _ => .xmm

/-- A scalar move has one element. -/
def count (c : UnmaskedCode) : Nat :=
  match c with
  | .scalarLoad _ | .scalarMerge _ _ => 1
  | c => c.length.bytes / c.bytes

/-- The handler. -/
def handler (H : X87Host) (x : EvexFields) : UnmaskedCode → Handler
  | .move op len store => (MoveCode.evexMov op len store).handler H x
  | .scalarLoad size => (MoveCode.avx true (.scalarLoad size)).handler H x
  | .scalarMerge size f11 => (MoveCode.avx true (.scalarMerge size f11)).handler H x
  | .pack op len => (PackCode.evexPack op len).handler H

end UnmaskedCode

namespace MaskedCode

/-- The element's bytes. -/
def bytes : MaskedCode → Nat
  | .int c => c.bytes
  | .unmasked c => c.bytes

/-- The vector length. -/
def length : MaskedCode → VectorLength
  | .int c => c.code.length
  | .unmasked c => c.length

/-- The elements. -/
def count : MaskedCode → Nat
  | .int c => c.code.length.bytes / c.bytes
  | .unmasked c => c.count

variable (H : X87Host)

/-- The handler. -/
def handler (x : EvexFields) : MaskedCode → Handler
  | .int c => c.code.handler H x
  | .unmasked c => c.handler H x

/-! ## What a mask does -/

/-- Element `i` of the register of operand 0. -/
def register (c : MaskedCode) (instr : Instruction) (s : CpuState) (i : Nat) :
    BitVec (8 * c.bytes) :=
  lane (8 * c.bytes) (H.slotOf s instr 0) i

/-- Byte `j` of element `i` of the memory operand. -/
def stored (c : MaskedCode) (ctx : ExecutionContext) (m : Memory) (i j : Nat) : Option Byte :=
  byteAt m.pages (memoryAddress ctx.state ctx.instr + BitVec.ofNat 64 (i * c.bytes + j))

/-- Every element is the computed one, zero, or the old one, as the mask
says; with a mask, memory is only merged. -/
def Masks (x : EvexFields) (c : MaskedCode) (ctx after : ExecutionContext) : Prop :=
  ∃ plain, c.handler H { x with opMask := none } ctx = .ok () plain ∧
    if ctx.instr.opKind 0 = .memory then
      ∀ i < c.count, ∀ j < c.bytes,
        c.stored ctx after.memory i j =
          if x.active ctx.state i then c.stored ctx plain.memory i j
          else c.stored ctx ctx.memory i j
    else
      ∀ i < c.count,
        c.register H ctx.instr after.state i =
          x.select ctx.state i (c.register H ctx.instr plain.state i) 0#(8 * c.bytes)
            (c.register H ctx.instr ctx.state i)

/-- The operands are of the kinds that the code names: a vector register of
its length as destination, or memory, for a store from such a register
without zeroing. -/
def Operands (x : EvexFields) (c : MaskedCode) (instr : Instruction) : Prop :=
  (H.IsVectorOperand instr 0 ∧ H.vectorWidth (instr.opRegister 0) = c.length.bytes) ∨
    (∃ op len, c = .unmasked (.move op len true) ∧ instr.opKind 0 = .memory ∧
      H.IsVectorOperand instr 1 ∧ H.vectorWidth (instr.opRegister 1) = len.bytes ∧
      x.zeroingMasking = false)

end MaskedCode

/-! ## The sources of the others -/

namespace X87Host

variable (H : X87Host)

/-- The value of an operand that can be read. -/
def operandValue (ctx : ExecutionContext) (operandIndex width : Nat) : BitVec 512 :=
  match H.readAny operandIndex width ctx with
  | .ok value _ => value
  | .error _ _ => 0#512

/-- The same through `read_operand`. -/
def vectorOperandValue (ctx : ExecutionContext) (operandIndex width : Nat) : BitVec 512 :=
  match H.readVectorOperand operandIndex width ctx with
  | .ok value _ => value
  | .error _ _ => 0#512

end X87Host

namespace UnmaskedCode

variable (H : X87Host)

/-- Element `i` of the source of a move, or of what a pack makes of its
sources. -/
def element (ctx : ExecutionContext) (i : Nat) : (c : UnmaskedCode) → BitVec (8 * c.bytes)
  | .move op len _ => lane (8 * op.elementBytes) (H.operandValue ctx 1 len.bytes) i
  | .scalarLoad size => lane (8 * size.bytes) (H.operandValue ctx 1 size.bytes) i
  | .scalarMerge size _ => lane (8 * size.bytes) (H.operandValue ctx 2 size.bytes) i
  | .pack op len =>
    op.element (H.vectorOperandValue ctx 1 len.bytes) (H.vectorOperandValue ctx 2 len.bytes)
      (i / (16 / op.bytes) * 16) (i % (16 / op.bytes))

/-- How many bytes of the source a store to memory leaves in the pages. -/
def landed (c : UnmaskedCode) (ctx : ExecutionContext) : Nat :=
  ctx.memory.taken (memoryAddress ctx.state ctx.instr)
    (vectorBytes (H.operandValue ctx 1 c.length.bytes) c.length.bytes)

/-- Every element that is turned off is already what the mask would leave:
the element of the source is zero, or is what the destination holds. -/
def Harmless (x : EvexFields) (c : UnmaskedCode) (ctx : ExecutionContext) : Prop :=
  ∀ i < c.count, x.active ctx.state i = false →
    if ctx.instr.opKind 0 = .memory then
      ∀ j < c.bytes, i * c.bytes + j < c.landed H ctx →
        (MaskedCode.unmasked c).stored ctx ctx.memory i j = some (lane 8 (c.element H ctx i) j)
    else
      c.element H ctx i =
        if x.zeroingMasking then 0#(8 * c.bytes)
        else (MaskedCode.unmasked c).register H ctx.instr ctx.state i

end UnmaskedCode

/-- The integer forms, or nothing that a mask would change. -/
def MaskedCode.Harmless (H : X87Host) (x : EvexFields) (ctx : ExecutionContext) : MaskedCode → Prop
  | .int _ => True
  | .unmasked c => c.Harmless H x ctx

/-! ## The integer forms -/

/-- An element ends in the vector. -/
theorem element_end {size width i : Nat} (hi : i < width / size) : size * (i + 1) ≤ width :=
  Nat.le_trans (Nat.mul_le_mul_left size hi) (Nat.mul_div_le width size)

/-- A lane below the width. -/
theorem lane_mergeVec {size width i : Nat} (old value : BitVec 512) (zeroUpper : Bool)
    (hi : size * (i + 1) ≤ width) (hwidth : width ≤ 64) :
    lane (8 * size) (mergeVec old value width zeroUpper) i = lane (8 * size) value i := by
  have hmul : 8 * size * (i + 1) = 8 * (size * (i + 1)) := Nat.mul_assoc _ _ _
  have hsucc : 8 * size * (i + 1) = 8 * size * i + 8 * size := Nat.mul_succ _ _
  rw [lane_eq_iff]
  intro j hj
  rw [X87Host.mergeVec_low _ _ _ (by omega) (by omega), lane_getLsbD _ _ _ hj]

/-- A lane of a register. -/
theorem lane_readVec {size width i : Nat} (old : BitVec 512) (hi : size * (i + 1) ≤ width)
    (hwidth : width ≤ 64) :
    lane (8 * size) (old &&& X87Host.vectorMask width) i = lane (8 * size) old i := by
  have hmul : 8 * size * (i + 1) = 8 * (size * (i + 1)) := Nat.mul_assoc _ _ _
  have hsucc : 8 * size * (i + 1) = 8 * size * i + 8 * size := Nat.mul_succ _ _
  rw [lane_eq_iff]
  intro j hj
  rw [BitVec.getLsbD_and, X87Host.vectorMask_getLsbD _ (by omega), decide_eq_true (by omega),
    Bool.and_true, lane_getLsbD _ _ _ hj]

namespace X87Host

variable (H : X87Host)

/-- **A form that masks, masks.** -/
theorem toVector_masked {x : EvexFields} {size : Nat} {compute : Register → HandlerM (BitVec 512)}
    (hquiet : ∀ dst, Quiet (compute dst)) {ctx after : ExecutionContext}
    (hdst : H.IsVectorOperand ctx.instr 0) {width : Nat}
    (hlength : H.vectorWidth (ctx.instr.opRegister 0) = width) (hwidth : width ≤ 64)
    (hrun : H.toVector true (H.masked x size compute) ctx = .ok () after) :
    ∃ plain, H.toVector true (H.masked { x with opMask := none } size compute) ctx = .ok () plain ∧
      ∀ i < width / size,
        lane (8 * size) (H.slotOf after.state ctx.instr 0) i =
          x.select ctx.state i (lane (8 * size) (H.slotOf plain.state ctx.instr 0) i) 0#(8 * size)
            (lane (8 * size) (H.slotOf ctx.state ctx.instr 0) i) := by
  have hget : (get : HandlerM ExecutionContext) ctx = .ok ctx ctx := rfl
  have hmasked (x : EvexFields) (dst : Register) : KeepsVectors (H.masked x size compute dst) :=
    .of_quiet (H.masked_quiet (hquiet dst))
  obtain ⟨mid, out, hout, hleft⟩ := H.toVector_leaves (hmasked x) hrun
  -- what is computed, without the mask
  unfold masked at hout
  rw [bind_ok hget] at hout
  obtain ⟨value, mid', hvalue, hreturn⟩ := of_bind_ok hout
  obtain rfl := (hquiet _).ok_eq hvalue
  cases hreturn
  have hunmasked : H.masked { x with opMask := none } size compute (mid.instr.opRegister 0) mid =
      .ok value mid := by
    unfold masked
    rw [bind_ok hget, bind_ok hvalue]
    exact congrArg (EStateM.Result.ok · _)
      (applyMaskedLanes_unmasked (x := { x with opMask := none }) (Or.inl rfl) _ _ _ _ _)
  obtain ⟨plain, hplain⟩ : ∃ plain,
      H.toVector true (H.masked { x with opMask := none } size compute) mid = .ok () plain := by
    unfold toVector
    rw [bind_ok hget]
    dsimp only
    rw [if_pos hdst, bind_ok hunmasked]
    exact ⟨_, rfl⟩
  obtain ⟨mid', out', hout', hleft'⟩ := H.toVector_leaves (hmasked _) hplain
  rw [hunmasked] at hout'
  cases hout'
  refine ⟨plain, hplain, fun i hi => ?_⟩
  have hend := element_end hi
  have hcount : width / size ≤ 64 := Nat.le_trans (Nat.div_le_self _ _) hwidth
  rw [hlength] at hleft hleft'
  unfold slotOf
  rw [hleft, hleft', lane_mergeVec _ _ _ hend hwidth, lane_mergeVec _ _ _ hend hwidth,
    lane_applyMaskedLanes _ _ _ _ hwidth hend hi (by omega)]
  unfold readVec
  rw [hlength, lane_readVec _ hend hwidth]

end X87Host

/-- The integer handlers mask. -/
theorem MaskedIntCode.masks (H : X87Host) (x : EvexFields) (c : MaskedIntCode)
    {ctx after : ExecutionContext} (hoperands : (MaskedCode.int c).Operands H x ctx.instr)
    (hrun : (MaskedCode.int c).handler H x ctx = .ok () after) :
    (MaskedCode.int c).Masks H x ctx after := by
  obtain ⟨hdst, hlength⟩ : H.IsVectorOperand ctx.instr 0 ∧
      H.vectorWidth (ctx.instr.opRegister 0) = c.code.length.bytes := by
    rcases hoperands with hregister | ⟨op, len, hc, _⟩
    · exact hregister
    · cases hc
  have hwidth := c.code.length.bytes_bounds.2
  have hnot : ¬ctx.instr.opKind 0 = .memory := by
    rw [hdst.1]
    exact OpKind.noConfusion
  -- The run without the mask gives the lanes, and the mask selects between them and the old ones.
  obtain ⟨plain, hplain, hlanes⟩ : ∃ plain,
      (MaskedCode.int c).handler H { x with opMask := none } ctx = .ok () plain ∧
        ∀ i < c.code.length.bytes / c.bytes,
          lane (8 * c.bytes) (H.slotOf after.state ctx.instr 0) i =
            x.select ctx.state i (lane (8 * c.bytes) (H.slotOf plain.state ctx.instr 0) i)
              0#(8 * c.bytes) (lane (8 * c.bytes) (H.slotOf ctx.state ctx.instr 0) i) := by
    cases c with
    | packed op len =>
      exact H.toVector_masked (H.vexSources_quiet _ _) hdst hlength hwidth hrun
    | bitwise op quad len =>
      exact H.toVector_masked (H.vexSources_quiet _ _) hdst hlength hwidth hrun
    | shiftImm op len =>
      exact H.toVector_masked (H.shiftImmSource_quiet _ _ _) hdst hlength hwidth hrun
    | shiftReg op len =>
      exact H.toVector_masked (H.shiftRegSource_quiet _ _ _) hdst hlength hwidth hrun
  refine ⟨plain, hplain, ?_⟩
  rw [if_neg hnot]
  exact hlanes

/-! ## The others: registers -/

/-- An element of the rows that a pack makes, one for each 16 bytes. -/
theorem lane_packRows {size : Nat} (hsize : size * (16 / size) = 16) {width i : Nat}
    (hwidth : 16 * (width / 16) = width) (hle : width ≤ 64) (hi : i < width / size)
    (element : Nat → Nat → BitVec (8 * size)) :
    lane (8 * size) (stackLanes 128 (width / 16) fun k => packLanePair size (element k)) i =
      element (i / (16 / size)) (i % (16 / size)) := by
  have hrow : 8 * size * (16 / size) = 128 := by rw [Nat.mul_assoc, hsize]
  have hpos : 0 < 16 / size := by
    rcases Nat.eq_zero_or_pos (16 / size) with hzero | hpos
    · rw [hzero] at hsize
      cases hsize
    · exact hpos
  have hend := element_end hi
  have hsplit := Nat.div_add_mod i (16 / size)
  have hr := Nat.mod_lt i hpos
  generalize i / (16 / size) = q at hsplit ⊢
  generalize i % (16 / size) = r at hsplit hr ⊢
  have hbits : 8 * size * i = 128 * q + 8 * size * r := by
    rw [← hsplit, Nat.mul_add, ← Nat.mul_assoc, hrow]
  have hbelow : 8 * size * (r + 1) ≤ 8 * size * (16 / size) := Nat.mul_le_mul_left _ hr
  rw [hrow, Nat.mul_succ] at hbelow
  have hall : 8 * size * (i + 1) = 8 * (size * (i + 1)) := Nat.mul_assoc _ _ _
  rw [Nat.mul_succ] at hall
  -- a row has no bits beyond its 16 bytes
  have hempty (k j : Nat) (hj : 128 ≤ j) : (packLanePair size (element k)).getLsbD j = false := by
    by_cases hlt : j < 512
    · unfold packLanePair
      rw [updateLanes_high _ _ hlt _ (by omega), BitVec.getLsbD_zero]
    · exact BitVec.getLsbD_of_ge _ _ (by omega)
  have hlane : lane (8 * size) (packLanePair size (element q)) r = element q r := by
    unfold packLanePair
    rw [lane_updateLanes _ _ (by rw [Nat.mul_succ]; omega), if_pos hr, Option.getD_some]
  rw [lane_eq_iff] at hlane ⊢
  intro j hj
  have hplace : 8 * size * i + j = 128 * q + (8 * size * r + j) := by omega
  rw [hplace, stackLanes_getLsbD hempty (by omega) (by omega), decide_eq_true (by omega),
    Bool.true_and, hlane j hj]

namespace X87Host

variable (H : X87Host)

/-- The operand's value. -/
theorem operandValue_eq {ctx ctx' : ExecutionContext} {operandIndex width : Nat} {value : BitVec 512}
    (h : H.readAny operandIndex width ctx = .ok value ctx') :
    H.operandValue ctx operandIndex width = value := by
  unfold operandValue
  rw [h]

/-- The vector operand's value. -/
theorem vectorOperandValue_eq {ctx ctx' : ExecutionContext} {operandIndex width : Nat}
    {value : BitVec 512} (h : H.readVectorOperand operandIndex width ctx = .ok value ctx') :
    H.vectorOperandValue ctx operandIndex width = value := by
  unfold vectorOperandValue
  rw [h]

end X87Host

namespace UnmaskedCode

variable (H : X87Host)

/-- No handler of these looks at the mask register. -/
theorem handler_opMask (x : EvexFields) (c : UnmaskedCode) :
    c.handler H { x with opMask := none } = c.handler H x := by
  cases c <;> rfl

/-- Every element of the destination is written. -/
theorem register_element (x : EvexFields) (c : UnmaskedCode) {ctx after : ExecutionContext}
    (hdst : H.IsVectorOperand ctx.instr 0)
    (hlength : H.vectorWidth (ctx.instr.opRegister 0) = c.length.bytes)
    (hrun : c.handler H x ctx = .ok () after) {i : Nat} (hi : i < c.count) :
    (MaskedCode.unmasked c).register H ctx.instr after.state i = c.element H ctx i := by
  unfold handler at hrun
  cases c with
  | move op len store =>
    have hi : i < len.bytes / op.elementBytes := hi
    have hlength : H.vectorWidth (ctx.instr.opRegister 0) = len.bytes := hlength
    have hmove : H.fullMove x 0 1 true ctx = .ok () after := hrun
    rw [H.fullMove_run hdst, hlength] at hmove
    obtain ⟨value, hvalue, rfl⟩ := H.readThenWrite_leaves (H.readAny_quiet _ _) hdst hmove
    show lane (8 * op.elementBytes) ((setVector _ _ _).vectors _) i =
      lane (8 * op.elementBytes) (H.operandValue ctx 1 len.bytes) i
    rw [X87Host.setVector_self, H.operandValue_eq hvalue]
    exact lane_mergeVec _ _ _ (element_end hi) len.bytes_bounds.2
  | scalarLoad size =>
    have hmove : H.lowMove 0 1 size.bytes true ctx = .ok () after := hrun
    unfold X87Host.lowMove at hmove
    obtain ⟨value, hvalue, rfl⟩ := H.readThenWrite_leaves (H.readAny_quiet _ _) hdst hmove
    obtain rfl : i = 0 := Nat.lt_one_iff.mp hi
    show lane (8 * size.bytes) ((setVector _ _ _).vectors _) 0 =
      lane (8 * size.bytes) (H.operandValue ctx 1 size.bytes) 0
    rw [X87Host.setVector_self, H.operandValue_eq hvalue]
    exact lane_mergeVec _ _ _ (Nat.le_of_eq (Nat.mul_one _)) (by cases size <;> decide)
  | scalarMerge size f11 =>
    have hlength : H.vectorWidth (ctx.instr.opRegister 0) = 16 := hlength
    have hmove : H.mergeLowMove 0 1 2 size.bytes true ctx = .ok () after := hrun
    unfold X87Host.mergeLowMove at hmove
    obtain ⟨value, hvalue, rfl⟩ := H.registerMove_leaves (H.readAny_quiet _ _) hmove
    obtain rfl : i = 0 := Nat.lt_one_iff.mp hi
    have hsize : size.bytes * (0 + 1) ≤ 16 := by cases size <;> decide
    show lane (8 * size.bytes) ((setVector _ _ _).vectors _) 0 =
      lane (8 * size.bytes) (H.operandValue ctx 2 size.bytes) 0
    rw [X87Host.setVector_self, H.operandValue_eq hvalue, hlength,
      lane_mergeVec _ _ _ hsize (by decide)]
    -- what is written is itself a merge, with the source
    exact lane_mergeVec _ _ false (Nat.le_of_eq (Nat.mul_one _)) (by cases size <;> decide)
  | pack op len =>
    have hi : i < len.bytes / op.bytes := hi
    have hlength : H.vectorWidth (ctx.instr.opRegister 0) = len.bytes := hlength
    have hpack : H.toVector true (H.packSources op.bytes fun lhs rhs o k => op.element lhs rhs o k)
        ctx = .ok () after := hrun
    obtain ⟨mid, out, hout, hleft⟩ :=
      H.toVector_leaves (fun dst => .of_quiet (H.packSources_quiet _ _ dst)) hpack
    unfold X87Host.packSources at hout
    obtain ⟨lhs, mid', hlhs, hout⟩ := of_bind_ok hout
    obtain rfl := (H.readVectorOperand_quiet _ _).ok_eq hlhs
    obtain ⟨rhs, mid', hrhs, hout⟩ := of_bind_ok hout
    obtain rfl := (H.readVectorOperand_quiet _ _).ok_eq hrhs
    rw [hlength] at hleft hlhs hrhs hout
    cases hout
    have hwidth : 16 * (len.bytes / 16) = len.bytes := by cases len <;> decide
    have hsize : op.bytes * (16 / op.bytes) = 16 := by cases op <;> decide
    show lane (8 * op.bytes) (after.state.vectors _) i =
      op.element (H.vectorOperandValue _ 1 len.bytes) (H.vectorOperandValue _ 2 len.bytes)
        (i / (16 / op.bytes) * 16) (i % (16 / op.bytes))
    rw [hleft, H.vectorOperandValue_eq hlhs, H.vectorOperandValue_eq hrhs]
    rw [lane_mergeVec _ _ _ (element_end hi) len.bytes_bounds.2]
    exact lane_packRows hsize hwidth len.bytes_bounds.2 hi fun k j => op.element lhs rhs (k * 16) j

end UnmaskedCode

/-! ## The others: memory -/

/-- As many bytes as the width. -/
theorem vectorBytes_length (value : BitVec 512) (width : Nat) :
    (vectorBytes value width).length = width := by
  unfold vectorBytes
  rw [List.length_map, List.length_range]

/-- A byte of the vector. -/
theorem vectorBytes_getElem? (value : BitVec 512) {width i : Nat} (hi : i < width) :
    (vectorBytes value width)[i]? = some (lane 8 value i) := by
  unfold vectorBytes
  rw [List.getElem?_map, List.getElem?_range hi]
  rfl

/-- The bits above the width are not stored. -/
theorem vectorBytes_masked (value : BitVec 512) {width : Nat} (hwidth : width ≤ 64) :
    vectorBytes (value &&& X87Host.vectorMask width) width = vectorBytes value width := by
  unfold vectorBytes
  refine List.map_congr_left fun i hi => ?_
  have hend : 1 * (i + 1) ≤ width := by
    have hlt := List.mem_range.mp hi
    omega
  exact lane_readVec value hend hwidth

namespace X87Host

variable (H : X87Host)

/-- A store of a register, of its own width. -/
theorem fullMove_store {x : EvexFields} {ctx after : ExecutionContext} {width : Nat}
    {zeroUpper : Bool} (hdst : ctx.instr.opKind 0 = .memory) (hsrc : H.IsVectorOperand ctx.instr 1)
    (hlength : H.vectorWidth (ctx.instr.opRegister 1) = width) (hwidth : width ≤ 64)
    (hrun : H.fullMove x 0 1 zeroUpper ctx = .ok () after) :
    after.memory = (ctx.memory.write (memoryAddress ctx.state ctx.instr)
      (vectorBytes (H.operandValue ctx 1 width) width) .dataWrite).1 := by
  have hget : (get : HandlerM ExecutionContext) ctx = .ok ctx ctx := rfl
  have hregister : ¬ctx.instr.opKind 0 = .register := by
    rw [hdst]
    exact OpKind.noConfusion
  have hinfer : H.inferWidth x ctx.instr 0 1 = width := by
    unfold inferWidth
    rw [if_neg (fun h => hregister h.1), if_pos hsrc, hlength]
  unfold fullMove at hrun
  rw [bind_ok hget, hinfer] at hrun
  obtain ⟨value, mid, hvalue, hwrite⟩ := of_bind_ok hrun
  obtain rfl := (H.readAny_quiet _ _).ok_eq hvalue
  rw [H.operandValue_eq hvalue, ← vectorBytes_masked value hwidth]
  unfold writeAny at hwrite
  dsimp only at hwrite
  rw [bind_ok hget, if_neg hregister, if_pos hdst] at hwrite
  -- A write that is refused would have raised a fault.
  unfold writeVectorMemory at hwrite
  dsimp only at hwrite
  split at hwrite
  next memory hmemory =>
    cases hwrite
    rw [hmemory]
  next => cases hwrite

end X87Host

namespace UnmaskedCode

variable (H : X87Host)

/-- Every byte that lands is written. -/
theorem stored_element (x : EvexFields) {op : EvexMovOp} {len : VectorLength}
    {ctx after : ExecutionContext} (hdst : ctx.instr.opKind 0 = .memory)
    (hsrc : H.IsVectorOperand ctx.instr 1)
    (hlength : H.vectorWidth (ctx.instr.opRegister 1) = len.bytes)
    (hrun : (UnmaskedCode.move op len true).handler H x ctx = .ok () after) {i j : Nat}
    (hi : i < len.bytes / op.elementBytes) (hj : j < op.elementBytes) :
    (MaskedCode.unmasked (.move op len true)).stored ctx after.memory i j =
      if i * op.elementBytes + j < (UnmaskedCode.move op len true).landed H ctx then
        some (lane 8 ((UnmaskedCode.move op len true).element H ctx i) j)
      else (MaskedCode.unmasked (.move op len true)).stored ctx ctx.memory i j := by
  have hmove : H.fullMove x 0 1 true ctx = .ok () after := hrun
  have hmemory := H.fullMove_store hdst hsrc hlength len.bytes_bounds.2 hmove
  have hbytes := vectorBytes_length (H.operandValue ctx 1 len.bytes) len.bytes
  have hbounds := len.bytes_bounds
  have hsome : vectorBytes (H.operandValue ctx 1 len.bytes) len.bytes ≠ [] :=
    List.length_pos_iff.mp (by omega)
  obtain ⟨hhit, hframe⟩ :=
    ctx.memory.write_taken (memoryAddress ctx.state ctx.instr) hsome (by omega)
  have hend := element_end hi
  rw [Nat.mul_succ, Nat.mul_comm] at hend
  have hle := ctx.memory.taken_le (memoryAddress ctx.state ctx.instr)
    (vectorBytes (H.operandValue ctx 1 len.bytes) len.bytes)
  show byteAt after.memory.pages (memoryAddress ctx.state ctx.instr +
      BitVec.ofNat 64 (i * op.elementBytes + j)) =
    if i * op.elementBytes + j < ctx.memory.taken (memoryAddress ctx.state ctx.instr)
        (vectorBytes (H.operandValue ctx 1 len.bytes) len.bytes) then
      some (lane 8 (lane (8 * op.elementBytes) (H.operandValue ctx 1 len.bytes) i) j)
    else byteAt ctx.memory.pages (memoryAddress ctx.state ctx.instr +
      BitVec.ofNat 64 (i * op.elementBytes + j))
  -- the byte `j` of element `i` is the byte `i * size + j` of the operand
  rw [hmemory, lane_lane _ _ _ hj]
  split
  next hlanded =>
    rw [hhit _ hlanded, vectorBytes_getElem? _ (by omega)]
  next hnot =>
    refine hframe _ fun k hk => ?_
    exact Memory.offset_ne (n := 64) (by decide) (by omega) (by omega) (by omega)

end UnmaskedCode

/-! ## What that means for masks -/

/-- A lane is what the mask selects. -/
theorem EvexFields.eq_select_iff {α : Type} (x : EvexFields) (s : CpuState) (i : Nat)
    (computed zero old : α) :
    computed = x.select s i computed zero old ↔
      (x.active s i = false → computed = if x.zeroingMasking then zero else old) := by
  unfold EvexFields.select
  by_cases hactive : x.active s i = true
  · rw [if_pos hactive]
    exact iff_of_true rfl fun hoff => absurd (hactive.symm.trans hoff) Bool.noConfusion
  · rw [if_neg hactive]
    rw [Bool.not_eq_true] at hactive
    exact ⟨fun h _ => h, fun h => h hactive⟩

/-- A form that writes every element masks when what it writes where the mask
is off is what the mask would leave. -/
theorem UnmaskedCode.masks_iff_harmless (H : X87Host) (x : EvexFields) (c : UnmaskedCode)
    {ctx after : ExecutionContext} (hoperands : (MaskedCode.unmasked c).Operands H x ctx.instr)
    (hrun : c.handler H x ctx = .ok () after) :
    (MaskedCode.unmasked c).Masks H x ctx after ↔ c.Harmless H x ctx := by
  have hplain : (MaskedCode.unmasked c).handler H { x with opMask := none } ctx = .ok () after :=
    (congrFun (c.handler_opMask H x) ctx).trans hrun
  -- what is left without a mask is what is left
  have hself : (MaskedCode.unmasked c).Masks H x ctx after ↔
      if ctx.instr.opKind 0 = .memory then
        ∀ i < c.count, ∀ j < c.bytes,
          (MaskedCode.unmasked c).stored ctx after.memory i j =
            if x.active ctx.state i then (MaskedCode.unmasked c).stored ctx after.memory i j
            else (MaskedCode.unmasked c).stored ctx ctx.memory i j
      else
        ∀ i < c.count,
          (MaskedCode.unmasked c).register H ctx.instr after.state i =
            x.select ctx.state i ((MaskedCode.unmasked c).register H ctx.instr after.state i)
              0#(8 * c.bytes) ((MaskedCode.unmasked c).register H ctx.instr ctx.state i) := by
    constructor
    · rintro ⟨plain, hrun', hmasks⟩
      rw [hplain] at hrun'
      cases hrun'
      exact hmasks
    · exact fun hmasks => ⟨after, hplain, hmasks⟩
  rw [hself]
  unfold Harmless
  rcases hoperands with ⟨hdst, hlength⟩ | ⟨op, len, hc, hdst, hsrc, hlength, hzeroing⟩
  · have hnot : ¬ctx.instr.opKind 0 = .memory := by
      rw [hdst.1]
      exact OpKind.noConfusion
    rw [if_neg hnot]
    refine forall_congr' fun i => forall_congr' fun hi => ?_
    rw [if_neg hnot, c.register_element H x hdst hlength hrun hi]
    exact x.eq_select_iff _ _ _ _ _
  · cases hc
    rw [if_pos hdst]
    refine forall_congr' fun i => forall_congr' fun hi => ?_
    rw [if_pos hdst]
    by_cases hactive : x.active ctx.state i = true
    · refine iff_of_true (fun j _ => (if_pos hactive).symm) fun hoff => ?_
      exact absurd (hactive.symm.trans hoff) Bool.noConfusion
    · rw [forall_prop_of_true (Bool.not_eq_true _ ▸ hactive)]
      refine forall_congr' fun j => forall_congr' fun hj => ?_
      rw [if_neg hactive, stored_element H x hdst hsrc hlength hrun hi hj]
      -- a byte that does not land stays
      by_cases hlanded : i * op.elementBytes + j < (UnmaskedCode.move op len true).landed H ctx
      · rw [if_pos hlanded]
        exact ⟨fun h _ => h.symm, fun h => (h hlanded).symm⟩
      · rw [if_neg hlanded]
        exact iff_of_true rfl fun h => absurd h hlanded

/-- **Which forms mask, and when the others do.** -/
theorem MaskedCode.masks_iff (H : X87Host) (x : EvexFields) (c : MaskedCode)
    {ctx after : ExecutionContext} (hoperands : c.Operands H x ctx.instr)
    (hrun : c.handler H x ctx = .ok () after) :
    c.Masks H x ctx after ↔ c.Harmless H x ctx := by
  cases c with
  | int c => exact iff_of_true (c.masks H x hoperands hrun) trivial
  | unmasked c => exact c.masks_iff_harmless H x hoperands hrun

/-- `VPADDD XMM0 {K1}, XMM1, XMM1` masks. -/
theorem MaskedCode.vpaddd_masks : ∃ after,
    MaskedCode.handler vectorHost.toX87Host { opMask := some 1 } (.int (.packed .paddd .xmm))
      (fullVectors (.other 78)) = .ok () after ∧
    MaskedCode.Masks vectorHost.toX87Host { opMask := some 1 } (.int (.packed .paddd .xmm))
      (fullVectors (.other 78)) after := by
  obtain ⟨after, hrun⟩ : ∃ after,
      MaskedCode.handler vectorHost.toX87Host { opMask := some 1 } (.int (.packed .paddd .xmm))
        (fullVectors (.other 78)) = .ok () after := ⟨_, rfl⟩
  exact ⟨after, hrun, (MaskedCode.masks_iff _ _ _ (Or.inl ⟨⟨rfl, by decide⟩, by decide⟩) hrun).mpr
    trivial⟩

/-- Only the second register has bits. -/
def oneFull : ExecutionContext :=
  { fullVectors (.other 78) with
    state := { vectors := fun i => if i = vectorSlot 1 then BitVec.allOnes 512 else 0#512 } }

/-- `VMOVDQA32 XMM0 {K1}, XMM1` with nothing in `K1` moves all the same. -/
theorem MaskedCode.vmovdqa32_unmasked : ∃ after,
    MaskedCode.handler vectorHost.toX87Host { opMask := some 1 }
      (.unmasked (.move .vmovdqa32 .xmm false)) oneFull = .ok () after ∧
    MaskedCode.Operands vectorHost.toX87Host { opMask := some 1 }
      (.unmasked (.move .vmovdqa32 .xmm false)) oneFull.instr ∧
    ¬MaskedCode.Masks vectorHost.toX87Host { opMask := some 1 }
      (.unmasked (.move .vmovdqa32 .xmm false)) oneFull after := by
  have hoperands : MaskedCode.Operands vectorHost.toX87Host { opMask := some 1 }
      (.unmasked (.move .vmovdqa32 .xmm false)) oneFull.instr :=
    Or.inl ⟨⟨rfl, by decide⟩, by decide⟩
  obtain ⟨after, hrun⟩ : ∃ after,
      MaskedCode.handler vectorHost.toX87Host { opMask := some 1 }
        (.unmasked (.move .vmovdqa32 .xmm false)) oneFull = .ok () after := ⟨_, rfl⟩
  refine ⟨after, hrun, hoperands, fun hmasks => ?_⟩
  have hharmless := (UnmaskedCode.masks_iff_harmless _ _ _ hoperands hrun).mp hmasks
  -- element 0 is off: it should stay zero, and is all ones
  have hzero := hharmless 0 (by decide) rfl
  rw [if_neg OpKind.noConfusion] at hzero
  have hvalue : vectorHost.toX87Host.operandValue oneFull 1 16 =
      BitVec.allOnes 512 &&& X87Host.vectorMask 16 := X87Host.operandValue_eq _ rfl
  have hones : (UnmaskedCode.element vectorHost.toX87Host oneFull 0
      (.move .vmovdqa32 .xmm false)).getLsbD 0 = true := by
    show (lane 32 (vectorHost.toX87Host.operandValue oneFull 1 16) 0).getLsbD 0 = true
    rw [hvalue, lane_getLsbD _ _ _ (by decide), BitVec.getLsbD_and, BitVec.getLsbD_allOnes,
      X87Host.vectorMask_getLsbD _ (by decide)]
    rfl
  have hold : (MaskedCode.register vectorHost.toX87Host
      (.unmasked (.move .vmovdqa32 .xmm false)) oneFull.instr oneFull.state 0).getLsbD 0 = false := by
    show (lane 32 0#512 0).getLsbD 0 = false
    rw [lane_getLsbD _ _ _ (by decide), BitVec.getLsbD_zero]
  rw [hzero] at hones
  exact Bool.noConfusion (hones.symm.trans hold)

end Seven
