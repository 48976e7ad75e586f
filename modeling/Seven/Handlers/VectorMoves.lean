import Seven.Handlers.Vector

/-!
# The vector moves

The moves of `simd_mov.cpp` that may write a vector register. Their
`write_vec` has a width of its own: the low bytes of a register can be
written alone. Nothing here looks at a mask register.

> `MoveCode.leaves`: a move leaves its slot merged at `MoveCode.width`, with
> the flag `MoveCode.zeroUpper`.
-/

namespace Seven

open Seven.Lib

/-! ## Operands -/

/-- `operand_width`. -/
def operandWidth (x : EvexFields) (instr : Instruction) (operandIndex : Nat) : Nat :=
  match instr.opKind operandIndex with
  | .register => registerWidth (instr.opRegister operandIndex)
  | .memory => x.memorySize
  | .immediate8 | .immediate8_2nd | .immediate8to16 | .immediate8to32 | .immediate8to64 => 1
  | .immediate16 => 2
  | .immediate32 | .immediate32to64 => 4
  | _ => 8

/-- The bytes that `write_mem` stores. -/
def vectorBytes (value : BitVec 512) (width : Nat) : List Byte :=
  (List.range width).map fun i => lane 8 value i

namespace X87Host

variable (H : X87Host)

/-- The width of a move, by the operand that is a vector. -/
def inferWidth (x : EvexFields) (instr : Instruction) (dst src : Nat) : Nat :=
  if H.IsVectorOperand instr dst then H.vectorWidth (instr.opRegister dst)
  else if H.IsVectorOperand instr src then H.vectorWidth (instr.opRegister src)
  else if operandWidth x instr dst ≠ 0 then operandWidth x instr dst
  else operandWidth x instr src

/-- `read_any`. -/
def readAny (operandIndex width : Nat) : HandlerM (BitVec 512) := do
  let ctx ← get
  if ctx.instr.opKind operandIndex = .register then
    let reg := ctx.instr.opRegister operandIndex
    if H.isVectorRegister reg then return ctx.state.vectors (H.vectorIndex reg) &&& vectorMask width
    else return (readRegister ctx.state reg).setWidth 512 &&& vectorMask width
  else if ctx.instr.opKind operandIndex = .memory then H.readVectorOperand operandIndex width
  else return (immediateValue ctx.instr operandIndex).setWidth 512 &&& vectorMask width

/-- `write_mem`, with the fault of its callers. -/
def writeVectorMemory (value : BitVec 512) (width : Nat) : Handler := fun ctx =>
  let address := memoryAddress ctx.state ctx.instr
  match ctx.memory.write address (vectorBytes value width) .dataWrite with
  | (memory, true) => .ok () { ctx with memory := memory }
  | (memory, false) => memoryFault address { ctx with memory := memory }

/-- `write_any`, with the fault of its callers. -/
def writeAny (operandIndex : Nat) (value : BitVec 512) (width : Nat) (zeroUpper : Bool) :
    Handler := do
  let value := value &&& vectorMask width
  let instr := (← get).instr
  if instr.opKind operandIndex = .register then
    let reg := instr.opRegister operandIndex
    if H.isVectorRegister reg then H.writeVec reg value width zeroUpper
    else modifyState fun s => writeRegister s reg (value.setWidth 64) width
  else if instr.opKind operandIndex = .memory then writeVectorMemory value width
  else operandFault

/-! ## The helpers of the moves -/

/-- A move of the whole width. -/
def fullMove (x : EvexFields) (dst src : Nat) (zeroUpper : Bool) : Handler := do
  let width := H.inferWidth x (← get).instr dst src
  let value ← H.readAny src width
  H.writeAny dst value width zeroUpper

/-- A move of the low bytes. -/
def lowMove (dst src width : Nat) (zeroUpper : Bool) : Handler := do
  let value ← H.readAny src width
  H.writeAny dst value width zeroUpper

/-- A load clears the upper bits, a register move does not. -/
def lowMoveLegacyScalarLoad (dst src width : Nat) : Handler := do
  let instr := (← get).instr
  let value ← H.readAny src width
  H.writeAny dst value width (decide (instr.opKind src = .memory))

/-- The destination at its own width, from what the source and the state
give. -/
def registerMove (dst : Nat) (source : HandlerM (BitVec 512))
    (update : CpuState → Instruction → BitVec 512 → BitVec 512) (zeroUpper : Bool) : Handler := do
  let value ← source
  let ctx ← get
  let reg := ctx.instr.opRegister dst
  H.writeVec reg (update ctx.state ctx.instr value) (H.vectorWidth reg) zeroUpper

/-- `read_vec` of `simd_mov.cpp`, on the register that operand `i` names: the
whole slot. The `read_vec` of the arithmetic (`readVec`) cuts it to the
register's width. -/
def slotOf (s : CpuState) (instr : Instruction) (i : Nat) : BitVec 512 :=
  s.vectors (H.vectorIndex (instr.opRegister i))

/-- A move into the low bytes, the rest from a second register. -/
def mergeLowMove (dst merge src width : Nat) (zeroUpper : Bool) : Handler :=
  H.registerMove dst (H.readAny src width)
    (fun s instr value =>
      (H.slotOf s instr merge &&& ~~~vectorMask width) ||| (value &&& vectorMask width)) zeroUpper

/-- A move into the high half, the low one from a second register. -/
def mergeHighMove (dst merge src width : Nat) (zeroUpper : Bool) : Handler :=
  H.registerMove dst (H.readAny src width)
    (fun s instr value =>
      let shifted := vectorMask width <<< (width * 8)
      (H.slotOf s instr merge &&& ~~~shifted) ||| ((value <<< (width * 8)) &&& shifted)) zeroUpper

/-- A move from a general register or memory. -/
def gprToXmm (dst src width : Nat) : Handler := do
  let value ← H.readAny src width
  H.writeAny dst value width true

/-- `MOVLHPS`. -/
def movlhpsLegacy : Handler :=
  H.registerMove 0 (pure 0#512)
    (fun s instr _ => (H.slotOf s instr 0 &&& vectorMask 8) |||
      ((H.slotOf s instr 1 &&& vectorMask 8) <<< 64)) false

/-- `MOVHLPS`. -/
def movhlpsLegacy : Handler :=
  H.registerMove 0 (pure 0#512)
    (fun s instr _ => (H.slotOf s instr 0 &&& (vectorMask 8 <<< 64)) |||
      ((H.slotOf s instr 1 >>> 64) &&& vectorMask 8)) false

/-- `VMOVLHPS`. -/
def vmovlhps : Handler :=
  H.registerMove 0 (pure 0#512)
    (fun s instr _ => (H.slotOf s instr 1 &&& vectorMask 8) |||
      ((H.slotOf s instr 2 &&& vectorMask 8) <<< 64)) true

/-- `VMOVHLPS`. -/
def vmovhlps : Handler :=
  H.registerMove 0 (pure 0#512)
    (fun s instr _ => ((H.slotOf s instr 2 >>> 64) &&& vectorMask 8) |||
      (((H.slotOf s instr 1 >>> 64) &&& vectorMask 8) <<< 64)) true

end X87Host

/-! ## The codes -/

/-- `SS` and `SD`, or `PS` and `PD`. -/
inductive FloatSize where
  | single | double
deriving DecidableEq, Repr

/-- The element's bytes. -/
def FloatSize.bytes : FloatSize → Nat
  | .single => 4
  | .double => 8

/-- The full moves. -/
inductive MovOp where
  | movaps | movapd | movups | movupd | movdqa | movdqu
deriving DecidableEq, Repr

/-- The full moves under a mask. -/
inductive EvexMovOp where
  | vmovaps | vmovapd | vmovups | vmovupd | vmovdqa32 | vmovdqa64
  | vmovdqu8 | vmovdqu16 | vmovdqu32 | vmovdqu64
deriving DecidableEq, Repr

/-- The bytes of an element, which the mnemonic names. -/
def EvexMovOp.elementBytes : EvexMovOp → Nat
  | .vmovdqu8 => 1
  | .vmovdqu16 => 2
  | .vmovaps | .vmovups | .vmovdqa32 | .vmovdqu32 => 4
  | .vmovapd | .vmovupd | .vmovdqa64 | .vmovdqu64 => 8

/-- The lengths of a VEX instruction. -/
inductive VexLength where
  | xmm | ymm
deriving DecidableEq, Repr

/-- The vector length. -/
def VexLength.length : VexLength → VectorLength
  | .xmm => .xmm
  | .ymm => .ymm

/-- The moves that have a VEX and an EVEX form with one handler each. -/
inductive AvxMove where
  /-- `VMOVSS_XMM_XMM_XMM`, the same with `_0_F11`, and `VMOVSD`. -/
  | scalarMerge (size : FloatSize) (f11 : Bool)
  /-- `VMOVSS_XMM_M32`, `VMOVSD_XMM_M64`. -/
  | scalarLoad (size : FloatSize)
  /-- `VMOVLPS_XMM_XMM_M64`, `VMOVLPD`. -/
  | lowHalf (size : FloatSize)
  /-- `VMOVHPS_XMM_XMM_M64`, `VMOVHPD`. -/
  | highHalf (size : FloatSize)
  | vmovlhps | vmovhlps
  | vmovdXmmRm32 | vmovqXmmRm64
  | vmovqXmmXmmm64 | vmovqXmmm64Xmm
deriving DecidableEq, Repr

/-- The handlers of moves that may write a vector register. `store` is the
form whose register operand is the source, as `MOVAPS_XMMM128_XMM`. -/
inductive MoveCode where
  | mov (op : MovOp) (store : Bool)
  | lddqu | movntdqa
  /-- `MOVSS_XMM_XMMM32`, `MOVSD_XMM_XMMM64`. -/
  | scalarLoad (size : FloatSize)
  /-- `MOVSS_XMMM32_XMM`, `MOVSD_XMMM64_XMM`. -/
  | scalarStore (size : FloatSize)
  /-- `MOVLPS_XMM_M64`, `MOVLPD_XMM_M64`. -/
  | lowHalf (size : FloatSize)
  /-- `MOVHPS_XMM_M64`, `MOVHPD_XMM_M64`. -/
  | highHalf (size : FloatSize)
  | movlhps | movhlps
  | movdXmmRm32 | movqXmmRm64
  | movqXmmXmmm64 | movqXmmm64Xmm
  | vexMov (op : MovOp) (len : VexLength) (store : Bool)
  | vexMovntdqa (len : VexLength)
  | avx (evex : Bool) (c : AvxMove)
  /-- `EVEX_VMOVAPS_XMM_K1Z_XMMM128` and its like. -/
  | evexMov (op : EvexMovOp) (len : VectorLength) (store : Bool)
  | evexMovntdqa (len : VectorLength)
deriving DecidableEq, Repr

section

variable (H : X87Host)

/-- The handler of a move. -/
def AvxMove.handler : AvxMove → Handler
  | .scalarMerge size _ => H.mergeLowMove 0 1 2 size.bytes true
  | .scalarLoad size => H.lowMove 0 1 size.bytes true
  | .lowHalf _ | .highHalf _ => H.mergeHighMove 0 1 2 8 true
  | .vmovlhps => H.vmovlhps
  | .vmovhlps => H.vmovhlps
  | .vmovdXmmRm32 => H.gprToXmm 0 1 4
  | .vmovqXmmRm64 => H.gprToXmm 0 1 8
  | .vmovqXmmXmmm64 | .vmovqXmmm64Xmm => H.lowMove 0 1 8 true

/-- The handler of a move. -/
def MoveCode.handler (x : EvexFields) : MoveCode → Handler
  | .mov _ _ | .lddqu | .movntdqa => H.fullMove x 0 1 false
  | .scalarLoad size => H.lowMoveLegacyScalarLoad 0 1 size.bytes
  | .scalarStore size => H.lowMove 0 1 size.bytes false
  | .lowHalf _ => H.lowMove 0 1 8 false
  -- two operands, of which the handler reads three
  | .highHalf _ => H.mergeHighMove 0 1 2 8 false
  | .movlhps => H.movlhpsLegacy
  | .movhlps => H.movhlpsLegacy
  | .movdXmmRm32 => H.gprToXmm 0 1 4
  | .movqXmmRm64 => H.gprToXmm 0 1 8
  | .movqXmmXmmm64 | .movqXmmm64Xmm => H.lowMove 0 1 8 true
  | .vexMov _ _ _ | .vexMovntdqa _ => H.fullMove x 0 1 true
  | .avx _ c => c.handler H
  | .evexMov _ _ _ | .evexMovntdqa _ => H.fullMove x 0 1 true

end

/-- Legacy SSE, not VEX or EVEX. -/
def MoveCode.legacy : MoveCode → Bool
  | .vexMov _ _ _ | .vexMovntdqa _ | .avx _ _ | .evexMov _ _ _ | .evexMovntdqa _ => false
  | _ => true

/-- The vector length that the code names. -/
def MoveCode.length : MoveCode → VectorLength
  | .vexMov _ len _ | .vexMovntdqa len => len.length
  | .evexMov _ len _ | .evexMovntdqa len => len
  | _ => .xmm

/-! ## What a move leaves -/

namespace X87Host

variable (H : X87Host)

/-- An operand is read without a change. -/
theorem readAny_quiet (operandIndex width : Nat) : Quiet (H.readAny operandIndex width) := by
  refine Quiet.bind Quiet.get fun ctx => ?_
  dsimp only
  split
  next =>
    split
    next => exact Quiet.pure _
    next => exact Quiet.pure _
  next =>
    split
    next => exact H.readVectorOperand_quiet _ _
    next => exact Quiet.pure _

/-- `write_any` to a vector register. -/
theorem writeAny_vector {ctx : ExecutionContext} {i : Nat} (hdst : H.IsVectorOperand ctx.instr i)
    (value : BitVec 512) (width : Nat) (zeroUpper : Bool) :
    H.writeAny i value width zeroUpper ctx =
      H.writeVec (ctx.instr.opRegister i) (value &&& vectorMask width) width zeroUpper ctx := by
  have hget : (get : HandlerM ExecutionContext) ctx = .ok ctx ctx := rfl
  unfold writeAny
  dsimp only
  rw [bind_ok hget, if_pos hdst.1, if_pos hdst.2]

/-- A masked value merges like the value. -/
theorem mergeVec_masked (old value : BitVec 512) (width : Nat) (zeroUpper : Bool) :
    mergeVec old (value &&& vectorMask width) width zeroUpper = mergeVec old value width zeroUpper := by
  have hmask : value &&& vectorMask width &&& vectorMask width = value &&& vectorMask width := by
    rw [BitVec.and_assoc, BitVec.and_self]
  unfold mergeVec
  rw [hmask]

/-- A quiet read, then a write: what it leaves. -/
theorem readThenWrite_leaves {read : HandlerM (BitVec 512)} (hread : Quiet read)
    {ctx ctx' : ExecutionContext} {i width : Nat} {zeroUpper : Bool}
    (hdst : H.IsVectorOperand ctx.instr i)
    (hrun : (read >>= fun value => H.writeAny i value width zeroUpper) ctx = .ok () ctx') :
    ∃ value, read ctx = .ok value ctx ∧
      ctx' = { ctx with
        state := setVector ctx.state (H.vectorIndex (ctx.instr.opRegister i))
          (mergeVec (H.slotOf ctx.state ctx.instr i) value width zeroUpper) } := by
  obtain ⟨value, mid, hvalue, hwrite⟩ := of_bind_ok hrun
  obtain rfl := hread.ok_eq hvalue
  rw [H.writeAny_vector hdst] at hwrite
  unfold writeVec modifyState at hwrite
  cases hwrite
  refine ⟨value, hvalue, ?_⟩
  dsimp only
  rw [mergeVec_masked]
  rfl

/-- What a register move leaves in its destination. -/
theorem registerMove_leaves {source : HandlerM (BitVec 512)} (hsource : Quiet source)
    {update : CpuState → Instruction → BitVec 512 → BitVec 512} {dst : Nat} {zeroUpper : Bool}
    {ctx ctx' : ExecutionContext}
    (hrun : H.registerMove dst source update zeroUpper ctx = .ok () ctx') :
    ∃ value, source ctx = .ok value ctx ∧
      ctx' = { ctx with
        state := setVector ctx.state (H.vectorIndex (ctx.instr.opRegister dst))
          (mergeVec (H.slotOf ctx.state ctx.instr dst) (update ctx.state ctx.instr value)
            (H.vectorWidth (ctx.instr.opRegister dst)) zeroUpper) } := by
  unfold registerMove at hrun
  obtain ⟨value, mid, hvalue, hwrite⟩ := of_bind_ok hrun
  obtain rfl := hsource.ok_eq hvalue
  cases hwrite
  exact ⟨value, hvalue, rfl⟩

/-- The register of operand `i` is merged with some value, at a width it has
room for. -/
def LeavesMerged (ctx ctx' : ExecutionContext) (i : Nat) (zeroUpper : Bool) : Prop :=
  ∃ value width, width ≤ H.vectorWidth (ctx.instr.opRegister i) ∧
    ctx'.state.vectors (H.vectorIndex (ctx.instr.opRegister i)) =
      mergeVec (H.slotOf ctx.state ctx.instr i) value width zeroUpper

/-- A vector register has at least sixteen bytes. -/
theorem le_vectorWidth (reg : Register) : 16 ≤ H.vectorWidth reg := by
  unfold vectorWidth
  dsimp only
  split
  next => decide
  next =>
    split
    next => decide
    next => exact Nat.le_refl 16

/-- A read and a write of the destination. -/
theorem readThenWrite_merged {read : HandlerM (BitVec 512)} (hread : Quiet read)
    {ctx ctx' : ExecutionContext} {i width : Nat} {zeroUpper : Bool}
    (hdst : H.IsVectorOperand ctx.instr i)
    (hwidth : width ≤ H.vectorWidth (ctx.instr.opRegister i))
    (hrun : (read >>= fun value => H.writeAny i value width zeroUpper) ctx = .ok () ctx') :
    H.LeavesMerged ctx ctx' i zeroUpper := by
  obtain ⟨value, _, rfl⟩ := H.readThenWrite_leaves hread hdst hrun
  exact ⟨value, width, hwidth, setVector_self _ _ _⟩

/-- A register move keeps or clears the bits above. -/
theorem registerMove_merged {source : HandlerM (BitVec 512)} (hsource : Quiet source)
    {update : CpuState → Instruction → BitVec 512 → BitVec 512} {dst : Nat} {zeroUpper : Bool}
    {ctx ctx' : ExecutionContext}
    (hrun : H.registerMove dst source update zeroUpper ctx = .ok () ctx') :
    H.LeavesMerged ctx ctx' dst zeroUpper := by
  obtain ⟨value, _, rfl⟩ := H.registerMove_leaves hsource hrun
  exact ⟨_, _, Nat.le_refl _, setVector_self _ _ _⟩

/-- So does a move into the low bytes. -/
theorem mergeLowMove_merged {dst merge src width : Nat} {zeroUpper : Bool}
    {ctx ctx' : ExecutionContext}
    (hrun : H.mergeLowMove dst merge src width zeroUpper ctx = .ok () ctx') :
    H.LeavesMerged ctx ctx' dst zeroUpper := by
  unfold mergeLowMove at hrun
  exact H.registerMove_merged (H.readAny_quiet _ _) hrun

/-- So does a move into the high half. -/
theorem mergeHighMove_merged {dst merge src width : Nat} {zeroUpper : Bool}
    {ctx ctx' : ExecutionContext}
    (hrun : H.mergeHighMove dst merge src width zeroUpper ctx = .ok () ctx') :
    H.LeavesMerged ctx ctx' dst zeroUpper := by
  unfold mergeHighMove at hrun
  exact H.registerMove_merged (H.readAny_quiet _ _) hrun

/-- The moves between halves. -/
theorem halves_merged {ctx ctx' : ExecutionContext} :
    (H.movlhpsLegacy ctx = .ok () ctx' → H.LeavesMerged ctx ctx' 0 false) ∧
      (H.movhlpsLegacy ctx = .ok () ctx' → H.LeavesMerged ctx ctx' 0 false) ∧
      (H.vmovlhps ctx = .ok () ctx' → H.LeavesMerged ctx ctx' 0 true) ∧
      (H.vmovhlps ctx = .ok () ctx' → H.LeavesMerged ctx ctx' 0 true) := by
  unfold movlhpsLegacy movhlpsLegacy vmovlhps vmovhlps
  exact ⟨H.registerMove_merged (Quiet.pure _), H.registerMove_merged (Quiet.pure _),
    H.registerMove_merged (Quiet.pure _), H.registerMove_merged (Quiet.pure _)⟩

/-- So does a move of the low bytes. -/
theorem lowMove_merged {ctx ctx' : ExecutionContext} {dst src width : Nat} {zeroUpper : Bool}
    (hdst : H.IsVectorOperand ctx.instr dst) (hwidth : width ≤ 16)
    (hrun : H.lowMove dst src width zeroUpper ctx = .ok () ctx') :
    H.LeavesMerged ctx ctx' dst zeroUpper := by
  unfold lowMove at hrun
  exact H.readThenWrite_merged (H.readAny_quiet _ _) hdst
    (Nat.le_trans hwidth (H.le_vectorWidth _)) hrun

/-- So does a move from a general register. -/
theorem gprToXmm_merged {ctx ctx' : ExecutionContext} {dst src width : Nat}
    (hdst : H.IsVectorOperand ctx.instr dst) (hwidth : width ≤ 16)
    (hrun : H.gprToXmm dst src width ctx = .ok () ctx') : H.LeavesMerged ctx ctx' dst true := by
  unfold gprToXmm at hrun
  exact H.readThenWrite_merged (H.readAny_quiet _ _) hdst
    (Nat.le_trans hwidth (H.le_vectorWidth _)) hrun

/-- So does a scalar load. -/
theorem lowMoveLegacyScalarLoad_merged {ctx ctx' : ExecutionContext} {dst src width : Nat}
    (hdst : H.IsVectorOperand ctx.instr dst) (hwidth : width ≤ 16)
    (hrun : H.lowMoveLegacyScalarLoad dst src width ctx = .ok () ctx') :
    H.LeavesMerged ctx ctx' dst (decide (ctx.instr.opKind src = .memory)) := by
  have hget : (get : HandlerM ExecutionContext) ctx = .ok ctx ctx := rfl
  unfold lowMoveLegacyScalarLoad at hrun
  rw [bind_ok hget] at hrun
  exact H.readThenWrite_merged (H.readAny_quiet _ _) hdst
    (Nat.le_trans hwidth (H.le_vectorWidth _)) hrun

/-- The width of a vector destination. -/
theorem inferWidth_vector {x : EvexFields} {instr : Instruction} {dst : Nat}
    (hdst : H.IsVectorOperand instr dst) (src : Nat) :
    H.inferWidth x instr dst src = H.vectorWidth (instr.opRegister dst) := if_pos hdst

/-- A full move to a vector is its width's. -/
theorem fullMove_run {x : EvexFields} {ctx : ExecutionContext} {dst : Nat}
    (hdst : H.IsVectorOperand ctx.instr dst) (src : Nat) (zeroUpper : Bool) :
    H.fullMove x dst src zeroUpper ctx =
      (H.readAny src (H.vectorWidth (ctx.instr.opRegister dst)) >>= fun value =>
        H.writeAny dst value (H.vectorWidth (ctx.instr.opRegister dst)) zeroUpper) ctx := by
  have hget : (get : HandlerM ExecutionContext) ctx = .ok ctx ctx := rfl
  unfold fullMove
  rw [bind_ok hget, H.inferWidth_vector hdst]

/-- So does a full move. -/
theorem fullMove_merged {x : EvexFields} {ctx ctx' : ExecutionContext} {dst src : Nat}
    {zeroUpper : Bool} (hdst : H.IsVectorOperand ctx.instr dst)
    (hrun : H.fullMove x dst src zeroUpper ctx = .ok () ctx') :
    H.LeavesMerged ctx ctx' dst zeroUpper := by
  rw [H.fullMove_run hdst] at hrun
  exact H.readThenWrite_merged (H.readAny_quiet _ _) hdst (Nat.le_refl _) hrun

end X87Host

namespace MoveCode

variable (H : X87Host)

/-- The flag that the handler passes to `write_vec`. -/
def zeroUpper (instr : Instruction) : MoveCode → Bool
  | .scalarLoad _ => decide (instr.opKind 1 = .memory)
  | .movdXmmRm32 | .movqXmmRm64 | .movqXmmXmmm64 | .movqXmmm64Xmm => true
  | c => !c.legacy

/-- The moves that came with AVX. -/
theorem avx_leaves (c : AvxMove) {ctx ctx' : ExecutionContext}
    (hdst : H.IsVectorOperand ctx.instr 0) (hrun : c.handler H ctx = .ok () ctx') :
    H.LeavesMerged ctx ctx' 0 true := by
  cases c with
  | scalarMerge size f11 => exact H.mergeLowMove_merged hrun
  | scalarLoad size => exact H.lowMove_merged hdst (by cases size <;> decide) hrun
  | lowHalf size => exact H.mergeHighMove_merged hrun
  | highHalf size => exact H.mergeHighMove_merged hrun
  | vmovlhps => exact H.halves_merged.2.2.1 hrun
  | vmovhlps => exact H.halves_merged.2.2.2 hrun
  | vmovdXmmRm32 => exact H.gprToXmm_merged hdst (by decide) hrun
  | vmovqXmmRm64 => exact H.gprToXmm_merged hdst (by decide) hrun
  | vmovqXmmXmmm64 => exact H.lowMove_merged hdst (by decide) hrun
  | vmovqXmmm64Xmm => exact H.lowMove_merged hdst (by decide) hrun

/-- **What a move leaves in a vector register.** -/
theorem leaves (x : EvexFields) (c : MoveCode) {ctx ctx' : ExecutionContext}
    (hdst : H.IsVectorOperand ctx.instr 0) (hrun : c.handler H x ctx = .ok () ctx') :
    H.LeavesMerged ctx ctx' 0 (c.zeroUpper ctx.instr) := by
  -- A load and a store are one handler, which writes its first operand.
  cases c with
  | mov op store => exact H.fullMove_merged hdst hrun
  | lddqu => exact H.fullMove_merged hdst hrun
  | movntdqa => exact H.fullMove_merged hdst hrun
  | scalarLoad size =>
    exact H.lowMoveLegacyScalarLoad_merged hdst (by cases size <;> decide) hrun
  | scalarStore size => exact H.lowMove_merged hdst (by cases size <;> decide) hrun
  | lowHalf size => exact H.lowMove_merged hdst (by decide) hrun
  | highHalf size => exact H.mergeHighMove_merged hrun
  | movlhps => exact H.halves_merged.1 hrun
  | movhlps => exact H.halves_merged.2.1 hrun
  | movdXmmRm32 => exact H.gprToXmm_merged hdst (by decide) hrun
  | movqXmmRm64 => exact H.gprToXmm_merged hdst (by decide) hrun
  | movqXmmXmmm64 => exact H.lowMove_merged hdst (by decide) hrun
  | movqXmmm64Xmm => exact H.lowMove_merged hdst (by decide) hrun
  | vexMov op len store => exact H.fullMove_merged hdst hrun
  | vexMovntdqa len => exact H.fullMove_merged hdst hrun
  | avx evex c => exact avx_leaves H c hdst hrun
  | evexMov op len store => exact H.fullMove_merged hdst hrun
  | evexMovntdqa len => exact H.fullMove_merged hdst hrun

end MoveCode

end Seven
