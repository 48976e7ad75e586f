import Seven.Handlers.VectorPack

/-!
# Floating-point arithmetic on vectors

The handlers of `simd_fp.cpp` that write a vector register. Which operands
they read and when they write is modelled; the arithmetic of `float` and
`double` and the exceptions it raises are the host's (`FloatHost`). An
exception that is not masked stops an instruction before it writes.
-/

namespace Seven

open Seven.Lib

/-- The arithmetic of two lanes. -/
inductive FloatOp where
  | add | sub | mul | div | min | max
deriving DecidableEq, Repr

/-- `packed_logic`, by its operation number. -/
inductive LogicOp where
  | and | or | xor | andn
deriving DecidableEq, Repr

/-- The bitwise operations on whole vectors. -/
def LogicOp.compute (op : LogicOp) (lhs rhs : BitVec 512) : BitVec 512 :=
  match op with
  | .and => lhs &&& rhs
  | .or => lhs ||| rhs
  | .xor => lhs ^^^ rhs
  | .andn => ~~~lhs &&& rhs

/-- The forms that calculate with `float` or `double`. -/
inductive FloatCode where
  | packed (op : FloatOp) (size : FloatSize)
  | scalar (op : FloatOp) (size : FloatSize)
  | sqrtPacked (size : FloatSize)
  | sqrtScalar (size : FloatSize)
  | addsub (size : FloatSize)
  /-- `HADDPS`, `HADDPD`, `HSUBPS`, `HSUBPD`. -/
  | horizontal (size : FloatSize) (subtract : Bool)
  | cmppd | cmpsd
  | cvtps2pd | cvtpd2ps | cvtdq2pd | cvtpd2dq | cvttpd2dq
  | cvtss2sd | cvtsd2ss
  /-- `CVTSI2SS`, `CVTSI2SD` of 32 or 64 bits. -/
  | cvtsi (size : FloatSize) (wide : Bool)
  | vexPacked (op : FloatOp) (size : FloatSize) (len : VexLength)
  | vexScalar (op : FloatOp) (size : FloatSize)
  | vexSqrtScalar (size : FloatSize)
deriving DecidableEq, Repr

/-- The encodings without VEX. -/
def FloatCode.legacy : FloatCode → Bool
  | .vexPacked _ _ _ | .vexScalar _ _ | .vexSqrtScalar _ => false
  | _ => true

/-- The vector length. -/
def FloatCode.length : FloatCode → VectorLength
  | .vexPacked _ _ len => len.length
  | _ => .xmm

/-- The arithmetic of the host: MXCSR, the immediate and the operands give
the value and the exceptions. -/
structure FloatHost extends X87Host where
  compute : FloatCode → BitVec 32 → U64 → BitVec 512 → BitVec 512 → BitVec 512 × BitVec 32

namespace X87Host

variable (H : X87Host)

/-- The destination and operand 1. -/
def legacyOperands (dst : Register) (width : Nat) : HandlerM (BitVec 512 × BitVec 512) := do
  let lhs := H.readVec (← get).state dst
  let rhs ← H.readVectorOperand 1 width
  return (lhs, rhs)

/-- Operand 1, without the destination. -/
def convertOperand (width : Nat) : HandlerM (BitVec 512 × BitVec 512) := do
  let src ← H.readVectorOperand 1 width
  return (0#512, src)

/-- Operands 1 and 2. -/
def vexOperands (dst : Register) (width : Nat) : HandlerM (BitVec 512 × BitVec 512) := do
  let lhs ← H.readVectorOperand 1 (H.vectorWidth dst)
  let rhs ← H.readVectorOperand 2 width
  return (lhs, rhs)

/-- What a form reads before it calculates. -/
def floatOperands (dst : Register) : FloatCode → HandlerM (BitVec 512 × BitVec 512)
  | .packed _ _ | .addsub _ | .horizontal _ _ | .cmppd => H.legacyOperands dst (H.vectorWidth dst)
  | .scalar _ size => H.legacyOperands dst size.bytes
  | .cmpsd | .cvtsd2ss => H.legacyOperands dst 8
  | .cvtss2sd => H.legacyOperands dst 4
  -- the square roots are taken of the destination
  | .sqrtPacked _ | .sqrtScalar _ => do
    let input := H.readVec (← get).state dst
    return (input, 0#512)
  | .cvtps2pd | .cvtdq2pd => H.convertOperand 8
  | .cvtpd2ps | .cvtpd2dq | .cvttpd2dq => H.convertOperand 16
  | .cvtsi _ wide => do
    let lhs := H.readVec (← get).state dst
    let src ← readOperandChecked 1 (if wide then 8 else 4)
    return (lhs, src.setWidth 512)
  | .vexPacked _ _ _ => H.vexOperands dst (H.vectorWidth dst)
  | .vexScalar _ size | .vexSqrtScalar size => H.vexOperands dst size.bytes

/-- `packed_logic`. -/
def packedLogic (lhsIndex rhsIndex : Nat) (op : LogicOp) (zeroUpper : Bool) : Handler :=
  H.toVector zeroUpper fun dst => do
    let lhs ← H.readVectorOperand lhsIndex (H.vectorWidth dst)
    let rhs ← H.readVectorOperand rhsIndex (H.vectorWidth dst)
    return op.compute lhs rhs

end X87Host

/-- Calculate, report, write. -/
def FloatCode.handler (F : FloatHost) (c : FloatCode) : Handler :=
  F.toVector (!c.legacy) fun dst => do
    let operands ← F.floatOperands dst c
    let ctx ← get
    let result := F.compute c ctx.state.mxcsr ctx.instr.immediate8 operands.1 operands.2
    if result.2 ≠ 0#32 then sseException result.2
    return result.1

/-! ## What the forms leave -/

/-- A change that is not about the vectors. -/
theorem X87Host.KeepsVectors.modify {f : CpuState → CpuState}
    (hf : ∀ s, (f s).vectors = s.vectors) : X87Host.KeepsVectors (modifyState f) := by
  intro ctx a ctx' hrun
  cases hrun
  exact ⟨hf ctx.state, rfl⟩

/-- An exception is not about the vectors. -/
theorem sseException_keepsVectors (exceptions : BitVec 32) :
    X87Host.KeepsVectors (sseException exceptions) := by
  refine .bind (.modify fun s => rfl) fun _ => .bind (.of_quiet Quiet.get) fun ctx => ?_
  dsimp only
  split
  next => exact .of_quiet (Quiet.pure _)
  next => exact .of_quiet fun c => Or.inr ⟨_, rfl⟩

/-- The operands are read without a change. -/
theorem X87Host.floatOperands_quiet (H : X87Host) (dst : Register) (c : FloatCode) :
    Quiet (H.floatOperands dst c) := by
  have hlegacy (width : Nat) : Quiet (H.legacyOperands dst width) :=
    Quiet.bind Quiet.get fun _ => Quiet.bind (H.readVectorOperand_quiet _ _) fun _ => Quiet.pure _
  have hconvert (width : Nat) : Quiet (H.convertOperand width) :=
    Quiet.bind (H.readVectorOperand_quiet _ _) fun _ => Quiet.pure _
  have hvex (width : Nat) : Quiet (H.vexOperands dst width) :=
    Quiet.bind (H.readVectorOperand_quiet _ _) fun _ =>
      Quiet.bind (H.readVectorOperand_quiet _ _) fun _ => Quiet.pure _
  unfold floatOperands
  -- What is read first differs, and none of it moves the context.
  cases c with
  | packed op size => exact hlegacy _
  | scalar op size => exact hlegacy _
  | sqrtPacked size => exact Quiet.bind Quiet.get fun _ => Quiet.pure _
  | sqrtScalar size => exact Quiet.bind Quiet.get fun _ => Quiet.pure _
  | addsub size => exact hlegacy _
  | horizontal size subtract => exact hlegacy _
  | cmppd => exact hlegacy _
  | cmpsd => exact hlegacy _
  | cvtps2pd => exact hconvert _
  | cvtpd2ps => exact hconvert _
  | cvtdq2pd => exact hconvert _
  | cvtpd2dq => exact hconvert _
  | cvttpd2dq => exact hconvert _
  | cvtss2sd => exact hlegacy _
  | cvtsd2ss => exact hlegacy _
  | cvtsi size wide =>
    exact Quiet.bind Quiet.get fun _ => Quiet.bind (readOperandChecked_quiet _ _) fun _ => Quiet.pure _
  | vexPacked op size len => exact hvex _
  | vexScalar op size => exact hvex _
  | vexSqrtScalar size => exact hvex _

/-- **What floating-point arithmetic leaves.** -/
theorem FloatCode.leaves (F : FloatHost) (c : FloatCode) {ctx ctx' : ExecutionContext}
    (hrun : c.handler F ctx = .ok () ctx') : F.LeavesMerged ctx ctx' 0 (!c.legacy) := by
  refine F.toVector_merged (fun dst => ?_) hrun
  refine .bind (.of_quiet (F.floatOperands_quiet dst c)) fun operands =>
    .bind (.of_quiet Quiet.get) fun mid => ?_
  dsimp only
  split
  next =>
    exact .bind (sseException_keepsVectors _) fun _ => .of_quiet (Quiet.pure _)
  next => exact .of_quiet (Quiet.pure _)

/-- The bitwise operations keep or clear the bits above. -/
theorem X87Host.packedLogic_merged (H : X87Host) {lhsIndex rhsIndex : Nat} {op : LogicOp}
    {zeroUpper : Bool} {ctx ctx' : ExecutionContext}
    (hrun : H.packedLogic lhsIndex rhsIndex op zeroUpper ctx = .ok () ctx') :
    H.LeavesMerged ctx ctx' 0 zeroUpper := by
  unfold packedLogic at hrun
  refine H.toVector_merged (fun dst => .of_quiet ?_) hrun
  exact Quiet.bind (H.readVectorOperand_quiet _ _) fun _ =>
    Quiet.bind (H.readVectorOperand_quiet _ _) fun _ => Quiet.pure _

end Seven
