import Seven.Handlers.X87Codes
import Seven.Lib.Commutes
import Seven.Lib.Lanes

/-!
# Writing a vector register

The vector instructions read their operands, compute a value of 512 bits and
hand it to `write_vec`, with the register, a width and a flag: keep the bits
above the width, or clear them. The flag is an argument of every handler.

> `toVector_leaves`: such a handler leaves in its slot the value below the
> width, and above it what the flag says.

A masked instruction goes through `apply_masked_lanes` first
(`lane_applyMaskedLanes`).
-/

namespace Seven

open Seven.Lib

/-! ## Instructions -/

/-- What the vector handlers read of a decoded instruction beside
`Instruction`. -/
structure EvexFields where
  /-- `op_mask`: no register, or one of K0 to K7. -/
  opMask : Option (Fin 8) := none
  zeroingMasking : Bool := false
  isBroadcast : Bool := false
  /-- The size of the memory operand, of one element under broadcast. -/
  memorySize : Nat := 0

/-- The mask register; `K0` selects all. -/
def readOpmask (s : CpuState) (opMask : Option (Fin 8)) : U64 :=
  opMask.elim (BitVec.allOnes 64) fun k => if k = 0 then BitVec.allOnes 64 else s.opmask k

/-- No mask register, or K0. -/
def EvexFields.Unmasked (x : EvexFields) : Prop := x.opMask = none ∨ x.opMask = some 0

instance (x : EvexFields) : Decidable x.Unmasked :=
  inferInstanceAs (Decidable (x.opMask = none ∨ x.opMask = some 0))

/-- Is the element `i` written? -/
def EvexFields.active (x : EvexFields) (s : CpuState) (i : Nat) : Bool :=
  (readOpmask s x.opMask).getLsbD i

/-- XMM, YMM, ZMM. -/
inductive VectorLength where
  | xmm | ymm | zmm
deriving DecidableEq, Repr

/-- The vector's bytes. -/
def VectorLength.bytes : VectorLength → Nat
  | .xmm => 16
  | .ymm => 32
  | .zmm => 64

/-- Sixteen to sixty-four. -/
theorem VectorLength.bytes_bounds (len : VectorLength) : 16 ≤ len.bytes ∧ len.bytes ≤ 64 := by
  cases len <;> decide

/-- A slot after `write_vec`. -/
def mergeVec (old value : BitVec 512) (width : Nat) (zeroUpper : Bool) : BitVec 512 :=
  if zeroUpper then value &&& X87Host.vectorMask width
  else (old &&& ~~~X87Host.vectorMask width) ||| (value &&& X87Host.vectorMask width)

/-- `apply_masked_lanes`, for elements of `size` bytes. -/
def applyMaskedLanes (x : EvexFields) (s : CpuState) (size width : Nat)
    (original computed : BitVec 512) : BitVec 512 :=
  if x.Unmasked then computed
  else
    updateLanes size (width / size)
      (fun k =>
        if x.active s k then some (loadLane size computed (k * size))
        else if x.zeroingMasking then some 0#(8 * size)
        else none)
      (original &&& X87Host.vectorMask width)

/-! ## Registers and operands -/

namespace X87Host

variable (H : X87Host)

/-- `read_vec`. -/
def readVec (s : CpuState) (reg : Register) : BitVec 512 :=
  s.vectors (H.vectorIndex reg) &&& vectorMask (H.vectorWidth reg)

/-- `write_vec`: the bits above are cleared or kept. -/
def writeVec (reg : Register) (value : BitVec 512) (width : Nat) (zeroUpper : Bool) : Handler :=
  let i := H.vectorIndex reg
  modifyState fun s => setVector s i (mergeVec (s.vectors i) value width zeroUpper)

/-- `read_operand` of the integer handlers: one element of memory stands for
all under broadcast. -/
def readBroadcastOperand (x : EvexFields) (operandIndex width : Nat) : HandlerM (BitVec 512) := do
  let ctx ← get
  if ctx.instr.opKind operandIndex = .memory ∧ x.isBroadcast then
    let element ← H.readVectorOperand operandIndex x.memorySize
    let laneValue := element &&& vectorMask x.memorySize
    return stackLanes (8 * x.memorySize) (width / x.memorySize) fun _ => laneValue
  else H.readVectorOperand operandIndex width

/-- Is operand `i` a vector register? -/
def IsVectorOperand (instr : Instruction) (i : Nat) : Prop :=
  instr.opKind i = .register ∧ H.isVectorRegister (instr.opRegister i) = true

instance (instr : Instruction) (i : Nat) : Decidable (H.IsVectorOperand instr i) :=
  inferInstanceAs (Decidable (_ ∧ _))

/-- Operand 0 has to be a vector register; `compute` gives the value from
it. -/
def toVector (zeroUpper : Bool) (compute : Register → HandlerM (BitVec 512)) : Handler := do
  let instr := (← get).instr
  if H.IsVectorOperand instr 0 then
    let dst := instr.opRegister 0
    let out ← compute dst
    H.writeVec dst out (H.vectorWidth dst) zeroUpper
  else operandFault

/-- The value that `compute` gives, under the mask of the instruction. -/
def masked (x : EvexFields) (size : Nat) (compute : Register → HandlerM (BitVec 512))
    (dst : Register) : HandlerM (BitVec 512) := do
  let s := (← get).state
  let original := H.readVec s dst
  let out ← compute dst
  return applyMaskedLanes x s size (H.vectorWidth dst) original out

/-! ## What a write leaves -/

/-- A bit of the mask of a width. -/
theorem vectorMask_getLsbD (width : Nat) {j : Nat} (hj : j < 512) :
    (vectorMask width).getLsbD j = decide (j < 8 * width) := by
  unfold vectorMask
  by_cases hwide : width ≥ 64
  · rw [if_pos hwide, BitVec.getLsbD_allOnes, decide_eq_true hj, decide_eq_true (by omega)]
  · rw [if_neg hwide, lowMask_getLsbD (by omega), Nat.mul_comm]

/-- Below the width there is the new value. -/
theorem mergeVec_low (old value : BitVec 512) {width : Nat} (zeroUpper : Bool) {j : Nat}
    (hj : j < 512) (hlow : j < 8 * width) :
    (mergeVec old value width zeroUpper).getLsbD j = value.getLsbD j := by
  unfold mergeVec
  cases zeroUpper <;>
    simp only [Bool.false_eq_true, if_true, if_false, BitVec.getLsbD_or, BitVec.getLsbD_and,
      BitVec.getLsbD_not, vectorMask_getLsbD width hj, decide_eq_true hj, decide_eq_true hlow,
      Bool.not_true, Bool.and_false, Bool.and_true, Bool.false_or]

/-- Above it zero, or the old value. -/
theorem mergeVec_high (old value : BitVec 512) {width : Nat} (zeroUpper : Bool) {j : Nat}
    (hj : j < 512) (hhigh : 8 * width ≤ j) :
    (mergeVec old value width zeroUpper).getLsbD j = (!zeroUpper && old.getLsbD j) := by
  have hmask : decide (j < 8 * width) = false := decide_eq_false (by omega)
  unfold mergeVec
  cases zeroUpper <;>
    simp only [Bool.false_eq_true, if_true, if_false, BitVec.getLsbD_or, BitVec.getLsbD_and,
      BitVec.getLsbD_not, vectorMask_getLsbD width hj, decide_eq_true hj, hmask, Bool.not_true,
      Bool.not_false, Bool.and_false, Bool.and_true, Bool.or_false, Bool.true_and, Bool.false_and]

/-- A register reads back. -/
theorem setVector_self (s : CpuState) (i : Fin 32) (value : BitVec 512) :
    (setVector s i value).vectors i = value := if_pos rfl

/-- A computation that leaves the vector registers alone when it succeeds. -/
def KeepsVectors {α : Type} (h : HandlerM α) : Prop :=
  ∀ ctx a ctx', h ctx = .ok a ctx' →
    ctx'.state.vectors = ctx.state.vectors ∧ ctx'.instr = ctx.instr

/-- What changes nothing keeps the vectors. -/
theorem KeepsVectors.of_quiet {α : Type} {h : HandlerM α} (hq : Quiet h) : KeepsVectors h := by
  intro ctx a ctx' hrun
  rcases hq ctx with ⟨b, hb⟩ | ⟨e, he⟩
  · rw [hb] at hrun
    cases hrun
    exact ⟨rfl, rfl⟩
  · rw [he] at hrun
    cases hrun

/-- One after the other. -/
theorem KeepsVectors.bind {α β : Type} {h : HandlerM α} {f : α → HandlerM β}
    (hh : KeepsVectors h) (hf : ∀ a, KeepsVectors (f a)) : KeepsVectors (h >>= f) := by
  intro ctx b ctx' hrun
  obtain ⟨a, mid, hfirst, hsecond⟩ := of_bind_ok hrun
  obtain ⟨hv, hi⟩ := hh ctx a mid hfirst
  obtain ⟨hv', hi'⟩ := hf a mid b ctx' hsecond
  exact ⟨hv'.trans hv, hi'.trans hi⟩

/-- **What a vector handler leaves in its slot.** -/
theorem toVector_leaves {zeroUpper : Bool} {compute : Register → HandlerM (BitVec 512)}
    (hkeeps : ∀ dst, KeepsVectors (compute dst)) {ctx ctx' : ExecutionContext}
    (hrun : H.toVector zeroUpper compute ctx = .ok () ctx') :
    ∃ mid out, compute (ctx.instr.opRegister 0) ctx = .ok out mid ∧
      ctx'.state.vectors (H.vectorIndex (ctx.instr.opRegister 0)) =
        mergeVec (ctx.state.vectors (H.vectorIndex (ctx.instr.opRegister 0))) out
          (H.vectorWidth (ctx.instr.opRegister 0)) zeroUpper := by
  have hget : (get : HandlerM ExecutionContext) ctx = .ok ctx ctx := rfl
  unfold toVector at hrun
  rw [bind_ok hget] at hrun
  by_cases hdst : H.IsVectorOperand ctx.instr 0
  · rw [if_pos hdst] at hrun
    obtain ⟨out, mid, hout, hwrite⟩ := of_bind_ok hrun
    refine ⟨mid, out, hout, ?_⟩
    unfold writeVec modifyState at hwrite
    cases hwrite
    rw [← (hkeeps _ _ _ _ hout).1]
    exact setVector_self _ _ _
  · rw [if_neg hdst] at hrun
    cases hrun

/-! ## Operands are only read -/

/-- The fault of an operand changes nothing. -/
theorem operandFault_quiet {α : Type} : Quiet (operandFault : HandlerM α) := fun ctx =>
  Or.inr ⟨pageFaultAt ctx (memoryAddress ctx.state ctx.instr), rfl⟩

/-- A vector operand is read without a change. -/
theorem readVectorOperand_quiet (operandIndex width : Nat) :
    Quiet (H.readVectorOperand operandIndex width) := by
  refine Quiet.bind Quiet.get fun ctx => ?_
  dsimp only
  split
  next =>
    split
    next => exact operandFault_quiet
    next => exact Quiet.pure _
  next =>
    split
    next =>
      split
      next => exact Quiet.pure _
      next => exact fun c => Or.inr ⟨_, rfl⟩
    next => exact operandFault_quiet

/-- So is a broadcast operand. -/
theorem readBroadcastOperand_quiet (x : EvexFields) (operandIndex width : Nat) :
    Quiet (H.readBroadcastOperand x operandIndex width) := by
  refine Quiet.bind Quiet.get fun ctx => ?_
  split
  next => exact Quiet.bind (H.readVectorOperand_quiet _ _) fun _ => Quiet.pure _
  next => exact H.readVectorOperand_quiet _ _

/-- So is a masked computation. -/
theorem masked_quiet {x : EvexFields} {size : Nat} {compute : Register → HandlerM (BitVec 512)}
    {dst : Register} (hq : Quiet (compute dst)) : Quiet (H.masked x size compute dst) :=
  Quiet.bind Quiet.get fun _ => Quiet.bind hq fun _ => Quiet.pure _

end X87Host

/-! ## Masks -/

/-- Without a mask all lanes are computed. -/
theorem applyMaskedLanes_unmasked {x : EvexFields} (hx : x.Unmasked) (s : CpuState)
    (size width : Nat) (original computed : BitVec 512) :
    applyMaskedLanes x s size width original computed = computed := if_pos hx

/-- Without a mask all lanes are active. -/
theorem EvexFields.active_unmasked {x : EvexFields} (hx : x.Unmasked) (s : CpuState) {i : Nat}
    (hi : i < 64) : x.active s i = true := by
  have hones : readOpmask s x.opMask = BitVec.allOnes 64 := by
    rcases hx with hnone | hzero
    · rw [hnone]
      rfl
    · rw [hzero]
      rfl
  unfold EvexFields.active
  rw [hones, BitVec.getLsbD_allOnes, decide_eq_true hi]

/-- The element that the mask selects. -/
def EvexFields.select {α : Type} (x : EvexFields) (s : CpuState) (i : Nat) (computed zero old : α) :
    α :=
  if x.active s i then computed else if x.zeroingMasking then zero else old

/-- **What a mask does to an element.** -/
theorem lane_applyMaskedLanes (x : EvexFields) (s : CpuState) {size width : Nat}
    (original computed : BitVec 512) (hwidth : width ≤ 64) {i : Nat}
    (hi : size * (i + 1) ≤ width) (hcount : i < width / size) (hlt : i < 64) :
    lane (8 * size) (applyMaskedLanes x s size width original computed) i =
      x.select s i (lane (8 * size) computed i) 0#(8 * size) (lane (8 * size) original i) := by
  have hmul : 8 * size * (i + 1) = 8 * (size * (i + 1)) := Nat.mul_assoc _ _ _
  have hsucc : 8 * size * (i + 1) = 8 * size * i + 8 * size := Nat.mul_succ _ _
  unfold EvexFields.select
  by_cases hx : x.Unmasked
  · rw [applyMaskedLanes_unmasked hx, if_pos (x.active_unmasked hx s hlt)]
  · unfold applyMaskedLanes
    rw [if_neg hx, lane_updateLanes _ _ (by omega), if_pos hcount, loadLane_eq]
    by_cases hactive : x.active s i = true
    · rw [if_pos hactive, if_pos hactive]
      rfl
    · rw [if_neg hactive, if_neg hactive]
      by_cases hzero : x.zeroingMasking = true
      · rw [if_pos hzero, if_pos hzero]
        rfl
      · rw [if_neg hzero, if_neg hzero, Option.getD_none, lane_eq_iff]
        -- the element lies below the width
        intro j hj
        rw [BitVec.getLsbD_and, X87Host.vectorMask_getLsbD _ (by omega), decide_eq_true (by omega),
          Bool.and_true, lane_getLsbD _ _ _ hj]

end Seven
