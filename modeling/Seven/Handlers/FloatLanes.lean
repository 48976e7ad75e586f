import Seven.Handlers.VectorFloat
import Seven.Handlers.WriteMask

/-!
# Lanes of floating-point numbers

`simd_fp.cpp` takes its operands apart into values of `float` and `double`,
calculates with each and packs the results. The arithmetic itself is the
library's (`LaneArith`, bits to bits); which bits are a NaN, an infinity, a
zero or a subnormal number, how two numbers compare, and what exceptions a
result raises are the code's and are modelled here.

> `lane_laneLoop`, `laneLoop_high`: what the loop over the elements leaves.

> `FloatCode.handler_eq`: what a handler does with operands that can be read.
-/

namespace Seven

open Seven.Lib

/-! ## The formats -/

namespace FloatSize

/-- The bits of a number. -/
abbrev Lane (size : FloatSize) : Type := BitVec (8 * size.bytes)

/-- The bits of the fraction. -/
def fractionBits : FloatSize → Nat
  | .single => 23
  | .double => 52

variable (size : FloatSize)

/-- Exponent and fraction, without the sign. -/
def fields (x : size.Lane) : Nat := x.toNat % 2 ^ (8 * size.bytes - 1)

/-- The fields of an infinity: all ones in the exponent. -/
def infinity : Nat := 2 ^ (8 * size.bytes - 1) - 2 ^ size.fractionBits

/-- `isnan` of a lane. -/
def isnan (x : size.Lane) : Bool := decide (size.infinity < size.fields x)

/-- `isinf` of a lane. -/
def isinf (x : size.Lane) : Bool := decide (size.fields x = size.infinity)

/-- Zero of either sign. -/
def iszero (x : size.Lane) : Bool := decide (size.fields x = 0)

/-- Not zero, and below `std::numeric_limits<T>::min()`. -/
def issubnormal (x : size.Lane) : Bool :=
  decide (0 < size.fields x) && decide (size.fields x < 2 ^ size.fractionBits)

/-- The top bit of the fraction tells the NaNs apart. -/
def quietBit : size.Lane := 1#_ <<< (size.fractionBits - 1)

/-- A signaling NaN. -/
def issignaling (x : size.Lane) : Bool := size.isnan x && (x &&& size.quietBit == 0#_)

/-- A number in units of the smallest subnormal; an infinity is what its
exponent would say, beyond every finite number. -/
def units (x : size.Lane) : Int :=
  let exponent := size.fields x / 2 ^ size.fractionBits
  let fraction := size.fields x % 2 ^ size.fractionBits
  let magnitude : Nat :=
    if exponent = 0 then fraction
    else (2 ^ size.fractionBits + fraction) * 2 ^ (exponent - 1)
  if x.msb then -magnitude else magnitude

/-- The unordered relation. -/
def unordered (x y : size.Lane) : Bool := size.isnan x || size.isnan y

/-- `x < y`. -/
def less (x y : size.Lane) : Bool := !size.unordered x y && decide (size.units x < size.units y)

/-- `x == y`. -/
def equal (x y : size.Lane) : Bool := !size.unordered x y && decide (size.units x = size.units y)

end FloatSize

/-! ## Exceptions of a result -/

def kSseExceptionInvalid : BitVec 32 := 0x01#32
def kSseExceptionDenormal : BitVec 32 := 0x02#32
def kSseExceptionOverflow : BitVec 32 := 0x08#32
def kSseExceptionUnderflow : BitVec 32 := 0x10#32
def kSseExceptionPrecision : BitVec 32 := 0x20#32
def kSseExceptionMask : BitVec 32 := 0x3F#32

/-- `classify_result`: what the result itself shows. -/
def classifyResult (size : FloatSize) (result lhs rhs : size.Lane) : BitVec 32 :=
  (if size.isnan result then kSseExceptionInvalid else 0#32) |||
  (if size.isinf result then kSseExceptionOverflow else 0#32) |||
  (if size.issubnormal result then kSseExceptionUnderflow ||| kSseExceptionPrecision else 0#32) |||
  (if size.issubnormal lhs || size.issubnormal rhs || size.issubnormal result
    then kSseExceptionDenormal else 0#32)

/-- The operators of `float` and `double`, `std::fmin`, `std::fmax` and
`std::sqrt`. -/
structure LaneArith where
  binary : FloatOp → (size : FloatSize) → size.Lane → size.Lane → size.Lane
  sqrt : (size : FloatSize) → size.Lane → size.Lane

namespace LaneArith

variable (A : LaneArith)

/-- The precision exception, by the operations that undo the rounding. -/
def precisionFromBinary (size : FloatSize) (lhs rhs result : size.Lane) : BitVec 32 :=
  let sub := A.binary .sub size
  let add := A.binary .add size
  let mul := A.binary .mul size
  let div := A.binary .div size
  let eq := size.equal
  let zero := size.iszero
  if size.isnan result || size.isinf result then 0#32
  else if zero result && !zero lhs && !zero rhs then
    kSseExceptionUnderflow ||| kSseExceptionPrecision
  else if eq (sub result lhs) rhs || eq (sub result rhs) lhs || eq (sub lhs result) rhs ||
      eq (add result rhs) lhs then 0#32
  else if (zero lhs || zero rhs) || eq (div result lhs) rhs || eq (div result rhs) lhs ||
      (!zero rhs && eq (mul result rhs) lhs) || (!zero lhs && eq (mul result lhs) rhs) then 0#32
  else kSseExceptionPrecision

/-- One turn of the loop of a binary operation: the result and its
exceptions. -/
def binaryLane (op : FloatOp) (size : FloatSize) (lhs rhs : size.Lane) : size.Lane × BitVec 32 :=
  let result := A.binary op size lhs rhs
  (result, classifyResult size result lhs rhs ||| A.precisionFromBinary size lhs rhs result)

/-- `SQRTPS` and `SQRTPD`, one lane. -/
def unaryLane (size : FloatSize) (input : size.Lane) : size.Lane × BitVec 32 :=
  let result := A.sqrt size input
  (result, classifyResult size result input 0#_)

end LaneArith

/-! ## The loop -/

/-- The exceptions of `count` elements. -/
def laneExceptions (count : Nat) (f : Nat → BitVec 32) : BitVec 32 :=
  (List.range count).foldl (fun exceptions i => exceptions ||| f i) 0#32

/-- `for (lane = 0; lane < count; ++lane)`: pack the results into `start`,
collect the exceptions. -/
def laneLoop {size : FloatSize} (count : Nat) (start : BitVec 512)
    (element : Nat → size.Lane × BitVec 32) : BitVec 512 × BitVec 32 :=
  (updateLanes size.bytes count (fun i => some (element i).1) start,
    laneExceptions count fun i => (element i).2)

/-- `unpack_lane`, by the number of the element. -/
def unpackLane (size : FloatSize) (value : BitVec 512) (i : Nat) : size.Lane :=
  loadLane size.bytes value (i * size.bytes)

/-- What the templates of one and two operands calculate; a scalar form is
one turn of the loop. -/
def LaneArith.compute (A : LaneArith) (F : FloatHost) :
    FloatCode → BitVec 32 → U64 → BitVec 512 → BitVec 512 → BitVec 512 × BitVec 32
  | .packed op size, _, _, lhs, rhs =>
    laneLoop (16 / size.bytes) lhs fun i =>
      A.binaryLane op size (unpackLane size lhs i) (unpackLane size rhs i)
  | .vexPacked op size len, _, _, lhs, rhs =>
    laneLoop (len.length.bytes / size.bytes) 0#512 fun i =>
      A.binaryLane op size (unpackLane size lhs i) (unpackLane size rhs i)
  | .scalar op size, _, _, lhs, rhs | .vexScalar op size, _, _, lhs, rhs =>
    laneLoop 1 lhs fun i => A.binaryLane op size (unpackLane size lhs i) (unpackLane size rhs i)
  | .sqrtPacked size, _, _, input, _ =>
    laneLoop (16 / size.bytes) input fun i => A.unaryLane size (unpackLane size input i)
  | .sqrtScalar size, _, _, input, _ =>
    laneLoop 1 input fun i => A.unaryLane size (unpackLane size input i)
  | .vexSqrtScalar size, _, _, lhs, rhs =>
    laneLoop 1 lhs fun i => A.unaryLane size (unpackLane size rhs i)
  | c, mxcsr, imm, lhs, rhs => F.compute c mxcsr imm lhs rhs

/-- A host whose arithmetic and square roots are calculated in lanes. -/
def FloatHost.withLanes (F : FloatHost) (A : LaneArith) : FloatHost :=
  { F with compute := A.compute F }

section

variable {size : FloatSize} {count : Nat} {start : BitVec 512}
  {element : Nat → size.Lane × BitVec 32}

/-- An element that the loop visits is its result. -/
theorem lane_laneLoop {i : Nat} (hi : i < count) (hend : 8 * size.bytes * count ≤ 512) :
    lane (8 * size.bytes) (laneLoop count start element).1 i = (element i).1 := by
  have hle : 8 * size.bytes * (i + 1) ≤ 8 * size.bytes * count := Nat.mul_le_mul_left _ hi
  unfold laneLoop
  dsimp only
  rw [lane_updateLanes _ _ (by omega), if_pos hi, Option.getD_some]

/-- The bits behind the last element are those of the start. -/
theorem laneLoop_high {j : Nat} (hj : j < 512) (hhigh : 8 * size.bytes * count ≤ j) :
    (laneLoop count start element).1.getLsbD j = start.getLsbD j :=
  updateLanes_high _ _ hj _ hhigh

end

/-! ## Reporting -/

/-- The sticky bits of the exceptions set. -/
def CpuState.sseRaised (s : CpuState) (exceptions : BitVec 32) : CpuState :=
  { s with mxcsr := s.mxcsr ||| (exceptions &&& 0x3F#32) }

/-- The stop of `sse_exception`. -/
def sseStop (ctx : ExecutionContext) (exceptions : BitVec 32) : ExecutionResult where
  reason := .floatingPointException
  exception := some ⟨.floatingPointException, ctx.state.rip, exceptions⟩
  code := some ctx.instr.code

/-- The masks lie above the sticky bits. -/
theorem sseExceptionsMasked_raised (s : CpuState) (raised exceptions : BitVec 32) :
    sseExceptionsMasked (s.sseRaised raised) exceptions = sseExceptionsMasked s exceptions := by
  have hmasks : (s.sseRaised raised).mxcsr >>> 7 &&& 0x3F#32 = s.mxcsr >>> 7 &&& 0x3F#32 := by
    apply BitVec.eq_of_getLsbD_eq
    intro j hj
    have hsticky : (raised &&& 0x3F#32).getLsbD (7 + j) = false := by
      have hlow : (0x3F#32).getLsbD (7 + j) = false := by
        have hones : (0x3F#32) = (1#32 <<< 6) - 1#32 := rfl
        rw [hones, lowMask_getLsbD (by decide), decide_eq_false (by omega)]
      rw [BitVec.getLsbD_and, hlow, Bool.and_false]
    unfold CpuState.sseRaised
    rw [BitVec.getLsbD_and, BitVec.getLsbD_and, BitVec.getLsbD_ushiftRight,
      BitVec.getLsbD_ushiftRight, BitVec.getLsbD_or, hsticky, Bool.or_false]
  unfold sseExceptionsMasked
  rw [hmasks]

/-- Exceptions are masked together just when each is. -/
theorem sseExceptionsMasked_or (s : CpuState) (a b : BitVec 32) :
    sseExceptionsMasked s (a ||| b) = true ↔
      sseExceptionsMasked s a = true ∧ sseExceptionsMasked s b = true := by
  have hdistrib (m : BitVec 32) : (a ||| b) &&& m = (a &&& m) ||| (b &&& m) := by
    apply BitVec.eq_of_getLsbD_eq
    intro j hj
    simp only [BitVec.getLsbD_and, BitVec.getLsbD_or, Bool.and_or_distrib_right]
  unfold sseExceptionsMasked
  rw [hdistrib, beq_iff_eq, beq_iff_eq, beq_iff_eq]
  exact BitVec.or_eq_zero_iff

/-- No exception is masked. -/
theorem sseExceptionsMasked_zero (s : CpuState) : sseExceptionsMasked s 0#32 = true := by
  unfold sseExceptionsMasked
  rw [BitVec.zero_and]
  rfl

/-- All lanes are masked when each is. -/
theorem sseExceptionsMasked_lanes (s : CpuState) (f : Nat → BitVec 32) : ∀ count : Nat,
    sseExceptionsMasked s (laneExceptions count f) = true ↔
      ∀ i < count, sseExceptionsMasked s (f i) = true := by
  intro count
  induction count with
  | zero => exact iff_of_true (sseExceptionsMasked_zero s) fun i hi => absurd hi (Nat.not_lt_zero i)
  | succ count ih =>
    have hstep : laneExceptions (count + 1) f = laneExceptions count f ||| f count := by
      unfold laneExceptions
      rw [List.range_succ, List.foldl_append]
      rfl
    rw [hstep, sseExceptionsMasked_or, ih]
    constructor
    · rintro ⟨hbefore, hlast⟩ i hi
      rcases Nat.lt_succ_iff_lt_or_eq.mp hi with hlt | rfl
      · exact hbefore i hlt
      · exact hlast
    · exact fun h => ⟨fun i hi => h i (by omega), h count (by omega)⟩

/-- An exception is reported, or the flags of it are left in `MXCSR`. -/
theorem sseException_eq (exceptions : BitVec 32) (ctx : ExecutionContext) :
    sseException exceptions ctx =
      if sseExceptionsMasked ctx.state exceptions then
        .ok () { ctx with state := ctx.state.sseRaised exceptions }
      else .error (sseStop ctx exceptions) { ctx with state := ctx.state.sseRaised exceptions } := by
  have hraise : modifyState (fun s => { s with mxcsr := s.mxcsr ||| (exceptions &&& 0x3F#32) }) ctx =
      .ok () { ctx with state := ctx.state.sseRaised exceptions } := rfl
  have hget (c : ExecutionContext) : (get : HandlerM ExecutionContext) c = .ok c c := rfl
  unfold sseException
  rw [bind_ok hraise, bind_ok (hget _)]
  dsimp only
  rw [sseExceptionsMasked_raised]
  split
  next => rfl
  next => rfl

/-- No exception leaves no trace. -/
theorem CpuState.sseRaised_zero (s : CpuState) : s.sseRaised 0#32 = s := by
  unfold CpuState.sseRaised
  rw [BitVec.zero_and, BitVec.or_zero]

/-- `if (exceptions != 0)` spares nothing but time. -/
theorem sseException_ifAny {α : Type} (exceptions : BitVec 32) (rest : HandlerM α) :
    (if exceptions ≠ 0#32 then sseException exceptions >>= fun _ => rest else rest) =
      (sseException exceptions >>= fun _ => rest) := by
  by_cases hzero : exceptions = 0#32
  · have hquiet : sseException 0#32 = pure () := by
      funext ctx
      rw [sseException_eq, if_pos (sseExceptionsMasked_zero _), CpuState.sseRaised_zero]
      rfl
    rw [if_neg (not_not_intro hzero), hzero, hquiet]
    rfl
  · rw [if_pos hzero]

/-! ## The handlers -/

/-- The context after a vector handler has raised its exceptions and written
its value. -/
def X87Host.vectorWritten (H : X87Host) (ctx : ExecutionContext) (zeroUpper : Bool)
    (result : BitVec 512 × BitVec 32) : ExecutionContext :=
  let dst := ctx.instr.opRegister 0
  let s := ctx.state.sseRaised result.2
  { ctx with
    state := setVector s (H.vectorIndex dst)
      (mergeVec (s.vectors (H.vectorIndex dst)) result.1 (H.vectorWidth dst) zeroUpper) }

/-- The destination behind a write. -/
theorem X87Host.slotOf_vectorWritten (H : X87Host) (ctx : ExecutionContext) (zeroUpper : Bool)
    (result : BitVec 512 × BitVec 32) :
    H.slotOf (H.vectorWritten ctx zeroUpper result).state ctx.instr 0 =
      mergeVec (H.slotOf ctx.state ctx.instr 0) result.1
        (H.vectorWidth (ctx.instr.opRegister 0)) zeroUpper :=
  setVector_self _ _ _

/-- The elements of the destination after a loop. -/
theorem X87Host.lane_vectorWritten (H : X87Host) {ctx : ExecutionContext} (zeroUpper : Bool)
    {size : FloatSize} {count width : Nat} (start : BitVec 512)
    (element : Nat → size.Lane × BitVec 32)
    (hlength : H.vectorWidth (ctx.instr.opRegister 0) = width) (hwidth : width ≤ 64)
    (hcount : size.bytes * count ≤ width) {i : Nat} (hi : i < count) :
    lane (8 * size.bytes) (H.slotOf
        (H.vectorWritten ctx zeroUpper (laneLoop count start element)).state ctx.instr 0) i =
      (element i).1 := by
  have hend : size.bytes * (i + 1) ≤ size.bytes * count := Nat.mul_le_mul_left _ hi
  have hmul : 8 * size.bytes * count = 8 * (size.bytes * count) := Nat.mul_assoc _ _ _
  rw [H.slotOf_vectorWritten, hlength, lane_mergeVec _ _ _ (by omega) hwidth,
    lane_laneLoop hi (by omega)]

/-- The end of every template: report, and write what is not stopped. -/
def X87Host.reported (H : X87Host) (ctx : ExecutionContext) (zeroUpper : Bool)
    (result : BitVec 512 × BitVec 32) : EStateM.Result ExecutionResult ExecutionContext Unit :=
  if sseExceptionsMasked ctx.state result.2 then .ok () (H.vectorWritten ctx zeroUpper result)
  else .error (sseStop ctx result.2) { ctx with state := ctx.state.sseRaised result.2 }

/-- A handler whose exceptions are masked has written its result. -/
theorem X87Host.toVector_reported (H : X87Host) {zeroUpper : Bool} {ctx : ExecutionContext}
    (hdst : H.IsVectorOperand ctx.instr 0) {compute : Register → HandlerM (BitVec 512)}
    (result : BitVec 512 × BitVec 32)
    (hcompute : compute (ctx.instr.opRegister 0) ctx =
      (sseException result.2 >>= fun _ => pure result.1) ctx) :
    H.toVector zeroUpper compute ctx = H.reported ctx zeroUpper result := by
  have hget : (get : HandlerM ExecutionContext) ctx = .ok ctx ctx := rfl
  have hraise := sseException_eq result.2 ctx
  unfold toVector reported
  rw [bind_ok hget]
  dsimp only
  rw [if_pos hdst]
  by_cases hmasked : sseExceptionsMasked ctx.state result.2 = true
  · rw [if_pos hmasked] at hraise ⊢
    rw [bind_ok (hcompute.trans (bind_ok hraise))]
    rfl
  · rw [if_neg hmasked] at hraise ⊢
    rw [bind_error (hcompute.trans (bind_error hraise))]

/-- **What a handler does** with operands that can be read. -/
theorem FloatCode.handler_eq (F : FloatHost) (c : FloatCode) {ctx : ExecutionContext}
    {operands : BitVec 512 × BitVec 512} (hdst : F.IsVectorOperand ctx.instr 0)
    (hread : F.floatOperands (ctx.instr.opRegister 0) c ctx = .ok operands ctx) :
    c.handler F ctx = F.reported ctx (!c.legacy)
      (F.compute c ctx.state.mxcsr ctx.instr.immediate8 operands.1 operands.2) := by
  have hget : (get : HandlerM ExecutionContext) ctx = .ok ctx ctx := rfl
  refine F.toVector_reported hdst _ ?_
  rw [bind_ok hread, bind_ok hget]
  exact congrFun (sseException_ifAny _ _) ctx

/-- `vex_packed_unary`: no form of it is in the dispatch table. -/
def X87Host.vexPackedUnary (H : X87Host) (calculate : BitVec 512 → BitVec 512 × BitVec 32) :
    Handler :=
  H.toVector true fun dst => do
    let input ← H.readVectorOperand 1 (H.vectorWidth dst)
    let result := calculate input
    if result.2 ≠ 0#32 then sseException result.2
    return result.1

/-- A packed operation of one source. -/
theorem X87Host.vexPackedUnary_eq (H : X87Host)
    (calculate : BitVec 512 → BitVec 512 × BitVec 32) {ctx : ExecutionContext} {src : BitVec 512}
    (hdst : H.IsVectorOperand ctx.instr 0)
    (hread : H.readVectorOperand 1 (H.vectorWidth (ctx.instr.opRegister 0)) ctx = .ok src ctx) :
    H.vexPackedUnary calculate ctx = H.reported ctx true (calculate src) := by
  refine H.toVector_reported hdst _ ?_
  rw [bind_ok hread]
  exact congrFun (sseException_ifAny _ _) ctx

end Seven
