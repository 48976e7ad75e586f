import Seven.Handlers.FloatLanes
import Seven.Handlers.UpperBits

/-!
# The operand of a square root

`SQRTPS` and its siblings take one operand, the source, and write the
destination. The templates under VEX read the source; the legacy templates,
`packed_unary` and `scalar_unary`, read the destination and never look at
operand 1, so that they also never fault on it.

> `sqrt_iff`: whatever the lane function, the legacy form does what it is to
> do if the source can be read and has the elements of the destination, or if
> a subnormal element stops both.
-/

namespace Seven

open Seven.Lib

/-! ## The forms -/

/-- `SQRTPS`, `SQRTPD` and `SQRTSS`, `SQRTSD`. -/
inductive SqrtForm where
  | packed | scalar
deriving DecidableEq, Repr

namespace SqrtForm

/-- The lanes computed. -/
def count : SqrtForm → FloatSize → Nat
  | .packed, size => 16 / size.bytes
  | .scalar, _ => 1

/-- The bytes of the source. -/
def bytes : SqrtForm → FloatSize → Nat
  | .packed, _ => 16
  | .scalar, size => size.bytes

/-- The legacy code. -/
def legacy : SqrtForm → FloatSize → FloatCode
  | .packed, size => .sqrtPacked size
  | .scalar, size => .sqrtScalar size

/-- The source under VEX; a scalar form has the upper elements before it. -/
def vexSource : SqrtForm → Nat
  | .packed => 1
  | .scalar => 2

/-- The lanes fit the register. -/
theorem count_bytes (form : SqrtForm) (size : FloatSize) : size.bytes * form.count size ≤ 16 := by
  cases form <;> cases size <;> decide

end SqrtForm

/-- What the loop under VEX calculates of the source. -/
def LaneArith.vexSqrtPacked (A : LaneArith) (size : FloatSize) (input : BitVec 512) :
    BitVec 512 × BitVec 32 :=
  laneLoop (16 / size.bytes) input fun i => A.unaryLane size (unpackLane size input i)

/-- `VSQRTPS`, `VSQRTPD` on XMM registers, `VSQRTSS`, `VSQRTSD`. -/
def SqrtForm.vexHandler (F : FloatHost) (A : LaneArith) (size : FloatSize) : SqrtForm → Handler
  | .packed => F.vexPackedUnary (A.vexSqrtPacked size)
  | .scalar => (FloatCode.vexSqrtScalar size).handler (F.withLanes A)

section

variable (F : FloatHost) (A : LaneArith) (form : SqrtForm) (size : FloatSize)

/-- The legacy form. -/
def SqrtForm.handler : Handler := (form.legacy size).handler (F.withLanes A)

/-! ## What is asked of them -/

/-- Element `i` of the destination, before. -/
def FloatHost.oldLane (ctx : ExecutionContext) (i : Nat) : size.Lane :=
  unpackLane size (F.readVec ctx.state (ctx.instr.opRegister 0)) i

/-- Every exception of the roots of `input` is masked. -/
def SqrtForm.RootsMasked (s : CpuState) (input : Nat → size.Lane) : Prop :=
  ∀ i < form.count size, sseExceptionsMasked s (A.unaryLane size (input i)).2 = true

/-- The elements that a run leaves in its destination, if it does not stop. -/
def SqrtForm.outcome (instr : Instruction) :
    EStateM.Result ExecutionResult ExecutionContext Unit → Option (List size.Lane)
  | .ok _ after => some ((List.range (form.count size)).map fun i =>
      lane (8 * size.bytes) (F.slotOf after.state instr 0) i)
  | .error _ _ => none

/-- The form under VEX is given `src`. -/
structure SqrtForm.VexTakes (ctx : ExecutionContext) (src : BitVec 512) : Prop where
  destination : F.IsVectorOperand ctx.instr 0
  length : F.vectorWidth (ctx.instr.opRegister 0) = 16
  upper : form = .scalar → ∃ lhs, F.readVectorOperand 1 16 ctx = .ok lhs ctx
  reads : F.readVectorOperand form.vexSource (form.bytes size) ctx = .ok src ctx

/-- A legacy form that is a function of its source. -/
structure SqrtForm.ReadsSource (ctx : ExecutionContext) : Prop where
  /-- A source that cannot be read is a page fault. -/
  faults : ∀ e, F.readVectorOperand 1 (form.bytes size) ctx = .error e ctx →
    form.handler F A size ctx = .error e ctx
  /-- The elements of the destination are the roots, its other bits are kept. -/
  writes : ∀ src, F.readVectorOperand 1 (form.bytes size) ctx = .ok src ctx →
    form.RootsMasked A size ctx.state (unpackLane size src) →
    ∃ after, form.handler F A size ctx = .ok () after ∧
      (∀ i < form.count size, lane (8 * size.bytes) (F.slotOf after.state ctx.instr 0) i =
        A.sqrt size (unpackLane size src i)) ∧
      ∀ j < 512, 8 * (size.bytes * form.count size) ≤ j →
        (F.slotOf after.state ctx.instr 0).getLsbD j = (F.slotOf ctx.state ctx.instr 0).getLsbD j
  /-- An exception that is not masked stops it. -/
  stops : ∀ src, F.readVectorOperand 1 (form.bytes size) ctx = .ok src ctx →
    ¬form.RootsMasked A size ctx.state (unpackLane size src) →
    ∃ e after, form.handler F A size ctx = .error e after ∧ e.reason = .floatingPointException
  /-- The form under VEX leaves the same, given the same source. -/
  agrees : ∀ src vex, F.readVectorOperand 1 (form.bytes size) ctx = .ok src ctx →
    form.VexTakes F size vex src → vex.state.mxcsr = ctx.state.mxcsr →
    form.outcome F size vex.instr (form.vexHandler F A size vex) =
      form.outcome F size ctx.instr (form.handler F A size ctx)

/-! ## What they do -/

variable {F A form size} {ctx : ExecutionContext}

/-- The loop over the roots of `input`. -/
abbrev SqrtForm.roots (A : LaneArith) (form : SqrtForm) (start : BitVec 512)
    (input : Nat → size.Lane) : BitVec 512 × BitVec 32 :=
  laneLoop (form.count size) start fun i => A.unaryLane size (input i)

/-- All exceptions are masked when each lane's are. -/
theorem SqrtForm.masked_iff (s : CpuState) (start : BitVec 512) (input : Nat → size.Lane) :
    sseExceptionsMasked s (form.roots A start input).2 = true ↔ form.RootsMasked A size s input :=
  sseExceptionsMasked_lanes _ _ _

/-- The legacy form calculates with the destination. -/
theorem SqrtForm.handler_eq (hdst : F.IsVectorOperand ctx.instr 0) :
    form.handler F A size ctx =
      F.reported ctx false (form.roots A (F.readVec ctx.state (ctx.instr.opRegister 0))
        (F.oldLane size ctx)) := by
  have hread : (F.withLanes A).floatOperands (ctx.instr.opRegister 0) (form.legacy size) ctx =
      .ok (F.readVec ctx.state (ctx.instr.opRegister 0), 0#512) ctx := by
    cases form <;> rfl
  have hcompute (mxcsr : BitVec 32) (imm : U64) (input : BitVec 512) :
      (F.withLanes A).compute (form.legacy size) mxcsr imm input 0#512 =
        form.roots A input (unpackLane size input) := by
    cases form <;> rfl
  have hlegacy : (!(form.legacy size).legacy) = false := by
    cases form <;> rfl
  unfold SqrtForm.handler
  rw [FloatCode.handler_eq (F.withLanes A) (form.legacy size) hdst hread, hcompute, hlegacy]
  rfl

/-- The form under VEX calculates with the source. -/
theorem SqrtForm.vexHandler_eq {src : BitVec 512} (h : form.VexTakes F size ctx src) :
    ∃ start, form.vexHandler F A size ctx =
      F.reported ctx true (form.roots A start (unpackLane size src)) := by
  cases form with
  | packed =>
    refine ⟨src, F.vexPackedUnary_eq (A.vexSqrtPacked size) h.destination ?_⟩
    rw [h.length]
    exact h.reads
  -- The scalar form takes its upper elements from the first source.
  | scalar =>
    obtain ⟨lhs, hlhs⟩ := h.upper rfl
    have hupper : F.readVectorOperand 1 (F.vectorWidth (ctx.instr.opRegister 0)) ctx = .ok lhs ctx := by
      rw [h.length]
      exact hlhs
    have hreads : F.readVectorOperand 2 size.bytes ctx = .ok src ctx := h.reads
    have hread : F.vexOperands (ctx.instr.opRegister 0) size.bytes ctx = .ok (lhs, src) ctx := by
      unfold X87Host.vexOperands
      rw [bind_ok hupper, bind_ok hreads]
      rfl
    have hcompute (mxcsr : BitVec 32) (imm : U64) :
        (F.withLanes A).compute (.vexSqrtScalar size) mxcsr imm lhs src =
          SqrtForm.scalar.roots A lhs (unpackLane size src) := rfl
    have hform : SqrtForm.scalar.vexHandler F A size =
        (FloatCode.vexSqrtScalar size).handler (F.withLanes A) := rfl
    refine ⟨lhs, ?_⟩
    rw [hform, FloatCode.handler_eq (F.withLanes A) (.vexSqrtScalar size) h.destination hread,
      hcompute]
    rfl

/-- The elements that the destination has after a run. -/
theorem SqrtForm.outcome_reported (hlength : F.vectorWidth (ctx.instr.opRegister 0) = 16)
    (zeroUpper : Bool) (start : BitVec 512) (input : Nat → size.Lane) :
    form.outcome F size ctx.instr (F.reported ctx zeroUpper (form.roots A start input)) =
      if sseExceptionsMasked ctx.state (form.roots A start input).2 then
        some ((List.range (form.count size)).map fun i => A.sqrt size (input i))
      else none := by
  unfold X87Host.reported
  split
  next =>
    refine congrArg some (List.map_congr_left fun i hi => ?_)
    exact F.lane_vectorWritten _ _ _ hlength (by decide) (form.count_bytes size)
      (List.mem_range.mp hi)
  next => rfl

/-- The bits that a legacy form does not calculate. -/
theorem SqrtForm.kept (hlength : F.vectorWidth (ctx.instr.opRegister 0) = 16)
    (input : Nat → size.Lane) {j : Nat} (hj : j < 512)
    (hhigh : 8 * (size.bytes * form.count size) ≤ j) :
    (F.slotOf (F.vectorWritten ctx false (form.roots A
        (F.readVec ctx.state (ctx.instr.opRegister 0)) input)).state ctx.instr 0).getLsbD j =
      (F.slotOf ctx.state ctx.instr 0).getLsbD j := by
  rw [F.slotOf_vectorWritten, hlength]
  by_cases hlow : j < 8 * 16
  · have hmul : 8 * size.bytes * form.count size = 8 * (size.bytes * form.count size) :=
      Nat.mul_assoc _ _ _
    rw [X87Host.mergeVec_low _ _ _ hj hlow, laneLoop_high hj (by omega)]
    unfold X87Host.readVec
    rw [hlength, BitVec.getLsbD_and, X87Host.vectorMask_getLsbD _ hj, decide_eq_true hlow,
      Bool.and_true]
    rfl
  · rw [X87Host.mergeVec_high _ _ _ hj (by omega)]
    rfl

/-- A source that cannot be read is a page fault. -/
theorem X87Host.readVectorOperand_fault (H : X87Host) {i width : Nat} {e : ExecutionResult}
    (hread : H.readVectorOperand i width ctx = .error e ctx) : e.reason = .pageFault := by
  have hget : (get : HandlerM ExecutionContext) ctx = .ok ctx ctx := rfl
  unfold readVectorOperand at hread
  rw [bind_ok hget] at hread
  -- A register that cannot be read raises a fault without an address, and memory one with it.
  split at hread
  next =>
    dsimp only at hread
    split at hread
    next =>
      cases hread
      rfl
    next => cases hread
  next =>
    split at hread
    next =>
      cases hmem : ctx.memory.read (memoryAddress ctx.state ctx.instr) width .dataRead with
      | some bytes =>
        simp only [hmem] at hread
        cases hread
      | none =>
        simp only [hmem] at hread
        cases hread
        rfl
    next =>
      cases hread
      rfl

/-! ## Subnormal elements -/

variable (form size) in
/-- One of the elements is a subnormal number. -/
def SqrtForm.HasSubnormal (input : Nat → size.Lane) : Prop :=
  ∃ i < form.count size, size.issubnormal (input i) = true

/-- A subnormal element stops every form, if its exception is not masked. -/
theorem SqrtForm.HasSubnormal.stops {input : Nat → size.Lane} (h : form.HasSubnormal size input)
    {s : CpuState} (hunmasked : sseExceptionsMasked s kSseExceptionDenormal = false) :
    ¬form.RootsMasked A size s input := by
  obtain ⟨i, hi, hsub⟩ := h
  intro hmasked
  have hdenormal := ((sseExceptionsMasked_or _ _ _).mp (hmasked i hi)).2
  rw [hsub, Bool.true_or, Bool.true_or, if_pos rfl] at hdenormal
  exact Bool.noConfusion (hdenormal.symm.trans hunmasked)

/-- The smallest normal number. -/
def FloatSize.normal (size : FloatSize) : size.Lane := 1#_ <<< size.fractionBits

/-- A lane function that knows one number. -/
def tellsApart (target : Nat) : LaneArith where
  binary _ _ lhs _ := lhs
  sqrt size x := if x.toNat = target then size.normal else size.normal <<< 1

/-- Its results raise nothing, so that only the operands can. -/
theorem SqrtForm.tellsApart_masked {target : Nat} {s : CpuState} {input : Nat → size.Lane}
    (h : ¬form.RootsMasked (tellsApart target) size s input) :
    form.HasSubnormal size input ∧ sseExceptionsMasked s kSseExceptionDenormal = false := by
  have hnormal (x : size.Lane) : ∀ r, r = (tellsApart target).sqrt size x →
      size.isnan r = false ∧ size.isinf r = false ∧ size.issubnormal r = false := by
    intro r hr
    unfold tellsApart at hr
    dsimp only at hr
    split at hr
    next =>
      rw [hr]
      cases size <;> decide
    next =>
      rw [hr]
      cases size <;> decide
  have hzero : size.issubnormal 0#_ = false := by cases size <;> decide
  have hexceptions (x : size.Lane) : ((tellsApart target).unaryLane size x).2 =
      if size.issubnormal x then kSseExceptionDenormal else 0#32 := by
    obtain ⟨hnan, hinf, hsub⟩ := hnormal x _ rfl
    unfold LaneArith.unaryLane classifyResult
    dsimp only
    rw [hnan, hinf, hsub, hzero, Bool.or_false, Bool.or_false]
    simp only [Bool.false_eq_true, if_false, BitVec.zero_or]
  unfold SqrtForm.RootsMasked at h
  -- The only exception a root of a normal number leaves here is the denormal one.
  push Not at h
  obtain ⟨i, hi, hstop⟩ := h
  rw [hexceptions] at hstop
  by_cases hsub : size.issubnormal (input i) = true
  · rw [if_pos hsub] at hstop
    exact ⟨⟨i, hi, hsub⟩, eq_false_of_ne_true hstop⟩
  · rw [if_neg hsub] at hstop
    exact absurd (sseExceptionsMasked_zero s) hstop

/-! ## When the source does not matter -/

variable (F form size) in
/-- The source can be read, and the destination is as good as the source. -/
def SqrtForm.SourceMatches (ctx : ExecutionContext) : Prop :=
  ∃ src, F.readVectorOperand 1 (form.bytes size) ctx = .ok src ctx ∧
    ((∀ i < form.count size, unpackLane size src i = F.oldLane size ctx i) ∨
      sseExceptionsMasked ctx.state kSseExceptionDenormal = false ∧
        form.HasSubnormal size (unpackLane size src) ∧
        form.HasSubnormal size (F.oldLane size ctx))

/-- Destinations as good as the source give the same roots, or none. -/
theorem SqrtForm.same_roots {src : BitVec 512}
    (h : (∀ i < form.count size, unpackLane size src i = F.oldLane size ctx i) ∨
      sseExceptionsMasked ctx.state kSseExceptionDenormal = false ∧
        form.HasSubnormal size (unpackLane size src) ∧
        form.HasSubnormal size (F.oldLane size ctx)) :
    (form.RootsMasked A size ctx.state (unpackLane size src) ↔
      form.RootsMasked A size ctx.state (F.oldLane size ctx)) ∧
    (form.RootsMasked A size ctx.state (unpackLane size src) → ∀ i < form.count size,
      A.sqrt size (F.oldLane size ctx i) = A.sqrt size (unpackLane size src i)) := by
  rcases h with hsame | ⟨hunmasked, hsource, hold⟩
  · refine ⟨forall₂_congr fun i hi => ?_, fun _ i hi => ?_⟩
    · rw [hsame i hi]
    · rw [hsame i hi]
  · have hstops := hsource.stops (A := A) hunmasked
    exact ⟨iff_of_false hstops (hold.stops hunmasked), fun h => absurd h hstops⟩

/-- The source is read where it matches. -/
theorem SqrtForm.readsSource_of_matches (hdst : F.IsVectorOperand ctx.instr 0)
    (hlength : F.vectorWidth (ctx.instr.opRegister 0) = 16)
    (h : form.SourceMatches F size ctx) (A : LaneArith) : form.ReadsSource F A size ctx := by
  obtain ⟨src, hread, hmatches⟩ := h
  obtain ⟨hmasks, hroots⟩ := form.same_roots (A := A) hmatches
  have hrun := @SqrtForm.handler_eq F A form size ctx hdst
  -- Which exceptions are masked depends on the lanes read, so it agrees where the lanes do.
  have hmasked := form.masked_iff (A := A) ctx.state
    (F.readVec ctx.state (ctx.instr.opRegister 0)) (F.oldLane size ctx)
  refine ⟨fun e herror => ?_, fun src' hread' hsource => ?_, fun src' hread' hsource => ?_,
    fun src' vex hread' htakes hmxcsr => ?_⟩
  · cases hread.symm.trans herror
  · cases hread.symm.trans hread'
    unfold X87Host.reported at hrun
    rw [if_pos (hmasked.mpr (hmasks.mp hsource))] at hrun
    refine ⟨_, hrun, fun i hi => ?_, fun j hj hhigh => form.kept hlength _ hj hhigh⟩
    rw [← hroots hsource i hi]
    exact F.lane_vectorWritten _ _ _ hlength (by decide) (form.count_bytes size) hi
  · cases hread.symm.trans hread'
    unfold X87Host.reported at hrun
    rw [if_neg fun h => hsource (hmasks.mpr (hmasked.mp h))] at hrun
    exact ⟨_, _, hrun, rfl⟩
  · cases hread.symm.trans hread'
    obtain ⟨start, hvex⟩ := form.vexHandler_eq (A := A) htakes
    have hvexMasked : sseExceptionsMasked vex.state (form.roots A start (unpackLane size src)).2 =
        true ↔ form.RootsMasked A size ctx.state (unpackLane size src) := by
      rw [form.masked_iff]
      unfold SqrtForm.RootsMasked sseExceptionsMasked
      rw [hmxcsr]
    rw [hvex, hrun, form.outcome_reported htakes.length, form.outcome_reported hlength]
    -- Both forms write the roots, or both stop on the exception.
    by_cases hsource : form.RootsMasked A size ctx.state (unpackLane size src)
    · rw [if_pos (hvexMasked.mpr hsource), if_pos (hmasked.mpr (hmasks.mp hsource))]
      refine congrArg some (List.map_congr_left fun i hi => ?_)
      exact (hroots hsource i (List.mem_range.mp hi)).symm
    · rw [if_neg fun h => hsource (hvexMasked.mp h), if_neg fun h => hsource (hmasks.mpr (hmasked.mp h))]

/-- A form that writes the roots of the source has the roots of the
destination to write. -/
theorem SqrtForm.ReadsSource.roots_eq (h : form.ReadsSource F A size ctx)
    (hdst : F.IsVectorOperand ctx.instr 0)
    (hlength : F.vectorWidth (ctx.instr.opRegister 0) = 16) {src : BitVec 512}
    (hread : F.readVectorOperand 1 (form.bytes size) ctx = .ok src ctx)
    (hsource : form.RootsMasked A size ctx.state (unpackLane size src)) {i : Nat}
    (hi : i < form.count size) :
    A.sqrt size (unpackLane size src i) = A.sqrt size (F.oldLane size ctx i) := by
  have hrun := @SqrtForm.handler_eq F A form size ctx hdst
  obtain ⟨after, hafter, hlanes, _⟩ := h.writes src hread hsource
  unfold X87Host.reported at hrun
  rw [hafter] at hrun
  split at hrun
  next =>
    cases hrun
    exact (hlanes i hi).symm.trans
      (F.lane_vectorWritten _ _ _ hlength (by decide) (form.count_bytes size) hi)
  next => cases hrun

/-- And matches where it is read. -/
theorem SqrtForm.matches_of_readsSource (hdst : F.IsVectorOperand ctx.instr 0)
    (hlength : F.vectorWidth (ctx.instr.opRegister 0) = 16)
    (h : ∀ A, form.ReadsSource F A size ctx) : form.SourceMatches F size ctx := by
  rcases F.readVectorOperand_quiet 1 (form.bytes size) ctx with ⟨src, hread⟩ | ⟨e, hread⟩
  swap
  · -- the fault is not the one that the legacy form can report
    have hrun := ((h (tellsApart 0)).faults e hread).symm.trans (form.handler_eq hdst)
    unfold X87Host.reported at hrun
    split at hrun
    next => cases hrun
    next =>
      have hreason := F.readVectorOperand_fault hread
      rw [(EStateM.Result.error.inj hrun).1] at hreason
      cases hreason
  refine ⟨src, hread, ?_⟩
  by_contra hnot
  push Not at hnot
  obtain ⟨⟨i, hi, hdiffer⟩, hstopped⟩ := hnot
  -- a lane function that tells the element of the destination from that of the source
  let A := tellsApart (F.oldLane size ctx i).toNat
  by_cases hsource : form.RootsMasked A size ctx.state (unpackLane size src)
  · have hroots := (h A).roots_eq hdst hlength hread hsource hi
    have hold : A.sqrt size (F.oldLane size ctx i) = size.normal := if_pos rfl
    have hnew : A.sqrt size (unpackLane size src i) = size.normal <<< 1 :=
      if_neg fun heq => hdiffer (BitVec.eq_of_toNat_eq heq)
    have hnormal : size.normal <<< 1 = size.normal := hnew.symm.trans (hroots.trans hold)
    cases size <;> exact absurd hnormal (by decide)
  · obtain ⟨hsub, hunmasked⟩ := form.tellsApart_masked hsource
    obtain ⟨e, after, hafter, _⟩ := (h A).stops src hread hsource
    have hrun := @SqrtForm.handler_eq F A form size ctx hdst
    unfold X87Host.reported at hrun
    rw [hafter] at hrun
    split at hrun
    next => cases hrun
    next hstop =>
      have hold := form.tellsApart_masked fun hroots => hstop ((form.masked_iff _ _ _).mpr hroots)
      exact hstopped hunmasked hsub hold.1

/-- **When the legacy square roots are functions of their source**, whatever
the lane function. -/
theorem sqrt_iff (hdst : F.IsVectorOperand ctx.instr 0)
    (hlength : F.vectorWidth (ctx.instr.opRegister 0) = 16) :
    (∀ A, form.ReadsSource F A size ctx) ↔ form.SourceMatches F size ctx :=
  ⟨form.matches_of_readsSource hdst hlength, form.readsSource_of_matches hdst hlength⟩

end

/-! ## `SQRTPS XMM0, XMM1` -/

/-- Equal registers. -/
theorem sqrtps_equal_registers :
    SqrtForm.packed.SourceMatches vectorHost .single (fullVectors (.other 78)) ∧
      ∀ A, SqrtForm.packed.ReadsSource vectorHost A .single (fullVectors (.other 78)) := by
  have hdst : vectorHost.IsVectorOperand (fullVectors (.other 78)).instr 0 := ⟨rfl, by decide⟩
  have hmatches : SqrtForm.packed.SourceMatches vectorHost .single (fullVectors (.other 78)) :=
    ⟨_, rfl, Or.inl (by decide +kernel)⟩
  exact ⟨hmatches, (sqrt_iff hdst (by decide)).mpr hmatches⟩

/-- `XMM0` is full, `XMM1` is empty. -/
def emptySource : ExecutionContext :=
  { fullVectors (.other 78) with
    state := { vectors := fun i => if i = vectorSlot 0 then BitVec.allOnes 512 else 0#512 } }

/-- Each number for its root. -/
def sameLanes : LaneArith where
  binary _ _ lhs _ := lhs
  sqrt _ x := x

/-- The elements of `XMM0` stay. -/
theorem sqrtps_keeps_destination :
    ¬SqrtForm.packed.ReadsSource vectorHost sameLanes .single emptySource := by
  intro h
  have hdst : vectorHost.IsVectorOperand emptySource.instr 0 := ⟨rfl, by decide⟩
  have hmasked : ∀ i < 4, sseExceptionsMasked emptySource.state
      (sameLanes.unaryLane .single (unpackLane .single (0#512 &&& X87Host.vectorMask 16 &&&
        X87Host.vectorMask 16) i)).2 = true := by decide +kernel
  have hroots := h.roots_eq hdst (by decide) rfl hmasked (by decide : 0 < 4)
  exact absurd hroots (by decide +kernel)

end Seven
