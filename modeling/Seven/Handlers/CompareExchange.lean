import Seven.Handlers.Multiply

/-!
# `CMPXCHG`

The handlers set the flags with a formula of their own, on sign-extended
operands. It is `set_sub_flags` of the accumulator and the destination, flag
for flag, so `CMPXCHG` leaves the flags that `CMP` leaves
(`setCmpxchgFlags_eq`).

The exchange itself reads everything before it writes. What the accumulator
holds afterwards depends on whether it is the destination: `CMPXCHG EAX, ECX`
always finds its operands equal and stores the source where the accumulator
is.
-/

namespace Seven

open Seven.Lib

/-! ## The flags -/

/-- Two flags may be set in either order. -/
theorem setFlag_comm {bit bit' : U64} (h : bit &&& bit' = 0#64) (rflags : U64) (x y : Bool) :
    setFlag (setFlag rflags bit x) bit' y = setFlag (setFlag rflags bit' y) bit x := by
  apply BitVec.eq_of_getElem_eq
  intro i hi
  have hbit : (bit &&& bit')[i] = false := by rw [h]; exact BitVec.getElem_zero hi
  rw [BitVec.getElem_and] at hbit
  unfold setFlag
  cases x <;> cases y <;>
    simp only [if_true, Bool.false_eq_true, if_false, BitVec.getElem_or, BitVec.getElem_and,
      BitVec.getElem_not] <;>
    revert hbit <;> cases rflags[i] <;> cases bit[i] <;> cases bit'[i] <;> decide

section

variable {w : Nat} (h0 : 0 < w) (hw : w ≤ 8)

include h0 hw

/-- The sign of an extended operand is its bit of that weight. -/
theorem signExtend_msb {v : U64} (hv : v.toNat < 2 ^ (8 * w)) :
    (signExtend v w).msb = flagSet v (signBitForWidth w) := by
  rw [flagSet_msb v h0 hw, BitVec.msb_eq_getLsbD_last, getLsbD_signExtend h0 hw hv (by decide)]
  by_cases h8 : w = 8
  · subst h8
    rfl
  · rw [if_neg (by omega)]

omit h0 in
/-- A masked value fits the width. -/
theorem and_maskForWidth_lt (v : U64) : (v &&& maskForWidth w).toNat < 2 ^ (8 * w) := by
  rw [and_maskForWidth_toNat v hw]
  exact Nat.mod_lt _ (Nat.two_pow_pos _)

omit h0 in
/-- The masked difference of masked operands. -/
theorem masked_difference (a b : U64) :
    (a &&& maskForWidth w) - (b &&& maskForWidth w) &&& maskForWidth w =
      (a - b) &&& maskForWidth w := by
  have hcut : ∀ v, unsignedAt w (v &&& maskForWidth w) = unsignedAt w v := unsignedAt_truncate hw
  apply BitVec.eq_of_toNat_eq
  rw [mask_toNat_eq_unsignedAt _ hw, mask_toNat_eq_unsignedAt _ hw, unsignedAt_sub _ _ hw,
    unsignedAt_sub _ _ hw, hcut, hcut]

/-- **The two formulas agree.** -/
theorem setCmpxchgFlags_eq (rflags : U64) {acc dst : U64} (hacc : acc.toNat < 2 ^ (8 * w))
    (hdst : dst.toNat < 2 ^ (8 * w)) :
    setCmpxchgFlags rflags acc dst w (decide (dst = acc)) =
      setSubFlags rflags acc dst (acc - dst) w false := by
  have hres := and_maskForWidth_lt hw (acc - dst)
  have hzero : decide (dst = acc) = ((acc - dst) &&& maskForWidth w == 0#64) := by
    have hequal := setSubFlags_equal hw rflags acc dst false
    rw [setSubFlags_zero hw] at hequal
    rw [Bool.eq_iff_iff, decide_eq_true_iff, beq_iff_eq, ← BitVec.toNat_inj, ← BitVec.toNat_inj,
      mask_toNat_eq_unsignedAt _ hw]
    have hiff := decide_eq_decide.mp hequal
    rw [unsignedAt_of_lt hacc, unsignedAt_of_lt hdst] at hiff
    show _ ↔ unsignedAt w (acc - dst) = 0
    rw [hiff, eq_comm]
  -- signs differ, and the result has not the minuend's: in either spelling
  have hoverflow : ∀ a b r : Bool, ((!a && b && r) || (a && !b && !r)) = ((a ^^ b) && (a ^^ r)) := by
    decide
  have hbits : ∀ v : U64, flagSet v (signBitForWidth w) = v.getLsbD (8 * w - 1) :=
    fun v => flagSet_msb v h0 hw
  unfold setCmpxchgFlags setSubFlags setResultFlags
  dsimp only
  rw [masked_difference hw, mask_eq_self hw hacc, mask_eq_self hw hdst, signExtend_msb h0 hw hacc,
    signExtend_msb h0 hw hdst, signExtend_msb h0 hw hres, hoverflow, hzero]
  have hof : flagSet ((acc ^^^ dst) &&& (acc ^^^ (acc - dst &&& maskForWidth w)))
      (signBitForWidth w) = ((flagSet acc (signBitForWidth w) ^^ flagSet dst (signBitForWidth w)) &&
        (flagSet acc (signBitForWidth w) ^^
          flagSet (acc - dst &&& maskForWidth w) (signBitForWidth w))) := by
    simp only [hbits, BitVec.getLsbD_and, BitVec.getLsbD_xor]
  rw [hof, setFlag_comm (by decide : kFlagPF &&& kFlagAF = 0#64),
    setFlag_comm (by decide : kFlagZF &&& kFlagAF = 0#64),
    setFlag_comm (by decide : kFlagPF &&& kFlagSF = 0#64)]
  simp

end

/-! ## The exchange -/

/-- What the decoder promises of the source: a general register of the width. -/
def SourceRegister (instr : Instruction) (width : RmWidth) : Prop :=
  (instr.opRegister 1).General ∧ registerWidth (instr.opRegister 1) = width.bytes

/-- The destination of `ctx` holds `value` in `ctx'`, its address being the
one the operand had before. -/
def DestinationHolds (width : RmWidth) (ctx ctx' : ExecutionContext) (value : U64) : Prop :=
  (ctx.instr.opKind 0 = .register →
    readRegister ctx'.state (ctx.instr.opRegister 0) = value) ∧
  (ctx.instr.opKind 0 = .memory →
    ctx.memory.PlainSpan (memoryAddress ctx.state ctx.instr) width.bytes →
    ctx'.memory.read (memoryAddress ctx.state ctx.instr) width.bytes .dataRead =
      some (toBytes value width.bytes))

/-- The destination is the accumulator itself. -/
def DestinationIsAccumulator (instr : Instruction) (width : RmWidth) : Prop :=
  instr.opKind 0 = .register ∧ instr.opRegister 0 = accumulator width

section

variable {width : RmWidth} {ctx ctx' : ExecutionContext} {dst : U64}

/-- A store to the destination leaves it there. -/
theorem destinationHolds_write (hoperand : RmOperand ctx.instr 0 width) {value rflags : U64}
    (hvalue : value.toNat < 2 ^ (8 * width.bytes)) :
    DestinationHolds width ctx { (writeOperand ctx 0 value width.bytes).1 with
      state := setFlags (writeOperand ctx 0 value width.bytes).1.state rflags } value := by
  obtain ⟨h0, hw⟩ := width.bytes_bounds
  have htruncate := truncate_of_lt hw hvalue
  -- Memory or register: each part of the statement is about one kind.
  rcases hoperand with hkind | ⟨hkind, hgeneral, hwidth⟩
  · constructor
    · intro h
      rw [hkind] at h
      cases h
    · intro _ hplain
      have hplain' := hplain.sameAccess (ctx.memory.stored_sameAccess
        (memoryAddress ctx.state ctx.instr) value hw)
      have hread := hplain'.read h0 (toBytes_length value width.bytes) (hplain.stored h0 hw value).2.1
      unfold writeOperand
      simp only [hkind]
      rw [htruncate]
      exact hread
  · constructor
    · intro _
      unfold writeOperand
      simp only [hkind]
      rw [readRegister_setFlags, readRegister_writeRegister ctx.state hgeneral _ (Or.inl rfl), hwidth,
        htruncate, htruncate]
    · intro h
      rw [hkind] at h
      cases h

/-- The exchange stores the source, and nothing in the accumulator. -/
theorem compareExchange_equal (flags : U64 → U64 → U64 → Bool → U64)
    (hread : readOperand ctx 0 width.bytes = some (readRegister ctx.state (accumulator width)))
    (h : compareExchange width flags ctx = .ok () ctx') :
    ctx' = { (writeOperand ctx 0 (readRegister ctx.state (ctx.instr.opRegister 1)) width.bytes).1 with
      state := setFlags
        (writeOperand ctx 0 (readRegister ctx.state (ctx.instr.opRegister 1)) width.bytes).1.state
        (flags ctx.state.rflags (readRegister ctx.state (accumulator width))
          (readRegister ctx.state (accumulator width)) true) } := by
  have hget : (get : HandlerM ExecutionContext) ctx = .ok ctx ctx := rfl
  unfold compareExchange at h
  dsimp only at h
  rw [bind_ok (readOperandChecked_ok_iff.mpr hread), bind_ok hget, if_pos rfl] at h
  cases haccepts : operandAccepts ctx 0 (readRegister ctx.state (ctx.instr.opRegister 1))
    width.bytes with
  | true =>
    rw [bind_ok (writeOperandChecked_ok haccepts)] at h
    cases h
    dsimp only
    rw [writeOperand_rflags]
  | false =>
    obtain ⟨r, c, herror, -⟩ := writeOperandChecked_error haccepts
    rw [bind_error herror] at h
    cases h

/-- Otherwise the accumulator takes the destination. -/
theorem compareExchange_unequal (flags : U64 → U64 → U64 → Bool → U64)
    (hread : readOperand ctx 0 width.bytes = some dst)
    (hne : dst ≠ readRegister ctx.state (accumulator width)) :
    compareExchange width flags ctx = .ok () { ctx with
      state := setFlags (writeRegister ctx.state (accumulator width) dst width.bytes)
        (flags ctx.state.rflags (readRegister ctx.state (accumulator width)) dst false) } := by
  have hget : (get : HandlerM ExecutionContext) ctx = .ok ctx ctx := rfl
  unfold compareExchange
  dsimp only
  rw [bind_ok (readOperandChecked_ok_iff.mpr hread), bind_ok hget, if_neg hne]
  show EStateM.Result.ok () _ = _
  dsimp only
  rw [writeRegister_rflags]

/-- A page fault leaves every register and every flag. -/
theorem compareExchange_error (flags : U64 → U64 → U64 → Bool → U64) {r : ExecutionResult}
    (h : compareExchange width flags ctx = .error r ctx') : PageFault r ∧ ctx'.state = ctx.state := by
  have hget : (get : HandlerM ExecutionContext) ctx = .ok ctx ctx := rfl
  unfold compareExchange at h
  dsimp only at h
  cases hread : readOperand ctx 0 width.bytes with
  | none =>
    have herror : readOperandChecked 0 width.bytes ctx =
        .error (pageFaultAt ctx (memoryAddress ctx.state ctx.instr)) ctx := by
      unfold readOperandChecked
      rw [hread]
      rfl
    rw [bind_error herror] at h
    cases h
    exact ⟨rfl, rfl⟩
  | some value =>
    rw [bind_ok (readOperandChecked_ok_iff.mpr hread), bind_ok hget] at h
    -- Only an equal comparison stores, and only a store can fault behind the read.
    split at h
    next =>
      cases haccepts : operandAccepts ctx 0 (readRegister ctx.state (ctx.instr.opRegister 1))
        width.bytes with
      | true =>
        rw [bind_ok (writeOperandChecked_ok haccepts)] at h
        cases h
      | false =>
        obtain ⟨e, c, herror, hfault, hstate, -⟩ := writeOperandChecked_error haccepts
        rw [bind_error herror] at h
        cases h
        exact ⟨hfault, hstate⟩
    next => cases h

/-- The other register of the width keeps its value. -/
theorem accumulator_kept (hoperand : RmOperand ctx.instr 0 width)
    (hother : ¬ DestinationIsAccumulator ctx.instr width) (value : U64) :
    readRegister (writeOperand ctx 0 value width.bytes).1.state (accumulator width) =
      readRegister ctx.state (accumulator width) := by
  unfold writeOperand
  rcases hoperand with hkind | ⟨hkind, hgeneral, hwidth⟩
  · simp only [hkind]
  · simp only [hkind]
    exact readRegister_writeRegister_ne ctx.state hgeneral (accumulator_general width)
      (hwidth.trans (accumulator_width width).symm) (fun h => hother ⟨hkind, h⟩) _ (Or.inl rfl)

end

/-- **`CMPXCHG`.** The flags are those of a `CMP` of the accumulator with the
destination. When the two are equal the destination takes the source and the
accumulator keeps its value, unless it is the destination; when they are not,
the accumulator takes the destination, which stays. A page fault leaves every
register and every flag. -/
theorem cmpxchg_exchange (width : RmWidth) (ctx : ExecutionContext)
    (hoperand : RmOperand ctx.instr 0 width) (hsource : SourceRegister ctx.instr width) :
    (∀ r ctx', handleCmpxchg width ctx = .error r ctx' → PageFault r ∧ ctx'.state = ctx.state) ∧
    ∀ ctx' dst, readOperand ctx 0 width.bytes = some dst → handleCmpxchg width ctx = .ok () ctx' →
      (∀ (form : BinaryForm) (c : ExecutionContext), form.width = width.bytes →
        binaryOperands form c = .ok (readRegister ctx.state (accumulator width), dst) c →
        c.state.rflags = ctx.state.rflags →
        handleCmp form c = .ok () { c with state := setFlags c.state ctx'.state.rflags }) ∧
      (dst = readRegister ctx.state (accumulator width) →
        DestinationHolds width ctx ctx' (readRegister ctx.state (ctx.instr.opRegister 1)) ∧
        (¬ DestinationIsAccumulator ctx.instr width →
          readRegister ctx'.state (accumulator width) = readRegister ctx.state (accumulator width))) ∧
      (dst ≠ readRegister ctx.state (accumulator width) →
        readRegister ctx'.state (accumulator width) = dst ∧ ctx'.memory = ctx.memory ∧
        (ctx.instr.opKind 0 = .register → readRegister ctx'.state (ctx.instr.opRegister 0) = dst)) := by
  obtain ⟨h0, hw⟩ := width.bytes_bounds
  refine ⟨fun r ctx' h => compareExchange_error _ h, fun ctx' dst hread hrun => ?_⟩
  have hdst := readOperand_lt hoperand hread
  have hacc := readRegister_lt ctx.state (accumulator_general width)
  rw [accumulator_width] at hacc
  have hsrc := readRegister_lt ctx.state hsource.1
  rw [hsource.2] at hsrc
  have hflags := setCmpxchgFlags_eq h0 hw ctx.state.rflags hacc hdst
  refine ⟨fun form c hform hoperands hsame => ?_, fun heq => ?_, fun hne => ?_⟩
  · rw [handleCmp_ok hoperands, hform, hsame]
    congr 3
    -- Equal operands set ZF through the same subtraction as unequal ones.
    by_cases heq : dst = readRegister ctx.state (accumulator width)
    · rw [← hflags, decide_eq_true heq]
      subst heq
      rw [compareExchange_equal _ hread hrun]
      rfl
    · rw [← hflags, decide_eq_false heq]
      cases (compareExchange_unequal _ hread heq).symm.trans hrun
      rfl
  · subst heq
    rw [compareExchange_equal _ hread hrun]
    refine ⟨destinationHolds_write hoperand hsrc, fun hother => ?_⟩
    rw [readRegister_setFlags, accumulator_kept hoperand hother]
  · cases (compareExchange_unequal _ hread hne).symm.trans hrun
    have haccumulator : readRegister (writeRegister ctx.state (accumulator width) dst width.bytes)
        (accumulator width) = dst := by
      rw [readRegister_writeRegister ctx.state (accumulator_general width) _
        (Or.inr (accumulator_width width).symm), accumulator_width, truncate_of_lt hw hdst]
    refine ⟨by rw [readRegister_setFlags, haccumulator], rfl, fun hkind => ?_⟩
    -- The destination register is rewritten with its own value, unless it is the accumulator.
    rw [readRegister_setFlags]
    by_cases hsame : ctx.instr.opRegister 0 = accumulator width
    · rw [hsame, haccumulator]
    · rcases hoperand with hmemory | ⟨-, hgeneral, hwidth⟩
      · rw [hkind] at hmemory
        cases hmemory
      · rw [readRegister_writeRegister_ne ctx.state (accumulator_general width) hgeneral
          ((accumulator_width width).trans hwidth.symm) (fun h => hsame h.symm) dst
          (Or.inr (accumulator_width width).symm)]
        unfold readOperand at hread
        simp only [hkind] at hread
        exact Option.some.inj hread

/-- `CMPXCHG BX, BX` with AX another value: AX takes it. -/
theorem cmpxchg_exchange_word : ∃ ctx', handleCmpxchg .rm16 (pairContext .rm16 5#64 0#64 7#64) =
    .ok () ctx' ∧ readRegister ctx'.state .ax = 7#64 := by
  obtain ⟨-, hresult⟩ := cmpxchg_exchange .rm16 (pairContext .rm16 5#64 0#64 7#64)
    (Or.inr ⟨rfl, trivial, rfl⟩) ⟨trivial, rfl⟩
  have hrun : handleCmpxchg .rm16 (pairContext .rm16 5#64 0#64 7#64) = .ok () _ :=
    compareExchange_unequal _ (rfl : readOperand _ 0 2 = some 7#64) (by decide)
  exact ⟨_, hrun, (hresult _ 7#64 rfl hrun).2.2 (by decide) |>.1⟩

/-- `CMPXCHG EAX, EBX`, five and seven. -/
def accumulatorDestination : ExecutionContext where
  state := (({} : CpuState).setGpr 0 5#64).setGpr 3 7#64
  memory := {}
  instr :=
    { code := .other 0, length := 3, opRegister := fun i => if i = 0 then .eax else .r32 3 }
  nextRip := 3#64

/-- The accumulator equals the destination, since it is the destination, and
changes. -/
theorem cmpxchg_accumulator_destination :
    RmOperand accumulatorDestination.instr 0 .rm32 ∧
      SourceRegister accumulatorDestination.instr .rm32 ∧
      readOperand accumulatorDestination 0 4 =
        some (readRegister accumulatorDestination.state (accumulator .rm32)) ∧
      ∃ ctx', handleCmpxchg .rm32 accumulatorDestination = .ok () ctx' ∧
        readRegister ctx'.state (accumulator .rm32) ≠
          readRegister accumulatorDestination.state (accumulator .rm32) :=
  ⟨Or.inr ⟨rfl, trivial, rfl⟩, ⟨trivial, rfl⟩, rfl, _, rfl, by decide⟩

end Seven
