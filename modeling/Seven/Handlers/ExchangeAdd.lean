import Seven.Handlers.CompareExchange
import Seven.Lib.Commutes

/-!
# `XADD`

The sum goes to the destination and the old destination to the source, in
that order. When the two are one register the second write undoes the first:
`XADD EAX, EAX` leaves EAX as it was, where the sum belongs. For every other
pair of operands the order does not matter, AH and AL included.

Main result: `xadd_iff`.
-/

namespace Seven

open Seven.Lib

/-- Both operands are one register. -/
def SameRegister (instr : Instruction) : Prop :=
  instr.opKind 0 = .register ∧ instr.opRegister 0 = instr.opRegister 1

/-- Bit `j` of general register `i` belongs to the register, or is cleared with
it: a doubleword write takes the whole of its register. -/
def Register.Covers (reg : Register) (i : Fin 16) (j : Nat) : Prop :=
  match reg with
  | .r8 k => k = i ∧ j < 8
  | .r8h k => lowIndex k = i ∧ 8 ≤ j ∧ j < 16
  | .r16 k => k = i ∧ j < 16
  | .r32 k | .r64 k => k = i
  | _ => False

/-- Only the operands' own bits, and the flags, are written. -/
structure OthersKept (ctx ctx' : ExecutionContext) : Prop where
  bits : ∀ (i : Fin 16) (j : Nat),
    (ctx.instr.opKind 0 = .register → ¬ (ctx.instr.opRegister 0).Covers i j) →
    ¬ (ctx.instr.opRegister 1).Covers i j →
    (ctx'.state.gpr i).getLsbD j = (ctx.state.gpr i).getLsbD j
  rest : { ctx'.state with gpr := ctx.state.gpr, rflags := ctx.state.rflags } = ctx.state

/-- What `XADD` of the operands `dst` and `src` has to leave. -/
structure XaddLeaves (width : RmWidth) (ctx ctx' : ExecutionContext) (dst src : U64) : Prop where
  dest : DestinationHolds width ctx ctx' (truncate (dst + src) width.bytes)
  source : ¬ SameRegister ctx.instr → readRegister ctx'.state (ctx.instr.opRegister 1) = dst
  flags : ctx'.state.rflags = (aluCompute .add width.bytes ctx.state.rflags dst src).2
  others : OthersKept ctx ctx'

/-! ## What a register write keeps -/

/-- A merge leaves the bits outside its mask. -/
theorem getLsbD_mergeGpr {raw mask v : U64} {j : Nat} (hj : j < 64) (hmask : mask.getLsbD j = false)
    (hv : v.getLsbD j = false) : ((raw &&& ~~~mask) ||| v).getLsbD j = raw.getLsbD j := by
  rw [BitVec.getLsbD_or, BitVec.getLsbD_and, BitVec.getLsbD_not, hmask, hv, Bool.or_false,
    decide_eq_true hj, Bool.not_false, Bool.and_true, Bool.and_true]

section

variable (s : CpuState) {reg : Register} (value : U64)

/-- A register's write leaves the bits it does not cover. -/
theorem writeRegister_getLsbD (hreg : reg.General) {i : Fin 16} {j : Nat} (h : ¬ reg.Covers i j) :
    ((writeRegister s reg value 0).gpr i).getLsbD j = (s.gpr i).getLsbD j := by
  have hother : ∀ (k : Fin 16) (v : U64), k ≠ i → (s.setGpr k v).gpr i = s.gpr i :=
    fun k v hk => setGpr_ne s hk.symm v
  by_cases hj : 64 ≤ j
  · rw [BitVec.getLsbD_of_ge _ _ hj, BitVec.getLsbD_of_ge _ _ hj]
  have hj := Nat.lt_of_not_le hj
  have hbyte : ∀ j < 64, ¬ j < 8 → (0xFF#64).getLsbD j = false := by decide
  have hword : ∀ j < 64, ¬ j < 16 → (0xFFFF#64).getLsbD j = false := by decide
  have hsecond : ∀ j < 64, ¬ (8 ≤ j ∧ j < 16) → (0xFF00#64).getLsbD j = false := by decide
  cases reg with
  -- A bit a byte or word register leaves out is kept by the mask the write merges under.
  | r8 k =>
    by_cases hk : k = i
    · subst hk
      have hhigh := hbyte j hj fun hlt => h ⟨rfl, hlt⟩
      show (CpuState.gpr (s.setGpr k ((s.gpr k &&& ~~~0xFF#64) ||| (value &&& 0xFF#64))) k).getLsbD j
        = _
      rw [CpuState.setGpr_self]
      refine getLsbD_mergeGpr hj hhigh ?_
      rw [BitVec.getLsbD_and, hhigh, Bool.and_false]
    · exact congrArg (BitVec.getLsbD · j) (hother k _ hk)
  | r8h k =>
    by_cases hk : lowIndex k = i
    · subst hk
      have hout : ¬ (8 ≤ j ∧ j < 16) := fun hin => h ⟨rfl, hin⟩
      show (CpuState.gpr (s.setGpr (lowIndex k) ((s.gpr (lowIndex k) &&& ~~~0xFF00#64) |||
        ((value &&& 0xFF#64) <<< 8))) (lowIndex k)).getLsbD j = _
      rw [CpuState.setGpr_self]
      refine getLsbD_mergeGpr hj (hsecond j hj hout) ?_
      rw [BitVec.getLsbD_shiftLeft, BitVec.getLsbD_and]
      by_cases hlt : j < 8
      · rw [decide_eq_true hlt, Bool.not_true, Bool.and_false, Bool.false_and]
      · rw [hbyte (j - 8) (by omega) (by omega), Bool.and_false, Bool.and_false]
    · exact congrArg (BitVec.getLsbD · j) (hother (lowIndex k) _ hk)
  | r16 k =>
    by_cases hk : k = i
    · subst hk
      have hhigh := hword j hj fun hlt => h ⟨rfl, hlt⟩
      show (CpuState.gpr (s.setGpr k ((s.gpr k &&& ~~~0xFFFF#64) ||| (value &&& 0xFFFF#64)))
        k).getLsbD j = _
      rw [CpuState.setGpr_self]
      refine getLsbD_mergeGpr hj hhigh ?_
      rw [BitVec.getLsbD_and, hhigh, Bool.and_false]
    · exact congrArg (BitVec.getLsbD · j) (hother k _ hk)
  -- A 32-bit write clears the upper half, so it covers the whole register.
  | r32 k | r64 k => exact congrArg (BitVec.getLsbD · j) (hother k _ h)
  | none | sreg | cr | dr | tr | mm | other => exact hreg.elim

/-- And everything but the general registers and the flags. -/
theorem writeRegister_rest (hreg : reg.General) (gpr : Fin 16 → U64) (rflags : U64) :
    { writeRegister s reg value 0 with gpr := gpr, rflags := rflags } =
      { s with gpr := gpr, rflags := rflags } := by
  cases reg with
  | r8 | r8h | r16 | r32 | r64 => rfl
  | none | sreg | cr | dr | tr | mm | other => exact hreg.elim

end

/-! ## The two writes -/

section

variable {width : RmWidth} {ctx ctx' : ExecutionContext} {dst src : U64}

/-- The context between the writes. -/
def afterSum (width : RmWidth) (ctx : ExecutionContext) (dst src : U64) : ExecutionContext :=
  (writeOperand { ctx with
    state := setFlags ctx.state (aluCompute .add width.bytes ctx.state.rflags dst src).2 } 0
    (dst + src) width.bytes).1

/-- The instruction stays. -/
theorem afterSum_instr : (afterSum width ctx dst src).instr = ctx.instr := by
  unfold afterSum writeOperand
  split <;> rfl

/-- The sum, and the old destination over it. -/
theorem handleXadd_ok (hkind : ctx.instr.opKind 1 = .register)
    (hread : readOperand ctx 0 width.bytes = some dst) (h : handleXadd width ctx = .ok () ctx') :
    ctx' = { afterSum width ctx dst (readRegister ctx.state (ctx.instr.opRegister 1)) with
      state := writeRegister
        (afterSum width ctx dst (readRegister ctx.state (ctx.instr.opRegister 1))).state
        (ctx.instr.opRegister 1) (truncate dst width.bytes) 0 } := by
  have hget : (get : HandlerM ExecutionContext) ctx = .ok ctx ctx := rfl
  unfold handleXadd at h
  dsimp only at h
  rw [bind_ok (readOperandChecked_ok_iff.mpr hread), bind_ok hget] at h
  unfold flagsThenWrite at h
  set rhs := readRegister ctx.state (ctx.instr.opRegister 1)
  set flags := (aluCompute .add width.bytes ctx.state.rflags dst rhs).2
  have hset : (modifyState fun s => setFlags s flags) ctx =
      .ok () { ctx with state := setFlags ctx.state flags } := rfl
  -- The sum is stored first and the old destination second, over it where they are one register.
  obtain ⟨_, c, hsum, hsource⟩ := of_bind_ok h
  rw [show setAddFlags ctx.state.rflags dst rhs (dst + rhs) width.bytes false = flags from rfl,
    bind_ok hset] at hsum
  have hc := of_writeOperandChecked_ok hsum
  have hctx' := of_writeOperandChecked_ok hsource
  have hkind' : c.instr.opKind 1 = .register := by
    rw [hc]
    exact (congrArg (fun i : Instruction => i.opKind 1) afterSum_instr).trans hkind
  have hregister : c.instr.opRegister 1 = ctx.instr.opRegister 1 := by
    rw [hc]
    exact congrArg (fun i : Instruction => i.opRegister 1) afterSum_instr
  unfold writeOperand at hctx'
  rw [hkind'] at hctx'
  rw [hctx']
  dsimp only
  rw [hregister, hc]
  rfl

/-- The sum does not see the flags. -/
theorem afterSum_eq (hoperand : RmOperand ctx.instr 0 width) :
    afterSum width ctx dst src =
      { (writeOperand ctx 0 (truncate (dst + src) width.bytes) width.bytes).1 with
        state := setFlags
          (writeOperand ctx 0 (truncate (dst + src) width.bytes) width.bytes).1.state
          (aluCompute .add width.bytes ctx.state.rflags dst src).2 } := by
  have hcomm : ∀ (f v : U64) (reg : Register),
      writeRegister (setFlags ctx.state f) reg v 0 = setFlags (writeRegister ctx.state reg v 0) f := by
    intro f v reg
    cases reg <;> rfl
  unfold afterSum writeOperand
  rcases hoperand with hkind | ⟨hkind, -⟩
  · rw [truncate_truncate]
    simp only [hkind]
    rfl
  · rw [truncate_truncate]
    simp only [hkind]
    rw [hcomm]

/-- The second write does not reach the sum, unless it is to the same register. -/
theorem xadd_dest (hoperand : RmOperand ctx.instr 0 width) (hsource : SourceRegister ctx.instr width)
    (hdifferent : ¬ SameRegister ctx.instr) (value : U64) :
    DestinationHolds width ctx { afterSum width ctx dst src with
      state := writeRegister (afterSum width ctx dst src).state (ctx.instr.opRegister 1) value 0 }
      (truncate (dst + src) width.bytes) := by
  obtain ⟨-, hw⟩ := width.bytes_bounds
  have hsum : (truncate (dst + src) width.bytes).toNat < 2 ^ (8 * width.bytes) := by
    rw [truncate_toNat _ hw]
    exact Nat.mod_lt _ (Nat.two_pow_pos _)
  obtain ⟨hregister, hmemory⟩ := @destinationHolds_write width ctx hoperand _
    (aluCompute .add width.bytes ctx.state.rflags dst src).2 hsum
  rw [← afterSum_eq hoperand] at hregister hmemory
  refine ⟨fun hkind => ?_, hmemory⟩
  rcases hoperand with hmem | ⟨-, hgeneral, hwidth⟩
  · rw [hkind] at hmem
    cases hmem
  · dsimp only
    rw [readRegister_writeRegister_ne _ hsource.1 hgeneral (hsource.2.trans hwidth.symm)
      (fun h => hdifferent ⟨hkind, h.symm⟩) value (Or.inl rfl)]
    exact hregister hkind

/-- The flags are those of the addition. -/
theorem afterSum_rflags (hoperand : RmOperand ctx.instr 0 width) :
    (afterSum width ctx dst src).state.rflags =
      (aluCompute .add width.bytes ctx.state.rflags dst src).2 := by
  rw [afterSum_eq hoperand]
  rfl

/-- `XADD` leaves the other registers. -/
theorem xadd_others (hoperand : RmOperand ctx.instr 0 width) (hsource : SourceRegister ctx.instr width)
    (value : U64) :
    OthersKept ctx { afterSum width ctx dst src with
      state := writeRegister (afterSum width ctx dst src).state (ctx.instr.opRegister 1) value 0 } := by
  rw [afterSum_eq hoperand]
  constructor
  · intro i j hdest hsrc
    dsimp only
    rw [writeRegister_getLsbD _ value hsource.1 hsrc]
    unfold writeOperand
    rcases hoperand with hkind | ⟨hkind, hgeneral, -⟩
    · simp only [hkind]
      rfl
    · simp only [hkind]
      exact writeRegister_getLsbD ctx.state _ hgeneral (hdest hkind)
  · dsimp only
    rw [writeRegister_rest _ value hsource.1]
    unfold writeOperand
    rcases hoperand with hkind | ⟨hkind, hgeneral, -⟩
    · simp only [hkind]
      rfl
    · simp only [hkind]
      exact writeRegister_rest ctx.state _ hgeneral _ _

end

/-- Doubling moves every value but zero. -/
theorem truncate_double_iff {w : Nat} (h0 : 0 < w) (hw : w ≤ 8) {v : U64}
    (hv : v.toNat < 2 ^ (8 * w)) : v = truncate (v + v) w ↔ v = 0#64 := by
  have hle : 2 ^ (8 * w) ≤ 2 ^ 64 := Nat.pow_le_pow_right (by decide) (by omega)
  have hpos := two_pow_width h0
  rw [← BitVec.toNat_inj, ← BitVec.toNat_inj, truncate_toNat _ hw, BitVec.toNat_add,
    Nat.mod_mod_of_dvd _ (Nat.pow_dvd_pow 2 (by omega))]
  show _ ↔ v.toNat = 0
  constructor
  · intro h
    by_cases hlt : v.toNat + v.toNat < 2 ^ (8 * w)
    · rw [Nat.mod_eq_of_lt hlt] at h
      omega
    · rw [Nat.mod_eq_sub_mod (Nat.le_of_not_lt hlt), Nat.mod_eq_of_lt (by omega)] at h
      omega
  · intro h
    rw [h, Nat.zero_mod]

/-- Of one register twice, both operands are its value. -/
theorem SameRegister.source {ctx : ExecutionContext} {w : Nat} {dst : U64}
    (hsame : SameRegister ctx.instr) (hread : readOperand ctx 0 w = some dst) :
    readRegister ctx.state (ctx.instr.opRegister 1) = dst := by
  obtain ⟨hregister, heq⟩ := hsame
  unfold readOperand at hread
  simp only [hregister] at hread
  rw [← heq]
  exact Option.some.inj hread

/-- **`XADD`.** It leaves the sum in the destination, the old destination in
the source, the flags of `ADD` and everything else, unless the operands are
one register that does not hold zero. -/
theorem xadd_iff (width : RmWidth) (ctx : ExecutionContext)
    (hoperand : RmOperand ctx.instr 0 width) (hkind : ctx.instr.opKind 1 = .register)
    (hsource : SourceRegister ctx.instr width) (dst : U64)
    (hread : readOperand ctx 0 width.bytes = some dst) (ctx' : ExecutionContext)
    (hrun : handleXadd width ctx = .ok () ctx') :
    XaddLeaves width ctx ctx' dst (readRegister ctx.state (ctx.instr.opRegister 1)) ↔
      (SameRegister ctx.instr → dst = 0#64) := by
  obtain ⟨h0, hw⟩ := width.bytes_bounds
  have hdst := readOperand_lt hoperand hread
  have hctx' := handleXadd_ok hkind hread hrun
  -- the source register holds the old destination, whether or not it is the destination
  have hlast : readRegister ctx'.state (ctx.instr.opRegister 1) = dst := by
    rw [hctx', readRegister_writeRegister _ hsource.1 _ (Or.inl rfl), hsource.2, truncate_truncate,
      truncate_of_lt hw hdst]
  constructor
  · intro hleaves hsame
    have hsum := hleaves.dest.1 hsame.1
    rw [hsame.2, hlast, hsame.source hread] at hsum
    exact (truncate_double_iff h0 hw hdst).mp hsum
  · intro hzero
    refine ⟨?_, fun _ => hlast, ?_, ?_⟩
    · by_cases hsame : SameRegister ctx.instr
      · refine ⟨fun _ => ?_, fun hmemory => ?_⟩
        · rw [hsame.2, hlast, hsame.source hread]
          exact (truncate_double_iff h0 hw hdst).mpr (hzero hsame)
        · rw [hsame.1] at hmemory
          cases hmemory
      · rw [hctx']
        exact xadd_dest hoperand hsource hsame _
    · rw [hctx']
      dsimp only
      rw [writeRegister_rflags, afterSum_rflags hoperand]
    · rw [hctx']
      exact xadd_others hoperand hsource _

/-- `XADD AH, AL` with five in AH and seven in AL. -/
def halvesExchange : ExecutionContext where
  state := ({} : CpuState).setGpr 0 0x0507#64
  memory := {}
  instr := { code := .other 0, length := 3, opRegister := fun i => if i = 0 then .ah else .al }
  nextRip := 3#64

/-- Twelve goes to AH and five to AL. -/
theorem xadd_halves : ∃ ctx', handleXadd .rm8 halvesExchange = .ok () ctx' ∧
    XaddLeaves .rm8 halvesExchange ctx' 5#64 7#64 := by
  refine ⟨_, rfl, ?_⟩
  refine (xadd_iff .rm8 halvesExchange (Or.inr ⟨rfl, trivial, rfl⟩) rfl ⟨trivial, rfl⟩ 5#64 rfl _
    rfl).mpr ?_
  rintro ⟨-, hsame⟩
  cases hsame

/-- `XADD EBX, EBX` with five in EBX leaves five there, not ten. -/
theorem xadd_same_register :
    RmOperand (pairContext .rm32 0#64 0#64 5#64).instr 0 .rm32 ∧
      SourceRegister (pairContext .rm32 0#64 0#64 5#64).instr .rm32 ∧
      readOperand (pairContext .rm32 0#64 0#64 5#64) 0 4 = some 5#64 ∧
      ∃ ctx', handleXadd .rm32 (pairContext .rm32 0#64 0#64 5#64) = .ok () ctx' ∧
        readRegister ctx'.state (.r32 3) = 5#64 ∧
        ¬ XaddLeaves .rm32 (pairContext .rm32 0#64 0#64 5#64) ctx' 5#64 5#64 := by
  refine ⟨Or.inr ⟨rfl, trivial, rfl⟩, ⟨trivial, rfl⟩, rfl, _, rfl, rfl, ?_⟩
  intro hleaves
  exact absurd (hleaves.dest.1 rfl) (by decide)

end Seven
