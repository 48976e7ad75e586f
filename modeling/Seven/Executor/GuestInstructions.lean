import Seven.Executor.Guest
import Seven.Handlers.AluEncodings
import Seven.Handlers.BitFields
import Seven.Handlers.Conditions
import Seven.Handlers.DataMoves
import Seven.Handlers.Division
import Seven.Handlers.EffectiveAddress
import Seven.Handlers.MultiPrecision
import Seven.Handlers.Multiply

/-!
# Instructions of guest programs

The instructions the programs of this directory are written in, as the
decoder hands them to the core, and what each does in a quiet state: the rule
of one instruction with its handler evaluated. Where a rule names a word of
memory, the word is guest data (`DataWord`).

The numbers of the codes that the core does not look at are parameters.
-/

namespace Seven

open Seven.Lib

namespace CpuState.Quiet

variable {s : CpuState}

/-- The stack pointer is whole. -/
theorem maskStackPointer (h : s.Quiet) (value : U64) : maskStackPointer s value = value := by
  unfold Seven.maskStackPointer
  rw [h.mode]
  exact BitVec.and_allOnes

/-- A push moves it by eight. -/
theorem pushed (h : s.Quiet) : s.pushed 8 = s.setRsp (s.rsp - 8#64) :=
  congrArg s.setRsp (h.maskStackPointer _)

/-- So does a pop. -/
theorem popped (h : s.Quiet) : s.popped 8 = s.setRsp (s.rsp + 8#64) :=
  congrArg s.setRsp (h.maskStackPointer _)

end CpuState.Quiet

namespace Guest

variable {W : Type} {env : RunEnv W} {s : CpuState} {m : Memory}

/-! ## Templates -/

/-- An instruction with two registers as its operands. -/
def regReg (code : Code) (length : Nat) (dst src : Fin 16) : Instruction :=
  { code := code, length := length
    opRegister := fun i => if i = 0 then .r64 dst else .r64 src }

/-- An instruction with a register and, as its other operand, memory at a base
and a displacement; `memory` is the number of the memory operand. -/
def regMem (code : Code) (length : Nat) (memory : Nat) (reg base : Fin 16) (displacement : U64) :
    Instruction :=
  { code := code, length := length
    opKind := fun i => if i = memory then .memory else .register
    opRegister := fun _ => .r64 reg
    memoryBase := .r64 base
    memoryDisplacement64 := displacement }

/-- An instruction with a branch target. -/
def branch (code : Code) (length : Nat) (target : U64) : Instruction :=
  { code := code, length := length
    opKind := fun _ => .nearBranch64
    nearBranch64 := target }

/-- The address of `[reg + displacement]`. -/
theorem regMem_address (code : Code) (length memory : Nat) (reg base : Fin 16)
    (displacement : U64) (h : s.Quiet) :
    memoryAddress s (regMem code length memory reg base displacement) =
      s.gpr base + displacement := by
  have haddress : memoryAddress s (regMem code length memory reg base displacement) =
      maskLinearAddress s (s.gpr base + 0#64 + displacement + 0#64) := rfl
  rw [haddress, h.maskLinearAddress, BitVec.add_zero, BitVec.add_zero]

/-- The state behind an instruction of this length. -/
def behind (s : CpuState) (length : Nat) (t : CpuState) : CpuState :=
  t.at (s.rip + BitVec.ofNat 64 (max 1 length))

/-- The address behind an instruction. -/
theorem behind_rip {t : CpuState} {length : Nat} {start here next : U64} (h : s.rip = start + here)
    (hnext : here + BitVec.ofNat 64 (max 1 length) = next) :
    (behind s length t).rip = start + next := by
  rw [← hnext, ← BitVec.add_assoc, ← h]
  rfl

/-- Eight bytes are not truncated. -/
theorem truncate_full (v : U64) : truncate v 8 = v := BitVec.and_allOnes

/-! ## Flags -/

/-- Logical operations leave the other flags. -/
theorem setLogicFlags_frame {i : Nat} (h : notStatus i) (rflags result : U64) (w : Nat) :
    (setLogicFlags rflags result w).getLsbD i = rflags.getLsbD i := by
  have hi := h
  obtain ⟨h0, _, h4, _, _, h11⟩ := h
  unfold setLogicFlags kFlagCF kFlagAF kFlagOF
  simp only [setFlag_getLsbD_ne h0, setFlag_getLsbD_ne h4, setFlag_getLsbD_ne h11,
    setResultFlags_frame hi]

/-- So does the ALU group. -/
theorem aluCompute_frame (op : AluOp) (rflags lhs rhs : U64) (i : Nat) (hi : notStatus i) :
    (aluCompute op 8 rflags lhs rhs).2.getLsbD i = rflags.getLsbD i := by
  unfold aluCompute
  cases op with
  | add | adc => exact setAddFlags_frame hi ..
  | sub | sbb => exact setSubFlags_frame hi ..
  | and | or | xor => exact setLogicFlags_frame hi ..

/-- So do `INC`, `DEC`, `NEG` and `NOT`. -/
theorem unaryCompute_frame (op : UnaryOp) (rflags lhs : U64) (i : Nat) (hi : notStatus i) :
    (unaryCompute op 8 rflags lhs).2.getLsbD i = rflags.getLsbD i := by
  unfold unaryCompute
  cases op with
  | inc => exact (setFlag_getLsbD_ne hi.1 ..).trans (setAddFlags_frame hi ..)
  | dec => exact (setFlag_getLsbD_ne hi.1 ..).trans (setSubFlags_frame hi ..)
  | neg => exact setSubFlags_frame hi ..
  | not => rfl

/-- So do the products. -/
theorem setMultiplyFlags_frame {i : Nat} (h : notStatus i) (rflags value : U64) (w : Nat)
    (overflow : Bool) :
    (setMultiplyFlags rflags value w overflow).getLsbD i = rflags.getLsbD i := by
  obtain ⟨h0, h2, h4, h6, h7, h11⟩ := h
  unfold setMultiplyFlags kFlagCF kFlagPF kFlagAF kFlagZF kFlagSF kFlagOF
  simp only [setFlag_getLsbD_ne h0, setFlag_getLsbD_ne h2, setFlag_getLsbD_ne h4,
    setFlag_getLsbD_ne h6, setFlag_getLsbD_ne h7, setFlag_getLsbD_ne h11]

/-- So do the counts. -/
theorem countFlags_frame {i : Nat} (h : notStatus i) (rflags : U64) (carry zero : Bool) :
    (setFlag (setFlag (clearCountFlags rflags) kFlagCF carry) kFlagZF zero).getLsbD i =
      rflags.getLsbD i := by
  obtain ⟨h0, h2, h4, h6, h7, h11⟩ := h
  unfold clearCountFlags kFlagCF kFlagPF kFlagAF kFlagZF kFlagSF kFlagOF
  simp only [setFlag_getLsbD_ne h0, setFlag_getLsbD_ne h2, setFlag_getLsbD_ne h4,
    setFlag_getLsbD_ne h6, setFlag_getLsbD_ne h7, setFlag_getLsbD_ne h11]

/-- So do `BLSI` and its kin. -/
theorem lowestBitFlags_frame {i : Nat} (h : notStatus i) (rflags : U64) (out : U64 × Bool × Bool)
    (w : Nat) : (lowestBitFlags rflags out w).getLsbD i = rflags.getLsbD i := by
  obtain ⟨h0, h2, h4, h6, h7, h11⟩ := h
  unfold lowestBitFlags kFlagCF kFlagPF kFlagAF kFlagZF kFlagSF kFlagOF
  simp only [setFlag_getLsbD_ne h0, setFlag_getLsbD_ne h2, setFlag_getLsbD_ne h4,
    setFlag_getLsbD_ne h6, setFlag_getLsbD_ne h7, setFlag_getLsbD_ne h11]

/-- The low half of a product does not depend on the signs. -/
theorem operandCast_imulProduct (a b : U64) : operandCast 8 (imulProduct 128 8 a b) = a * b := by
  have hlow (v : U64) : (v.signExtend 128).setWidth 64 = v := by
    apply BitVec.eq_of_getLsbD_eq
    intro i hi
    have hi' : i < 128 := by omega
    simp only [BitVec.getLsbD_setWidth, BitVec.getLsbD_signExtend, hi, hi', decide_true, Bool.true_and,
      if_true]
  unfold operandCast imulProduct
  rw [BitVec.setWidth_eq, BitVec.setWidth_mul _ _ (by decide)]
  exact congrArg₂ (· * ·) (hlow a) (hlow b)

/-- A wide quotient. -/
theorem wide_div_toNat (a b : U64) :
    (a.setWidth 128 / b.setWidth 128).toNat = a.toNat / b.toNat := by
  rw [BitVec.toNat_udiv, BitVec.toNat_setWidth_of_le (by decide), BitVec.toNat_setWidth_of_le (by decide)]

/-- A wide remainder. -/
theorem wide_mod_toNat (a b : U64) :
    (a.setWidth 128 % b.setWidth 128).toNat = a.toNat % b.toNat := by
  rw [BitVec.toNat_umod, BitVec.toNat_setWidth_of_le (by decide), BitVec.toNat_setWidth_of_le (by decide)]

/-- ZF after `TEST` of a register with itself. -/
theorem test_zero (rflags v : U64) :
    flagSet (setLogicFlags rflags (v &&& v) 8) kFlagZF = (v == 0#64) := by
  refine (setResultFlags_zero _ _ _).trans ?_
  rw [truncate_full, BitVec.and_self]

/-- Eight bytes are not extended. -/
theorem signExtend_full (v : U64) : signExtend v 8 = v := by
  unfold signExtend
  have hor : v ||| ~~~maskForWidth 8 = v := BitVec.or_zero
  dsimp only
  rw [show v &&& maskForWidth 8 = v from truncate_full v, hor, ite_self]

/-! ## Rules -/

section rules

variable (henv : env.Undisturbed)

include henv

/-- Instructions that only change the CPU state, and fall through. -/
theorem state_rule {instr : Instruction} {handler : Handler}
    (hinst : env.Installed m s.rip instr handler) {t : CpuState}
    (hrun : s.Quiet → handler (guestContext s m instr) =
      .ok () { guestContext s m instr with state := t })
    (hquiet : s.Quiet → t.Quiet) :
    Leads env (Exactly s m) (Exactly (behind s instr.length t) m) :=
  exactly henv hinst hrun hquiet (Memory.CodeBefore.refl m)

omit henv in
/-- A string instruction without a prefix is its one element. -/
theorem string_single {op : StringOp} {length : Nat} {c : ExecutionContext}
    (hdf : flagSet s.rflags kFlagDF = false)
    (helement : stringElement op 8 ⟨s.gpr 6, s.gpr 7⟩
      (guestContext s m { code := .string op .rm64, length := length }) = .ok 0#64 c) :
    stringImpl op 8 (guestContext s m { code := .string op .rm64, length := length }) =
      .ok () { c with
        state := savePointers op false (advancePointers op false 8 ⟨s.gpr 6, s.gpr 7⟩) 0 c.state } := by
  unfold stringImpl
  show stringLoop op 8 false false (flagSet s.rflags kFlagDF) 1 ⟨s.gpr 6, s.gpr 7⟩ _ = _
  rw [hdf, stringLoop]
  simp only [helement]
  rfl

/-- `LODSQ`, upwards. -/
theorem lodsq_rule {length : Nat}
    (hinst : env.Installed m s.rip { code := .string .lods .rm64, length := length }
      (stringImpl .lods 8))
    (hdf : flagSet s.rflags kFlagDF = false) (hword : m.DataWord (s.gpr 6)) :
    Leads env (Exactly s m) (Exactly
      (behind s length ((s.setGpr 0 (m.word (s.gpr 6))).setGpr 6 (s.gpr 6 + 8#64))) m) := by
  refine state_rule henv hinst (fun h => ?_) fun h => (h.setGpr 0 _).setGpr 6 _
  let ctx := guestContext s m { code := .string .lods .rm64, length := length }
  have helement : stringElement .lods 8 ⟨s.gpr 6, s.gpr 7⟩ ctx =
      .ok 0#64 { ctx with state := s.setGpr 0 (m.word (s.gpr 6)) } := by
    refine (bind_ok (hword.load (c := ctx) rfl)).trans ?_
    show EStateM.Result.ok (debugDataBreakpointHits (s.setGpr 0 (m.word (s.gpr 6))) (s.gpr 6) 8#64
      true false) _ = _
    rw [debugDataBreakpointHits_disabled (h.setGpr 0 _).noBreakpoints]
    rfl
  exact string_single hdf helement

/-- `STOSQ`, upwards. -/
theorem stosq_rule {length : Nat}
    (hinst : env.Installed m s.rip { code := .string .stos .rm64, length := length }
      (stringImpl .stos 8))
    (hdf : flagSet s.rflags kFlagDF = false) (hword : m.DataWord (s.gpr 7)) :
    Leads env (Exactly s m) (Exactly (behind s length (s.setGpr 7 (s.gpr 7 + 8#64)))
      (m.stored (s.gpr 7) (s.gpr 0) 8)) := by
  let ctx := guestContext s m { code := .string .stos .rm64, length := length }
  refine @exactly _ _ henv s m _ _ hinst
    { ctx with state := s.setGpr 7 (s.gpr 7 + 8#64), memory := m.stored (s.gpr 7) (s.gpr 0) 8 }
    (fun h => ?_) (fun h => h.setGpr 7 _) (hword.store_kept _).before
  have hvalue : s.gpr 0 &&& maskForWidth 8 = s.gpr 0 := truncate_full (s.gpr 0)
  have hwrite : writeMemoryChecked (s.gpr 7) (s.gpr 0 &&& maskForWidth 8) 8 ctx =
      .ok () { ctx with memory := m.stored (s.gpr 7) (s.gpr 0) 8 } := by
    rw [hvalue]
    exact writeMemoryChecked_ok (hword.accepts _)
  have helement : stringElement .stos 8 ⟨s.gpr 6, s.gpr 7⟩ ctx =
      .ok 0#64 { ctx with memory := m.stored (s.gpr 7) (s.gpr 0) 8 } := by
    refine (bind_ok hwrite).trans ?_
    show EStateM.Result.ok (debugDataBreakpointHits s (s.gpr 7) 8#64 true true) _ = _
    rw [debugDataBreakpointHits_disabled h.noBreakpoints]
  exact string_single hdf helement

/-- A two-operand instruction that stores to a word. -/
theorem alu_store_rule {op : AluOp} {length : Nat} {reg base : Fin 16} {displacement a : U64}
    (hinst : env.Installed m s.rip (regMem (.rmw (.alu op .rm64R64)) length 0 reg base displacement)
      (handleAlu op .rm64R64))
    (ha : s.gpr base + displacement = a) (hword : m.DataWord a) :
    Leads env (Exactly s m) (Exactly
      (behind s length (setFlags s (aluCompute op 8 s.rflags (m.word a) (s.gpr reg)).2))
      (m.stored a (aluCompute op 8 s.rflags (m.word a) (s.gpr reg)).1 8)) := by
  let ctx := guestContext s m (regMem (.rmw (.alu op .rm64R64)) length 0 reg base displacement)
  let out := aluCompute op 8 s.rflags (m.word a) (s.gpr reg)
  refine @exactly _ _ henv s m _ _ hinst
    { ctx with state := setFlags s out.2, memory := m.stored a out.1 8 }
    (fun h => ?_) (fun h => h.setFlags (aluCompute_frame _ _ _ _)) (hword.store_kept _).before
  have haddress : memoryAddress ctx.state ctx.instr = a := (regMem_address _ _ _ _ _ _ h).trans ha
  exact (bind_ok (@Memory.DataWord.loadOperand _ ctx hword 0 rfl haddress)).trans
    (@Memory.DataWord.storeOperand _ { ctx with state := setFlags s out.2 } hword 0 rfl haddress out.1)

/-- A one-operand instruction on a register. -/
theorem unary_rule {op : UnaryOp} {length : Nat} {reg : Fin 16}
    (hinst : env.Installed m s.rip (regReg (.rmw (.unary op .rm64)) length reg reg)
      (handleUnary op .rm64)) :
    Leads env (Exactly s m) (Exactly (behind s length
      ((setFlags s (unaryCompute op 8 s.rflags (s.gpr reg)).2).setGpr reg
        (unaryCompute op 8 s.rflags (s.gpr reg)).1)) m) := by
  refine state_rule henv hinst (fun _ => ?_)
    fun h => (h.setFlags (unaryCompute_frame _ _ _)).setGpr reg _
  rw [← truncate_full (unaryCompute op 8 s.rflags (s.gpr reg)).1]
  rfl

/-- `LEA` of a base and a displacement. -/
theorem lea_rule {n length : Nat} {reg base : Fin 16} {displacement : U64}
    (hinst : env.Installed m s.rip (regMem (.other n) length 1 reg base displacement)
      handleLeaR64M) :
    Leads env (Exactly s m)
      (Exactly (behind s length (s.setGpr reg (s.gpr base + displacement))) m) := by
  refine state_rule henv hinst (fun h => ?_) fun h => h.setGpr reg _
  rw [← regMem_address (.other n) length 1 reg base displacement h]
  rfl

/-- `MOV` between registers. -/
theorem mov_rule {n length : Nat} {dst src : Fin 16}
    (hinst : env.Installed m s.rip (regReg (.other n) length dst src) (handleMovRRm .rm64)) :
    Leads env (Exactly s m) (Exactly (behind s length (s.setGpr dst (s.gpr src))) m) := by
  refine state_rule henv hinst (fun h => ?_) fun h => h.setGpr dst _
  rfl

/-- A conditional jump. -/
theorem jcc_rule {n length : Nat} {target : U64} {cond : Cond} {form : JccForm}
    (hinst : env.Installed m s.rip (branch (.other n) length target) (handleJcc cond form)) :
    Leads env (Exactly s m) (Exactly
      (if evalCond s cond then s.at target else behind s length s) m) := by
  let ctx := guestContext s m (branch (.other n) length target)
  have hjump := @exactly _ _ henv s m _ _ hinst (if evalCond s cond then jumped ctx else ctx)
    (fun _ => handleJcc_run cond form ctx)
  by_cases htaken : evalCond s cond = true
  · rw [if_pos htaken] at hjump ⊢
    exact hjump (fun h => h.atRip target) (Memory.CodeBefore.refl m)
  · rw [if_neg htaken] at hjump ⊢
    exact hjump id (Memory.CodeBefore.refl m)

/-- `MOV r32, imm32` clears the upper half. -/
theorem mov_imm_rule {n length : Nat} {dst : Fin 16} {value : U64}
    (hinst : env.Installed m s.rip
      { code := .other n, length := length, opRegister := fun _ => .r32 dst, immediate32 := value }
      (handleMovRImm .rm32)) :
    Leads env (Exactly s m)
      (Exactly (behind s length (s.setGpr dst (value &&& 0xFFFFFFFF#64))) m) := by
  refine state_rule henv hinst (fun h => ?_) fun h => h.setGpr dst _
  rfl

/-- `TEST` of two registers. -/
theorem test_rule {n length : Nat} {a b : Fin 16}
    (hinst : env.Installed m s.rip (regReg (.other n) length a b) (handleTest .rm64R64)) :
    Leads env (Exactly s m) (Exactly (behind s length
      (setFlags s (setLogicFlags s.rflags (s.gpr a &&& s.gpr b) 8))) m) := by
  refine state_rule henv hinst (fun h => ?_) fun h => h.setFlags fun i hi => setLogicFlags_frame hi ..
  rfl

/-- `IMUL` of two registers. -/
theorem imul_rule {n length : Nat} {dst src : Fin 16}
    (hinst : env.Installed m s.rip (regReg (.other n) length dst src) (imulRegRm 128 8)) :
    Leads env (Exactly s m) (Exactly (behind s length
      (setFlags (s.setGpr dst (s.gpr dst * s.gpr src))
        (setMultiplyFlags s.rflags (s.gpr dst * s.gpr src) 8
          (imulOverflow 8 (imulProduct 128 8 (s.gpr dst) (s.gpr src)))))) m) := by
  refine state_rule henv hinst (fun h => ?_)
    fun h => (h.setGpr dst _).setFlags fun i hi => setMultiplyFlags_frame hi ..
  rw [← operandCast_imulProduct]
  have hrun : imulRegRm 128 8 (guestContext s m (regReg (.other n) length dst src)) =
      .ok () { guestContext s m (regReg (.other n) length dst src) with
        state :=
          let product := imulProduct 128 8 (signExtend (s.gpr dst) 8) (signExtend (s.gpr src) 8)
          setFlags (s.setGpr dst (operandCast 8 product))
            (setMultiplyFlags s.rflags (operandCast 8 product) 8 (imulOverflow 8 product)) } := rfl
  rw [hrun, signExtend_full, signExtend_full]

/-- `TZCNT` of a register. -/
theorem tzcnt_rule {n length : Nat} {dst src : Fin 16}
    (hinst : env.Installed m s.rip (regReg (.other n) length dst src) (handleTzcnt .rm64)) :
    Leads env (Exactly s m) (Exactly (behind s length
      (setFlags (s.setGpr dst (countrZero (s.gpr src)))
        (setFlag (setFlag (clearCountFlags s.rflags) kFlagCF (s.gpr src == 0#64)) kFlagZF
          (countrZero (s.gpr src) == 0#64)))) m) := by
  refine state_rule henv hinst (fun h => ?_)
    fun h => (h.setGpr dst _).setFlags fun i hi => countFlags_frame hi ..
  rw [← BitVec.setWidth_eq (s.gpr src)]
  rfl

/-- `BLSR` of a register. -/
theorem blsr_rule {n length : Nat} {dst src : Fin 16}
    (hinst : env.Installed m s.rip (regReg (.other n) length dst src)
      (handleLowestBit .blsr .r64)) :
    Leads env (Exactly s m) (Exactly (behind s length
      ((setFlags s (lowestBitFlags s.rflags (LowestBitOp.blsr.compute (s.gpr src)) 8)).setGpr dst
        (s.gpr src &&& (s.gpr src - 1#64)))) m) := by
  refine state_rule henv hinst (fun h => ?_)
    fun h => (h.setFlags fun i hi => lowestBitFlags_frame hi ..).setGpr dst _
  rw [← truncate_full (s.gpr src &&& (s.gpr src - 1#64))]
  rfl

/-- `XOR r32, r32` of a register with itself clears all of it. -/
theorem xor_self_rule {length : Nat} {reg : Fin 16}
    (hinst : env.Installed m s.rip
      { code := .rmw (.alu .xor .rm32R32), length := length, opRegister := fun _ => .r32 reg }
      (handleAlu .xor .rm32R32)) :
    ∃ rflags, (∀ i, notStatus i → rflags.getLsbD i = s.rflags.getLsbD i) ∧
      Leads env (Exactly s m) (Exactly (behind s length ((setFlags s rflags).setGpr reg 0#64)) m) := by
  let v := s.gpr reg &&& 0xFFFFFFFF#64
  have hframe (i : Nat) (hi : notStatus i) :
      (setLogicFlags s.rflags (v ^^^ v) 4).getLsbD i = s.rflags.getLsbD i := setLogicFlags_frame hi ..
  refine ⟨_, hframe, state_rule henv hinst (fun h => ?_) fun h => (h.setFlags hframe).setGpr reg _⟩
  let ctx := guestContext s m
    { code := .rmw (.alu .xor .rm32R32), length := length, opRegister := fun _ => .r32 reg }
  have hrun : handleAlu .xor .rm32R32 ctx = .ok () { ctx with
      state := (setFlags s (setLogicFlags s.rflags (v ^^^ v) 4)).setGpr reg
        (truncate (v ^^^ v) 4 &&& 0xFFFFFFFF#64) } := rfl
  refine hrun.trans ?_
  rw [BitVec.xor_self]
  rfl

/-- `DIV` of `RAX` by a register that is not zero, with `RDX` clear. -/
theorem div_rule {n length : Nat} {reg : Fin 16}
    (hinst : env.Installed m s.rip (regReg (.other n) length reg reg) handleDivRm64)
    (hzero : s.gpr reg ≠ 0#64) (hclear : s.gpr 2 = 0#64) :
    Leads env (Exactly s m) (Exactly (behind s length
      ((s.setGpr 0 (s.gpr 0 / s.gpr reg)).setGpr 2 (s.gpr 0 % s.gpr reg))) m) := by
  refine state_rule henv hinst (fun h => ?_) fun h => (h.setGpr 0 _).setGpr 2 _
  let ctx := guestContext s m (regReg (.other n) length reg reg)
  -- RDX is zero, so the dividend is RAX alone and the quotient fits.
  have hdividend : (readRegister s .rdx).setWidth 128 <<< 64 ||| (readRegister s .rax).setWidth 128 =
      (s.gpr 0).setWidth 128 := by
    show (s.gpr 2).setWidth 128 <<< 64 ||| (s.gpr 0).setWidth 128 = _
    rw [hclear]
    exact BitVec.zero_or
  have hquotient := wide_div_toNat (s.gpr 0) (s.gpr reg)
  have hremainder := wide_mod_toNat (s.gpr 0) (s.gpr reg)
  have hlt := (s.gpr 0).isLt
  have hfits : ¬ 0xFFFFFFFFFFFFFFFF#128 < (s.gpr 0).setWidth 128 / (s.gpr reg).setWidth 128 := by
    rw [BitVec.lt_def, hquotient]
    have hle := Nat.div_le_self (s.gpr 0).toNat (s.gpr reg).toNat
    simp only [BitVec.toNat_ofNat]
    omega
  have hq : ((s.gpr 0).setWidth 128 / (s.gpr reg).setWidth 128).setWidth 64 =
      s.gpr 0 / s.gpr reg := by
    apply BitVec.eq_of_toNat_eq
    rw [BitVec.toNat_setWidth, hquotient, BitVec.toNat_udiv]
    exact Nat.mod_eq_of_lt (Nat.lt_of_le_of_lt (Nat.div_le_self ..) hlt)
  have hr : ((s.gpr 0).setWidth 128 % (s.gpr reg).setWidth 128).setWidth 64 =
      s.gpr 0 % s.gpr reg := by
    apply BitVec.eq_of_toNat_eq
    rw [BitVec.toNat_setWidth, hremainder, BitVec.toNat_umod]
    exact Nat.mod_eq_of_lt (Nat.lt_of_le_of_lt (Nat.mod_le ..) hlt)
  refine (@divRm_run .rm64 ctx (s.gpr reg) _ _ _ rfl hzero).trans ?_
  rw [show ctx.state = s from rfl, hdividend, if_neg hfits, hq, hr]
  rfl

/-! ### The stack -/

/-- `PUSH` of a register. -/
theorem push_rule {length : Nat} {reg : Fin 16} {slot : U64}
    (hinst : env.Installed m s.rip (regReg (.stack .pushR64) length reg reg) (pushOperandWidth 8))
    (hslot : s.rsp - 8#64 = slot) (hword : m.DataWord slot) :
    Leads env (Exactly s m)
      (Exactly (behind s length (s.setRsp (s.rsp - 8#64))) (m.stored slot (s.gpr reg) 8)) := by
  subst hslot
  let ctx := guestContext s m (regReg (.stack .pushR64) length reg reg)
  refine @exactly _ _ henv s m _ _ hinst
    { ctx with state := s.setRsp (s.rsp - 8#64), memory := m.stored (s.rsp - 8#64) (s.gpr reg) 8 }
    (fun h => ?_) (fun h => h.setGpr 4 _) (hword.store_kept _).before
  have hpush := @pushSlot_ok [1, 2, 4, 8] unsupportedInstruction (s.gpr reg) 8 (by decide) ctx
  rw [show ctx.state.pushed 8 = _ from h.pushed] at hpush
  exact hpush (hword.accepts _)

/-- `POP` of a register. -/
theorem pop_rule {length : Nat} {reg : Fin 16}
    (hinst : env.Installed m s.rip (regReg (.stack .popR64) length reg reg) (popOperandWidth 8))
    (hword : m.DataWord s.rsp) :
    Leads env (Exactly s m) (Exactly
      (behind s length ((s.setRsp (s.rsp + 8#64)).setGpr reg (m.word s.rsp))) m) := by
  refine state_rule henv hinst (fun h => ?_) fun h => (h.setGpr 4 _).setGpr reg _
  let ctx := guestContext s m (regReg (.stack .popR64) length reg reg)
  have hpop : popWidth 8 ctx = .ok (m.word s.rsp) { ctx with state := s.setRsp (s.rsp + 8#64) } := by
    rw [← h.popped]
    exact popWidth_some (by decide) hword.read
  have hrest : ((fun value => do
      writeOperandChecked 0 value 8
      notePopSs s.rsp 8) : U64 → Handler) (m.word s.rsp)
        { ctx with state := s.setRsp (s.rsp + 8#64) } =
      .ok () { ctx with state := (s.setRsp (s.rsp + 8#64)).setGpr reg (truncate (m.word s.rsp) 8) } :=
    rfl
  rw [truncate_full] at hrest
  exact (bind_ok hpop).trans hrest

/-- `CALL` of a near target. -/
theorem call_rule {length : Nat} {target slot : U64}
    (hinst : env.Installed m s.rip (branch (.stack .callRel32_64) length target) (callRelWidth 8))
    (hslot : s.rsp - 8#64 = slot) (hword : m.DataWord slot) :
    Leads env (Exactly s m) (Exactly ((s.setRsp (s.rsp - 8#64)).at target)
      (m.stored slot (s.rip + BitVec.ofNat 64 (max 1 length)) 8)) := by
  subst hslot
  let ctx := guestContext s m (branch (.stack .callRel32_64) length target)
  refine @exactly _ _ henv s m _ _ hinst
    { ctx with
      state := (s.setRsp (s.rsp - 8#64)).at target
      memory := m.stored (s.rsp - 8#64) (s.rip + BitVec.ofNat 64 (max 1 length)) 8
      controlFlowTaken := true }
    (fun h => ?_) (fun h => (h.setGpr 4 _).atRip target) (hword.store_kept _).before
  have hpush := @pushSlot_ok [1, 2, 4, 8] unsupportedInstruction ctx.nextRip 8 (by decide) ctx
  rw [show ctx.state.pushed 8 = _ from h.pushed] at hpush
  exact bind_ok (hpush (hword.accepts _))

/-- `RET` to the word on top of the stack. -/
theorem ret_rule {length : Nat}
    (hinst : env.Installed m s.rip { code := .stack .retnq, length := length } (retWidth 8 false))
    (hword : m.DataWord s.rsp) :
    Leads env (Exactly s m) (Exactly ((s.setRsp (s.rsp + 8#64)).at (m.word s.rsp)) m) := by
  let ctx := guestContext s m { code := .stack .retnq, length := length }
  refine @exactly _ _ henv s m _ _ hinst
    { ctx with state := (s.setRsp (s.rsp + 8#64)).at (m.word s.rsp), controlFlowTaken := true }
    (fun h => ?_) (fun h => (h.setGpr 4 _).atRip _) (Memory.CodeBefore.refl m)
  -- The pop moves RSP before the target is masked and RIP set.
  have hpop : popWidth 8 ctx = .ok (m.word s.rsp) { ctx with state := s.setRsp (s.rsp + 8#64) } := by
    rw [← h.popped]
    exact popWidth_some (by decide) hword.read
  let t := s.setRsp (s.rsp + 8#64)
  let u := t.at (maskInstructionPointer t (m.word s.rsp))
  have ht : t.Quiet := h.setGpr 4 _
  have hu : u = t.at (m.word s.rsp) := congrArg t.at (ht.maskInstructionPointer _)
  have hsp : u.setRsp (maskStackPointer u (u.rsp + 0#64)) = u := by
    rw [(ht.atRip _).maskStackPointer, BitVec.add_zero]
    exact (u.setRsp_eq_self_iff _).mpr rfl
  refine (bind_ok hpop).trans ?_
  show EStateM.Result.ok ()
    { ctx with state := u.setRsp (maskStackPointer u (u.rsp + 0#64)), controlFlowTaken := true } = _
  rw [hsp, hu]

end rules

/-! ## Encodings

A decoder for the forms of these instructions that the programs use, and the
environment with it. -/

/-- The decoder of the guest programs. -/
def guestDecoder : Decode := fun _ bytes rip =>
  match bytes.take 5 with
  | 0x48#8 :: 0xAD#8 :: _ => some { code := .string .lods .rm64, length := 2 }
  | 0x48#8 :: 0xAB#8 :: _ => some { code := .string .stos .rm64, length := 2 }
  | 0x48#8 :: 0x11#8 :: 0x07#8 :: _ => some (regMem (.rmw (.alu .adc .rm64R64)) 3 0 0 7 0#64)
  | 0x48#8 :: 0x8D#8 :: 0x7F#8 :: offset :: _ =>
    some (regMem (.other 0x8D) 4 1 7 7 (signExtend (offset.setWidth 64) 1))
  | 0x48#8 :: 0xFF#8 :: 0xC9#8 :: _ => some (regReg (.rmw (.unary .dec .rm64)) 3 1 1)
  | 0x48#8 :: 0xFF#8 :: 0xCF#8 :: _ => some (regReg (.rmw (.unary .dec .rm64)) 3 7 7)
  | 0x48#8 :: 0x85#8 :: 0xFF#8 :: _ => some (regReg (.other 0x85) 3 7 7)
  | 0x48#8 :: 0x0F#8 :: 0xAF#8 :: 0xC7#8 :: _ => some (regReg (.other 0xAF) 4 0 7)
  | 0x48#8 :: 0xF7#8 :: 0xF3#8 :: _ => some (regReg (.other 0xF7) 3 3 3)
  | 0x48#8 :: 0x8B#8 :: 0xC3#8 :: _ => some (regReg (.other 0x8B) 3 0 3)
  | 0x48#8 :: 0x8B#8 :: 0xDA#8 :: _ => some (regReg (.other 0x8B) 3 3 2)
  | 0x48#8 :: 0x85#8 :: 0xDB#8 :: _ => some (regReg (.other 0x85) 3 3 3)
  | 0x31#8 :: 0xD2#8 :: _ => some
    { code := .rmw (.alu .xor .rm32R32), length := 2, opRegister := fun _ => .r32 2 }
  | [0xF3#8, 0x48#8, 0x0F#8, 0xBC#8, 0xC3#8] => some (regReg (.other 0xBC) 5 0 3)
  | [0xC4#8, 0xE2#8, 0xE0#8, 0xF3#8, 0xCB#8] => some (regReg (.other 0xF3) 5 3 3)
  | [0xB8#8, a, b, c, d] => some
    { code := .other 0xB8, length := 5, opRegister := fun _ => .r32 0
      immediate32 := fromBytes [a, b, c, d] }
  | [0xE8#8, a, b, c, d] =>
    some (branch (.stack .callRel32_64) 5 (rip + 5#64 + signExtend (fromBytes [a, b, c, d]) 4))
  | 0x75#8 :: offset :: _ =>
    some (branch (.other 0x75) 2 (rip + 2#64 + signExtend (offset.setWidth 64) 1))
  | 0x57#8 :: _ => some (regReg (.stack .pushR64) 1 7 7)
  | 0x5F#8 :: _ => some (regReg (.stack .popR64) 1 7 7)
  | 0xC3#8 :: _ => some { code := .stack .retnq, length := 1 }
  | _ => none

/-- The environment they run in. -/
def guestEnv : RunEnv Unit where
  decode := guestDecoder
  otherHandler code := match code with
    | .other 0x8D => some handleLeaR64M
    | .other 0x85 => some (handleTest .rm64R64)
    | .other 0x8B => some (handleMovRRm .rm64)
    | .other 0xF7 => some handleDivRm64
    | .other 0xAF => some (imulRegRm 128 8)
    | .other 0xBC => some (handleTzcnt .rm64)
    | .other 0xF3 => some (handleLowestBit .blsr .r64)
    | .other 0xB8 => some (handleMovRImm .rm32)
    | .other 0x75 => some (handleJcc .ne .rel8_64)
    | _ => none

/-- Nothing interferes there. -/
theorem guestEnv_undisturbed : guestEnv.Undisturbed where
  hooks := ⟨fun _ => rfl, rfl, fun _ => rfl, rfl, fun _ => rfl⟩
  decode bitness bytes rip := by
    show guestDecoder bitness bytes rip = guestDecoder bitness _ rip
    unfold guestDecoder maxInstructionLength
    rw [List.take_take]
    rfl
  contextRead := rfl
  contextWrite := rfl
  stopHooks := rfl
  takeStop _ := rfl

/-- Code at `0x1000` and data at `0x2000`, each in a page of its own. -/
def guestMemory (code : List Byte) (address : U64) (data : List Byte) : Memory :=
  (((({} : Memory).map 0x1000#64 0x1000#64 kMemoryPermissionAll).map 0x2000#64 0x1000#64
    kMemoryPermissionReadWrite).writeUnchecked 0x1000#64 code).1.writeUnchecked address data |>.1

/-- A fresh executor in front of the code. -/
theorem ready_fresh {m : Machine Unit} (hquiet : m.state.Quiet) : Ready guestEnv (0, {}, m) := by
  have hempty : ({} : Executor).caches.Empty := ⟨fun _ => rfl, fun _ => rfl⟩
  exact ⟨rfl, hempty.coherent _, hquiet⟩

end Guest

end Seven
