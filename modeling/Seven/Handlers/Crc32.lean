import Mathlib.Data.List.Basic
import Mathlib.Logic.Function.Iterate
import Seven.Handlers.VectorMoves
import Seven.Handlers.WidePair

/-!
# `CRC32`

The instruction folds the bytes of its source into the CRC-32C register that
the low half of the destination holds. Sources have one, two, four or eight
bytes; the destination is read and written under its 32- or 64-bit name,
whatever name the instruction gives it, and either way the high half is left
zero.

Reflected checks in general, for any register and any polynomial, stand first: a
register takes a byte by adding it to its low end and shifting eight times, and
a bit that falls out adds the polynomial. The check of a list is the fold of
that over its bytes.

Main result: `crc32_chunking` — a list that is fed to a register in pieces is
checked byte by byte, however it was cut.
-/

/-! ## Reflected cyclic redundancy checks -/

namespace Seven.Lib.Crc

section

variable {n : Nat} (poly : BitVec n)

/-- One shift. -/
def bitStep (crc : BitVec n) : BitVec n :=
  (crc >>> 1) ^^^ (if crc.getLsbD 0 then poly else 0#n)

/-- Eight bits. -/
def byteStep (crc : BitVec n) (b : BitVec 8) : BitVec n :=
  Nat.iterate (bitStep poly) 8 (crc ^^^ b.setWidth n)

/-- The bytes in order. -/
def update (crc : BitVec n) (bytes : List (BitVec 8)) : BitVec n :=
  bytes.foldl (byteStep poly) crc

/-- A list may be cut into pieces. -/
theorem update_append (crc : BitVec n) (bs cs : List (BitVec 8)) :
    update poly crc (bs ++ cs) = update poly (update poly crc bs) cs := List.foldl_append

end

end Seven.Lib.Crc

namespace Seven

open Seven.Lib

/-- `R32_RM8`, `R64_RM8`, `R32_RM16`, `R32_RM32` and `R64_RM64`. -/
inductive Crc32Form where
  | r32Rm8 | r64Rm8 | r32Rm16 | r32Rm32 | r64Rm64
deriving DecidableEq, Repr

/-! ## The handler -/

/-- The polynomial of CRC-32C, reflected. -/
def kPoly : BitVec 32 := 0x82F63B78#32

/-- `crc32_dest_register`: the 32- or 64-bit name of a general register. -/
def crc32DestRegister (reg : Register) (width : Nat) : Register :=
  match reg with
  | .r64 i | .r32 i | .r16 i | .r8 i => if width = 8 then .r64 i else .r32 i
  | reg => reg

/-- `crc32c_update`. -/
def crc32cUpdate (crc : BitVec 32) (value : U64) (width : Nat) : BitVec 32 :=
  (List.range width).foldl (fun crc i =>
    (List.range 8).foldl
      (fun crc _ => (crc >>> 1) ^^^ (if crc &&& 1#32 ≠ 0#32 then kPoly else 0#32))
      (crc ^^^ (((value >>> (i * 8)) &&& 0xFF#64).setWidth 8).setWidth 32)) crc

/-- The width of the destination, by the code. -/
def Crc32Form.destWidth : Crc32Form → Nat
  | .r64Rm8 | .r64Rm64 => 8
  | _ => 4

/-- `crc32_impl`. -/
def crc32Impl (x : EvexFields) (form : Crc32Form) : Handler := do
  let ctx ← get
  let width := operandWidth x ctx.instr 1
  let destReg := crc32DestRegister (ctx.instr.opRegister 0) form.destWidth
  let src ← readOperandChecked 1 width
  let seed := (readRegister ctx.state destReg).setWidth 32
  let crc := (crc32cUpdate seed src width).setWidth 64
  modifyState fun s => writeRegister s destReg crc 0

def handleCrc32R32Rm8 (x : EvexFields) : Handler := crc32Impl x .r32Rm8
def handleCrc32R64Rm8 (x : EvexFields) : Handler := crc32Impl x .r64Rm8
def handleCrc32R32Rm16 (x : EvexFields) : Handler := crc32Impl x .r32Rm16
def handleCrc32R32Rm32 (x : EvexFields) : Handler := crc32Impl x .r32Rm32
def handleCrc32R64Rm64 (x : EvexFields) : Handler := crc32Impl x .r64Rm64

/-- The five forms. -/
def handleCrc32 : Crc32Form → EvexFields → Handler
  | .r32Rm8 => handleCrc32R32Rm8
  | .r64Rm8 => handleCrc32R64Rm8
  | .r32Rm16 => handleCrc32R32Rm16
  | .r32Rm32 => handleCrc32R32Rm32
  | .r64Rm64 => handleCrc32R64Rm64

/-! ## What the decoder promises -/

/-- The source of a form: a byte, a word, a double word or a quad word. -/
def Crc32Form.source : Crc32Form → RmWidth
  | .r32Rm8 | .r64Rm8 => .rm8
  | .r32Rm16 => .rm16
  | .r32Rm32 => .rm32
  | .r64Rm64 => .rm64

/-- A name of the general register `i` that does not stand for its second
byte. -/
def Register.Names (reg : Register) (i : Fin 16) : Prop :=
  reg = .r8 i ∨ reg = .r16 i ∨ reg = .r32 i ∨ reg = .r64 i

/-- A decoded form: a destination that names register `i`, and a source of
the form's width. -/
structure Crc32Form.Decoded (form : Crc32Form) (x : EvexFields) (instr : Instruction) (i : Fin 16) :
    Prop where
  dest : (instr.opRegister 0).Names i
  source : RmOperand instr 1 form.source
  size : instr.opKind 1 = .memory → x.memorySize = form.source.bytes

/-! ## One instruction -/

/-- The update goes through the bytes of the source. -/
theorem crc32cUpdate_eq (crc : BitVec 32) (value : U64) (width : Nat) :
    crc32cUpdate crc value width = Crc.update kPoly crc (toBytes value width) := by
  have hbit : (fun crc : BitVec 32 => (crc >>> 1) ^^^ (if crc &&& 1#32 ≠ 0#32 then kPoly else 0#32)) =
      Crc.bitStep kPoly := by
    funext crc
    -- The code tests the low bit before the shift, as the bytewise definition does.
    have hlow : (crc &&& 1#32 ≠ 0#32) ↔ crc.getLsbD 0 = true := by
      have hone : crc &&& 1#32 = if crc.getLsbD 0 = true then 1#32 else 0#32 := by
        apply BitVec.eq_of_getLsbD_eq
        intro j hj
        rw [BitVec.getLsbD_and, BitVec.getLsbD_one]
        by_cases h0 : j = 0
        · subst h0
          cases crc.getLsbD 0 <;> rfl
        · rw [decide_eq_false h0, Bool.and_false, Bool.and_false]
          split <;> simp [BitVec.getLsbD_one, h0]
      rw [hone]
      split
      next h => exact iff_of_true (by decide) h
      next h => exact iff_of_false (by decide) h
    unfold Crc.bitStep
    simp only [hlow]
  have hbyte : ∀ i, ((value >>> (i * 8)) &&& 0xFF#64).setWidth 8 = (value >>> (8 * i)).setWidth 8 := by
    intro i
    have hmask : ∀ j < 8, (0xFF#64).getLsbD j = true := by decide
    apply BitVec.eq_of_getLsbD_eq
    intro j hj
    rw [BitVec.getLsbD_setWidth, BitVec.getLsbD_setWidth, BitVec.getLsbD_and, hmask j hj,
      Bool.and_true, Nat.mul_comm i 8]
  -- Each byte is one fold of eight bit steps.
  unfold crc32cUpdate Crc.update toBytes
  rw [List.foldl_map]
  congr 1
  funext crc i
  rw [hbyte]
  exact (List.foldl_const _ _ _).trans (by rw [hbit]; rfl)

/-- The CRC-32C register after a list of bytes. -/
def crc32c (crc : BitVec 32) (bytes : List Byte) : BitVec 32 := Crc.update kPoly crc bytes

section

variable {form : Crc32Form} {x : EvexFields} {ctx ctx' : ExecutionContext} {i : Fin 16} {value : U64}

/-- A decoded source has its form's width. -/
theorem Crc32Form.Decoded.operandWidth (h : form.Decoded x ctx.instr i) :
    operandWidth x ctx.instr 1 = form.source.bytes := by
  unfold Seven.operandWidth
  rcases h.source with hkind | ⟨hkind, -, hwidth⟩
  · simp only [hkind]
    exact h.size hkind
  · simp only [hkind]
    exact hwidth

/-- The destination is register `i` under a name of 32 or 64 bits. -/
theorem crc32DestRegister_names {reg : Register} (h : reg.Names i) (width : Nat) :
    crc32DestRegister reg width = .r64 i ∨ crc32DestRegister reg width = .r32 i := by
  have hname : crc32DestRegister reg width = if width = 8 then .r64 i else .r32 i := by
    rcases h with rfl | rfl | rfl | rfl <;> rfl
  rw [hname]
  split
  · exact Or.inl rfl
  · exact Or.inr rfl

/-- The low half. -/
theorem and_low32 (v : U64) : (v &&& 0xFFFFFFFF#64).setWidth 32 = v.setWidth 32 := by
  have hmask : ∀ j < 32, (0xFFFFFFFF#64).getLsbD j = true := by decide
  apply BitVec.eq_of_getLsbD_eq
  intro j hj
  rw [BitVec.getLsbD_setWidth, BitVec.getLsbD_setWidth, BitVec.getLsbD_and, hmask j hj, Bool.and_true]

/-- A checksum in a 64-bit register. -/
theorem setWidth_and_low32 (crc : BitVec 32) :
    crc.setWidth 64 &&& 0xFFFFFFFF#64 = crc.setWidth 64 := by
  have hmask : ∀ j < 32, (0xFFFFFFFF#64).getLsbD j = true := by decide
  apply BitVec.eq_of_getLsbD_eq
  intro j hj
  rw [BitVec.getLsbD_and, BitVec.getLsbD_setWidth]
  by_cases hlow : j < 32
  · rw [hmask j hlow, Bool.and_true]
  · rw [BitVec.getLsbD_of_ge crc j (by omega), Bool.and_false, Bool.false_and]

/-- One instruction: the low half of the register takes the bytes of the
source, the high half is zero. -/
theorem handleCrc32_ok (hdecoded : form.Decoded x ctx.instr i)
    (hread : readOperand ctx 1 form.source.bytes = some value) :
    handleCrc32 form x ctx = .ok () { ctx with
      state := ctx.state.setGpr i
        ((crc32c ((ctx.state.gpr i).setWidth 32) (toBytes value form.source.bytes)).setWidth 64) } := by
  have hget : (get : HandlerM ExecutionContext) ctx = .ok ctx ctx := rfl
  have hform : handleCrc32 form x = crc32Impl x form := by cases form <;> rfl
  rw [hform]
  unfold crc32Impl
  rw [bind_ok hget]
  dsimp only
  rw [hdecoded.operandWidth, bind_ok (readOperandChecked_ok_iff.mpr hread)]
  show EStateM.Result.ok () _ = _
  rw [crc32cUpdate_eq]
  rcases crc32DestRegister_names hdecoded.dest form.destWidth with hreg | hreg
  · rw [hreg]
    rfl
  · rw [hreg, show readRegister ctx.state (.r32 i) = ctx.state.gpr i &&& 0xFFFFFFFF#64 from rfl,
      and_low32]
    show EStateM.Result.ok () { ctx with state := ctx.state.setGpr i (_ &&& 0xFFFFFFFF#64) } = _
    rw [setWidth_and_low32]
    rfl

end

/-! ## A list fed in pieces -/

/-- Instructions of these forms take register `i` from one value to another
and read these bytes on the way. Between two of them anything may run that
leaves the register alone. -/
inductive Crc32Run (i : Fin 16) : List Crc32Form → U64 → List Byte → U64 → Prop
  | nil (value : U64) : Crc32Run i [] value [] value
  | cons {form : Crc32Form} {forms : List Crc32Form} {x : EvexFields} {ctx ctx' : ExecutionContext}
      {value final : U64} {bytes : List Byte} (hdecoded : form.Decoded x ctx.instr i)
      (hread : readOperand ctx 1 form.source.bytes = some value)
      (hstep : handleCrc32 form x ctx = .ok () ctx')
      (hrest : Crc32Run i forms (ctx'.state.gpr i) bytes final) :
      Crc32Run i (form :: forms) (ctx.state.gpr i) (toBytes value form.source.bytes ++ bytes) final

/-- Its high half is zero. -/
theorem setWidth_high_zero (crc : BitVec 32) : (crc.setWidth 64).toNat < 2 ^ 32 := by
  rw [BitVec.toNat_setWidth]
  exact lt_of_le_of_lt (Nat.mod_le _ _) crc.isLt

/-- The register's low half is the checksum of the bytes so far. -/
theorem Crc32Run.result {i : Fin 16} {forms : List Crc32Form} {v final : U64} {bytes : List Byte}
    (h : Crc32Run i forms v bytes final) :
    final.setWidth 32 = crc32c (v.setWidth 32) bytes ∧ (forms ≠ [] → final.toNat < 2 ^ 32) := by
  induction h with
  | nil value => exact ⟨rfl, fun h => absurd rfl h⟩
  | @cons form forms x ctx ctx' value final bytes hdecoded hread hstep hrest ih =>
    rw [handleCrc32_ok hdecoded hread] at hstep
    cases hstep
    obtain ⟨hlow, hhigh⟩ := ih
    dsimp only at hlow hrest
    rw [CpuState.setGpr_self] at hlow hrest
    constructor
    · rw [hlow, BitVec.setWidth_setWidth_of_le _ (by decide), BitVec.setWidth_eq]
      exact (Crc.update_append kPoly _ _ _).symm
    · intro _
      have hbound := setWidth_high_zero
        (crc32c ((ctx.state.gpr i).setWidth 32) (toBytes value form.source.bytes))
      generalize (crc32c ((ctx.state.gpr i).setWidth 32) (toBytes value form.source.bytes)).setWidth
        64 = w at hrest hbound
      cases hrest with
      | nil => exact hbound
      | cons => exact hhigh (List.cons_ne_nil _ _)

/-- Some other register than `i`. -/
def otherRegister (i : Fin 16) : Fin 16 := if i = 0 then 3 else 0

/-- Two registers. -/
theorem otherRegister_ne (i : Fin 16) : otherRegister i ≠ i := by
  unfold otherRegister
  split
  next h => rw [h]; decide
  next h => exact fun h' => h h'.symm

/-- `CRC32 r64, r` with the register value `v` and the source value `value`. -/
def crc32Context (form : Crc32Form) (i : Fin 16) (v value : U64) : ExecutionContext where
  state := (({} : CpuState).setGpr (otherRegister i) value).setGpr i v
  memory := {}
  instr :=
    { code := .other 0
      length := 5
      opRegister := fun k => if k = 0 then .r64 i else form.source.gpr (otherRegister i) }
  nextRip := 5#64

/-- Every cut of a list is some sequence of instructions. -/
theorem crc32Run_exists (i : Fin 16) (forms : List Crc32Form) (v : U64) (bytes : List Byte)
    (hcovers : (forms.map fun form => form.source.bytes).sum = bytes.length) :
    ∃ final, Crc32Run i forms v bytes final := by
  induction forms generalizing v bytes with
  | nil =>
    obtain rfl := List.eq_nil_of_length_eq_zero hcovers.symm
    exact ⟨v, .nil v⟩
  | cons form forms ih =>
    rw [List.map_cons, List.sum_cons] at hcovers
    have hw := form.source.bytes_bounds.2
    have hlen : (bytes.take form.source.bytes).length = form.source.bytes := by
      rw [List.length_take]
      omega
    obtain ⟨hbytes, hfits⟩ := (fromBytes_eq_iff hlen hw _).mp rfl
    have hrest : (forms.map fun form => form.source.bytes).sum =
        (bytes.drop form.source.bytes).length := by
      rw [List.length_drop]
      omega
    generalize fromBytes (bytes.take form.source.bytes) = value at hbytes hfits
    -- One instruction takes the bytes of its own width off the message.
    have hdecoded : form.Decoded {} (crc32Context form i v value).instr i := by
      refine ⟨Or.inr (Or.inr (Or.inr rfl)), Or.inr ⟨rfl, ?_, ?_⟩, fun h => by cases h⟩ <;>
        cases form <;> trivial
    have hv : (crc32Context form i v value).state.gpr i = v := CpuState.setGpr_self _ _ _
    have hsource : (crc32Context form i v value).state.gpr (otherRegister i) = value := by
      show (if otherRegister i = i then v else _) = value
      rw [if_neg (otherRegister_ne i)]
      exact CpuState.setGpr_self _ _ _
    have hread : readOperand (crc32Context form i v value) 1 form.source.bytes = some value := by
      show some (readRegister (crc32Context form i v value).state
        (form.source.gpr (otherRegister i))) = _
      rw [readRegister_gpr, hsource, truncate_of_lt hw hfits]
    have hstep := handleCrc32_ok hdecoded hread
    rw [hv] at hstep
    obtain ⟨final, hrun⟩ := ih ((crc32c (v.setWidth 32) (toBytes value form.source.bytes)).setWidth
      64) (bytes.drop form.source.bytes) hrest
    have hcons := Crc32Run.cons hdecoded hread hstep (by rw [CpuState.setGpr_self]; exact hrun)
    rw [hv, ← hbytes, List.take_append_drop] at hcons
    exact ⟨final, hcons⟩

/-- **`CRC32` in pieces.** An instruction leaves the high half of its register
zero, and a list that is fed to the register by any sequence of instructions
that covers it leaves the bytewise update of what the register held. -/
theorem crc32_chunking (i : Fin 16) :
    (∀ (form : Crc32Form) (x : EvexFields) (ctx : ExecutionContext) (value : U64),
      form.Decoded x ctx.instr i → readOperand ctx 1 form.source.bytes = some value →
      ∃ ctx', handleCrc32 form x ctx = .ok () ctx' ∧ (ctx'.state.gpr i).toNat < 2 ^ 32) ∧
    ∀ (forms : List Crc32Form) (v : U64) (bytes : List Byte),
      (forms.map fun form => form.source.bytes).sum = bytes.length →
      (∃ final, Crc32Run i forms v bytes final) ∧
      ∀ final, Crc32Run i forms v bytes final →
        final.setWidth 32 = crc32c (v.setWidth 32) bytes ∧ (forms ≠ [] → final.toNat < 2 ^ 32) := by
  constructor
  · intro form x ctx value hdecoded hread
    refine ⟨_, handleCrc32_ok hdecoded hread, ?_⟩
    rw [CpuState.setGpr_self]
    exact setWidth_high_zero _
  · intro forms v bytes hcovers
    exact ⟨crc32Run_exists i forms v bytes hcovers, fun final h => h.result⟩

/-- Three bytes in RCX, cut as a word and a byte. -/
theorem crc32_chunking_three :
    (∃ ctx', handleCrc32 .r32Rm8 {} (crc32Context .r32Rm8 1 0xFFFFFFFF#64 0x31#64) = .ok () ctx' ∧
      (ctx'.state.gpr 1).toNat < 2 ^ 32) ∧
    ∃ final, Crc32Run 1 [.r32Rm16, .r64Rm8] 0xFFFFFFFF#64 [0x31#8, 0x32#8, 0x33#8] final := by
  constructor
  · exact (crc32_chunking 1).1 .r32Rm8 {} (crc32Context .r32Rm8 1 0xFFFFFFFF#64 0x31#64) 0x31#64
      ⟨Or.inr (Or.inr (Or.inr rfl)), Or.inr ⟨rfl, trivial, rfl⟩, fun h => by cases h⟩ (by decide)
  · exact ((crc32_chunking 1).2 [.r32Rm16, .r64Rm8] 0xFFFFFFFF#64 [0x31#8, 0x32#8, 0x33#8] rfl).1

/-- The check value of CRC-32C, over the digits one to nine. -/
example : crc32c 0xFFFFFFFF#32 [0x31#8, 0x32#8, 0x33#8, 0x34#8, 0x35#8, 0x36#8, 0x37#8, 0x38#8,
    0x39#8] ^^^ 0xFFFFFFFF#32 = 0xE3069283#32 := by decide +kernel

end Seven
