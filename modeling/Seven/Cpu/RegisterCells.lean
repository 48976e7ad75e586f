import Mathlib.Algebra.Ring.Nat
import Mathlib.Data.Set.Insert
import Seven.Cpu.Context

/-!
# The cells of the register state

A register is a name for some bits of a cell: the 68 names of the general
registers share sixteen cells. `GprName.register` is what the architecture
says of the names, by family and index; the tables of the code are compared
with it.

A read looks at one cell and a write changes one, with the tag of an MMX
register as the exception. So a register that has no bit in common with the
one written keeps its value, whichever two they are
(`readRegister_of_not_overlap`): in one cell, only the two low bytes of a
general register keep out of each other's way.

That a read does not see a write to other cells is a fact about any state that
is made of cells (`ReadsOnly.frame`): `n` reads and `n` writes take `2n` facts
and not a table of `n * n`.
-/

/-! ## Reads and writes of cells -/

namespace Seven.Lib

/-! `agree c s t` says that two states have the same in cell `c`. -/

variable {σ κ α : Type} {agree : κ → σ → σ → Prop}

/-- The value of `f` depends on the cells `R` alone. -/
def ReadsOnly (agree : κ → σ → σ → Prop) (f : σ → α) (R : Set κ) : Prop :=
  ∀ s t, (∀ c ∈ R, agree c s t) → f s = f t

/-- `g` changes nothing but the cells `W`. -/
def WritesOnly (agree : κ → σ → σ → Prop) (g : σ → σ) (W : Set κ) : Prop :=
  ∀ s, ∀ c ∉ W, agree c (g s) s

/-- A read does not see a write to other cells. -/
theorem ReadsOnly.frame {f : σ → α} {g : σ → σ} {R W : Set κ} (hf : ReadsOnly agree f R)
    (hg : WritesOnly agree g W) (hdisjoint : ∀ c ∈ R, c ∉ W) (s : σ) : f (g s) = f s := by
  apply hf
  intro c hc
  exact hg s c (hdisjoint c hc)

/-- A read of one cell. -/
theorem ReadsOnly.of_cell {f : σ → α} {c : κ} (h : ∀ s t, agree c s t → f s = f t) :
    ReadsOnly agree f {c} := by
  intro s t hagree
  exact h s t (hagree c (Set.mem_singleton c))

end Seven.Lib

namespace Seven

open Seven.Lib

/-- The names of the general registers. -/
inductive GprName where
  | al | cl | dl | bl | ah | ch | dh | bh | spl | bpl | sil | dil
  | r8l | r9l | r10l | r11l | r12l | r13l | r14l | r15l
  | ax | cx | dx | bx | sp | bp | si | di
  | r8w | r9w | r10w | r11w | r12w | r13w | r14w | r15w
  | eax | ecx | edx | ebx | esp | ebp | esi | edi
  | r8d | r9d | r10d | r11d | r12d | r13d | r14d | r15d
  | rax | rcx | rdx | rbx | rsp | rbp | rsi | rdi
  | r8 | r9 | r10 | r11 | r12 | r13 | r14 | r15
deriving DecidableEq

/-- `Fin 4` has a zero. -/
theorem neZeroFour : NeZero 4 := ⟨by decide⟩

/-- The order of AH, CH, DH and BH. -/
def highByteIndex (n : Nat) : Fin 4 := @Fin.ofNat 4 neZeroFour n

/-- Family and index of a name, by the architecture. -/
def GprName.register : GprName → Register
  | .al => .r8 0 | .cl => .r8 1 | .dl => .r8 2 | .bl => .r8 3
  | .ah => .r8h (highByteIndex 0) | .ch => .r8h (highByteIndex 1)
  | .dh => .r8h (highByteIndex 2) | .bh => .r8h (highByteIndex 3)
  | .spl => .r8 4 | .bpl => .r8 5 | .sil => .r8 6 | .dil => .r8 7
  | .r8l => .r8 8 | .r9l => .r8 9 | .r10l => .r8 10 | .r11l => .r8 11
  | .r12l => .r8 12 | .r13l => .r8 13 | .r14l => .r8 14 | .r15l => .r8 15
  | .ax => .r16 0 | .cx => .r16 1 | .dx => .r16 2 | .bx => .r16 3
  | .sp => .r16 4 | .bp => .r16 5 | .si => .r16 6 | .di => .r16 7
  | .r8w => .r16 8 | .r9w => .r16 9 | .r10w => .r16 10 | .r11w => .r16 11
  | .r12w => .r16 12 | .r13w => .r16 13 | .r14w => .r16 14 | .r15w => .r16 15
  | .eax => .r32 0 | .ecx => .r32 1 | .edx => .r32 2 | .ebx => .r32 3
  | .esp => .r32 4 | .ebp => .r32 5 | .esi => .r32 6 | .edi => .r32 7
  | .r8d => .r32 8 | .r9d => .r32 9 | .r10d => .r32 10 | .r11d => .r32 11
  | .r12d => .r32 12 | .r13d => .r32 13 | .r14d => .r32 14 | .r15d => .r32 15
  | .rax => .r64 0 | .rcx => .r64 1 | .rdx => .r64 2 | .rbx => .r64 3
  | .rsp => .r64 4 | .rbp => .r64 5 | .rsi => .r64 6 | .rdi => .r64 7
  | .r8 => .r64 8 | .r9 => .r64 9 | .r10 => .r64 10 | .r11 => .r64 11
  | .r12 => .r64 12 | .r13 => .r64 13 | .r14 => .r64 14 | .r15 => .r64 15

/-- Where registers live. -/
inductive RegisterCell where
  | gpr (i : Fin 16)
  | mmx (i : Fin 8)
  | sreg (i : Fin 6)
  | cr (i : Fin 16)
  | dr (i : Fin 16)
  | tr (i : Fin 8)
  | rip | rflags | fsBase | gsBase | gdtrBase | idtrBase
  | mxcsr | x87ControlWord | x87StatusWord | x87Top
  | x87Register (i : Fin 8)
  | x87Tag (i : Fin 8)
  | vector (i : Fin 32)
deriving DecidableEq

/-- Two states have the same in a cell. -/
def CpuState.Agree : RegisterCell → CpuState → CpuState → Prop
  | .gpr i, s, t => s.gpr i = t.gpr i
  | .mmx i, s, t => s.mmx i = t.mmx i
  | .sreg i, s, t => s.sreg i = t.sreg i
  | .cr i, s, t => s.cr i = t.cr i
  | .dr i, s, t => s.dr i = t.dr i
  | .tr i, s, t => s.tr i = t.tr i
  | .rip, s, t => s.rip = t.rip
  | .rflags, s, t => s.rflags = t.rflags
  | .fsBase, s, t => s.fsBase = t.fsBase
  | .gsBase, s, t => s.gsBase = t.gsBase
  | .gdtrBase, s, t => s.gdtr.base = t.gdtr.base
  | .idtrBase, s, t => s.idtr.base = t.idtr.base
  | .mxcsr, s, t => s.mxcsr = t.mxcsr
  | .x87ControlWord, s, t => s.x87ControlWord = t.x87ControlWord
  | .x87StatusWord, s, t => s.x87StatusWord = t.x87StatusWord
  | .x87Top, s, t => s.x87Top = t.x87Top
  | .x87Register i, s, t => s.x87Stack i = t.x87Stack i
  | .x87Tag i, s, t => s.x87Tags i = t.x87Tags i
  | .vector i, s, t => s.vectors i = t.vectors i

/-- A state agrees with itself. -/
theorem CpuState.Agree.refl (c : RegisterCell) (s : CpuState) : CpuState.Agree c s s := by
  cases c <;> exact rfl

/-! ## Updates of one cell -/

namespace CpuState

/-- A general register's cell. -/
theorem setGpr_writesOnly (i : Fin 16) (value : CpuState → U64) :
    WritesOnly Agree (fun s => s.setGpr i (value s)) {.gpr i} := by
  intro s c hc
  cases c with
  | gpr j => exact if_neg fun h => hc (congrArg RegisterCell.gpr h)
  | _ => exact rfl

/-- A segment register's cell. -/
theorem setSreg_writesOnly (i : Fin 6) (value : CpuState → BitVec 16) :
    WritesOnly Agree (fun s => s.setSreg i (value s)) {.sreg i} := by
  intro s c hc
  cases c with
  | sreg j => exact if_neg fun h => hc (congrArg RegisterCell.sreg h)
  | _ => exact rfl

/-- A control register's cell. -/
theorem cr_writesOnly (i : Fin 16) (value : CpuState → U64) :
    WritesOnly Agree (fun s => { s with cr := fun j => if j = i then value s else s.cr j })
      {.cr i} := by
  intro s c hc
  cases c with
  | cr j => exact if_neg fun h => hc (congrArg RegisterCell.cr h)
  | _ => exact rfl

/-- A debug register's cell. -/
theorem setDr_writesOnly (i : Fin 16) (value : CpuState → U64) :
    WritesOnly Agree (fun s => s.setDr i (value s)) {.dr i} := by
  intro s c hc
  cases c with
  | dr j => exact if_neg fun h => hc (congrArg RegisterCell.dr h)
  | _ => exact rfl

/-- A test register's cell. -/
theorem tr_writesOnly (i : Fin 8) (value : CpuState → U64) :
    WritesOnly Agree (fun s => { s with tr := fun j => if j = i then value s else s.tr j })
      {.tr i} := by
  intro s c hc
  cases c with
  | tr j => exact if_neg fun h => hc (congrArg RegisterCell.tr h)
  | _ => exact rfl

end CpuState

/-- Another register is left. -/
theorem setGpr_ne (s : CpuState) {i j : Fin 16} (h : j ≠ i) (value : U64) :
    (s.setGpr i value).gpr j = s.gpr j := if_neg h

/-! ## Registers as bits of cells -/

namespace Register

/-- The cell that a register is part of. -/
def cell : Register → RegisterCell
  | .r8 i | .r16 i | .r32 i | .r64 i => .gpr i
  | .r8h i => .gpr (lowIndex i)
  | .sreg i => .sreg i
  | .cr i => .cr i
  | .dr i => .dr i
  | .tr i => .tr i
  | .mm i => .mmx i
  | .none | .other _ => .gpr 0

/-- Its lowest bit there. -/
def low : Register → Nat
  | .r8h _ => 8
  | _ => 0

/-- Two registers have a bit in common. -/
def Overlap (r r' : Register) : Prop :=
  r.cell = r'.cell ∧ r.low < r'.low + 8 * registerWidth r' ∧ r'.low < r.low + 8 * registerWidth r

/-- The cells that a write changes: one of an MMX register also marks the x87
register of the index as used. -/
def touched (r : Register) : Set RegisterCell :=
  match r with
  | .mm i => {.mmx i, .x87Tag i}
  | r => {r.cell}

end Register

/-- A register reads its own cell only. -/
theorem readRegister_readsOnly (r : Register) :
    ReadsOnly CpuState.Agree (fun s => readRegister s r) {r.cell} := by
  apply ReadsOnly.of_cell
  intro s t h
  cases r with
  | r8 i => exact congrArg (· &&& 0xFF#64) h
  | r8h i =>
    have hraw : s.gpr (lowIndex i) = t.gpr (lowIndex i) := h
    show (s.gpr (lowIndex i) >>> 8) &&& 0xFF#64 = (t.gpr (lowIndex i) >>> 8) &&& 0xFF#64
    rw [hraw]
  | r16 i => exact congrArg (· &&& 0xFFFF#64) h
  | r32 i => exact congrArg (· &&& 0xFFFFFFFF#64) h
  | sreg i => exact congrArg (BitVec.setWidth 64) h
  | r64 | cr | dr | tr | mm | none | other => exact h

/-- A write touches the register's bytes only. -/
theorem writeRegister_writesOnly (r : Register) (value : U64) (w : Nat) :
    WritesOnly CpuState.Agree (fun s => writeRegister s r value w) r.touched := by
  cases r with
  | sreg i => exact CpuState.setSreg_writesOnly i _
  | cr i => exact CpuState.cr_writesOnly i _
  | dr i => exact CpuState.setDr_writesOnly i _
  | tr i => exact CpuState.tr_writesOnly i _
  | mm i =>
    intro s c hc
    cases c with
    | mmx j => exact if_neg fun h => hc (Or.inl (congrArg RegisterCell.mmx h))
    | x87Tag j => exact if_neg fun h => hc (Or.inr (congrArg RegisterCell.x87Tag h))
    | _ => exact rfl
  | r8 i | r16 i | r32 i | r64 i => exact CpuState.setGpr_writesOnly i _
  | r8h i => exact CpuState.setGpr_writesOnly (lowIndex i) _
  | none | other => exact CpuState.setGpr_writesOnly 0 _

/-- A width override with the register's own width changes nothing. -/
theorem writeRegister_override (s : CpuState) (r : Register) (value : U64) :
    writeRegister s r value (registerWidth r) = writeRegister s r value 0 := by
  have hwidth : (if registerWidth r ≠ 0 then registerWidth r else registerWidth r) =
      registerWidth r := by
    split <;> rfl
  unfold writeRegister
  split
  · rfl
  · rfl
  · rfl
  · rfl
  · rfl
  · dsimp only
    rw [hwidth]
    rfl

/-! ## Registers of one cell -/

/-- The low byte keeps out of a merge into the second one. -/
theorem lowByte_mergeHigh (raw value : U64) :
    ((raw &&& ~~~0xFF00#64) ||| ((value &&& 0xFF#64) <<< 8)) &&& 0xFF#64 = raw &&& 0xFF#64 := by
  have hhole : ∀ j < 64, (0xFF#64).getLsbD j = true → j < 8 ∧ (0xFF00#64).getLsbD j = false := by
    decide
  apply BitVec.eq_of_getLsbD_eq
  intro j hj
  simp only [BitVec.getLsbD_and, BitVec.getLsbD_or, BitVec.getLsbD_not, BitVec.getLsbD_shiftLeft]
  cases hbit : (0xFF#64).getLsbD j with
  | false => rw [Bool.and_false, Bool.and_false]
  | true =>
    obtain ⟨hlt, hclear⟩ := hhole j hj hbit
    rw [hclear, decide_eq_true hlt]
    simp [hj]

/-- The second byte keeps out of a merge into the low one. -/
theorem highByte_mergeLow (raw value : U64) :
    (((raw &&& ~~~0xFF#64) ||| (value &&& 0xFF#64)) >>> 8) &&& 0xFF#64 =
      (raw >>> 8) &&& 0xFF#64 := by
  have hhole : ∀ j < 64, (0xFF#64).getLsbD (8 + j) = false := by decide
  apply BitVec.eq_of_getLsbD_eq
  intro j hj
  simp only [BitVec.getLsbD_and, BitVec.getLsbD_or, BitVec.getLsbD_not,
    BitVec.getLsbD_ushiftRight, hhole j hj]
  by_cases hlt : 8 + j < 64
  · simp [hlt]
  · rw [BitVec.getLsbD_of_ge _ _ (by omega)]
    simp

section

variable {r r' : Register}

/-- The low byte under a write to the byte above it, and the other way round. -/
theorem readRegister_otherByte (s : CpuState) (j : Fin 4) (value : U64) :
    readRegister (writeRegister s (.r8h j) value 0) (.r8 (lowIndex j)) =
        readRegister s (.r8 (lowIndex j)) ∧
      readRegister (writeRegister s (.r8 (lowIndex j)) value 0) (.r8h j) =
        readRegister s (.r8h j) := by
  constructor
  · show CpuState.gpr (s.setGpr (lowIndex j) _) (lowIndex j) &&& 0xFF#64 = _
    rw [CpuState.setGpr_self]
    exact lowByte_mergeHigh _ _
  · show (CpuState.gpr (s.setGpr (lowIndex j) _) (lowIndex j) >>> 8) &&& 0xFF#64 = _
    rw [CpuState.setGpr_self]
    exact highByte_mergeLow _ _

/-- A register of one byte, or one that begins at bit 0 and has two bytes at
least. -/
theorem byte_or_word (r : Register) :
    (∃ i, r = .r8 i) ∨ (∃ j, r = .r8h j) ∨ r.low = 0 ∧ 2 ≤ registerWidth r := by
  cases r with
  | r8 i => exact Or.inl ⟨i, rfl⟩
  | r8h j => exact Or.inr (Or.inl ⟨j, rfl⟩)
  | none | r16 | r32 | r64 | sreg | cr | dr | tr | mm | other =>
    exact Or.inr (Or.inr ⟨rfl, by simp [registerWidth]⟩)

/-- Two registers of one cell that do not overlap are its two low bytes. -/
theorem bytes_of_not_overlap (hcell : r.cell = r'.cell) (h : ¬ r.Overlap r') :
    ∃ j, r = .r8 (lowIndex j) ∧ r' = .r8h j ∨ r = .r8h j ∧ r' = .r8 (lowIndex j) := by
  -- Two registers of one cell without a bit in common: only a low and a high byte do that.
  have hapart : ¬ (r.low < r'.low + 8 * registerWidth r' ∧ r'.low < r.low + 8 * registerWidth r) :=
    fun hbits => h ⟨hcell, hbits⟩
  have hlow : ∀ i, (Register.r8 i).low = 0 ∧ registerWidth (.r8 i) = 1 := fun _ => ⟨rfl, rfl⟩
  have hhigh : ∀ j, (Register.r8h j).low = 8 ∧ registerWidth (.r8h j) = 1 := fun _ => ⟨rfl, rfl⟩
  rcases byte_or_word r with ⟨i, rfl⟩ | ⟨j, rfl⟩ | hword
  · rcases byte_or_word r' with ⟨i', rfl⟩ | ⟨j', rfl⟩ | hword'
    · have hi := hlow i
      have hi' := hlow i'
      omega
    · obtain rfl : i = lowIndex j' := RegisterCell.gpr.inj hcell
      exact ⟨j', Or.inl ⟨rfl, rfl⟩⟩
    · have hi := hlow i
      omega
  · rcases byte_or_word r' with ⟨i', rfl⟩ | ⟨j', rfl⟩ | hword'
    · obtain rfl : lowIndex j = i' := RegisterCell.gpr.inj hcell
      exact ⟨j, Or.inr ⟨rfl, rfl⟩⟩
    · have hj := hhigh j
      have hj' := hhigh j'
      omega
    · have hj := hhigh j
      omega
  · rcases byte_or_word r' with ⟨i', rfl⟩ | ⟨j', rfl⟩ | hword'
    · have hi' := hlow i'
      omega
    · have hj' := hhigh j'
      omega
    · omega

/-- A register that has no bit in common with the one written keeps its value. -/
theorem readRegister_of_not_overlap (s : CpuState) (value : U64) (h : ¬ r.Overlap r') :
    readRegister (writeRegister s r value 0) r' = readRegister s r' := by
  by_cases hcell : r.cell = r'.cell
  · obtain ⟨j, ⟨rfl, rfl⟩ | ⟨rfl, rfl⟩⟩ := bytes_of_not_overlap hcell h
    · exact (readRegister_otherByte s j value).2
    · exact (readRegister_otherByte s j value).1
  · refine (readRegister_readsOnly r').frame (writeRegister_writesOnly r value 0) ?_ s
    rintro c hc htouched
    obtain rfl : c = r'.cell := hc
    cases r with
    | mm i =>
      rcases htouched with hmm | htag
      · exact hcell hmm.symm
      · -- no register lives in a tag
        cases r' <;> cases htag
    | _ => exact hcell (Set.mem_singleton_iff.mp htouched).symm

end

end Seven
