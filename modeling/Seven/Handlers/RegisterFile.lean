import Seven.Cpu.RegisterCells
import Seven.Handlers.ExchangeAdd
import Seven.Handlers.StringRepeat
import Seven.Handlers.WidePair

/-!
# The register file

`read_register` and `write_register` find the cell of a name by a table each,
and the width and the high bytes by two more. `RegisterFile` has the tables as
they are written; `readRegister_register` and `writeRegister_register` say
that a name read or written through them is the register of its family and
index, so that everything proved of families holds of the 68 names.

Main result: `register_file_laws`.
-/

namespace Seven

open Seven.Lib

/-- The names of the segment registers. -/
inductive SegmentName where
  | es | cs | ss | ds | fs | gs
deriving DecidableEq

/-- The registers that `read_register` knows by name. -/
inductive RegisterName where
  | gpr (name : GprName)
  | seg (name : SegmentName)
  | cr (i : Fin 16)
  | dr (i : Fin 16)
  | tr (i : Fin 8)
  | mm (i : Fin 8)
deriving DecidableEq

/-- The order of the selectors, by the architecture. -/
def SegmentName.index : SegmentName → Fin 6
  | .es => 0
  | .cs => 1
  | .ss => 2
  | .ds => 3
  | .fs => 4
  | .gs => 5

/-- Family and index of a name, by the architecture. -/
def RegisterName.register : RegisterName → Register
  | .gpr name => name.register
  | .seg name => .sreg name.index
  | .cr i => .cr i
  | .dr i => .dr i
  | .tr i => .tr i
  | .mm i => .mm i

namespace RegisterFile

/-! ## The tables -/

/-- `register_width`. -/
def registerWidth : RegisterName → Nat
  | .gpr name => match name with
    | .al | .cl | .dl | .bl | .ah | .ch | .dh | .bh | .spl | .bpl | .sil | .dil
    | .r8l | .r9l | .r10l | .r11l | .r12l | .r13l | .r14l | .r15l => 1
    | .ax | .cx | .dx | .bx | .sp | .bp | .si | .di
    | .r8w | .r9w | .r10w | .r11w | .r12w | .r13w | .r14w | .r15w => 2
    | .eax | .ecx | .edx | .ebx | .esp | .ebp | .esi | .edi
    | .r8d | .r9d | .r10d | .r11d | .r12d | .r13d | .r14d | .r15d => 4
    | _ => 8
  | .seg _ => 2
  | .mm _ => 8
  | _ => 8

/-- `seg_index` of `read_register`. -/
def segIndexOfRead : SegmentName → Fin 6
  | .es => 0
  | .cs => 1
  | .ss => 2
  | .ds => 3
  | .fs => 4
  | .gs => 5

/-- `seg_index` of `write_register`. -/
def segIndexOfWrite : SegmentName → Fin 6
  | .es => 0
  | .cs => 1
  | .ss => 2
  | .ds => 3
  | .fs => 4
  | .gs => 5

/-- `reg_index` of `read_register`. -/
def regIndexOfRead : GprName → Fin 16
  | .rax | .eax | .ax | .al | .ah => 0
  | .rcx | .ecx | .cx | .cl | .ch => 1
  | .rdx | .edx | .dx | .dl | .dh => 2
  | .rbx | .ebx | .bx | .bl | .bh => 3
  | .rsp | .esp | .sp | .spl => 4
  | .rbp | .ebp | .bp | .bpl => 5
  | .rsi | .esi | .si | .sil => 6
  | .rdi | .edi | .di | .dil => 7
  | .r8 | .r8d | .r8w | .r8l => 8
  | .r9 | .r9d | .r9w | .r9l => 9
  | .r10 | .r10d | .r10w | .r10l => 10
  | .r11 | .r11d | .r11w | .r11l => 11
  | .r12 | .r12d | .r12w | .r12l => 12
  | .r13 | .r13d | .r13w | .r13l => 13
  | .r14 | .r14d | .r14w | .r14l => 14
  | .r15 | .r15d | .r15w | .r15l => 15

/-- `reg_index` of `write_register`. -/
def regIndexOfWrite : GprName → Fin 16
  | .rax | .eax | .ax | .al | .ah => 0
  | .rcx | .ecx | .cx | .cl | .ch => 1
  | .rdx | .edx | .dx | .dl | .dh => 2
  | .rbx | .ebx | .bx | .bl | .bh => 3
  | .rsp | .esp | .sp | .spl => 4
  | .rbp | .ebp | .bp | .bpl => 5
  | .rsi | .esi | .si | .sil => 6
  | .rdi | .edi | .di | .dil => 7
  | .r8 | .r8d | .r8w | .r8l => 8
  | .r9 | .r9d | .r9w | .r9l => 9
  | .r10 | .r10d | .r10w | .r10l => 10
  | .r11 | .r11d | .r11w | .r11l => 11
  | .r12 | .r12d | .r12w | .r12l => 12
  | .r13 | .r13d | .r13w | .r13l => 13
  | .r14 | .r14d | .r14w | .r14l => 14
  | .r15 | .r15d | .r15w | .r15l => 15

/-- The four names that are tested for in both functions. -/
def isHighByte : GprName → Bool
  | .ah | .bh | .ch | .dh => true
  | _ => false

/-! ## The two functions -/

/-- `read_register`. -/
def readRegister (state : CpuState) : RegisterName → U64
  | .seg name => (state.sreg (segIndexOfRead name)).setWidth 64
  | .cr i => state.cr i
  | .dr i => state.dr i
  | .tr i => state.tr i
  | .mm i => state.mmx i
  | .gpr name =>
    let raw := state.gpr (regIndexOfRead name)
    match registerWidth (.gpr name) with
    | 1 => if isHighByte name then (raw >>> 8) &&& 0xFF#64 else raw &&& 0xFF#64
    | 2 => raw &&& 0xFFFF#64
    | 4 => raw &&& 0xFFFFFFFF#64
    | _ => raw

/-- `write_register`. -/
def writeRegister (state : CpuState) (reg : RegisterName) (value : U64) (widthOverride : Nat) :
    CpuState :=
  match reg with
  | .seg name => state.setSreg (segIndexOfWrite name) ((value &&& 0xFFFF#64).setWidth 16)
  | .cr i => { state with cr := fun j => if j = i then value else state.cr j }
  | .dr i => state.setDr i value
  | .tr i => { state with tr := fun j => if j = i then value else state.tr j }
  | .mm i =>
    { state with
      mmx := fun j => if j = i then value else state.mmx j
      x87Tags := fun j => if j = i then 0#8 else state.x87Tags j }
  | .gpr name =>
    let raw := state.gpr (regIndexOfWrite name)
    let regWidth := if widthOverride ≠ 0 then widthOverride else registerWidth (.gpr name)
    state.setGpr (regIndexOfWrite name) (mergeGpr raw value (isHighByte name) regWidth)

/-! ## Names and families -/

/-- The width of a named register. -/
theorem registerWidth_register (r : RegisterName) :
    registerWidth r = Seven.registerWidth r.register := by
  cases r with
  | gpr name => cases name <;> rfl
  | seg | cr | dr | tr | mm => rfl

/-- Reading a register by its name. -/
theorem readRegister_register (s : CpuState) (r : RegisterName) :
    readRegister s r = Seven.readRegister s r.register := by
  cases r with
  | gpr name => cases name <;> rfl
  | seg name => cases name <;> rfl
  | cr | dr | tr | mm => rfl

/-- The low word. -/
theorem setWidth_and_word (value : U64) : (value &&& 0xFFFF#64).setWidth 16 = value.setWidth 16 := by
  have hmask : ∀ j < 16, (0xFFFF#64).getLsbD j = true := by decide
  apply BitVec.eq_of_getLsbD_eq
  intro j hj
  rw [BitVec.getLsbD_setWidth, BitVec.getLsbD_setWidth, BitVec.getLsbD_and, hmask j hj, Bool.and_true]

/-- Writing a register by its name. -/
theorem writeRegister_register (s : CpuState) (r : RegisterName) (value : U64) (w : Nat) :
    writeRegister s r value w = Seven.writeRegister s r.register value w := by
  cases r with
  | gpr name => cases name <;> rfl
  | seg name =>
    have hindex : segIndexOfWrite name = name.index := by cases name <;> rfl
    show s.setSreg (segIndexOfWrite name) ((value &&& 0xFFFF#64).setWidth 16) =
      s.setSreg name.index (value.setWidth 16)
    rw [hindex, setWidth_and_word]
  | cr | dr | tr | mm => rfl

end RegisterFile

/-! ## Writes to one cell -/

section

variable {r : Register}

/-- A register holds the value written to it, at its own width. -/
theorem readRegister_writeRegister_own (s : CpuState) (r : RegisterName) (value : U64) :
    readRegister (writeRegister s r.register value 0) r.register =
      truncate value (registerWidth r.register) := by
  have hquad : ∀ v : U64, v = truncate v 8 := fun v => BitVec.and_allOnes.symm
  cases r with
  | gpr name =>
    have hgeneral : name.register.General := by cases name <;> exact trivial
    exact readRegister_writeRegister s hgeneral value (Or.inl rfl)
  | seg name =>
    show ((s.setSreg name.index (value.setWidth 16)).sreg name.index).setWidth 64 = truncate value 2
    have hself : (s.setSreg name.index (value.setWidth 16)).sreg name.index = value.setWidth 16 :=
      if_pos rfl
    apply BitVec.eq_of_toNat_eq
    rw [hself, truncate_toNat value (by decide), BitVec.toNat_setWidth, BitVec.toNat_setWidth]
    omega
  | cr i => exact (if_pos rfl : (if i = i then value else s.cr i) = value).trans (hquad value)
  | dr i => exact (if_pos rfl : (if i = i then value else s.dr i) = value).trans (hquad value)
  | tr i => exact (if_pos rfl : (if i = i then value else s.tr i) = value).trans (hquad value)
  | mm i => exact (if_pos rfl : (if i = i then value else s.mmx i) = value).trans (hquad value)

/-- The second of two merges covers the first. -/
theorem mergeGpr_mergeGpr (raw value value' : U64) (high : Bool) (w : Nat) :
    mergeGpr (mergeGpr raw value high w) value' high w = mergeGpr raw value' high w := by
  -- bits under the mask come from the last value, the others from `raw`
  have hmask : ∀ raw mask a b : U64, a &&& ~~~mask = 0#64 →
      (((raw &&& ~~~mask) ||| a) &&& ~~~mask) ||| b = (raw &&& ~~~mask) ||| b := by
    intro raw mask a b ha
    rw [BitVec.and_or_distrib_right, ha, BitVec.or_zero, BitVec.and_assoc, BitVec.and_self]
  have hlow : ∀ mask : U64, value &&& mask &&& ~~~mask = 0#64 := by
    intro mask
    rw [BitVec.and_assoc, BitVec.and_not_self]
    exact BitVec.and_zero
  have hbyte : (value &&& 0xFF#64) <<< 8 &&& ~~~0xFF00#64 = 0#64 := by
    have hshift : (value &&& 0xFF#64) <<< 8 = (value <<< 8) &&& 0xFF00#64 :=
      BitVec.shiftLeft_and_distrib value 0xFF#64 8
    rw [hshift, BitVec.and_assoc, BitVec.and_not_self]
    exact BitVec.and_zero
  unfold mergeGpr
  split
  · split
    · exact hmask raw _ _ _ hbyte
    · exact hmask raw _ _ _ (hlow _)
  · exact hmask raw _ _ _ (hlow _)
  · rfl
  · rfl

/-- The last of two writes stands. -/
theorem writeRegister_writeRegister (s : CpuState) (r : Register) (value value' : U64) (w : Nat) :
    writeRegister (writeRegister s r value w) r value' w = writeRegister s r value' w := by
  have hgpr : ∀ (i : Fin 16) (high : Bool) (width : Nat),
      (s.setGpr i (mergeGpr (s.gpr i) value high width)).setGpr i
          (mergeGpr ((s.setGpr i (mergeGpr (s.gpr i) value high width)).gpr i) value' high width) =
        s.setGpr i (mergeGpr (s.gpr i) value' high width) := by
    intro i high width
    rw [CpuState.setGpr_self, mergeGpr_mergeGpr, CpuState.setGpr_setGpr]
  have hcell : ∀ {n : Nat} {V : Type} (i : Fin n) (a b : V) (file : Fin n → V),
      (fun j => if j = i then b else if j = i then a else file j) =
        fun j => if j = i then b else file j := by
    intro n V i a b file
    funext j
    split <;> rfl
  -- Two writes of the same bits leave the second one; the other files are written whole.
  cases r with
  | sreg i => exact congrArg (fun file => { s with sreg := file }) (hcell i _ _ s.sreg)
  | cr i => exact congrArg (fun file => { s with cr := file }) (hcell i _ _ s.cr)
  | dr i => exact congrArg (fun file => { s with dr := file }) (hcell i _ _ s.dr)
  | tr i => exact congrArg (fun file => { s with tr := file }) (hcell i _ _ s.tr)
  | mm i =>
    exact congrArg₂ (fun mmx tags => { s with mmx := mmx, x87Tags := tags })
      (hcell i value value' s.mmx) (hcell i 0#8 0#8 s.x87Tags)
  | r8h i => exact hgpr (lowIndex i) true _
  | r8 i | r16 i | r32 i | r64 i => exact hgpr i false _
  | none | other => exact hgpr 0 false _

/-- A doubleword write clears the upper half of its register. -/
theorem writeRegister_upper (s : CpuState) (i : Fin 16) (value : U64) {j : Nat} (hj : 32 ≤ j) :
    ((writeRegister s (.r32 i) value 0).gpr i).getLsbD j = false := by
  have hmask : ∀ j < 64, 32 ≤ j → (0xFFFFFFFF#64).getLsbD j = false := by decide
  show ((s.setGpr i (value &&& 0xFFFFFFFF#64)).gpr i).getLsbD j = false
  rw [CpuState.setGpr_self, BitVec.getLsbD_and]
  by_cases hlt : j < 64
  · rw [hmask j hlt hj, Bool.and_false]
  · rw [BitVec.getLsbD_of_ge value j (by omega), Bool.false_and]

/-- A byte or word write keeps the bits of the general registers outside its
own. -/
theorem writeRegister_otherBits (s : CpuState) (value : U64) (hgeneral : r.General)
    (hwidth : registerWidth r ≤ 2) {i : Fin 16} {j : Nat}
    (hout : ¬ (r.cell = .gpr i ∧ r.low ≤ j ∧ j < r.low + 8 * registerWidth r)) :
    ((writeRegister s r value 0).gpr i).getLsbD j = (s.gpr i).getLsbD j := by
  apply writeRegister_getLsbD s value hgeneral
  intro hcovers
  apply hout
  cases r with
  | r8 k =>
    obtain ⟨rfl, hlt⟩ := hcovers
    exact ⟨rfl, Nat.zero_le j, by simpa [Register.low, registerWidth] using hlt⟩
  | r8h k =>
    obtain ⟨rfl, hge, hlt⟩ := hcovers
    exact ⟨rfl, hge, hlt⟩
  | r16 k =>
    obtain ⟨rfl, hlt⟩ := hcovers
    exact ⟨rfl, Nat.zero_le j, by simpa [Register.low, registerWidth] using hlt⟩
  | r32 | r64 => exact absurd hwidth (by simp [registerWidth])
  | none | sreg | cr | dr | tr | mm | other => exact hgeneral.elim

end

/-! ## The laws -/

/-- What a write of `v` to `r` has to do. -/
structure WriteLaws (s : CpuState) (r : RegisterName) (v : U64) : Prop where
  readBack : RegisterFile.readRegister (RegisterFile.writeRegister s r v 0) r =
    truncate v (RegisterFile.registerWidth r)
  zeroExtends : ∀ i j, r.register = .r32 i → 32 ≤ j →
    ((RegisterFile.writeRegister s r v 0).gpr i).getLsbD j = false
  keepsBits : RegisterFile.registerWidth r ≤ 2 → ∀ i j,
    ¬ (r.register.cell = .gpr i ∧ r.register.low ≤ j ∧
      j < r.register.low + 8 * RegisterFile.registerWidth r) →
    ((RegisterFile.writeRegister s r v 0).gpr i).getLsbD j = (s.gpr i).getLsbD j
  frame : ∀ r', ¬ r.register.Overlap r'.register →
    RegisterFile.readRegister (RegisterFile.writeRegister s r v 0) r' =
      RegisterFile.readRegister s r'
  last : ∀ v', RegisterFile.writeRegister (RegisterFile.writeRegister s r v 0) r v' 0 =
    RegisterFile.writeRegister s r v' 0
  ownWidth : RegisterFile.writeRegister s r v (RegisterFile.registerWidth r) =
    RegisterFile.writeRegister s r v 0

/-- The 68 general names and the segment, control, debug, test and MMX
registers obey the laws in every state. -/
theorem register_file_laws (s : CpuState) (r : RegisterName) (v : U64) : WriteLaws s r v where
  readBack := by
    rw [RegisterFile.readRegister_register, RegisterFile.writeRegister_register,
      RegisterFile.registerWidth_register]
    exact readRegister_writeRegister_own s r v
  zeroExtends := by
    intro i j hr hj
    rw [RegisterFile.writeRegister_register, hr]
    exact writeRegister_upper s i v hj
  keepsBits := by
    intro hwidth i j hout
    rw [RegisterFile.registerWidth_register] at hwidth hout
    -- Only a general register is written in part.
    rw [RegisterFile.writeRegister_register]
    cases r with
    | gpr name =>
      have hgeneral : name.register.General := by cases name <;> exact trivial
      exact writeRegister_otherBits s v hgeneral hwidth hout
    | seg | cr | dr | tr | mm => rfl
  frame := by
    intro r' h
    rw [RegisterFile.readRegister_register, RegisterFile.writeRegister_register,
      RegisterFile.readRegister_register]
    exact readRegister_of_not_overlap s v h
  last := by
    intro v'
    rw [RegisterFile.writeRegister_register, RegisterFile.writeRegister_register,
      RegisterFile.writeRegister_register]
    exact writeRegister_writeRegister s r.register v v' 0
  ownWidth := by
    rw [RegisterFile.registerWidth_register, RegisterFile.writeRegister_register,
      RegisterFile.writeRegister_register]
    exact writeRegister_override s r.register v

end Seven
