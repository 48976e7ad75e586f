import Seven.Backend.Registers
import Seven.Handlers.RegisterFile
import Seven.Handlers.X87Image

/-!
# Raw register access

`write_raw_register` and `read_raw_register` are two chains of tests for the
same register classes. A write takes the first eight bytes of its buffer as a
scalar, or the bytes themselves for extended floats and vectors; a read fills
the buffer with as many bytes as the register has. The identifiers are those
of the analyzer: the ranges the code computes with (`st0`, `cr0`, `dr0`,
`mm0`, `xmm0`, `ymm0` and `zmm0` and those after them) are families here.

`Alias` says which registers see a write, by the cells that are stored to.
DR4 and DR5 are more than their cell: they are other names of DR6 and DR7
while CR4.DE is clear and are refused while it is set, so that a write of CR4
gives and takes them.

Main result: `raw_registers`.
-/

namespace Seven

open Seven.Lib

/-- `x86_register`. -/
inductive X86Register where
  | gpr (name : GprName)
  | rip | eip | ip
  | rflags | flags | eflags
  | seg (name : SegmentName)
  | fsBase | gsBase
  | mxcsr | fpcw | fpsw | fptag
  | gdtr | idtr
  | st (i : Fin 8)
  | cr (i : Fin 9)
  | dr (i : Fin 8)
  | mm (i : Fin 8)
  | xmm (i : Fin 32)
  | ymm (i : Fin 32)
  | zmm (i : Fin 32)
  | other (n : Int)
deriving DecidableEq

namespace RawRegisters

/-! ## The tables -/

/-- `gpr_index`. -/
def gprIndex : GprName → Fin 16
  | .rax | .eax | .ax | .al | .ah => 0
  | .rcx | .ecx | .cx | .cl | .ch => 1
  | .rdx | .edx | .dx | .dl | .dh => 2
  | .rbx | .ebx | .bx | .bl | .bh => 3
  | .rsp | .esp | .sp | .spl => 4
  | .rbp | .ebp | .bp | .bpl => 5
  | .rsi | .esi | .si | .sil => 6
  | .rdi | .edi | .di | .dil => 7
  | .r8 | .r8d | .r8w | .r8l => 8
  | .r9 | .r9d | .r9w | .r9l => 9
  | .r10 | .r10d | .r10w | .r10l => 10
  | .r11 | .r11d | .r11w | .r11l => 11
  | .r12 | .r12d | .r12w | .r12l => 12
  | .r13 | .r13d | .r13w | .r13l => 13
  | .r14 | .r14d | .r14w | .r14l => 14
  | .r15 | .r15d | .r15w | .r15l => 15

/-- `is_high8`. -/
def isHigh8 : GprName → Bool
  | .ah | .bh | .ch | .dh => true
  | _ => false

/-- `gpr_width`. -/
def gprWidth : GprName → Nat
  | .al | .ah | .bl | .bh | .cl | .ch | .dl | .dh | .spl | .bpl | .sil | .dil
  | .r8l | .r9l | .r10l | .r11l | .r12l | .r13l | .r14l | .r15l => 1
  | .ax | .bx | .cx | .dx | .sp | .bp | .si | .di
  | .r8w | .r9w | .r10w | .r11w | .r12w | .r13w | .r14w | .r15w => 2
  | .eax | .ebx | .ecx | .edx | .esp | .ebp | .esi | .edi
  | .r8d | .r9d | .r10d | .r11d | .r12d | .r13d | .r14d | .r15d => 4
  | _ => 8

/-- The index that both chains give a segment register. -/
def segIndex : SegmentName → Fin 6
  | .es => 0
  | .cs => 1
  | .ss => 2
  | .ds => 3
  | .fs => 4
  | .gs => 5

/-- CR4.DE. -/
def debugExtensions (state : CpuState) : Bool := flagSet (state.cr 4) (1#64 <<< 3)

/-- The debug register that an index names: DR4 and DR5 are DR6 and DR7. -/
def drCell (i : Fin 8) : Fin 16 :=
  if i.val = 4 ∨ i.val = 5 then Fin.ofNat 16 (i.val + 2) else Fin.ofNat 16 i.val

/-- `resolve_dr_index_for_api`. -/
def resolveDrIndexForApi (state : CpuState) (i : Fin 8) : Option (Fin 16) :=
  if (i.val = 4 ∨ i.val = 5) ∧ debugExtensions state = true then none else some (drCell i)

/-! ## The two functions -/

/-- The scalar of a buffer, zero where it ends early. -/
def scalarOf (value : List Byte) : U64 := BitVec.ofNat 64 (ofLE (value.take 8))

/-- `raw`, zeros but for what the buffer has. -/
def rawOf (value : List Byte) : List Byte := value.take 16 ++ List.replicate (16 - value.length) 0#8

/-- The vector branch: the first bytes of the old value are written over. -/
def writeVector (state : CpuState) (i : Fin 32) (width : Nat) (value : List Byte) : Nat × CpuState :=
  let writeSize := min value.length width
  let bytes := value.take writeSize ++ (exportBits (state.vectors i)).drop writeSize
  (writeSize, { state with
    vectors := fun j => if j = i then BitVec.ofNat 512 (ofLE bytes) else state.vectors j })

/-- `write_raw_register`; no buffer is an empty one. -/
def writeRawRegister (F : SoftFloat) (state : CpuState) (reg : X86Register) (value : List Byte) :
    Nat × CpuState :=
  let size := value.length
  let scalar := scalarOf value
  if size = 0 then (0, state)
  else match reg with
    | .rip => (min size 8, { state with rip := scalar })
    | .eip =>
      -- A partial write keeps the bits above it, unlike a 32-bit general register, which clears
      -- them.
      (min size 4, { state with
        rip := (state.rip &&& ~~~0xFFFFFFFF#64) ||| (scalar &&& 0xFFFFFFFF#64) })
    | .ip =>
      (min size 2, { state with rip := (state.rip &&& ~~~0xFFFF#64) ||| (scalar &&& 0xFFFF#64) })
    | .eflags =>
      (min size 4, { state with
        rflags := (state.rflags &&& ~~~0xFFFFFFFF#64) ||| (scalar &&& 0xFFFFFFFF#64) })
    | .rflags | .flags => (min size 8, { state with rflags := scalar })
    | .seg name => (min size 2, state.setSreg (segIndex name) (scalar.setWidth 16))
    | .fsBase => (min size 8, { state with fsBase := scalar })
    | .gsBase => (min size 8, { state with gsBase := scalar })
    | .mxcsr => (min size 4, { state with mxcsr := scalar.setWidth 32 })
    | .fpcw => (min size 2, { state with x87ControlWord := scalar.setWidth 16 })
    | .fpsw => (min size 2, state.setX87StatusWord (scalar.setWidth 16))
    | .fptag =>
      -- Only the low byte counts: one bit a register, set where the tag is not empty.
      let abridged := scalar.setWidth 8
      (min size 2, { state with
        x87Tags := fun i => if (abridged >>> i.val) &&& 1#8 ≠ 0#8 then 0x0#8 else 0x3#8 })
    | .gdtr => (min size 8, { state with gdtr := { state.gdtr with base := scalar } })
    | .idtr => (min size 8, { state with idtr := { state.idtr with base := scalar } })
    | .st i =>
      let x := Float80.decodeExt80 (rawOf value)
      (min size 16, state.setX87Register i x (CpuState.x87TagOf F x))
    | .cr i =>
      (min size 8, { state with
        cr := fun j => if j = Fin.ofNat 16 i.val then scalar else state.cr j })
    | .dr i =>
      match resolveDrIndexForApi state i with
      -- DR4 and DR5 name DR6 and DR7 only with CR4.DE clear; otherwise nothing is written.
      | some index => (min size 8, state.setDr index scalar)
      | none => (0, state)
    | .mm i => (min size 8, { state with mmx := fun j => if j = i then scalar else state.mmx j })
    | .xmm i => writeVector state i 16 value
    | .ymm i => writeVector state i 32 value
    | .zmm i => writeVector state i 64 value
    | .gpr name =>
      let gpr := state.gpr (gprIndex name)
      let width := gprWidth name
      (min size width, state.setGpr (gprIndex name)
        (if width = 8 then scalar
        else if width = 4 then scalar &&& 0xFFFFFFFF#64
        else if width = 2 then (gpr &&& ~~~0xFFFF#64) ||| (scalar &&& 0xFFFF#64)
        else if isHigh8 name then (gpr &&& ~~~0xFF00#64) ||| ((scalar &&& 0xFF#64) <<< 8)
        else (gpr &&& ~~~0xFF#64) ||| (scalar &&& 0xFF#64)))
    | .other _ => (0, state)

/-- The bytes of `scalar` that fit. -/
def copyScalar (size : Nat) (scalar : U64) (outSize : Nat) : List Byte :=
  (toLE 8 scalar.toNat).take (min size outSize)

/-- `read_raw_register` into a buffer of `size` bytes: what it puts there. -/
def readRawRegister (state : CpuState) (reg : X86Register) (size : Nat) : List Byte :=
  if size = 0 then []
  else match reg with
    | .rip => copyScalar size state.rip 8
    | .eip => copyScalar size state.rip 4
    | .ip => copyScalar size state.rip 2
    | .eflags => copyScalar size state.rflags 4
    | .rflags | .flags => copyScalar size state.rflags 8
    | .seg name => copyScalar size ((state.sreg (segIndex name)).setWidth 64) 2
    | .fsBase => copyScalar size state.fsBase 8
    | .gsBase => copyScalar size state.gsBase 8
    | .mxcsr => copyScalar size (state.mxcsr.setWidth 64) 4
    | .fpcw => copyScalar size (state.x87ControlWord.setWidth 64) 2
    | .fpsw => copyScalar size (state.x87StatusWord.setWidth 64) 2
    | .fptag => copyScalar size ((x87Ftw state).setWidth 64) 1
    | .gdtr => copyScalar size state.gdtr.base 8
    | .idtr => copyScalar size state.idtr.base 8
    | .st i => (Float80.encodeExt80 (state.x87Stack i)).take (min size 16)
    | .cr i => copyScalar size (state.cr (Fin.ofNat 16 i.val)) 8
    | .dr i =>
      match resolveDrIndexForApi state i with
      | some index => copyScalar size (state.dr index) 8
      | none => []
    | .mm i => copyScalar size (state.mmx i) 8
    | .xmm i => (exportBits (state.vectors i)).take (min size 16)
    | .ymm i => (exportBits (state.vectors i)).take (min size 32)
    | .zmm i => (exportBits (state.vectors i)).take (min size 64)
    | .gpr name =>
      let raw := state.gpr (gprIndex name)
      let width := gprWidth name
      copyScalar size
        (if width = 4 then raw &&& 0xFFFFFFFF#64
        else if width = 2 then raw &&& 0xFFFF#64
        else if width = 1 then
          if isHigh8 name then (raw >>> 8) &&& 0xFF#64 else raw &&& 0xFF#64
        else raw) width
    | .other _ => []

/-! ## What the access is for -/

/-- The bytes of a register: `fptag` is the abridged tag word, an extended
float has ten. -/
def width : X86Register → Nat
  | .gpr name => registerWidth name.register
  | .rip | .rflags | .flags | .fsBase | .gsBase | .gdtr | .idtr | .cr _ | .dr _ | .mm _ => 8
  | .eip | .eflags | .mxcsr => 4
  | .ip | .seg _ | .fpcw | .fpsw => 2
  | .fptag => 1
  | .st _ => 10
  | .xmm _ => 16
  | .ymm _ => 32
  | .zmm _ => 64
  | .other _ => 0

/-- The bytes that a read fills: an extended float has a slot of sixteen. -/
def slotWidth : X86Register → Nat
  | .st _ => 16
  | r => width r

/-- The backend answers a read of the register. -/
def Supported (s : CpuState) (r : X86Register) : Prop := readRawRegister s r 64 ≠ []

instance (s : CpuState) (r : X86Register) : Decidable (Supported s r) :=
  inferInstanceAs (Decidable (readRawRegister s r 64 ≠ []))

/-- The cells that hold the value of a register. -/
def storage : X86Register → Set RegisterCell
  | .gpr name => {name.register.cell}
  | .rip | .eip | .ip => {.rip}
  | .rflags | .flags | .eflags => {.rflags}
  | .seg name => {.sreg name.index}
  | .fsBase => {.fsBase}
  | .gsBase => {.gsBase}
  | .mxcsr => {.mxcsr}
  | .fpcw => {.x87ControlWord}
  | .fpsw => {.x87StatusWord}
  | .fptag => Set.range RegisterCell.x87Tag
  | .gdtr => {.gdtrBase}
  | .idtr => {.idtrBase}
  | .st i => {.x87Register i}
  | .cr i => {.cr (Fin.ofNat 16 i.val)}
  | .dr i => {.dr (drCell i)}
  | .mm i => {.mmx i}
  | .xmm i | .ymm i | .zmm i => {.vector i}
  | .other _ => ∅

/-- The cells that a write changes: with an extended float its tag, with the
status word the top of the stack. -/
def touched (w : X86Register) : Set RegisterCell :=
  match w with
  | .st i => {.x87Register i, .x87Tag i}
  | .fpsw => {.x87StatusWord, .x87Top}
  | w => storage w

/-- A write of `w` reaches the value of `r`. -/
def Alias (w r : X86Register) : Prop := ∃ c ∈ touched w, c ∈ storage r

/-- `CR4`. -/
def cr4 : X86Register := .cr ⟨4, by decide⟩
/-- `DR4`. -/
def dr4 : X86Register := .dr ⟨4, by decide⟩
/-- `DR5`. -/
def dr5 : X86Register := .dr ⟨5, by decide⟩

/-- A read has the bytes of `value`, up to the width of `r`. With a value of
that width the rest of the slot is zero. -/
structure RoundTrips (s : CpuState) (r : X86Register) (value : List Byte) : Prop where
  prefixed : ∀ size, (readRawRegister s r size).take (min value.length (width r)) =
    (value.take (width r)).take size
  full : width r ≤ value.length → ∀ size, readRawRegister s r size =
    (value.take (width r) ++ List.replicate (slotWidth r - width r) 0#8).take size

/-! ## Buffers of any size -/

/-- A smaller buffer has the first bytes. -/
theorem readRawRegister_take (s : CpuState) (r : X86Register) (size : Nat) :
    readRawRegister s r size = (readRawRegister s r 64).take size := by
  have hscalar : ∀ (x : U64) {k : Nat}, k ≤ 64 →
      copyScalar size x k = (copyScalar 64 x k).take size := by
    intro x k hk
    unfold copyScalar
    rw [List.take_take, Nat.min_eq_right hk]
  have hbytes : ∀ (bytes : List Byte) {k : Nat}, k ≤ 64 →
      bytes.take (min size k) = (bytes.take (min 64 k)).take size := by
    intro bytes k hk
    rw [List.take_take, Nat.min_eq_right hk]
  -- Every form is a copy of at most 64 bytes cut to the size asked for.
  by_cases hsize : size = 0
  · subst hsize
    rfl
  unfold readRawRegister
  rw [if_neg hsize, if_neg (by decide)]
  cases r with
  | st i => exact hbytes _ (by decide)
  | xmm i => exact hbytes _ (by decide)
  | ymm i => exact hbytes _ (by decide)
  | zmm i => exact hbytes _ (by decide)
  | gpr name => exact hscalar _ (by cases name <;> decide)
  | dr i =>
    dsimp only
    cases resolveDrIndexForApi s i with
    | some index => exact hscalar _ (by decide)
    | none => exact List.take_nil.symm
  | other => exact List.take_nil.symm
  | _ => exact hscalar _ (by decide)

/-- It is enough to look at a buffer that holds every register. -/
theorem RoundTrips.of_bytes {s : CpuState} {r : X86Register} {value : List Byte}
    (tail : List Byte) (hread : readRawRegister s r 64 = value.take (width r) ++ tail)
    (htail : width r ≤ value.length → tail = List.replicate (slotWidth r - width r) 0#8) :
    RoundTrips s r value where
  prefixed := by
    intro size
    have hlen : (value.take (width r)).length = min value.length (width r) := by
      rw [List.length_take, Nat.min_comm]
    rw [readRawRegister_take, hread, List.take_take, Nat.min_comm _ size, ← List.take_take,
      ← hlen, List.take_left]
  full := by
    intro hwidth size
    rw [readRawRegister_take, hread, htail hwidth]

/-! ## Scalars -/

/-- A part of a register reads back. -/
theorem truncate_merge (raw value : U64) {mask : U64} {k : Nat} (hmask : mask = maskForWidth k) :
    truncate ((raw &&& ~~~mask) ||| (value &&& mask)) k = truncate value k := by
  unfold truncate
  rw [← hmask]
  exact merge_and_mask raw value mask

/-- A scalar in a field of its width. -/
theorem truncate_field (value : U64) {n k : Nat} (hn : n = 8 * k) (hk : k ≤ 8) :
    truncate ((value.setWidth n).setWidth 64) k = truncate value k := by
  have hpow : 2 ^ n ≤ 2 ^ 64 := Nat.pow_le_pow_right (by decide) (by omega)
  apply BitVec.eq_of_toNat_eq
  rw [truncate_toNat _ hk, truncate_toNat _ hk, BitVec.toNat_setWidth, BitVec.toNat_setWidth,
    Nat.mod_eq_of_lt (Nat.lt_of_lt_of_le (Nat.mod_lt _ (Nat.two_pow_pos n)) hpow), hn,
    Nat.mod_mod]

/-- The scalar, as the queue reads it. -/
theorem scalarOf_toNat (value : List Byte) : (scalarOf value).toNat = ofLE (value.take 8) := by
  have hlt : ofLE (value.take 8) < 256 ^ 8 := by
    refine Nat.lt_of_lt_of_le (ofLE_lt _) (Nat.pow_le_pow_right (by decide) ?_)
    rw [List.length_take]
    exact Nat.min_le_left _ _
  unfold scalarOf
  rw [BitVec.toNat_ofNat]
  exact Nat.mod_eq_of_lt hlt

/-- The bytes of a scalar depend on as many bits. -/
theorem copyScalar_congr {x y : U64} {k : Nat} (hk : k ≤ 8) (h : truncate x k = truncate y k) :
    copyScalar 64 x k = toLE k y.toNat := by
  have hnat := congrArg BitVec.toNat h
  rw [truncate_toNat x hk, truncate_toNat y hk, Nat.pow_mul] at hnat
  unfold copyScalar
  rw [Nat.min_eq_right (by omega), take_toLE hk, ← toLE_mod k x.toNat, hnat, toLE_mod]

/-- A register that holds the scalar at its width reads back. -/
theorem roundTrips_scalar {s : CpuState} {r : X86Register} {value : List Byte} {x : U64}
    (hk : width r ≤ 8) (hslot : slotWidth r = width r)
    (hread : readRawRegister s r 64 = copyScalar 64 x (width r))
    (hx : truncate x (width r) = truncate (scalarOf value) (width r)) : RoundTrips s r value := by
  have hpad := toLE_ofLE_pad (width r) (value.take 8)
  rw [List.take_take, Nat.min_eq_left hk, List.length_take] at hpad
  refine .of_bytes (List.replicate (width r - min 8 value.length) 0#8) ?_ ?_
  · rw [hread, copyScalar_congr hk hx, scalarOf_toNat, hpad]
  · intro hle
    rw [hslot]
    congr 1
    omega

/-! ## Floats and vectors -/

/-- Ten bytes decoded and encoded. -/
theorem encodeExt80_decodeExt80 {raw : List Byte} (hlen : raw.length = 16) :
    Float80.encodeExt80 (Float80.decodeExt80 raw) = raw.take 10 ++ List.replicate 6 0#8 := by
  have hten : (raw.take 10).length = 10 := by
    rw [List.length_take, hlen]
    rfl
  have hpow : 2 ^ 80 = 256 ^ 10 := by decide
  have hbytes := toLE_ofLE (raw.take 10)
  rw [hten] at hbytes
  unfold Float80.encodeExt80 Float80.decodeExt80
  rw [BitVec.toNat_ofNat, hpow, toLE_mod, hbytes]

/-- Sixteen bytes. -/
theorem length_rawOf (value : List Byte) : (rawOf value).length = 16 := by
  unfold rawOf
  rw [List.length_append, List.length_take, List.length_replicate]
  omega

/-- A vector's bytes. -/
theorem exportBits_eq (value : BitVec 512) : exportBits value = toLE 64 value.toNat := by
  have hbytes := toLE_ofLE (exportBits value)
  rw [length_exportBits, ofLE_exportBits] at hbytes
  exact hbytes.symm

/-- A vector of bytes. -/
theorem toNat_ofLE (bytes : List Byte) :
    (BitVec.ofNat (8 * bytes.length) (ofLE bytes)).toNat = ofLE bytes := by
  rw [BitVec.toNat_ofNat, Nat.pow_mul]
  exact Nat.mod_eq_of_lt (ofLE_lt bytes)

/-- A vector that is imported from 64 bytes exports them. -/
theorem exportBits_import {bytes : List Byte} (hlen : bytes.length = 64) :
    exportBits (BitVec.ofNat 512 (ofLE bytes)) = bytes := by
  have hbytes := toLE_ofLE bytes
  have hnat := toNat_ofLE bytes
  rw [hlen] at hbytes hnat
  rw [exportBits_eq]
  show toLE 64 (BitVec.ofNat (8 * 64) (ofLE bytes)).toNat = bytes
  rw [hnat, hbytes]

/-- The vector branch, for the three names of a vector. -/
theorem roundTrips_vector {s : CpuState} {r : X86Register} {value : List Byte} {i : Fin 32}
    (hw : width r ≤ 64) (hslot : slotWidth r = width r)
    (hread : readRawRegister (writeVector s i (width r) value).2 r 64 =
      (exportBits ((writeVector s i (width r) value).2.vectors i)).take (min 64 (width r))) :
    RoundTrips (writeVector s i (width r) value).2 r value := by
  have hold := length_exportBits (s.vectors i)
  -- The bytes of the value come first, and the old bytes fill the vector to its 64.
  have hbytes : (value.take (min value.length (width r)) ++
      (exportBits (s.vectors i)).drop (min value.length (width r))).length = 64 := by
    rw [List.length_append, List.length_take, List.length_drop, hold]
    omega
  have hnew : exportBits ((writeVector s i (width r) value).2.vectors i) =
      value.take (min value.length (width r)) ++
        (exportBits (s.vectors i)).drop (min value.length (width r)) := by
    have hself : (writeVector s i (width r) value).2.vectors i =
        BitVec.ofNat 512 (ofLE (value.take (min value.length (width r)) ++
          (exportBits (s.vectors i)).drop (min value.length (width r)))) := if_pos rfl
    rw [hself, exportBits_import hbytes]
  have hvalue : value.take (min value.length (width r)) = value.take (width r) := by
    rw [List.take_eq_take_iff]
    omega
  have hlen : (value.take (width r)).length = min value.length (width r) := by
    rw [List.length_take, Nat.min_comm]
  refine .of_bytes (((exportBits (s.vectors i)).drop (min value.length (width r))).take
    (width r - min value.length (width r))) ?_ ?_
  · rw [hread, hnew, hvalue, Nat.min_eq_right hw, List.take_append, hlen, List.take_take,
      Nat.min_self]
  · intro hle
    rw [hslot, Nat.min_eq_right hle, Nat.sub_self, List.take_zero]
    rfl

/-! ## The tag word -/

/-- The tags that a written abridged word sets read as that word. -/
theorem x87Ftw_written (s : CpuState) (abridged : BitVec 8)
    (htags : s.x87Tags = fun i => if (abridged >>> i.val) &&& 1#8 ≠ 0#8 then 0x0#8 else 0x3#8) :
    x87Ftw s = abridged := by
  -- Bit by bit: a tag is empty exactly where the abridged word's bit is clear.
  apply BitVec.eq_of_getLsbD_eq
  intro j hj
  have hbit : (x87Ftw s).getLsbD j = true ↔ s.x87Tags ⟨j, hj⟩ ≠ kX87TagEmpty :=
    getLsbD_x87Ftw s ⟨j, hj⟩
  have hmask : ((abridged >>> j) &&& 1#8 ≠ 0#8) ↔ abridged.getLsbD j = true := by
    have hshift : ((abridged >>> j) &&& 1#8).toNat = (abridged.getLsbD j).toNat := by
      rw [BitVec.toNat_and, BitVec.toNat_ushiftRight, ← BitVec.testBit_toNat,
        Nat.toNat_testBit, Nat.shiftRight_eq_div_pow]
      exact Nat.and_one_is_mod _
    cases hset : abridged.getLsbD j with
    | true =>
      rw [hset] at hshift
      refine iff_of_true (fun hzero => ?_) rfl
      rw [hzero] at hshift
      cases hshift
    | false =>
      rw [hset] at hshift
      exact iff_of_false (not_not.mpr (BitVec.eq_of_toNat_eq hshift)) Bool.false_ne_true
  have htag : s.x87Tags ⟨j, hj⟩ ≠ kX87TagEmpty ↔ abridged.getLsbD j = true := by
    rw [htags, ← hmask]
    dsimp only
    split
    next h => exact iff_of_true (by decide) h
    next h => exact iff_of_false (not_not.mpr rfl) h
  exact Bool.eq_iff_iff.mpr (hbit.trans htag)

/-! ## General registers -/

/-- The branch for general registers is that of `write_register`. -/
theorem writeRawRegister_gpr (F : SoftFloat) (s : CpuState) (name : GprName) {value : List Byte}
    (hvalue : value.length ≠ 0) :
    (writeRawRegister F s (.gpr name) value).2 =
      writeRegister s name.register (scalarOf value) 0 := by
  unfold writeRawRegister
  dsimp only
  rw [if_neg hvalue]
  cases name <;> rfl

/-- A general register's bytes. -/
theorem readRawRegister_gpr (s : CpuState) (name : GprName) :
    readRawRegister s (.gpr name) 64 =
      copyScalar 64 (readRegister s name.register) (width (.gpr name)) := by
  unfold readRawRegister
  rw [if_neg (by decide)]
  cases name <;> rfl

/-! ## Round trips -/

/-- Nothing written. -/
theorem writeRawRegister_nil (F : SoftFloat) (s : CpuState) (r : X86Register) {value : List Byte}
    (hvalue : value.length = 0) : writeRawRegister F s r value = (0, s) := by
  unfold writeRawRegister
  dsimp only
  rw [if_pos hvalue]

/-- A supported register has a width. -/
theorem width_pos {s : CpuState} {r : X86Register} (h : Supported s r) : 0 < width r := by
  cases r with
  | gpr name => cases name <;> decide
  | other n => exact absurd rfl h
  | _ => exact Nat.succ_pos _

/-- Nothing is written, and nothing promised of the bytes. -/
theorem roundTrips_nil {s : CpuState} {r : X86Register} {value : List Byte} (h : Supported s r)
    (hvalue : value.length = 0) : RoundTrips s r value where
  prefixed := by
    intro size
    obtain rfl := List.eq_nil_of_length_eq_zero hvalue
    rw [List.length_nil, Nat.zero_min, List.take_zero, List.take_nil, List.take_nil]
  full := by
    intro hle
    have hpos := width_pos h
    omega

/-- The x87 registers. -/
theorem roundTrips_st (F : SoftFloat) (s : CpuState) (i : Fin 8) {value : List Byte}
    (hvalue : value.length ≠ 0) :
    RoundTrips (writeRawRegister F s (.st i) value).2 (.st i) value := by
  have hwrite : (writeRawRegister F s (.st i) value).2.x87Stack i =
      Float80.decodeExt80 (rawOf value) := by
    unfold writeRawRegister
    dsimp only
    rw [if_neg hvalue]
    exact if_pos rfl
  -- The raw image holds the value's first ten bytes, padded with zeros.
  have hraw : (rawOf value).take 10 =
      value.take 10 ++ List.replicate (10 - value.length) 0#8 := by
    unfold rawOf
    rw [List.take_append, List.take_take, List.length_take, List.take_replicate]
    congr 2
    omega
  refine .of_bytes (List.replicate (10 - value.length) 0#8 ++ List.replicate 6 0#8) ?_ ?_
  · show (Float80.encodeExt80 _).take (min 64 16) = value.take 10 ++ _
    rw [hwrite, encodeExt80_decodeExt80 (length_rawOf value), hraw, List.append_assoc]
    apply List.take_of_length_le
    rw [List.length_append, List.length_append, List.length_take, List.length_replicate,
      List.length_replicate]
    omega
  · intro hle
    have hle : 10 ≤ value.length := hle
    rw [Nat.sub_eq_zero_of_le hle]
    rfl

/-- The debug registers. -/
theorem readRawRegister_dr {s : CpuState} {i : Fin 8} {index : Fin 16} {size : Nat}
    (hsize : size ≠ 0) (h : resolveDrIndexForApi s i = some index) :
    readRawRegister s (.dr i) size = copyScalar size (s.dr index) 8 := by
  unfold readRawRegister
  rw [if_neg hsize]
  dsimp only
  rw [h]

/-- Those the mode refuses. -/
theorem readRawRegister_dr_refused {s : CpuState} {i : Fin 8} {size : Nat}
    (h : resolveDrIndexForApi s i = none) : readRawRegister s (.dr i) size = [] := by
  unfold readRawRegister
  split
  · rfl
  · dsimp only
    rw [h]

/-- The debug registers read back. -/
theorem roundTrips_dr (F : SoftFloat) (s : CpuState) (i : Fin 8) {value : List Byte}
    (hvalue : value.length ≠ 0) (hsupported : Supported s (.dr i)) :
    RoundTrips (writeRawRegister F s (.dr i) value).2 (.dr i) value := by
  obtain ⟨index, hindex⟩ : ∃ index, resolveDrIndexForApi s i = some index := by
    rw [← Option.ne_none_iff_exists']
    intro hnone
    exact hsupported (readRawRegister_dr_refused hnone)
  have hwrite : (writeRawRegister F s (.dr i) value).2 = s.setDr index (scalarOf value) := by
    unfold writeRawRegister
    dsimp only
    rw [if_neg hvalue, hindex]
  -- the write leaves CR4 alone, so that the same register answers
  have hagain : resolveDrIndexForApi (s.setDr index (scalarOf value)) i = some index := hindex
  have hself : (s.setDr index (scalarOf value)).dr index = scalarOf value := if_pos rfl
  rw [hwrite]
  refine roundTrips_scalar (x := scalarOf value) (Nat.le_refl 8) rfl ?_ rfl
  rw [readRawRegister_dr (by decide) hagain, hself]
  rfl

section

variable {F : SoftFloat} {s s' : CpuState} {r : X86Register} {value : List Byte} {n : Nat}

/-- A write and its round trip. -/
theorem RoundTrips.of_write (hwrite : writeRawRegister F s r value = (n, s'))
    (h : RoundTrips s' r value) : RoundTrips (writeRawRegister F s r value).2 r value := by
  rw [hwrite]
  exact h

/-- What is written to a register that answers is read back. -/
theorem roundTrips_write (F : SoftFloat) (s : CpuState) (r : X86Register) (value : List Byte)
    (hsupported : Supported s r) : RoundTrips (writeRawRegister F s r value).2 r value := by
  by_cases hvalue : value.length = 0
  · rw [writeRawRegister_nil F s r hvalue]
    exact roundTrips_nil hsupported hvalue
  have hnonempty : ∀ {A : Type} (a b : A), (if value.length = 0 then a else b) = b :=
    fun _ _ => if_neg hvalue
  -- The dword and word forms merge under the mask of their width.
  have hdword : 0xFFFFFFFF#64 = maskForWidth 4 := by decide
  have hword : 0xFFFF#64 = maskForWidth 2 := by decide
  cases r with
  | gpr name =>
    have hgeneral : name.register.General := by cases name <;> exact trivial
    have hback := readRegister_writeRegister s hgeneral (scalarOf value) (Or.inl rfl)
    rw [writeRawRegister_gpr F s name hvalue]
    refine roundTrips_scalar (by cases name <;> decide) rfl (readRawRegister_gpr _ name) ?_
    rw [hback]
    exact truncate_truncate _ _
  | st i => exact roundTrips_st F s i hvalue
  | dr i => exact roundTrips_dr F s i hvalue hsupported
  | other n => exact absurd rfl hsupported
  | xmm i =>
    have hwidth : width (.xmm i) ≤ 64 := Nat.le_of_ble_eq_true rfl
    exact .of_write (hnonempty _ _) (roundTrips_vector hwidth rfl rfl)
  | ymm i =>
    have hwidth : width (.ymm i) ≤ 64 := Nat.le_of_ble_eq_true rfl
    exact .of_write (hnonempty _ _) (roundTrips_vector hwidth rfl rfl)
  | zmm i =>
    have hwidth : width (.zmm i) ≤ 64 := Nat.le_of_ble_eq_true rfl
    exact .of_write (hnonempty _ _) (roundTrips_vector hwidth rfl rfl)
  | eip | eflags =>
    exact .of_write (hnonempty _ _)
      (roundTrips_scalar (by decide) rfl rfl (truncate_merge _ _ hdword))
  | ip =>
    exact .of_write (hnonempty _ _)
      (roundTrips_scalar (by decide) rfl rfl (truncate_merge _ _ hword))
  | mxcsr =>
    exact .of_write (hnonempty _ _)
      (roundTrips_scalar (by decide) rfl rfl (truncate_field (k := 4) _ rfl (by decide)))
  | fpcw | fpsw =>
    exact .of_write (hnonempty _ _)
      (roundTrips_scalar (by decide) rfl rfl (truncate_field (k := 2) _ rfl (by decide)))
  | seg name =>
    have hself : (s.setSreg (segIndex name) ((scalarOf value).setWidth 16)).sreg (segIndex name) =
        (scalarOf value).setWidth 16 := if_pos rfl
    refine .of_write (hnonempty _ _) (roundTrips_scalar (Nat.le_of_ble_eq_true rfl) rfl rfl ?_)
    rw [hself]
    exact truncate_field (k := 2) _ rfl (by decide)
  | fptag =>
    refine .of_write (hnonempty _ _) (roundTrips_scalar (by decide) rfl rfl ?_)
    rw [x87Ftw_written _ ((scalarOf value).setWidth 8) rfl]
    exact truncate_field (k := 1) _ rfl (by decide)
  | cr i =>
    have hself : (if Fin.ofNat 16 i.val = Fin.ofNat 16 i.val then scalarOf value
      else s.cr (Fin.ofNat 16 i.val)) = scalarOf value := if_pos rfl
    refine .of_write (hnonempty _ _) (roundTrips_scalar (Nat.le_of_ble_eq_true rfl) rfl rfl ?_)
    exact congrArg (truncate · 8) hself
  | mm i =>
    have hself : (if i = i then scalarOf value else s.mmx i) = scalarOf value := if_pos rfl
    refine .of_write (hnonempty _ _) (roundTrips_scalar (Nat.le_of_ble_eq_true rfl) rfl rfl ?_)
    exact congrArg (truncate · 8) hself
  | rip | rflags | flags | fsBase | gsBase | gdtr | idtr =>
    exact .of_write (hnonempty _ _) (roundTrips_scalar (by decide) rfl rfl rfl)

end

/-! ## What a write leaves alone -/

/-- A vector write leaves the other cells. -/
theorem writeVector_agree (s : CpuState) (i : Fin 32) (n : Nat) (value : List Byte)
    {c : RegisterCell} (hc : c ∉ ({.vector i} : Set RegisterCell)) :
    CpuState.Agree c (writeVector s i n value).2 s := by
  cases c with
  | vector j => exact if_neg fun h => hc (congrArg RegisterCell.vector h)
  | _ => exact rfl

/-- A debug register that answers is stored in its own cell. -/
theorem eq_drCell {s : CpuState} {i : Fin 8} {index : Fin 16}
    (h : resolveDrIndexForApi s i = some index) : index = drCell i := by
  unfold resolveDrIndexForApi at h
  split at h
  next => cases h
  next => exact (Option.some.inj h).symm

/-- DR4 and DR5 resolve by CR4.DE, the one reading outside the register's own
cells. -/
theorem resolveDrIndexForApi_congr {s t : CpuState} {i : Fin 8}
    (h : X86Register.dr i = dr4 ∨ X86Register.dr i = dr5 → debugExtensions s = debugExtensions t) :
    resolveDrIndexForApi s i = resolveDrIndexForApi t i := by
  unfold resolveDrIndexForApi
  by_cases hi : i.val = 4 ∨ i.val = 5
  · have hnames : X86Register.dr i = dr4 ∨ X86Register.dr i = dr5 := by
      rcases hi with h4 | h5
      · exact Or.inl (congrArg X86Register.dr (Fin.ext h4))
      · exact Or.inr (congrArg X86Register.dr (Fin.ext h5))
    rw [h hnames]
  · rw [if_neg fun h => hi h.1, if_neg fun h => hi h.1]

/-- A write stores to the cells of its register. -/
theorem writeRawRegister_writesOnly (F : SoftFloat) (w : X86Register) (value : List Byte) :
    WritesOnly CpuState.Agree (fun s => (writeRawRegister F s w value).2) (touched w) := by
  intro s c hc
  by_cases hvalue : value.length = 0
  · dsimp only
    rw [writeRawRegister_nil F s w hvalue]
    exact CpuState.Agree.refl c s
  -- the state of the branch that is taken
  have hbranch : ∀ {n : Nat} {s' : CpuState}, writeRawRegister F s w value = (n, s') →
      CpuState.Agree c s' s → CpuState.Agree c (writeRawRegister F s w value).2 s := by
    intro n s' hwrite h
    rw [hwrite]
    exact h
  have hnonempty : ∀ {A : Type} (a b : A), (if value.length = 0 then a else b) = b :=
    fun _ _ => if_neg hvalue
  cases w with
  | gpr name =>
    dsimp only
    rw [writeRawRegister_gpr F s name hvalue]
    apply writeRegister_writesOnly name.register (scalarOf value) 0
    have htouched : name.register.touched = {name.register.cell} := by cases name <;> rfl
    rw [htouched]
    exact hc
  | st i =>
    refine hbranch (hnonempty _ _) ?_
    cases c with
    | x87Register j => exact if_neg fun h => hc (Or.inl (congrArg RegisterCell.x87Register h))
    | x87Tag j => exact if_neg fun h => hc (Or.inr (congrArg RegisterCell.x87Tag h))
    | _ => exact rfl
  | fptag =>
    refine hbranch (hnonempty _ _) ?_
    cases c with
    | x87Tag j => exact absurd (Set.mem_range_self j) hc
    | _ => exact rfl
  | fpsw =>
    refine hbranch (hnonempty _ _) ?_
    cases c with
    | x87StatusWord => exact absurd (Or.inl rfl) hc
    | x87Top => exact absurd (Or.inr rfl) hc
    | _ => exact rfl
  | seg name =>
    have hindex : segIndex name = name.index := by cases name <;> rfl
    refine hbranch (hnonempty _ _) ?_
    rw [hindex]
    exact CpuState.setSreg_writesOnly name.index (fun _ => (scalarOf value).setWidth 16) s c hc
  | cr i =>
    refine hbranch (hnonempty _ _) ?_
    exact CpuState.cr_writesOnly (Fin.ofNat 16 i.val) (fun _ => scalarOf value) s c hc
  | dr i =>
    dsimp only
    unfold writeRawRegister
    dsimp only
    rw [if_neg hvalue]
    split
    next index h =>
      obtain rfl := eq_drCell h
      exact CpuState.setDr_writesOnly (drCell i) (fun _ => scalarOf value) s c hc
    next => exact CpuState.Agree.refl c s
  | mm i =>
    refine hbranch (hnonempty _ _) ?_
    cases c with
    | mmx j => exact if_neg fun h => hc (congrArg RegisterCell.mmx h)
    | _ => exact rfl
  | xmm i => exact hbranch (hnonempty _ _) (writeVector_agree s i 16 value hc)
  | ymm i => exact hbranch (hnonempty _ _) (writeVector_agree s i 32 value hc)
  | zmm i => exact hbranch (hnonempty _ _) (writeVector_agree s i 64 value hc)
  | other n => exact hbranch (hnonempty _ _) (CpuState.Agree.refl c s)
  | rip | eip | ip | rflags | flags | eflags | fsBase | gsBase | mxcsr | fpcw | gdtr | idtr =>
    -- one field is written, and `c` is another one
    refine hbranch (hnonempty _ _) ?_
    cases c <;> first | exact absurd rfl hc | exact rfl

/-- A read depends on the cells of the register; DR4 and DR5 on CR4.DE too. -/
theorem readRawRegister_congr {s t : CpuState} {r : X86Register}
    (hcells : ∀ c ∈ storage r, CpuState.Agree c s t)
    (hdebug : r = dr4 ∨ r = dr5 → debugExtensions s = debugExtensions t) (size : Nat) :
    readRawRegister s r size = readRawRegister t r size := by
  rw [readRawRegister_take s, readRawRegister_take t]
  congr 1
  cases r with
  | gpr name =>
    have hread := readRegister_readsOnly name.register s t hcells
    rw [readRawRegister_gpr, readRawRegister_gpr]
    exact congrArg (copyScalar 64 · _) hread
  | dr i =>
    have hcell : s.dr (drCell i) = t.dr (drCell i) := hcells _ rfl
    have hindex := resolveDrIndexForApi_congr hdebug
    cases hresolve : resolveDrIndexForApi t i with
    | none =>
      rw [readRawRegister_dr_refused (hindex.trans hresolve), readRawRegister_dr_refused hresolve]
    | some index =>
      rw [readRawRegister_dr (by decide) (hindex.trans hresolve),
        readRawRegister_dr (by decide) hresolve, eq_drCell hresolve, hcell]
  | seg name =>
    have hseg : segIndex name = name.index := by cases name <;> rfl
    have hcell : s.sreg name.index = t.sreg name.index := hcells _ rfl
    show copyScalar 64 ((s.sreg (segIndex name)).setWidth 64) 2 =
      copyScalar 64 ((t.sreg (segIndex name)).setWidth 64) 2
    rw [hseg, hcell]
  | fptag =>
    have hcell : s.x87Tags = t.x87Tags := by
      funext i
      exact hcells (.x87Tag i) (Set.mem_range_self i)
    show copyScalar 64 ((x87Ftw s).setWidth 64) 1 = copyScalar 64 ((x87Ftw t).setWidth 64) 1
    unfold x87Ftw
    rw [hcell]
  | rip => exact congrArg (copyScalar 64 · 8) (hcells .rip rfl)
  | eip => exact congrArg (copyScalar 64 · 4) (hcells .rip rfl)
  | ip => exact congrArg (copyScalar 64 · 2) (hcells .rip rfl)
  | rflags | flags => exact congrArg (copyScalar 64 · 8) (hcells .rflags rfl)
  | eflags => exact congrArg (copyScalar 64 · 4) (hcells .rflags rfl)
  | fsBase => exact congrArg (copyScalar 64 · 8) (hcells .fsBase rfl)
  | gsBase => exact congrArg (copyScalar 64 · 8) (hcells .gsBase rfl)
  | mxcsr => exact congrArg (fun v => copyScalar 64 (BitVec.setWidth 64 v) 4) (hcells .mxcsr rfl)
  | fpcw =>
    exact congrArg (fun v => copyScalar 64 (BitVec.setWidth 64 v) 2) (hcells .x87ControlWord rfl)
  | fpsw =>
    exact congrArg (fun v => copyScalar 64 (BitVec.setWidth 64 v) 2) (hcells .x87StatusWord rfl)
  | gdtr => exact congrArg (copyScalar 64 · 8) (hcells .gdtrBase rfl)
  | idtr => exact congrArg (copyScalar 64 · 8) (hcells .idtrBase rfl)
  | st i =>
    exact congrArg (fun x => (Float80.encodeExt80 x).take 16) (hcells (.x87Register i) rfl)
  | cr i => exact congrArg (copyScalar 64 · 8) (hcells (.cr (Fin.ofNat 16 i.val)) rfl)
  | mm i => exact congrArg (copyScalar 64 · 8) (hcells (.mmx i) rfl)
  | xmm i => exact congrArg (fun x => (exportBits x).take 16) (hcells (.vector i) rfl)
  | ymm i => exact congrArg (fun x => (exportBits x).take 32) (hcells (.vector i) rfl)
  | zmm i => exact congrArg (fun x => (exportBits x).take 64) (hcells (.vector i) rfl)
  | other => rfl

/-- A cell of control register 4 is stored to by a write of it alone. -/
theorem eq_cr4_of_touched {w : X86Register} (h : RegisterCell.cr 4 ∈ touched w) : w = cr4 := by
  cases w with
  | cr i =>
    have hindex : RegisterCell.cr 4 = .cr (Fin.ofNat 16 i.val) := h
    have hval : 4 = i.val % 16 := congrArg Fin.val (RegisterCell.cr.inj hindex)
    exact congrArg X86Register.cr (Fin.ext (by omega : i.val = 4))
  | gpr name => cases name <;> cases h
  | fptag =>
    obtain ⟨i, hi⟩ := h
    cases hi
  | st i | fpsw => rcases h with h | h <;> cases h
  | _ => cases h

/-- A written extended float changes its own entry of the tag word. -/
theorem x87Ftw_write_st (F : SoftFloat) (s : CpuState) {i j : Fin 8} (hij : j ≠ i)
    (value : List Byte) :
    (x87Ftw (writeRawRegister F s (.st i) value).2).getLsbD j.val = (x87Ftw s).getLsbD j.val := by
  have htag : (writeRawRegister F s (.st i) value).2.x87Tags j = s.x87Tags j := by
    apply writeRawRegister_writesOnly F (.st i) value s (.x87Tag j)
    rintro (hregister | htag)
    · cases hregister
    · exact hij (RegisterCell.x87Tag.inj htag)
  rw [Bool.eq_iff_iff, getLsbD_x87Ftw, getLsbD_x87Ftw, htag]

/-- In every state, a register that the backend answers for reads back what is
written to it, cut to its width. A register that the write does not reach reads
as before; for DR4 and DR5 and a write of CR4 this takes that the write leaves
CR4.DE as it was. Of the tag word, an extended float changes one entry. -/
theorem raw_registers (F : SoftFloat) (s : CpuState) (w : X86Register) (value : List Byte) :
    (Supported s w → RoundTrips (writeRawRegister F s w value).2 w value) ∧
    (∀ r, ¬ Alias w r →
      (w = cr4 → r = dr4 ∨ r = dr5 →
        debugExtensions (writeRawRegister F s w value).2 = debugExtensions s) →
      ∀ size, readRawRegister (writeRawRegister F s w value).2 r size =
        readRawRegister s r size) ∧
    ∀ i, w = .st i → ∀ j, j ≠ i →
      (x87Ftw (writeRawRegister F s w value).2).getLsbD j.val = (x87Ftw s).getLsbD j.val := by
  refine ⟨roundTrips_write F s w value, fun r halias hdebug size => ?_, ?_⟩
  · have hkeeps := writeRawRegister_writesOnly F w value s
    apply readRawRegister_congr
    · intro c hc
      exact hkeeps c fun htouched => halias ⟨c, htouched, hc⟩
    · intro hr
      by_cases hw : w = cr4
      · exact hdebug hw hr
      · have hcell : (writeRawRegister F s w value).2.cr 4 = s.cr 4 :=
          hkeeps (.cr 4) fun htouched => hw (eq_cr4_of_touched htouched)
        unfold debugExtensions
        rw [hcell]
  · rintro i rfl j hij
    exact x87Ftw_write_st F s hij value

/-- A state in which the backend answers for DR4. -/
def debugOffState : CpuState := { cr := fun _ => 0#64 }

/-- `AX`, `DR4` and the others, written and read. -/
theorem raw_registers_run :
    readRawRegister (writeRawRegister default debugOffState (.gpr .ax) [0x34#8, 0x12#8]).2
        (.gpr .ax) 8 = [0x34#8, 0x12#8] ∧
      readRawRegister (writeRawRegister default debugOffState cr4 [0x10#8]).2 dr4 8 =
        readRawRegister debugOffState dr4 8 := by
  have hax := (raw_registers default debugOffState (.gpr .ax) [0x34#8, 0x12#8]).1 (by decide)
  refine ⟨hax.full (by decide) 8, ?_⟩
  apply (raw_registers default debugOffState cr4 [0x10#8]).2.1 dr4
  · rintro ⟨c, hc, hread⟩
    cases hc
    cases hread
  · intro _ _
    decide

/-- A write that sets CR4.DE takes DR4 away, which is not stored in CR4. -/
theorem raw_registers_debug_extensions :
    Supported debugOffState cr4 ∧ Supported debugOffState dr4 ∧ ¬ Alias cr4 dr4 ∧
      readRawRegister (writeRawRegister default debugOffState cr4
        [0x08#8, 0x00#8, 0x00#8, 0x00#8, 0x00#8, 0x00#8, 0x00#8, 0x00#8]).2 dr4 8 = [] ∧
      readRawRegister debugOffState dr4 8 ≠ [] := by
  refine ⟨by decide, by decide, ?_, by decide, by decide⟩
  rintro ⟨c, hc, hread⟩
  cases hc
  cases hread

end RawRegisters

end Seven
