import Seven.Handlers.X87
import Seven.Cpu.Plain
import Mathlib.Data.List.GetD

/-!
# Saving and restoring the x87 state

`FNSAVE` stores the control word, the status word, one bit per register that
says whether it is in use, and the registers, each in a slot of sixteen
bytes; then it resets the unit. `FRSTOR` loads what it finds.

The registers go to the slots by stack index, ST(0) first, while the bits are
made by physical index (`x87Ftw`) and read back by stack index. So the pair
restores the state exactly when the bits are the same by either index:
`frstor_fsave`.
-/

namespace Seven

open Seven.Lib

/-! ## The image -/

/-- Stores whose refusal is ignored: offset, value and width. -/
def Memory.putAll (m : Memory) (base : U64) (stores : List (Nat × U64 × Nat)) : Memory :=
  stores.foldl (fun m p => m.stored (base + BitVec.ofNat 64 p.1) p.2.1 p.2.2) m

/-- One bit per physical register, set when it is in use. -/
def x87Ftw (s : CpuState) : BitVec 8 :=
  (List.finRange 8).foldl
    (fun ftw phys => if s.x87Tags phys ≠ kX87TagEmpty then ftw ||| (1#8 <<< phys.val) else ftw) 0#8

/-- `write_fpu_state`. -/
def fpuStateStores (s : CpuState) : List (Nat × U64 × Nat) :=
  [(0, s.x87ControlWord.setWidth 64, 2), (2, s.x87StatusWord.setWidth 64, 2),
    (4, (x87Ftw s).setWidth 64, 1), (5, 0#64, 1), (6, 0#64, 2), (8, 0#64, 8), (16, 0#64, 8)]

/-- `write_fxsave_st`. -/
def fxsaveStStores (slot : Nat) (value : Float80) : List (Nat × U64 × Nat) :=
  (List.range 16).map fun i =>
    (32 + slot * 16 + i, ((Float80.encodeExt80 value).getD i 0#8).setWidth 64, 1)

/-- A byte that cannot be read stays zero. -/
def readByteOrZero (m : Memory) (address : U64) : Byte :=
  match m.read address 1 .dataRead with
  | some bytes => bytes.headD 0#8
  | none => 0#8

/-- `read_fxsave_st`. -/
def readFxsaveSt (m : Memory) (base : U64) (slot : Nat) : Float80 :=
  Float80.decodeExt80 ((List.range 16).map fun i =>
    readByteOrZero m (base + BitVec.ofNat 64 (32 + slot * 16 + i)))

section

variable (F : SoftFloat)

/-- `fsave_impl`. -/
def fsave : Handler := do
  let ctx ← get
  let base := memoryAddress ctx.state ctx.instr
  if base &&& 0x7#64 ≠ 0#64 then memoryFault base
  else
    let registers := (List.range 8).flatMap fun i => fxsaveStStores i (ctx.state.x87Get i)
    modify fun ctx => { ctx with
      memory := (ctx.memory.putAll base (fpuStateStores ctx.state)).putAll base registers
      state := ctx.state.x87Reset F }

/-- One turn of the loop of `frstor`: the register of a slot, by stack index. -/
def restoreSlot (m : Memory) (base : U64) (ftw : BitVec 8) (s : CpuState) (i : Nat) : CpuState :=
  if ftw.getLsbD i then s.x87Set F i (readFxsaveSt m base i) else s.x87MarkEmpty i

/-- The eight registers of the image. -/
def restoreSlots (m : Memory) (base : U64) (ftw : BitVec 8) (s : CpuState) : CpuState :=
  (List.range 8).foldl (restoreSlot F m base ftw) s

/-- `frstor_impl`. -/
def frstor : Handler := do
  let ctx ← get
  let base := memoryAddress ctx.state ctx.instr
  if base &&& 0x7#64 ≠ 0#64 then memoryFault base
  else
    let fcw ← readMemoryChecked (base + 0#64) 2
    let fsw ← readMemoryChecked (base + 2#64) 2
    let ftw ← readMemoryChecked (base + 4#64) 1
    modifyState fun s =>
      let s := s.setX87ControlWord (fcw.setWidth 16)
      let s := s.setX87StatusWord (fsw.setWidth 16)
      restoreSlots F ctx.memory base (ftw.setWidth 8) s

end

/-! ## What the image holds -/

namespace Memory

/-- Plain memory of `n` bytes. -/
def PlainArea (m : Memory) (base : U64) (n : Nat) : Prop :=
  ∀ offset width, 0 < width → width ≤ 8 → offset + width ≤ n →
    m.PlainSpan (base + BitVec.ofNat 64 offset) width

/-- Words, by offset and width, that follow each other within `n` bytes. -/
structure InOrder (n : Nat) (words : List (Nat × Nat)) : Prop where
  fits : ∀ p ∈ words, 0 < p.2 ∧ p.2 ≤ 8 ∧ p.1 + p.2 ≤ n
  apart : words.Pairwise fun p q => p.1 + p.2 ≤ q.1

/-- Where the stores go. -/
def placed (stores : List (Nat × U64 × Nat)) : List (Nat × Nat) := stores.map fun p => (p.1, p.2.2)

/-- Part of a plain area. -/
theorem PlainArea.mono {m : Memory} {base : U64} {n n' : Nat} (h : m.PlainArea base n')
    (hn : n ≤ n') : m.PlainArea base n :=
  fun o w hpos hle hfits => h o w hpos hle (Nat.le_trans hfits hn)

/-- A plain area written to. -/
theorem PlainArea.stored {m : Memory} {base : U64} {n : Nat} (h : m.PlainArea base n)
    (offset : Nat) (value : U64) {width : Nat} (hwidth : width ≤ 8) :
    (m.stored (base + BitVec.ofNat 64 offset) value width).PlainArea base n := by
  intro o w hpos hle hfits
  exact (h o w hpos hle hfits).sameAccess (m.stored_sameAccess _ _ hwidth)

/-- The byte at every offset of the area after one store. -/
theorem PlainArea.stored_byte {m : Memory} {base : U64} {n : Nat} (h : m.PlainArea base n)
    (hn : n ≤ 2 ^ 64) {offset width : Nat} (hpos : 0 < width) (hle : width ≤ 8)
    (hfits : offset + width ≤ n) (value : U64) {o : Nat} (ho : o < n) :
    byteAt (m.stored (base + BitVec.ofNat 64 offset) value width).pages (base + BitVec.ofNat 64 o) =
      if offset ≤ o ∧ o < offset + width then (toBytes value width)[o - offset]?
      else byteAt m.pages (base + BitVec.ofNat 64 o) := by
  obtain ⟨_, hlanded, hkept⟩ := (h offset width hpos hle hfits).stored hpos hle value
  by_cases hin : offset ≤ o ∧ o < offset + width
  · have hat : base + BitVec.ofNat 64 offset + BitVec.ofNat 64 (o - offset) =
        base + BitVec.ofNat 64 o := by
      rw [BitVec.add_assoc, ← BitVec.ofNat_add]
      congr 2
      omega
    rw [if_pos hin, ← hat]
    exact hlanded _ (by omega)
  · rw [if_neg hin]
    apply hkept
    intro i hi heq
    rw [BitVec.add_assoc, BitVec.add_right_inj, ← BitVec.ofNat_add] at heq
    have hnat := congrArg BitVec.toNat heq
    rw [BitVec.toNat_ofNat, BitVec.toNat_ofNat, Nat.mod_eq_of_lt (by omega),
      Nat.mod_eq_of_lt (by omega)] at hnat
    omega

/-- One store more. -/
theorem putAll_cons (m : Memory) (base : U64) (p : Nat × U64 × Nat)
    (rest : List (Nat × U64 × Nat)) :
    m.putAll base (p :: rest) =
      (m.stored (base + BitVec.ofNat 64 p.1) p.2.1 p.2.2).putAll base rest := rfl

/-- What stores in order leave: each its bytes, and every other byte alone. -/
theorem PlainArea.putAll {base : U64} {n : Nat} (hn : n ≤ 2 ^ 64) :
    ∀ {stores : List (Nat × U64 × Nat)} {m : Memory}, m.PlainArea base n →
      InOrder n (placed stores) →
      (m.putAll base stores).PlainArea base n ∧
      (∀ p ∈ stores, ∀ i < p.2.2,
        byteAt (m.putAll base stores).pages (base + BitVec.ofNat 64 (p.1 + i)) =
          (toBytes p.2.1 p.2.2)[i]?) ∧
      ∀ o < n, (∀ p ∈ stores, o < p.1) →
        byteAt (m.putAll base stores).pages (base + BitVec.ofNat 64 o) =
          byteAt m.pages (base + BitVec.ofNat 64 o) := by
  intro stores
  induction stores with
  | nil =>
    intro m harea _
    exact ⟨harea, fun p hp => absurd hp List.not_mem_nil, fun _ _ _ => rfl⟩
  | cons p rest ih =>
    intro m harea horder
    obtain ⟨hfits, hapart⟩ := horder
    obtain ⟨hpos, hle, hend⟩ := hfits _ List.mem_cons_self
    obtain ⟨hbefore, happart⟩ := List.pairwise_cons.mp hapart
    have hrest : InOrder n (placed rest) :=
      ⟨fun q hq => hfits q (List.mem_cons_of_mem _ hq), happart⟩
    obtain ⟨harea', hheld, hkept⟩ := ih (harea.stored p.1 p.2.1 hle) hrest
    refine ⟨harea', ?_, ?_⟩
    · intro q hq i hi
      rcases List.mem_cons.mp hq with rfl | hq
      · -- the stores that follow begin after this one
        have hlater : ∀ r ∈ rest, q.1 + i < r.1 := by
          intro r hr
          have hstart := hbefore _ (List.mem_map_of_mem hr)
          dsimp only at hstart
          omega
        dsimp only at hend hpos ⊢
        rw [putAll_cons, hkept _ (by omega) hlater,
          harea.stored_byte hn hpos hle hend q.2.1 (by omega), if_pos (by omega)]
        congr 1
        omega
      · exact hheld q hq i hi
    · -- a byte in front of all stores is in front of the first
      intro o ho hout
      have hp := hout p List.mem_cons_self
      rw [putAll_cons, hkept o ho fun q hq => hout q (List.mem_cons_of_mem _ hq),
        harea.stored_byte hn hpos hle hend p.2.1 ho, if_neg (by dsimp only; omega)]

/-- A word of the image reads as it was stored. -/
theorem PlainArea.read_putAll {m : Memory} {base : U64} {n : Nat} (h : m.PlainArea base n)
    (hn : n ≤ 2 ^ 64) {stores : List (Nat × U64 × Nat)} (horder : InOrder n (placed stores))
    {offset width : Nat} {value : U64} (hp : (offset, value, width) ∈ stores) :
    (m.putAll base stores).read (base + BitVec.ofNat 64 offset) width .dataRead =
      some (toBytes value width) := by
  obtain ⟨harea, hheld, _⟩ := h.putAll hn horder
  obtain ⟨hpos, hle, hend⟩ := horder.fits _ (List.mem_map_of_mem hp)
  refine (harea offset width hpos hle hend).read hpos (toBytes_length value width) fun i hi => ?_
  rw [BitVec.add_assoc, ← BitVec.ofNat_add]
  exact hheld _ hp i hi

end Memory

/-! ## The image of a state -/

/-- Everything that `fsave` stores. -/
def imageStores (s : CpuState) : List (Nat × U64 × Nat) :=
  fpuStateStores s ++ (List.range 8).flatMap fun i => fxsaveStStores i (s.x87Get i)

/-- Where the stores lie. -/
theorem placed_imageStores (s : CpuState) :
    Memory.placed (imageStores s) =
      [(0, 2), (2, 2), (4, 1), (5, 1), (6, 2), (8, 8), (16, 8)] ++
        (List.range 128).map fun i => (32 + i, 1) := by
  rfl

/-- One behind the other. -/
theorem imageStores_inOrder (s : CpuState) :
    Memory.InOrder 160 (Memory.placed (imageStores s)) := by
  rw [placed_imageStores]
  exact ⟨by decide +kernel, by decide +kernel⟩

/-- A slot reads as the register that was stored there. -/
theorem readFxsaveSt_putAll {m : Memory} {base : U64} {n : Nat} (h : m.PlainArea base n)
    (hn : n ≤ 2 ^ 64) {stores : List (Nat × U64 × Nat)}
    (horder : Memory.InOrder n (Memory.placed stores)) {slot : Nat} {value : Float80}
    (hmem : ∀ p ∈ fxsaveStStores slot value, p ∈ stores) :
    readFxsaveSt (m.putAll base stores) base slot = value := by
  have hlen := length_encodeExt80 value
  have hbyte : ∀ i < 16,
      readByteOrZero (m.putAll base stores) (base + BitVec.ofNat 64 (32 + slot * 16 + i)) =
        (Float80.encodeExt80 value).getD i 0#8 := by
    intro i hi
    have hin := hmem _ (List.mem_map_of_mem (List.mem_range.mpr hi))
    unfold readByteOrZero
    rw [h.read_putAll hn horder hin]
    show BitVec.setWidth 8 (BitVec.setWidth 64 _ >>> 0) = _
    rw [BitVec.ushiftRight_zero, BitVec.setWidth_setWidth_of_le _ (by decide), BitVec.setWidth_eq]
  have hbytes : ((List.range 16).map fun i => readByteOrZero (m.putAll base stores)
      (base + BitVec.ofNat 64 (32 + slot * 16 + i))) = Float80.encodeExt80 value := by
    apply List.ext_getElem
    · rw [List.length_map, List.length_range, hlen]
    · intro i hi hi'
      rw [List.getElem_map, List.getElem_range, hbyte i (by omega), List.getD_eq_getElem _ _ hi']
  unfold readFxsaveSt
  rw [hbytes, decodeExt80_encodeExt80]

/-- A register of the image reads back. -/
theorem readFxsaveSt_imageStores {m : Memory} {base : U64} (h : m.PlainArea base 160) (s : CpuState)
    {slot : Nat} (hslot : slot < 8) :
    readFxsaveSt (m.putAll base (imageStores s)) base slot = s.x87Get slot :=
  readFxsaveSt_putAll h (by decide) (imageStores_inOrder s) fun _ hp =>
    List.mem_append_right _ (List.mem_flatMap.mpr ⟨slot, List.mem_range.mpr hslot, hp⟩)

/-! ## The bits of the registers in use -/

/-- A bit of the tag word. -/
theorem getLsbD_one_shift (i j : Fin 8) : (1#8 <<< j.val).getLsbD i.val = decide (j = i) := by
  revert i j
  decide +kernel

/-- `x87Ftw` has the bits of the physical registers. -/
theorem getLsbD_x87Ftw (s : CpuState) (i : Fin 8) :
    (x87Ftw s).getLsbD i.val = true ↔ s.x87Tags i ≠ kX87TagEmpty := by
  -- The fold sets the bit of every register it passes that is in use.
  have hfold : ∀ (l : List (Fin 8)) (acc : BitVec 8),
      (l.foldl (fun ftw (phys : Fin 8) =>
        if s.x87Tags phys ≠ kX87TagEmpty then ftw ||| (1#8 <<< phys.val) else ftw)
        acc).getLsbD i.val = true ↔
      acc.getLsbD i.val = true ∨ i ∈ l ∧ s.x87Tags i ≠ kX87TagEmpty := by
    intro l
    induction l with
    | nil =>
      intro acc
      simp only [List.foldl_nil, List.not_mem_nil, false_and, or_false]
    | cons j l ih =>
      intro acc
      rw [List.foldl_cons, ih, List.mem_cons]
      by_cases hj : s.x87Tags j ≠ kX87TagEmpty
      · rw [if_pos hj, BitVec.getLsbD_or, getLsbD_one_shift, Bool.or_eq_true, decide_eq_true_iff]
        by_cases hji : j = i
        · subst hji
          simp only [hj, or_true, true_or, ne_eq, not_false_eq_true, and_self]
        · simp only [hji, Ne.symm hji, or_false, false_or]
      · rw [if_neg hj]
        by_cases hji : i = j
        · subst hji
          simp only [hj, and_false]
        · simp only [hji, false_or]
  unfold x87Ftw
  rw [hfold]
  have hzero : (0#8).getLsbD i.val = false := BitVec.getLsbD_zero
  rw [hzero]
  simp only [Bool.false_eq_true, List.mem_finRange, true_and, false_or]

/-! ## Restoring -/

/-- The stack registers are distinct. -/
theorem x87PhysIndex_inj (s : CpuState) {i j : Nat} (hi : i < 8) (hj : j < 8)
    (h : s.x87PhysIndex i = s.x87PhysIndex j) : i = j := by
  have hval := congrArg Fin.val h
  unfold CpuState.x87PhysIndex at hval
  rw [Fin.val_ofNat, Fin.val_ofNat] at hval
  omega

/-- The register at an index is what the slot says: its value and in use, or
empty. -/
def SlotRestored (F : SoftFloat) (m : Memory) (base : U64) (ftw : BitVec 8) (s t : CpuState)
    (i : Nat) : Prop :=
  if ftw.getLsbD i then
    t.x87Stack (s.x87PhysIndex i) = readFxsaveSt m base i ∧
      t.x87Tags (s.x87PhysIndex i) = CpuState.x87TagOf F (readFxsaveSt m base i)
  else t.x87Tags (s.x87PhysIndex i) = kX87TagEmpty

/-- The words of the unit, which the slots do not hold. -/
structure SameX87Words (s t : CpuState) : Prop where
  controlWord : t.x87ControlWord = s.x87ControlWord
  statusWord : t.x87StatusWord = s.x87StatusWord
  top : t.x87Top = s.x87Top

variable (F : SoftFloat) (m : Memory) (base : U64) (ftw : BitVec 8)

/-- It restores its slot and leaves the other registers alone. -/
theorem restoreSlot_spec (s : CpuState) (n : Nat) :
    SameX87Words s (restoreSlot F m base ftw s n) ∧
      SlotRestored F m base ftw s (restoreSlot F m base ftw s n) n ∧
      ∀ j ≠ s.x87PhysIndex n, (restoreSlot F m base ftw s n).x87Stack j = s.x87Stack j ∧
        (restoreSlot F m base ftw s n).x87Tags j = s.x87Tags j := by
  unfold restoreSlot SlotRestored
  cases ftw.getLsbD n with
  | true =>
    refine ⟨⟨rfl, rfl, rfl⟩, ?_, fun j hj => ⟨if_neg hj, if_neg hj⟩⟩
    exact ⟨if_pos rfl, if_pos rfl⟩
  | false => exact ⟨⟨rfl, rfl, rfl⟩, if_pos rfl, fun j hj => ⟨rfl, if_neg hj⟩⟩

/-- The loop restores every slot: the register of one index is not the
register of another. -/
theorem restoreSlots_spec (s : CpuState) :
    SameX87Words s (restoreSlots F m base ftw s) ∧
      ∀ i < 8, SlotRestored F m base ftw s (restoreSlots F m base ftw s) i := by
  -- The induction keeps the words: the index of the next slot depends on the top.
  have hloop : ∀ n ≤ 8, SameX87Words s ((List.range n).foldl (restoreSlot F m base ftw) s) ∧
      ∀ i < n,
        SlotRestored F m base ftw s ((List.range n).foldl (restoreSlot F m base ftw) s) i := by
    intro n
    induction n with
    | zero => exact fun _ => ⟨⟨rfl, rfl, rfl⟩, fun i hi => absurd hi (Nat.not_lt_zero i)⟩
    | succ n ih =>
      intro hn
      obtain ⟨⟨hcw, hsw, htop⟩, hslots⟩ := ih (by omega)
      rw [List.range_succ, List.foldl_append, List.foldl_cons, List.foldl_nil]
      generalize (List.range n).foldl _ s = t at hcw hsw htop hslots ⊢
      obtain ⟨⟨hcw', hsw', htop'⟩, hslot, hkept⟩ := restoreSlot_spec F m base ftw t n
      have hphys (i : Nat) : t.x87PhysIndex i = s.x87PhysIndex i := by
        unfold CpuState.x87PhysIndex
        rw [htop]
      refine ⟨⟨hcw'.trans hcw, hsw'.trans hsw, htop'.trans htop⟩, fun i hi => ?_⟩
      by_cases hin : i = n
      · subst hin
        unfold SlotRestored at hslot ⊢
        rw [← hphys]
        exact hslot
      -- A slot loaded earlier is another register, and the step keeps it.
      · have hne : s.x87PhysIndex i ≠ t.x87PhysIndex n := by
          rw [hphys]
          exact fun heq => hin (x87PhysIndex_inj s (by omega) (by omega) heq)
        have hold := hslots i (by omega)
        unfold SlotRestored at hold ⊢
        rw [(hkept _ hne).1, (hkept _ hne).2]
        exact hold
  exact hloop 8 (Nat.le_refl 8)

/-! ## The round trip -/

/-- What the pair is for: the control word, the status word, TOP, which
registers are empty and the values of the others. -/
structure X87Restored (s t : CpuState) : Prop where
  controlWord : t.x87ControlWord = s.x87ControlWord
  statusWord : t.x87StatusWord = s.x87StatusWord
  top : t.x87Top = s.x87Top
  empty : ∀ i < 8, t.x87IsEmpty i = s.x87IsEmpty i
  value : ∀ i < 8, s.x87IsEmpty i = false → t.x87Get i = s.x87Get i

/-- The two TOPs agree, and a register is empty by its physical index when it
is by its stack index. -/
structure FtwAgrees (s : CpuState) : Prop where
  top : s.x87Top = topBits s.x87StatusWord
  tags : ∀ i : Fin 8, s.x87Tags i = kX87TagEmpty ↔ s.x87Tags (s.x87PhysIndex i) = kX87TagEmpty

/-- A slot is empty as its bit says. -/
theorem SlotRestored.empty_iff {s t : CpuState} {i : Nat} (h : SlotRestored F m base ftw s t i) :
    t.x87Tags (s.x87PhysIndex i) = kX87TagEmpty ↔ ¬ftw.getLsbD i = true := by
  unfold SlotRestored at h
  by_cases hbit : ftw.getLsbD i = true
  · rw [if_pos hbit] at h
    rw [h.2]
    exact iff_of_false (x87TagOf_ne_empty F _) (not_not_intro hbit)
  · rw [if_neg hbit] at h
    exact iff_of_true h hbit

/-- Slots made from `s`, with the bits of its registers, restore it when the
bits are the same by either index. -/
theorem x87Restored_iff {s t : CpuState} (hcw : t.x87ControlWord = s.x87ControlWord)
    (hsw : t.x87StatusWord = s.x87StatusWord) (htop : t.x87Top = topBits s.x87StatusWord)
    (hread : ∀ i < 8, readFxsaveSt m base i = s.x87Get i)
    (hslots : ∀ i < 8, SlotRestored F m base (x87Ftw s) t t i) : X87Restored s t ↔ FtwAgrees s := by
  have hphys (h : s.x87Top = topBits s.x87StatusWord) (i : Nat) :
      t.x87PhysIndex i = s.x87PhysIndex i := by
    unfold CpuState.x87PhysIndex
    rw [htop, h]
  -- a register comes back empty when the one of that physical index was
  have hempty (i : Fin 8) :
      t.x87Tags (t.x87PhysIndex i) = kX87TagEmpty ↔ s.x87Tags i = kX87TagEmpty := by
    rw [(hslots i i.isLt).empty_iff, getLsbD_x87Ftw, not_not]
  constructor
  · intro h
    have htops := h.top.symm.trans htop
    refine ⟨htops, fun i => ?_⟩
    have heq := h.empty i i.isLt
    unfold CpuState.x87IsEmpty at heq
    rw [Bool.eq_iff_iff, beq_iff_eq, beq_iff_eq, hempty] at heq
    exact heq
  · intro h
    have hsame (i : Fin 8) : t.x87IsEmpty i = s.x87IsEmpty i := by
      unfold CpuState.x87IsEmpty
      rw [Bool.eq_iff_iff, beq_iff_eq, beq_iff_eq, hempty]
      exact h.tags i
    refine ⟨hcw, hsw, htop.trans h.top.symm, fun i hi => hsame ⟨i, hi⟩, fun i hi hne => ?_⟩
    have hslot := hslots i hi
    have hbit : (x87Ftw s).getLsbD i = true := by
      rw [← hsame ⟨i, hi⟩] at hne
      by_contra hnot
      unfold CpuState.x87IsEmpty at hne
      rw [beq_eq_false_iff_ne] at hne
      exact hne (hslot.empty_iff.mpr hnot)
    unfold SlotRestored at hslot
    rw [if_pos hbit] at hslot
    unfold CpuState.x87Get
    rw [hslot.1, hread i hi]
    rfl

/-- A word back. -/
theorem setWidth_truncate_word (value : BitVec 16) :
    (truncate (value.setWidth 64) 2).setWidth 16 = value := by
  apply BitVec.eq_of_toNat_eq
  have hlt := value.isLt
  rw [BitVec.toNat_setWidth, truncate_toNat _ (by decide), BitVec.toNat_setWidth]
  omega

/-- A byte back. -/
theorem setWidth_truncate_byte (value : BitVec 8) :
    (truncate (value.setWidth 64) 1).setWidth 8 = value := by
  apply BitVec.eq_of_toNat_eq
  have hlt := value.isLt
  rw [BitVec.toNat_setWidth, truncate_toNat _ (by decide), BitVec.toNat_setWidth]
  omega

/-- What `fsave` leaves. -/
def fsaved (ctx : ExecutionContext) : ExecutionContext :=
  { ctx with
    memory := ctx.memory.putAll (memoryAddress ctx.state ctx.instr) (imageStores ctx.state)
    state := ctx.state.x87Reset F }

/-- `FSAVE`, its operand aligned. -/
theorem fsave_ok {ctx : ExecutionContext}
    (halign : memoryAddress ctx.state ctx.instr &&& 0x7#64 = 0#64) :
    fsave F ctx = .ok () (fsaved F ctx) := by
  have hget : (get : HandlerM ExecutionContext) ctx = .ok ctx ctx := rfl
  unfold fsave
  rw [bind_ok hget]
  dsimp only
  rw [if_neg (by rw [halign]; exact fun h => h rfl)]
  unfold fsaved imageStores Memory.putAll
  rw [List.foldl_append]
  rfl

/-- `FRSTOR`, its operand aligned and readable. -/
theorem frstor_ok {ctx : ExecutionContext} {fcw fsw ftw : U64}
    (halign : memoryAddress ctx.state ctx.instr &&& 0x7#64 = 0#64)
    (hfcw : readMemoryChecked (memoryAddress ctx.state ctx.instr + 0#64) 2 ctx = .ok fcw ctx)
    (hfsw : readMemoryChecked (memoryAddress ctx.state ctx.instr + 2#64) 2 ctx = .ok fsw ctx)
    (hftw : readMemoryChecked (memoryAddress ctx.state ctx.instr + 4#64) 1 ctx = .ok ftw ctx) :
    frstor F ctx = .ok () { ctx with
      state := restoreSlots F ctx.memory (memoryAddress ctx.state ctx.instr) (ftw.setWidth 8)
        ((ctx.state.setX87ControlWord (fcw.setWidth 16)).setX87StatusWord (fsw.setWidth 16)) } := by
  have hget : (get : HandlerM ExecutionContext) ctx = .ok ctx ctx := rfl
  unfold frstor
  rw [bind_ok hget]
  dsimp only
  rw [if_neg (by rw [halign]; exact fun h => h rfl), bind_ok hfcw, bind_ok hfsw, bind_ok hftw]
  rfl

/-- What `FSAVE` writes. -/
theorem fsaved_memory (ctx : ExecutionContext) : (fsaved F ctx).memory =
    ctx.memory.putAll (memoryAddress ctx.state ctx.instr) (imageStores ctx.state) := by
  simp only [fsaved]

/-- `FRSTOR` from the area that `FNSAVE` filled. -/
theorem frstor_fsaved {ctx later : ExecutionContext}
    (halign : memoryAddress ctx.state ctx.instr &&& 0x7#64 = 0#64)
    (hplain : ctx.memory.PlainArea (memoryAddress ctx.state ctx.instr) 160)
    (hmem : later.memory = (fsaved F ctx).memory)
    (haddr : memoryAddress later.state later.instr = memoryAddress ctx.state ctx.instr) :
    ∃ restored, frstor F later = .ok () restored ∧
      (X87Restored ctx.state restored.state ↔ FtwAgrees ctx.state) := by
  rw [fsaved_memory] at hmem
  have hword (offset width : Nat) (value : U64) (hw : width ≤ 8)
      -- Each field of the image reads back as it was stored.
      (hp : (offset, value, width) ∈ imageStores ctx.state) :
      readMemoryChecked (memoryAddress later.state later.instr + BitVec.ofNat 64 offset) width
        later = .ok (truncate value width) later := by
    have hread := hplain.read_putAll (by decide) (imageStores_inOrder ctx.state) hp
    rw [haddr, readMemoryChecked_some (by rw [hmem]; exact hread), fromBytes_toBytes_of_le _ hw]
  have hin (p : Nat × U64 × Nat) (hp : p ∈ fpuStateStores ctx.state) : p ∈ imageStores ctx.state :=
    List.mem_append_left _ hp
  have hfcw := hword 0 2 _ (by decide) (hin _ List.mem_cons_self)
  have hfsw := hword 2 2 _ (by decide) (hin _ (List.mem_cons_of_mem _ List.mem_cons_self))
  have hftw := hword 4 1 _ (by decide)
    (hin _ (List.mem_cons_of_mem _ (List.mem_cons_of_mem _ List.mem_cons_self)))
  refine ⟨_, frstor_ok F (by rw [haddr]; exact halign) hfcw hfsw hftw, ?_⟩
  rw [setWidth_truncate_word, setWidth_truncate_word, setWidth_truncate_byte]
  obtain ⟨⟨hcw, hsw, htop⟩, hslots⟩ := restoreSlots_spec F later.memory
    (memoryAddress later.state later.instr) (x87Ftw ctx.state)
    ((later.state.setX87ControlWord ctx.state.x87ControlWord).setX87StatusWord
      ctx.state.x87StatusWord)
  refine x87Restored_iff F later.memory (memoryAddress later.state later.instr) hcw hsw htop
    (fun i hi => ?_) fun i hi => ?_
  · rw [hmem, haddr]
    exact readFxsaveSt_imageStores hplain ctx.state hi
  · have hslot := hslots i hi
    have hphys : CpuState.x87PhysIndex _ i = CpuState.x87PhysIndex _ i := congrArg
      (fun top : BitVec 8 => Fin.ofNat 8 (top.toNat + i % 256)) htop
    unfold SlotRestored at hslot ⊢
    rw [hphys]
    exact hslot

/-- **The round trip.** From plain memory `FRSTOR` restores the state that
`FNSAVE` stored exactly when the bits of the registers agree by either
index. -/
theorem frstor_fsave {ctx : ExecutionContext}
    (halign : memoryAddress ctx.state ctx.instr &&& 0x7#64 = 0#64)
    (hplain : ctx.memory.PlainArea (memoryAddress ctx.state ctx.instr) 160) :
    ∃ saved, fsave F ctx = .ok () saved ∧
      ∀ later : ExecutionContext, later.memory = saved.memory →
        memoryAddress later.state later.instr = memoryAddress ctx.state ctx.instr →
        ∃ restored, frstor F later = .ok () restored ∧
          (X87Restored ctx.state restored.state ↔ FtwAgrees ctx.state) :=
  ⟨fsaved F ctx, fsave_ok F halign, fun _ hmem haddr => frstor_fsaved F halign hplain hmem haddr⟩

/-! ## One register in use -/

/-- Softfloat where it converts and compares zero. -/
def bitwiseFloat : SoftFloat := { (default : SoftFloat) with extF80Eq := fun x y => x == y }

/-- A page of plain memory, and an operand at its start. -/
def imageContext (s : CpuState) : ExecutionContext where
  state := s
  memory := ({} : Memory).map 0x1000#64 0x1000#64 kMemoryPermissionReadWrite
  instr := { code := .other 0xDD, length := 7, memoryDisplacement64 := 0x1000#64 }
  nextRip := 0x107#64

/-- `FNINIT`. -/
def emptyStack : CpuState := ({ rip := 0x100#64 } : CpuState).x87Reset bitwiseFloat

/-- `FNINIT; FLD1`: register 7 is in use, as ST(0). -/
def oneLoaded : CpuState := (emptyStack.x87Push bitwiseFloat 0x3FFF8000000000000000#80).2

/-- The page of the image. -/
theorem imageContext_page (s : CpuState) : (imageContext s).memory.PlainArea 0x1000#64 512 := by
  have hwritable : ∀ k < 512, accessible (hasPermission · .dataWrite)
      (({} : Memory).map 0x1000#64 0x1000#64 kMemoryPermissionReadWrite).pages
      (0x1000#64 + BitVec.ofNat 64 k) = true := by
    decide +kernel
  intro o w _ _ hfits
  refine ⟨⟨rfl, rfl⟩, rfl, fun _ _ _ => rfl, fun i hi => ?_⟩
  rw [BitVec.add_assoc, ← BitVec.ofNat_add]
  exact hwritable _ (by omega)

/-- The image's part of it. -/
theorem imageContext_plain (s : CpuState) : (imageContext s).memory.PlainArea 0x1000#64 160 :=
  (imageContext_page s).mono (by decide)

/-- Its address. -/
theorem imageContext_address {s : CpuState} (hs : s.mode = .long64) :
    memoryAddress s (imageContext s).instr = 0x1000#64 := by
  have hfs : Register.none ≠ .fs := by decide
  have hgs : Register.none ≠ .gs := by decide
  have hdisplacement :
      memoryAddress s (imageContext s).instr = maskLinearAddress s 0x1000#64 := by
    simp [memoryAddress, imageContext, hfs, hgs]
  rw [hdisplacement]
  unfold maskLinearAddress
  rw [hs]
  decide

/-- `FNINIT` and eight loads of eight values: every register is in use, and TOP
is back at 0. -/
def fullStack : CpuState :=
  (List.range 8).foldl
    (fun s i => (s.x87Push bitwiseFloat (0x3FFF8000000000000000#80 + BitVec.ofNat 80 i)).2) emptyStack

/-- A stack of eight numbers comes back. -/
theorem frstor_fsave_full :
    ∃ saved, fsave bitwiseFloat (imageContext fullStack) = .ok () saved ∧
      ∃ restored, frstor bitwiseFloat saved = .ok () restored ∧
        X87Restored fullStack restored.state := by
  have haddr := @imageContext_address fullStack rfl
  have halign : memoryAddress (imageContext fullStack).state (imageContext fullStack).instr &&&
      0x7#64 = 0#64 := haddr.symm ▸ by decide
  obtain ⟨saved, hsaved, hrestore⟩ :=
    @frstor_fsave bitwiseFloat (imageContext fullStack) halign
      (haddr.symm ▸ imageContext_plain fullStack)
  have hstate : saved = fsaved bitwiseFloat (imageContext fullStack) := by
    rw [fsave_ok bitwiseFloat halign] at hsaved
    cases hsaved
    rfl
  obtain ⟨restored, hok, hiff⟩ := hrestore saved rfl (by rw [hstate]; exact haddr.trans haddr.symm)
  have hagrees : FtwAgrees fullStack := ⟨by decide +kernel, by decide +kernel⟩
  exact ⟨saved, hsaved, restored, hok, hiff.mpr hagrees⟩

/-- Register 7 is ST(0); its bit is read as that of ST(7). -/
theorem frstor_fsave_lost :
    memoryAddress (imageContext oneLoaded).state (imageContext oneLoaded).instr = 0x1000#64 ∧
      (imageContext oneLoaded).memory.PlainArea 0x1000#64 160 ∧
      ∃ saved, fsave bitwiseFloat (imageContext oneLoaded) = .ok () saved ∧
        ∃ restored, frstor bitwiseFloat saved = .ok () restored ∧
          ¬X87Restored oneLoaded restored.state := by
  have haddr : memoryAddress (imageContext oneLoaded).state (imageContext oneLoaded).instr =
      0x1000#64 := imageContext_address rfl
  have hplain := imageContext_plain oneLoaded
  have halign : memoryAddress (imageContext oneLoaded).state (imageContext oneLoaded).instr &&&
      0x7#64 = 0#64 := haddr.symm ▸ by decide
  obtain ⟨restored, hok, hiff⟩ := @frstor_fsaved bitwiseFloat _
    (fsaved bitwiseFloat (imageContext oneLoaded)) halign (haddr.symm ▸ hplain) rfl
    ((imageContext_address rfl).trans haddr.symm)
  have hfails : ¬FtwAgrees oneLoaded := fun h => absurd (h.tags 7) (by decide +kernel)
  exact ⟨haddr, hplain, _, fsave_ok bitwiseFloat halign, restored, hok,
    fun h => hfails (hiff.mp h)⟩

end Seven
