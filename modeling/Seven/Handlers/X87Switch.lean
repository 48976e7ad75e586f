import Seven.Handlers.X87Spans
import Seven.Handlers.X87Environment

/-!
# Switching contexts with `FXSAVE` and `FXRSTOR`

`FXSAVE` stores the x87 words, the registers by physical index, MXCSR and the
low halves of sixteen vector registers in 512 bytes; `FXRSTOR` loads them.
The image holds no MMX register, since these are kept apart from the x87
registers; the loaded control word and MXCSR are cut; and a loaded vector
register is cleared above the 128 bits of the image.

> `fxrstor_fxsave`: the pair carries one context into another exactly when
> none of these matters.
-/

namespace Seven

open Seven.Lib

/-! ## The image -/

/-- What `fxsave` stores. -/
def fxsaveStores (s : CpuState) : List (Nat × U64 × Nat) :=
  fpuStateStores s ++ [(24, s.mxcsr.setWidth 64, 4), (28, 0xFFFF#64, 4)] ++
    ((List.finRange 8).flatMap fun phys => fxsaveStStores phys.val (s.x87Stack phys)) ++
    ((List.range 16).flatMap fun i => vectorStores (160 + i * 16) 16 (s.vectors (vectorSlot i))) ++
    ((List.range 96).map fun i => (416 + i, 0#64, 1))

set_option maxRecDepth 8000 in
/-- Where the stores lie. -/
theorem placed_fxsaveStores (s : CpuState) :
    Memory.placed (fxsaveStores s) =
      [(0, 2), (2, 2), (4, 1), (5, 1), (6, 2), (8, 8), (16, 8), (24, 4), (28, 4)] ++
        (List.range 480).map fun i => (32 + i, 1) := by
  rfl

/-- One behind the other. -/
theorem fxsaveStores_inOrder (s : CpuState) :
    Memory.InOrder 512 (Memory.placed (fxsaveStores s)) := by
  rw [placed_fxsaveStores]
  have hhead : Memory.InOrder 512
      [(0, 2), (2, 2), (4, 1), (5, 1), (6, 2), (8, 8), (16, 8), (24, 4), (28, 4)] :=
    ⟨by decide, by decide⟩
  refine hhead.append (Memory.inOrder_bytes (by decide)) fun p hp q hq => ?_
  have hend : ∀ p ∈ [(0, 2), (2, 2), (4, 1), (5, 1), (6, 2), (8, 8), (16, 8), (24, 4), (28, 4)],
      p.1 + p.2 ≤ 32 := by decide
  obtain ⟨i, _, rfl⟩ := List.mem_map.mp hq
  exact Nat.le_trans (hend p hp) (Nat.le_add_right 32 i)

/-- What `fxsave` leaves. -/
def fxsaved (ctx : ExecutionContext) : ExecutionContext :=
  { ctx with
    memory := ctx.memory.putAll (memoryAddress ctx.state ctx.instr) (fxsaveStores ctx.state) }

/-- What `FXSAVE` writes. -/
theorem fxsaved_memory (ctx : ExecutionContext) : (fxsaved ctx).memory =
    ctx.memory.putAll (memoryAddress ctx.state ctx.instr) (fxsaveStores ctx.state) := by
  simp only [fxsaved]

/-- The x87 words and MXCSR. -/
def fxsaveHeader (s : CpuState) : List (Nat × U64 × Nat) :=
  fpuStateStores s ++ [(24, s.mxcsr.setWidth 64, 4), (28, 0xFFFF#64, 4)]

/-- The registers' stores. -/
def fxsaveRegisters (s : CpuState) : List (Nat × U64 × Nat) :=
  (List.finRange 8).flatMap fun phys => fxsaveStStores phys.val (s.x87Stack phys)

/-- The vectors' stores. -/
def fxsaveVectors (s : CpuState) : List (Nat × U64 × Nat) :=
  (List.range 16).flatMap fun i => vectorStores (160 + i * 16) 16 (s.vectors (vectorSlot i))

/-- The reserved bytes' stores. -/
def fxsaveReserved : List (Nat × U64 × Nat) := (List.range 96).map fun i => (416 + i, 0#64, 1)

/-- The image in its parts. -/
theorem fxsaveStores_eq (s : CpuState) :
    fxsaveStores s = fxsaveHeader s ++ fxsaveRegisters s ++ fxsaveVectors s ++ fxsaveReserved := rfl

/-- `FXSAVE`, its operand aligned and plain. -/
theorem fxsave_ok {ctx : ExecutionContext}
    (halign : memoryAddress ctx.state ctx.instr &&& 0xF#64 = 0#64)
    (hplain : ctx.memory.PlainArea (memoryAddress ctx.state ctx.instr) 512) :
    fxsave ctx = .ok () (fxsaved ctx) := by
  obtain ⟨base, hbase⟩ : ∃ base, base = memoryAddress ctx.state ctx.instr := ⟨_, rfl⟩
  rw [← hbase] at halign hplain
  have hget : (get : HandlerM ExecutionContext) ctx = .ok ctx ctx := rfl
  have hfits (p : Nat × U64 × Nat) (hp : p ∈ fxsaveStores ctx.state) :
      0 < p.2.2 ∧ p.2.2 ≤ 8 ∧ p.1 + p.2.2 ≤ 512 :=
    (fxsaveStores_inOrder ctx.state).fits (p.1, p.2.2) (List.mem_map_of_mem hp)
  rw [fxsaveStores_eq] at hfits
  simp only [List.mem_append] at hfits
  -- the four parts, each in the memory the one before it leaves
  obtain ⟨m₁, hm₁⟩ : ∃ m, m = ctx.memory.putAll base (fxsaveHeader ctx.state) := ⟨_, rfl⟩
  obtain ⟨m₂, hm₂⟩ : ∃ m, m = m₁.putAll base (fxsaveRegisters ctx.state) := ⟨_, rfl⟩
  obtain ⟨m₃, hm₃⟩ : ∃ m, m = m₂.putAll base (fxsaveVectors ctx.state) := ⟨_, rfl⟩
  have harea₁ : m₁.PlainArea base 512 :=
    hm₁ ▸ hplain.putAll_area fun p hp => (hfits p (Or.inl (Or.inl (Or.inl hp)))).2.1
  have harea₂ : m₂.PlainArea base 512 :=
    hm₂ ▸ harea₁.putAll_area fun p hp => (hfits p (Or.inl (Or.inl (Or.inr hp)))).2.1
  have harea₃ : m₃.PlainArea base 512 :=
    hm₃ ▸ harea₂.putAll_area fun p hp => (hfits p (Or.inl (Or.inr hp))).2.1
  have hheader := storeWordsChecked_ok hplain fun p hp => hfits p (Or.inl (Or.inl (Or.inl hp)))
  have hvectors := @storeWordsChecked_ok base 512 (fxsaveVectors ctx.state)
    { ctx with memory := m₂ } harea₂ fun p hp => hfits p (Or.inl (Or.inr hp))
  have hreserved := @storeWordsChecked_ok base 512 fxsaveReserved
    { ctx with memory := m₃ } harea₃ fun p hp => hfits p (Or.inr hp)
  rw [← hm₁] at hheader
  dsimp only at hvectors
  rw [← hm₃] at hvectors
  unfold fxsave
  rw [bind_ok hget, ← hbase, if_neg (by rw [halign]; exact fun h => h rfl),
    bind_ok (validateWritable_ok hplain.writableSpan 0x200 0)]
  refine (bind_ok hheader).trans ?_
  have hregisters : (modify fun c : ExecutionContext => { c with
      memory := c.memory.putAll base
        ((List.finRange 8).flatMap fun phys => fxsaveStStores phys.val (ctx.state.x87Stack phys)) } :
      HandlerM Unit) { ctx with memory := m₁ } = .ok () { ctx with memory := m₂ } := by
    rw [hm₂]
    rfl
  rw [bind_ok hregisters]
  refine (bind_ok hvectors).trans (hreserved.trans ?_)
  unfold fxsaved
  rw [← hbase, fxsaveStores_eq, Memory.putAll_append, Memory.putAll_append, Memory.putAll_append,
    ← hm₁, ← hm₂, ← hm₃]

/-! ## Loading -/

/-- The registers of an image, all at once. -/
theorem restorePhysical_eq (F : SoftFloat) (m : Memory) (base : U64) (ftw : BitVec 8)
    (s : CpuState) :
    restorePhysical F m base ftw s = { s with
      x87Stack := fun i => if ftw.getLsbD i then readFxsaveSt m base i else s.x87Stack i
      x87Tags := fun i =>
        if ftw.getLsbD i then CpuState.x87TagOf F (readFxsaveSt m base i) else kX87TagEmpty } := by
  -- by the registers still to come: those of the list are set, the others kept
  have hloop : ∀ (l : List (Fin 8)) (s : CpuState),
      l.foldl (fun s phys =>
        if ftw.getLsbD phys.val then
          let value := readFxsaveSt m base phys.val
          s.setX87Register phys value (CpuState.x87TagOf F value)
        else s.setX87Tag phys kX87TagEmpty) s = { s with
          x87Stack := fun i =>
            if i ∈ l ∧ ftw.getLsbD i = true then readFxsaveSt m base i else s.x87Stack i
          x87Tags := fun i =>
            if i ∈ l then
              if ftw.getLsbD i then CpuState.x87TagOf F (readFxsaveSt m base i) else kX87TagEmpty
            else s.x87Tags i } := by
    intro l
    induction l with
    | nil =>
      intro s
      simp only [List.foldl_nil, List.not_mem_nil, false_and, if_false]
    | cons phys l ih =>
      intro s
      rw [List.foldl_cons, ih]
      by_cases hbit : ftw.getLsbD phys.val = true
      · rw [if_pos hbit]
        unfold CpuState.setX87Register
        congr 1
        · funext i
          by_cases hi : i = phys
          · subst hi
            simp only [List.mem_cons_self, hbit, and_true, if_true, ite_self]
          · simp only [List.mem_cons, hi, false_or, if_false]
        · funext i
          by_cases hi : i = phys
          · subst hi
            simp only [List.mem_cons_self, hbit, if_true, ite_self]
          · simp only [List.mem_cons, hi, false_or, if_false]
      · rw [if_neg hbit]
        unfold CpuState.setX87Tag
        congr 1
        · funext i
          by_cases hi : i = phys
          · subst hi
            simp only [hbit, Bool.false_eq_true, and_false, if_false]
          · simp only [List.mem_cons, hi, false_or]
        · funext i
          by_cases hi : i = phys
          · subst hi
            simp only [List.mem_cons_self, hbit, Bool.false_eq_true, if_true, if_false, ite_self]
          · simp only [List.mem_cons, hi, false_or, if_false]
  unfold restorePhysical
  rw [hloop]
  simp only [List.mem_finRange, true_and, if_true]

/-- Bytes that can be read one by one. -/
theorem readBytesChecked_ok {ctx : ExecutionContext} :
    ∀ {n : Nat} {address : U64} {byte : Nat → Byte},
      (∀ i < n, ctx.memory.read (address + BitVec.ofNat 64 i) 1 .dataRead = some [byte i]) →
      readBytesChecked address n ctx = .ok ((List.range n).map byte) ctx := by
  intro n
  induction n with
  | zero => exact fun _ => rfl
  | succ n ih =>
    intro address byte h
    have hfirst := h 0 (Nat.zero_lt_succ n)
    rw [BitVec.add_zero] at hfirst
    have hrest := @ih (address + 1#64) (fun i => byte (i + 1)) fun i hi => by
      rw [← Memory.add_succ_ofNat]
      exact h (i + 1) (Nat.succ_lt_succ hi)
    unfold readBytesChecked
    rw [bind_ok (readMemoryChecked_some hfirst), bind_ok hrest, List.range_succ_eq_map,
      List.map_cons, List.map_map]
    have hbyte : (fromBytes [byte 0]).setWidth 8 = byte 0 := by
      rw [fromBytes_one, BitVec.setWidth_setWidth_of_le _ (by decide), BitVec.setWidth_eq]
    rw [hbyte]
    rfl

/-- The low bytes of a vector register. -/
theorem vectorBytes_eq_toLE (n : Nat) :
    ∀ value : BitVec 512, (List.range n).map (fun b => (value >>> (8 * b)).setWidth 8) =
      toLE n value.toNat := by
  induction n with
  | zero => exact fun _ => rfl
  | succ n ih =>
    intro value
    rw [List.range_succ_eq_map, List.map_cons, List.map_map]
    have hshift : (value >>> 8).toNat = value.toNat / 256 := by
      rw [BitVec.toNat_ushiftRight, Nat.shiftRight_eq_div_pow]
    have htail : (List.range n).map ((fun b => (value >>> (8 * b)).setWidth 8) ∘ Nat.succ) =
        (List.range n).map fun b => ((value >>> 8) >>> (8 * b)).setWidth 8 := by
      apply List.map_congr_left
      intro b _
      show (value >>> (8 * (b + 1))).setWidth 8 = ((value >>> 8) >>> (8 * b)).setWidth 8
      rw [← BitVec.shiftRight_add, Nat.mul_succ, Nat.add_comm]
    rw [htail, ih, hshift]
    rfl

/-- The low half of a register, cleared above. -/
def lowHalf (value : BitVec 512) : BitVec 512 := (value.setWidth 128).setWidth 512

/-- The low half of a vector, by its bytes. -/
theorem ofLE_vectorBytes (value : BitVec 512) :
    BitVec.ofNat 512 (ofLE ((List.range 16).map fun b => (value >>> (8 * b)).setWidth 8)) =
      lowHalf value := by
  rw [vectorBytes_eq_toLE, ofLE_toLE]
  unfold lowHalf
  apply BitVec.eq_of_toNat_eq
  rw [BitVec.toNat_ofNat, BitVec.toNat_setWidth, BitVec.toNat_setWidth]
  rfl

/-- The vectors replaced. -/
def withVectors (s : CpuState) (vectors : Fin 32 → BitVec 512) : CpuState :=
  { s with vectors := vectors }

/-- The vector registers of an image, all at once. -/
theorem restoreVectors_ok {base : U64} {value : Nat → BitVec 512} :
    ∀ (n i : Nat) (ctx : ExecutionContext), i + n ≤ 32 →
      (∀ j, i ≤ j → j < i + n → ∀ b < 16,
        ctx.memory.read (base + BitVec.ofNat 64 (160 + j * 16) + BitVec.ofNat 64 b) 1 .dataRead =
          some [(value j >>> (8 * b)).setWidth 8]) →
      restoreVectors base i n ctx = .ok () { ctx with
        state := withVectors ctx.state fun j =>
          if i ≤ j.val ∧ j.val < i + n then lowHalf (value j.val) else ctx.state.vectors j } := by
  intro n
  induction n with
  | zero =>
    intro i ctx _ _
    have hnone (j : Fin 32) : ¬(i ≤ j.val ∧ j.val < i + 0) := by omega
    simp only [hnone, if_false]
    rfl
  | succ n ih =>
    intro i ctx hi hread
    have hbytes := readBytesChecked_ok (hread i (Nat.le_refl i) (by omega))
    have hset : modifyState (fun s => setVector s (vectorSlot i) (BitVec.ofNat 512
        (ofLE ((List.range 16).map fun b => (value i >>> (8 * b)).setWidth 8)))) ctx =
        .ok () { ctx with state := setVector ctx.state (vectorSlot i) (lowHalf (value i)) } := by
      rw [ofLE_vectorBytes]
      rfl
    unfold restoreVectors
    rw [bind_ok hbytes, bind_ok hset]
    refine (ih (i + 1) { ctx with state := setVector ctx.state (vectorSlot i) (lowHalf (value i)) }
      (by omega) fun j hj hlt => hread j (by omega) (by omega)).trans ?_
    unfold setVector withVectors
    congr 3
    funext j
    dsimp only
    have hslot : j = vectorSlot i ↔ j.val = i := by
      rw [Fin.ext_iff, vectorSlot_val (by omega)]
    -- the register just loaded, a later one, or one that stays
    by_cases hj : j.val = i
    · rw [if_neg (by omega), if_pos (hslot.mpr hj), if_pos (by omega), hj]
    · rw [if_neg (fun h => hj (hslot.mp h))]
      by_cases hlater : i + 1 ≤ j.val ∧ j.val < i + 1 + n
      · rw [if_pos hlater, if_pos (by omega)]
      · rw [if_neg hlater, if_neg (by omega)]

/-- What `fxrstor` makes of `t` from an image of `s`. -/
def switched (F : SoftFloat) (s t : CpuState) : CpuState :=
  { t with
    mxcsr := s.mxcsr &&& 0xFFFF#32
    x87ControlWord := s.x87ControlWord &&& ~~~0xE0C0#16
    x87StatusWord := s.x87StatusWord
    x87Top := topBits s.x87StatusWord
    x87Stack := fun i => if (x87Ftw s).getLsbD i then s.x87Stack i else t.x87Stack i
    x87Tags := fun i =>
      if (x87Ftw s).getLsbD i then CpuState.x87TagOf F (s.x87Stack i) else kX87TagEmpty
    vectors := fun i => if i.val < 16 then lowHalf (s.vectors i) else t.vectors i }

/-- A double word back. -/
theorem setWidth_truncate_dword (value : BitVec 32) :
    (truncate (value.setWidth 64) 4).setWidth 32 = value := by
  apply BitVec.eq_of_toNat_eq
  have hlt := value.isLt
  rw [BitVec.toNat_setWidth, truncate_toNat _ (by decide), BitVec.toNat_setWidth]
  omega

/-- A byte back. -/
theorem toBytes_lowByte (value : BitVec 512) :
    toBytes (value.setWidth 64 &&& 0xFF#64) 1 = [value.setWidth 8] := by
  have hlow : (value.setWidth 64 &&& 0xFF#64).setWidth 8 = value.setWidth 8 := by
    apply BitVec.eq_of_getLsbD_eq
    intro i hi
    have hmask : ∀ i < 8, (0xFF#64).getLsbD i = true := by decide
    rw [BitVec.getLsbD_setWidth, BitVec.getLsbD_and, BitVec.getLsbD_setWidth, hmask i hi,
      BitVec.getLsbD_setWidth, Bool.and_true, decide_eq_true hi, decide_eq_true (by omega),
      Bool.true_and, Bool.true_and]
  show [((value.setWidth 64 &&& 0xFF#64) >>> 0).setWidth 8] = _
  rw [BitVec.ushiftRight_zero, hlow]

/-- A span that can be written can be read. -/
theorem validateReadable_ok {ctx : ExecutionContext} {base : U64} {size : Nat}
    (h : ctx.memory.WritableSpan base size) (fuel offset : Nat) :
    validateMemorySpan spanReadable base size fuel offset ctx = .ok () ctx := by
  refine validateMemorySpan_ok (fun o chunk hfits => ?_) fuel offset
  have hspan := (Memory.spanWritable_iff ctx.memory (base + BitVec.ofNat 64 o) chunk).mpr
    fun i hi => by
      rw [BitVec.add_assoc, ← BitVec.ofNat_add]
      exact h (o + i) (by omega)
  rw [Bool.and_eq_true] at hspan ⊢
  refine ⟨hspan.1, ?_⟩
  have hwrite := hspan.2
  unfold spanWritable at hwrite
  unfold spanReadable
  rw [hwrite, Bool.or_true, Bool.true_or]

section image

variable {s : CpuState} {m : Memory} {base : U64} (hplain : m.PlainArea base 512)

include hplain

/-- Every store of `FXSAVE` reads back. -/
theorem read_fxsaveStores {offset width : Nat} {value : U64}
    (hp : (offset, value, width) ∈ fxsaveStores s) :
    (m.putAll base (fxsaveStores s)).read (base + BitVec.ofNat 64 offset) width .dataRead =
      some (toBytes value width) :=
  hplain.read_putAll (by decide) (fxsaveStores_inOrder s) hp

/-- A field of the header, as `FXRSTOR` asks for it. -/
theorem readMemoryChecked_fxsaveHeader {ctx : ExecutionContext} {offset width : Nat} {value : U64}
    (hmem : ctx.memory = m.putAll base (fxsaveStores s)) (hw : width ≤ 8)
    (hp : (offset, value, width) ∈ fxsaveHeader s) :
    readMemoryChecked (base + BitVec.ofNat 64 offset) width ctx =
      .ok (truncate value width) ctx := by
  have hin : (offset, value, width) ∈ fxsaveStores s := by
    rw [fxsaveStores_eq]
    exact List.mem_append_left _ (List.mem_append_left _ (List.mem_append_left _ hp))
  rw [readMemoryChecked_some (by rw [hmem]; exact read_fxsaveStores hplain hin),
    fromBytes_toBytes_of_le _ hw]

/-- A register of the stack, back from its slot. -/
theorem readFxsaveSt_fxsaveStores (i : Fin 8) :
    readFxsaveSt (m.putAll base (fxsaveStores s)) base i = s.x87Stack i := by
  refine readFxsaveSt_putAll hplain (by decide) (fxsaveStores_inOrder s) fun p hp => ?_
  rw [fxsaveStores_eq]
  exact List.mem_append_left _ (List.mem_append_left _ (List.mem_append_right _
    (List.mem_flatMap.mpr ⟨i, List.mem_finRange i, hp⟩)))

/-- A byte of a vector register, back from its slot. -/
theorem read_fxsaveVector {j b : Nat} (hj : j < 16) (hb : b < 16) :
    (m.putAll base (fxsaveStores s)).read
        (base + BitVec.ofNat 64 (160 + j * 16) + BitVec.ofNat 64 b) 1 .dataRead =
      some [(s.vectors (vectorSlot j) >>> (8 * b)).setWidth 8] := by
  rw [BitVec.add_assoc, ← BitVec.ofNat_add]
  have hin : (160 + j * 16 + b, (s.vectors (vectorSlot j) >>> (8 * b)).setWidth 64 &&&
      0xFF#64, 1) ∈ fxsaveStores s := by
    rw [fxsaveStores_eq]
    exact List.mem_append_left _ (List.mem_append_right _ (List.mem_flatMap.mpr
      ⟨j, List.mem_range.mpr hj, List.mem_map_of_mem (List.mem_range.mpr hb)⟩))
  rw [read_fxsaveStores hplain hin, toBytes_lowByte]

end image

/-- `FXRSTOR` from the area that `FXSAVE` filled. -/
theorem fxrstor_fxsaved (F : SoftFloat) {ctx later : ExecutionContext}
    (halign : memoryAddress ctx.state ctx.instr &&& 0xF#64 = 0#64)
    (hplain : ctx.memory.PlainArea (memoryAddress ctx.state ctx.instr) 512)
    (hmem : later.memory = (fxsaved ctx).memory)
    (haddr : memoryAddress later.state later.instr = memoryAddress ctx.state ctx.instr) :
    fxrstor F later = .ok () { later with state := switched F ctx.state later.state } := by
  obtain ⟨base, hbase⟩ : ∃ base, base = memoryAddress ctx.state ctx.instr := ⟨_, rfl⟩
  rw [← hbase] at halign hplain haddr
  have hmem : later.memory = ctx.memory.putAll base (fxsaveStores ctx.state) := by
    rw [hmem, hbase, fxsaved_memory]
  have harea : later.memory.PlainArea base 512 := by
    rw [hmem]
    exact hplain.putAll_area fun p hp =>
      ((fxsaveStores_inOrder ctx.state).fits (p.1, p.2.2) (List.mem_map_of_mem hp)).2.1
  have hchecked {offset width : Nat} {value : U64} (hw : width ≤ 8)
      (hp : (offset, value, width) ∈ fxsaveHeader ctx.state) :=
    readMemoryChecked_fxsaveHeader hplain hmem hw hp
  have hget : (get : HandlerM ExecutionContext) later = .ok later later := rfl
  have hfcw := @hchecked 0 2 _ (by decide) List.mem_cons_self
  have hfsw := @hchecked 2 2 _ (by decide) (List.mem_cons_of_mem _ List.mem_cons_self)
  have hftw := @hchecked 4 1 _ (by decide)
    (List.mem_cons_of_mem _ (List.mem_cons_of_mem _ List.mem_cons_self))
  have hmxcsr := @hchecked 24 4 _ (by decide) (List.mem_append_right _ List.mem_cons_self)
  unfold fxrstor
  rw [bind_ok hget, haddr, if_neg (by rw [halign]; exact fun h => h rfl),
    bind_ok (validateReadable_ok harea.writableSpan 0x200 0)]
  refine (bind_ok hfcw).trans ?_
  refine (bind_ok hfsw).trans ?_
  refine (bind_ok hftw).trans ?_
  refine (bind_ok hmxcsr).trans ?_
  -- the words are set, then the registers
  obtain ⟨words, hwords⟩ : ∃ words : CpuState, words = { later.state with
      mxcsr := ctx.state.mxcsr &&& 0xFFFF#32
      x87ControlWord := ctx.state.x87ControlWord &&& ~~~0xE0C0#16
      x87StatusWord := ctx.state.x87StatusWord
      x87Top := topBits ctx.state.x87StatusWord } := ⟨_, rfl⟩
  obtain ⟨t, ht⟩ : ∃ t, t = restorePhysical F later.memory base (x87Ftw ctx.state) words := ⟨_, rfl⟩
  have hset : modifyState (fun s =>
      let s := s.setX87ControlWord ((truncate (ctx.state.x87ControlWord.setWidth 64) 2).setWidth 16 &&&
        ~~~0xE0C0#16)
      let s := s.setX87StatusWord ((truncate (ctx.state.x87StatusWord.setWidth 64) 2).setWidth 16)
      let s := { s with
        mxcsr := (truncate (ctx.state.mxcsr.setWidth 64) 4).setWidth 32 &&& 0xFFFF#32 }
      restorePhysical F later.memory base
        ((truncate ((x87Ftw ctx.state).setWidth 64) 1).setWidth 8) s) later =
      .ok () { later with state := t } := by
    rw [setWidth_truncate_word, setWidth_truncate_word, setWidth_truncate_byte,
      setWidth_truncate_dword, ht, hwords]
    rfl
  have hvectors := @restoreVectors_ok base (fun j => ctx.state.vectors (vectorSlot j)) 16 0
    { later with state := t } (by decide) fun j _ hj b hb => by
      rw [hmem]
      exact read_fxsaveVector hplain (by omega) hb
  refine (bind_ok hset).trans (hvectors.trans ?_)
  rw [ht, restorePhysical_eq]
  unfold withVectors switched
  simp only [hmem, readFxsaveSt_fxsaveStores hplain]
  subst hwords
  congr 3
  funext j
  have hslot : vectorSlot j.val = j := Fin.ext (vectorSlot_val j.isLt)
  dsimp only
  rw [hslot]
  by_cases hj : j.val < 16
  · rw [if_pos ⟨Nat.zero_le _, hj⟩, if_pos hj]
  · rw [if_neg (fun h => hj h.2), if_neg hj]

/-! ## The switch -/

/-- What the pair is for: in `u` the x87 unit, the MMX registers, the low
halves of sixteen vector registers and MXCSR are those of `s`, everything else
is that of `t`. -/
structure ContextSwitched (s t u : CpuState) : Prop where
  controlWord : u.x87ControlWord = s.x87ControlWord
  statusWord : u.x87StatusWord = s.x87StatusWord
  top : u.x87Top = s.x87Top
  empty : ∀ i < 8, u.x87IsEmpty i = s.x87IsEmpty i
  value : ∀ i < 8, s.x87IsEmpty i = false → u.x87Get i = s.x87Get i
  mmx : u.mmx = s.mmx
  xmm : ∀ i : Fin 32, i.val < 16 → (u.vectors i).setWidth 128 = (s.vectors i).setWidth 128
  mxcsr : u.mxcsr = s.mxcsr
  upper : ∀ i : Fin 32, u.vectors i >>> 128 = t.vectors i >>> 128
  otherVectors : ∀ i : Fin 32, 16 ≤ i.val → u.vectors i = t.vectors i
  rest : { u with
    x87ControlWord := t.x87ControlWord
    x87StatusWord := t.x87StatusWord
    x87Top := t.x87Top
    x87Stack := t.x87Stack
    x87Tags := t.x87Tags
    mmx := t.mmx
    vectors := t.vectors
    mxcsr := t.mxcsr } = t

/-- Nothing is lost: the words keep all their bits, the MMX registers are the
same, and the vector registers are clear where the image ends. -/
structure SwitchLossless (s t : CpuState) : Prop where
  controlWord : ControlWordAccepted s.x87ControlWord
  top : s.x87Top = topBits s.x87StatusWord
  mxcsr : s.mxcsr &&& 0xFFFF#32 = s.mxcsr
  mmx : t.mmx = s.mmx
  upper : ∀ i : Fin 32, i.val < 16 → t.vectors i >>> 128 = 0#512

/-- Nothing above the low half. -/
theorem lowHalf_shift (value : BitVec 512) : lowHalf value >>> 128 = 0#512 := by
  unfold lowHalf
  apply BitVec.eq_of_toNat_eq
  have hlow : value.toNat % 2 ^ 128 < 2 ^ 128 := Nat.mod_lt _ (Nat.two_pow_pos 128)
  rw [BitVec.toNat_ushiftRight, BitVec.toNat_setWidth, BitVec.toNat_setWidth,
    Nat.shiftRight_eq_div_pow, BitVec.toNat_ofNat]
  omega

/-- The low half itself. -/
theorem lowHalf_setWidth (value : BitVec 512) :
    (lowHalf value).setWidth 128 = value.setWidth 128 := by
  unfold lowHalf
  rw [BitVec.setWidth_setWidth_of_le _ (by decide), BitVec.setWidth_eq]

/-- A control word without reserved bits. -/
theorem clearReserved_iff (fcw : BitVec 16) :
    fcw &&& ~~~0xE0C0#16 = fcw ↔ ControlWordAccepted fcw := by
  unfold ControlWordAccepted
  constructor
  · intro h
    rw [← h, BitVec.and_assoc, show ~~~0xE0C0#16 &&& 0xE0C0#16 = 0#16 by decide, BitVec.and_zero]
  · intro h
    have hsplit : fcw = (fcw &&& ~~~0xE0C0#16) ||| (fcw &&& 0xE0C0#16) := by
      rw [← BitVec.and_or_distrib_left, show ~~~0xE0C0#16 ||| 0xE0C0#16 = BitVec.allOnes 16 by decide,
        BitVec.and_allOnes]
    rw [h, BitVec.or_zero] at hsplit
    exact hsplit.symm

/-- The switch keeps what it loses nothing of. -/
theorem contextSwitched_iff (F : SoftFloat) (s t : CpuState) :
    ContextSwitched s t (switched F s t) ↔ SwitchLossless s t := by
  have hused (i : Fin 8) : (x87Ftw s).getLsbD i = true ↔ ¬s.x87Tags i = kX87TagEmpty :=
    getLsbD_x87Ftw s i
  have hempty (i : Fin 8) :
      (switched F s t).x87Tags i = kX87TagEmpty ↔ s.x87Tags i = kX87TagEmpty := by
    show (if (x87Ftw s).getLsbD i then CpuState.x87TagOf F (s.x87Stack i) else kX87TagEmpty) =
      kX87TagEmpty ↔ _
    by_cases hbit : (x87Ftw s).getLsbD i = true
    · rw [if_pos hbit]
      exact iff_of_false (x87TagOf_ne_empty F _) ((hused i).mp hbit)
    · rw [if_neg hbit]
      exact iff_of_true rfl (not_not.mp fun h => hbit ((hused i).mpr h))
  constructor
  · intro h
    refine ⟨(clearReserved_iff _).mp h.controlWord, h.top.symm, h.mxcsr, h.mmx, fun i hi => ?_⟩
    have hupper := h.upper i
    have hvector : (switched F s t).vectors i = lowHalf (s.vectors i) := if_pos hi
    rw [hvector, lowHalf_shift] at hupper
    exact hupper.symm
  · intro h
    -- with one TOP, stack index and physical index name the same register
    have htop : (switched F s t).x87Top = s.x87Top := h.top.symm
    have hphys (i : Nat) : (switched F s t).x87PhysIndex i = s.x87PhysIndex i := by
      unfold CpuState.x87PhysIndex
      rw [htop]
    refine ⟨(clearReserved_iff _).mpr h.controlWord, rfl, htop, fun i hi => ?_, fun i hi hne => ?_,
      h.mmx, fun i hi => ?_, h.mxcsr, fun i => ?_, fun i hi => ?_, rfl⟩
    · unfold CpuState.x87IsEmpty
      rw [Bool.eq_iff_iff, beq_iff_eq, beq_iff_eq, hphys]
      exact hempty _
    · unfold CpuState.x87IsEmpty at hne
      rw [beq_eq_false_iff_ne] at hne
      unfold CpuState.x87Get
      rw [hphys]
      exact if_pos ((hused _).mpr hne)
    · have hvector : (switched F s t).vectors i = lowHalf (s.vectors i) := if_pos hi
      rw [hvector, lowHalf_setWidth]
    · by_cases hi : i.val < 16
      · have hvector : (switched F s t).vectors i = lowHalf (s.vectors i) := if_pos hi
        rw [hvector, lowHalf_shift, h.upper i hi]
      · have hvector : (switched F s t).vectors i = t.vectors i := if_neg hi
        rw [hvector]
    · exact if_neg (Nat.not_lt.mpr hi)

/-- **The context switch.** In a common plain area `FXSAVE` and `FXRSTOR`
succeed; they switch contexts exactly when nothing is lost. -/
theorem fxrstor_fxsave (F : SoftFloat) {ctx : ExecutionContext}
    (halign : memoryAddress ctx.state ctx.instr &&& 0xF#64 = 0#64)
    (hplain : ctx.memory.PlainArea (memoryAddress ctx.state ctx.instr) 512) :
    ∃ saved, fxsave ctx = .ok () saved ∧
      ∀ later : ExecutionContext, later.memory = saved.memory →
        memoryAddress later.state later.instr = memoryAddress ctx.state ctx.instr →
        ∃ restored, fxrstor F later = .ok () restored ∧
          (ContextSwitched ctx.state later.state restored.state ↔
            SwitchLossless ctx.state later.state) :=
  ⟨fxsaved ctx, fxsave_ok halign hplain, fun _ hmem haddr =>
    ⟨_, fxrstor_fxsaved F halign hplain hmem haddr, contextSwitched_iff F _ _⟩⟩

/-! ## A thread that uses a wide register -/

/-- `YMM0` with a bit above the low half. -/
def vectorThread : CpuState :=
  { emptyStack with vectors := fun i => if i = vectorSlot 0 then 1#512 <<< 128 else 0#512 }

/-- The operand is aligned. -/
theorem imageContext_aligned {s : CpuState} (hs : s.mode = .long64) :
    memoryAddress (imageContext s).state (imageContext s).instr &&& 0xF#64 = 0#64 := by
  have haddr : memoryAddress (imageContext s).state (imageContext s).instr = 0x1000#64 :=
    imageContext_address hs
  rw [haddr]
  decide

/-- A thread with 1.0 in ST(0) and a value in every vector register. -/
def loadedThread : CpuState :=
  { (acceptedWord.x87Push bitwiseFloat 0x3FFF8000000000000000#80).2 with
    vectors := fun i => BitVec.ofNat 512 (i.val + 1) <<< 64 ||| 1#512 <<< 300 }

/-- A thread that uses the low halves only. -/
def lowThread : CpuState :=
  { emptyStack with vectors := fun i => BitVec.ofNat 512 (0x100 + i.val) }

/-- The thread has nothing above the low halves. -/
theorem lowThread_upper (i : Fin 32) : lowThread.vectors i >>> 128 = 0#512 := by
  apply BitVec.eq_of_toNat_eq
  simp only [lowThread, BitVec.toNat_ushiftRight, BitVec.toNat_ofNat, Nat.shiftRight_eq_div_pow]
  omega

/-- A thread saved and another one loaded in between. -/
theorem fxrstor_fxsave_between :
    ∃ saved restored, fxsave (imageContext loadedThread) = .ok () saved ∧
      fxrstor bitwiseFloat { saved with state := lowThread } = .ok () restored ∧
      ContextSwitched loadedThread lowThread restored.state := by
  obtain ⟨saved, hsaved, hlater⟩ := @fxrstor_fxsave bitwiseFloat (imageContext loadedThread)
    (imageContext_aligned rfl) (imageContext_area rfl (by decide))
  have hinstr : saved.instr = (imageContext loadedThread).instr := by
    rw [fxsave_ok (imageContext_aligned rfl) (imageContext_area rfl (by decide))] at hsaved
    cases hsaved
    rfl
  obtain ⟨restored, hok, hiff⟩ := hlater { saved with state := lowThread } rfl (by
    rw [hinstr]
    exact (imageContext_address rfl).trans (imageContext_address rfl).symm)
  refine ⟨saved, restored, hsaved, hok,
    hiff.mpr ⟨by decide +kernel, by decide +kernel, by decide +kernel, rfl, ?_⟩⟩
  exact fun i _ => lowThread_upper i

/-- The restored register is cleared above the image: the thread's own bit is
lost. -/
theorem fxrstor_fxsave_clears_upper :
    (imageContext acceptedWord).memory.PlainArea
      (memoryAddress (imageContext acceptedWord).state (imageContext acceptedWord).instr) 512 ∧
    ∃ saved restored, fxsave (imageContext acceptedWord) = .ok () saved ∧
      fxrstor bitwiseFloat { saved with state := vectorThread } = .ok () restored ∧
      ¬ContextSwitched acceptedWord vectorThread restored.state := by
  have harea := @imageContext_area acceptedWord rfl 512 (by decide)
  have hload := @fxrstor_fxsaved bitwiseFloat (imageContext acceptedWord)
    { fxsaved (imageContext acceptedWord) with state := vectorThread } (imageContext_aligned rfl)
    harea (by simp only) ((imageContext_address rfl).trans (imageContext_address rfl).symm)
  refine ⟨harea, _, _, fxsave_ok (imageContext_aligned rfl) harea, hload, fun h => ?_⟩
  have hfits := (contextSwitched_iff bitwiseFloat acceptedWord vectorThread).mp h
  exact absurd (hfits.upper 0 (by decide)) (by decide +kernel)

end Seven
