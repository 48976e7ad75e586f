import Seven.Handlers.EffectiveAddress
import Seven.Handlers.StringResume

/-!
# Implicit addresses

A string instruction names no operand. It addresses memory through `SI` and
`DI`, and counts in `CX`, at the address size of the instruction, and an
overridden segment moves the source; `XLAT` does the same with `BX` and `AL`.
The handlers do not go through `memory_address`: they take the 64-bit
registers, whatever the address size and the prefix.

The instruction as the architecture has it is here the handler with the other
addresses, the other registers written back and the other count (`sizedTurn`,
`sizedImpl`). For which register contents is that the same, in every memory?

> `implicit_addressing`: exactly when an index register holds above the
> address size what the segment base is, moves without leaving the address
> size, and `RCX` counts the same there.

A repeat is decided so turn by turn, for the turns it takes: what the
registers would be behind a search that has stopped does not matter.
-/

namespace Seven

open Seven.Lib

/-! ## Registers at the address size -/

namespace AddressSize

/-- What a 64-bit register holds after a write at the address size. -/
def merge (size : AddressSize) (raw value : U64) : U64 := mergeGpr raw value false size.bytes

/-- The new value has above the address size what such a write leaves there. -/
def Keeps (size : AddressSize) (raw value : U64) : Prop :=
  match size with
  | .addr16 => value >>> 16 = raw >>> 16
  | .addr32 => value.toNat < 2 ^ 32
  | .addr64 => True

instance (size : AddressSize) (raw value : U64) : Decidable (size.Keeps raw value) :=
  match size with
  | .addr16 => inferInstanceAs (Decidable (_ = _))
  | .addr32 => inferInstanceAs (Decidable (_ < _))
  | .addr64 => inferInstanceAs (Decidable True)

end AddressSize

/-- The address an index register stands for. -/
def indexAddress (s : CpuState) (size : AddressSize) (base index : U64) : U64 :=
  maskLinearAddress s (truncate index size.bytes + base)

/-- The register is the address: it fits in the mode's width, and the segment
base is there what the register holds above the address size. -/
structure IndexFits (s : CpuState) (size : AddressSize) (base index : U64) : Prop where
  mode : index.toNat < 2 ^ (8 * instructionPointerWidth s.mode)
  above : truncate base (instructionPointerWidth s.mode) =
    truncate (index - truncate index size.bytes) (instructionPointerWidth s.mode)

/-- A value that fits is left by truncation. -/
theorem truncate_eq_self_iff (v : U64) {w : Nat} (hw : w ≤ 8) :
    truncate v w = v ↔ v.toNat < 2 ^ (8 * w) := by
  rw [← BitVec.toNat_inj, truncate_toNat v hw]
  exact Nat.mod_eq_iff_lt (Nat.two_pow_pos _).ne'

/-- A register written at the size holds the value when its high part is the value's. -/
theorem AddressSize.merge_eq_iff (size : AddressSize) (raw value : U64) :
    size.merge raw value = value ↔ size.Keeps raw value := by
  -- A merge of 16 bits keeps the rest of the register; one of 32 bits clears it.
  cases size with
  | addr16 =>
    have hlow (i : Nat) : (0xFFFF#64).getLsbD i = decide (i < 16) := Nat.testBit_two_pow_sub_one 16 i
    show (raw &&& ~~~0xFFFF#64) ||| (value &&& 0xFFFF#64) = value ↔ value >>> 16 = raw >>> 16
    constructor
    · intro h
      apply BitVec.eq_of_getLsbD_eq
      intro i hi
      have hbit := congrArg (·.getLsbD (16 + i)) h
      simp only [BitVec.getLsbD_or, BitVec.getLsbD_and, BitVec.getLsbD_not, hlow] at hbit
      rw [BitVec.getLsbD_ushiftRight, BitVec.getLsbD_ushiftRight, ← hbit]
      have hnot : ¬(16 + i < 16) := by omega
      by_cases h64 : 16 + i < 64
      · simp [hnot, h64]
      · simp [hnot, h64, BitVec.getLsbD_of_ge raw (16 + i) (by omega)]
    · intro h
      apply BitVec.eq_of_getLsbD_eq
      intro i hi
      simp only [BitVec.getLsbD_or, BitVec.getLsbD_and, BitVec.getLsbD_not, hlow]
      by_cases h16 : i < 16
      · simp [h16]
      · have hbit := congrArg (·.getLsbD (i - 16)) h
        simp only [BitVec.getLsbD_ushiftRight, show 16 + (i - 16) = i by omega] at hbit
        simp only [h16, hi, decide_false, decide_true, Bool.not_false, Bool.and_true, Bool.and_false,
          Bool.or_false]
        exact hbit.symm
  | addr32 => exact truncate_eq_self_iff value (show 4 ≤ 8 by omega)
  | addr64 => exact iff_of_true rfl trivial

/-- **A register is its own address exactly under `IndexFits`.** -/
theorem indexAddress_eq_iff (s : CpuState) (size : AddressSize) (base index : U64) :
    indexAddress s size base index = index ↔ IndexFits s size base index := by
  have hm := instructionPointerWidth_le s.mode
  have hself := truncate_eq_self_iff index hm
  have hsplit : truncate index size.bytes + (index - truncate index size.bytes) = index := by
    rw [BitVec.add_comm, BitVec.sub_add_cancel]
  have hcancel := truncate_add_left_cancel (truncate index size.bytes) base
    (index - truncate index size.bytes) hm
  rw [hsplit] at hcancel
  unfold indexAddress
  rw [maskLinearAddress_eq_truncate]
  constructor
  · intro h
    have hfit : truncate index (instructionPointerWidth s.mode) = index := by
      rw [← h, truncate_truncate]
    exact ⟨hself.mp hfit, hcancel.mp (h.trans hfit.symm)⟩
  · rintro ⟨hmode, habove⟩
    rw [hcancel.mpr habove]
    exact hself.mpr hmode

/-! ## The instructions with implicit addresses -/

/-- The addresses of an element. The override moves the source only. -/
def sizedPointers (size : AddressSize) (s : CpuState) (instr : Instruction) : StringPointers :=
  ⟨indexAddress s size (segmentBase s instr) (s.gpr 6), indexAddress s size 0#64 (s.gpr 7)⟩

/-- The index registers behind it. -/
def sizedNext (size : AddressSize) (op : StringOp) (width : Nat) (s : CpuState) :
    StringPointers :=
  let next := nextPointers op width s
  ⟨size.merge (s.gpr 6) next.rsi, size.merge (s.gpr 7) next.rdi⟩

/-- `CX`, `ECX` or `RCX`. -/
def sizedCount (size : AddressSize) (s : CpuState) : Nat :=
  (truncate (s.gpr 1) size.bytes).toNat

/-- The instruction without a prefix. -/
def sizedElement (size : AddressSize) (op : StringOp) (width : Nat) : Handler := fun ctx =>
  match stringElement op width (sizedPointers size ctx.state ctx.instr) ctx with
  | .error r c => .error r c
  | .ok hits c =>
    .ok () { (noteDebugBreak c hits false).1 with
      state := savePointers op false (sizedNext size op width ctx.state) 0 c.state }

/-- One iteration under a prefix. -/
def sizedIteration (size : AddressSize) (op : StringOp) (width : Nat) : HandlerM Bool := fun ctx =>
  match stringElement op width (sizedPointers size ctx.state ctx.instr) ctx with
  | .error r c => .error r c
  | .ok hits c =>
    let goOn := continueLoop op true ctx.instr.hasRepnePrefix (sizedCount size ctx.state - 1)
      c.state.rflags
    .ok (!decide (hits ≠ 0#64) && goOn) { (noteDebugBreak c hits goOn).1 with
      state := (savePointers op false (sizedNext size op width ctx.state) 0 c.state).setGpr 1
        (size.merge (ctx.state.gpr 1) (ctx.state.gpr 1 - 1#64)) }

/-- The repeat, so many elements before its end. -/
def sizedRepeat (size : AddressSize) (op : StringOp) (width : Nat) : Nat → Handler
  | 0, ctx => .ok () ctx
  | n + 1, ctx =>
    match sizedIteration size op width ctx with
    | .error r c => .error r c
    | .ok true c => sizedRepeat size op width n c
    | .ok false c => .ok () c

/-- The instruction, its addresses and counter at the address size. -/
def sizedImpl (size : AddressSize) (op : StringOp) (width : Nat) : Handler := fun ctx =>
  if ctx.instr.repeats then sizedRepeat size op width (sizedCount size ctx.state) ctx
  else sizedElement size op width ctx

/-- One turn of the handler's repeat: is there an element, and if so the
element. -/
def stringTurn (op : StringOp) (width : Nat) : HandlerM Bool := fun ctx =>
  if ctx.state.gpr 1 = 0#64 then .ok false ctx else stringIteration op width ctx

/-- One turn of the repeat at the address size. -/
def sizedTurn (size : AddressSize) (op : StringOp) (width : Nat) : HandlerM Bool := fun ctx =>
  if sizedCount size ctx.state = 0 then .ok false ctx else sizedIteration size op width ctx

/-- `handle_code_XLAT_M8`. -/
def handleXlat : Handler := fun ctx =>
  let base := readRegister ctx.state (.r64 3)
  let index := readRegister ctx.state .al
  let address := base + index
  match readMemoryChecked address 1 ctx with
  | .error r c => .error r c
  | .ok value c => .ok () { c with state := writeRegister c.state .al value 1 }

/-- `XLAT` at the address size. -/
def sizedXlat (size : AddressSize) : Handler := fun ctx =>
  let address := indexAddress ctx.state size (segmentBase ctx.state ctx.instr)
    (readRegister ctx.state (.r64 3) + readRegister ctx.state .al)
  match readMemoryChecked address 1 ctx with
  | .error r c => .error r c
  | .ok value c => .ok () { c with state := writeRegister c.state .al value 1 }

/-! ## When they are the handlers -/

/-- An element is addressed and leaves the index registers as it should. -/
structure ElementFits (size : AddressSize) (op : StringOp) (width : Nat) (s : CpuState)
    (instr : Instruction) : Prop where
  source : op.usesRsi = true → IndexFits s size (segmentBase s instr) (s.gpr 6)
  destination : op.usesRdi = true → IndexFits s size 0#64 (s.gpr 7)
  sourceNext : op.usesRsi = true → size.Keeps (s.gpr 6) (nextPointers op width s).rsi
  destinationNext : op.usesRdi = true → size.Keeps (s.gpr 7) (nextPointers op width s).rdi

/-- The counter, not zero, counts the same at the address size. -/
structure CountFits (size : AddressSize) (s : CpuState) : Prop where
  nonzero : sizedCount size s ≠ 0
  last : sizedCount size s = 1 → s.gpr 1 = 1#64
  next : size.Keeps (s.gpr 1) (s.gpr 1 - 1#64)

/-- A turn of the repeat is as it should be. -/
def TurnFits (size : AddressSize) (op : StringOp) (width : Nat) (s : CpuState)
    (instr : Instruction) : Prop :=
  s.gpr 1 = 0#64 ∨ CountFits size s ∧ ElementFits size op width s instr

/-- The same pointers, as far as the instruction uses them. -/
structure SamePointers (op : StringOp) (p q : StringPointers) : Prop where
  rsi : op.usesRsi = true → p.rsi = q.rsi
  rdi : op.usesRdi = true → p.rdi = q.rdi

section fits

variable {size : AddressSize} {op : StringOp} {width : Nat} {p q : StringPointers}
  {ctx c : ExecutionContext}

/-- The element with one pair of pointers is the element with the other. -/
theorem SamePointers.element (h : SamePointers op p q) :
    stringElement op width p = stringElement op width q := by
  unfold stringElement
  cases op with
  | movs => simp only [h.rsi rfl, h.rdi rfl]
  | stos => simp only [h.rdi rfl]
  | lods => simp only [h.rsi rfl]
  | cmps => simp only [h.rsi rfl, h.rdi rfl]
  | scas => simp only [h.rdi rfl]

/-- So is what is saved. -/
theorem SamePointers.save (h : SamePointers op p q) (rep : Bool) (n : Nat) (s : CpuState) :
    savePointers op rep p n s = savePointers op rep q n s := by
  unfold savePointers
  cases op with
  | movs => simp only [h.rsi rfl, h.rdi rfl]
  | stos => simp only [h.rdi rfl, StringOp.usesRsi, Bool.false_eq_true, if_false]
  | lods => simp only [h.rsi rfl, StringOp.usesRdi, Bool.false_eq_true, if_false]
  | cmps => simp only [h.rsi rfl, h.rdi rfl]
  | scas => simp only [h.rdi rfl, StringOp.usesRsi, Bool.false_eq_true, if_false]

/-- An element fits when its pointers do, before and after. -/
theorem elementFits_iff (s : CpuState) (instr : Instruction) :
    ElementFits size op width s instr ↔
      SamePointers op (sizedPointers size s instr) (pointersOf s) ∧
        SamePointers op (sizedNext size op width s) (nextPointers op width s) := by
  have hsource := indexAddress_eq_iff s size (segmentBase s instr) (s.gpr 6)
  have hdestination := indexAddress_eq_iff s size 0#64 (s.gpr 7)
  have hrsi := size.merge_eq_iff (s.gpr 6) (nextPointers op width s).rsi
  have hrdi := size.merge_eq_iff (s.gpr 7) (nextPointers op width s).rdi
  constructor
  · intro h
    exact ⟨⟨fun hu => hsource.mpr (h.source hu), fun hu => hdestination.mpr (h.destination hu)⟩,
      ⟨fun hu => hrsi.mpr (h.sourceNext hu), fun hu => hrdi.mpr (h.destinationNext hu)⟩⟩
  · rintro ⟨hp, hn⟩
    exact ⟨fun hu => hsource.mp (hp.rsi hu), fun hu => hdestination.mp (hp.rdi hu),
      fun hu => hrsi.mp (hn.rsi hu), fun hu => hrdi.mp (hn.rdi hu)⟩

/-- Without a prefix the handler is one element. -/
theorem stringImpl_unprefixed (hrep : ctx.instr.repeats = false) :
    stringImpl op width ctx =
      match stringElement op width (pointersOf ctx.state) ctx with
      | .error r c => .error r c
      | .ok hits c =>
        .ok () { (noteDebugBreak c hits false).1 with
          state := savePointers op false (nextPointers op width ctx.state) 0 c.state } := by
  have hloop : stringImpl op width ctx = stringLoop op width false ctx.instr.hasRepnePrefix
      (flagSet ctx.state.rflags kFlagDF) (0 + 1) (pointersOf ctx.state) ctx := by
    unfold Instruction.repeats at hrep
    unfold stringImpl
    rw [hrep]
    rfl
  rw [hloop]
  unfold stringLoop
  cases hel : stringElement op width (pointersOf ctx.state) ctx with
  | error r c =>
    have hstate : c.state = ctx.state := stringElement_error hel
    simp only [hstate, savePointers_unmoved]
    rw [← hstate]
  | ok hits c =>
    have hstop (repne : Bool) (rflags : U64) : continueLoop op false repne 0 rflags = false := rfl
    simp only [hstop, Bool.not_false, Bool.or_true, if_true]
    rw [(noteDebugBreak_frame c hits false).1]
    rfl

/-- The handler of an unprefixed instruction that fits is right. -/
theorem ElementFits.unprefixed (h : ElementFits size op width ctx.state ctx.instr)
    (hrep : ctx.instr.repeats = false) :
    stringImpl op width ctx = sizedImpl size op width ctx := by
  obtain ⟨hp, hn⟩ := (elementFits_iff ctx.state ctx.instr).mp h
  rw [stringImpl_unprefixed hrep]
  unfold sizedImpl
  rw [if_neg (by rw [hrep]; exact Bool.false_ne_true)]
  unfold sizedElement
  rw [hp.element]
  simp only [hn.save]

/-- The counter cut to the size is at most the counter. -/
theorem sizedCount_le (size : AddressSize) (s : CpuState) :
    sizedCount size s ≤ (s.gpr 1).toNat := by
  unfold sizedCount
  rw [truncate_toNat _ size.bytes_le]
  exact Nat.mod_le _ _

/-- No turns. -/
theorem sizedCount_zero {s : CpuState} (h : s.gpr 1 = 0#64) : sizedCount size s = 0 := by
  have hle := sizedCount_le size s
  rw [h] at hle
  exact Nat.le_zero.mp hle

/-- Both counts have elements left behind this one, or neither. -/
theorem CountFits.continueLoop {s : CpuState} (h : CountFits size s) (repne : Bool)
    (rflags : U64) :
    continueLoop op true repne (sizedCount size s - 1) rflags =
      Seven.continueLoop op true repne ((s.gpr 1).toNat - 1) rflags := by
  have hleft : decide (0 < sizedCount size s - 1) = decide (0 < (s.gpr 1).toNat - 1) := by
    have hle := sizedCount_le size s
    have hpos := h.nonzero
    apply decide_eq_decide.mpr
    by_cases hone : sizedCount size s = 1
    · rw [h.last hone, hone]
      rfl
    · omega
  unfold Seven.continueLoop
  rw [hleft]

/-- **A turn that fits is right.** -/
theorem TurnFits.turn (h : TurnFits size op width ctx.state ctx.instr) :
    stringTurn op width ctx = sizedTurn size op width ctx := by
  unfold stringTurn sizedTurn
  -- The count is zero under the address size as well, or one element is done on both sides.
  rcases h with hzero | ⟨hcount, helement⟩
  · rw [if_pos hzero, if_pos (sizedCount_zero hzero)]
  · have hne : ctx.state.gpr 1 ≠ 0#64 := fun hzero => hcount.nonzero (sizedCount_zero hzero)
    obtain ⟨hp, hn⟩ := (elementFits_iff ctx.state ctx.instr).mp helement
    rw [if_neg hne, if_neg hcount.nonzero]
    unfold sizedIteration
    rw [hp.element]
    cases hel : stringElement op width (pointersOf ctx.state) ctx with
    | error r c =>
      unfold stringIteration
      rw [hel]
    | ok hits c =>
      have hdown : size.merge (ctx.state.gpr 1) (ctx.state.gpr 1 - 1#64) =
          BitVec.ofNat 64 ((ctx.state.gpr 1).toNat - 1) :=
        ((size.merge_eq_iff _ _).mpr hcount.next).trans (sub_one_eq_ofNat hne)
      rw [stringIteration_of_element hel]
      simp only [hcount.continueLoop, hn.save, hdown]
      unfold withPointers
      rw [savePointers_rep op _ 0, (noteDebugBreak_frame c hits _).1]
      rfl

/-- One down at the address size, too. -/
theorem CountFits.down {s t : CpuState} (h : CountFits size s) (ht : t.gpr 1 = s.gpr 1 - 1#64) :
    sizedCount size t = sizedCount size s - 1 := by
  have hpos := h.nonzero
  have hne : s.gpr 1 ≠ 0#64 := fun hzero => hpos (sizedCount_zero hzero)
  have hlt := (s.gpr 1).isLt
  have hdown : (t.gpr 1).toNat = (s.gpr 1).toNat - 1 := by
    rw [ht, sub_one_eq_ofNat hne, BitVec.toNat_ofNat]
    omega
  unfold sizedCount at hpos ⊢
  rw [truncate_toNat _ size.bytes_le] at hpos ⊢
  rw [truncate_toNat _ size.bytes_le, hdown]
  have hmod := Nat.div_add_mod (s.gpr 1).toNat (2 ^ (8 * size.bytes))
  have hbound := Nat.mod_lt (s.gpr 1).toNat (Nat.two_pow_pos (8 * size.bytes))
  rw [show (s.gpr 1).toNat - 1 = ((s.gpr 1).toNat % 2 ^ (8 * size.bytes) - 1) +
    2 ^ (8 * size.bytes) * ((s.gpr 1).toNat / 2 ^ (8 * size.bytes)) by omega,
    Nat.add_mul_mod_self_left]
  exact Nat.mod_eq_of_lt (by omega)

/-- **A repeat whose turns all fit is right.** -/
theorem stringImpl_eq_sizedImpl (hwidth : width ≤ 8) :
    ∀ (n : Nat) (ctx : ExecutionContext), counter ctx = n → ctx.instr.repeats = true →
      (∀ k b, Reached op width k ctx b → TurnFits size op width b.state b.instr) →
      stringImpl op width ctx = sizedRepeat size op width (sizedCount size ctx.state) ctx := by
  -- Induction over the turns left, each of which fits.
  intro n
  induction n with
  | zero =>
    intro ctx hcount hrep _
    have hzero : ctx.state.gpr 1 = 0#64 := BitVec.eq_of_toNat_eq hcount
    rw [stringImpl_zero op width ctx hrep hzero, sizedCount_zero hzero]
    rfl
  | succ n ih =>
    intro ctx hcount hrep hfits
    have hne : ctx.state.gpr 1 ≠ 0#64 := counter_pos_iff.mp (by omega)
    have hfit := hfits 0 ctx (Reached.refl ctx)
    have hturn := hfit.turn
    rcases hfit with hzero | ⟨hcountFits, _⟩
    · exact absurd hzero hne
    · unfold stringTurn sizedTurn at hturn
      rw [if_neg hne, if_neg hcountFits.nonzero] at hturn
      obtain ⟨m, hm⟩ : ∃ m, sizedCount size ctx.state = m + 1 :=
        ⟨sizedCount size ctx.state - 1, by have := hcountFits.nonzero; omega⟩
      rw [stringImpl_iterate op ctx hwidth hrep hne, hm, sizedRepeat, ← hturn]
      cases hit : stringIteration op width ctx with
      | error r c => rfl
      | ok goOn c =>
        cases goOn with
        | false => rfl
        | true =>
          have hcount' := stringIteration_count hit
          have hdown : c.state.gpr 1 = ctx.state.gpr 1 - 1#64 := by
            rw [sub_one_eq_ofNat hne, ← hcount', BitVec.ofNat_toNat, BitVec.setWidth_eq]
          have hleft : sizedCount size c.state = m := by
            rw [hcountFits.down hdown, hm, Nat.add_sub_cancel]
          simp only
          rw [ih c (by unfold counter at hcount ⊢; omega)
            (by rw [(stringIteration_frame hwidth hit).instr]; exact hrep)
            (fun k b hreached => hfits (k + 1) b (Reached.step hit hreached)), hleft]

end fits

/-! ## The turns ahead -/

/-- The pointers behind so many elements. -/
def pointersAfter (op : StringOp) (df : Bool) (width : Nat) :
    Nat → StringPointers → StringPointers
  | 0, p => p
  | k + 1, p => pointersAfter op df width k (advancePointers op df width p)

/-- The registers that address memory, behind so many elements. -/
def stateAfter (op : StringOp) (width k : Nat) (s : CpuState) : CpuState :=
  savePointers op true (pointersAfter op (flagSet s.rflags kFlagDF) width k (pointersOf s))
    ((s.gpr 1).toNat - k) s

/-- Two states with the same implicit addresses. -/
structure SameAddressing (s t : CpuState) : Prop where
  mode : t.mode = s.mode
  fsBase : t.fsBase = s.fsBase
  gsBase : t.gsBase = s.gsBase
  direction : flagSet t.rflags kFlagDF = flagSet s.rflags kFlagDF
  rcx : t.gpr 1 = s.gpr 1
  pointers : pointersOf t = pointersOf s

section turns

variable {size : AddressSize} {op : StringOp} {width k : Nat} {s t : CpuState}
  {ctx b : ExecutionContext}

/-- The relation composes. -/
theorem SameAddressing.trans {u : CpuState} (h : SameAddressing s t) (h' : SameAddressing t u) :
    SameAddressing s u :=
  ⟨h'.mode.trans h.mode, h'.fsBase.trans h.fsBase, h'.gsBase.trans h.gsBase,
    h'.direction.trans h.direction, h'.rcx.trans h.rcx, h'.pointers.trans h.pointers⟩

/-- And turns round. -/
theorem SameAddressing.symm (h : SameAddressing s t) : SameAddressing t s :=
  ⟨h.mode.symm, h.fsBase.symm, h.gsBase.symm, h.direction.symm, h.rcx.symm, h.pointers.symm⟩

/-- A turn fits in both states or in neither. -/
theorem SameAddressing.turnFits (h : SameAddressing s t) {instr : Instruction}
    (hfits : TurnFits size op width s instr) : TurnFits size op width t instr := by
  have hrsi : t.gpr 6 = s.gpr 6 := congrArg StringPointers.rsi h.pointers
  have hrdi : t.gpr 7 = s.gpr 7 := congrArg StringPointers.rdi h.pointers
  have hnext : nextPointers op width t = nextPointers op width s := by
    unfold nextPointers
    rw [h.direction, h.pointers]
  have hbase : segmentBase t instr = segmentBase s instr := by
    unfold segmentBase
    rw [h.fsBase, h.gsBase]
  have hcount : sizedCount size t = sizedCount size s := by
    unfold sizedCount
    rw [h.rcx]
  have hindex {base x : U64} (hs : IndexFits s size base x) : IndexFits t size base x :=
    ⟨by rw [h.mode]; exact hs.mode, by rw [h.mode]; exact hs.above⟩
  -- Everything a turn asks of the state is one of the fields the two share.
  rcases hfits with hzero | ⟨hcountFits, helement⟩
  · exact Or.inl (h.rcx.trans hzero)
  · refine Or.inr ⟨⟨?_, ?_, ?_⟩, ⟨?_, ?_, ?_, ?_⟩⟩
    · rw [hcount]
      exact hcountFits.nonzero
    · rw [hcount, h.rcx]
      exact hcountFits.last
    · rw [h.rcx]
      exact hcountFits.next
    · rw [hbase, hrsi]
      exact fun hu => hindex (helement.source hu)
    · rw [hrdi]
      exact fun hu => hindex (helement.destination hu)
    · rw [hnext, hrsi]
      exact helement.sourceNext
    · rw [hnext, hrdi]
      exact helement.destinationNext

/-- A pointer the instruction does not use does not move. -/
theorem pointersAfter_unused (df : Bool) (p : StringPointers) :
    (op.usesRsi = false → (pointersAfter op df width k p).rsi = p.rsi) ∧
      (op.usesRdi = false → (pointersAfter op df width k p).rdi = p.rdi) := by
  induction k generalizing p with
  | zero => exact ⟨fun _ => rfl, fun _ => rfl⟩
  | succ k ih =>
    obtain ⟨hrsi, hrdi⟩ := ih (advancePointers op df width p)
    refine ⟨fun hu => (hrsi hu).trans ?_, fun hu => (hrdi hu).trans ?_⟩
    · unfold advancePointers
      simp only [hu, Bool.false_eq_true, if_false]
    · unfold advancePointers
      simp only [hu, Bool.false_eq_true, if_false]

/-- The pointers of a later turn. -/
theorem pointersOf_stateAfter (op : StringOp) (width k : Nat) (s : CpuState) :
    pointersOf (stateAfter op width k s) =
      pointersAfter op (flagSet s.rflags kFlagDF) width k (pointersOf s) := by
  obtain ⟨hrsi, hrdi⟩ :=
    @pointersAfter_unused op width k (flagSet s.rflags kFlagDF) (pointersOf s)
  exact pointersOf_savePointers op _ _ s (fun hu => (hrsi hu).symm) (fun hu => (hrdi hu).symm)

/-- A turn moves the pointers on. -/
theorem stringIteration_pointers (hwidth : width ≤ 8)
    (h : stringIteration op width ctx = .ok true b) :
    pointersOf b.state = nextPointers op width ctx.state := by
  obtain ⟨hits, c₀, hel, rfl⟩ := stringIteration_goesOn h
  have hgpr := (stringElement_frame hwidth ctx hits c₀ hel).gpr
  refine pointersOf_savePointers op _ _ c₀.state (fun hu => ?_) (fun hu => ?_)
  · rw [hgpr 6 (by decide)]
    unfold nextPointers advancePointers
    simp only [hu, Bool.false_eq_true, if_false]
    rfl
  · rw [hgpr 7 (by decide)]
    unfold nextPointers advancePointers
    simp only [hu, Bool.false_eq_true, if_false]
    rfl

/-- A state later in the loop addresses like the one computed for it. -/
theorem stateAfter_sameAddressing (hmode : t.mode = s.mode) (hfs : t.fsBase = s.fsBase)
    (hgs : t.gsBase = s.gsBase) (hdirection : flagSet t.rflags kFlagDF = flagSet s.rflags kFlagDF)
    (hrcx : t.gpr 1 = BitVec.ofNat 64 ((s.gpr 1).toNat - k))
    (hpointers : pointersOf t =
      pointersAfter op (flagSet s.rflags kFlagDF) width k (pointersOf s)) :
    SameAddressing (stateAfter op width k s) t where
  mode := by
    rw [hmode]
    cases op <;> rfl
  fsBase := by
    rw [hfs]
    cases op <;> rfl
  gsBase := by
    rw [hgs]
    cases op <;> rfl
  direction := by
    unfold stateAfter
    rw [hdirection, savePointers_rflags]
  rcx := by
    unfold stateAfter
    rw [hrcx, savePointers_count]
  pointers := by rw [hpointers, pointersOf_stateAfter]

/-- **Behind `k` elements the registers are those `k` steps ahead.** -/
theorem Reached.sameAddressing (hwidth : width ≤ 8) (h : Reached op width k ctx b) :
    SameAddressing (stateAfter op width k ctx.state) b.state := by
  induction h with
  | refl ctx =>
    refine stateAfter_sameAddressing rfl rfl rfl rfl ?_ rfl
    rw [Nat.sub_zero, BitVec.ofNat_toNat, BitVec.setWidth_eq]
  | @step k ctx d b hit hrest ih =>
    -- One turn moves the pointers, the count and some flags, which the state after it has as
    -- well.
    refine SameAddressing.trans (stateAfter_sameAddressing ?_ ?_ ?_ ?_ ?_ ?_) ih
    · rw [← (stringIteration_frame hwidth hit).mode]
      cases op <;> rfl
    · have hstate := congrArg CpuState.fsBase (stringIteration_frame hwidth hit).state
      rw [← show d.state.fsBase = ctx.state.fsBase from hstate]
      cases op <;> rfl
    · have hstate := congrArg CpuState.gsBase (stringIteration_frame hwidth hit).state
      rw [← show d.state.gsBase = ctx.state.gsBase from hstate]
      cases op <;> rfl
    · unfold stateAfter flagSet
      rw [savePointers_rflags, (stringIteration_frame hwidth hit).flags kFlagDF (by decide)]
    · unfold stateAfter
      rw [savePointers_count, stringIteration_count hit, Nat.sub_sub, Nat.add_comm 1 k]
    · have hdirection : flagSet d.state.rflags kFlagDF = flagSet ctx.state.rflags kFlagDF := by
        unfold flagSet
        rw [(stringIteration_frame hwidth hit).flags kFlagDF (by decide)]
      rw [pointersOf_stateAfter, stringIteration_pointers hwidth hit, hdirection]
      rfl

/-- A turn fits when it fits at the registers so many elements ahead. -/
theorem Reached.turnFits_iff (hwidth : width ≤ 8) (h : Reached op width k ctx b) :
    TurnFits size op width b.state b.instr ↔
      TurnFits size op width (stateAfter op width k ctx.state) ctx.instr := by
  have hsame := h.sameAddressing hwidth
  rw [(h.frame hwidth).instr]
  exact ⟨hsame.symm.turnFits, hsame.turnFits⟩

end turns

/-! ## A memory that tells the addresses -/

/-- A host that refuses some addresses and has the same value at the others. -/
def refusing (refuses : U64 → Bool) (value : U64) : Memory :=
  Memory.setPassthrough {}
    (fun a _ => if refuses a then none
      else some (Vector.ofFn fun i => (value >>> (8 * i.val)).setWidth 8))
    (fun a _ => !refuses a)

/-- A context whose memory refuses the addresses chosen and answers `value` elsewhere. -/
def hostContext (refuses : U64 → Bool) (value : U64) (s : CpuState) (instr : Instruction) :
    ExecutionContext where
  state := s
  memory := refusing refuses value
  instr := instr
  nextRip := 0#64

section host

variable {op : StringOp} {width : Nat} {p q : StringPointers} {refuses : U64 → Bool}
  {value : U64} {s : CpuState} {instr : Instruction}

/-- A read of that memory. -/
theorem refusing_read (a : U64) (n : Nat) (kind : MemoryAccessKind) :
    (refusing refuses value).read a n kind =
      if refuses a then none else some (toBytes value n) := by
  have hbytes : (Vector.ofFn fun i : Fin n => (value >>> (8 * i.val)).setWidth 8).toList =
      toBytes value n := by
    apply List.ext_getElem
    · simp [toBytes]
    · intro i hi hi'
      simp [toBytes]
  show ((if refuses a then none else some (Vector.ofFn fun i : Fin n =>
    (value >>> (8 * i.val)).setWidth 8)) : Option (Vector Byte n)).map Vector.toList = _
  by_cases h : refuses a = true
  · rw [if_pos h, if_pos h]
    rfl
  · rw [if_neg h, if_neg h, ← hbytes]
    rfl

/-- A checked read of it. -/
theorem readMemoryChecked_host (a : U64) (n : Nat) :
    readMemoryChecked a n (hostContext refuses value s instr) =
      if refuses a then .error (pageFaultAt (hostContext refuses value s instr) a)
        (hostContext refuses value s instr)
      else .ok (fromBytes (toBytes value n)) (hostContext refuses value s instr) := by
  have hread : (hostContext refuses value s instr).memory.read a n .dataRead = _ :=
    refusing_read a n .dataRead
  by_cases h : refuses a = true
  · rw [if_pos h] at hread ⊢
    exact readMemoryChecked_none hread
  · rw [if_neg h] at hread ⊢
    exact readMemoryChecked_some hread

/-- A checked write of it. -/
theorem writeMemoryChecked_host (a v : U64) (n : Nat) :
    writeMemoryChecked a v n (hostContext refuses value s instr) =
      if refuses a then .error (pageFaultAt (hostContext refuses value s instr) a)
        (hostContext refuses value s instr)
      else .ok () (hostContext refuses value s instr) := by
  have haccepts : (hostContext refuses value s instr).memory.accepts a v n = !refuses a := rfl
  by_cases h : refuses a = true
  · rw [h] at haccepts
    rw [if_pos h, writeMemoryChecked_error haccepts]
    rfl
  · rw [Bool.eq_false_iff.mpr h] at haccepts
    rw [if_neg h, writeMemoryChecked_ok haccepts]
    rfl

/-- An element faults at the first of its addresses that is refused. -/
theorem elementEffect_host_refused {a : U64} (h : (op.addresses p).find? refuses = some a) :
    elementEffect op width p (hostContext refuses value s instr) =
      .error (pageFaultAt (hostContext refuses value s instr) a)
        (hostContext refuses value s instr) := by
  have hone {x : U64} (hx : [x].find? refuses = some a) : refuses x = true ∧ x = a := by
    have hfound := List.find?_some hx
    have hmem := List.mem_singleton.mp (List.mem_of_find?_eq_some hx)
    rw [← hmem]
    exact ⟨hfound, rfl⟩
  have hread {x : U64} (hx : refuses x = true) :=
    (@readMemoryChecked_host refuses value s instr x width).trans (if_pos hx)
  have hwrite {x : U64} (hx : refuses x = true) (v : U64) :=
    (@writeMemoryChecked_host refuses value s instr x v width).trans (if_pos hx)
  have htwo {x y : U64} (hx : [x, y].find? refuses = some a) :
      (refuses x = true ∧ x = a) ∨ (¬refuses x = true ∧ refuses y = true ∧ y = a) := by
    -- Of two addresses the first one refused is reported, the second only where the first is not.
    by_cases hrefused : refuses x = true
    · rw [List.find?_cons_of_pos hrefused] at hx
      exact Or.inl ⟨hrefused, Option.some.inj hx⟩
    · rw [List.find?_cons_of_neg hrefused] at hx
      exact Or.inr ⟨hrefused, hone hx⟩
  cases op with
  | movs =>
    rcases htwo h with ⟨hx, rfl⟩ | ⟨hx, hy, rfl⟩
    · exact bind_error (hread hx)
    · exact (bind_ok ((readMemoryChecked_host _ _).trans (if_neg hx))).trans (hwrite hy _)
  | stos =>
    obtain ⟨hx, rfl⟩ := hone h
    exact hwrite hx _
  | lods =>
    obtain ⟨hx, rfl⟩ := hone h
    exact bind_error (hread hx)
  | cmps =>
    rcases htwo h with ⟨hx, rfl⟩ | ⟨hx, hy, rfl⟩
    · exact bind_error (hread hx)
    · exact (bind_ok ((readMemoryChecked_host _ _).trans (if_neg hx))).trans (bind_error (hread hy))
  | scas =>
    obtain ⟨hx, rfl⟩ := hone h
    exact bind_error (hread hx)

/-- An element with no address refused changes at most state, and a compare
with `RAX` everywhere finds equality. -/
theorem elementEffect_host_accepted (hwidth : width ≤ 8)
    (h : (op.addresses p).find? refuses = none) :
    ∃ t, elementEffect op width p (hostContext refuses (s.gpr 0) s instr) =
        .ok () (hostContext refuses (s.gpr 0) t instr) ∧
      (op.compares = true → flagSet t.rflags kFlagZF = true) := by
  have hnone (x : U64) (hx : x ∈ op.addresses p) : ¬refuses x = true := List.find?_eq_none.mp h x hx
  have hread (x : U64) (hx : x ∈ op.addresses p) :=
    (@readMemoryChecked_host refuses (s.gpr 0) s instr x width).trans (if_neg (hnone x hx))
  have hwrite (x : U64) (hx : x ∈ op.addresses p) (v : U64) :=
    (@writeMemoryChecked_host refuses (s.gpr 0) s instr x v width).trans (if_neg (hnone x hx))
  -- Equal elements set ZF, which is what lets REPE go on.
  have hequal (v : U64) : flagSet (setSubFlags s.rflags (v &&& maskForWidth width)
      (v &&& maskForWidth width)
      (truncate ((v &&& maskForWidth width) - (v &&& maskForWidth width)) width) width false)
      kFlagZF = true := by
    rw [setSubFlags_zero hwidth, BitVec.sub_self]
    unfold truncate unsignedAt
    rw [BitVec.zero_and]
    exact decide_eq_true (Nat.zero_mod _)
  have hvalue : fromBytes (toBytes (s.gpr 0) width) &&& maskForWidth width =
      s.gpr 0 &&& maskForWidth width := by
    rw [fromBytes_toBytes_of_le _ hwidth]
    exact truncate_truncate _ _
  cases op with
  | movs =>
    refine ⟨s, ?_, fun hc => by cases hc⟩
    exact (bind_ok (hread _ (StringOp.rsi_mem_addresses p rfl))).trans
      (hwrite _ (StringOp.rdi_mem_addresses p rfl) _)
  | stos =>
    refine ⟨s, ?_, fun hc => by cases hc⟩
    exact hwrite _ (StringOp.rdi_mem_addresses p rfl) _
  | lods =>
    refine ⟨_, bind_ok (hread _ (StringOp.rsi_mem_addresses p rfl)), fun hc => ?_⟩
    cases hc
  | cmps =>
    refine ⟨_, (bind_ok (hread _ (StringOp.rsi_mem_addresses p rfl))).trans
      (bind_ok (hread _ (StringOp.rdi_mem_addresses p rfl))), fun _ => ?_⟩
    exact hequal _
  | scas =>
    refine ⟨_, bind_ok (hread _ (StringOp.rdi_mem_addresses p rfl)), fun _ => ?_⟩
    show flagSet (setSubFlags s.rflags (s.gpr 0 &&& maskForWidth width)
      (fromBytes (toBytes (s.gpr 0) width) &&& maskForWidth width) _ width false) kFlagZF = true
    rw [hvalue]
    exact hequal (s.gpr 0)

/-- Two addresses found alike by every choice are the same. -/
theorem eq_of_find?_eq {a b a' b' : U64}
    (h : ∀ refuses : U64 → Bool, [a, b].find? refuses = [a', b'].find? refuses) :
    a = a' ∧ b = b' := by
  have hfirst : a = a' := Option.some.inj (h fun _ => true)
  refine ⟨hfirst, ?_⟩
  subst hfirst
  have hmem {x y z : U64} (hx : [a, y].find? (· == x) = [a, z].find? (· == x)) (hxz : x ∈ [a, z]) :
      x = a ∨ x = y := by
    cases hfound : [a, y].find? (· == x) with
    | none =>
      rw [hfound] at hx
      exact absurd (BEq.refl x) (List.find?_eq_none.mp hx.symm x hxz)
    | some w =>
      have hw : w = x := by simpa using List.find?_some hfound
      have hmem := List.mem_of_find?_eq_some hfound
      rw [hw] at hmem
      simpa using hmem
  -- Were the second addresses different, one host would refuse them in a different order.
  by_contra hne
  rcases hmem (h (· == b')) (List.mem_cons_of_mem _ List.mem_cons_self) with hb' | hb'
  · rcases hmem (h (· == b)).symm (List.mem_cons_of_mem _ List.mem_cons_self) with hb | hb
    · exact hne (hb.trans hb'.symm)
    · exact hne hb
  · exact hne hb'.symm

/-- Pointers that fault alike at every choice are the same. -/
theorem samePointers_of_find?_eq
    (h : ∀ refuses, (op.addresses p).find? refuses = (op.addresses q).find? refuses) :
    SamePointers op p q := by
  have hone {x y : U64} (hxy : ∀ refuses : U64 → Bool, [x].find? refuses = [y].find? refuses) :
      x = y := Option.some.inj (hxy fun _ => true)
  cases op with
  | movs =>
    obtain ⟨hrsi, hrdi⟩ := eq_of_find?_eq h
    exact ⟨fun _ => hrsi, fun _ => hrdi⟩
  | stos => exact ⟨fun hu => absurd hu Bool.false_ne_true, fun _ => hone h⟩
  | lods => exact ⟨fun _ => hone h, fun hu => absurd hu Bool.false_ne_true⟩
  | cmps =>
    obtain ⟨hrsi, hrdi⟩ := eq_of_find?_eq h
    exact ⟨fun _ => hrsi, fun _ => hrdi⟩
  | scas => exact ⟨fun hu => absurd hu Bool.false_ne_true, fun _ => hone h⟩

/-- An element that meets a refused address. -/
theorem stringElement_host_refused {a : U64} (h : (op.addresses p).find? refuses = some a) :
    stringElement op width p (hostContext refuses value s instr) =
      .error (pageFaultAt (hostContext refuses value s instr) a)
        (hostContext refuses value s instr) := by
  rw [stringElement_eq]
  exact bind_error (elementEffect_host_refused h)

/-- An element that meets none. -/
theorem stringElement_host_accepted (hwidth : width ≤ 8)
    (h : (op.addresses p).find? refuses = none) :
    ∃ hits t, stringElement op width p (hostContext refuses (s.gpr 0) s instr) =
        .ok hits (hostContext refuses (s.gpr 0) t instr) ∧
      (op.compares = true → flagSet t.rflags kFlagZF = true) := by
  obtain ⟨t, heffect, hzf⟩ := @elementEffect_host_accepted op width p refuses s instr hwidth h
  exact ⟨_, t, stringElement_of_effect heffect, hzf⟩

/-- The second ends with the fault of the first, or neither faults. -/
def SameFault {α β : Type} (x : EStateM.Result ExecutionResult ExecutionContext α)
    (y : EStateM.Result ExecutionResult ExecutionContext β) : Prop :=
  match x with
  | .error r c => y = .error r c
  | .ok _ _ => ∃ b c, y = .ok b c

/-- **Who faults in every such memory alike uses the same addresses.** -/
theorem samePointers_of_sameFault {α : Type} (hwidth : width ≤ 8)
    {f g : HandlerM α}
    (hf : ∀ refuses, SameFault (stringElement op width p (hostContext refuses (s.gpr 0) s instr))
      (f (hostContext refuses (s.gpr 0) s instr)))
    (hg : ∀ refuses, SameFault (stringElement op width q (hostContext refuses (s.gpr 0) s instr))
      (g (hostContext refuses (s.gpr 0) s instr)))
    (hfg : ∀ refuses, f (hostContext refuses (s.gpr 0) s instr) =
      g (hostContext refuses (s.gpr 0) s instr)) :
    SamePointers op p q := by
  apply samePointers_of_find?_eq
  intro refuses
  have hpq := hfg refuses
  have hfp := hf refuses
  have hgq := hg refuses
  -- A host tells the pointers apart by refusing one address and not the other.
  cases hp : (op.addresses p).find? refuses with
  | none =>
    obtain ⟨hits, t, hel, _⟩ := @stringElement_host_accepted op width p refuses s instr hwidth hp
    rw [hel] at hfp
    obtain ⟨b, c, hok⟩ := hfp
    cases hq : (op.addresses q).find? refuses with
    | none => rfl
    | some a =>
      rw [stringElement_host_refused hq] at hgq
      cases (hok.symm.trans hpq).trans hgq
  | some a =>
    rw [stringElement_host_refused hp] at hfp
    cases hq : (op.addresses q).find? refuses with
    | none =>
      obtain ⟨hits, t, hel, _⟩ := @stringElement_host_accepted op width q refuses s instr hwidth hq
      rw [hel] at hgq
      obtain ⟨b, c, hok⟩ := hgq
      cases (hfp.symm.trans hpq).trans hok
    | some a' =>
      rw [stringElement_host_refused hq] at hgq
      have hfault := (EStateM.Result.error.inj ((hfp.symm.trans hpq).trans hgq)).1
      have haddress : a = a' := by simpa [pageFaultAt] using hfault
      rw [haddress]

end host

/-! ## The conditions are needed -/

section needed

variable {size : AddressSize} {op : StringOp} {width : Nat} {s : CpuState} {instr : Instruction}
  {ctx : ExecutionContext}

/-- `RSI` behind an instruction that moves it. -/
theorem savePointers_rsi (hu : op.usesRsi = true) (rep : Bool) (p : StringPointers) (n : Nat)
    (s : CpuState) : (savePointers op rep p n s).gpr 6 = p.rsi := by
  cases op with
  | movs | lods | cmps => cases rep <;> rfl
  | stos | scas => cases hu

/-- `RDI` behind an instruction that moves it. -/
theorem savePointers_rdi (hu : op.usesRdi = true) (rep : Bool) (p : StringPointers) (n : Nat)
    (s : CpuState) : (savePointers op rep p n s).gpr 7 = p.rdi := by
  cases op with
  | movs | stos | cmps | scas => cases rep <;> rfl
  | lods => cases hu

/-- A single instruction faults where its element does. -/
theorem stringImpl_sameFault (hrep : ctx.instr.repeats = false) :
    SameFault (stringElement op width (pointersOf ctx.state) ctx) (stringImpl op width ctx) := by
  rw [stringImpl_unprefixed hrep]
  cases stringElement op width (pointersOf ctx.state) ctx with
  | error r c => rfl
  | ok hits c => exact ⟨_, _, rfl⟩

/-- So does the element at a size. -/
theorem sizedElement_sameFault :
    SameFault (stringElement op width (sizedPointers size ctx.state ctx.instr) ctx)
      (sizedElement size op width ctx) := by
  unfold sizedElement
  cases stringElement op width (sizedPointers size ctx.state ctx.instr) ctx with
  | error r c => rfl
  | ok hits c => exact ⟨_, _, rfl⟩

/-- So does one turn of a repeat. -/
theorem stringIteration_sameFault :
    SameFault (stringElement op width (pointersOf ctx.state) ctx)
      (stringIteration op width ctx) := by
  unfold stringIteration
  cases stringElement op width (pointersOf ctx.state) ctx with
  | error r c => rfl
  | ok hits c => exact ⟨_, _, rfl⟩

/-- And one turn at a size. -/
theorem sizedIteration_sameFault :
    SameFault (stringElement op width (sizedPointers size ctx.state ctx.instr) ctx)
      (sizedIteration size op width ctx) := by
  unfold sizedIteration
  cases stringElement op width (sizedPointers size ctx.state ctx.instr) ctx with
  | error r c => rfl
  | ok hits c => exact ⟨_, _, rfl⟩

/-- The relation turns round. -/
theorem SamePointers.symm {p q : StringPointers} (h : SamePointers op p q) :
    SamePointers op q p :=
  ⟨fun hu => (h.rsi hu).symm, fun hu => (h.rdi hu).symm⟩

/-- Pointers are the same when what is saved of them is. -/
theorem SamePointers.of_save {rep rep' : Bool} {p q : StringPointers} {n m : Nat}
    {t u : CpuState} (hrsi : (savePointers op rep p n t).gpr 6 = (savePointers op rep' q m u).gpr 6)
    (hrdi : (savePointers op rep p n t).gpr 7 = (savePointers op rep' q m u).gpr 7) :
    SamePointers op p q := by
  refine ⟨fun hu => ?_, fun hu => ?_⟩
  · rw [savePointers_rsi hu, savePointers_rsi hu] at hrsi
    exact hrsi
  · rw [savePointers_rdi hu, savePointers_rdi hu] at hrdi
    exact hrdi

/-- **An unprefixed instruction is right in every memory only if it fits.** -/
theorem ElementFits.of_unprefixed (hwidth : width ≤ 8) (hrep : instr.repeats = false)
    (h : ∀ ctx, ctx.state = s → ctx.instr = instr →
      stringImpl op width ctx = sizedElement size op width ctx) :
    ElementFits size op width s instr := by
  have hsame : SamePointers op (sizedPointers size s instr) (pointersOf s) :=
    (samePointers_of_sameFault (f := stringImpl op width) (g := sizedElement size op width) hwidth
      (fun refuses => @stringImpl_sameFault op width (hostContext refuses (s.gpr 0) s instr) hrep)
      (fun refuses => @sizedElement_sameFault size op width
        (hostContext refuses (s.gpr 0) s instr))
      (fun refuses => h _ rfl rfl)).symm
  refine (elementFits_iff s instr).mpr ⟨hsame, ?_⟩
  -- where nothing is refused the registers show
  obtain ⟨hits, t, hel, _⟩ := @stringElement_host_accepted op width (pointersOf s) (fun _ => false)
    s instr hwidth (List.find?_eq_none.mpr fun _ _ => Bool.false_ne_true)
  have heq := h (hostContext (fun _ => false) (s.gpr 0) s instr) rfl rfl
  rw [stringImpl_unprefixed hrep] at heq
  unfold sizedElement at heq
  simp only [hostContext] at hel heq
  rw [hsame.element, hel] at heq
  rw [EStateM.Result.ok.injEq] at heq
  have hstate := congrArg ExecutionContext.state heq.2
  exact (SamePointers.of_save (congrArg (fun s => s.gpr 6) hstate)
    (congrArg (fun s => s.gpr 7) hstate)).symm

/-- The instruction with `REP` for a prefix. -/
def Instruction.underRep (i : Instruction) : Instruction :=
  { i with hasRepPrefix := true, hasRepnePrefix := false }

/-- Under `REP`, with ZF set, the count decides. -/
theorem continueLoop_rep {n : Nat} {rflags : U64}
    (hzf : op.compares = true → flagSet rflags kFlagZF = true) :
    continueLoop op true false n rflags = decide (0 < n) := by
  have hgo : (!op.compares || flagSet rflags kFlagZF) = true := by
    cases hc : op.compares with
    | false => rfl
    | true => rw [hzf hc]; rfl
  unfold continueLoop
  simp only [Bool.true_and, Bool.false_eq_true, if_false, hgo, Bool.and_true]

/-- A context written back determines its pointers. -/
theorem withPointers_inj {c d : ExecutionContext} {p q : StringPointers} {n : Nat} {t : CpuState}
    {count : U64} (h : withPointers op p n c =
      { d with state := (savePointers op false q 0 t).setGpr 1 count }) :
    SamePointers op p q ∧ BitVec.ofNat 64 n = count := by
  have hstate : savePointers op true p n c.state = (savePointers op false q 0 t).setGpr 1 count :=
    congrArg ExecutionContext.state h
  have hgpr (i : Fin 16) := congrFun (congrArg CpuState.gpr hstate) i
  refine ⟨SamePointers.of_save (hgpr 6) (hgpr 7), ?_⟩
  rw [← savePointers_count op p n c.state]
  exact hgpr 1

/-- Where everything is refused an element faults, which a count of 0 never
does. -/
theorem sizedCount_ne_zero_of_turn
    (h : stringIteration op width (hostContext (fun _ => true) (s.gpr 0) s instr) =
      sizedTurn size op width (hostContext (fun _ => true) (s.gpr 0) s instr)) :
    sizedCount size s ≠ 0 := by
  intro hnone
  obtain ⟨a, ha⟩ : ∃ a, (op.addresses (pointersOf s)).find? (fun _ => true) = some a := by
    cases op <;> exact ⟨_, rfl⟩
  have hfault := @stringIteration_sameFault op width
    (hostContext (fun _ => true) (s.gpr 0) s instr)
  have hel : stringElement op width (pointersOf (hostContext (fun _ => true) (s.gpr 0) s
      instr).state) (hostContext (fun _ => true) (s.gpr 0) s instr) = _ :=
    stringElement_host_refused ha
  rw [hel] at hfault
  have hskip : sizedTurn size op width (hostContext (fun _ => true) (s.gpr 0) s instr) =
    .ok false _ := if_pos hnone
  cases (hfault.symm.trans h).trans hskip

/-- Two iterations that refuse the same use the same addresses. -/
theorem samePointers_of_iteration (hwidth : width ≤ 8)
    (h : ∀ refuses, stringIteration op width (hostContext refuses (s.gpr 0) s instr) =
      sizedIteration size op width (hostContext refuses (s.gpr 0) s instr)) :
    SamePointers op (sizedPointers size s instr) (pointersOf s) :=
  (samePointers_of_sameFault (f := stringIteration op width)
    (g := sizedIteration size op width) hwidth
    (fun refuses => @stringIteration_sameFault op width
      (hostContext refuses (s.gpr 0) s instr))
    (fun refuses => @sizedIteration_sameFault size op width
      (hostContext refuses (s.gpr 0) s instr))
    h).symm

/-- A breakpoint that is hit shows whether the repeat goes on in what is told
the executor, any other way to go on shows it directly. -/
theorem goOn_eq_of_break {hit goOn goOn' : Bool} (htaken : (hit && goOn) = (hit && goOn'))
    (hgo : (!hit && goOn) = (!hit && goOn')) : goOn = goOn' := by
  cases hit with
  | true => exact htaken
  | false => exact hgo

/-- Where nothing is refused the iterations show their registers, and whether
they are the last. -/
theorem sizedIteration_inj (hwidth : width ≤ 8)
    (hsame : SamePointers op (sizedPointers size s instr.underRep) (pointersOf s))
    (h : stringIteration op width (hostContext (fun _ => false) (s.gpr 0) s instr.underRep) =
      sizedIteration size op width (hostContext (fun _ => false) (s.gpr 0) s instr.underRep)) :
    (0 < (s.gpr 1).toNat - 1 ↔ 0 < sizedCount size s - 1) ∧
      SamePointers op (nextPointers op width s) (sizedNext size op width s) ∧
        BitVec.ofNat 64 ((s.gpr 1).toNat - 1) = size.merge (s.gpr 1) (s.gpr 1 - 1#64) := by
  obtain ⟨hits, t, hel, hzf⟩ := @stringElement_host_accepted op width (pointersOf s)
    (fun _ => false) s instr.underRep hwidth (List.find?_eq_none.mpr fun _ _ => Bool.false_ne_true)
  have hel' : stringElement op width (pointersOf (hostContext (fun _ => false) (s.gpr 0) s
    instr.underRep).state) (hostContext (fun _ => false) (s.gpr 0) s instr.underRep) = _ := hel
  have helSized : stringElement op width (sizedPointers size (hostContext (fun _ => false)
      (s.gpr 0) s instr.underRep).state (hostContext (fun _ => false) (s.gpr 0) s
      instr.underRep).instr) (hostContext (fun _ => false) (s.gpr 0) s instr.underRep) = _ :=
    (congrFun hsame.element _).trans hel
  rw [stringIteration_of_element hel'] at h
  unfold sizedIteration at h
  rw [helSized, EStateM.Result.ok.injEq] at h
  obtain ⟨hgo, hcontext⟩ := h
  refine ⟨?_, withPointers_inj hcontext⟩
  -- The break note is the loop's own decision to go on, which both sides read from their counts.
  have htaken := (noteDebugBreak_taken _ hits _).symm.trans
    ((congrArg ExecutionContext.controlFlowTaken hcontext).trans (noteDebugBreak_taken _ hits _))
  have hcode : continues op (hostContext (fun _ => false) (s.gpr 0) s instr.underRep)
      (hostContext (fun _ => false) (s.gpr 0) t instr.underRep) =
        decide (0 < (s.gpr 1).toNat - 1) := continueLoop_rep hzf
  have hsized : continueLoop op true (hostContext (fun _ => false) (s.gpr 0) s
      instr.underRep).instr.hasRepnePrefix (sizedCount size s - 1) t.rflags =
        decide (0 < sizedCount size s - 1) := continueLoop_rep hzf
  rw [← decide_eq_decide, ← hcode, ← hsized]
  simp only [hostContext, Bool.false_or] at hgo htaken ⊢
  exact goOn_eq_of_break htaken hgo

/-- A turn from these registers is as the architecture has it, in every
memory. -/
def TurnRight (size : AddressSize) (op : StringOp) (width : Nat) (s : CpuState)
    (instr : Instruction) : Prop :=
  ∀ ctx : ExecutionContext, ctx.state = s → ctx.instr.repeats = true →
    ctx.instr.segmentPrefix = instr.segmentPrefix →
    stringTurn op width ctx = sizedTurn size op width ctx

/-- **A turn is right in every memory only if it fits.** -/
theorem TurnFits.of_turn (hwidth : width ≤ 8) (h : TurnRight size op width s instr) :
    TurnFits size op width s instr := by
  by_cases hzero : s.gpr 1 = 0#64
  · exact Or.inl hzero
  -- the instruction under REP, in a host memory
  have hturn (refuses : U64 → Bool) : stringIteration op width
      (hostContext refuses (s.gpr 0) s instr.underRep) =
        sizedTurn size op width (hostContext refuses (s.gpr 0) s instr.underRep) := by
    rw [← h (hostContext refuses (s.gpr 0) s instr.underRep) rfl rfl rfl]
    exact (if_neg hzero).symm
  have hnonzero := sizedCount_ne_zero_of_turn (hturn fun _ => true)
  have hiteration (refuses : U64 → Bool) := (hturn refuses).trans (if_neg hnonzero)
  have hsame := samePointers_of_iteration hwidth hiteration
  obtain ⟨hlast, hnext, hdown⟩ := sizedIteration_inj hwidth hsame (hiteration fun _ => false)
  refine Or.inr ⟨⟨hnonzero, fun hone => ?_, ?_⟩, (elementFits_iff s instr).mpr ⟨hsame, hnext.symm⟩⟩
  · rw [hone] at hlast
    have hpos : (s.gpr 1).toNat ≠ 0 := fun h0 => hzero (BitVec.eq_of_toNat_eq h0)
    exact BitVec.eq_of_toNat_eq (show (s.gpr 1).toNat = 1 by omega)
  · rw [← size.merge_eq_iff]
    exact hdown.symm.trans (sub_one_eq_ofNat hzero).symm

/-- **A turn is right in every memory exactly when it fits.** -/
theorem turnRight_iff (hwidth : width ≤ 8) :
    TurnRight size op width s instr ↔ TurnFits size op width s instr := by
  constructor
  · exact TurnFits.of_turn hwidth
  · rintro hfits ctx rfl hrep hsegment
    refine TurnFits.turn ?_
    have hbase : segmentBase ctx.state ctx.instr = segmentBase ctx.state instr := by
      unfold segmentBase
      rw [hsegment]
    rcases hfits with hzero | ⟨hcount, helement⟩
    · exact Or.inl hzero
    · refine Or.inr ⟨hcount, ?_, helement.destination, helement.sourceNext,
        helement.destinationNext⟩
      rw [hbase]
      exact helement.source

/-- `XLAT` is right in every memory exactly when its address fits. -/
theorem handleXlat_iff (size : AddressSize) (s : CpuState) (instr : Instruction) :
    (∀ ctx, ctx.state = s → ctx.instr = instr → handleXlat ctx = sizedXlat size ctx) ↔
      IndexFits s size (segmentBase s instr)
        (readRegister s (.r64 3) + readRegister s .al) := by
  rw [← indexAddress_eq_iff]
  constructor
  · intro h
    -- a memory that refuses the handler's address only
    have heq := h (hostContext (· == readRegister s (.r64 3) + readRegister s .al) 0#64 s instr)
      rfl rfl
    unfold handleXlat sizedXlat at heq
    simp only [readMemoryChecked_host] at heq
    simp only [hostContext, BEq.rfl, if_true] at heq
    by_contra hne
    simp only [beq_eq_false_iff_ne.mpr hne, Bool.false_eq_true, if_false] at heq
    cases heq
  · rintro h ctx rfl rfl
    unfold handleXlat sizedXlat
    rw [h]

/-- In 64-bit mode, at its own address size, an override is all there is to
get wrong. -/
theorem elementFits_addr64 (hmode : s.mode = .long64) :
    ElementFits .addr64 op width s instr ↔ (op.usesRsi = true → segmentBase s instr = 0#64) := by
  have hall (x : U64) : truncate x 8 = x := BitVec.and_allOnes
  have hindex (base x : U64) : IndexFits s .addr64 base x ↔ base = 0#64 := by
    constructor
    · rintro ⟨_, habove⟩
      rw [hmode] at habove
      simp only [instructionPointerWidth, AddressSize.bytes, hall, BitVec.sub_self] at habove
      exact habove
    · rintro rfl
      refine ⟨?_, ?_⟩
      · rw [hmode]
        exact x.isLt
      · rw [hmode]
        simp only [instructionPointerWidth, AddressSize.bytes, hall, BitVec.sub_self]
  constructor
  · exact fun h hu => (hindex _ _).mp (h.source hu)
  · exact fun h => ⟨fun hu => (hindex _ _).mpr (h hu), fun _ => (hindex _ _).mpr rfl,
      fun _ => trivial, fun _ => trivial⟩

end needed

/-! ## The result -/

/-- **Main result**: an instruction without prefix, a turn of a repeat, the
turns that a repeat takes and `XLAT` take their addresses, and leave their
registers, as the address size and the segment override have it exactly where
these conditions hold of the registers; and a repeat all of whose turns meet
them does so as a whole. -/
theorem implicit_addressing (size : AddressSize) (s : CpuState) (instr : Instruction) :
    (∀ (op : StringOp) (w : RmWidth), instr.repeats = false →
      ((∀ ctx, ctx.state = s → ctx.instr = instr →
          stringImpl op w.bytes ctx = sizedImpl size op w.bytes ctx) ↔
        ElementFits size op w.bytes s instr)) ∧
      (∀ (op : StringOp) (w : RmWidth),
        TurnRight size op w.bytes s instr ↔ TurnFits size op w.bytes s instr) ∧
      (∀ (op : StringOp) (w : RmWidth) (ctx : ExecutionContext), instr.repeats = true →
        ctx.state = s → ctx.instr = instr →
        ((∀ k b, Reached op w.bytes k ctx b → TurnRight size op w.bytes b.state b.instr) ↔
            ∀ k b, Reached op w.bytes k ctx b →
              TurnFits size op w.bytes (stateAfter op w.bytes k s) instr) ∧
          ((∀ k b, Reached op w.bytes k ctx b →
              TurnFits size op w.bytes (stateAfter op w.bytes k s) instr) →
            stringImpl op w.bytes ctx = sizedImpl size op w.bytes ctx)) ∧
      ((∀ ctx, ctx.state = s → ctx.instr = instr → handleXlat ctx = sizedXlat size ctx) ↔
        IndexFits s size (segmentBase s instr) (readRegister s (.r64 3) + readRegister s .al)) := by
  refine ⟨fun op w hrep => ⟨fun h => ?_, ?_⟩, fun op w => turnRight_iff w.bytes_bounds.2, ?_,
    handleXlat_iff size s instr⟩
  · refine ElementFits.of_unprefixed w.bytes_bounds.2 hrep fun ctx hs hi => ?_
    rw [h ctx hs hi]
    exact if_neg (by rw [hi, hrep]; exact Bool.false_ne_true)
  · rintro hfits ctx rfl rfl
    exact hfits.unprefixed hrep
  · rintro op w ctx hrep rfl rfl
    have hwidth := w.bytes_bounds.2
    constructor
    · refine forall_congr' fun k => forall_congr' fun b => forall_congr' fun hreached => ?_
      rw [turnRight_iff hwidth, hreached.turnFits_iff hwidth]
    · intro hfits
      rw [stringImpl_eq_sizedImpl hwidth (counter ctx) ctx rfl hrep fun k b hreached =>
        (hreached.turnFits_iff hwidth).mpr (hfits k b hreached)]
      exact (if_pos hrep).symm

/-- `LODSB` at `10`, in front of a mapped page at `1000`. -/
def plainLods : ExecutionContext where
  state := ({} : CpuState).setGpr 6 0x10#64
  memory := Memory.map {} 0x1000#64 0x1000#64 kMemoryPermissionAll
  instr := { code := .string .lods .rm8, length := 1 }
  nextRip := 0#64

/-- `REPNE SCASB` with `ECX = -1` for a zero byte, at one, in 32-bit code. -/
def plainScas : ExecutionContext where
  state := { (({} : CpuState).setGpr 1 0xFFFFFFFF#64).setGpr 7 0x1000#64 with mode := .compat32 }
  memory := Memory.map {} 0x1000#64 0x1000#64 kMemoryPermissionAll
  instr := { code := .string .scas .rm8, length := 2, hasRepnePrefix := true }
  nextRip := 0#64

set_option maxRecDepth 20000 in
/-- The search has one turn. -/
theorem plainScas_reached {k : Nat} {b : ExecutionContext} (h : Reached .scas 1 k plainScas b) :
    k = 0 := by
  have hends : (match stringIteration .scas 1 plainScas with
      | .ok goOn _ => goOn
      | .error _ _ => false) = false := rfl
  cases h with
  | refl ctx => rfl
  | step hgoes _ =>
    rw [hgoes] at hends
    cases hends

/-- Without an override the handler is right, and so is a search that stops
before its pointer leaves the address size. -/
theorem implicit_addressing_plain :
    stringImpl .lods 1 plainLods = sizedImpl .addr64 .lods 1 plainLods ∧
      stringImpl .scas 1 plainScas = sizedImpl .addr32 .scas 1 plainScas := by
  constructor
  · exact ((implicit_addressing .addr64 plainLods.state plainLods.instr).1 .lods .rm8 rfl).mpr
      ((elementFits_addr64 rfl).mpr fun _ => rfl) plainLods rfl rfl
  · refine ((implicit_addressing .addr32 plainScas.state plainScas.instr).2.2.1 .scas .rm8 plainScas
      rfl rfl rfl).2 fun k b hreached => ?_
    rw [plainScas_reached hreached]
    exact Or.inr ⟨⟨by decide, by decide, by decide⟩,
      ⟨fun hu => absurd hu (by decide), fun _ => ⟨by decide, by decide⟩, by decide, by decide⟩⟩

/-- The same with the FS base at `1000` overridden for it. -/
def overriddenLods : ExecutionContext :=
  { plainLods with
    state := { plainLods.state with fsBase := 0x1000#64 }
    instr := { plainLods.instr with segmentPrefix := .fs } }

/-- `STOSB` with a 32-bit address size, `EDI` at `1000` and `RDI` far above. -/
def narrowStos : ExecutionContext :=
  { plainLods with
    state := ({} : CpuState).setGpr 7 0x100001000#64
    instr := { code := .string .stos .rm8, length := 2 } }

set_option maxRecDepth 20000 in
/-- The override is left out, and so is the address size: both accesses fault
where the mapped page should have been accessed. -/
theorem implicit_addressing_fails :
    ((∃ c, stringImpl .lods 1 overriddenLods = .error (pageFaultAt overriddenLods 0x10#64) c) ∧
        ∃ c, sizedImpl .addr64 .lods 1 overriddenLods = .ok () c) ∧
      (∃ c, stringImpl .stos 1 narrowStos = .error (pageFaultAt narrowStos 0x100001000#64) c) ∧
        ∃ c, sizedImpl .addr32 .stos 1 narrowStos = .ok () c :=
  ⟨⟨⟨_, rfl⟩, _, rfl⟩, ⟨_, rfl⟩, _, rfl⟩

end Seven
