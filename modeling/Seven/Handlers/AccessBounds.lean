import Seven.Handlers.ImplicitAddress
import Seven.Handlers.StackRestart
import Seven.Handlers.StringAccess

/-!
# Where programs stay in the address space

An access is confined when it fits, in the state it is made in. When does a
whole program stay in the address space, said of the context it starts in?
`Stays` follows the sequencing of programs (`stays_bind`), so each helper has
one condition on the context in front of it:

> `stays_pushAllOf`: the slots of a frame are cut at the width of the mode,
> and stay in the address space unless one of them straddles the top by
> itself. The slot below address 0 does not.
>
> `stays_pop_bind`: a pop reads at the stack pointer as it is, so this must
> fit with all its 64 bits.

The conditions of the second part of a program ask only of what gets there:
the second pop of `RETF` is made when the first one was granted.

`ENTER`, `LEAVE`, `XLAT`, the bit tests and `MOVDIR64B` form their addresses
from the registers they start with. `DirectProgram` has them, and with them
every other handler that does.
-/

namespace Seven

open Seven.Lib

/-- A slot has bytes. -/
theorem StackWidth.bytes_ne_zero (width : StackWidth) : width.bytes ≠ 0 := by
  cases width with
  | w16 => exact Nat.succ_ne_zero 1
  | w32 => exact Nat.succ_ne_zero 3
  | w64 => exact Nat.succ_ne_zero 7

/-! ## Conditions on a context -/

namespace AddressForm

/-- `n` bytes at the form fit, with the registers of the context. -/
def FitsAt (form : AddressForm) (n : Nat) (ctx : ExecutionContext) : Prop :=
  (⟨ctx.state, ctx.instr, form, n⟩ : DataAccess).Fits

/-- Are `n` bytes at the form readable? -/
def Reads (form : AddressForm) (n : Nat) (ctx : ExecutionContext) : Prop :=
  (ctx.memory.read (form.address ctx.state ctx.instr) n .dataRead).isSome = true

/-- In 64-bit mode there is nothing to fit. -/
theorem fitsAt_long64 {form : AddressForm} {n : Nat} {ctx : ExecutionContext}
    (h : ctx.state.mode = .long64) : form.FitsAt n ctx := fun hmode => absurd h hmode

/-- Fitting is a matter of the mode and the address. -/
theorem fitsAt_congr {form form' : AddressForm} {n : Nat} {ctx ctx' : ExecutionContext}
    (hmode : ctx'.state.mode = ctx.state.mode)
    (haddress : form'.address ctx'.state ctx'.instr = form.address ctx.state ctx.instr) :
    form'.FitsAt n ctx' ↔ form.FitsAt n ctx := by
  unfold FitsAt
  rw [← DataAccess.confined_iff, ← DataAccess.confined_iff]
  unfold DataAccess.Confined DataAccess.address
  dsimp only
  rw [hmode, haddress]

end AddressForm

/-- An operand of `n` bytes fits, when it is in memory. -/
def OperandFits (operandIndex n : Nat) (ctx : ExecutionContext) : Prop :=
  ctx.instr.opKind operandIndex = .memory → (AddressForm.operand 0#16).FitsAt n ctx

/-- The slot of a push does not straddle the top. -/
def SlotFits (s : CpuState) (width : Nat) : Prop :=
  s.mode ≠ .long64 →
    s.rsp.toNat % addressSpace s.mode = 0 ∨ width ≤ s.rsp.toNat % addressSpace s.mode

/-- The slots of a frame that are pushed on a memory fit, each where the
stack pointer is in front of it. -/
def FrameFits (m : Memory) : CpuState → List (U64 × Nat) → Prop
  | _, [] => True
  | s, (value, width) :: rest =>
    SlotFits s width ∧
      (m.accepts (s.pushed width).rsp value width = true → FrameFits m (s.pushed width) rest)

/-- The slot of a pop ends inside the address space. -/
def PopFits (s : CpuState) (width : Nat) : Prop :=
  s.mode ≠ .long64 → s.rsp.toNat + width ≤ addressSpace s.mode

/-- The pops that are made of a memory fit. -/
def PopsFit (m : Memory) : CpuState → List Nat → Prop
  | _, [] => True
  | s, width :: rest =>
    PopFits s width ∧
      ((m.read s.rsp width .dataRead).isSome = true → PopsFit m (s.popped width) rest)

namespace AccessM

variable {α β : Type}

/-! ## What a program adds to the accesses -/

/-- A program that leaves the memory alone. -/
def Silent (p : AccessM α) : Prop := ∀ ctx, p.accesses ctx = []

/-- A value is silent. -/
theorem silent_pure (a : α) : Silent (pure a) := fun _ => rfl

/-- A change of the state is silent. -/
theorem silent_modifyState (f : CpuState → CpuState) : Silent (modifyState f) := fun _ => rfl

/-- A fault is silent. -/
theorem silent_memoryFault (form : AddressForm) : Silent (memoryFault form : AccessM α) :=
  fun _ => rfl

/-- Behind the accesses of the first part a silent one adds none. -/
theorem accesses_bind_silent (p : AccessM α) {f : α → AccessM β} (hf : ∀ a, Silent (f a))
    (ctx : ExecutionContext) : (p >>= f).accesses ctx = p.accesses ctx := by
  cases hrun : p.toHandler ctx with
  | ok a c => rw [accesses_bind_ok hrun, hf a c, List.append_nil]
  | error r c => exact accesses_bind_error hrun

/-- Looking is no access. -/
theorem look_bind_accesses (f : ExecutionContext → AccessM α) (ctx : ExecutionContext) :
    (look >>= f).accesses ctx = (f ctx.withoutMemory).accesses ctx := rfl

/-- A load is one access. -/
theorem accesses_load (form : AddressForm) (size : Nat) (ctx : ExecutionContext) :
    (load form size).accesses ctx = [⟨ctx.state, ctx.instr, form, size⟩] := rfl

/-- A store is one access. -/
theorem accesses_store (form : AddressForm) (bytes : List Byte) (ctx : ExecutionContext) :
    (store form bytes).accesses ctx = [⟨ctx.state, ctx.instr, form, bytes.length⟩] := rfl

/-- A checked load is one access, refused or not. -/
theorem accesses_readMemoryChecked (form : AddressForm) (width : Nat) (ctx : ExecutionContext) :
    (readMemoryChecked form width).accesses ctx = [⟨ctx.state, ctx.instr, form, width⟩] := by
  unfold readMemoryChecked
  rw [accesses_bind_silent _ fun found => ?_, accesses_load]
  cases found with
  | some bytes => exact silent_pure _
  | none => exact silent_memoryFault form

/-- A checked store is one access. -/
theorem accesses_writeMemoryChecked (form : AddressForm) (value : U64) (width : Nat)
    (ctx : ExecutionContext) :
    (writeMemoryChecked form value width).accesses ctx =
      [⟨ctx.state, ctx.instr, form, width⟩] := by
  unfold writeMemoryChecked
  rw [accesses_bind_silent _ fun stored => ?_, accesses_store, toBytes_length]
  cases stored with
  | true => exact silent_pure _
  | false => exact silent_memoryFault form

/-! ## Staying in the address space -/

/-- Every access of the run is confined. -/
def Stays (p : AccessM α) (ctx : ExecutionContext) : Prop := ∀ a ∈ p.accesses ctx, a.Confined

section stays

variable {p : AccessM α} {f : α → AccessM β} {ctx : ExecutionContext}

/-- What makes no access stays inside. -/
theorem Silent.stays (h : Silent p) (ctx : ExecutionContext) : p.Stays ctx := by
  intro a ha
  rw [h ctx] at ha
  cases ha

/-- **A program stays when its first part does, and the rest does where the
first part leads.** -/
theorem stays_bind :
    (p >>= f).Stays ctx ↔ p.Stays ctx ∧ ∀ a c, p.toHandler ctx = .ok a c → (f a).Stays c := by
  unfold Stays
  cases hrun : p.toHandler ctx with
  | ok a c =>
    rw [accesses_bind_ok hrun]
    simp only [List.mem_append, or_imp, forall_and]
    refine and_congr_right fun _ => ⟨fun h b d hbd => ?_, fun h => h a c rfl⟩
    cases hbd
    exact h
  | error r c =>
    rw [accesses_bind_error hrun]
    exact ⟨fun h => ⟨h, fun b d hbd => nomatch hbd⟩, fun h => h.1⟩

/-- A silent rest adds no condition. -/
theorem stays_bind_silent (hf : ∀ a, Silent (f a)) : (p >>= f).Stays ctx ↔ p.Stays ctx := by
  unfold Stays
  rw [accesses_bind_silent p hf]

/-- Looking adds no condition. -/
theorem stays_look_bind {f : ExecutionContext → AccessM α} :
    (look >>= f).Stays ctx ↔ (f ctx.withoutMemory).Stays ctx := Iff.rfl

/-- A change of the state moves the rest's condition to the changed state. -/
theorem stays_modify_bind {g : CpuState → CpuState} {f : Unit → AccessM α} :
    (modifyState g >>= f).Stays ctx ↔ (f ()).Stays { ctx with state := g ctx.state } := Iff.rfl

/-- One access, one condition. -/
theorem stays_single {form : AddressForm} {n : Nat}
    (h : p.accesses ctx = [⟨ctx.state, ctx.instr, form, n⟩]) : p.Stays ctx ↔ form.FitsAt n ctx := by
  unfold Stays
  rw [h, List.forall_mem_singleton]
  exact DataAccess.confined_iff _

/-- A checked load. -/
theorem stays_readMemoryChecked (form : AddressForm) (n : Nat) :
    (readMemoryChecked form n).Stays ctx ↔ form.FitsAt n ctx :=
  stays_single (accesses_readMemoryChecked form n ctx)

/-- A checked store. -/
theorem stays_writeMemoryChecked (form : AddressForm) (value : U64) (n : Nat) :
    (writeMemoryChecked form value n).Stays ctx ↔ form.FitsAt n ctx :=
  stays_single (accesses_writeMemoryChecked form value n ctx)

/-- Behind a load the rest runs in the same context, if there is a value. -/
theorem stays_load_bind {form : AddressForm} {n : Nat} {f : U64 → AccessM β} {P : Prop}
    (hf : ∀ value, (f value).Stays ctx ↔ P) :
    (readMemoryChecked form n >>= f).Stays ctx ↔
      form.FitsAt n ctx ∧ (form.Reads n ctx → P) := by
  rw [stays_bind, stays_readMemoryChecked]
  refine and_congr_right fun _ => ?_
  unfold AddressForm.Reads
  cases hread : ctx.memory.read (form.address ctx.state ctx.instr) n .dataRead with
  | some bytes =>
    have hok := (toHandler_readMemoryChecked form n ctx).trans (readMemoryChecked_some hread)
    constructor
    · exact fun h _ => (hf _).mp (h _ _ hok)
    · intro h value c hrun
      rw [hok] at hrun
      cases hrun
      exact (hf _).mpr (h rfl)
  | none =>
    have herror := (toHandler_readMemoryChecked form n ctx).trans (readMemoryChecked_none hread)
    refine iff_of_true (fun value c hrun => ?_) (fun h => nomatch h)
    rw [herror] at hrun
    cases hrun

/-! ### Operands -/

/-- The check of an operand that has been read. -/
theorem silent_found (found : Option U64) : Silent (match found with
    | some value => pure value
    | none => memoryFault (.operand 0#16) : AccessM U64) := by
  cases found with
  | some value => exact silent_pure value
  | none => exact silent_memoryFault _

/-- An operand that is not in memory is read without an access. -/
theorem accesses_readOperandChecked {operandIndex : Nat}
    (h : ctx.instr.opKind operandIndex ≠ .memory) (n : Nat) :
    (readOperandChecked operandIndex n).accesses ctx = [] := by
  unfold readOperandChecked
  refine (accesses_bind_silent _ silent_found ctx).trans ?_
  unfold readOperand
  rw [look_bind_accesses, ctx.withoutMemory_instr]
  cases hkind : ctx.instr.opKind operandIndex with
  | memory => exact absurd hkind h
  | _ => rfl

/-- An operand read. -/
theorem stays_readOperandChecked (operandIndex n : Nat) :
    (readOperandChecked operandIndex n).Stays ctx ↔ OperandFits operandIndex n ctx := by
  unfold readOperandChecked OperandFits
  refine (stays_bind_silent silent_found).trans ?_
  unfold readOperand
  rw [stays_look_bind, ctx.withoutMemory_instr]
  cases ctx.instr.opKind operandIndex with
  | memory =>
    dsimp only
    rw [stays_bind_silent fun bytes => silent_pure _, forall_prop_of_true rfl]
    exact stays_single (accesses_load _ n ctx)
  | _ => exact iff_of_true ((silent_pure _).stays ctx) fun h => nomatch h

/-- An operand write: a register asks for nothing. -/
theorem stays_writeOperandChecked (operandIndex : Nat) (value : U64) (n : Nat) :
    (writeOperandChecked operandIndex value n).Stays ctx ↔ OperandFits operandIndex n ctx := by
  have hrest : ∀ stored : Bool, Silent
      (if stored then pure () else memoryFault (.operand 0#16) : AccessM Unit) := by
    intro stored
    cases stored with
    | true => exact silent_pure ()
    | false => exact silent_memoryFault _
  unfold writeOperandChecked OperandFits
  refine (stays_bind_silent hrest).trans ?_
  unfold writeOperand
  rw [stays_look_bind, ctx.withoutMemory_instr]
  cases ctx.instr.opKind operandIndex with
  | memory =>
    rw [forall_prop_of_true rfl]
    refine stays_single ((accesses_store _ _ ctx).trans ?_)
    rw [toBytes_length]
  | register =>
    refine iff_of_true ?_ fun h => nomatch h
    exact (stays_bind_silent fun _ => silent_pure true).mpr ((silent_modifyState _).stays ctx)
  | _ => exact iff_of_true ((silent_pure _).stays ctx) fun h => nomatch h

/-- Behind the read of an operand the rest runs in the same context, if there
is a value. -/
theorem stays_operand_bind {operandIndex n : Nat} {f : U64 → AccessM β} {P : Prop}
    (hf : ∀ value, Seven.readOperand ctx operandIndex n = some value → ((f value).Stays ctx ↔ P)) :
    (readOperandChecked operandIndex n >>= f).Stays ctx ↔
      OperandFits operandIndex n ctx ∧
        ((Seven.readOperand ctx operandIndex n).isSome = true → P) := by
  rw [stays_bind, stays_readOperandChecked, toHandler_readOperandChecked]
  refine and_congr_right fun _ => ?_
  cases hread : Seven.readOperand ctx operandIndex n with
  | some value =>
    have hok := readOperandChecked_ok_iff.mpr hread
    constructor
    · exact fun h _ => (hf value hread).mp (h value ctx hok)
    · intro h found c hrun
      rw [hok] at hrun
      cases hrun
      exact (hf value hread).mpr (h rfl)
  | none =>
    refine iff_of_true (fun value c hrun => ?_) (fun h => nomatch h)
    unfold Seven.readOperandChecked at hrun
    rw [hread] at hrun
    cases hrun

/-! ### The stack -/

/-- **A push is cut at the width of the mode**, and may straddle the top only
by itself. -/
theorem stays_pushSlot {widths : List Nat} (refuse : AccessM Unit) (value : U64) {width : Nat}
    (hmem : width ∈ widths) (hwidth : width ≤ 8) :
    (pushSlot widths refuse value width).Stays ctx ↔ SlotFits ctx.state width := by
  unfold pushSlot
  rw [stays_modify_bind, if_pos hmem, stays_writeMemoryChecked]
  unfold AddressForm.FitsAt DataAccess.Fits SlotFits
  refine forall_congr' fun hmode => ?_
  change (width ≠ 0 → (maskStackPointer ctx.state
    (ctx.state.rsp - BitVec.ofNat 64 width)).toNat + width ≤ addressSpace ctx.state.mode) ↔ _
  rw [maskStackPointer_toNat, BitVec.toNat_sub, BitVec.toNat_ofNat,
    Nat.mod_eq_of_lt (show width < 2 ^ 64 by omega)]
  -- where the slot wraps it ends at the top only if it began at 0
  cases hm : ctx.state.mode with
  | real16 =>
    show (width ≠ 0 → (2 ^ 64 - width + _) % 2 ^ 64 % 2 ^ 16 + width ≤ 2 ^ 16) ↔
      _ % 2 ^ 16 = 0 ∨ width ≤ _ % 2 ^ 16
    omega
  | compat32 =>
    show (width ≠ 0 → (2 ^ 64 - width + _) % 2 ^ 64 % 2 ^ 32 + width ≤ 2 ^ 32) ↔
      _ % 2 ^ 32 = 0 ∨ width ≤ _ % 2 ^ 32
    omega
  | long64 => exact absurd hm hmode

/-- **A frame stays when the slots that are pushed fit.** -/
theorem stays_pushAllOf {widths : List Nat} (refuse : AccessM Unit) (m : Memory) :
    ∀ (slots : List (U64 × Nat)) (ctx : ExecutionContext), FrameWidths widths slots →
      Memory.SameAccess m ctx.memory →
      ((pushAllOf widths refuse slots).Stays ctx ↔ FrameFits m ctx.state slots) := by
  -- Induction over the slots still to be pushed; the memory keeps the permissions it began with.
  intro slots
  induction slots with
  | nil =>
    intro ctx _ _
    exact iff_of_true ((silent_pure ()).stays ctx) trivial
  | cons slot rest ih =>
    intro ctx hwidths hsame
    obtain ⟨value, width⟩ := slot
    obtain ⟨hmem, hpos, hle⟩ := hwidths width (List.mem_cons_self ..)
    have hrest : FrameWidths widths rest := fun w hw => hwidths w (List.mem_cons_of_mem _ hw)
    have haccepts := Memory.accepts_congr hsame (ctx.state.pushed width).rsp value hle
    unfold pushAllOf FrameFits
    rw [stays_bind, stays_pushSlot refuse value hmem hle, toHandler_pushSlot]
    refine and_congr_right fun _ => ?_
    -- A refused slot ends the frame there, so nothing behind it is asked for.
    cases hslot : m.accepts (ctx.state.pushed width).rsp value width with
    | false =>
      rw [hslot] at haccepts
      obtain ⟨r, c, herror, -⟩ :=
        @pushSlot_error widths refuse.toHandler value width hmem ctx haccepts
      refine iff_of_true (fun _ d hrun => ?_) fun h => absurd h Bool.false_ne_true
      rw [herror] at hrun
      cases hrun
    | true =>
      rw [hslot] at haccepts
      have hok := @pushSlot_ok widths refuse.toHandler value width hmem ctx haccepts
      have hnext := ih { ctx with
        state := ctx.state.pushed width
        memory := ctx.memory.stored (ctx.state.pushed width).rsp value width } hrest
        (hsame.trans (ctx.memory.stored_sameAccess (ctx.state.pushed width).rsp value hle))
      constructor
      · exact fun h _ => hnext.mp (h () _ hok)
      · intro h _ c hrun
        rw [hok] at hrun
        cases hrun
        exact hnext.mpr (h rfl)

/-- A frame stays inside when its slots do. -/
theorem stays_frame {widths : List Nat} (refuse : AccessM Unit) {slots : List (U64 × Nat)}
    (hwidths : FrameWidths widths slots) :
    (pushAllOf widths refuse slots).Stays ctx ↔ FrameFits ctx.memory ctx.state slots :=
  stays_pushAllOf refuse ctx.memory slots ctx hwidths (Memory.SameAccess.refl _)

/-- A push stays inside when its slot does. -/
theorem stays_pushWidth (value : U64) {width : Nat} (hwidth : width ∈ [1, 2, 4, 8]) :
    (pushWidth value width).Stays ctx ↔ SlotFits ctx.state width := by
  refine stays_pushSlot unsupportedInstruction value hwidth ?_
  simp only [List.mem_cons, List.not_mem_nil, or_false] at hwidth
  omega

/-- **A pop is not cut**, and what follows it runs behind it, if it was
granted. -/
theorem stays_pop_bind {width : Nat} (hwidth : width ∈ [1, 2, 4, 8]) {f : U64 → AccessM β}
    {P : Prop}
    (hf : ∀ value, (f value).Stays { ctx with state := ctx.state.popped width } ↔ P) :
    (popWidth width >>= f).Stays ctx ↔
      PopFits ctx.state width ∧
        ((ctx.memory.read ctx.state.rsp width .dataRead).isSome = true → P) := by
  have hpos : width ≠ 0 := by
    simp only [List.mem_cons, List.not_mem_nil, or_false] at hwidth
    omega
  have hpop : (popWidth width).Stays ctx ↔ PopFits ctx.state width := by
    unfold popWidth
    rw [if_pos hwidth, stays_bind_silent fun value => fun _ => rfl, stays_readMemoryChecked]
    exact forall_congr' fun _ => forall_prop_of_true hpos
  rw [stays_bind, hpop, toHandler_popWidth]
  -- Without a value the rest is never reached.
  refine and_congr_right fun _ => ?_
  cases hread : ctx.memory.read ctx.state.rsp width .dataRead with
  | some bytes =>
    have hok := popWidth_some hwidth hread
    constructor
    · exact fun h _ => (hf _).mp (h _ _ hok)
    · intro h value c hrun
      rw [hok] at hrun
      cases hrun
      exact (hf _).mpr (h rfl)
  | none =>
    have herror := popWidth_none hwidth hread
    refine iff_of_true (fun value c hrun => ?_) (fun h => nomatch h)
    rw [herror] at hrun
    cases hrun

end stays

/-! ## `ENTER` and `LEAVE` -/

/-- `handle_code_ENTERW`, `handle_code_ENTERD`, `handle_code_ENTERQ`. -/
def handleEnter (width : StackWidth) : AccessM Unit := do
  let ctx ← look
  let sp := enterAddress ctx.state width
  writeMemoryChecked (.enterSlot width) (readRegister ctx.state (width.register 5)) width.bytes
  modifyState fun s =>
    let s := writeRegister s (width.register 4) sp width.bytes
    let s := writeRegister s (width.register 5) sp width.bytes
    writeRegister s (width.register 4) (truncate (sp - ctx.instr.immediate16) width.bytes)
      width.bytes

/-- `handle_code_LEAVEW`, `handle_code_LEAVED`, `handle_code_LEAVEQ`. -/
def handleLeave (width : StackWidth) : AccessM Unit := do
  let ctx ← look
  let sp := readRegister ctx.state (width.register 5)
  let poppedBp ← readMemoryChecked (.leaveSlot width) width.bytes
  modifyState fun s =>
    let s := writeRegister s (width.register 4) (sp + BitVec.ofNat 64 width.bytes) width.bytes
    writeRegister s (width.register 5) poppedBp width.bytes

/-- `ENTER` writes one slot. -/
theorem accesses_handleEnter (width : StackWidth) (ctx : ExecutionContext) :
    (handleEnter width).accesses ctx =
      [⟨ctx.state, ctx.instr, .enterSlot width, width.bytes⟩] := by
  unfold handleEnter
  rw [look_bind_accesses, accesses_bind_silent _ fun _ => silent_modifyState _,
    accesses_writeMemoryChecked]

/-- `LEAVE` reads one slot. -/
theorem accesses_handleLeave (width : StackWidth) (ctx : ExecutionContext) :
    (handleLeave width).accesses ctx =
      [⟨ctx.state, ctx.instr, .leaveSlot width, width.bytes⟩] := by
  unfold handleLeave
  rw [look_bind_accesses, accesses_bind_silent _ fun _ => silent_modifyState _,
    accesses_readMemoryChecked]

/-! ## `XLAT` and the bit tests -/

/-- `handle_code_XLAT_M8`. -/
def handleXlat : AccessM Unit := do
  let value ← readMemoryChecked .translation 1
  modifyState fun s => writeRegister s .al value 1

/-- The program is the handler. -/
theorem toHandler_handleXlat : handleXlat.toHandler = Seven.handleXlat := by
  funext ctx
  have hload := toHandler_readMemoryChecked .translation 1 ctx
  unfold handleXlat Seven.handleXlat
  rw [toHandler_bind]
  dsimp only
  cases hread : Seven.readMemoryChecked (readRegister ctx.state (.r64 3) +
      readRegister ctx.state .al) 1 ctx with
  | ok value c =>
    rw [bind_ok (hload.trans hread)]
    rfl
  | error r c => exact bind_error (hload.trans hread)

/-- `XLAT` reads one byte. -/
theorem accesses_handleXlat (ctx : ExecutionContext) :
    handleXlat.accesses ctx = [⟨ctx.state, ctx.instr, .translation, 1⟩] := by
  unfold handleXlat
  rw [accesses_bind_silent _ fun _ => silent_modifyState _, accesses_readMemoryChecked]

/-- The word of `BT`'s base that holds the bit. -/
def readBtBaseValue (width : RmWideWidth) (index : U64) : AccessM U64 := do
  if (← look).instr.opKind 0 = .memory then readMemoryChecked (.bitElement width index) width.bytes
  else readOperandChecked 0 width.bytes

/-- `handle_code_BT_RM16_IMM8` and the others. -/
def handleBt (width : RmWideWidth) (source : BitIndexSource) : AccessM Unit := do
  let w := width.bytes
  let index := bitIndex source w (← look)
  let value ← readBtBaseValue width index
  let bit := (index &&& BitVec.ofNat 64 (8 * w - 1)).toNat
  modifyState fun s => setFlags s (setFlag s.rflags kFlagCF (flagSet (value >>> bit) 1#64))

/-- The element of the bit string, or none for a bit test of a register. -/
def btSpans (width : RmWideWidth) (source : BitIndexSource) (ctx : ExecutionContext) :
    List (AddressForm × Nat) :=
  if ctx.instr.opKind 0 = .memory then
    [(.bitElement width (bitIndex source width.bytes ctx), width.bytes)]
  else []

/-- `BT` reads the word of the bit, or its operand. -/
theorem accesses_handleBt (width : RmWideWidth) (source : BitIndexSource) (ctx : ExecutionContext) :
    (handleBt width source).accesses ctx =
      (btSpans width source ctx).map fun span => ⟨ctx.state, ctx.instr, span.1, span.2⟩ := by
  unfold handleBt readBtBaseValue btSpans
  dsimp only
  rw [look_bind_accesses, accesses_bind_silent _ fun _ => silent_modifyState _,
    look_bind_accesses, bitIndex_withoutMemory, ctx.withoutMemory_instr]
  by_cases hmemory : ctx.instr.opKind 0 = .memory
  · rw [if_pos hmemory, if_pos hmemory, accesses_readMemoryChecked]
    rfl
  · rw [if_neg hmemory, if_neg hmemory]
    exact accesses_readOperandChecked hmemory width.bytes

/-! ## `MOVDIR64B` -/

/-- `movdir64b_impl`: the operand is cut at the width of the mode, the
destination at that of its register. -/
def movdir64bImpl (destWidth : RmWideWidth) : AccessM Unit := do
  match ← load (.operand 0#16) 64 with
  | none => memoryFault (.operand 0#16)
  | some bytes =>
    let destReg := (← look).instr.opRegister 0
    if ← store (.maskedRegister destReg destWidth) bytes then pure ()
    else memoryFault (.maskedRegister destReg destWidth)

/-- The store is made if the load is granted. -/
theorem accesses_movdir64bImpl (destWidth : RmWideWidth) (ctx : ExecutionContext) :
    (movdir64bImpl destWidth).accesses ctx =
      ⟨ctx.state, ctx.instr, .operand 0#16, 64⟩ ::
        (ctx.memory.read (memoryAddress ctx.state ctx.instr) 64 .dataRead).toList.map fun bytes =>
          ⟨ctx.state, ctx.instr, .maskedRegister (ctx.instr.opRegister 0) destWidth,
            bytes.length⟩ := by
  have hload : (load (.operand 0#16) 64).toHandler ctx =
      .ok (ctx.memory.read (memoryAddress ctx.state ctx.instr) 64 .dataRead) ctx := by
    rw [← operand_zero]
    rfl
  unfold movdir64bImpl
  rw [accesses_bind_ok hload, accesses_load]
  cases ctx.memory.read (memoryAddress ctx.state ctx.instr) 64 .dataRead with
  | none => rfl
  | some bytes =>
    dsimp only
    rw [look_bind_accesses, accesses_bind_silent _ fun stored => ?_, accesses_store]
    · rfl
    · cases stored with
      | true => exact silent_pure _
      | false => exact silent_memoryFault _

end AccessM

/-! ## Programs that form their addresses from the registers they start with -/

/-- The accesses of the program are at these forms, with these numbers of
bytes, as the context it starts in has the registers. -/
def AccessM.Spans (p : AccessM Unit) (spans : List (AddressForm × Nat))
    (ctx : ExecutionContext) : Prop :=
  (p.accesses ctx).map (fun a => (a.state.mode, a.address, a.size)) =
    spans.map fun span => (ctx.state.mode, span.1.address ctx.state ctx.instr, span.2)

/-- Whether an access is confined can be told from its mode, its address and
its size. -/
theorem AccessM.Spans.stays_iff {p : AccessM Unit} {spans : List (AddressForm × Nat)}
    {ctx : ExecutionContext} (h : p.Spans spans ctx) :
    p.Stays ctx ↔ ∀ span ∈ spans, span.1.FitsAt span.2 ctx := by
  obtain ⟨Q, hQ⟩ : ∃ Q : ExecutionMode × U64 × Nat → Prop,
      ∀ a : DataAccess, a.Confined ↔ Q (a.state.mode, a.address, a.size) :=
    ⟨fun x => x.1 ≠ .long64 →
      ∀ i < x.2.2, (x.2.1 + BitVec.ofNat 64 i).toNat < addressSpace x.1, fun _ => Iff.rfl⟩
  have hfits (span : AddressForm × Nat) : span.1.FitsAt span.2 ctx ↔
      Q (ctx.state.mode, span.1.address ctx.state ctx.instr, span.2) :=
    (DataAccess.confined_iff _).symm.trans (hQ ⟨ctx.state, ctx.instr, span.1, span.2⟩)
  have haccesses := congrArg (fun l => ∀ x ∈ l, Q x) h
  simp only [List.forall_mem_map, ← hQ] at haccesses
  simp only [hfits]
  exact Eq.to_iff haccesses

/-- The handlers that are no stack, read-modify-write or string instruction:
those that form an address of their own, and any other that reaches where the
registers in front of it say. -/
inductive DirectProgram where
  | enter (width : StackWidth)
  | leave (width : StackWidth)
  | xlat
  | bitTest (width : RmWideWidth) (source : BitIndexSource)
  | movdir64b (width : RmWideWidth)
  | other (p : AccessM Unit) (spans : ExecutionContext → List (AddressForm × Nat))
      (hspans : ∀ ctx, p.Spans (spans ctx) ctx)

namespace DirectProgram

/-- The instructions with addresses of their own. -/
def program : DirectProgram → AccessM Unit
  | .enter width => AccessM.handleEnter width
  | .leave width => AccessM.handleLeave width
  | .xlat => AccessM.handleXlat
  | .bitTest width source => AccessM.handleBt width source
  | .movdir64b width => AccessM.movdir64bImpl width
  | .other p _ _ => p

/-- Where the program reaches. `MOVDIR64B` stores what it could load. -/
def spans (ctx : ExecutionContext) : DirectProgram → List (AddressForm × Nat)
  | .enter width => [(.enterSlot width, width.bytes)]
  | .leave width => [(.leaveSlot width, width.bytes)]
  | .xlat => [(.translation, 1)]
  | .bitTest width source => AccessM.btSpans width source ctx
  | .movdir64b width =>
    (.operand 0#16, 64) ::
      (ctx.memory.read (memoryAddress ctx.state ctx.instr) 64 .dataRead).toList.map fun bytes =>
        (.maskedRegister (ctx.instr.opRegister 0) width, bytes.length)
  | .other _ spans _ => spans ctx

/-- Each of them accesses the spans it lists. -/
theorem spans_program (d : DirectProgram) (ctx : ExecutionContext) :
    d.program.Spans (d.spans ctx) ctx := by
  unfold AccessM.Spans
  cases d with
  | enter width => exact congrArg _ (AccessM.accesses_handleEnter width ctx)
  | leave width => exact congrArg _ (AccessM.accesses_handleLeave width ctx)
  | xlat => exact congrArg _ (AccessM.accesses_handleXlat ctx)
  | bitTest width source =>
    show ((AccessM.handleBt width source).accesses ctx).map _ = _
    rw [AccessM.accesses_handleBt, List.map_map]
    rfl
  | movdir64b width =>
    show ((AccessM.movdir64bImpl width).accesses ctx).map _ = _
    rw [AccessM.accesses_movdir64bImpl, List.map_cons, List.map_map]
    unfold spans
    rw [List.map_cons, List.map_map]
    rfl
  | other p spans hspans => exact hspans ctx

/-- **A program of this kind stays when the spans fit.** -/
theorem stays_iff (d : DirectProgram) (ctx : ExecutionContext) :
    d.program.Stays ctx ↔ ∀ span ∈ d.spans ctx, span.1.FitsAt span.2 ctx :=
  (d.spans_program ctx).stays_iff

end DirectProgram

end Seven
