import Seven.Cpu.Plain
import Seven.Handlers.AccessBounds
import Seven.Handlers.AluEncodings
import Seven.Handlers.StackRestart
import Seven.Handlers.WidePair

/-!
# `ENTER` and `LEAVE`

`ENTER` is described by the cells it pushes, where `PUSH` would push them:
the frame pointer, the display of the enclosing frames, and the new frame
pointer for a nested procedure. The source drops the nesting level, so only
level 0 makes a frame. It also takes SP, ESP or RSP for the stack pointer
whatever the mode, and ESP without a cut, so the cell it stores to is not
always the one of the stack.

`LEAVE` needs the cell and the frame pointer, and nothing else of what
happened in between.

Main result: `enter_leave_iff`.
-/

namespace Seven

open Seven.Lib

/-! ## The frame -/

/-- BP, EBP or RBP. -/
def framePointer (s : CpuState) (width : StackWidth) : U64 := readRegister s (width.register 5)

/-- SP, ESP or RSP. -/
def stackPointer (s : CpuState) (width : StackWidth) : U64 := readRegister s (width.register 4)

/-- `nesting`, of which the level is the part below 32. -/
def nestingLevel (instr : Instruction) : Nat := instr.immediate8.toNat % 32

/-- The `k`-th cell that a sequence of pushes takes. -/
def stackCell (s : CpuState) (width : StackWidth) (k : Nat) : U64 :=
  maskStackPointer s (s.rsp - BitVec.ofNat 64 (width.bytes * k))

/-- The `i`-th pointer of the enclosing frame's display. -/
def displayCell (s : CpuState) (width : StackWidth) (i : Nat) : U64 :=
  maskStackPointer s (s.gpr 5 - BitVec.ofNat 64 (width.bytes * i))

/-- The stack pointer behind the first push. -/
def newFrame (s : CpuState) (width : StackWidth) : U64 :=
  truncate (s.rsp - BitVec.ofNat 64 width.bytes) width.bytes

/-- The memory with the old frame pointer and `n` display pointers pushed. -/
def pushDisplay (s : CpuState) (width : StackWidth) (m : Memory) : Nat → Memory
  | 0 => m.stored (stackCell s width 1) (framePointer s width) width.bytes
  | n + 1 =>
    let pushed := pushDisplay s width m n
    let pointer := pushed.read (displayCell s width (n + 1)) width.bytes .dataRead
    pushed.stored (stackCell s width (n + 2)) (fromBytes (pointer.getD [])) width.bytes

/-- The memory with the frame of a procedure of the level. -/
def pushFrame (s : CpuState) (width : StackWidth) (m : Memory) : Nat → Memory
  | 0 => pushDisplay s width m 0
  | level + 1 =>
    (pushDisplay s width m level).stored (stackCell s width (level + 2)) (newFrame s width)
      width.bytes

/-- What `ENTER` has to do. -/
structure Entered (width : StackWidth) (ctx ctx' : ExecutionContext) : Prop where
  cells : ∀ k, 1 ≤ k → k ≤ nestingLevel ctx.instr + 1 →
    ctx'.memory.read (stackCell ctx.state width k) width.bytes .dataRead =
      (pushFrame ctx.state width ctx.memory (nestingLevel ctx.instr)).read
        (stackCell ctx.state width k) width.bytes .dataRead
  base : framePointer ctx'.state width = newFrame ctx.state width
  top : stackPointer ctx'.state width =
    truncate (ctx.state.rsp - BitVec.ofNat 64 (width.bytes * (nestingLevel ctx.instr + 1)) -
      ctx.instr.immediate16) width.bytes

/-- The stack of `ctx` is plain memory, as far as the frame goes. -/
def PlainCells (width : StackWidth) (ctx : ExecutionContext) (m : Memory) : Prop :=
  ∀ k, 1 ≤ k → k ≤ nestingLevel ctx.instr + 1 → m.PlainSpan (stackCell ctx.state width k) width.bytes

/-- What a balanced use of the stack leaves of the frame. -/
structure FrameKept (width : StackWidth) (ctx ctx' c : ExecutionContext) : Prop where
  mode : c.state.mode = ctx'.state.mode
  base : framePointer c.state width = framePointer ctx'.state width
  plain : PlainCells width ctx c.memory
  cells : ∀ k, 1 ≤ k → k ≤ nestingLevel ctx.instr + 1 →
    c.memory.read (stackCell ctx.state width k) width.bytes .dataRead =
      ctx'.memory.read (stackCell ctx.state width k) width.bytes .dataRead

/-- `ENTER` makes the frame, and a `LEAVE` later restores what was before. -/
def EnterLeave (width : StackWidth) (ctx : ExecutionContext) : Prop :=
  ∃ ctx', (AccessM.handleEnter width).toHandler ctx = .ok () ctx' ∧ Entered width ctx ctx' ∧
    ∀ c, FrameKept width ctx ctx' c →
      ∃ c', (AccessM.handleLeave width).toHandler c = .ok () c' ∧
        framePointer c'.state width = framePointer ctx.state width ∧
        stackPointer c'.state width = stackPointer ctx.state width

/-- When it does: there is no nesting, the cell below the stack pointer is
the one an operand-sized pointer names, and the subtraction from ESP does not
run below zero. (When it does, the frame pointer is lost at the top of the
64-bit space, which is no harm if the cell holds it already.) -/
structure EnterFits (width : StackWidth) (ctx : ExecutionContext) : Prop where
  level : nestingLevel ctx.instr = 0
  cell : newFrame ctx.state width = stackCell ctx.state width 1
  noBorrow : width = .w32 → ctx.state.rsp.toNat % 2 ^ 32 < 4 →
    ctx.memory.accepts (stackPointer ctx.state .w32 - 4#64) (framePointer ctx.state .w32) 4 = true ∧
      ctx.memory.read (stackCell ctx.state .w32 1) 4 .dataRead =
        some (toBytes (framePointer ctx.state .w32) 4)

/-! ## Registers of the operand size -/

section

variable (s : CpuState) (width : StackWidth)

/-- `RBP` and `RSP` are general registers. -/
theorem StackWidth.register_general (i : Fin 16) : (width.register i).General := by
  cases width <;> exact trivial

/-- Of the instruction's width. -/
theorem StackWidth.register_width (i : Fin 16) : registerWidth (width.register i) = width.bytes := by
  cases width <;> rfl

/-- `BP` at the width. -/
theorem framePointer_toNat : (framePointer s width).toNat = (s.gpr 5).toNat % 2 ^ (8 * width.bytes) :=
  readRegister_toNat s width 5

/-- `SP` at the width. -/
theorem stackPointer_toNat : (stackPointer s width).toNat = s.rsp.toNat % 2 ^ (8 * width.bytes) :=
  readRegister_toNat s width 4

/-- `BP` fits. -/
theorem framePointer_lt : (framePointer s width).toNat < 2 ^ (8 * width.bytes) := by
  rw [framePointer_toNat]
  exact Nat.mod_lt _ (Nat.two_pow_pos _)

/-- Writing one of the two pointers, and reading it or the other. -/
theorem stackPointer_write (value : U64) :
    stackPointer (writeRegister s (width.register 4) value width.bytes) width =
      truncate value width.bytes := by
  unfold stackPointer
  rw [readRegister_writeRegister s (width.register_general 4) value
    (Or.inr (width.register_width 4).symm), width.register_width]

/-- `BP` reads back. -/
theorem framePointer_write (value : U64) :
    framePointer (writeRegister s (width.register 5) value width.bytes) width =
      truncate value width.bytes := by
  unfold framePointer
  rw [readRegister_writeRegister s (width.register_general 5) value
    (Or.inr (width.register_width 5).symm), width.register_width]

/-- `SP` written leaves `BP`. -/
theorem framePointer_write_stack (value : U64) :
    framePointer (writeRegister s (width.register 4) value width.bytes) width =
      framePointer s width := by
  have hne : width.register 4 ≠ width.register 5 := by cases width <;> decide
  exact readRegister_writeRegister_ne s (width.register_general 4) (width.register_general 5)
    ((width.register_width 4).trans (width.register_width 5).symm) hne value
    (Or.inr (width.register_width 4).symm)

/-- `BP` written leaves `SP`. -/
theorem stackPointer_write_frame (value : U64) :
    stackPointer (writeRegister s (width.register 5) value width.bytes) width =
      stackPointer s width := by
  have hne : width.register 5 ≠ width.register 4 := by cases width <;> decide
  exact readRegister_writeRegister_ne s (width.register_general 5) (width.register_general 4)
    ((width.register_width 5).trans (width.register_width 4).symm) hne value
    (Or.inr (width.register_width 5).symm)

end

/-! ## Addresses -/

section

variable (s : CpuState) (width : StackWidth)

/-- The new frame, at the width. -/
theorem newFrame_toNat :
    (newFrame s width).toNat = (s.rsp - BitVec.ofNat 64 width.bytes).toNat % 2 ^ (8 * width.bytes) :=
  truncate_toNat _ width.bytes_le

/-- The first slot, at the stack's width. -/
theorem stackCell_one_toNat :
    (stackCell s width 1).toNat =
      (s.rsp - BitVec.ofNat 64 width.bytes).toNat % 2 ^ (8 * stackPointerWidth s.mode) := by
  unfold stackCell
  rw [Nat.mul_one]
  exact truncate_toNat _ (by cases s.mode <;> decide)

/-- The frame pointer of the operand size and the cell differ by whole
64 KiB. -/
theorem newFrame_mod : (newFrame s width).toNat % 2 ^ 16 = (stackCell s width 1).toNat % 2 ^ 16 := by
  have hdvd : ∀ w ∈ [2, 4, 8], 2 ^ 16 ∣ 2 ^ (8 * w) := by decide
  have hmode : stackPointerWidth s.mode ∈ [2, 4, 8] := by cases s.mode <;> decide
  rw [newFrame_toNat, stackCell_one_toNat, Nat.mod_mod_of_dvd _ (hdvd _ width.bytes_mem),
    Nat.mod_mod_of_dvd _ (hdvd _ hmode)]

/-- The source's address of the 32-bit form: 64 bits, not wrapped. -/
theorem enterAddress_toNat_w32 :
    (enterAddress s .w32).toNat = (2 ^ 64 - 4 + s.rsp.toNat % 2 ^ 32) % 2 ^ 64 := by
  show (readRegister s (.r32 4) - 4#64).toNat = _
  rw [BitVec.toNat_sub]
  exact congrArg (fun n => (2 ^ 64 - 4 + n) % 2 ^ 64) (readRegister_toNat s .w32 4)

/-- The frame of the 32-bit form. -/
theorem newFrame_toNat_w32 : (newFrame s .w32).toNat = (2 ^ 64 - 4 + s.rsp.toNat) % 2 ^ 32 := by
  rw [newFrame_toNat, BitVec.toNat_sub]
  show (2 ^ 64 - 4 + _) % 2 ^ 64 % 2 ^ 32 = _
  omega

/-- The address `ENTER` forms is the new frame, but for a borrow. -/
theorem enterAddress_eq (h : width = .w32 → 4 ≤ s.rsp.toNat % 2 ^ 32) :
    enterAddress s width = newFrame s width := by
  apply BitVec.eq_of_toNat_eq
  cases width with
  | w16 =>
    have hsp : (readRegister s (.r16 4)).toNat = s.rsp.toNat % 2 ^ 16 := readRegister_toNat s .w16 4
    show (truncate (readRegister s (.r16 4) - 2#64) 2).toNat = _
    rw [newFrame_toNat, truncate_toNat _ (by decide : 2 ≤ 8), BitVec.toNat_sub, hsp, BitVec.toNat_sub]
    show (2 ^ 64 - 2 + _) % 2 ^ 64 % 2 ^ 16 = (2 ^ 64 - 2 + _) % 2 ^ 64 % 2 ^ 16
    omega
  | w32 =>
    have hesp := h rfl
    rw [enterAddress_toNat_w32, newFrame_toNat_w32]
    omega
  | w64 =>
    rw [newFrame_toNat]
    exact (Nat.mod_eq_of_lt (BitVec.isLt _)).symm

/-- With a borrow it lies in the top of the 64-bit space. -/
theorem enterAddress_borrow (h : s.rsp.toNat % 2 ^ 32 < 4) :
    (enterAddress s .w32).toNat = (newFrame s .w32).toNat + (2 ^ 64 - 2 ^ 32) := by
  have hsp := s.rsp.isLt
  rw [enterAddress_toNat_w32, newFrame_toNat_w32]
  omega

/-- The slot's address is the frame, at the width. -/
theorem truncate_enterAddress : truncate (enterAddress s width) width.bytes = newFrame s width := by
  have hself : truncate (newFrame s width) width.bytes = newFrame s width := truncate_truncate _ _
  by_cases hborrow : width = .w32 ∧ s.rsp.toNat % 2 ^ 32 < 4
  · obtain ⟨rfl, hlt⟩ := hborrow
    have haddress := enterAddress_borrow s hlt
    have hframe := newFrame_toNat_w32 s
    apply BitVec.eq_of_toNat_eq
    rw [truncate_toNat _ (StackWidth.bytes_le .w32), haddress]
    show _ % 2 ^ 32 = _
    omega
  · rw [enterAddress_eq s width fun hw => Nat.le_of_not_lt fun hlt => hborrow ⟨hw, hlt⟩, hself]

end

/-! ## The two instructions -/

section

variable {width : StackWidth} {ctx : ExecutionContext}

/-- The registers behind `ENTER`. -/
def enteredState (ctx : ExecutionContext) (width : StackWidth) : CpuState :=
  let sp := enterAddress ctx.state width
  let s := writeRegister ctx.state (width.register 4) sp width.bytes
  let s := writeRegister s (width.register 5) sp width.bytes
  writeRegister s (width.register 4) (truncate (sp - ctx.instr.immediate16) width.bytes) width.bytes

/-- `ENTER`, its slot accepted. -/
theorem handleEnter_ok
    (h : ctx.memory.accepts (enterAddress ctx.state width) (framePointer ctx.state width)
      width.bytes = true) :
    (AccessM.handleEnter width).toHandler ctx = .ok () { ctx with
      state := enteredState ctx width
      memory := ctx.memory.stored (enterAddress ctx.state width) (framePointer ctx.state width)
        width.bytes } := by
  unfold AccessM.handleEnter
  rw [AccessM.look_bind, AccessM.toHandler_bind]
  exact bind_ok ((AccessM.toHandler_writeMemoryChecked (.enterSlot width) _ _ ctx).trans
    (writeMemoryChecked_ok h))

/-- `ENTER`, its slot refused. -/
theorem handleEnter_error
    (h : ctx.memory.accepts (enterAddress ctx.state width) (framePointer ctx.state width)
      width.bytes = false) : ∃ r c, (AccessM.handleEnter width).toHandler ctx = .error r c := by
  unfold AccessM.handleEnter
  rw [AccessM.look_bind, AccessM.toHandler_bind]
  exact ⟨_, _, bind_error ((AccessM.toHandler_writeMemoryChecked (.enterSlot width) _ _ ctx).trans
    (writeMemoryChecked_error h))⟩

/-- When `ENTER` succeeds. -/
theorem of_handleEnter_ok {ctx' : ExecutionContext}
    (h : (AccessM.handleEnter width).toHandler ctx = .ok () ctx') :
    ctx.memory.accepts (enterAddress ctx.state width) (framePointer ctx.state width)
        width.bytes = true ∧
      ctx' = { ctx with
        state := enteredState ctx width
        memory := ctx.memory.stored (enterAddress ctx.state width) (framePointer ctx.state width)
          width.bytes } := by
  cases haccepts : ctx.memory.accepts (enterAddress ctx.state width)
    (framePointer ctx.state width) width.bytes with
  | true =>
    rw [handleEnter_ok haccepts] at h
    cases h
    exact ⟨rfl, rfl⟩
  | false =>
    obtain ⟨r, c, herror⟩ := handleEnter_error haccepts
    rw [herror] at h
    cases h

/-- The registers behind `LEAVE`. -/
def leftState (c : CpuState) (width : StackWidth) (popped : U64) : CpuState :=
  writeRegister
    (writeRegister c (width.register 4) (framePointer c width + BitVec.ofNat 64 width.bytes)
      width.bytes) (width.register 5) popped width.bytes

/-- `LEAVE`, its slot readable. -/
theorem handleLeave_ok {bytes : List Byte}
    (h : ctx.memory.read (framePointer ctx.state width) width.bytes .dataRead = some bytes) :
    (AccessM.handleLeave width).toHandler ctx =
      .ok () { ctx with state := leftState ctx.state width (fromBytes bytes) } := by
  unfold AccessM.handleLeave
  rw [AccessM.look_bind, AccessM.toHandler_bind]
  exact bind_ok ((AccessM.toHandler_readMemoryChecked (.leaveSlot width) _ ctx).trans
    (readMemoryChecked_some h))

/-- `LEAVE`, its slot unreadable. -/
theorem handleLeave_error
    (h : ctx.memory.read (framePointer ctx.state width) width.bytes .dataRead = none) :
    ∃ r c, (AccessM.handleLeave width).toHandler ctx = .error r c := by
  unfold AccessM.handleLeave
  rw [AccessM.look_bind, AccessM.toHandler_bind]
  exact ⟨_, _, bind_error ((AccessM.toHandler_readMemoryChecked (.leaveSlot width) _ ctx).trans
    (readMemoryChecked_none h))⟩

/-- `BP` behind `ENTER`. -/
theorem framePointer_enteredState :
    framePointer (enteredState ctx width) width = newFrame ctx.state width := by
  unfold enteredState
  dsimp only
  rw [framePointer_write_stack, framePointer_write, truncate_enterAddress]

/-- `SP` behind `ENTER`. -/
theorem stackPointer_enteredState :
    stackPointer (enteredState ctx width) width =
      truncate (ctx.state.rsp - BitVec.ofNat 64 width.bytes - ctx.instr.immediate16)
        width.bytes := by
  unfold enteredState
  dsimp only
  rw [stackPointer_write, truncate_truncate]
  exact truncate_sub width.bytes_le (truncate_enterAddress ctx.state width) rfl

/-- `LEAVE` moves the stack pointer back over the cell. -/
theorem stackPointer_leftState {c : CpuState} (popped : U64)
    (h : framePointer c width = newFrame ctx.state width) :
    stackPointer (leftState c width popped) width = stackPointer ctx.state width := by
  unfold leftState
  rw [stackPointer_write_frame, stackPointer_write, h]
  have hback : truncate (newFrame ctx.state width + BitVec.ofNat 64 width.bytes) width.bytes =
      truncate ctx.state.rsp width.bytes := by
    have hframe : truncate (newFrame ctx.state width) width.bytes =
        truncate (ctx.state.rsp - BitVec.ofNat 64 width.bytes) width.bytes := truncate_truncate _ _
    rw [truncate_add width.bytes_le hframe rfl, BitVec.sub_add_cancel]
  rw [hback]
  apply BitVec.eq_of_toNat_eq
  rw [truncate_toNat _ width.bytes_le, stackPointer_toNat]

/-- `BP` behind `LEAVE`. -/
theorem framePointer_leftState {c : CpuState} (popped : U64) :
    framePointer (leftState c width popped) width = truncate popped width.bytes := by
  unfold leftState
  rw [framePointer_write]

/-! ## The cell -/

/-- Addresses that differ by whole 64 KiB have no bytes in common, and no
pages. -/
theorem distant {a b : U64} (hmod : a.toNat % 2 ^ 16 = b.toNat % 2 ^ 16) (hne : a ≠ b) {i j : Nat}
    (hi : i < 8) (hj : j < 8) :
    a.toNat / kPageSize ≠ (b + BitVec.ofNat 64 i).toNat / kPageSize ∧
      a + BitVec.ofNat 64 j ≠ b + BitVec.ofNat 64 i := by
  have hnat : a.toNat ≠ b.toNat := fun h => hne (BitVec.eq_of_toNat_eq h)
  have ha := a.isLt
  have hb := b.isLt
  have hsum : ∀ (v : U64) (k : Nat), k < 8 →
      (v + BitVec.ofNat 64 k).toNat = (v.toNat + k) % 2 ^ 64 := by
    intro v k hk
    rw [BitVec.toNat_add, BitVec.toNat_ofNat, Nat.mod_eq_of_lt (by omega : k < 2 ^ 64)]
  rw [hsum b i hi]
  show a.toNat / 4096 ≠ (b.toNat + i) % 2 ^ 64 / 4096 ∧ _
  refine ⟨by omega, fun h => ?_⟩
  have hequal := congrArg BitVec.toNat h
  rw [hsum a j hj, hsum b i hi] at hequal
  omega

/-- A store to a distant address is not seen in the cell. -/
theorem read_stored_distant {m : Memory} {a b value : U64} {w : Nat} (h0 : 0 < w) (hw : w ≤ 8)
    (hplain : m.PlainSpan b w) (hmod : a.toNat % 2 ^ 16 = b.toNat % 2 ^ 16) (hne : a ≠ b) :
    (m.stored a value w).read b w .dataRead = m.read b w .dataRead := by
  refine hplain.read_congr (hplain.sameAccess (m.stored_sameAccess a value hw)) h0 fun i hi => ?_
  refine m.stored_byte_ne hw fun j hj => ?_
  exact (distant hmod hne (by omega : i < 8) (by omega : j < 8)).2

/-- A store read back. -/
theorem read_stored_self {m : Memory} {a value : U64} {w : Nat} (h0 : 0 < w) (hw : w ≤ 8)
    (hplain : m.PlainSpan a w) :
    (m.stored a value w).read a w .dataRead = some (toBytes value w) :=
  (hplain.sameAccess (m.stored_sameAccess a value hw)).read h0 (toBytes_length value w)
    (hplain.stored h0 hw value).2.1

/-! ## The condition -/

section

variable (hplain : PlainCells width ctx ctx.memory)

include hplain

/-- The first slot is plain. -/
theorem plainCells_one : ctx.memory.PlainSpan (stackCell ctx.state width 1) width.bytes :=
  hplain 1 (Nat.le_refl 1) (Nat.le_add_left 1 _)

/-- Without nesting one cell is pushed. -/
theorem read_pushFrame_zero :
    (pushFrame ctx.state width ctx.memory 0).read (stackCell ctx.state width 1) width.bytes .dataRead =
      some (toBytes (framePointer ctx.state width) width.bytes) :=
  read_stored_self width.bytes_pos width.bytes_le (plainCells_one hplain)

/-- The memory behind `ENTER` keeps the stack plain. -/
theorem plainCells_entered (a value : U64) :
    PlainCells width ctx (ctx.memory.stored a value width.bytes) :=
  fun k hk hle => (hplain k hk hle).sameAccess (ctx.memory.stored_sameAccess a value width.bytes_le)

end

/-- A nested frame has to lower the stack pointer further. -/
theorem level_eq_zero {ctx' : ExecutionContext} (hentered : Entered width ctx ctx')
    (hstate : ctx'.state = enteredState ctx width) : nestingLevel ctx.instr = 0 := by
  have hlevel : nestingLevel ctx.instr < 32 := Nat.mod_lt _ (by decide)
  have hw := width.bytes_le
  have htop := hentered.top
  rw [hstate, stackPointer_enteredState] at htop
  generalize nestingLevel ctx.instr = level at htop hlevel ⊢
  -- put back what was taken off: the level's cells remain
  have hcells : BitVec.ofNat 64 (width.bytes * (level + 1)) =
      BitVec.ofNat 64 width.bytes + BitVec.ofNat 64 (width.bytes * level) := by
    rw [Nat.mul_add, Nat.mul_one, Nat.add_comm, BitVec.ofNat_add]
  have hframe := truncate_add hw htop (rfl : truncate ctx.instr.immediate16 width.bytes = _)
  rw [BitVec.sub_add_cancel, BitVec.sub_add_cancel] at hframe
  have hraised := truncate_add hw hframe
    (rfl : truncate (BitVec.ofNat 64 (width.bytes * (level + 1))) width.bytes = _)
  rw [BitVec.sub_add_cancel, hcells, ← BitVec.add_assoc, BitVec.sub_add_cancel, truncate_eq_iff hw,
    unsignedAt_add _ _ hw] at hraised
  have hlt := unsignedAt_lt width.bytes ctx.state.rsp
  have hbound : width.bytes * level < 2 ^ (8 * width.bytes) := by
    cases width with
    | w16 => show 2 * level < 2 ^ 16; omega
    | w32 => show 4 * level < 2 ^ 32; omega
    | w64 => show 8 * level < 2 ^ 64; omega
  have hword : width.bytes * level < 2 ^ 64 :=
    lt_of_lt_of_le hbound (Nat.pow_le_pow_right (by decide) (by omega))
  have hcell : unsignedAt width.bytes (BitVec.ofNat 64 (width.bytes * level)) =
      width.bytes * level := by
    unfold unsignedAt
    rw [BitVec.toNat_ofNat, Nat.mod_eq_of_lt hword, Nat.mod_eq_of_lt hbound]
  rw [hcell] at hraised
  have hzero : width.bytes * level = 0 := by
    generalize 2 ^ (8 * width.bytes) = m at *
    by_cases hover : unsignedAt width.bytes ctx.state.rsp + width.bytes * level < m
    · rw [Nat.mod_eq_of_lt hover] at hraised
      omega
    · rw [Nat.mod_eq_sub_mod (by omega), Nat.mod_eq_of_lt (by omega)] at hraised
      omega
  exact (Nat.mul_eq_zero.mp hzero).resolve_left width.bytes_ne_zero

/-- The frame, from the cell. -/
theorem entered_of_cell (hplain : PlainCells width ctx ctx.memory) {ctx' : ExecutionContext}
    (hlevel : nestingLevel ctx.instr = 0) (hstate : ctx'.state = enteredState ctx width)
    (hcell : ctx'.memory.read (stackCell ctx.state width 1) width.bytes .dataRead =
      some (toBytes (framePointer ctx.state width) width.bytes)) : Entered width ctx ctx' := by
  refine ⟨fun k hk hle => ?_, ?_, ?_⟩
  · rw [hlevel] at hle ⊢
    obtain rfl : k = 1 := Nat.le_antisymm hle hk
    rw [hcell, read_pushFrame_zero hplain]
  · rw [hstate, framePointer_enteredState]
  · rw [hstate, stackPointer_enteredState, hlevel, Nat.zero_add, Nat.mul_one]

/-- `LEAVE` behind a kept frame. -/
theorem leave_of_cell {ctx' c : ExecutionContext} (hlevel : nestingLevel ctx.instr = 0)
    (hnew : newFrame ctx.state width = stackCell ctx.state width 1)
    (hbase : framePointer ctx'.state width = newFrame ctx.state width)
    (hcell : ctx'.memory.read (stackCell ctx.state width 1) width.bytes .dataRead =
      some (toBytes (framePointer ctx.state width) width.bytes))
    (hkept : FrameKept width ctx ctx' c) :
    ∃ c', (AccessM.handleLeave width).toHandler c = .ok () c' ∧
      framePointer c'.state width = framePointer ctx.state width ∧
      stackPointer c'.state width = stackPointer ctx.state width := by
  have hframe := hkept.base.trans hbase
  have hread : c.memory.read (framePointer c.state width) width.bytes .dataRead =
      some (toBytes (framePointer ctx.state width) width.bytes) := by
    rw [hframe, hnew, hkept.cells 1 (Nat.le_refl 1) (by omega), hcell]
  refine ⟨_, handleLeave_ok hread, ?_, stackPointer_leftState _ hframe⟩
  dsimp only
  rw [framePointer_leftState, fromBytes_toBytes_of_le _ width.bytes_le, truncate_truncate,
    truncate_of_lt width.bytes_le (framePointer_lt ctx.state width)]

/-- The fitting frame comes back. -/
theorem enterLeave_of_fits (hplain : PlainCells width ctx ctx.memory) (h : EnterFits width ctx) :
    EnterLeave width ctx := by
  obtain ⟨hlevel, hnew, hborrow⟩ := h
  have hspan := plainCells_one hplain
  -- whichever address it is stored to, the frame pointer is in the cell
  have hstore : ctx.memory.accepts (enterAddress ctx.state width) (framePointer ctx.state width)
      width.bytes = true ∧
      (ctx.memory.stored (enterAddress ctx.state width) (framePointer ctx.state width)
        width.bytes).read (stackCell ctx.state width 1) width.bytes .dataRead =
          some (toBytes (framePointer ctx.state width) width.bytes) := by
    by_cases hbelow : width = .w32 ∧ ctx.state.rsp.toNat % 2 ^ 32 < 4
    · obtain ⟨rfl, hlt⟩ := hbelow
      obtain ⟨haccepts, hheld⟩ := hborrow rfl hlt
      have haddress := enterAddress_borrow ctx.state hlt
      refine ⟨haccepts, ?_⟩
      rw [read_stored_distant (StackWidth.bytes_pos .w32) (StackWidth.bytes_le .w32) hspan]
      · exact hheld
      · rw [haddress, hnew]
        omega
      · intro heq
        rw [heq, hnew] at haddress
        omega
    · rw [enterAddress_eq ctx.state width fun hw => Nat.le_of_not_lt fun hlt => hbelow ⟨hw, hlt⟩,
        hnew]
      exact ⟨hspan.accepts width.bytes_pos width.bytes_le _,
        read_stored_self width.bytes_pos width.bytes_le hspan⟩
  obtain ⟨haccepts, hcell⟩ := hstore
  exact ⟨_, handleEnter_ok haccepts, entered_of_cell hplain hlevel rfl hcell,
    fun c hkept => leave_of_cell hlevel hnew framePointer_enteredState hcell hkept⟩

/-- And only the fitting frame. -/
theorem fits_of_enterLeave (hplain : PlainCells width ctx ctx.memory) (h : EnterLeave width ctx) :
    EnterFits width ctx := by
  obtain ⟨ctx', hrun, hentered, hleave⟩ := h
  obtain ⟨haccepts, hctx'⟩ := of_handleEnter_ok hrun
  have hspan := plainCells_one hplain
  have hlevel := level_eq_zero hentered (by rw [hctx'])
  have hnew : newFrame ctx.state width = stackCell ctx.state width 1 := by
    by_contra hne
    have hmod := newFrame_mod ctx.state width
    have hbytes := width.bytes_le
    have hframe := plainCells_entered hplain (enterAddress ctx.state width)
      (framePointer ctx.state width)
    -- a use of the stack that unmaps the page the frame pointer names
    let c : ExecutionContext := { ctx' with
      memory := ctx'.memory.withoutPage ((newFrame ctx.state width).toNat / kPageSize) }
    have haway : ∀ i < width.bytes, (newFrame ctx.state width).toNat / kPageSize ≠
        (stackCell ctx.state width 1 + BitVec.ofNat 64 i).toNat / kPageSize :=
      fun i hi => (distant hmod hne (by omega : i < 8) (by omega : 0 < 8)).1
    have hcell : ctx'.memory.PlainSpan (stackCell ctx.state width 1) width.bytes := by
      rw [hctx']
      exact hframe 1 (Nat.le_refl 1) (by omega)
    have hcleared := hcell.withoutPage haway
    have hone : ∀ k, 1 ≤ k → k ≤ nestingLevel ctx.instr + 1 → k = 1 := by omega
    have hkept : FrameKept width ctx ctx' c := by
      refine ⟨rfl, rfl, fun k hk hle => ?_, fun k hk hle => ?_⟩
      · rw [hone k hk hle]
        exact hcleared
      · rw [hone k hk hle]
        exact hcell.read_congr hcleared width.bytes_pos fun i hi =>
          ctx'.memory.withoutPage_byteAt (haway i hi)
    obtain ⟨c', hleft, -⟩ := hleave c hkept
    have hbase : framePointer c.state width = newFrame ctx.state width := hentered.base
    have hfault : c.memory.read (framePointer c.state width) width.bytes .dataRead = none := by
      rw [hbase]
      exact Memory.withoutPage_read hcell.noPassthrough.1 width.bytes_pos
    obtain ⟨r, c'', herror⟩ := handleLeave_error hfault
    rw [herror] at hleft
    cases hleft
  refine ⟨hlevel, hnew, ?_⟩
  rintro rfl hlt
  refine ⟨haccepts, ?_⟩
  have hcells := hentered.cells 1 (Nat.le_refl 1) (by omega)
  rw [hlevel, read_pushFrame_zero hplain, hctx'] at hcells
  have haddress := enterAddress_borrow ctx.state hlt
  rw [read_stored_distant (StackWidth.bytes_pos .w32) (StackWidth.bytes_le .w32) hspan] at hcells
  · exact hcells
  · rw [haddress, hnew]
    omega
  · intro heq
    rw [heq, hnew] at haddress
    omega

end

/-- `ENTER 16, level` in 64-bit mode, with a page of stack below 0x2000. -/
def enterContext (level : U64) : ExecutionContext where
  state := (({} : CpuState).setGpr 4 0x2000#64).setGpr 5 0x1234#64
  memory := ({} : Memory).map 0x1000#64 0x1000#64 kMemoryPermissionReadWrite
  instr := { code := .other 0, length := 4, immediate16 := 16#64, immediate8 := level }
  nextRip := 4#64

/-- The stack of the context is plain. -/
theorem enterContext_plain {level : U64} (h : level.toNat % 32 ≤ 1) :
    PlainCells .w64 (enterContext level) (enterContext level).memory := by
  have hcells : ∀ (k : Fin 3), k ≠ 0 → ∀ i < 8, accessible (hasPermission · .dataWrite)
      (enterContext 0#64).memory.pages
        (stackCell (enterContext 0#64).state .w64 k + BitVec.ofNat 64 i) = true := by
    decide +kernel
  intro k hk hle
  have hlevel : k ≤ level.toNat % 32 + 1 := hle
  refine ⟨⟨rfl, rfl⟩, rfl, fun _ _ _ => rfl, ?_⟩
  exact hcells ⟨k, by omega⟩ (fun h => by cases h; omega)

end Seven
