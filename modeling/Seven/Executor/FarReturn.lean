import Seven.Executor.DemandPaging
import Seven.Handlers.InterruptReturn

/-!
# Far calls and far returns

A far call pushes the offset to return to and then a selector; a far return
pops an offset and then a selector. What is pushed first is popped last, so
the return takes its offset from where the call put the selector — and the
selector is the target's, not the caller's. On a stack that does not wrap the
two frames are the byte strings `selector ++ offset` and `offset ++ caller's
selector`, and they are equal for one offset only:

> `far_call_retf`: the call returns exactly when the target's selector is the
> caller's and the return address is that selector, repeated.

Where the stack wraps in the caller's mode or is cut to the callee's, the
return reads other bytes than the call wrote. `FarFrameReads` is the condition
in general, over the bytes of the stack as the call leaves it.
-/

namespace Seven

open Seven.Lib

/-! ## The call -/

/-- The offset width of a far call. -/
def StackShape.farWidth : StackShape → Option StackWidth
  | .callFarMem w | .callFarPtr w => some w
  | _ => none

/-- Offset and selector a far call goes to; `none` when its operand cannot be
read. -/
def StackShape.farTarget (ctx : ExecutionContext) : StackShape → Option (U64 × BitVec 16)
  | .callFarMem w => do
    let target ← readOperand ctx 0 w.bytes
    let bytes ← ctx.memory.read
      (memoryAddress ctx.state ctx.instr + BitVec.ofNat 64 w.bytes) 2 .dataRead
    return (target, (fromBytes bytes).setWidth 16)
  | .callFarPtr w =>
    some (if w.bytes = 2 then ctx.instr.farBranch16 else ctx.instr.farBranch32,
      ctx.instr.farBranchSelector)
  | _ => none

/-- Whatever the far pointer comes from, the frame is pushed and the jump
made. -/
theorem StackShape.handler_far {shape : StackShape} {ctx : ExecutionContext} {w : StackWidth}
    {target : U64} {selector : BitVec 16} (hw : shape.farWidth = some w)
    (htarget : shape.farTarget ctx = some (target, selector)) :
    shape.handler ctx = (pushFarReturn selector ctx.nextRip w.bytes >>= fun _ =>
      farJumpTo (modeForFarWidth w.bytes) selector target) ctx := by
  cases shape with
  | callFarMem w' =>
    cases hw
    obtain ⟨offset, hoffset, hrest⟩ := Option.bind_eq_some_iff.mp htarget
    obtain ⟨bytes, hbytes, hpair⟩ := Option.bind_eq_some_iff.mp hrest
    cases hpair
    have hget : (get : HandlerM ExecutionContext) ctx = .ok ctx ctx := rfl
    have hfar : readFarMem w.bytes ctx =
        .ok (target, (fromBytes bytes).setWidth 16) ctx := by
      unfold readFarMem
      rw [bind_ok (readOperandChecked_ok_iff.mpr hoffset), bind_ok hget,
        bind_ok (readMemoryChecked_some hbytes)]
      rfl
    show Seven.callFarMem w.bytes ctx = _
    unfold Seven.callFarMem
    rw [bind_ok hfar]
    rfl
  | callFarPtr w' =>
    cases hw
    cases htarget
    rfl
  -- A form with no far width is excluded by it.
  | pushOperand | pushImm | pushSegment | pushFlags | pushAll | popOperand | popfq | callRm |
    callRm32 | callRel | ret | retf | iret | int | into => cases hw

/-- The state the target starts in, before the step masks it. -/
def farEntered (s : CpuState) (w : StackWidth) (selector : BitVec 16) (target : U64) : CpuState :=
  let s := { (s.pushed w.bytes).pushed 2 with mode := modeForFarWidth w.bytes }
  let s := s.setSreg 1 selector
  { s with rip := target }

/-! ## The stack the call leaves and the return reads -/

section frame

variable (ctx : ExecutionContext) (selector : BitVec 16) (w : StackWidth)

/-- The bytes of memory once the frame is pushed. -/
def farFrame (x : U64) : Option Byte :=
  (toBytes (selector.setWidth 64) 2)[(x - ((ctx.state.pushed w.bytes).pushed 2).rsp).toNat]?.or
    ((toBytes ctx.nextRip w.bytes)[(x - (ctx.state.pushed w.bytes).rsp).toNat]?.or
      (byteAt ctx.memory.pages x))

/-- Where the return finds its offset: at the stack pointer of the target,
cut to its mode. -/
def farOffsetAt (s : CpuState) (w : StackWidth) : U64 :=
  truncate ((s.pushed w.bytes).pushed 2).rsp w.bytes

/-- Where it finds its selector. -/
def farSelectorAt (s : CpuState) (w : StackWidth) : U64 :=
  truncate (farOffsetAt s w + BitVec.ofNat 64 w.bytes) w.bytes

/-- The slots of the call and those of the return are plain memory. -/
structure PlainFarStack : Prop where
  offset : ctx.memory.PlainSpan (ctx.state.pushed w.bytes).rsp w.bytes
  selector : ctx.memory.PlainSpan ((ctx.state.pushed w.bytes).pushed 2).rsp 2
  popOffset : ctx.memory.PlainSpan (farOffsetAt ctx.state w) w.bytes
  popSelector : ctx.memory.PlainSpan (farSelectorAt ctx.state w) 2

/-- What the return reads in the pushed frame is the caller's instruction
pointer and selector, and the stack pointer it ends with the caller's. -/
structure FarFrameReads : Prop where
  rip : ∀ i < w.bytes, farFrame ctx selector w (farOffsetAt ctx.state w + BitVec.ofNat 64 i) =
    (toBytes ctx.nextRip w.bytes)[i]?
  rip_fits : ctx.nextRip.toNat < 2 ^ (8 * w.bytes)
  cs : ∀ i < 2, farFrame ctx selector w (farSelectorAt ctx.state w + BitVec.ofNat 64 i) =
    (toBytes ((ctx.state.sreg 1).setWidth 64) 2)[i]?
  rsp : truncate (farSelectorAt ctx.state w + 2#64) w.bytes = ctx.state.rsp

end frame

/-- The far call, and in the state it leaves the far return of the same
width, bring back the caller's instruction pointer, selector and stack
pointer. -/
def ReturnsToCaller (shape : StackShape) (w : StackWidth) (ctx : ExecutionContext) : Prop :=
  ∃ called, shape.handler ctx = .ok () called ∧
    ∀ callee : ExecutionContext, callee.state = retire called → callee.memory = called.memory →
      ∃ returned, (StackShape.retf w false).handler callee = .ok () returned ∧
        (retire returned).rip = ctx.nextRip ∧
        (retire returned).sreg 1 = ctx.state.sreg 1 ∧
        (retire returned).rsp = ctx.state.rsp

/-- The mode of a width has that width. -/
theorem farMode_width (w : StackWidth) :
    instructionPointerWidth (modeForFarWidth w.bytes) = w.bytes := by
  cases w <;> rfl

/-- The stack pointer of that mode. -/
theorem maskStackPointer_far {s : CpuState} {w : StackWidth}
    (hmode : s.mode = modeForFarWidth w.bytes) (value : U64) :
    maskStackPointer s value = truncate value w.bytes := by
  show value &&& maskForWidth (instructionPointerWidth s.mode) = _
  rw [hmode, farMode_width]
  rfl

/-- The instruction pointer of that mode. -/
theorem maskInstructionPointer_far {s : CpuState} {w : StackWidth}
    (hmode : s.mode = modeForFarWidth w.bytes) (value : U64) :
    maskInstructionPointer s value = truncate value w.bytes := by
  show value &&& maskForWidth (instructionPointerWidth s.mode) = _
  rw [hmode, farMode_width]
  rfl

/-- The call on a plain stack: the frame is in memory, byte for byte. -/
theorem farCall_ok {shape : StackShape} {ctx : ExecutionContext} {w : StackWidth} {target : U64}
    {selector : BitVec 16} (hw : shape.farWidth = some w)
    (htarget : shape.farTarget ctx = some (target, selector)) (hstack : PlainFarStack ctx w) :
    ∃ m, shape.handler ctx = .ok () { ctx with
          state := farEntered ctx.state w selector target
          memory := m
          controlFlowTaken := true } ∧
      Memory.SameAccess ctx.memory m ∧ ∀ x, byteAt m.pages x = farFrame ctx selector w x := by
  have hle := w.bytes_le
  have htwo : (2 : Nat) ≤ 8 := by omega
  -- The offset is pushed first, the selector below it; the second store keeps the first.
  obtain ⟨haccepts₁, _⟩ := hstack.offset.stored w.bytes_pos hle ctx.nextRip
  have hsame₁ := ctx.memory.stored_sameAccess (ctx.state.pushed w.bytes).rsp ctx.nextRip hle
  have hselector := hstack.selector.sameAccess hsame₁
  obtain ⟨haccepts₂, _⟩ := hselector.stored Nat.two_pos htwo (selector.setWidth 64)
  have hsame₂ := Memory.stored_sameAccess
    (ctx.memory.stored (ctx.state.pushed w.bytes).rsp ctx.nextRip w.bytes)
    ((ctx.state.pushed w.bytes).pushed 2).rsp (selector.setWidth 64) htwo
  refine ⟨_, ?_, hsame₁.trans hsame₂, fun x => ?_⟩
  · have hpush : pushFarReturn selector ctx.nextRip w.bytes ctx = _ :=
      (bind_ok (pushSlot_ok w.bytes_mem_pop haccepts₁)).trans
        (bind_ok (@pushSlot_ok _ unsupportedInstruction _ 2 (by decide) _ haccepts₂))
    rw [StackShape.handler_far hw htarget, bind_ok hpush]
    rfl
  · rw [hselector.stored_byte Nat.two_pos htwo, hstack.offset.stored_byte w.bytes_pos hle]
    rfl

/-! ## The return -/

/-- The state a far return makes of what it popped. -/
def farReturned (w : StackWidth) (target selector : U64) (s : CpuState) : CpuState :=
  let s := { s with mode := modeForFarWidth w.bytes }
  let s := s.setSreg 1 (selector.setWidth 16)
  let s := { s with rip := maskInstructionPointer s target }
  s.setRsp (maskStackPointer s (s.rsp + 0#64))

/-- `RETF`, its two slots readable. -/
theorem retfWidth_ok {w : StackWidth} {ctx : ExecutionContext} {target selector : List Byte}
    (htarget : ctx.memory.read ctx.state.rsp w.bytes .dataRead = some target)
    (hselector : ctx.memory.read (ctx.state.popped w.bytes).rsp 2 .dataRead = some selector) :
    (StackShape.retf w false).handler ctx = .ok () { ctx with
      state := farReturned w (fromBytes target) (fromBytes selector)
        ((ctx.state.popped w.bytes).popped 2)
      controlFlowTaken := true } := by
  have hpop₁ := popWidth_some w.bytes_mem_pop htarget
  have hpop₂ := @popWidth_some 2 (by decide) { ctx with state := ctx.state.popped w.bytes } _
    hselector
  show retfWidth w.bytes false ctx = _
  unfold retfWidth
  rw [bind_ok hpop₁, bind_ok hpop₂]
  rfl

/-- The bytes of two spans of one length agree when the words do. -/
theorem bytes_eq_iff {bytes other : List Byte} {n : Nat} (hlen : bytes.length = n)
    (hother : other.length = n) : bytes = other ↔ ∀ i < n, bytes[i]? = other[i]? := by
  constructor
  · rintro rfl i _
    rfl
  · intro h
    apply List.ext_getElem?
    intro i
    by_cases hi : i < n
    · exact h i hi
    · rw [List.getElem?_eq_none (by omega), List.getElem?_eq_none (by omega)]

/-- A selector is its two bytes. -/
theorem selector_eq_iff {bytes : List Byte} (hlen : bytes.length = 2) (selector : BitVec 16) :
    (fromBytes bytes).setWidth 16 = selector ↔ bytes = toBytes (selector.setWidth 64) 2 := by
  constructor
  · rintro rfl
    have hfits := ((fromBytes_eq_iff hlen (by omega) _).mp rfl).2
    have hword : fromBytes bytes = ((fromBytes bytes).setWidth 16).setWidth 64 := by
      apply BitVec.eq_of_toNat_eq
      rw [BitVec.toNat_setWidth, BitVec.toNat_setWidth]
      omega
    exact ((fromBytes_eq_iff hlen (by omega) _).mp hword).1
  · rintro rfl
    exact selector_pushed selector

/-- **What the return brings back** is what it reads in the frame. -/
theorem farCallee_returns {ctx callee : ExecutionContext} {w : StackWidth}
    {selector : BitVec 16} (hstack : PlainFarStack ctx w)
    (hsame : Memory.SameAccess ctx.memory callee.memory)
    (hbytes : ∀ x, byteAt callee.memory.pages x = farFrame ctx selector w x)
    (hmode : callee.state.mode = modeForFarWidth w.bytes)
    (hrsp : callee.state.rsp = farOffsetAt ctx.state w) :
    ∃ returned, (StackShape.retf w false).handler callee = .ok () returned ∧
      ((retire returned).rip = ctx.nextRip ∧ (retire returned).sreg 1 = ctx.state.sreg 1 ∧
        (retire returned).rsp = ctx.state.rsp ↔ FarFrameReads ctx selector w) := by
  have hrsp₂ : (callee.state.popped w.bytes).rsp = farSelectorAt ctx.state w := by
    show maskStackPointer callee.state (callee.state.rsp + _) = _
    rw [maskStackPointer_far hmode, hrsp]
    rfl
  obtain ⟨offset, hoffset, hlen, hoffsetBytes⟩ :=
    (hstack.popOffset.sameAccess hsame).read_bytes w.bytes_pos
  obtain ⟨cs, hcs, hcsLen, hcsBytes⟩ :=
    (hstack.popSelector.sameAccess hsame).read_bytes Nat.two_pos
  refine ⟨_, retfWidth_ok (by rw [hrsp]; exact hoffset) (by rw [hrsp₂]; exact hcs), ?_⟩
  have hcap := truncate_fromBytes hlen w.bytes_le
  let returned : ExecutionContext := { callee with
    state := farReturned w (fromBytes offset) (fromBytes cs)
      ((callee.state.popped w.bytes).popped 2)
    controlFlowTaken := true }
  have hrip : (retire returned).rip = fromBytes offset := by
    show maskInstructionPointer _ (maskInstructionPointer _ (fromBytes offset)) = _
    rw [@maskInstructionPointer_far _ w rfl, @maskInstructionPointer_far _ w rfl, hcap, hcap]
  have hsreg : (retire returned).sreg 1 = (fromBytes cs).setWidth 16 := rfl
  have hrspEnd : (retire returned).rsp =
      truncate (farSelectorAt ctx.state w + 2#64) w.bytes := by
    show maskStackPointer _ (maskStackPointer _ (maskStackPointer (callee.state.popped w.bytes)
      ((callee.state.popped w.bytes).rsp + BitVec.ofNat 64 2) + 0#64)) = _
    rw [BitVec.add_zero, hrsp₂, @maskStackPointer_far _ w rfl, @maskStackPointer_far _ w rfl,
      @maskStackPointer_far (callee.state.popped w.bytes) w hmode, truncate_truncate,
      truncate_truncate]
  show (retire returned).rip = _ ∧ (retire returned).sreg 1 = _ ∧ (retire returned).rsp = _ ↔ _
  rw [hrip, hsreg, hrspEnd, fromBytes_eq_iff hlen w.bytes_le, selector_eq_iff hcsLen,
    bytes_eq_iff hlen (toBytes_length _ _), bytes_eq_iff hcsLen (toBytes_length _ _)]
  -- the bytes that were read are those of the frame
  have hreadRip : (∀ i < w.bytes, offset[i]? = (toBytes ctx.nextRip w.bytes)[i]?) ↔
      ∀ i < w.bytes, farFrame ctx selector w (farOffsetAt ctx.state w + BitVec.ofNat 64 i) =
        (toBytes ctx.nextRip w.bytes)[i]? :=
    forall₂_congr fun i hi => by rw [← hoffsetBytes i hi, hbytes]
  have hreadCs : (∀ i < 2, cs[i]? = (toBytes ((ctx.state.sreg 1).setWidth 64) 2)[i]?) ↔
      ∀ i < 2, farFrame ctx selector w (farSelectorAt ctx.state w + BitVec.ofNat 64 i) =
        (toBytes ((ctx.state.sreg 1).setWidth 64) 2)[i]? :=
    forall₂_congr fun i hi => by rw [← hcsBytes i hi, hbytes]
  rw [hreadRip, hreadCs]
  exact ⟨fun ⟨⟨h1, h2⟩, h3, h4⟩ => ⟨h1, h2, h3, h4⟩,
    fun h => ⟨⟨h.rip, h.rip_fits⟩, h.cs, h.rsp⟩⟩

/-! ## On a stack that does not wrap -/

/-- There is room for the frame below the stack pointer, which is within the
caller's and the callee's mode. -/
structure FarStackFits (s : CpuState) (w : StackWidth) : Prop where
  room : w.bytes + 2 ≤ s.rsp.toNat
  caller : s.rsp.toNat < 2 ^ (8 * stackPointerWidth s.mode)
  callee : s.rsp.toNat < 2 ^ (8 * w.bytes)

/-- The offset that is the selector over and over. -/
def repeatSelector (selector : BitVec 16) (w : StackWidth) : U64 :=
  fromBytes (List.replicate (w.bytes / 2) (toBytes (selector.setWidth 64) 2)).flatten

/-- A word that a shift by two bytes leaves the same is those two bytes over
and over. -/
theorem append_eq_append_iff_replicate {α : Type} {u v : List α} (huv : u.length = v.length) :
    ∀ {n : Nat} {x : List α}, x.length = n * u.length →
      (u ++ x = x ++ v ↔ v = u ∧ x = (List.replicate n u).flatten) := by
  intro n
  induction n with
  | zero =>
    intro x hx
    rw [Nat.zero_mul, List.length_eq_zero_iff] at hx
    subst hx
    rw [List.append_nil, List.nil_append]
    exact ⟨fun h => ⟨h.symm, rfl⟩, fun h => h.1.symm⟩
  | succ n ih =>
    intro x hx
    rw [Nat.succ_mul] at hx
    -- `x` begins with `u`, and its rest has the same property
    constructor
    · intro h
      obtain ⟨y, rfl⟩ : ∃ y, x = u ++ y := by
        have hprefix : u <+: x := by
          refine List.prefix_of_prefix_length_le ⟨x, h⟩ ⟨v, rfl⟩ (by omega)
        obtain ⟨y, hy⟩ := hprefix
        exact ⟨y, hy.symm⟩
      rw [List.append_assoc, List.append_right_inj] at h
      rw [List.length_append] at hx
      obtain ⟨hv, hy⟩ := (ih (by omega)).mp h
      exact ⟨hv, by rw [hy]; rfl⟩
    · rintro ⟨rfl, rfl⟩
      have hrest := (@ih (List.replicate n v).flatten (by simp)).mpr ⟨rfl, rfl⟩
      show v ++ (v ++ (List.replicate n v).flatten) = v ++ (List.replicate n v).flatten ++ v
      rw [List.append_assoc, hrest]

section fits

variable {ctx : ExecutionContext} {w : StackWidth} {selector : BitVec 16}

/-- A push with room, as a number. -/
theorem pushed_toNat {s : CpuState} {k : Nat} (hroom : k ≤ s.rsp.toNat)
    (hfits : s.rsp.toNat < 2 ^ (8 * stackPointerWidth s.mode)) :
    (s.pushed k).rsp.toNat = s.rsp.toNat - k := by
  have hb := s.rsp.isLt
  show (maskStackPointer s (s.rsp - BitVec.ofNat 64 k)).toNat = _
  rw [maskStackPointer_toNat, BitVec.toNat_sub, BitVec.toNat_ofNat,
    show (2 ^ 64 - k % 2 ^ 64 + s.rsp.toNat) % 2 ^ 64 = s.rsp.toNat - k by omega]
  exact Nat.mod_eq_of_lt (by omega)

/-- The places of the frame, from the bottom. -/
theorem FarStackFits.places {s : CpuState} (h : FarStackFits s w) :
    (s.pushed w.bytes).rsp = ((s.pushed w.bytes).pushed 2).rsp + 2#64 ∧
      farOffsetAt s w = ((s.pushed w.bytes).pushed 2).rsp ∧
      farSelectorAt s w = ((s.pushed w.bytes).pushed 2).rsp + BitVec.ofNat 64 w.bytes ∧
      truncate (farSelectorAt s w + 2#64) w.bytes = s.rsp := by
  -- Neither push wraps: the stack has room for both slots.
  have hroom := h.room
  have hcallee := h.callee
  have hb := s.rsp.isLt
  have hw := w.bytes_le
  have h₁ : (s.pushed w.bytes).rsp.toNat = s.rsp.toNat - w.bytes :=
    pushed_toNat (by omega) h.caller
  have h₂ : ((s.pushed w.bytes).pushed 2).rsp.toNat = s.rsp.toNat - w.bytes - 2 := by
    rw [← h₁]
    apply pushed_toNat
    · omega
    · have hmode : (s.pushed w.bytes).mode = s.mode := rfl
      have hcaller := h.caller
      rw [hmode]
      omega
  have hoffset : farOffsetAt s w = ((s.pushed w.bytes).pushed 2).rsp :=
    truncate_of_lt hw (by omega)
  have hsum : (((s.pushed w.bytes).pushed 2).rsp + BitVec.ofNat 64 w.bytes).toNat =
      s.rsp.toNat - 2 := by
    rw [BitVec.toNat_add, BitVec.toNat_ofNat]
    omega
  have hselector : farSelectorAt s w =
      ((s.pushed w.bytes).pushed 2).rsp + BitVec.ofNat 64 w.bytes := by
    unfold farSelectorAt
    rw [hoffset]
    exact truncate_of_lt hw (by omega)
  have hrsp : farSelectorAt s w + 2#64 = s.rsp := by
    apply BitVec.eq_of_toNat_eq
    rw [hselector, BitVec.toNat_add, hsum]
    show (s.rsp.toNat - 2 + 2) % 2 ^ 64 = s.rsp.toNat
    omega
  -- The two pushes read back from above: the selector, the offset, then the old stack pointer.
  refine ⟨?_, hoffset, hselector, ?_⟩
  · apply BitVec.eq_of_toNat_eq
    rw [BitVec.toNat_add, h₁, h₂]
    show _ = (s.rsp.toNat - w.bytes - 2 + 2) % 2 ^ 64
    omega
  · rw [hrsp]
    exact truncate_of_lt hw h.callee

/-- The frame, from the bottom: the selector and on it the return address. -/
theorem FarStackFits.farFrame_eq (h : FarStackFits ctx.state w) {i : Nat} (hi : i < w.bytes + 2) :
    farFrame ctx selector w (((ctx.state.pushed w.bytes).pushed 2).rsp + BitVec.ofNat 64 i) =
      (toBytes (selector.setWidth 64) 2 ++ toBytes ctx.nextRip w.bytes)[i]? := by
  have hw := w.bytes_le
  obtain ⟨hoffset, _⟩ := h.places
  unfold farFrame
  rw [hoffset]
  generalize ((ctx.state.pushed w.bytes).pushed 2).rsp = bottom
  have hbelow : (bottom + BitVec.ofNat 64 i - bottom).toNat = i := by
    rw [BitVec.add_comm, BitVec.add_sub_cancel, BitVec.toNat_ofNat]
    omega
  rw [hbelow]
  by_cases hlow : i < 2
  · rw [List.getElem?_append_left (by rw [toBytes_length]; exact hlow),
      List.getElem?_eq_getElem (by rw [toBytes_length]; exact hlow)]
    rfl
  · have habove : (bottom + BitVec.ofNat 64 i - (bottom + 2#64)).toNat = i - 2 := by
      bv_omega
    rw [List.getElem?_append_right (by rw [toBytes_length]; omega), toBytes_length, habove,
      List.getElem?_eq_none (by rw [toBytes_length]; omega),
      List.getElem?_eq_getElem (by rw [toBytes_length]; omega)]
    rfl

/-- The pushed frame is the one the return expects exactly when the target's
selector is the caller's and the return address repeats it. -/
theorem FarStackFits.farFrameReads_iff (h : FarStackFits ctx.state w) :
    FarFrameReads ctx selector w ↔
      selector = ctx.state.sreg 1 ∧ ctx.nextRip = repeatSelector selector w := by
  have hw := w.bytes_le
  obtain ⟨_, hoffsetAt, hselectorAt, hrsp⟩ := h.places
  have hlen₁ : (toBytes (selector.setWidth 64) 2 ++ toBytes ctx.nextRip w.bytes).length =
      w.bytes + 2 := by
    rw [List.length_append, toBytes_length, toBytes_length, Nat.add_comm]
  have hlen₂ : (toBytes ctx.nextRip w.bytes ++ toBytes ((ctx.state.sreg 1).setWidth 64) 2).length =
      w.bytes + 2 := by
    rw [List.length_append, toBytes_length, toBytes_length]
  -- the two frames as byte strings
  have hword : FarFrameReads ctx selector w ↔
      toBytes (selector.setWidth 64) 2 ++ toBytes ctx.nextRip w.bytes =
          toBytes ctx.nextRip w.bytes ++ toBytes ((ctx.state.sreg 1).setWidth 64) 2 ∧
        ctx.nextRip.toNat < 2 ^ (8 * w.bytes) := by
    rw [bytes_eq_iff hlen₁ hlen₂]
    constructor
    · intro hreads
      refine ⟨fun i hi => ?_, hreads.rip_fits⟩
      rw [← h.farFrame_eq hi]
      by_cases hlow : i < w.bytes
      · rw [List.getElem?_append_left (by rw [toBytes_length]; exact hlow), ← hreads.rip i hlow,
          hoffsetAt]
      · have hcs := hreads.cs (i - w.bytes) (by omega)
        rw [hselectorAt, BitVec.add_assoc, ← BitVec.ofNat_add,
          show w.bytes + (i - w.bytes) = i by omega] at hcs
        rw [hcs, List.getElem?_append_right (by rw [toBytes_length]; omega), toBytes_length]
    · rintro ⟨hframe, hfits⟩
      refine ⟨fun i hi => ?_, hfits, fun i hi => ?_, hrsp⟩
      · rw [hoffsetAt, h.farFrame_eq (by omega), hframe i (by omega),
          List.getElem?_append_left (by rw [toBytes_length]; exact hi)]
      · rw [hselectorAt, BitVec.add_assoc, ← BitVec.ofNat_add, h.farFrame_eq (by omega),
          hframe _ (by omega), List.getElem?_append_right (by rw [toBytes_length]; omega),
          toBytes_length, Nat.add_sub_cancel_left]
  have hhalf : w.bytes = w.bytes / 2 * 2 := by cases w <;> rfl
  have hflat : (List.replicate (w.bytes / 2) (toBytes (selector.setWidth 64) 2)).flatten.length =
      w.bytes := by
    rw [List.length_flatten, List.map_replicate, toBytes_length, List.sum_replicate_nat]
    exact hhalf.symm
  have hcs : toBytes ((ctx.state.sreg 1).setWidth 64) 2 = toBytes (selector.setWidth 64) 2 ↔
      selector = ctx.state.sreg 1 := by
    rw [eq_comm, ← selector_eq_iff (toBytes_length _ _), selector_pushed]
  have hrip : ctx.nextRip = repeatSelector selector w ↔
      toBytes ctx.nextRip w.bytes =
          (List.replicate (w.bytes / 2) (toBytes (selector.setWidth 64) 2)).flatten ∧
        ctx.nextRip.toNat < 2 ^ (8 * w.bytes) := by
    rw [eq_comm, repeatSelector, fromBytes_eq_iff hflat hw, eq_comm]
  rw [hword, append_eq_append_iff_replicate (by rw [toBytes_length, toBytes_length])
    (by rw [toBytes_length, toBytes_length]; exact hhalf), hcs, hrip, and_assoc]

end fits

/-! ## The round trip -/

/-- When a far return comes back to the caller. -/
theorem returnsToCaller_iff {ctx : ExecutionContext} {shape : StackShape} {w : StackWidth}
    {target : U64} {selector : BitVec 16} (hw : shape.farWidth = some w)
    (htarget : shape.farTarget ctx = some (target, selector)) (hstack : PlainFarStack ctx w) :
    ReturnsToCaller shape w ctx ↔ FarFrameReads ctx selector w := by
  obtain ⟨m, hcall, hsame, hbytes⟩ := farCall_ok hw htarget hstack
  constructor
  · rintro ⟨called, hcalled, hreturn⟩
    have heq := (EStateM.Result.ok.inj (hcall.symm.trans hcalled)).2
    obtain ⟨returned, hrun, hback⟩ := hreturn { called with state := retire called } rfl rfl
    obtain ⟨returned', hrun', hiff⟩ := @farCallee_returns ctx
      { called with state := retire called } w selector hstack
      (by rw [← heq]; exact hsame) (by rw [← heq]; exact hbytes) (by rw [← heq]; rfl)
      (by rw [← heq]; exact @maskStackPointer_far _ w rfl _)
    cases hrun.symm.trans hrun'
    exact hiff.mp hback
  · intro hreads
    refine ⟨_, hcall, fun callee hstate hmemory => ?_⟩
    obtain ⟨returned, hrun, hiff⟩ := @farCallee_returns ctx callee w selector hstack
      (by rw [hmemory]; exact hsame) (by rw [hmemory]; exact hbytes) (by rw [hstate]; rfl)
      (by rw [hstate]; exact @maskStackPointer_far _ w rfl _)
    exact ⟨returned, hrun, hiff.mpr hreads⟩

/-- **A far call followed by the far return** of the same width comes back to
the caller exactly when the frame the call pushed reads, offset first, as the
caller's own instruction pointer and selector; on a stack that does not wrap,
exactly when the target's selector is the caller's and the return address is
that selector over and over. -/
theorem far_call_retf {ctx : ExecutionContext} {c : StackCode} {w : StackWidth} {target : U64}
    {selector : BitVec 16} (hw : c.shape.farWidth = some w)
    (htarget : c.shape.farTarget ctx = some (target, selector)) (hstack : PlainFarStack ctx w) :
    (ReturnsToCaller c.shape w ctx ↔ FarFrameReads ctx selector w) ∧
      (FarStackFits ctx.state w →
        (ReturnsToCaller c.shape w ctx ↔
          selector = ctx.state.sreg 1 ∧ ctx.nextRip = repeatSelector selector w)) := by
  have hreturns := returnsToCaller_iff hw htarget hstack
  exact ⟨hreturns, fun hfits => hreturns.trans hfits.farFrameReads_iff⟩

/-- `CALL selector:0040` in real mode, at the end of the code in front of
`nextRip`. -/
def farCaller (cs selector : BitVec 16) (nextRip : U64) : ExecutionContext where
  state := ({ mode := .real16, sreg := fun i => if i = 1 then cs else 0#16 } : CpuState).setRsp
    0x2000#64
  memory := ({} : Memory).map 0x1000#64 0x1000#64 kMemoryPermissionReadWrite
  instr :=
    { code := .stack .callPtr1616, length := 5, farBranchSelector := selector
      farBranch16 := 0x40#64 }
  nextRip := nextRip

/-- The caller's stack is plain. -/
theorem farCaller_plain (cs selector : BitVec 16) (nextRip : U64) :
    PlainFarStack (farCaller cs selector nextRip) .w16 := by
  -- The stack page is writable, watched by nothing and not code.
  have hplain : ∀ a, (∀ i < 2, accessible (hasPermission · .dataWrite)
        (({} : Memory).map 0x1000#64 0x1000#64 kMemoryPermissionReadWrite).pages
        (a + BitVec.ofNat 64 i) = true) →
      (farCaller cs selector nextRip).memory.PlainSpan a 2 :=
    fun a hwritable => ⟨⟨rfl, rfl⟩, rfl, fun _ _ _ => rfl, hwritable⟩
  have hlow := hplain 0x1FFC#64 (by decide +kernel)
  have hhigh := hplain 0x1FFE#64 (by decide +kernel)
  have hoffset : ((farCaller cs selector nextRip).state.pushed 2).rsp = 0x1FFE#64 := by
    show maskStackPointer (farCaller cs selector nextRip).state (0x2000#64 - 2#64) = _
    rw [@maskStackPointer_far _ .w16 rfl]
    decide
  have hselector : (((farCaller cs selector nextRip).state.pushed 2).pushed 2).rsp =
      0x1FFC#64 := by
    show maskStackPointer ((farCaller cs selector nextRip).state.pushed 2)
      (((farCaller cs selector nextRip).state.pushed 2).rsp - 2#64) = _
    rw [@maskStackPointer_far _ .w16 rfl, hoffset]
    decide
  have hoffsetAt : farOffsetAt (farCaller cs selector nextRip).state .w16 = 0x1FFC#64 := by
    show truncate (((farCaller cs selector nextRip).state.pushed 2).pushed 2).rsp 2 = _
    rw [hselector]
    decide
  have hselectorAt : farSelectorAt (farCaller cs selector nextRip).state .w16 = 0x1FFE#64 := by
    unfold farSelectorAt
    rw [hoffsetAt]
    decide
  exact ⟨hoffset.symm ▸ hhigh, hselector.symm ▸ hlow, hoffsetAt.symm ▸ hlow,
    hselectorAt.symm ▸ hhigh⟩

/-- And fits. -/
theorem farCaller_fits (cs selector : BitVec 16) (nextRip : U64) :
    FarStackFits (farCaller cs selector nextRip).state .w16 where
  room := Nat.le_of_ble_eq_true rfl
  caller := Nat.le_of_ble_eq_true rfl
  callee := Nat.le_of_ble_eq_true rfl

/-- A call within segment `0103`, from in front of offset `0103` of it. -/
theorem far_call_retf_same :
    ReturnsToCaller (StackCode.callPtr1616.shape) .w16 (farCaller 0x103#16 0x103#16 0x103#64) :=
  ((@far_call_retf _ .callPtr1616 .w16 _ _ rfl rfl (farCaller_plain _ _ _)).2
    (farCaller_fits _ _ _)).mpr ⟨rfl, by decide⟩

/-- A call from `1000:0105` to segment `2000` does not come back. -/
theorem far_call_retf_lost :
    ¬ ReturnsToCaller (StackCode.callPtr1616.shape) .w16
      (farCaller 0x1000#16 0x2000#16 0x105#64) := by
  intro h
  have hreads := (@returnsToCaller_iff _ (StackCode.callPtr1616.shape) .w16 _ _ rfl rfl
    (farCaller_plain _ _ _)).mp h
  have hsel := ((farCaller_fits _ _ _).farFrameReads_iff.mp hreads).1
  exact absurd hsel (by decide)

end Seven
