import Seven.Handlers.PackedLanes

/-!
# Shuffles

The unpacks of `simd_pack.cpp` and all of `simd_shuffle.cpp` move elements
inside the blocks of 16 bytes of a register and never look at one. All of them
are one operation with parameters: the size of an element, and for each element
of a block the source and the place that it comes from (`ShuffleForm.pick`).

> `ShuffleForm.handler_run`: every form, on registers, leaves the shuffle of its
> sources below its length and keeps or clears what is above.
-/

namespace Seven

open Seven.Lib

/-! ## The forms -/

/-- The unpack instructions. -/
inductive UnpackOp where
  | punpcklbw | punpckhbw | punpcklwd | punpckhwd | punpckldq | punpckhdq
deriving DecidableEq, Repr

/-- The operation of the VEX form. -/
def UnpackOp.packOp : UnpackOp → VexPackOp
  | .punpcklbw => .evex .punpcklbw
  | .punpckhbw => .evex .punpckhbw
  | .punpcklwd => .evex .punpcklwd
  | .punpckhwd => .evex .punpckhwd
  | .punpckldq => .punpckldq
  | .punpckhdq => .punpckhdq

/-- From the upper halves. -/
def UnpackOp.high : UnpackOp → Bool
  | .punpcklbw | .punpcklwd | .punpckldq => false
  | .punpckhbw | .punpckhwd | .punpckhdq => true

/-- The handlers that move elements; VEX and EVEX forms are one code. -/
inductive ShuffleForm where
  | unpack (op : UnpackOp)
  | unpackQdq (high : Bool)
  | vexUnpack (op : UnpackOp) (len : VectorLength)
  | shuffle (op : ShuffleOp)
  | vexShuffle (op : ShuffleOp) (len : VectorLength)
  | permute (op : PermuteOp)
  /-- `VMOVSLDUP` and, of the odd elements, `VMOVSHDUP`. -/
  | vexMovdup (odd : Bool) (len : VectorLength)
  | movddup
  | vexMovddup (len : VectorLength)
deriving DecidableEq, Repr

namespace ShuffleForm

/-- The vector length. -/
def length : ShuffleForm → VectorLength
  | .vexUnpack _ len | .vexShuffle _ len | .vexMovdup _ len | .vexMovddup len => len
  | _ => .xmm

/-- The forms that clear the bits above. -/
def zeroUpper : ShuffleForm → Bool
  | .vexUnpack _ _ | .vexShuffle _ _ | .vexMovdup _ _ | .vexMovddup _ => true
  | _ => false

/-- The operands of the left-hand and of the right-hand source. -/
def sources : ShuffleForm → Nat × Nat
  | .unpack _ | .unpackQdq _ | .shuffle _ => (0, 1)
  | .vexUnpack _ _ | .vexShuffle _ _ => (1, 2)
  | .permute _ | .vexMovdup _ _ | .movddup | .vexMovddup _ => (1, 1)

/-- The handler of a form. -/
def handler (H : X87Host) : ShuffleForm → Handler
  | .unpack op => (PackCode.pack (.vex op.packOp)).handler H
  | .unpackQdq high => (PackCode.pack (if high then .punpckhqdq else .punpcklqdq)).handler H
  | .vexUnpack op _ => H.vexPack op.packOp.bytes fun lhs rhs o k => op.packOp.element lhs rhs o k
  | .shuffle op => (PackCode.shuffle op).handler H
  | .vexShuffle op _ => H.vexBinaryLanewise op.bytes fun imm k => op.pick imm k
  | .permute op => (PackCode.permute op).handler H
  | .vexMovdup odd _ =>
    H.unaryLanewise (PackCode.movdupOp odd).bytes (fun imm k => (PackCode.movdupOp odd).pick imm k)
      true
  | .movddup => H.duplicateLowDouble false
  | .vexMovddup .xmm => H.duplicateLowDouble true
  | .vexMovddup _ => H.unaryLanewise 8 (fun _ _ => 0) true

/-- The bytes of an element. -/
def size : ShuffleForm → Nat
  | .unpack op | .vexUnpack op _ => op.packOp.bytes
  | .unpackQdq _ | .movddup | .vexMovddup _ => 8
  | .shuffle op | .vexShuffle op _ => op.bytes
  | .permute op => op.bytes
  | .vexMovdup odd _ => (PackCode.movdupOp odd).bytes

/-- Where element `k` of a block comes from: the right-hand source or the left-hand
one, and the element of its block. -/
def pick (imm : U64) (k : Nat) : ShuffleForm → Bool × Nat
  | .unpack op | .vexUnpack op _ =>
    (k % 2 == 1, (if op.high then 8 / op.packOp.bytes else 0) + k / 2)
  | .unpackQdq high => (k % 2 == 1, (if high then 1 else 0) + k / 2)
  | .shuffle op | .vexShuffle op _ => op.pick imm k
  | .permute op => (false, op.pick imm k)
  | .vexMovdup odd _ => (false, (PackCode.movdupOp odd).pick imm k)
  | .movddup | .vexMovddup _ => (false, 0)

/-- An element has one, two, four or eight bytes. -/
theorem size_cases (f : ShuffleForm) : f.size = 1 ∨ f.size = 2 ∨ f.size = 4 ∨ f.size = 8 := by
  have hunpack : ∀ op : UnpackOp, op.packOp.bytes = 1 ∨ op.packOp.bytes = 2 ∨
      op.packOp.bytes = 4 ∨ op.packOp.bytes = 8 := by
    intro op
    cases op <;> decide
  have hshuffle : ∀ op : ShuffleOp, op.bytes = 1 ∨ op.bytes = 2 ∨ op.bytes = 4 ∨ op.bytes = 8 := by
    intro op
    cases op <;> decide
  have hpermute : ∀ op : PermuteOp, op.bytes = 1 ∨ op.bytes = 2 ∨ op.bytes = 4 ∨ op.bytes = 8 := by
    intro op
    cases op <;> decide
  cases f with
  | unpack op => exact hunpack op
  | vexUnpack op => exact hunpack op
  | shuffle op => exact hshuffle op
  | vexShuffle op => exact hshuffle op
  | permute op => exact hpermute op
  | vexMovdup odd => exact hpermute _
  | _ => exact .inr (.inr (.inr rfl))

/-- A row is whole elements. -/
theorem size_dvd (f : ShuffleForm) : f.size * (16 / f.size) = 16 := by
  rcases f.size_cases with h | h | h | h <;> rw [h]

/-- An element has bytes. -/
theorem size_pos (f : ShuffleForm) : 0 < f.size := by
  rcases f.size_cases with h | h | h | h <;> rw [h] <;> decide

/-- A masked immediate. -/
theorem toNat_and_lt (imm : U64) (n : Nat) (hn : n < 2 ^ 64) :
    (imm &&& BitVec.ofNat 64 n).toNat ≤ n := by
  rw [BitVec.toNat_and, BitVec.toNat_ofNat, Nat.mod_eq_of_lt hn]
  exact Nat.and_le_right

/-- Elements come from the block. -/
theorem pick_lt (imm : U64) {k : Nat} (f : ShuffleForm) (hk : k < 16 / f.size) :
    (f.pick imm k).2 < 16 / f.size := by
  -- A selector masked to two bits or to one stays inside the row.
  have hthree (imm : U64) := toNat_and_lt imm 3 (by decide)
  have hone (imm : U64) := toNat_and_lt imm 1 (by decide)
  have hunpack : ∀ op : UnpackOp, k < 16 / op.packOp.bytes →
      (if op.high then 8 / op.packOp.bytes else 0) + k / 2 < 16 / op.packOp.bytes := by
    intro op
    cases op <;> intro hk <;> simp only [UnpackOp.packOp, VexPackOp.bytes, EvexPackOp.bytes,
      UnpackOp.high, if_true, if_false, Bool.false_eq_true] at hk ⊢ <;> omega
  have hshuffle : ∀ op : ShuffleOp, k < 16 / op.bytes → (op.pick imm k).2 < 16 / op.bytes := by
    intro op hk
    cases op with
    | shufps => exact Nat.lt_succ_of_le (hthree _)
    | shufpd => exact Nat.lt_succ_of_le (hone _)
    | _ =>
      simp only [ShuffleOp.bytes] at hk
      simp only [ShuffleOp.pick, ShuffleOp.bytes]
      omega
  have hpermute : ∀ op : PermuteOp, k < 16 / op.bytes → op.pick imm k < 16 / op.bytes := by
    intro op hk
    cases op with
    | pshufd => exact Nat.lt_succ_of_le (hthree _)
    | pshuflw | pshufhw =>
      have hsel := hthree (imm >>> (2 * k))
      have hsel' := hthree (imm >>> (2 * (k - 4)))
      simp only [PermuteOp.bytes] at hk
      simp only [PermuteOp.pick, PermuteOp.bytes]
      split <;> omega
    | movsldup | movshdup =>
      simp only [PermuteOp.bytes] at hk
      simp only [PermuteOp.pick, PermuteOp.bytes]
      omega
  cases f with
  | unpack op => exact hunpack op hk
  | vexUnpack op => exact hunpack op hk
  | shuffle op => exact hshuffle op hk
  | vexShuffle op => exact hshuffle op hk
  | permute op => exact hpermute op hk
  | vexMovdup odd => exact hpermute _ hk
  | movddup | vexMovddup =>
    show 0 < 16 / 8
    decide
  | unpackQdq high =>
    have hk : k < 16 / 8 := hk
    cases high <;> simp only [pick, size, if_true, if_false, Bool.false_eq_true] <;> omega

end ShuffleForm

/-! ## One shuffle -/

/-- The shuffle of `lhs` and `rhs`, by elements: every block of the result from
the same block of the sources. -/
def Shuffled (f : ShuffleForm) (imm : U64) (lhs rhs out : BitVec 512) : Prop :=
  ∀ i < f.length.bytes / f.size,
    lane (8 * f.size) out i =
      lane (8 * f.size) (if (f.pick imm (i % (16 / f.size))).1 then rhs else lhs)
        (i / (16 / f.size) * (16 / f.size) + (f.pick imm (i % (16 / f.size))).2)

/-- A vector is whole rows. -/
theorem VectorLength.rows (len : VectorLength) : 16 * (len.bytes / 16) = len.bytes := by
  cases len <;> rfl

/-- A lane of a shuffled row. -/
theorem lane_shuffleLanes {size width : Nat} (hsize : size * (16 / size) = 16) (hwidth : width ≤ 64)
    (pick : Nat → Bool × Nat) (lhs rhs out : BitVec 512) {i : Nat} (hi : i < width / size) :
    lane (8 * size) (shuffleLanes size width pick lhs rhs out) i =
      lane (8 * size) (if (pick (i % (16 / size))).1 then rhs else lhs)
        (i / (16 / size) * (16 / size) + (pick (i % (16 / size))).2) := by
  have hend := element_end hi
  have hbits : 8 * size * (i + 1) = 8 * (size * (i + 1)) := Nat.mul_assoc _ _ _
  have hplace : i / (16 / size) * 16 + (pick (i % (16 / size))).2 * size =
      (i / (16 / size) * (16 / size) + (pick (i % (16 / size))).2) * size := by
    rw [Nat.add_mul, Nat.mul_assoc, Nat.mul_comm (16 / size) size, hsize]
  unfold shuffleLanes
  rw [lane_updateLanes _ _ (by omega), if_pos hi, Option.getD_some, hplace, loadLane_eq]

/-- An unpack takes the elements of one half by turns. -/
theorem unpackedElement_eq {size : Nat} (hsize : size = 1 ∨ size = 2 ∨ size = 4 ∨ size = 8)
    (high : Bool) (lhs rhs : BitVec 512) (block k : Nat) :
    unpackedElement size high lhs rhs (block * 16) k =
      lane (8 * size) (if (k % 2 == 1) = true then rhs else lhs)
        (block * (16 / size) + ((if high then 8 / size else 0) + k / 2)) := by
  have hside : (if k % 2 = 0 then lhs else rhs) = if (k % 2 == 1) = true then rhs else lhs := by
    rcases Nat.mod_two_eq_zero_or_one k with h | h <;> rw [h] <;> rfl
  have hplace : block * 16 + (if high then 8 else 0) + k / 2 * size =
      (block * (16 / size) + ((if high then 8 / size else 0) + k / 2)) * size := by
    rcases hsize with h | h | h | h <;> subst h <;> cases high <;>
      simp only [if_true, if_false, Bool.false_eq_true] <;> omega
  unfold unpackedElement
  rw [hside, hplace, loadLane_eq]

/-- The element a place is filled from. -/
def ShuffleForm.place (f : ShuffleForm) (imm : U64) (i : Nat) : Nat :=
  i / (16 / f.size) * (16 / f.size) + (f.pick imm (i % (16 / f.size))).2

/-- The place of an element is one. -/
theorem ShuffleForm.place_lt (f : ShuffleForm) (imm : U64) {i : Nat}
    (hi : i < f.length.bytes / f.size) : f.place imm i < f.length.bytes / f.size := by
  have hrows : f.length.bytes / f.size = f.length.bytes / 16 * (16 / f.size) := by
    have hlength := f.length.rows
    rcases f.size_cases with h | h | h | h <;> rw [h] <;> omega
  have hpos : 0 < 16 / f.size := by
    rcases f.size_cases with h | h | h | h <;> rw [h] <;> decide
  have hpick := f.pick_lt imm (Nat.mod_lt i hpos)
  rw [hrows] at hi ⊢
  have hblock : i / (16 / f.size) + 1 ≤ f.length.bytes / 16 := Nat.div_lt_of_lt_mul (by
    rw [Nat.mul_comm]
    exact hi)
  have hend : (i / (16 / f.size) + 1) * (16 / f.size) ≤ f.length.bytes / 16 * (16 / f.size) :=
    Nat.mul_le_mul_right _ hblock
  unfold ShuffleForm.place
  rw [Nat.add_mul, Nat.one_mul] at hend
  omega

/-- Only elements below the width count. -/
theorem Shuffled.unmask {f : ShuffleForm} {imm : U64} {lhs rhs lhs' rhs' out : BitVec 512}
    (h : Shuffled f imm lhs rhs out)
    (hlhs : ∀ i < f.length.bytes / f.size, lane (8 * f.size) lhs i = lane (8 * f.size) lhs' i)
    (hrhs : ∀ i < f.length.bytes / f.size, lane (8 * f.size) rhs i = lane (8 * f.size) rhs' i) :
    Shuffled f imm lhs' rhs' out := by
  intro i hi
  rw [h i hi]
  have hplace := f.place_lt imm hi
  split
  next => exact hrhs _ hplace
  next => exact hlhs _ hplace

namespace X87Host

variable (H : X87Host)

/-- A handler that writes its result. -/
theorem toVector_run {zeroUpper : Bool} {compute : Register → HandlerM (BitVec 512)}
    {ctx : ExecutionContext} {out : BitVec 512} (hdst : H.IsVectorOperand ctx.instr 0)
    (hout : compute (ctx.instr.opRegister 0) ctx = .ok out ctx) :
    H.toVector zeroUpper compute ctx =
      H.writeVec (ctx.instr.opRegister 0) out (H.vectorWidth (ctx.instr.opRegister 0)) zeroUpper
        ctx := by
  have hget : (get : HandlerM ExecutionContext) ctx = .ok ctx ctx := rfl
  unfold toVector
  rw [bind_ok hget]
  dsimp only
  rw [if_pos hdst, bind_ok hout]

/-- A vector register operand. -/
theorem readVectorOperand_register {ctx : ExecutionContext} {n : Nat}
    (h : H.IsVectorOperand ctx.instr n) (width : Nat) :
    H.readVectorOperand n width ctx =
      .ok (H.readVec ctx.state (ctx.instr.opRegister n) &&& vectorMask width) ctx := by
  have hget : (get : HandlerM ExecutionContext) ctx = .ok ctx ctx := rfl
  have hregister : ¬ (!H.isVectorRegister (ctx.instr.opRegister n)) = true := by
    rw [h.2]
    exact Bool.false_ne_true
  unfold readVectorOperand
  rw [bind_ok hget, if_pos h.1, if_neg hregister]
  rfl

end X87Host

namespace ShuffleForm

/-- The operands of the form are registers of its length. -/
structure OnRegisters (H : X87Host) (f : ShuffleForm) (instr : Instruction) : Prop where
  destination : H.IsVectorOperand instr 0
  left : H.IsVectorOperand instr f.sources.1
  right : H.IsVectorOperand instr f.sources.2
  width : H.vectorWidth (instr.opRegister 0) = f.length.bytes
  leftWidth : H.vectorWidth (instr.opRegister f.sources.1) = f.length.bytes
  rightWidth : H.vectorWidth (instr.opRegister f.sources.2) = f.length.bytes

section forms

variable {H : X87Host} {f : ShuffleForm} {ctx : ExecutionContext}

/-- What `read_operand` gives of a register has its elements. -/
theorem lane_operand {size width n i : Nat} (hwidth : H.vectorWidth (ctx.instr.opRegister n) = width)
    (hle : width ≤ 64) {count : Nat} (hi : size * (i + 1) ≤ width) (hcount : size * (i + 1) ≤ count)
    (hcount' : count ≤ 64) :
    lane (8 * size) (H.readVec ctx.state (ctx.instr.opRegister n) &&& X87Host.vectorMask count) i =
      lane (8 * size) (H.slotOf ctx.state ctx.instr n) i := by
  rw [lane_readVec _ hcount hcount']
  unfold X87Host.readVec
  rw [hwidth, lane_readVec _ hi hle]
  rfl

/-- A lane of the destination. -/
theorem lane_destination {size width i : Nat} (hwidth : H.vectorWidth (ctx.instr.opRegister 0) = width)
    (hle : width ≤ 64) (hi : size * (i + 1) ≤ width) :
    lane (8 * size) (H.readVec ctx.state (ctx.instr.opRegister 0)) i =
      lane (8 * size) (H.slotOf ctx.state ctx.instr 0) i := by
  unfold X87Host.readVec
  rw [hwidth, lane_readVec _ hi hle]
  rfl

/-- The rows of an unpack. -/
theorem shuffled_rows {size : Nat} {high : Bool} {imm : U64} (hf : f.size = size)
    (hpick : ∀ k, f.pick imm k = (k % 2 == 1, (if high then 8 / size else 0) + k / 2))
    (lhs rhs : BitVec 512) :
    Shuffled f imm lhs rhs (stackLanes 128 (f.length.bytes / 16) fun row =>
      packLanePair f.size fun k => unpackedElement f.size high lhs rhs (row * 16) k) := by
  intro i hi
  rw [lane_packRows f.size_dvd f.length.rows f.length.bytes_bounds.2 hi,
    unpackedElement_eq f.size_cases, hpick, hf]

/-- One row. -/
theorem oneRow (rows : Nat → BitVec 512) : stackLanes 128 1 rows = 0#512 ||| rows 0 := by
  show 0#512 ||| rows 0 <<< 0 = _
  rw [BitVec.shiftLeft_zero]

/-- The unpacks interleave. -/
theorem element_unpack (op : UnpackOp) (lhs rhs : BitVec 512) (o k : Nat) :
    op.packOp.element lhs rhs o k = unpackedElement op.packOp.bytes op.high lhs rhs o k := by
  cases op <;> rfl

/-- An XMM unpack has one row. -/
theorem shuffled_row {size : Nat} {high : Bool} {imm : U64} (hlength : f.length = .xmm)
    (hf : f.size = size)
    (hpick : ∀ k, f.pick imm k = (k % 2 == 1, (if high then 8 / size else 0) + k / 2))
    (lhs rhs : BitVec 512) :
    Shuffled f imm lhs rhs
      (0#512 ||| packLanePair size fun k => unpackedElement size high lhs rhs 0 k) := by
  have hrows := shuffled_rows hf hpick lhs rhs
  rw [hlength, hf] at hrows
  have hone := oneRow fun row =>
    packLanePair size fun k => unpackedElement size high lhs rhs (row * 16) k
  rw [Nat.zero_mul] at hone
  rw [← hone]
  exact hrows

/-- The lanes of a shuffle by its table. -/
theorem shuffled_lanes {imm : U64} {pick : Nat → Bool × Nat} (hpick : ∀ k, f.pick imm k = pick k)
    (lhs rhs out : BitVec 512) :
    Shuffled f imm lhs rhs (shuffleLanes f.size f.length.bytes pick lhs rhs out) := by
  intro i hi
  rw [lane_shuffleLanes f.size_dvd f.length.bytes_bounds.2 _ _ _ _ hi, hpick]

/-- The same for one source. -/
theorem shuffled_source {imm : U64} {pick : Nat → Bool × Nat} (hpick : ∀ k, f.pick imm k = pick k)
    {src slot : BitVec 512} (out : BitVec 512)
    (hsrc : ∀ i < f.length.bytes / f.size, lane (8 * f.size) src i = lane (8 * f.size) slot i) :
    Shuffled f imm slot slot (shuffleLanes f.size f.length.bytes pick src src out) :=
  (shuffled_lanes hpick src src out).unmask hsrc hsrc

/-- The low double of an XMM register, twice. -/
theorem shuffled_lowDouble {imm : U64} (hlength : f.length = .xmm) (hsize : f.size = 8)
    (hpick : ∀ k, f.pick imm k = (false, 0)) {src slot : BitVec 512}
    (hsrc : lane (8 * 8) src 0 = lane (8 * 8) slot 0) :
    Shuffled f imm slot slot
      (updateLanes 8 (f.length.bytes / 8) (fun _ => some (loadLane 8 src 0)) 0#512) := by
  have hload : loadLane 8 src 0 = lane (8 * 8) src 0 := loadLane_eq 8 src 0
  intro i hi
  rw [hlength, hsize] at hi
  have hi : i < 2 := hi
  have hzero : i / (16 / 8) * (16 / 8) = 0 := by omega
  rw [hsize, hlength, hpick, if_neg Bool.false_ne_true, hzero,
    lane_updateLanes _ _ (by omega) _,
    if_pos (show i < VectorLength.xmm.bytes / 8 from hi), Option.getD_some, hload]
  exact hsrc

/-- What `compute` gives of registers is the shuffle of their slots. -/
def Computes (H : X87Host) (f : ShuffleForm) (compute : Register → HandlerM (BitVec 512)) : Prop :=
  ∀ ctx : ExecutionContext, f.OnRegisters H ctx.instr →
    ∃ out, compute (ctx.instr.opRegister 0) ctx = .ok out ctx ∧
      Shuffled f ctx.instr.immediate8 (H.slotOf ctx.state ctx.instr f.sources.1)
        (H.slotOf ctx.state ctx.instr f.sources.2) out

/-- The destination and an operand. -/
theorem computes_destination (hsources : f.sources = (0, 1)) {c : Nat → Nat}
    {v : U64 → Nat → BitVec 512 → BitVec 512 → BitVec 512}
    (hvalue : ∀ imm lhs rhs, Shuffled f imm lhs rhs (v imm f.length.bytes lhs rhs))
    (hcount : c f.length.bytes = f.length.bytes) :
    Computes H f fun dst => do
      let ctx ← get
      let lhs := H.readVec ctx.state dst
      let rhs ← H.readVectorOperand 1 (c (H.vectorWidth dst))
      return v ctx.instr.immediate8 (H.vectorWidth dst) lhs rhs := by
  intro ctx h
  have hget : (get : HandlerM ExecutionContext) ctx = .ok ctx ctx := rfl
  obtain ⟨-, -, hright, hwidth, -, hrightWidth⟩ := h
  rw [hsources] at hright hrightWidth
  refine ⟨_, ?_, Shuffled.unmask (hvalue ctx.instr.immediate8
    (H.readVec ctx.state (ctx.instr.opRegister 0))
    (H.readVec ctx.state (ctx.instr.opRegister 1) &&& X87Host.vectorMask f.length.bytes)) ?_ ?_⟩
  · dsimp only
    rw [bind_ok hget, hwidth, hcount, bind_ok (H.readVectorOperand_register hright _)]
    rfl
  · intro i hi
    rw [hsources]
    exact lane_destination hwidth f.length.bytes_bounds.2 (element_end hi)
  · intro i hi
    rw [hsources]
    exact lane_operand hrightWidth f.length.bytes_bounds.2 (element_end hi) (element_end hi)
      f.length.bytes_bounds.2

/-- Two operands. -/
theorem computes_operands (hsources : f.sources = (1, 2))
    {v : U64 → Nat → BitVec 512 → BitVec 512 → BitVec 512}
    (hvalue : ∀ imm lhs rhs, Shuffled f imm lhs rhs (v imm f.length.bytes lhs rhs)) :
    Computes H f fun dst => do
      let imm := (← get).instr.immediate8
      let lhs ← H.readVectorOperand 1 (H.vectorWidth dst)
      let rhs ← H.readVectorOperand 2 (H.vectorWidth dst)
      return v imm (H.vectorWidth dst) lhs rhs := by
  intro ctx h
  have hget : (get : HandlerM ExecutionContext) ctx = .ok ctx ctx := rfl
  obtain ⟨-, hleft, hright, hwidth, hleftWidth, hrightWidth⟩ := h
  rw [hsources] at hleft hright hleftWidth hrightWidth
  refine ⟨_, ?_, Shuffled.unmask (hvalue ctx.instr.immediate8
    (H.readVec ctx.state (ctx.instr.opRegister 1) &&& X87Host.vectorMask f.length.bytes)
    -- Only the lanes inside the operand's width are read, so masking changes none of them.
    (H.readVec ctx.state (ctx.instr.opRegister 2) &&& X87Host.vectorMask f.length.bytes)) ?_ ?_⟩
  · dsimp only
    rw [bind_ok hget, hwidth, bind_ok (H.readVectorOperand_register hleft _),
      bind_ok (H.readVectorOperand_register hright _)]
    rfl
  · intro i hi
    rw [hsources]
    exact lane_operand hleftWidth f.length.bytes_bounds.2 (element_end hi) (element_end hi)
      f.length.bytes_bounds.2
  · intro i hi
    rw [hsources]
    exact lane_operand hrightWidth f.length.bytes_bounds.2 (element_end hi) (element_end hi)
      f.length.bytes_bounds.2

/-- One operand. -/
theorem computes_operand (hsources : f.sources = (1, 1)) {v : U64 → Nat → BitVec 512 → BitVec 512}
    (hvalue : ∀ imm src slot,
      (∀ i < f.length.bytes / f.size, lane (8 * f.size) src i = lane (8 * f.size) slot i) →
      Shuffled f imm slot slot (v imm f.length.bytes src)) :
    Computes H f fun dst => do
      let imm := (← get).instr.immediate8
      let src ← H.readVectorOperand 1 (H.vectorWidth dst)
      return v imm (H.vectorWidth dst) src := by
  intro ctx h
  have hget : (get : HandlerM ExecutionContext) ctx = .ok ctx ctx := rfl
  obtain ⟨-, hleft, -, hwidth, hleftWidth, -⟩ := h
  rw [hsources] at hleft hleftWidth
  refine ⟨v ctx.instr.immediate8 f.length.bytes
    (H.readVec ctx.state (ctx.instr.opRegister 1) &&& X87Host.vectorMask f.length.bytes), ?_, ?_⟩
  · dsimp only
    rw [bind_ok hget, hwidth, bind_ok (H.readVectorOperand_register hleft _)]
    rfl
  · rw [hsources]
    apply hvalue
    intro i hi
    exact lane_operand hleftWidth f.length.bytes_bounds.2 (element_end hi) (element_end hi)
      f.length.bytes_bounds.2

/-- The low double of an operand. -/
theorem computes_lowDouble (hlength : f.length = .xmm) (hsources : f.sources = (1, 1))
    (hsize : f.size = 8) (hpick : ∀ imm k, f.pick imm k = (false, 0)) :
    Computes H f fun dst => do
      let src ← H.readVectorOperand 1 8
      return updateLanes 8 (H.vectorWidth dst / 8) (fun _ => some (loadLane 8 src 0)) 0#512 := by
  intro ctx h
  obtain ⟨-, hleft, -, hwidth, hleftWidth, -⟩ := h
  rw [hsources] at hleft hleftWidth
  rw [hlength] at hleftWidth
  refine ⟨updateLanes 8 (f.length.bytes / 8) (fun _ => some (loadLane 8
    (H.readVec ctx.state (ctx.instr.opRegister 1) &&& X87Host.vectorMask 8) 0)) 0#512, ?_, ?_⟩
  · dsimp only
    rw [hwidth, bind_ok (H.readVectorOperand_register hleft _)]
    rfl
  · rw [hsources]
    exact shuffled_lowDouble hlength hsize (hpick _)
      (lane_operand hleftWidth (by decide) (by decide) (by decide) (by decide))

/-- Every form computes its table. -/
theorem computes (H : X87Host) (f : ShuffleForm) :
    ∃ compute, f.handler H = H.toVector f.zeroUpper compute ∧ Computes H f compute := by
  -- One case a form: the handler's expression is a row, or rows, of picked elements.
  cases f with
  | unpack op =>
    refine ⟨_, rfl, computes_destination rfl (c := fun _ => 16) (v := fun _ _ lhs rhs => 0#512 |||
      packLanePair op.packOp.bytes fun k => op.packOp.element lhs rhs 0 k)
      (fun imm lhs rhs => ?_) rfl⟩
    simp only [element_unpack]
    exact shuffled_row rfl rfl (fun _ => rfl) lhs rhs
  | unpackQdq high =>
    cases high with
    | false =>
      exact ⟨_, rfl, computes_destination rfl (c := fun _ => 16) (v := fun _ _ lhs rhs => 0#512 |||
        packLanePair 8 fun k => unpackedElement 8 false lhs rhs 0 k)
        (fun _ lhs rhs => shuffled_row rfl rfl (fun _ => rfl) lhs rhs) rfl⟩
    | true =>
      exact ⟨_, rfl, computes_destination rfl (c := fun _ => 16) (v := fun _ _ lhs rhs => 0#512 |||
        packLanePair 8 fun k => unpackedElement 8 true lhs rhs 0 k)
        (fun _ lhs rhs => shuffled_row rfl rfl (fun _ => rfl) lhs rhs) rfl⟩
  | vexUnpack op len =>
    refine ⟨_, rfl, computes_operands rfl (v := fun _ width lhs rhs =>
      stackLanes 128 (width / 16) fun row => packLanePair op.packOp.bytes
        fun k => op.packOp.element lhs rhs (row * 16) k) fun imm lhs rhs => ?_⟩
    simp only [element_unpack]
    exact shuffled_rows rfl (fun _ => rfl) lhs rhs
  | shuffle op =>
    exact ⟨_, rfl, computes_destination rfl (c := fun width => width)
      (v := fun imm width lhs rhs => shuffleLanes op.bytes width (fun k => op.pick imm k) lhs rhs lhs)
      (fun imm lhs rhs => shuffled_lanes (fun _ => rfl) lhs rhs lhs) rfl⟩
  | vexShuffle op len =>
    exact ⟨_, rfl, computes_operands rfl (v := fun imm width lhs rhs =>
      shuffleLanes op.bytes width (fun k => op.pick imm k) lhs rhs 0#512)
      fun imm lhs rhs => shuffled_lanes (fun _ => rfl) lhs rhs 0#512⟩
  | permute op =>
    exact ⟨_, rfl, computes_operand rfl (v := fun imm width src =>
      shuffleLanes op.bytes width (fun k => (false, op.pick imm k)) src src 0#512)
      (fun imm src slot hsrc => shuffled_source (fun _ => rfl) 0#512 hsrc)⟩
  | vexMovdup odd len =>
    exact ⟨_, rfl, computes_operand rfl (v := fun imm width src =>
      shuffleLanes (PackCode.movdupOp odd).bytes width
        (fun k => (false, (PackCode.movdupOp odd).pick imm k)) src src 0#512)
      (fun imm src slot hsrc => shuffled_source (fun _ => rfl) 0#512 hsrc)⟩
  | movddup => exact ⟨_, rfl, computes_lowDouble rfl rfl rfl fun _ _ => rfl⟩
  | vexMovddup len =>
    have hwide : ∀ len, Computes H (.vexMovddup len) _ := fun len => computes_operand rfl
      (v := fun imm width src => shuffleLanes 8 width (fun _ => (false, 0)) src src 0#512)
      (fun imm src slot hsrc => shuffled_source (fun _ => rfl) 0#512 hsrc)
    cases len with
    | xmm => exact ⟨_, rfl, computes_lowDouble rfl rfl rfl fun _ _ => rfl⟩
    | ymm => exact ⟨_, rfl, hwide .ymm⟩
    | zmm => exact ⟨_, rfl, hwide .zmm⟩

/-- **What a shuffle of registers does.** -/
theorem handler_run (h : f.OnRegisters H ctx.instr) :
    ∃ out, Shuffled f ctx.instr.immediate8 (H.slotOf ctx.state ctx.instr f.sources.1)
        (H.slotOf ctx.state ctx.instr f.sources.2) out ∧
      f.handler H ctx = .ok () { ctx with
        state := setVector ctx.state (H.vectorIndex (ctx.instr.opRegister 0))
          (mergeVec (H.slotOf ctx.state ctx.instr 0) out f.length.bytes f.zeroUpper) } := by
  obtain ⟨compute, hhandler, hcomputes⟩ := f.computes H
  obtain ⟨out, hout, hshuffled⟩ := hcomputes ctx h
  refine ⟨out, hshuffled, ?_⟩
  rw [hhandler, H.toVector_run h.destination hout, h.width]
  rfl

end forms

end ShuffleForm

end Seven
