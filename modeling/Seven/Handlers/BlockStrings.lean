import Seven.Lib.BlockCopy
import Seven.Cpu.Plain
import Seven.Cpu.FlagIntegers
import Seven.Handlers.AluEncodings
import Seven.Handlers.StringResume
import Seven.Handlers.WidePair

/-!
# What a repeated string instruction leaves behind

A repeat is a loop over elements, and what it is for is its effect on a whole
block: `REP MOVS` copies one, `REP STOS` fills one, `REP CMPS` and `REP SCAS`
look for the first element that ends the search. `stringLoop_rule` is the
rule of the loop: an invariant that every element keeps holds where the loop
ends.

The bytes are those of the library's `copyBlock` and `fillBlock`, on the
memory as a function from addresses to bytes.

> `rep_movs_copies`: apart, the destination becomes what the source was; an
> element or more ahead of its source, it repeats the bytes in between; nearer,
> it is what moving one element after the other leaves.
> `rep_stos_fills`: the destination repeats the element in `RAX`.
> `rep_compare_finds`: the search stops behind the first element that ends it.
-/

namespace Seven

open Seven.Lib

/-! ## Readable spans -/

namespace Memory

/-- A span of readable page memory with nothing in front of it. -/
structure ReadableSpan (m : Memory) (a : U64) (n : Nat) : Prop where
  noPassthrough : m.passthroughRead = none
  noRegion : m.findMmioRegion a n = none
  allowed : ∀ event : MemoryAccessEvent, event.address = a → event.size = n →
    m.accessAllowed event = true
  readable : ∀ i < n,
    accessible (hasPermission · .dataRead) m.pages (a + BitVec.ofNat 64 i) = true

/-- Readable does not depend on the bytes. -/
theorem ReadableSpan.sameAccess {m m' : Memory} {a : U64} {n : Nat} (h : m.ReadableSpan a n)
    (hsame : SameAccess m m') : m'.ReadableSpan a n := by
  refine ⟨?_, ?_, ?_, ?_⟩
  · rw [hsame.passthroughRead]
    exact h.noPassthrough
  · have hregion := h.noRegion
    unfold findMmioRegion at hregion ⊢
    rw [hsame.mmioRegions, hsame.mmioMinBase, hsame.mmioMaxEnd]
    exact hregion
  · intro event ha hn
    have hallowed := h.allowed event ha hn
    unfold accessAllowed at hallowed ⊢
    rw [hsame.accessHooks]
    exact hallowed
  · intro i hi
    rw [accessible_congr hsame.perms]
    exact h.readable i hi

/-- A read of a readable span returns the bytes of the pages. -/
theorem ReadableSpan.read_bytes {m : Memory} {a : U64} {n : Nat} (h : m.ReadableSpan a n)
    (hn : 0 < n) : ∃ bytes, m.read a n .dataRead = some bytes ∧ bytes.length = n ∧
      ∀ i < n, byteAt m.pages (a + BitVec.ofNat 64 i) = bytes[i]? := by
  have hbyte (i : Nat) (hi : i < n) : ∃ b, byteAt m.pages (a + BitVec.ofNat 64 i) = some b := by
    obtain ⟨e, he, _⟩ := accessible_iff.mp (h.readable i hi)
    unfold byteAt
    rw [he]
    exact ⟨_, rfl⟩
  let bytes := (List.range n).map fun i => (byteAt m.pages (a + BitVec.ofNat 64 i)).getD 0#8
  have hlen : bytes.length = n := by rw [List.length_map, List.length_range]
  have hbytes (i : Nat) (hi : i < n) : byteAt m.pages (a + BitVec.ofNat 64 i) = bytes[i]? := by
    obtain ⟨b, hb⟩ := hbyte i hi
    rw [List.getElem?_map, List.getElem?_range hi, hb, Option.map_some, hb, Option.getD_some]
  have hcopy : copyFromPages (hasPermission · .dataRead) m.pages a n = some bytes := by
    refine copyFromPages_eq_some_iff.mpr ⟨hlen, fun i hi => ?_⟩
    unfold peek
    rw [if_pos (h.readable i hi)]
    exact hbytes i hi
  refine ⟨bytes, ?_, hlen, hbytes⟩
  rw [read_eq h.noPassthrough h.noRegion hn, hcopy]
  exact if_pos (h.allowed _ rfl rfl)

end Memory

/-! ## The loop rule -/

/-- The pointers behind `i` elements. -/
def pointersBehind (op : StringOp) (df : Bool) (w i : Nat) (p : StringPointers) : StringPointers :=
  { rsi := if op.usesRsi then Lib.advance df (i * w) p.rsi else p.rsi
    rdi := if op.usesRdi then Lib.advance df (i * w) p.rdi else p.rdi }

section rule

variable {op : StringOp} {w n : Nat} {repne df : Bool} {p : StringPointers}

/-- No element behind. -/
theorem pointersBehind_zero : pointersBehind op df w 0 p = p := by
  unfold pointersBehind
  simp only [Nat.zero_mul, advance_zero, ite_self]

/-- One element on, then `i`. -/
theorem pointersBehind_advance (i : Nat) :
    pointersBehind op df w i (advancePointers op df w p) = pointersBehind op df w (i + 1) p := by
  have hmove (x : U64) :
      Lib.advance df (i * w) (if df then x - BitVec.ofNat 64 w else x + BitVec.ofNat 64 w) =
        Lib.advance df ((i + 1) * w) x := advance_advance df w i x
  unfold pointersBehind advancePointers
  cases hrsi : op.usesRsi <;> cases hrdi : op.usesRdi <;>
    simp only [hmove, if_true, Bool.false_eq_true, if_false]

/-- `i` elements on, then one. -/
theorem advancePointers_after (i : Nat) :
    advancePointers op df w (pointersBehind op df w i p) = pointersBehind op df w (i + 1) p := by
  induction i generalizing p with
  | zero => rw [pointersBehind_zero, ← pointersBehind_advance, pointersBehind_zero]
  | succ i ih => rw [← pointersBehind_advance, ih, pointersBehind_advance]

/-- The loop goes on while the counter runs and the search has not ended. -/
theorem continueLoop_eq (remaining : Nat) (rflags : U64) :
    continueLoop op true repne remaining rflags =
      (decide (0 < remaining) && !endsOnZf op repne rflags) := by
  unfold continueLoop endsOnZf
  rw [Bool.true_and]
  congr 1
  cases op.compares <;> cases repne <;> cases flagSet rflags kFlagZF <;> rfl

/-- An element without breakpoints, and what the loop does behind it. -/
theorem stringLoop_succ {r : Nat} {ctx c : ExecutionContext}
    (heffect : elementEffect op w p ctx = .ok () c) (hquiet : elementHits op w p c.state = 0#64) :
    stringLoop op w true repne df (r + 1) p ctx =
      if 0 < r ∧ endsOnZf op repne c.state.rflags = false then
        stringLoop op w true repne df r (advancePointers op df w p) c
      else .ok () { c with state := savePointers op true (advancePointers op df w p) r c.state } := by
  have hel := stringElement_of_effect heffect
  rw [hquiet] at hel
  have hnone (goOn : Bool) : noteDebugBreak c 0#64 goOn = (c, false) := rfl
  rw [stringLoop]
  simp only [hel, hnone, Bool.false_or, continueLoop_eq]
  by_cases hr : 0 < r <;> cases hend : endsOnZf op repne c.state.rflags <;> simp [hr]

/-- **The loop rule.** What holds before the first element and is kept by
every element up to the one that ends the loop holds behind that one. -/
theorem stringLoop_rule {I : Nat → ExecutionContext → Prop} {ctx : ExecutionContext}
    (hstep : ∀ i c, i < n → I i c → (0 < i → endsOnZf op repne c.state.rflags = false) →
      ∃ c', elementEffect op w (pointersBehind op df w i p) c = .ok () c' ∧
        elementHits op w (pointersBehind op df w i p) c'.state = 0#64 ∧ I (i + 1) c')
    (hn : 0 < n) (hstart : I 0 ctx) :
    ∃ k c, 0 < k ∧ k ≤ n ∧ I k c ∧ (k = n ∨ endsOnZf op repne c.state.rflags = true) ∧
      stringLoop op w true repne df n p ctx =
        .ok () { c with state := savePointers op true (pointersBehind op df w k p) (n - k) c.state } := by
  -- from the middle: `r` elements are left
  suffices hrest : ∀ r i c, 0 < r → i + r = n → I i c →
      (0 < i → endsOnZf op repne c.state.rflags = false) →
      ∃ k e, 0 < k ∧ k ≤ n ∧ I k e ∧ (k = n ∨ endsOnZf op repne e.state.rflags = true) ∧
        stringLoop op w true repne df r (pointersBehind op df w i p) c =
          .ok () { e with state := savePointers op true (pointersBehind op df w k p) (n - k) e.state } by
    have hall := hrest n 0 ctx hn (Nat.zero_add n) hstart fun h => absurd h (Nat.lt_irrefl 0)
    rw [pointersBehind_zero] at hall
    exact hall
  intro r
  induction r with
  | zero =>
    intro i c hpos
    exact absurd hpos (Nat.lt_irrefl 0)
  | succ r ih =>
    intro i c _ hsum hI hgoing
    obtain ⟨c', heffect, hquiet, hI'⟩ := hstep i c (by omega) hI hgoing
    rw [stringLoop_succ heffect hquiet, advancePointers_after]
    by_cases hmore : 0 < r ∧ endsOnZf op repne c'.state.rflags = false
    · rw [if_pos hmore]
      exact ih (i + 1) c' hmore.1 (by omega) hI' fun _ => hmore.2
    · rw [if_neg hmore]
      refine ⟨i + 1, c', Nat.succ_pos i, by omega, hI', ?_, ?_⟩
      · rcases Nat.eq_zero_or_pos r with hzero | hpos
        · exact Or.inl (by omega)
        · right
          cases hend : endsOnZf op repne c'.state.rflags with
          | true => rfl
          | false => exact absurd ⟨hpos, hend⟩ hmore
      · rw [show n - (i + 1) = r by omega]

end rule

/-! ## The elements of a repeat -/

/-- The direction flag. -/
def downwards (ctx : ExecutionContext) : Bool := flagSet ctx.state.rflags kFlagDF

/-- The pointers of the `i`-th element. -/
def elementPointers (op : StringOp) (w : Nat) (ctx : ExecutionContext) (i : Nat) : StringPointers :=
  pointersBehind op (downwards ctx) w i (pointersOf ctx.state)

/-- The memory lets every element of a block through that is copied or filled,
and no data breakpoint watches one. -/
structure BlockAccess (op : StringOp) (w : Nat) (ctx : ExecutionContext) : Prop where
  source : op.usesRsi = true → ∀ i < counter ctx,
    ctx.memory.ReadableSpan (elementPointers op w ctx i).rsi w
  destination : ∀ i < counter ctx, ctx.memory.PlainSpan (elementPointers op w ctx i).rdi w
  quiet : ∀ i < counter ctx, elementHits op w (elementPointers op w ctx i) ctx.state = 0#64

section repeats

variable {op : StringOp} {w : Nat} {ctx : ExecutionContext}

/-- The rule for a repeat, from the first element on. -/
theorem repeat_rule (hrep : ctx.instr.repeats = true) {I : Nat → ExecutionContext → Prop}
    (hstart : I 0 ctx)
    (hstep : ∀ i c, i < counter ctx → I i c →
      (0 < i → endsOnZf op ctx.instr.hasRepnePrefix c.state.rflags = false) →
      ∃ c', elementEffect op w (elementPointers op w ctx i) c = .ok () c' ∧
        elementHits op w (elementPointers op w ctx i) c'.state = 0#64 ∧ I (i + 1) c') :
    ∃ k c, k ≤ counter ctx ∧ (0 < counter ctx → 0 < k) ∧ I k c ∧
      (k = counter ctx ∨ endsOnZf op ctx.instr.hasRepnePrefix c.state.rflags = true) ∧
      (k = 0 → c = ctx) ∧
      stringImpl op w ctx = .ok ()
        { c with
          state := savePointers op true (elementPointers op w ctx k) (counter ctx - k) c.state } := by
  rcases Nat.eq_zero_or_pos (counter ctx) with hzero | hpos
  · -- nothing to do
    have hrcx : ctx.state.gpr 1 = 0#64 := BitVec.eq_of_toNat_eq hzero
    have hself : savePointers op true (elementPointers op w ctx 0) 0 ctx.state = ctx.state := by
      unfold elementPointers
      rw [pointersBehind_zero]
      exact savePointers_self op 0 ctx.state hrcx
    refine ⟨0, ctx, Nat.zero_le _, fun h => absurd h (by omega), hstart, Or.inl hzero.symm, fun _ => rfl,
      ?_⟩
    rw [hzero, hself]
    exact stringImpl_zero op w ctx hrep hrcx
  · have himpl : stringImpl op w ctx = stringLoop op w true ctx.instr.hasRepnePrefix (downwards ctx)
        (counter ctx) (pointersOf ctx.state) ctx := by
      have hrep' : (ctx.instr.hasRepPrefix || ctx.instr.hasRepnePrefix) = true := hrep
      unfold stringImpl
      simp only [hrep', if_true]
      rfl
    obtain ⟨k, c, hk, hle, hI, hend, hrun⟩ := stringLoop_rule hstep hpos hstart
    exact ⟨k, c, hle, fun _ => hk, hI, hend, fun h => absurd h (by omega), himpl.trans hrun⟩

end repeats

/-! ## Copying -/

section copies

variable {w : Nat} {ctx : ExecutionContext}

/-- The bytes of the pages. -/
def bytesOf (ctx : ExecutionContext) : U64 → Option Byte := byteAt ctx.memory.pages

/-- A run of stores so far: only the memory has changed, and it is open to the
same accesses. -/
structure StoredRun (ctx : ExecutionContext) (μ : U64 → Option Byte) (c : ExecutionContext) :
    Prop where
  rest : c = { ctx with memory := c.memory }
  access : Memory.SameAccess ctx.memory c.memory
  bytes : bytesOf c = μ

/-- No element stored. -/
theorem StoredRun.refl (ctx : ExecutionContext) : StoredRun ctx (bytesOf ctx) ctx :=
  ⟨rfl, Memory.SameAccess.refl _, rfl⟩

/-- One store more. -/
theorem StoredRun.store {μ : U64 → Option Byte} {c : ExecutionContext} (h : StoredRun ctx μ c)
    (hpos : 0 < w) (hle : w ≤ 8) {a : U64} (hspan : ctx.memory.PlainSpan a w) (value : U64) :
    ∃ c', writeMemoryChecked a value w c = .ok () c' ∧
      StoredRun ctx (fun x => (toBytes value w)[(x - a).toNat]?.or (μ x)) c' := by
  have hspan' := hspan.sameAccess h.access
  refine ⟨_, writeMemoryChecked_ok (hspan'.accepts hpos hle value), ?_, ?_, ?_⟩
  · rw [h.rest]
  · exact h.access.trans (c.memory.stored_sameAccess a value hle)
  · rw [← h.bytes]
    funext x
    exact hspan'.stored_byte hpos hle value x

/-- The element that `MOVS` moves. -/
theorem StoredRun.copy {μ : U64 → Option Byte} {c : ExecutionContext} (h : StoredRun ctx μ c)
    (hpos : 0 < w) (hle : w ≤ 8) {p : StringPointers} (hsource : ctx.memory.ReadableSpan p.rsi w)
    (hdestination : ctx.memory.PlainSpan p.rdi w) :
    ∃ c', elementEffect .movs w p c = .ok () c' ∧
      StoredRun ctx (copyElement w p.rsi p.rdi μ) c' := by
  obtain ⟨bytes, hread, hlen, hat⟩ := (hsource.sameAccess h.access).read_bytes hpos
  obtain ⟨c', hwrite, hrun⟩ := h.store hpos hle hdestination (truncate (fromBytes bytes) w)
  refine ⟨c', (bind_ok (readMemoryChecked_some hread)).trans hwrite, hrun.rest, hrun.access, ?_⟩
  have hbytes : toBytes (truncate (fromBytes bytes) w) w = bytes := by
    rw [truncate_fromBytes hlen hle]
    exact ((fromBytes_eq_iff hlen hle _).mp rfl).1.symm
  rw [hrun.bytes, hbytes]
  funext x
  unfold copyElement
  -- Inside the element the byte is the source's at the same distance.
  split
  next hin =>
    have hone : byteAt c.memory.pages (p.rsi + (x - p.rdi)) = bytes[(x - p.rdi).toNat]? := by
      have hi := hat _ hin
      rw [BitVec.ofNat_toNat, BitVec.setWidth_eq] at hi
      exact hi
    rw [List.getElem?_eq_getElem (by omega)] at hone ⊢
    rw [← h.bytes]
    exact hone.symm
  next hout =>
    rw [List.getElem?_eq_none (by omega)]
    rfl

/-- The memory after `i` elements of `MOVS`. -/
def movedBytes (w : Nat) (ctx : ExecutionContext) (i : Nat) : U64 → Option Byte :=
  copyBlock (downwards ctx) w i (ctx.state.gpr 6) (ctx.state.gpr 7) (bytesOf ctx)

/-- The memory after `i` elements of `STOS`. -/
def filledBytes (w : Nat) (ctx : ExecutionContext) (i : Nat) : U64 → Option Byte :=
  fillBlock (downwards ctx) w (fun j => (toBytes (ctx.state.gpr 0) w)[j]?) i (ctx.state.gpr 7)
    (bytesOf ctx)

/-- Step: one element moved. -/
theorem movs_step (hpos : 0 < w) (hle : w ≤ 8) (haccess : BlockAccess .movs w ctx) {i : Nat}
    {c : ExecutionContext} (hi : i < counter ctx) (hrun : StoredRun ctx (movedBytes w ctx i) c) :
    ∃ c', elementEffect .movs w (elementPointers .movs w ctx i) c = .ok () c' ∧
      elementHits .movs w (elementPointers .movs w ctx i) c'.state = 0#64 ∧
      StoredRun ctx (movedBytes w ctx (i + 1)) c' := by
  obtain ⟨c', heffect, hrun'⟩ :=
    hrun.copy hpos hle (haccess.source rfl i hi) (haccess.destination i hi)
  have hsucc : movedBytes w ctx (i + 1) = copyElement w (elementPointers .movs w ctx i).rsi
      (elementPointers .movs w ctx i).rdi (movedBytes w ctx i) := copyBlock_succ ..
  rw [hsucc]
  refine ⟨c', heffect, ?_, hrun'⟩
  rw [hrun'.rest]
  exact haccess.quiet i hi

/-- The element's bytes are the low ones. -/
theorem toBytes_truncate (value : U64) (hle : w ≤ 8) : toBytes (truncate value w) w = toBytes value w := by
  have hword : fromBytes (toBytes value w) = truncate value w := fromBytes_toBytes_of_le value hle
  exact ((fromBytes_eq_iff (toBytes_length value w) hle _).mp hword).1.symm

/-- Step: one element filled. -/
theorem stos_step (hpos : 0 < w) (hle : w ≤ 8) (haccess : BlockAccess .stos w ctx) {i : Nat}
    {c : ExecutionContext} (hi : i < counter ctx) (hrun : StoredRun ctx (filledBytes w ctx i) c) :
    ∃ c', elementEffect .stos w (elementPointers .stos w ctx i) c = .ok () c' ∧
      elementHits .stos w (elementPointers .stos w ctx i) c'.state = 0#64 ∧
      StoredRun ctx (filledBytes w ctx (i + 1)) c' := by
  have hvalue : readRegister c.state .rax &&& maskForWidth w = truncate (ctx.state.gpr 0) w := by
    rw [hrun.rest]
    rfl
  obtain ⟨c', hwrite, hrun'⟩ := hrun.store hpos hle (haccess.destination i hi)
    (truncate (ctx.state.gpr 0) w)
  have hsucc : filledBytes w ctx (i + 1) =
      fillElement w (fun j => (toBytes (ctx.state.gpr 0) w)[j]?)
        (elementPointers .stos w ctx i).rdi (filledBytes w ctx i) := fillBlock_succ ..
  -- The element stores the low bytes of RAX, hits nothing, and fills one element more.
  refine ⟨c', ?_, ?_, hrun'.rest, hrun'.access, ?_⟩
  · show writeMemoryChecked _ (readRegister c.state .rax &&& maskForWidth w) w c = _
    rw [hvalue]
    exact hwrite
  · rw [hrun'.rest]
    exact haccess.quiet i hi
  · rw [hrun'.bytes, hsucc, toBytes_truncate _ hle]
    funext x
    unfold fillElement
    split
    next hin =>
      have hsome : ∃ b, (toBytes (ctx.state.gpr 0) w)[(x - (elementPointers .stos w ctx i).rdi).toNat]? =
          some b := ⟨_, List.getElem?_eq_getElem (by rw [toBytes_length]; exact hin)⟩
      obtain ⟨b, hb⟩ := hsome
      rw [hb]
      exact hb.symm
    next hout =>
      rw [List.getElem?_eq_none (by rw [toBytes_length]; omega)]
      rfl

/-- A repeat that only stores runs through, with what its elements store. -/
theorem rep_stores {op : StringOp} (hop : op.writes = true) (hrep : ctx.instr.repeats = true)
    {μ : Nat → U64 → Option Byte} (hstart : μ 0 = bytesOf ctx)
    (hstep : ∀ i c, i < counter ctx → StoredRun ctx (μ i) c →
      ∃ c', elementEffect op w (elementPointers op w ctx i) c = .ok () c' ∧
        elementHits op w (elementPointers op w ctx i) c'.state = 0#64 ∧ StoredRun ctx (μ (i + 1)) c') :
    ∃ m, stringImpl op w ctx = .ok ()
        { ctx with
          state := savePointers op true (elementPointers op w ctx (counter ctx)) 0 ctx.state
          memory := m } ∧
      Memory.SameAccess ctx.memory m ∧ byteAt m.pages = μ (counter ctx) := by
  have hcompares : op.compares = false := by
    cases op with
    | movs => rfl
    | stos => rfl
    | lods => cases hop
    | cmps => cases hop
    | scas => cases hop
  obtain ⟨k, c, hk, -, hrun, hend, -, himpl⟩ := repeat_rule hrep (hstart ▸ StoredRun.refl ctx)
    fun i c hi hrun _ => hstep i c hi hrun
  -- Neither MOVS nor STOS looks at the zero flag, so the repeat ends at its count.
  have hall : k = counter ctx := by
    rcases hend with h | h
    · exact h
    · unfold endsOnZf at h
      rw [hcompares] at h
      cases h
  subst hall
  rw [Nat.sub_self, hrun.rest] at himpl
  exact ⟨c.memory, himpl, hrun.access, hrun.bytes⟩

/-- A block copy of `n` elements: they are moved one after the other, and
nothing else is. Where the destination lies then tells the bytes, unless it is
less than an element ahead of the source. -/
structure BlockMoved (down : Bool) (w n : Nat) (source destination : U64)
    (before after : U64 → Option Byte) : Prop where
  elements : after = copyBlock down w n source destination before
  frame : ∀ x, ¬depth down w destination x < n * w → after x = before x
  apart : lead down source destination = 0 ∨ n * w ≤ lead down source destination →
    ∀ x, after x =
      if depth down w destination x < n * w then before (source + (x - destination)) else before x
  overlap : w ≤ lead down source destination → n * w + lead down source destination < 2 ^ 64 →
    ∀ x, after x =
      if depth down w destination x < n * w then
        before (if down then
            source + BitVec.ofNat 64 (w - 1) -
              BitVec.ofNat 64 (depth down w destination x % lead down source destination)
          else source + BitVec.ofNat 64 (depth down w destination x % lead down source destination))
      else before x

/-- The registers of a repeat that has come to its end. -/
def repeatDone (op : StringOp) (w : Nat) (ctx : ExecutionContext) : CpuState :=
  savePointers op true (elementPointers op w ctx (counter ctx)) 0 ctx.state

/-- Three bytes, one behind the other, in a fresh page whose first byte is
set. -/
def blockContext (repne : Bool) : ExecutionContext where
  state := { mode := .long64
             gpr := fun i => if i = 0 then 0x5A#64 else if i = 1 then 3#64 else
               if i = 6 then 0x1000#64 else if i = 7 then 0x1001#64 else 0#64 }
  memory := ((({} : Memory).map 0x1000#64 0x1000#64 kMemoryPermissionReadWrite).writeUnchecked
    0x1000#64 [0x5A#8]).1
  instr := { code := .other 0, length := 2, hasRepPrefix := !repne, hasRepnePrefix := repne,
             opKind := fun _ => .register, opRegister := fun _ => .al, memoryBase := .none }
  nextRip := 2#64

/-- The block is readable. -/
theorem blockContext_readable (repne : Bool) {i : Nat} (hi : i < 4) :
    (blockContext repne).memory.ReadableSpan (0x1000#64 + BitVec.ofNat 64 i) 1 := by
  refine ⟨rfl, rfl, fun _ _ _ => rfl, ?_⟩
  revert i
  cases repne <;> decide +kernel

/-- The block is plain. -/
theorem blockContext_plain (repne : Bool) {i : Nat} (hi : i < 4) :
    (blockContext repne).memory.PlainSpan (0x1000#64 + BitVec.ofNat 64 i) 1 := by
  refine ⟨⟨rfl, rfl⟩, rfl, fun _ _ _ => rfl, ?_⟩
  revert i
  cases repne <;> decide +kernel

/-- Three elements. -/
theorem blockContext_counter (repne : Bool) : counter (blockContext repne) = 3 := by
  cases repne <;> rfl

/-- The sources. -/
theorem blockContext_source {op : StringOp} (h : op.usesRsi = true) (repne : Bool) :
    ∀ i < 3, (elementPointers op 1 (blockContext repne) i).rsi = 0x1000#64 + BitVec.ofNat 64 i := by
  revert h
  cases op <;> cases repne <;> decide +kernel

/-- The targets. -/
theorem blockContext_target {op : StringOp} (h : op.usesRdi = true) (repne : Bool) :
    ∀ i < 3, (elementPointers op 1 (blockContext repne) i).rdi =
      0x1000#64 + BitVec.ofNat 64 (i + 1) := by
  revert h
  cases op <;> cases repne <;> decide +kernel

/-- Nothing is watched. -/
theorem blockContext_quiet (op : StringOp) (repne : Bool) (p : StringPointers) :
    elementHits op 1 p (blockContext repne).state = 0#64 := by
  have hdr : (blockContext repne).state.dr 7 = 0#64 := rfl
  cases op <;> simp [elementHits, debugDataBreakpointHits_disabled hdr]

/-- The block is accessible. -/
theorem blockContext_access {op : StringOp} (hop : op.writes = true) (repne : Bool) :
    BlockAccess op 1 (blockContext repne) := by
  have htarget : op.usesRdi = true := by
    cases op <;> first | rfl | cases hop
  have hcount := blockContext_counter repne
  refine ⟨fun h i hi => ?_, fun i hi => ?_, fun i _ => blockContext_quiet op repne _⟩
  · rw [hcount] at hi
    rw [blockContext_source h repne i hi]
    exact blockContext_readable repne (by omega)
  · rw [hcount] at hi
    rw [blockContext_target htarget repne i hi]
    exact blockContext_plain repne (by omega)

/-- **`REP MOVS` copies a block**, up or down: the counter ends at zero, the
pointers behind the blocks, and only the destination changes. Apart from its
source, the destination is a copy of what the source was; overlapping it in
the direction of the copy, by whole elements, it repeats the bytes in front of
it. -/
theorem rep_movs_copies (width : RmWidth) (hrep : ctx.instr.repeats = true)
    (haccess : BlockAccess .movs width.bytes ctx) (hspan : counter ctx * width.bytes < 2 ^ 64) :
    ∃ m, stringImpl .movs width.bytes ctx =
        .ok () { ctx with state := repeatDone .movs width.bytes ctx, memory := m } ∧
      Memory.SameAccess ctx.memory m ∧
      BlockMoved (downwards ctx) width.bytes (counter ctx) (ctx.state.gpr 6) (ctx.state.gpr 7)
        (bytesOf ctx) (byteAt m.pages) := by
  obtain ⟨hpos, hle⟩ := width.bytes_bounds
  obtain ⟨m, hrun, hsame, hbytes⟩ := @rep_stores width.bytes ctx .movs rfl hrep
    (movedBytes width.bytes ctx) rfl fun i c hi h => movs_step hpos hle haccess hi h
  refine ⟨m, hrun, hsame, ?_⟩
  rw [hbytes]
  exact ⟨rfl, copyBlock_frame (by omega) hspan, copyBlock_apart (by omega) hspan,
    copyBlock_overlap (by omega)⟩

/-- One byte spread over the three behind it. -/
theorem rep_movs_spreads : ∃ m, stringImpl .movs 1 (blockContext false) =
      .ok () { blockContext false with state := repeatDone .movs 1 (blockContext false), memory := m } ∧
    byteAt m.pages 0x1003#64 = some 0x5A#8 := by
  obtain ⟨m, hrun, -, hmoved⟩ :=
    rep_movs_copies .rm8 rfl (blockContext_access rfl false) (by decide +kernel)
  refine ⟨m, hrun, ?_⟩
  rw [hmoved.overlap (by decide +kernel) (by decide +kernel)]
  decide +kernel

/-- **`REP STOS` fills a block**, up or down, with the element in `RAX`. -/
theorem rep_stos_fills (width : RmWidth) (hrep : ctx.instr.repeats = true)
    (haccess : BlockAccess .stos width.bytes ctx) (hspan : counter ctx * width.bytes < 2 ^ 64) :
    ∃ m, stringImpl .stos width.bytes ctx =
        .ok () { ctx with state := repeatDone .stos width.bytes ctx, memory := m } ∧
      Memory.SameAccess ctx.memory m ∧
      ∀ x, byteAt m.pages x =
        if depth (downwards ctx) width.bytes (ctx.state.gpr 7) x < counter ctx * width.bytes then
          (toBytes (ctx.state.gpr 0) width.bytes)[if downwards ctx then
              width.bytes - 1 - depth (downwards ctx) width.bytes (ctx.state.gpr 7) x % width.bytes
            else depth (downwards ctx) width.bytes (ctx.state.gpr 7) x % width.bytes]?
        else bytesOf ctx x := by
  obtain ⟨hpos, hle⟩ := width.bytes_bounds
  obtain ⟨m, hrun, hsame, hbytes⟩ := @rep_stores width.bytes ctx .stos rfl hrep
    (filledBytes width.bytes ctx) rfl fun i c hi h => stos_step hpos hle haccess hi h
  refine ⟨m, hrun, hsame, ?_⟩
  rw [hbytes]
  exact fillBlock_eq (by omega) hspan

/-- Three bytes filled with `AL`, and none behind them. -/
theorem rep_stos_bounds : ∃ m, stringImpl .stos 1 (blockContext false) =
      .ok () { blockContext false with state := repeatDone .stos 1 (blockContext false), memory := m } ∧
    byteAt m.pages 0x1003#64 = some 0x5A#8 ∧ byteAt m.pages 0x1004#64 = some 0#8 := by
  obtain ⟨m, hrun, -, hfilled⟩ :=
    rep_stos_fills .rm8 rfl (blockContext_access rfl false) (by decide +kernel)
  refine ⟨m, hrun, ?_⟩
  rw [hfilled, hfilled]
  decide +kernel

end copies

/-! ## Searching -/

/-- What the comparison of two elements does to the flags. -/
theorem compareElements_run {w : Nat} (hw : w ≤ 8) (lhs rhs : U64) (c : ExecutionContext) :
    compareElements w lhs rhs c = .ok ()
      { c with state := setFlags c.state (setSubFlags c.state.rflags lhs rhs (lhs - rhs) w false) } := by
  have hresult : truncate (truncate (truncate lhs w - truncate rhs w) w) w = truncate (lhs - rhs) w := by
    rw [truncate_truncate, truncate_eq_iff hw, unsignedAt_sub _ _ hw, unsignedAt_sub _ _ hw,
      unsignedAt_truncate hw, unsignedAt_truncate hw]
  have hflags : setSubFlags c.state.rflags (truncate lhs w) (truncate rhs w)
      (truncate (truncate lhs w - truncate rhs w) w) w false =
        setSubFlags c.state.rflags lhs rhs (lhs - rhs) w false := by
    have hl : truncate lhs w &&& maskForWidth w = lhs &&& maskForWidth w := truncate_truncate lhs w
    have hr : truncate rhs w &&& maskForWidth w = rhs &&& maskForWidth w := truncate_truncate rhs w
    have hd : truncate (truncate lhs w - truncate rhs w) w &&& maskForWidth w =
        (lhs - rhs) &&& maskForWidth w := hresult
    unfold setSubFlags
    simp only [hl, hr, hd]
  exact congrArg (fun r => EStateM.Result.ok () { c with state := setFlags c.state r }) hflags

/-- A bit after a flag was set. -/
theorem setFlag_getLsbD {k : Nat} (hk : k < 64) (rflags : U64) (value : Bool) (i : Nat) :
    (setFlag rflags (1#64 <<< k) value).getLsbD i = if i = k then value else rflags.getLsbD i := by
  split
  next h =>
    subst h
    have hbit : 1#64 <<< i ≠ 0#64 := by
      intro hzero
      have hone : (1#64 <<< i).getLsbD i = true := by
        rw [← BitVec.twoPow_eq, BitVec.getLsbD_twoPow, decide_eq_true hk, decide_eq_true rfl,
          Bool.and_self]
      rw [hzero, BitVec.getLsbD_zero] at hone
      cases hone
    have hself := flagSet_setFlag_self hbit rflags value
    rw [flagSet_shift _ hk] at hself
    exact hself
  next h => exact setFlag_getLsbD_ne h rflags value

/-- Every status flag is set anew, so a second comparison forgets the first. -/
theorem setSubFlags_again (rflags a b r a' b' r' : U64) (w : Nat) (c c' : Bool) :
    setSubFlags (setSubFlags rflags a b r w c) a' b' r' w c' = setSubFlags rflags a' b' r' w c' := by
  apply BitVec.eq_of_getLsbD_eq
  intro i hi
  by_cases h : notStatus i
  · rw [setSubFlags_frame h, setSubFlags_frame h, setSubFlags_frame h]
  · generalize setSubFlags rflags a b r w c = before
    unfold setSubFlags setResultFlags kFlagCF kFlagAF kFlagZF kFlagSF kFlagPF kFlagOF
    simp only [setFlag_getLsbD (show 0 < 64 by decide), setFlag_getLsbD (show 2 < 64 by decide),
      setFlag_getLsbD (show 4 < 64 by decide), setFlag_getLsbD (show 6 < 64 by decide),
      setFlag_getLsbD (show 7 < 64 by decide), setFlag_getLsbD (show 11 < 64 by decide)]
    unfold notStatus at h
    have hcases : i = 0 ∨ i = 2 ∨ i = 4 ∨ i = 6 ∨ i = 7 ∨ i = 11 := by omega
    rcases hcases with rfl | rfl | rfl | rfl | rfl | rfl <;> rfl

section searches

variable {op : StringOp} {w : Nat} {ctx : ExecutionContext}

/-- The element at an address. -/
def elementAt (w : Nat) (ctx : ExecutionContext) (a : U64) : U64 :=
  fromBytes ((ctx.memory.read a w .dataRead).getD [])

/-- The two values that the `i`-th element compares. -/
def comparands (op : StringOp) (w : Nat) (ctx : ExecutionContext) (i : Nat) : U64 × U64 :=
  match op with
  | .cmps =>
    (elementAt w ctx (elementPointers .cmps w ctx i).rsi,
      elementAt w ctx (elementPointers .cmps w ctx i).rdi)
  | op => (ctx.state.gpr 0, elementAt w ctx (elementPointers op w ctx i).rdi)

/-- Does the `i`-th element end the search? `REPNE` looks for a match, `REPE`
for a difference. -/
def endsSearch (op : StringOp) (w : Nat) (ctx : ExecutionContext) (i : Nat) : Bool :=
  (truncate (comparands op w ctx i).1 w == truncate (comparands op w ctx i).2 w) ==
    ctx.instr.hasRepnePrefix

/-- The search gets to the `i`-th element: none before it has ended it. -/
def LookedAt (op : StringOp) (w : Nat) (ctx : ExecutionContext) (i : Nat) : Prop :=
  i < counter ctx ∧ ∀ j < i, endsSearch op w ctx j = false

/-- The memory lets every element through that the search gets to, and no data
breakpoint watches one. What lies behind the end of the search is not asked
about. -/
structure SearchAccess (op : StringOp) (w : Nat) (ctx : ExecutionContext) : Prop where
  source : op.usesRsi = true → ∀ i, LookedAt op w ctx i →
    ctx.memory.ReadableSpan (elementPointers op w ctx i).rsi w
  target : ∀ i, LookedAt op w ctx i → ctx.memory.ReadableSpan (elementPointers op w ctx i).rdi w
  quiet : ∀ i, LookedAt op w ctx i → elementHits op w (elementPointers op w ctx i) ctx.state = 0#64

/-- The context behind `k` elements, pointers and counter aside. -/
def searched (op : StringOp) (w : Nat) (ctx : ExecutionContext) : Nat → ExecutionContext
  | 0 => ctx
  | k + 1 =>
    { ctx with
      state := setFlags ctx.state
        (setSubFlags ctx.state.rflags (comparands op w ctx k).1 (comparands op w ctx k).2
          ((comparands op w ctx k).1 - (comparands op w ctx k).2) w false) }

/-- A search changes the flags only. -/
theorem searched_rest (k : Nat) :
    searched op w ctx k = { ctx with state := setFlags ctx.state (searched op w ctx k).state.rflags } := by
  cases k <;> rfl

/-- To those of its last comparison. -/
theorem searched_rflags (k : Nat) :
    (searched op w ctx (k + 1)).state.rflags =
      setSubFlags ctx.state.rflags (comparands op w ctx k).1 (comparands op w ctx k).2
        ((comparands op w ctx k).1 - (comparands op w ctx k).2) w false := rfl

/-- The flags behind an element tell whether it ends the search. -/
theorem endsOnZf_searched (hop : op.compares = true) (hw : w ≤ 8) (k : Nat) :
    endsOnZf op ctx.instr.hasRepnePrefix (searched op w ctx (k + 1)).state.rflags =
      endsSearch op w ctx k := by
  have hzf : flagSet (searched op w ctx (k + 1)).state.rflags kFlagZF =
      (truncate (comparands op w ctx k).1 w == truncate (comparands op w ctx k).2 w) := by
    rw [searched_rflags, setSubFlags_equal hw, Bool.eq_iff_iff, decide_eq_true_iff, beq_iff_eq,
      truncate_eq_iff hw]
  unfold endsOnZf endsSearch
  rw [hop, hzf, Bool.true_and]
  cases ctx.instr.hasRepnePrefix <;>
    cases (truncate (comparands op w ctx k).1 w == truncate (comparands op w ctx k).2 w) <;> rfl

/-- An element of the block is read. -/
theorem elementAt_read (hpos : 0 < w) {a : U64} (h : ctx.memory.ReadableSpan a w) {c : ExecutionContext}
    (hc : c.memory = ctx.memory) : readMemoryChecked a w c = .ok (elementAt w ctx a) c := by
  obtain ⟨bytes, hread, _⟩ := h.read_bytes hpos
  have hvalue : elementAt w ctx a = fromBytes bytes := by
    unfold elementAt
    rw [hread]
    rfl
  rw [hvalue]
  exact readMemoryChecked_some (hc ▸ hread)

/-- One element of a search. -/
theorem searched_step (hop : op.compares = true) (hpos : 0 < w) (hw : w ≤ 8)
    (haccess : SearchAccess op w ctx) {k : Nat} (hk : LookedAt op w ctx k) :
    elementEffect op w (elementPointers op w ctx k) (searched op w ctx k) =
      .ok () (searched op w ctx (k + 1)) := by
  have hmemory : (searched op w ctx k).memory = ctx.memory := by
    rw [searched_rest]
  -- a comparison from the flags of the element before
  have hcompare : compareElements w (comparands op w ctx k).1 (comparands op w ctx k).2
      (searched op w ctx k) = .ok () (searched op w ctx (k + 1)) := by
    have hagain : setSubFlags (searched op w ctx k).state.rflags (comparands op w ctx k).1
        (comparands op w ctx k).2 ((comparands op w ctx k).1 - (comparands op w ctx k).2) w false =
          (searched op w ctx (k + 1)).state.rflags := by
      cases k with
      | zero => rfl
      | succ j => exact setSubFlags_again ..
    rw [compareElements_run hw, hagain, searched_rest k]
    rfl
  cases op with
  | movs => cases hop
  | stos => cases hop
  | lods => cases hop
  | cmps =>
    have hsource := elementAt_read hpos (haccess.source rfl k hk) hmemory
    have htarget := elementAt_read hpos (haccess.target k hk) hmemory
    exact (bind_ok hsource).trans ((bind_ok htarget).trans hcompare)
  | scas =>
    have htarget := elementAt_read hpos (haccess.target k hk) hmemory
    have hrax : readRegister (searched .scas w ctx k).state .rax = ctx.state.gpr 0 := by
      rw [searched_rest]
      rfl
    refine (bind_ok htarget).trans ?_
    rw [hrax]
    exact hcompare

/-- **`REP CMPS` and `REP SCAS` find the first element that ends the search.**
The repeat stops behind it, or behind the last element when there is none; the
counter is the number of elements not looked at, and the flags are those of
the last comparison. Memory is only read. -/
theorem rep_compare_finds (hop : op.compares = true) (width : RmWidth)
    (hrep : ctx.instr.repeats = true) (haccess : SearchAccess op width.bytes ctx) :
    ∃ k ≤ counter ctx,
      stringImpl op width.bytes ctx = .ok ()
        { ctx with
          state := savePointers op true (elementPointers op width.bytes ctx k) (counter ctx - k)
            (searched op width.bytes ctx k).state } ∧
      (∀ j, j + 1 < k → endsSearch op width.bytes ctx j = false) ∧
      (k = counter ctx ∨ ∃ j, k = j + 1 ∧ endsSearch op width.bytes ctx j = true) ∧
      (0 < k → ∀ lhs rhs, comparands op width.bytes ctx (k - 1) = (lhs, rhs) →
        flagSet (searched op width.bytes ctx k).state.rflags kFlagZF =
            decide (unsignedAt width.bytes lhs = unsignedAt width.bytes rhs) ∧
          flagSet (searched op width.bytes ctx k).state.rflags kFlagCF =
            decide (unsignedAt width.bytes lhs < unsignedAt width.bytes rhs)) := by
  obtain ⟨hpos, hle⟩ := width.bytes_bounds
  obtain ⟨k, c, hk, hsome, ⟨hc, hbefore⟩, hend, -, himpl⟩ := @repeat_rule op width.bytes ctx hrep
    (fun i c => c = searched op width.bytes ctx i ∧
      ∀ j, j + 1 < i → endsSearch op width.bytes ctx j = false)
    ⟨rfl, fun j hj => absurd hj (Nat.not_lt_zero _)⟩ (by
      -- An element not looked at before ends nothing, or the repeat would have stopped there.
      rintro i c hi ⟨rfl, hbefore⟩ hgoing
      have hnone : ∀ j < i, endsSearch op width.bytes ctx j = false := by
        intro j hj
        rcases Nat.lt_or_ge (j + 1) i with hlt | hge
        · exact hbefore j hlt
        · obtain rfl : i = j + 1 := by omega
          rw [← endsOnZf_searched hop hle]
          exact hgoing (Nat.succ_pos j)
      refine ⟨_, searched_step hop hpos hle haccess ⟨hi, hnone⟩, ?_, rfl, fun j hj => ?_⟩
      · rw [searched_rest]
        exact haccess.quiet i ⟨hi, hnone⟩
      · exact hnone j (by omega))
  subst hc
  refine ⟨k, hk, ?_, hbefore, ?_, ?_⟩
  · rw [himpl, searched_rest]
  · rcases hend with h | h
    · exact Or.inl h
    -- With a count of zero no element is looked at.
    · cases k with
      | zero =>
        rcases Nat.eq_zero_or_pos (counter ctx) with hzero | hpos'
        · exact Or.inl hzero.symm
        · exact absurd (hsome hpos') (Nat.lt_irrefl 0)
      | succ j =>
        rw [endsOnZf_searched hop hle] at h
        exact Or.inr ⟨j, rfl, h⟩
  · intro hk' lhs rhs hpair
    obtain ⟨j, rfl⟩ : ∃ j, k = j + 1 := ⟨k - 1, by omega⟩
    rw [Nat.add_sub_cancel] at hpair
    rw [searched_rflags, hpair, setSubFlags_equal hle, setSubFlags_carry hpos hle]
    exact ⟨rfl, rfl⟩

/-- The block can be searched. -/
theorem blockContext_search {op : StringOp} (hop : op.compares = true) (repne : Bool) :
    SearchAccess op 1 (blockContext repne) := by
  have htarget : op.usesRdi = true := by
    cases op <;> first | rfl | cases hop
  have hcount := blockContext_counter repne
  refine ⟨fun h i hi => ?_, fun i hi => ?_, fun i _ => blockContext_quiet op repne _⟩
  · have hlt := hcount ▸ hi.1
    rw [blockContext_source h repne i hlt]
    exact blockContext_readable repne (by omega)
  · have hlt := hcount ▸ hi.1
    rw [blockContext_target htarget repne i hlt]
    exact blockContext_readable repne (by omega)

/-- `REPNE SCASB` for a byte that is not there looks at all three. -/
theorem repne_scas_none : ∃ c, stringImpl .scas 1 (blockContext true) = .ok () c ∧
    c.state.gpr 1 = 0#64 ∧ c.state.gpr 7 = 0x1004#64 := by
  obtain ⟨k, hk, hrun, -, hend, -⟩ :=
    rep_compare_finds rfl .rm8 rfl (@blockContext_search .scas rfl true)
  refine ⟨_, hrun, ?_⟩
  have hnone : ∀ j < 3, endsSearch .scas 1 (blockContext true) j = false := by decide +kernel
  have hcount : counter (blockContext true) = 3 := rfl
  rcases hend with rfl | ⟨j, rfl, hj⟩
  · decide +kernel
  · exact absurd ((hnone j (by omega)).symm.trans hj) (by decide)

end searches

end Seven
