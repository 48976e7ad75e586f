import Seven.Handlers.X87Spans
import Seven.Handlers.X87Operands
import Seven.Handlers.Faults

/-!
# Stores of the x87 that fault

An instruction that stores the x87 unit, or a number of it, and cannot write
its whole destination should fault and leave the machine alone. `FXSAVE` asks
before it writes. The stores of one number write until the memory refuses:
what they wrote up to there stays. `FNSTENV` and `FNSAVE` do not look at the
answers of the memory.

> `X87Store.precise_iff`: which of them faults precisely, and when.
-/

namespace Seven

open Seven.Lib

/-! ## Destinations -/

namespace Memory

/-- A destination that the pages decide about, and one of its bytes is not
writable. -/
structure Unwritable (m : Memory) (base : U64) (n : Nat) : Prop where
  noPassthrough : m.passthroughWrite = none
  noRegion : ∀ offset width, offset + width ≤ n →
    m.findMmioRegion (base + BitVec.ofNat 64 offset) width = none
  blocked : ∃ i < n,
    accessible (hasPermission · .dataWrite) m.pages (base + BitVec.ofNat 64 i) = false

/-- The stores that are made: up to the first that is refused. -/
def attempted (m : Memory) (base : U64) : List (Nat × U64 × Nat) → List (Nat × U64 × Nat)
  | [] => []
  | p :: rest =>
    if m.accepts (base + BitVec.ofNat 64 p.1) p.2.1 p.2.2 then p :: attempted m base rest else [p]

/-- Which stores are tried does not depend on the bytes. -/
theorem attempted_congr {m m' : Memory} (h : SameAccess m m') (base : U64) :
    ∀ {stores : List (Nat × U64 × Nat)}, (∀ p ∈ stores, p.2.2 ≤ 8) →
      attempted m' base stores = attempted m base stores := by
  intro stores
  induction stores with
  | nil => exact fun _ => rfl
  | cons p rest ih =>
    intro hle
    unfold attempted
    rw [accepts_congr h _ _ (hle p List.mem_cons_self),
      ih fun q hq => hle q (List.mem_cons_of_mem _ hq)]

/-- They are a part of all, in order. -/
theorem attempted_sublist (m : Memory) (base : U64) :
    ∀ stores : List (Nat × U64 × Nat), (attempted m base stores).Sublist stores := by
  intro stores
  induction stores with
  | nil => exact List.Sublist.refl _
  | cons p rest ih =>
    unfold attempted
    split
    next => exact ih.cons_cons p
    next => exact (List.nil_sublist rest).cons_cons p

/-- A part of ordered stores is ordered. -/
theorem InOrder.sublist {n : Nat} {l l' : List (Nat × Nat)} (h : InOrder n l)
    (hsub : l'.Sublist l) : InOrder n l' :=
  ⟨fun p hp => h.fits p (hsub.subset hp), h.apart.sublist hsub⟩

/-- A store over the byte that blocks is refused. -/
theorem Unwritable.refuses {m : Memory} {base : U64} {n : Nat} (h : m.Unwritable base n)
    {stores : List (Nat × U64 × Nat)} (horder : InOrder n (placed stores))
    (hcover : ∀ i < n, ∃ p ∈ stores, p.1 ≤ i ∧ i < p.1 + p.2.2) :
    ∃ p ∈ stores, m.accepts (base + BitVec.ofNat 64 p.1) p.2.1 p.2.2 = false := by
  obtain ⟨i, hi, hblocked⟩ := h.blocked
  obtain ⟨p, hp, hle, hlt⟩ := hcover i hi
  obtain ⟨hpos, hwidth, hend⟩ := horder.fits _ (List.mem_map_of_mem hp)
  dsimp only at hpos hwidth hend
  have hlen := toBytes_length p.2.1 p.2.2
  refine ⟨p, hp, ?_⟩
  unfold accepts
  rw [write_eq_of_region h.noPassthrough (by rw [hlen]; exact h.noRegion p.1 p.2.2 hend)
    (List.length_pos_iff.mp (by omega))]
  split
  next =>
    rw [Bool.eq_false_iff]
    intro hok
    have hall := (writePages_ok_iff _ m _ (by omega)).mp hok (i - p.1) (by omega)
    rw [BitVec.add_assoc, ← BitVec.ofNat_add, Nat.add_sub_cancel' hle, hblocked] at hall
    cases hall
  next => rfl

end Memory

/-- Checked stores one of which is refused. -/
theorem storeWordsChecked_fault {base : U64} :
    ∀ {stores : List (Nat × U64 × Nat)} {ctx : ExecutionContext}, (∀ p ∈ stores, p.2.2 ≤ 8) →
      (∃ p ∈ stores, ctx.memory.accepts (base + BitVec.ofNat 64 p.1) p.2.1 p.2.2 = false) →
      ∃ r, storeWordsChecked base stores ctx = .error r { ctx with
        memory := ctx.memory.putAll base (ctx.memory.attempted base stores) } ∧ PageFault r := by
  intro stores
  induction stores with
  | nil =>
    rintro ctx _ ⟨p, hp, _⟩
    exact absurd hp List.not_mem_nil
  | cons p rest ih =>
    rintro ctx hle ⟨q, hq, hrefused⟩
    obtain ⟨offset, value, width⟩ := p
    unfold storeWordsChecked Memory.attempted
    by_cases hfirst : ctx.memory.accepts (base + BitVec.ofNat 64 offset) value width = true
    · have hwidth : width ≤ 8 := hle _ List.mem_cons_self
      have hsame := ctx.memory.stored_sameAccess (base + BitVec.ofNat 64 offset) value hwidth
      have hrest (r : Nat × U64 × Nat) (hr : r ∈ rest) : r.2.2 ≤ 8 :=
        hle r (List.mem_cons_of_mem _ hr)
      -- so the refused store is a later one, and is refused behind this one as well
      have hq : q ∈ rest := by
        rcases List.mem_cons.mp hq with rfl | hq
        · rw [hfirst] at hrefused
          cases hrefused
        · exact hq
      obtain ⟨r, hrun, hfault⟩ := @ih { ctx with
          memory := ctx.memory.stored (base + BitVec.ofNat 64 offset) value width } hrest
        ⟨q, hq, (Memory.accepts_congr hsame _ _ (hrest q hq)).trans hrefused⟩
      rw [bind_ok (writeMemoryChecked_ok hfirst), if_pos hfirst]
      refine ⟨r, hrun.trans ?_, hfault⟩
      rw [Memory.attempted_congr hsame base hrest, Memory.putAll_cons]
    · rw [Bool.not_eq_true] at hfirst
      rw [bind_error (writeMemoryChecked_error hfirst),
        if_neg (by rw [hfirst]; exact Bool.false_ne_true)]
      exact ⟨_, rfl, rfl⟩

/-! ## Stores of a number -/

/-- Bytes as stores of one byte. -/
def byteStores : Nat → List Byte → List (Nat × U64 × Nat)
  | _, [] => []
  | i, b :: bs => (i, b.setWidth 64, 1) :: byteStores (i + 1) bs

/-- Byte stores are word stores of one byte. -/
theorem storeBytesChecked_eq (base : U64) :
    ∀ (bytes : List Byte) (i : Nat),
      storeBytesChecked base i bytes = storeWordsChecked base (byteStores i bytes) := by
  intro bytes
  induction bytes with
  | nil => exact fun _ => rfl
  | cons b bytes ih =>
    intro i
    unfold storeBytesChecked byteStores storeWordsChecked
    rw [ih]

/-- Where they lie. -/
theorem placed_byteStores : ∀ (bytes : List Byte) (i : Nat),
    Memory.placed (byteStores i bytes) = (List.range bytes.length).map fun k => (i + k, 1) := by
  intro bytes
  induction bytes with
  | nil => exact fun _ => rfl
  | cons b bytes ih =>
    intro i
    have hrest := ih (i + 1)
    unfold Memory.placed at hrest
    unfold byteStores Memory.placed
    rw [List.map_cons, hrest, List.length_cons, List.range_succ_eq_map, List.map_cons, List.map_map]
    congr 1
    apply List.map_congr_left
    intro k _
    show (i + 1 + k, 1) = (i + (k + 1), 1)
    rw [Nat.add_assoc, Nat.add_comm 1 k]

/-- The stores cover the destination of `n` bytes. -/
structure Covers (n : Nat) (stores : List (Nat × U64 × Nat)) : Prop where
  inOrder : Memory.InOrder n (Memory.placed stores)
  all : ∀ i < n, ∃ p ∈ stores, p.1 ≤ i ∧ i < p.1 + p.2.2

/-- They cover the operand. -/
theorem covers_byteStores {bytes : List Byte} {n : Nat} (hlen : bytes.length = n) :
    Covers n (byteStores 0 bytes) := by
  have hplaced := placed_byteStores bytes 0
  rw [hlen] at hplaced
  refine ⟨?_, fun i hi => ?_⟩
  · rw [hplaced]
    exact Memory.inOrder_bytes (by omega)
  · have hmem : (i, 1) ∈ Memory.placed (byteStores 0 bytes) := by
      rw [hplaced]
      exact List.mem_map.mpr ⟨i, List.mem_range.mpr hi, by rw [Nat.zero_add]⟩
    obtain ⟨p, hp, heq⟩ := List.mem_map.mp hmem
    have hfirst := congrArg Prod.fst heq
    have hsecond := congrArg Prod.snd heq
    dsimp only at hfirst hsecond
    exact ⟨p, hp, by omega, by omega⟩

/-- One store covers it. -/
theorem covers_word (value : U64) {width : Nat} (hpos : 0 < width) (hle : width ≤ 8) :
    Covers width [(0, value, width)] := by
  refine ⟨⟨fun p hp => ?_, List.pairwise_singleton _ _⟩, fun i hi => ?_⟩
  · obtain rfl := List.mem_singleton.mp hp
    exact ⟨hpos, hle, by dsimp only; omega⟩
  · exact ⟨_, List.mem_singleton_self _, Nat.zero_le i, by dsimp only; omega⟩

/-- The stores of one number. -/
inductive X87NumberStore where
  | fstM32fp | fstM64fp | fstpM32fp | fstpM64fp | fstpM80fp
  | fistpM16int | fistpM32int | fistpM64int | fbstp
deriving DecidableEq

namespace X87NumberStore

/-- The operand's bytes. -/
def size : X87NumberStore → Nat
  | .fstM32fp | .fstpM32fp | .fistpM32int => 4
  | .fstM64fp | .fstpM64fp | .fistpM64int => 8
  | .fistpM16int => 2
  | .fstpM80fp | .fbstp => 10

/-- The instruction. -/
def transfer : X87NumberStore → X87Transfer
  | .fstM32fp => .fstM32fp
  | .fstM64fp => .fstM64fp
  | .fstpM32fp => .fstpM32fp
  | .fstpM64fp => .fstpM64fp
  | .fstpM80fp => .fstpM80fp
  | .fistpM16int => .fistpM16int
  | .fistpM32int => .fistpM32int
  | .fistpM64int => .fistpM64int
  | .fbstp => .fbstp

variable (F : SoftFloat)

/-- The integer that `FISTP` stores: rounded, or the smallest one when it does
not fit. -/
def storedInteger (s : CpuState) (bounds : Float80 × Float80) : U64 :=
  let rounded := x87RoundToControl F s (s.x87Get 0)
  let refused := rounded.isnan || rounded.isinf || F.extF80Lt rounded bounds.1 ||
    F.extF80Lt bounds.2 rounded
  F.extF80ToI64 (if refused then bounds.1 else rounded)

/-- The ten bytes of `FBSTP`. -/
def bcdImage (value : Float80) : List Byte :=
  let neg := F.extF80Lt value F.zero
  bcdDigits 9 (F.extF80ToUi64 (if neg then value.neg else value)) ++
    [if neg then 0x80#8 else 0x00#8]

/-- What it stores, from a register that is not empty. -/
def stores (s : CpuState) : X87NumberStore → List (Nat × U64 × Nat)
  | .fstM32fp | .fstpM32fp => [(0, (F.toFloat (s.x87Get 0)).setWidth 64, 4)]
  | .fstM64fp | .fstpM64fp => [(0, F.extF80ToF64 (s.x87Get 0), 8)]
  | .fstpM80fp => byteStores 0 ((Float80.encodeExt80 (s.x87Get 0)).take 10)
  | .fistpM16int => [(0, storedInteger F s (F.ofInt (-0x8000#32), F.ofInt 0x7FFF#32), 2)]
  | .fistpM32int => [(0, storedInteger F s (F.ofInt 0x80000000#32, F.ofInt 0x7FFFFFFF#32), 4)]
  | .fistpM64int =>
    [(0, storedInteger F s
      (F.i64ToExtF80 0x8000000000000000#64, F.i64ToExtF80 0x7FFFFFFFFFFFFFFF#64), 8)]
  | .fbstp => byteStores 0 (bcdImage F (s.x87Get 0))

/-- Two digits a byte. -/
theorem length_bcdDigits : ∀ (n : Nat) (v : U64), (bcdDigits n v).length = n := by
  intro n
  induction n with
  | zero => exact fun _ => rfl
  | succ n ih => exact fun v => congrArg Nat.succ (ih _)

/-- Ten bytes. -/
theorem length_bcdImage (value : Float80) : (bcdImage F value).length = 10 := by
  unfold bcdImage
  rw [List.length_append, length_bcdDigits]
  rfl

/-- Every store covers its operand. -/
theorem covers (c : X87NumberStore) (s : CpuState) : Covers c.size (c.stores F s) := by
  have hbytes : ((Float80.encodeExt80 (s.x87Get 0)).take 10).length = 10 := by
    rw [List.length_take, length_encodeExt80]
    rfl
  cases c with
  | fstpM80fp => exact covers_byteStores hbytes
  | fbstp => exact covers_byteStores (length_bcdImage F _)
  | fstM32fp => exact covers_word _ (by decide) (by decide)
  | fstM64fp => exact covers_word _ (by decide) (by decide)
  | fstpM32fp => exact covers_word _ (by decide) (by decide)
  | fstpM64fp => exact covers_word _ (by decide) (by decide)
  | fistpM16int => exact covers_word _ (by decide) (by decide)
  | fistpM32int => exact covers_word _ (by decide) (by decide)
  | fistpM64int => exact covers_word _ (by decide) (by decide)

/-! ### Runs -/

/-- A store that fails. -/
theorem of_storeWord_error {base value : U64} {width : Nat} {ctx c : ExecutionContext}
    {r : ExecutionResult} (h : storeWordsChecked base [(0, value, width)] ctx = .error r c) :
    writeMemoryChecked base value width ctx = .error r c := by
  have hrun : storeWordsChecked base [(0, value, width)] ctx =
      (writeMemoryChecked base value width >>= fun _ => pure ()) ctx := by
    unfold storeWordsChecked
    rw [BitVec.add_zero]
    rfl
  rw [hrun] at h
  cases hwrite : writeMemoryChecked base value width ctx with
  | ok u c' =>
    rw [bind_ok hwrite] at h
    cases h
  | error r' c' =>
    rw [bind_error hwrite] at h
    exact h

section nonempty

variable {F} {ctx c : ExecutionContext} {r : ExecutionResult}
  (hused : ctx.state.x87IsEmpty 0 = false)
include hused

/-- `FST` and `FSTP` fail with their store. -/
theorem x87StoreMem_error {width : Nat} {value : U64} {pop : Bool}
    (hvalue : width = 4 ∧ value = (F.toFloat (ctx.state.x87Get 0)).setWidth 64 ∨
      width = 8 ∧ value = F.extF80ToF64 (ctx.state.x87Get 0))
    (h : writeMemoryChecked (memoryAddress ctx.state ctx.instr) value width ctx = .error r c) :
    x87StoreMem F width pop ctx = .error r c := by
  have hget : (get : HandlerM ExecutionContext) ctx = .ok ctx ctx := rfl
  unfold x87StoreMem
  rw [bind_ok hget, if_neg (by rw [hused]; exact Bool.false_ne_true)]
  rcases hvalue with ⟨rfl, rfl⟩ | ⟨rfl, rfl⟩
  · exact bind_error h
  · exact bind_error h

/-- So do `FIST` and `FISTP`. -/
theorem x87StoreInteger_error {width : Nat} {bounds : Float80 × Float80}
    (hbounds : integerBounds F width = some bounds)
    (h : writeMemoryChecked (memoryAddress ctx.state ctx.instr) (storedInteger F ctx.state bounds)
      width ctx = .error r c) :
    x87StoreInteger F width true false ctx = .error r c := by
  have hget : (get : HandlerM ExecutionContext) ctx = .ok ctx ctx := rfl
  unfold x87StoreInteger
  rw [bind_ok hget, if_neg (by rw [hused]; exact Bool.false_ne_true), hbounds]
  exact bind_error h

/-- So does `FSTP m80`, byte by byte. -/
theorem fstpM80fp_error
    (h : storeBytesChecked (memoryAddress ctx.state ctx.instr) 0
      ((Float80.encodeExt80 (ctx.state.x87Get 0)).take 10) ctx = .error r c) :
    x87FstpM80fp ctx = .error r c := by
  have hget : (get : HandlerM ExecutionContext) ctx = .ok ctx ctx := rfl
  unfold x87FstpM80fp
  rw [bind_ok hget, if_neg (by rw [hused]; exact Bool.false_ne_true)]
  exact bind_error h

/-- So does `FBSTP`. -/
theorem fbstp_error
    (h : storeBytesChecked (memoryAddress ctx.state ctx.instr) 0
      (bcdImage F (ctx.state.x87Get 0)) ctx = .error r c) :
    handleFbstp F ctx = .error r c := by
  have hget : (get : HandlerM ExecutionContext) ctx = .ok ctx ctx := rfl
  unfold handleFbstp
  rw [bind_ok hget, if_neg (by rw [hused]; exact Bool.false_ne_true)]
  exact bind_error h

/-- A refused store of a register in use ends the instruction. -/
theorem handler_error {H : X87Host} {c' : X87NumberStore}
    (h : storeWordsChecked (memoryAddress ctx.state ctx.instr) (c'.stores H.soft ctx.state) ctx =
      .error r c) :
    c'.transfer.handler H ctx = .error r c := by
  cases c' with
  | fstM32fp => exact x87StoreMem_error hused (Or.inl ⟨rfl, rfl⟩) (of_storeWord_error h)
  | fstM64fp => exact x87StoreMem_error hused (Or.inr ⟨rfl, rfl⟩) (of_storeWord_error h)
  | fstpM32fp => exact x87StoreMem_error hused (Or.inl ⟨rfl, rfl⟩) (of_storeWord_error h)
  | fstpM64fp => exact x87StoreMem_error hused (Or.inr ⟨rfl, rfl⟩) (of_storeWord_error h)
  | fstpM80fp => exact fstpM80fp_error hused ((storeBytesChecked_eq _ _ 0).symm ▸ h)
  | fistpM16int => exact x87StoreInteger_error hused rfl (of_storeWord_error h)
  | fistpM32int => exact x87StoreInteger_error hused rfl (of_storeWord_error h)
  | fistpM64int => exact x87StoreInteger_error hused rfl (of_storeWord_error h)
  | fbstp => exact fbstp_error hused ((storeBytesChecked_eq _ _ 0).symm ▸ h)

end nonempty

/-- A stack fault is a floating point exception. -/
theorem x87StackUnderflow_raises : Raises (fun r => ¬PageFault r) x87StackUnderflow := by
  have hset (f : CpuState → CpuState) : Raises (fun r => ¬PageFault r) (modifyState f) :=
    .of_total (modifyState_total f)
  refine .bind (hset _) fun _ => .get_bind fun c => .bind (hset _) fun _ => ?_
  refine .ite (.pure ()) fun s e s' hrun => ?_
  cases hrun
  exact StopReason.noConfusion

/-- A pop raises no page fault. -/
theorem popOrUnderflow_raises : Raises (fun r => ¬PageFault r) popOrUnderflow := by
  intro ctx r after hrun
  unfold popOrUnderflow at hrun
  rcases hpop : ctx.state.x87Pop with ⟨_ | _, s⟩
  · rw [hpop] at hrun
    exact x87StackUnderflow_raises _ _ _ hrun
  · rw [hpop] at hrun
    cases hrun

/-- Of an empty register: a stack fault, or nothing. -/
theorem handler_empty {H : X87Host} {ctx : ExecutionContext} (hempty : ctx.state.x87IsEmpty 0 = true)
    (c : X87NumberStore) {r : ExecutionResult} {after : ExecutionContext}
    (h : c.transfer.handler H ctx = .error r after) : ¬PageFault r := by
  -- Each handler looks at the tag of ST(0) before it touches memory.
  have hget : (get : HandlerM ExecutionContext) ctx = .ok ctx ctx := rfl
  have hmem (width : Nat) (pop : Bool) : x87StoreMem H.soft width pop ctx = x87StackUnderflow ctx := by
    unfold x87StoreMem
    rw [bind_ok hget, if_pos hempty]
  have hinteger (width : Nat) :
      x87StoreInteger H.soft width true false ctx = x87StackUnderflow ctx := by
    unfold x87StoreInteger
    rw [bind_ok hget, if_pos hempty]
  have hext : x87FstpM80fp ctx = x87StackUnderflow ctx := by
    unfold x87FstpM80fp
    rw [bind_ok hget, if_pos hempty]
  have hbcd : handleFbstp H.soft ctx = (x87StackUnderflow >>= fun _ => popOrUnderflow) ctx := by
    unfold handleFbstp
    rw [bind_ok hget, if_pos hempty]
  cases c with
  | fstM32fp => exact x87StackUnderflow_raises _ _ _ ((hmem 4 false).symm.trans h)
  | fstM64fp => exact x87StackUnderflow_raises _ _ _ ((hmem 8 false).symm.trans h)
  | fstpM32fp => exact x87StackUnderflow_raises _ _ _ ((hmem 4 true).symm.trans h)
  | fstpM64fp => exact x87StackUnderflow_raises _ _ _ ((hmem 8 true).symm.trans h)
  | fstpM80fp => exact x87StackUnderflow_raises _ _ _ (hext.symm.trans h)
  | fistpM16int => exact x87StackUnderflow_raises _ _ _ ((hinteger 2).symm.trans h)
  | fistpM32int => exact x87StackUnderflow_raises _ _ _ ((hinteger 4).symm.trans h)
  | fistpM64int => exact x87StackUnderflow_raises _ _ _ ((hinteger 8).symm.trans h)
  | fbstp =>
    exact (Raises.bind x87StackUnderflow_raises fun _ => popOrUnderflow_raises) _ _ _
      (hbcd.symm.trans h)

end X87NumberStore

/-! ## Which stores fault precisely -/

/-- The stores of the x87 unit. -/
inductive X87Store where
  | image (c : X87ImageStore)
  | fxsave
  | number (c : X87NumberStore)
deriving DecidableEq

namespace X87Store

/-- The operand's bytes. -/
def size : X87Store → Nat
  | .image c => c.size
  | .fxsave => 512
  | .number c => c.size

/-- The handler. -/
def handler (H : X87Host) : X87Store → Handler
  | .image c => c.handler H.soft
  | .fxsave => Seven.fxsave
  | .number c => c.transfer.handler H

/-- A page fault that leaves the CPU state and every byte of memory as they
were. -/
def Precise (H : X87Host) (c : X87Store) (ctx : ExecutionContext) : Prop :=
  ∃ r after, c.handler H ctx = .error r after ∧ PageFault r ∧ after.state = ctx.state ∧
    ∀ x, byteAt after.memory.pages x = byteAt ctx.memory.pages x

/-- What it takes: an image is refused for its address, or the register is in
use and the bytes that are written before the refusal are there already. -/
def FaultsFirst (H : X87Host) (ctx : ExecutionContext) : X87Store → Prop
  | .image c => c.Misaligned (memoryAddress ctx.state ctx.instr)
  | .fxsave => True
  | .number c => ctx.state.x87IsEmpty 0 = false ∧
      ctx.memory.AlreadyBehind (memoryAddress ctx.state ctx.instr) 0
        (ctx.memory.attempted (memoryAddress ctx.state ctx.instr) (c.stores H.soft ctx.state))

/-- `FXSAVE` asks for its span first. -/
theorem fxsave_precise (H : X87Host) {ctx : ExecutionContext}
    (h : ctx.memory.Unwritable (memoryAddress ctx.state ctx.instr) 512) :
    X87Store.fxsave.Precise H ctx := by
  have hget : (get : HandlerM ExecutionContext) ctx = .ok ctx ctx := rfl
  obtain ⟨r, after, hrun, hfault, rfl⟩ : ∃ r after, Seven.fxsave ctx = .error r after ∧
      PageFault r ∧ after = ctx := by
    unfold Seven.fxsave
    rw [bind_ok hget]
    by_cases halign : memoryAddress ctx.state ctx.instr &&& 0xF#64 = 0#64
    · obtain ⟨i, hi, hblocked⟩ := h.blocked
      obtain ⟨r, hspan, hfault⟩ := @validateWritable_fault ctx
        (memoryAddress ctx.state ctx.instr) 0x200 0x200 0 (by decide)
        ⟨i, Nat.zero_le i, hi, hblocked⟩
      rw [if_neg (by rw [halign]; exact fun hne => hne rfl), bind_error hspan]
      exact ⟨r, ctx, rfl, hfault, rfl⟩
    · rw [if_pos halign]
      exact ⟨_, ctx, rfl, rfl, rfl⟩
  exact ⟨r, after, hrun, hfault, rfl, fun _ => rfl⟩

/-- A number's store, by what of it fits. -/
theorem number_precise_iff (H : X87Host) (c : X87NumberStore) {ctx : ExecutionContext}
    (h : ctx.memory.Unwritable (memoryAddress ctx.state ctx.instr) c.size) :
    (X87Store.number c).Precise H ctx ↔ FaultsFirst H ctx (.number c) := by
  obtain ⟨horder, hcover⟩ := c.covers H.soft ctx.state
  have hle (p : Nat × U64 × Nat) (hp : p ∈ c.stores H.soft ctx.state) : p.2.2 ≤ 8 :=
    (horder.fits _ (List.mem_map_of_mem hp)).2.1
  -- a register in use: the stores are tried, and one is refused
  have hrun (hused : ctx.state.x87IsEmpty 0 = false) :
      ∃ r, (X87Store.number c).handler H ctx = .error r { ctx with
        memory := ctx.memory.putAll (memoryAddress ctx.state ctx.instr)
          (ctx.memory.attempted (memoryAddress ctx.state ctx.instr) (c.stores H.soft ctx.state)) } ∧
        PageFault r := by
    obtain ⟨r, hstores, hfault⟩ := storeWordsChecked_fault hle (h.refuses horder hcover)
    exact ⟨r, X87NumberStore.handler_error hused hstores, hfault⟩
  have hbytes : (∀ x, byteAt (ctx.memory.putAll (memoryAddress ctx.state ctx.instr)
        (ctx.memory.attempted (memoryAddress ctx.state ctx.instr)
          (c.stores H.soft ctx.state))).pages x = byteAt ctx.memory.pages x) ↔
      ctx.memory.AlreadyBehind (memoryAddress ctx.state ctx.instr) 0
        (ctx.memory.attempted (memoryAddress ctx.state ctx.instr) (c.stores H.soft ctx.state)) := by
    have hsize : c.size ≤ 2 ^ 64 := by cases c <;> decide
    have hsub := (Memory.attempted_sublist ctx.memory (memoryAddress ctx.state ctx.instr)
      (c.stores H.soft ctx.state)).map fun p => (p.1, p.2.2)
    rw [← Memory.keepsOutside_iff hsize (horder.sublist hsub)]
    exact forall_congr' fun x => ⟨fun h _ => h, fun h => h fun i hi => absurd hi (Nat.not_lt_zero i)⟩
  constructor
  · rintro ⟨r, after, hafter, hfault, hstate, hsame⟩
    cases hused : ctx.state.x87IsEmpty 0 with
    | true => exact absurd hfault (X87NumberStore.handler_empty hused c hafter)
    | false =>
      obtain ⟨r', hrun', _⟩ := hrun hused
      rw [hrun'] at hafter
      cases hafter
      exact ⟨hused, hbytes.mp hsame⟩
  · rintro ⟨hused, hthere⟩
    obtain ⟨r, hrun', hfault⟩ := hrun hused
    exact ⟨r, _, hrun', hfault, rfl, hbytes.mpr hthere⟩

/-- **Which stores fault precisely**, at a destination that is not fully
writable. -/
theorem precise_iff (H : X87Host) (c : X87Store) {ctx : ExecutionContext}
    (h : ctx.memory.Unwritable (memoryAddress ctx.state ctx.instr) c.size) :
    c.Precise H ctx ↔ c.FaultsFirst H ctx := by
  cases c with
  | image c =>
    rcases c.handler_cases H.soft ctx with ⟨hmisaligned, hrun⟩ | ⟨haligned, after, hrun, _⟩
    · exact iff_of_true ⟨_, ctx, hrun, rfl, rfl, fun _ => rfl⟩ hmisaligned
    · refine iff_of_false ?_ haligned
      rintro ⟨r, after', hfault, _⟩
      have hboth := hrun.symm.trans hfault
      cases hboth
  | fxsave => exact iff_of_true (fxsave_precise H h) trivial
  | number c => exact number_precise_iff H c h

end X87Store

/-! ## Nothing is mapped -/

/-- A host that converts nothing. -/
def bitwiseHost : X87Host where
  soft := bitwiseFloat
  convertFpToInt32 := fun _ _ _ => (0#64, 0#32)
  i32ToF64 := fun _ => 0#64
  number := fun _ => 0#32
  st0 := 0#32
  mm0 := 0#32
  xmm0 := 0#32
  ymm0 := 0#32
  zmm0 := 0#32

/-- An operand in empty memory. -/
def unmappedContext (s : CpuState) : ExecutionContext := { imageContext s with memory := {} }

/-- Nothing is accessible in the empty memory. -/
theorem accessible_empty (ok : MemoryPermissionMask → Bool) (a : U64) :
    accessible ok ({} : Memory).pages a = false := by
  have hnone : entryAt ({} : Memory).pages a = none := Std.ExtTreeMap.getElem?_empty
  unfold accessible
  rw [hnone]

/-- So nothing can be written. -/
theorem unmapped_unwritable {n : Nat} (hn : 0 < n) (base : U64) : ({} : Memory).Unwritable base n :=
  ⟨rfl, fun _ _ _ => rfl, 0, hn, accessible_empty _ _⟩

/-- And no byte lands. -/
theorem unmapped_landed (a value : U64) {width : Nat} (hpos : 0 < width) :
    ({} : Memory).landed a value width = 0 := by
  obtain ⟨n, rfl⟩ : ∃ n, width = n + 1 := ⟨width - 1, by omega⟩
  unfold Memory.landed Memory.taken
  rw [toBytes_length]
  unfold Memory.accessiblePrefix
  rw [accessible_empty, if_neg Bool.false_ne_true, ite_self]

/-- `FST` to an unmapped page. -/
theorem X87Store.precise_unmapped :
    (unmappedContext oneLoaded).memory.Unwritable
      (memoryAddress (unmappedContext oneLoaded).state (unmappedContext oneLoaded).instr) 8 ∧
    (X87Store.number .fstpM64fp).Precise bitwiseHost (unmappedContext oneLoaded) := by
  have hunwritable := @unmapped_unwritable 8 (by decide)
    (memoryAddress (unmappedContext oneLoaded).state (unmappedContext oneLoaded).instr)
  refine ⟨hunwritable, (X87Store.precise_iff bitwiseHost (.number .fstpM64fp) hunwritable).mpr
    ⟨by decide +kernel, fun p hp i hi _ => ?_⟩⟩
  obtain rfl := List.mem_singleton.mp ((Memory.attempted_sublist _ _ _).subset hp)
  exact absurd (lt_of_lt_of_eq hi (unmapped_landed _ _ (by decide))) (Nat.not_lt_zero i)

/-- `FNSTENV` to memory that is not mapped succeeds. -/
theorem fnstenv_unmapped_succeeds :
    (unmappedContext emptyStack).memory.Unwritable
      (memoryAddress (unmappedContext emptyStack).state (unmappedContext emptyStack).instr) 28 ∧
    handleFnstenv (unmappedContext emptyStack) = .ok () (fnstenved (unmappedContext emptyStack)) ∧
    ¬(X87Store.image .fnstenvM28byte).Precise bitwiseHost (unmappedContext emptyStack) := by
  refine ⟨unmapped_unwritable (by decide) _, rfl, ?_⟩
  rintro ⟨r, after, hrun, _⟩
  cases hrun

end Seven
