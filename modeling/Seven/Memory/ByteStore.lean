import Seven.Memory.Agreement
import Seven.Memory.FetchView
import Seven.Memory.Mapping
import Seven.Memory.TlbInv

/-!
# What the memory is: a store of bytes

Behind pages, chunks and the lookaside buffer there is one simple thing: at
each of the `2 ^ 64` addresses there is nothing, or a byte with its
permissions. `ByteStore` is that, with the calls of the memory object as what
they do to single bytes. Mapping, unmapping and reprotecting act on every page
the range touches, a read wants all its bytes permitted, and a write stores
the permitted bytes in front of the first that is not.

> `memory_is_byte_store`: over any history of calls the paged memory with its
> lookaside buffer answers as the byte store does, and holds the same bytes.

A call is *proper* when it moves at least one byte and its range does not reach
into the last page of the address space, where the page loop's end wraps.
-/

namespace Seven

open Seven.Lib

/-! ## The byte store -/

/-- A byte, and what may be done with it. -/
structure StoredByte where
  value : Byte
  permissions : MemoryPermissionMask
deriving DecidableEq

/-- The abstract memory: an address has a byte or it has none. -/
abbrev ByteStore := U64 → Option StoredByte

namespace ByteStore

/-- Is there a byte that may be used so? -/
def allows (ok : MemoryPermissionMask → Bool) (st : ByteStore) (a : U64) : Bool :=
  (st a).any (ok ·.permissions)

/-- The byte at `a`, zero where there is none. -/
def valueAt (st : ByteStore) (a : U64) : Byte := ((st a).map StoredByte.value).getD 0#8

/-- All of the `n` bytes from `a`? -/
def allowsAll (ok : MemoryPermissionMask → Bool) (st : ByteStore) (a : U64) (n : Nat) : Bool :=
  (List.range n).all fun i => st.allows ok (a + BitVec.ofNat 64 i)

/-- A read: every byte has to allow it. -/
def load (ok : MemoryPermissionMask → Bool) (st : ByteStore) (a : U64) (n : Nat) :
    Option (List Byte) :=
  if st.allowsAll ok a n then
    some ((List.range n).map fun i => st.valueAt (a + BitVec.ofNat 64 i))
  else none

/-- How many bytes from `a` are in front of the first that is not allowed. -/
def allowed (ok : MemoryPermissionMask → Bool) (st : ByteStore) (a : U64) : Nat → Nat
  | 0 => 0
  | n + 1 => if st.allows ok a then st.allowed ok (a + 1#64) n + 1 else 0

/-- The allowed bytes are stored; was that all of them? -/
def store (ok : MemoryPermissionMask → Bool) (st : ByteStore) (a : U64) (src : List Byte) :
    Bool × ByteStore :=
  let k := st.allowed ok a src.length
  (k == src.length, fun x =>
    if (x - a).toNat < k then
      (st x).map fun b => { b with value := (src[(x - a).toNat]?).getD b.value }
    else st x)

/-- Does the page of `x` hold an address of the range? -/
def onPages (base size x : U64) : Bool :=
  decide (base.toNat / kPageSize ≤ x.toNat / kPageSize ∧
    x.toNat / kPageSize * kPageSize < base.toNat + size.toNat)

/-- New bytes are zero, old ones keep their value; the permissions are new for both. -/
def map (st : ByteStore) (base size : U64) (permissions : MemoryPermissionMask) : ByteStore :=
  fun x => if onPages base size x then some ⟨st.valueAt x, permissions⟩ else st x

/-- The bytes of these pages are gone. -/
def unmap (st : ByteStore) (base size : U64) : ByteStore :=
  fun x => if onPages base size x then none else st x

/-- New permissions for the bytes there are. -/
def reprotect (st : ByteStore) (base size : U64) (permissions : MemoryPermissionMask) : ByteStore :=
  fun x => if onPages base size x then (st x).map fun b => { b with permissions := permissions }
    else st x

/-- The bytes of the snapshots; the first of a page counts. -/
def restored (snapshots : List PageSnapshot) : ByteStore := fun x =>
  (snapshots.find? fun s => s.pageIndex.toNat == x.toNat / kPageSize).map fun s =>
    ⟨s.data (Fin.ofNat kPageSize x.toNat), s.permissions⟩

/-- A call on the byte store. -/
def apply (st : ByteStore) : MemoryOp → MemoryOut × ByteStore
  | .map base size permissions => (.done, st.map base size permissions)
  | .unmap base size => (.done, st.unmap base size)
  | .reprotect base size permissions => (.done, st.reprotect base size permissions)
  | .restorePages snapshots => (.done, restored snapshots)
  | .isMapped a n => (.flag (st.allowsAll (fun _ => true) a n), st)
  | .hasPermissions a n required => (.flag (st.allowsAll (Memory.permits required) a n), st)
  | .read a n kind => (.bytes (st.load (hasPermission · kind) a n), st)
  | .readUnchecked a n => (.bytes (st.load (fun _ => true) a n), st)
  | .readCodePage base =>
    (.bytes (if base.toNat % kPageSize ≠ 0 then none
      else st.load (hasPermission · .instructionFetch) base kPageSize), st)
  | .write a src kind => (st.store (hasPermission · kind) a src).map .flag id
  | .writeUnchecked a src => (st.store (fun _ => true) a src).map .flag id

/-- The answers of the store, call after call. -/
def run (st : ByteStore) : List MemoryOp → List MemoryOut × ByteStore
  | [] => ([], st)
  | op :: ops =>
    let r := st.apply op
    let rs := run r.2 ops
    (r.1 :: rs.1, rs.2)

/-! ## Lengths of allowed spans -/

variable {ok : MemoryPermissionMask → Bool} {st : ByteStore} {a : U64}

/-- The number of allowed bytes is the one position where the span stops. -/
theorem allowed_eq {n k : Nat} (hle : k ≤ n)
    (hpre : ∀ i < k, st.allows ok (a + BitVec.ofNat 64 i) = true)
    (hstop : k < n → st.allows ok (a + BitVec.ofNat 64 k) = false) :
    st.allowed ok a n = k := by
  induction n generalizing a k with
  | zero =>
    rw [allowed]
    omega
  | succ n ih =>
    rw [allowed]
    cases k with
    | zero =>
      have hfirst := hstop (Nat.succ_pos n)
      rw [add_zero_span] at hfirst
      rw [hfirst, if_neg Bool.false_ne_true]
    | succ k =>
      have hfirst := hpre 0 (Nat.succ_pos k)
      rw [add_zero_span] at hfirst
      rw [hfirst, if_pos rfl]
      refine congrArg (· + 1) (ih (by omega) (fun i hi => ?_) fun hk => ?_)
      · rw [add_succ_span]
        exact hpre (i + 1) (by omega)
      · rw [add_succ_span]
        exact hstop (by omega)

end ByteStore

/-! ## The store of a memory -/

/-- The bytes in the pages. -/
def Memory.store (m : Memory) : ByteStore := fun a =>
  (entryAt m.pages a).map fun e => ⟨e.data (Fin.ofNat kPageSize a.toNat), e.permissions⟩

namespace Memory

variable {m : Memory}

/-- A byte of the store allows what its page allows. -/
theorem store_allows (ok : MemoryPermissionMask → Bool) (a : U64) :
    m.store.allows ok a = accessible ok m.pages a := by
  unfold ByteStore.allows accessible store
  cases entryAt m.pages a <;> rfl

/-- A byte of the store is the page's byte. -/
theorem store_value (a : U64) : (m.store a).map StoredByte.value = byteAt m.pages a := by
  unfold store byteAt
  cases entryAt m.pages a <;> rfl

/-- Its permissions are the page's. -/
theorem store_permissions (a : U64) :
    (m.store a).map StoredByte.permissions = (entryAt m.pages a).map PageEntry.permissions := by
  unfold store
  cases entryAt m.pages a <;> rfl

/-- Two stores with the same bytes and the same permissions. -/
theorem storedByte_ext {x y : Option StoredByte}
    (hvalue : x.map StoredByte.value = y.map StoredByte.value)
    (hpermissions : x.map StoredByte.permissions = y.map StoredByte.permissions) : x = y := by
  rcases x with _ | ⟨v, p⟩ <;> rcases y with _ | ⟨v', p'⟩ <;> simp_all

/-- Every byte of a span. -/
theorem store_allowsAll_iff (ok : MemoryPermissionMask → Bool) (a : U64) (n : Nat) :
    m.store.allowsAll ok a n = true ↔
      ∀ i < n, accessible ok m.pages (a + BitVec.ofNat 64 i) = true := by
  unfold ByteStore.allowsAll
  simp only [List.all_eq_true, List.mem_range, store_allows]

/-- **A copy out of the pages is a load of the store.** -/
theorem copyFromPages_store (ok : MemoryPermissionMask → Bool) (a : U64) (n : Nat) :
    copyFromPages ok m.pages a n = m.store.load ok a n := by
  unfold ByteStore.load
  split
  next hall =>
    rw [store_allowsAll_iff] at hall
    refine copyFromPages_eq_some_iff.mpr ⟨by simp, fun i hi => ?_⟩
    obtain ⟨b, hb⟩ := Option.isSome_iff_exists.mp (peek_isSome.trans (hall i hi))
    have hbyte := (peek_eq_some_iff.mp hb).2
    rw [hb, List.getElem?_map, List.getElem?_range hi, Option.map_some]
    unfold ByteStore.valueAt
    rw [store_value, hbyte]
    rfl
  next hall =>
    rw [store_allowsAll_iff] at hall
    rw [← Option.not_isSome_iff_eq_none, copyFromPages_isSome_iff]
    exact hall

/-- **A copy into the pages is a store.** -/
theorem written_store {ok : MemoryPermissionMask → Bool} {a : U64} {src : List Byte}
    (hlen : src.length ≤ 2 ^ 64) {k : Nat} {m' : Memory} {done : Bool}
    (h : Written ok a src k m.pages m'.pages) (hdone : done = decide (k = src.length)) :
    (done, m'.store) = m.store.store ok a src := by
  have hk : m.store.allowed ok a src.length = k := by
    refine ByteStore.allowed_eq h.le (fun i hi => ?_) fun hlt => ?_
    · rw [store_allows]
      exact h.pre i hi
    · rw [store_allows]
      exact h.stop hlt
  unfold ByteStore.store
  rw [hk, hdone]
  refine Prod.ext rfl (funext fun x => ?_)
  have hperms : (m'.store x).map StoredByte.permissions =
      (m.store x).map StoredByte.permissions := by
    rw [store_permissions, store_permissions]
    exact h.perms _
  dsimp only
  refine storedByte_ext ?_ ?_
  -- The value of the byte: hit by the copy, or out of its reach.
  · rw [store_value]
    split
    next hin =>
      -- `x` is byte `x - a` of the copy.
      have hx : a + BitVec.ofNat 64 (x - a).toNat = x := add_sub_span a x
      have hhit := h.hit _ hin
      have hsome : (x - a).toNat < src.length := Nat.lt_of_lt_of_le hin h.le
      rw [hx] at hhit
      have hold : (m.store x).isSome = true := by
        have hpre := h.pre _ hin
        rw [hx, ← store_allows] at hpre
        unfold ByteStore.allows at hpre
        cases hst : m.store x with
        | none =>
          rw [hst] at hpre
          cases hpre
        | some b => rfl
      obtain ⟨b, hb⟩ := Option.isSome_iff_exists.mp hold
      rw [hhit, hb, List.getElem?_eq_getElem hsome]
      rfl
    next hout =>
      rw [store_value, byteAt_eq, byteAt_eq]
      refine h.frame _ fun i hi hloc => hout ?_
      rw [← locOf_injective hloc]
      have hlt : i < 2 ^ 64 := Nat.lt_of_lt_of_le hi (Nat.le_trans h.le hlen)
      have hoff : ((a + BitVec.ofNat 64 i) - a).toNat = i :=
        ((eq_add_span_iff hlt).mp rfl)
      rw [hoff]
      exact hi
  -- The permissions are those from before.
  · rw [hperms]
    split
    next => cases m.store x <;> rfl
    next => rfl

/-- **A page loop**: every page of the range is changed by the page operation. -/
theorem forPages_store {f : PageMap → Nat → PageMap} {g : Option PageEntry → Option PageEntry}
    (hf : ActsOnPage f g) {base size : U64}
    (hfit : base.toNat + size.toNat ≤ 2 ^ 64 - kPageSize) (a : U64) :
    entryAt (forPages f base size m.pages) a =
      if ByteStore.onPages base size a then g (entryAt m.pages a) else entryAt m.pages a := by
  have hsum : (base + size + BitVec.ofNat 64 kPageSize - 1#64).toNat =
      base.toNat + size.toNat + 4095 := by
    simp only [kPageSize] at hfit ⊢
    bv_omega
  have hbounds : (firstPage base ≤ a.toNat / kPageSize ∧ a.toNat / kPageSize < lastPage base size) ↔
      ByteStore.onPages base size a = true := by
    rw [firstPage, lastPage, hsum, ByteStore.onPages, decide_eq_true_eq]
    simp only [kPageSize]
    omega
  unfold entryAt
  rw [forPages_getElem? hf]
  exact if_congr hbounds rfl rfl

/-- The first snapshot of a page is the one that is kept. -/
theorem foldl_restorePage_getElem? (snapshots : List PageSnapshot) (pages : PageMap) (page : Nat) :
    (snapshots.foldl restorePage pages)[page]? =
      ((pages[page]?).or ((snapshots.find? fun s => s.pageIndex.toNat == page).map fun s =>
        { data := s.data, permissions := s.permissions })) := by
  induction snapshots generalizing pages with
  | nil => exact (Option.or_none).symm
  | cons s snapshots ih =>
    rw [List.foldl_cons, ih, List.find?_cons]
    simp only [restorePage, Std.ExtTreeMap.getElem?_insertIfNew,
      Std.ExtTreeMap.mem_iff_isSome_getElem?, compare_eq_iff_eq]
    by_cases hpage : s.pageIndex.toNat = page
    · subst hpage
      cases pages[s.pageIndex.toNat]? <;> simp
    · rw [beq_eq_false_iff_ne.mpr hpage, if_neg fun h => hpage h.1]

/-- No host memory, no region and no hook in the way. -/
structure Bare (m : Memory) : Prop where
  passthroughRead : m.passthroughRead = none
  passthroughWrite : m.passthroughWrite = none
  mmioRegions : m.mmioRegions = []
  accessHooks : m.accessHooks = []

/-- A memory without devices stays one when only pages and epoch change. -/
theorem Bare.written {m m' : Memory} (h : m.Bare) {pages : PageMap} {epoch : U64}
    (hrest : { m' with pages := pages, codeEpoch := epoch } =
      { m with pages := pages, codeEpoch := epoch }) : m'.Bare :=
  ⟨(congrArg Memory.passthroughRead hrest).trans h.passthroughRead,
    (congrArg Memory.passthroughWrite hrest).trans h.passthroughWrite,
    (congrArg Memory.mmioRegions hrest).trans h.mmioRegions,
    (congrArg Memory.accessHooks hrest).trans h.accessHooks⟩

/-- The page loop of a write. -/
theorem Bare.writePages {m : Memory} (h : m.Bare) (ok : MemoryPermissionMask → Bool) (a : U64)
    {src : List Byte} (hlen : src.length ≤ 2 ^ 64) :
    ((Memory.writePages ok m a src).2, (Memory.writePages ok m a src).1.store) =
        m.store.store ok a src ∧ (Memory.writePages ok m a src).1.Bare := by
  obtain ⟨k, hk⟩ := writePages_pageWrite ok m a hlen
  refine ⟨written_store hlen hk.written hk.flag, ?_⟩
  exact @Bare.written m _ h m.pages m.codeEpoch hk.rest

end Memory

namespace MemoryOp

open Memory

/-- The call moves at least one byte, and its range stops short of the last
page. -/
def Proper : MemoryOp → Prop
  | .map base size _ | .unmap base size | .reprotect base size _ =>
    base.toNat + size.toNat ≤ 2 ^ 64 - kPageSize
  | .read _ n _ => 1 ≤ n
  | .write _ src _ => src ≠ [] ∧ src.length ≤ 2 ^ 64
  | .writeUnchecked _ src => src.length ≤ 2 ^ 64
  | _ => True

/-- **One call** on the page table is the call on its store. -/
theorem spec_store {m : Memory} (h : m.Bare) {op : MemoryOp} (hop : op.Proper) :
    ((op.spec m).1, (op.spec m).2.store) = m.store.apply op ∧ (op.spec m).2.Bare := by
  cases op with
  | map base size permissions =>
    refine ⟨Prod.ext rfl (funext fun a => ?_), ⟨h.1, h.2, h.3, h.4⟩⟩
    have hentry := forPages_store (m := m) (mapPage_acts permissions) hop a
    -- A page operation acts on each page alone.
    show Option.map _ (entryAt (forPages (mapPage permissions) base size m.pages) a) = _
    rw [hentry]
    show _ = if _ then _ else _
    split
    next =>
      unfold ByteStore.valueAt Memory.store
      cases entryAt m.pages a <;> rfl
    next => rfl
  | unmap base size =>
    refine ⟨Prod.ext rfl (funext fun a => ?_), ⟨h.1, h.2, h.3, h.4⟩⟩
    have hentry := forPages_store (m := m) unmapPage_acts hop a
    show Option.map _ (entryAt (forPages unmapPage base size m.pages) a) = _
    rw [hentry]
    show _ = if _ then _ else _
    split <;> rfl
  | reprotect base size permissions =>
    refine ⟨Prod.ext rfl (funext fun a => ?_), ⟨h.1, h.2, h.3, h.4⟩⟩
    have hentry := forPages_store (m := m) (reprotectPage_acts permissions) hop a
    show Option.map _ (entryAt (forPages (reprotectPage permissions) base size m.pages) a) = _
    rw [hentry]
    show _ = if _ then _ else _
    split
    next =>
      unfold Memory.store
      cases entryAt m.pages a <;> rfl
    next => rfl
  | restorePages snapshots =>
    refine ⟨Prod.ext rfl (funext fun a => ?_), ⟨h.1, h.2, h.3, h.4⟩⟩
    show Option.map _ (snapshots.foldl restorePage ∅)[a.toNat / kPageSize]? = _
    rw [foldl_restorePage_getElem?]
    show _ = Option.map _ _
    rw [Std.ExtTreeMap.getElem?_empty, Option.none_or, Option.map_map]
    rfl
  | isMapped a n =>
    refine ⟨Prod.ext (congrArg MemoryOut.flag ?_) rfl, h⟩
    rw [Bool.eq_iff_iff, isMapped_iff, store_allowsAll_iff]
  | hasPermissions a n required =>
    refine ⟨Prod.ext (congrArg MemoryOut.flag ?_) rfl, h⟩
    rw [Bool.eq_iff_iff, hasPermissions_iff, store_allowsAll_iff]
  | read a n kind =>
    refine ⟨Prod.ext (congrArg MemoryOut.bytes ?_) rfl, h⟩
    -- No device and no hook: the access goes to the pages.
    rw [Memory.read_eq h.passthroughRead (findMmioRegion_nil h.mmioRegions a n) hop,
      copyFromPages_store]
    simp only [accessAllowed_nil h.accessHooks, if_true]
    cases m.store.load (hasPermission · kind) a n <;> rfl
  | readUnchecked a n =>
    refine ⟨Prod.ext (congrArg MemoryOut.bytes ?_) rfl, h⟩
    unfold Memory.readUnchecked
    rw [findMmioRegion_nil h.mmioRegions]
    exact copyFromPages_store _ a n
  | readCodePage base =>
    refine ⟨Prod.ext (congrArg MemoryOut.bytes ?_) rfl, h⟩
    unfold Memory.readCodePage
    rw [h.passthroughRead]
    -- A whole page is one chunk that starts at its first byte.
    dsimp only
    split
    next => rfl
    next haligned =>
      have hoff : base.toNat % kPageSize = 0 := Decidable.of_not_not haligned
      have hfit : base.toNat % kPageSize + kPageSize ≤ kPageSize := by omega
      have hchunk := copyFromPages_one_chunk (hasPermission · .instructionFetch) m.pages
        kPageSize_pos hfit
      rw [hoff] at hchunk
      exact hchunk.symm.trans (copyFromPages_store _ base kPageSize)
  | write a src kind =>
    obtain ⟨hsrc, hlen⟩ := hop
    have hwrite : m.write a src kind = Memory.writePages (hasPermission · kind) m a src := by
      rw [write_eq h.passthroughWrite h.mmioRegions hsrc, accessAllowed_nil h.accessHooks,
        if_pos rfl]
    obtain ⟨hstore, hbare⟩ := h.writePages (hasPermission · kind) a hlen
    refine ⟨?_, ?_⟩
    · show (MemoryOut.flag (m.write a src kind).2, (m.write a src kind).1.store) =
        (m.store.store (hasPermission · kind) a src).map MemoryOut.flag id
      rw [hwrite, ← hstore]
      rfl
    · show (m.write a src kind).1.Bare
      rw [hwrite]
      exact hbare
  | writeUnchecked a src =>
    obtain ⟨hstore, hbare⟩ := h.writePages (fun _ => true) a hop
    have hwrite := writeUnchecked_eq h.mmioRegions a src
    refine ⟨?_, ?_⟩
    · show (MemoryOut.flag (m.writeUnchecked a src).2, (m.writeUnchecked a src).1.store) =
        (m.store.store (fun _ => true) a src).map MemoryOut.flag id
      rw [hwrite, ← hstore]
      rfl
    · show (m.writeUnchecked a src).1.Bare
      rw [hwrite]
      exact hbare

/-- **A history** on the page table is the history on its store. -/
theorem runSpec_store {m : Memory} (h : m.Bare) {ops : List MemoryOp}
    (hops : ∀ op ∈ ops, op.Proper) :
    ((runSpec m ops).1, (runSpec m ops).2.store) = m.store.run ops := by
  induction ops generalizing m with
  | nil => rfl
  | cons op ops ih =>
    obtain ⟨hstep, hbare⟩ := spec_store h (hops op List.mem_cons_self)
    have hrest := ih hbare fun op' hmem => hops op' (List.mem_cons_of_mem _ hmem)
    show ((op.spec m).1 :: (runSpec (op.spec m).2 ops).1, (runSpec (op.spec m).2 ops).2.store) = _
    unfold ByteStore.run
    rw [← hstep]
    dsimp only
    rw [← hrest]

/-- **The memory is a store of bytes.** Over any history of proper calls the
paged memory with its lookaside buffer answers as the byte store does that
starts out empty, and in the end holds the same bytes with the same
permissions. -/
theorem memory_is_byte_store {ops : List MemoryOp} (hops : ∀ op ∈ ops, op.Proper)
    (hbound : totalFlushes ops < 2 ^ 64) :
    ((run {} ops).1, (run {} ops).2.toMemory.store) = ByteStore.run (fun _ => none) ops := by
  have hfresh : TlbMemory.Refines 0 {} (TlbMemory.toMemory {}) := ⟨TlbMemory.inv_fresh, rfl⟩
  obtain ⟨hout, -, hmemory⟩ := run_refines ops hfresh (by omega)
  have hbare : (TlbMemory.toMemory {}).Bare := ⟨rfl, rfl, rfl, rfl⟩
  have hempty : (TlbMemory.toMemory {}).store = fun _ => none := by
    funext a
    unfold Memory.store entryAt
    rw [TlbMemory.toMemory_getElem?]
    rfl
  rw [hout, hmemory, runSpec_store hbare hops, hempty]

/-- A write that runs into a read-only page, and what is read behind it. -/
def boundaryCalls : List MemoryOp :=
  [.map 0x1000#64 0x1000#64 kMemoryPermissionReadWrite, .map 0x2000#64 1#64 MemoryPermission.read,
    .write 0x1FFE#64 [1#8, 2#8, 3#8, 4#8] .dataWrite, .read 0x1FFD#64 4 .dataRead,
    .unmap 0x1FFF#64 1#64, .read 0x1FFD#64 1 .dataRead, .isMapped 0x2FFF#64 1]

/-- The theorem on a run over two neighbouring pages, one of which goes away. -/
theorem memory_is_byte_store_boundary :
    ((run {} boundaryCalls).1, (run {} boundaryCalls).2.toMemory.store) =
        ByteStore.run (fun _ => none) boundaryCalls ∧
      (ByteStore.run (fun _ => none) boundaryCalls).1 =
        [.done, .done, .flag false, .bytes (some [0#8, 1#8, 2#8, 0#8]), .done, .bytes none,
          .flag true] := by
  have hproper : ∀ op ∈ boundaryCalls, op.Proper := by
    simp [boundaryCalls, Proper, kPageSize]
  exact ⟨memory_is_byte_store hproper (by decide), by decide +kernel⟩

end MemoryOp

end Seven
