import Seven.Lib.SpanWalk

/-!
# The emulator's paged memory

Guest memory is a table of 4 KiB pages, each with its bytes and a
permission mask, under a 64-bit wrapping address space. `Memory` below is
the object the executor and the handlers share: besides the pages it holds
the access hooks, the MMIO regions with the two bounds that prefilter them,
the optional passthrough pair and the epochs that mapping changes bump.

Page indices are `Nat` keys; an address `a` lies at offset
`a % kPageSize` of page `a / kPageSize`. Every multi-page loop of the
source (`while (remaining != 0) …`) is the library's `walk` over a visit
that looks the page up and handles one chunk.

Callbacks (hooks, devices, passthrough) are functions: what they answer
depends on the event alone. The page lookup goes straight to the table
here; the lookaside buffer in front of it is the subject of `Tlb`.
-/

namespace Seven

open Seven.Lib

abbrev U64 := BitVec 64
abbrev Byte := BitVec 8

/-! ## Pages, permissions, accesses -/

/-- `kPageSize`: 4 KiB. -/
def kPageSize : Nat := 0x1000

instance : NeZero kPageSize := ⟨by decide⟩

/-- Every page has bytes. -/
theorem kPageSize_pos : 0 < kPageSize := by decide

/-- Pages tile the address space. -/
theorem kPageSize_dvd : kPageSize ∣ 2 ^ 64 := by decide

/-- A set of `MemoryPermission` bits. -/
abbrev MemoryPermissionMask := BitVec 8

namespace MemoryPermission

def read : MemoryPermissionMask := 1#8
def write : MemoryPermissionMask := 2#8
def execute : MemoryPermissionMask := 4#8

end MemoryPermission

/-- `kMemoryPermissionReadWrite`. -/
def kMemoryPermissionReadWrite : MemoryPermissionMask :=
  MemoryPermission.read ||| MemoryPermission.write

/-- `kMemoryPermissionAll`. -/
def kMemoryPermissionAll : MemoryPermissionMask :=
  kMemoryPermissionReadWrite ||| MemoryPermission.execute

/-- What an access is for. -/
inductive MemoryAccessKind where
  | instructionFetch
  | dataRead
  | dataWrite
deriving DecidableEq, Repr

/-- A set of `MemoryAccessKind` bits, as an access hook asks for them. -/
abbrev MemoryAccessKindMask := BitVec 8

/-- The bit of a kind in a `MemoryAccessKindMask`. -/
def MemoryAccessKind.bit : MemoryAccessKind → MemoryAccessKindMask
  | .instructionFetch => 1#8
  | .dataRead => 2#8
  | .dataWrite => 4#8

/-- The mask of a hook that listens to every kind. -/
def kAllMemoryAccessKinds : MemoryAccessKindMask :=
  MemoryAccessKind.instructionFetch.bit ||| MemoryAccessKind.dataRead.bit |||
    MemoryAccessKind.dataWrite.bit

/-- `permissions & MemoryPermission::execute`, the test that makes a write
a code change. -/
def executable (permissions : MemoryPermissionMask) : Bool :=
  permissions &&& MemoryPermission.execute != 0#8

/-- `Memory::has_permission`. Any permission bit makes a page readable. -/
def hasPermission (permissions : MemoryPermissionMask) : MemoryAccessKind → Bool
  | .instructionFetch => executable permissions
  | .dataRead =>
    permissions &&& MemoryPermission.read != 0#8 ||
    permissions &&& MemoryPermission.write != 0#8 ||
    executable permissions
  | .dataWrite => permissions &&& MemoryPermission.write != 0#8

/-- `PageEntry`: the bytes of a page and what may be done to them. -/
structure PageEntry where
  data : Fin kPageSize → Byte := fun _ => 0#8
  permissions : MemoryPermissionMask := kMemoryPermissionAll

namespace PageEntry

/-- The `n` bytes from offset `off`, a `memcpy` out of the page. -/
def load (e : PageEntry) (off n : Nat) : List Byte :=
  (List.range n).map fun i => e.data (Fin.ofNat kPageSize (off + i))

/-- The page after `src` is copied to offset `off`. -/
def store (e : PageEntry) (off : Nat) (src : List Byte) : PageEntry :=
  { e with data := fun i => if off ≤ i.val then (src[i.val - off]?).getD (e.data i) else e.data i }

/-- Storing bytes leaves the permissions. -/
@[simp] theorem store_permissions (e : PageEntry) (off : Nat) (src : List Byte) :
    (e.store off src).permissions = e.permissions := rfl

/-- Loading from offset `off` starts with the byte there. -/
theorem load_succ (e : PageEntry) (off n : Nat) :
    e.load off (n + 1) = e.load off 1 ++ e.load (off + 1) n := by
  unfold load
  rw [List.range_succ_eq_map]
  simp [List.map_map, Function.comp_def, Nat.add_comm, Nat.add_left_comm]

/-- Storing a list is storing its head, then its tail one further. -/
theorem store_cons (e : PageEntry) (off : Nat) (b : Byte) (bs : List Byte) :
    e.store off (b :: bs) = (e.store off [b]).store (off + 1) bs := by
  simp only [store, mk.injEq, and_true]
  funext i
  rcases Nat.lt_trichotomy i.val off with h | h | h
  · rw [if_neg (by omega), if_neg (by omega), if_neg (by omega)]
  · rw [if_pos (by omega), if_neg (by omega), if_pos (by omega), h]
    simp
  · obtain ⟨d, hd⟩ : ∃ d, i.val - off = d + 1 := ⟨i.val - off - 1, by omega⟩
    rw [if_pos (by omega), if_pos (by omega), if_pos (by omega), hd,
      show i.val - (off + 1) = d by omega]
    simp

end PageEntry

/-- `pages_`, keyed by page index. -/
abbrev PageMap := Std.ExtTreeMap Nat PageEntry

/-- An entry looked up after another was put in. -/
theorem getElem?_insert_page (pages : PageMap) (i j : Nat) (e : PageEntry) :
    (pages.insert i e)[j]? = if i = j then some e else pages[j]? := by
  rw [Std.ExtTreeMap.getElem?_insert]
  simp only [compare_eq_iff_eq]

/-- An entry looked up after one was taken out. -/
theorem getElem?_erase_page (pages : PageMap) (i j : Nat) :
    (pages.erase i)[j]? = if i = j then none else pages[j]? := by
  rw [Std.ExtTreeMap.getElem?_erase]
  simp only [compare_eq_iff_eq]

/-- The page entry that holds an address. -/
def entryAt (pages : PageMap) (a : U64) : Option PageEntry := pages[a.toNat / kPageSize]?

/-- The byte at an address, if its page is mapped. -/
def byteAt (pages : PageMap) (a : U64) : Option Byte :=
  (entryAt pages a).map fun e => e.data (Fin.ofNat kPageSize a.toNat)

/-! ## Hooks, regions, the object -/

/-- `MemoryAccessEvent`, what a callback is told of an access. -/
structure MemoryAccessEvent where
  kind : MemoryAccessKind
  address : U64
  size : Nat
  data : Option (List Byte)
  dataSize : Nat

/-- `MemoryHookRange`, the bytes a hook watches. -/
structure MemoryHookRange where
  base : U64
  size : U64

/-- `HookId`: hooks and regions are numbered from one counter. -/
abbrev HookId := U64

/-- `AccessHookEntry`. -/
structure AccessHookEntry where
  id : HookId
  callback : MemoryAccessEvent → Bool
  range : Option MemoryHookRange
  kinds : MemoryAccessKindMask

/-- A device read fills exactly the requested buffer or refuses. -/
abbrev MmioReadCallback := U64 → (n : Nat) → Option (Vector Byte n)
abbrev MmioWriteCallback := U64 → List Byte → Bool
abbrev PassthroughReadFn := U64 → (n : Nat) → Option (Vector Byte n)
abbrev PassthroughWriteFn := U64 → List Byte → Bool

/-- `MmioRegion`: `[base, base + size)` answered by two callbacks. -/
structure MmioRegion where
  id : HookId
  base : U64
  size : U64
  onRead : Option MmioReadCallback
  onWrite : Option MmioWriteCallback

/-- `PageSnapshot`: a page as a snapshot keeps it. -/
structure PageSnapshot where
  pageIndex : U64
  data : Fin kPageSize → Byte
  permissions : MemoryPermissionMask

/-- `Memory`, less its TLB: the pages, the hooks, the regions, the passthrough and the counters.
-/
structure Memory where
  pages : PageMap := ∅
  accessHooks : List AccessHookEntry := []
  mmioRegions : List MmioRegion := []
  passthroughRead : Option PassthroughReadFn := none
  passthroughWrite : Option PassthroughWriteFn := none
  nextHookId : HookId := 1#64
  pageEpoch : U64 := 1#64
  codeEpoch : U64 := 1#64
  mmioMinBase : U64 := BitVec.allOnes 64
  mmioMaxEnd : U64 := 0#64

namespace Memory

/-- `has_any_access_hooks`. -/
def hasAnyAccessHooks (m : Memory) : Bool := !m.accessHooks.isEmpty

/-- `has_fetch_access_hooks`: some installed hook listens to fetches. -/
def hasFetchAccessHooks (m : Memory) : Bool :=
  m.accessHooks.any fun h => h.kinds &&& MemoryAccessKind.instructionFetch.bit != 0#8

/-- `set_passthrough`. -/
def setPassthrough (m : Memory) (readFn : PassthroughReadFn) (writeFn : PassthroughWriteFn) :
    Memory :=
  { m with passthroughRead := some readFn, passthroughWrite := some writeFn }

/-- `clear_passthrough`. -/
def clearPassthrough (m : Memory) : Memory :=
  { m with passthroughRead := none, passthroughWrite := none }

/-- Both mapping epochs move on every mapping change. -/
def bumpEpochs (m : Memory) : Memory :=
  { m with pageEpoch := m.pageEpoch + 1#64, codeEpoch := m.codeEpoch + 1#64 }

/-! ## Mapping -/

/-- The number of the page `base` lies in. -/
def firstPage (base : U64) : Nat := base.toNat / kPageSize

/-- `(base + size + kPageSize - 1) / kPageSize`, in 64-bit arithmetic. -/
def lastPage (base size : U64) : Nat :=
  (base + size + BitVec.ofNat 64 kPageSize - 1#64).toNat / kPageSize

/-- `for (auto page = first_page; page < last_page; ++page)`. -/
def forPages {σ : Type} (f : σ → Nat → σ) (base size : U64) (pages : σ) : σ :=
  (List.range' (firstPage base) (lastPage base size - firstPage base)).foldl f pages

/-- `pages_.try_emplace(page)`, then the permissions are set. -/
def mapPage (permissions : MemoryPermissionMask) (pages : PageMap) (page : Nat) : PageMap :=
  let entry := (pages[page]?).getD {}
  pages.insert page { entry with permissions := permissions }

/-- One step of `unmap`. -/
def unmapPage (pages : PageMap) (page : Nat) : PageMap := pages.erase page

/-- One step of `reprotect`: a page that is not there stays away. -/
def reprotectPage (permissions : MemoryPermissionMask) (pages : PageMap) (page : Nat) : PageMap :=
  match pages[page]? with
  | none => pages
  | some entry => pages.insert page { entry with permissions := permissions }

/-- `map`. -/
def map (m : Memory) (base size : U64) (permissions : MemoryPermissionMask) : Memory :=
  { m.bumpEpochs with pages := forPages (mapPage permissions) base size m.pages }

/-- `unmap`. -/
def unmap (m : Memory) (base size : U64) : Memory :=
  { m.bumpEpochs with pages := forPages unmapPage base size m.pages }

/-- `reprotect`. -/
def reprotect (m : Memory) (base size : U64) (permissions : MemoryPermissionMask) : Memory :=
  { m.bumpEpochs with pages := forPages (reprotectPage permissions) base size m.pages }

/-- `pages_.emplace` of one snapshot: the first one of a page index wins. -/
def restorePage (pages : PageMap) (s : PageSnapshot) : PageMap :=
  pages.insertIfNew s.pageIndex.toNat { data := s.data, permissions := s.permissions }

/-- `restore_pages`: the snapshot's pages and no others. -/
def restorePages (m : Memory) (snapshots : List PageSnapshot) : Memory :=
  { m.bumpEpochs with pages := snapshots.foldl restorePage ∅ }

/-! ## MMIO regions and access hooks -/

/-- `std::min` and `std::max` on unsigned words. -/
def minU64 (a b : U64) : U64 := if b < a then b else a
/-- `std::max` of two addresses. -/
def maxU64 (a b : U64) : U64 := if a < b then b else a

/-- Bounds over all regions, recomputed when one is removed. -/
def withMmioBounds (m : Memory) : Memory :=
  match m.mmioRegions with
  | [] => { m with mmioMinBase := BitVec.allOnes 64, mmioMaxEnd := 0#64 }
  | r :: rs =>
    { m with
      mmioMinBase := rs.foldl (fun b r => minU64 b r.base) r.base
      mmioMaxEnd := rs.foldl (fun e r => maxU64 e (r.base + r.size)) (r.base + r.size) }

/-- `map_mmio`: the region goes behind the others, the bounds widen. -/
def mapMmio (m : Memory) (base size : U64) (onRead : Option MmioReadCallback)
    (onWrite : Option MmioWriteCallback) : HookId × Memory :=
  let region : MmioRegion := ⟨m.nextHookId, base, size, onRead, onWrite⟩
  let m' := { m with nextHookId := m.nextHookId + 1#64, mmioRegions := m.mmioRegions ++ [region] }
  (m.nextHookId,
    if m.mmioRegions.isEmpty then
      { m' with mmioMinBase := base, mmioMaxEnd := base + size }
    else
      { m' with
        mmioMinBase := minU64 m.mmioMinBase base
        mmioMaxEnd := maxU64 m.mmioMaxEnd (base + size) })

/-- `unmap_mmio`: the first region with that number, and the bounds computed anew. -/
def unmapMmio (m : Memory) (id : HookId) : Memory × Bool :=
  if m.mmioRegions.any fun r => r.id == id then
    (withMmioBounds { m with mmioRegions := m.mmioRegions.eraseP fun r => r.id == id }, true)
  else (m, false)

/-- `find_mmio_region`: the prefilter bounds, then the first region that
contains the access. -/
def findMmioRegion (m : Memory) (address : U64) (size : Nat) : Option MmioRegion :=
  if m.mmioRegions.isEmpty then none
  else
    let accessEnd := address + BitVec.ofNat 64 size
    if address < m.mmioMinBase || accessEnd > m.mmioMaxEnd then none
    else m.mmioRegions.find? fun r => address >= r.base && accessEnd <= r.base + r.size

/-- Does a hook listen to this event? Kinds mask first, then the range. -/
def AccessHookEntry.listens (h : AccessHookEntry) (event : MemoryAccessEvent) : Bool :=
  if h.kinds &&& event.kind.bit == 0#8 then false
  else
    match h.range with
    | none => true
    | some range =>
      let accessEnd := event.address + BitVec.ofNat 64 event.size
      !(event.address >= range.base + range.size || accessEnd <= range.base)

/-- `access_allowed`: every listening hook agrees. -/
def accessAllowed (m : Memory) (event : MemoryAccessEvent) : Bool :=
  m.accessHooks.all fun h => !AccessHookEntry.listens h event || h.callback event

/-! ## Queries and accesses -/

/-- One chunk of a query loop. -/
def queryChunk (ok : MemoryPermissionMask → Bool) (pages : PageMap) (page _off _chunk : Nat)
    (s : Unit) : Unit × Bool :=
  match pages[page]? with
  | none => (s, false)
  | some entry => (s, ok entry.permissions)

/-- `is_mapped`. -/
def isMapped (m : Memory) (address : U64) (size : Nat) : Bool :=
  (walk kPageSize (queryChunk (fun _ => true) m.pages) size address size ()).2

/-- The mask test of `has_permissions`; execute implies read. -/
def permits (required permissions : MemoryPermissionMask) : Bool :=
  let effective :=
    if executable permissions then permissions ||| MemoryPermission.read else permissions
  effective &&& required == required

/-- `has_permissions`. -/
def hasPermissions (m : Memory) (address : U64) (size : Nat) (required : MemoryPermissionMask) :
    Bool :=
  (walk kPageSize (queryChunk (permits required) m.pages) size address size ()).2

/-- One chunk of a copy out of the pages. -/
def readChunk (ok : MemoryPermissionMask → Bool) (pages : PageMap) (page off chunk : Nat)
    (out : List Byte) : List Byte × Bool :=
  match pages[page]? with
  | none => (out, false)
  | some entry =>
    if ok entry.permissions then (out ++ entry.load off chunk, true) else (out, false)

/-- The bytes at `address`, page by page, or nothing when one page refuses. -/
def copyFromPages (ok : MemoryPermissionMask → Bool) (pages : PageMap) (address : U64)
    (size : Nat) : Option (List Byte) :=
  match walk kPageSize (readChunk ok pages) size address size [] with
  | (out, true) => some out
  | (_, false) => none

/-- The fast path of `read` and `write`: no hooks, no MMIO, one page. -/
def singlePage (m : Memory) (address : U64) (size : Nat) : Bool :=
  !m.hasAnyAccessHooks && m.mmioRegions.isEmpty &&
    decide (address.toNat % kPageSize + size ≤ kPageSize)

/-- `mmio_read`: the region's own callback, at the offset in it. -/
def mmioRead (r : MmioRegion) (address : U64) (size : Nat) : Option (List Byte) :=
  match r.onRead with
  | some f => (f (address - r.base) size).map Vector.toList
  | none => none

/-- `mmio_write`. -/
def mmioWrite (r : MmioRegion) (address : U64) (src : List Byte) : Bool :=
  match r.onWrite with
  | some f => f (address - r.base) src
  | none => false

/-- `read`: the passthrough first, then the fast path of a single page, then the regions, then the
pages. -/
def read (m : Memory) (address : U64) (size : Nat) (kind : MemoryAccessKind) :
    Option (List Byte) :=
  match m.passthroughRead with
  | some f => (f address size).map Vector.toList
  | none =>
    if m.singlePage address size then
      match entryAt m.pages address with
      | none => none
      | some entry =>
        if hasPermission entry.permissions kind then
          some (entry.load (address.toNat % kPageSize) size)
        else none
    else
      match m.findMmioRegion address size with
      | some mmio =>
        if m.accessAllowed ⟨kind, address, size, none, 0⟩ then mmioRead mmio address size else none
      | none =>
        match copyFromPages (hasPermission · kind) m.pages address size with
        | none => none
        | some temp =>
          if m.accessAllowed ⟨kind, address, size, some temp, size⟩ then some temp else none

/-- `read_unchecked`: permissions are not asked for. -/
def readUnchecked (m : Memory) (address : U64) (size : Nat) : Option (List Byte) :=
  match m.findMmioRegion address size with
  | some mmio => mmioRead mmio address size
  | none => copyFromPages (fun _ => true) m.pages address size

/-- `read_code_page`: a whole page for the decoder. -/
def readCodePage (m : Memory) (pageBase : U64) : Option (List Byte) :=
  match m.passthroughRead with
  | some f => (f pageBase kPageSize).map Vector.toList
  | none =>
    if pageBase.toNat % kPageSize ≠ 0 then none
    else
      match entryAt m.pages pageBase with
      | none => none
      | some entry =>
        if hasPermission entry.permissions .instructionFetch then some (entry.load 0 kPageSize)
        else none

/-- Loop state of a copy into the pages: the pages so far, what is left of
the source, and whether an executable page was written. -/
structure WriteCursor where
  pages : PageMap
  src : List Byte
  codeChanged : Bool

/-- One chunk of a copy into the pages. -/
def writeChunk (ok : MemoryPermissionMask → Bool) (page off chunk : Nat) (c : WriteCursor) :
    WriteCursor × Bool :=
  match c.pages[page]? with
  | none => (c, false)
  | some entry =>
    if ok entry.permissions then
      ({ pages := c.pages.insert page (entry.store off (c.src.take chunk))
         src := c.src.drop chunk
         codeChanged := c.codeChanged || executable entry.permissions }, true)
    else (c, false)

/-- `src` to `address`, page by page; stops at the page that refuses, and what went before stays.
-/
def copyToPages (ok : MemoryPermissionMask → Bool) (pages : PageMap) (address : U64)
    (src : List Byte) : WriteCursor × Bool :=
  walk kPageSize (writeChunk ok) src.length address src.length ⟨pages, src, false⟩

/-- `++code_epoch_` when an executable page changed. -/
def bumpCodeEpochIf (m : Memory) (codeChanged : Bool) : Memory :=
  if codeChanged then { m with codeEpoch := m.codeEpoch + 1#64 } else m

/-- The page loop of `write` and `write_unchecked`. A failed chunk returns
from inside the loop, before the epoch is looked at. -/
def writePages (ok : MemoryPermissionMask → Bool) (m : Memory) (address : U64)
    (src : List Byte) : Memory × Bool :=
  match copyToPages ok m.pages address src with
  | (c, false) => ({ m with pages := c.pages }, false)
  | (c, true) => (bumpCodeEpochIf { m with pages := c.pages } c.codeChanged, true)

/-- `write`, in the order of `read`. -/
def write (m : Memory) (address : U64) (src : List Byte) (kind : MemoryAccessKind) :
    Memory × Bool :=
  match m.passthroughWrite with
  | some f => (m, f address src)
  | none =>
    if m.singlePage address src.length then
      match entryAt m.pages address with
      | none => (m, false)
      | some entry =>
        if hasPermission entry.permissions kind then
          let entry' := entry.store (address.toNat % kPageSize) src
          (bumpCodeEpochIf { m with pages := m.pages.insert (address.toNat / kPageSize) entry' }
            (executable entry.permissions), true)
        else (m, false)
    else if m.accessAllowed ⟨kind, address, src.length, some src, src.length⟩ then
      match m.findMmioRegion address src.length with
      | some mmio => (m, mmioWrite mmio address src)
      | none => writePages (hasPermission · kind) m address src
    else (m, false)

/-- `write_unchecked`. -/
def writeUnchecked (m : Memory) (address : U64) (src : List Byte) : Memory × Bool :=
  match m.findMmioRegion address src.length with
  | some mmio => (m, mmioWrite mmio address src)
  | none => writePages (fun _ => true) m address src

end Memory

end Seven
