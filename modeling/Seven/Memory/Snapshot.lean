import Seven.Cpu.State
import Seven.Lib.MapListing
import Seven.Lib.SortedSearch
import Seven.Memory.FetchView
import Seven.Memory.HookMatch
import Seven.Memory.Mapping
import Seven.Memory.Mmio

/-!
# Snapshots

`capture_snapshot` copies the CPU state, the pages in the order of their
index and the MMIO regions without their callbacks, in the order of base and
id. `restore_snapshot` puts the state and the pages back and rebuilds the
region list, asking a resolver for the callbacks. Hooks and the passthrough
pair are no part of a snapshot.

State and pages come back whatever happened in between. The regions come back
too, but in the order of the snapshot, and where regions overlap the order of
the list decides:

> `restoreSnapshot_roundTrip_iff`: a restored machine is the captured one
> exactly when every access is answered by the region that sorts first among
> those that contain it.
-/

namespace Seven

open Seven.Lib

/-! ## Capture and restore -/

/-- The region without its callbacks. -/
def MmioRegion.snapshot (region : MmioRegion) : MmioRegionSnapshot :=
  ⟨region.id, region.base, region.size⟩

/-- The comparison of the sort in `snapshot_mmio_regions`. -/
def MmioRegionSnapshot.sortsBefore (lhs rhs : MmioRegionSnapshot) : Bool :=
  if lhs.base != rhs.base then lhs.base < rhs.base else lhs.id < rhs.id

namespace Memory

/-- The table lists its pages by index already. -/
def snapshotPages (m : Memory) : List PageSnapshot :=
  m.pages.toList.map fun (page, entry) => ⟨BitVec.ofNat 64 page, entry.data, entry.permissions⟩

/-- Ids are distinct, so the comparison alone fixes the order. -/
def snapshotMmioRegions (m : Memory) : List MmioRegionSnapshot :=
  (m.mmioRegions.map MmioRegion.snapshot).mergeSort fun lhs rhs => !rhs.sortsBefore lhs

end Memory

/-- `MachineSnapshot`. -/
structure MachineSnapshot where
  state : CpuState
  pages : List PageSnapshot
  mmioRegions : List MmioRegionSnapshot

/-- `capture_snapshot`. -/
def captureSnapshot (state : CpuState) (memory : Memory) : MachineSnapshot where
  state := state
  pages := memory.snapshotPages
  mmioRegions := memory.snapshotMmioRegions

/-- The overload without a resolver drops the regions. -/
def restoreSnapshotWithoutMmio (_state : CpuState) (memory : Memory) (snapshot : MachineSnapshot) :
    CpuState × Memory :=
  (snapshot.state, (memory.restorePages snapshot.pages).clearMmioRegions)

/-- `restore_snapshot`: the state before is overwritten as a whole. -/
def restoreSnapshot (_state : CpuState) (memory : Memory) (snapshot : MachineSnapshot)
    (mmioResolver : Option MmioResolver) : CpuState × Memory :=
  (snapshot.state,
    (memory.restorePages snapshot.pages).restoreMmioRegions snapshot.mmioRegions mmioResolver)

/-- Restoring without a resolver and restoring with an empty one agree. -/
theorem restoreSnapshot_none (state : CpuState) (memory : Memory) (snapshot : MachineSnapshot) :
    restoreSnapshot state memory snapshot none =
      restoreSnapshotWithoutMmio state memory snapshot := by
  have hskip : ∀ (regions : List MmioRegionSnapshot) (m : Memory),
      regions.foldl (Memory.restoreMmioRegion none) m = m := by
    intro regions m
    induction regions with
    | nil => rfl
    | cons region regions ih => exact ih
  unfold restoreSnapshot restoreSnapshotWithoutMmio Memory.restoreMmioRegions
  rw [hskip]

namespace Memory

/-! ## Well-formed memories -/

/-- Page indices are 64-bit. -/
def PagesKeyed (pages : PageMap) : Prop :=
  ∀ (page : Nat) (e : PageEntry), pages[page]? = some e → page < 2 ^ 64

/-- What every memory built by the operations is. -/
structure WellFormed (m : Memory) : Prop where
  keyed : PagesKeyed m.pages
  bounds : MmioBounds m

/-- The empty memory. -/
theorem WellFormed.empty : WellFormed {} := by
  refine ⟨?_, MmioBounds.of_nil rfl⟩
  intro page e he
  simp at he

/-- Pages keep their numbers under a step per page. -/
theorem PagesKeyed.forPages {f : PageMap → Nat → PageMap} {g : Option PageEntry → Option PageEntry}
    (hf : ActsOnPage f g) {pages : PageMap} (h : PagesKeyed pages) (base size : U64) :
    PagesKeyed (forPages f base size pages) := by
  intro page e he
  rw [forPages_getElem? hf] at he
  split at he
  next hin =>
    have hlast : lastPage base size ≤ 2 ^ 64 :=
      Nat.le_trans (Nat.div_le_self _ _) (Nat.le_of_lt (BitVec.isLt _))
    omega
  next => exact h page e he

/-- `restore_pages` emplaces the entries of the snapshots. -/
theorem foldl_restorePage (snapshots : List PageSnapshot) (pages : PageMap) :
    snapshots.foldl restorePage pages =
      emplaceAll pages (snapshots.map fun s =>
        (s.pageIndex.toNat, { data := s.data, permissions := s.permissions })) := by
  unfold emplaceAll
  rw [List.foldl_map]
  rfl

/-- Pages restored lie under their own numbers. -/
theorem PagesKeyed.restorePages (m : Memory) (snapshots : List PageSnapshot) :
    PagesKeyed (m.restorePages snapshots).pages := by
  intro page e he
  change (snapshots.foldl restorePage ∅)[page]? = some e at he
  rw [foldl_restorePage] at he
  obtain ⟨s, _, hs⟩ := List.mem_map.mp (mem_of_emplaceAll he)
  rw [← (Prod.mk.inj hs).1]
  exact s.pageIndex.isLt

/-- A write leaves the set of pages as it was. -/
theorem WellFormed.sameAccess {m m' : Memory} (h : WellFormed m) (hsame : SameAccess m m') :
    WellFormed m' := by
  constructor
  · intro page e he
    have hperm := hsame.perms page
    rw [he, Option.map_some] at hperm
    obtain ⟨e', he', _⟩ := Option.map_eq_some_iff.mp hperm.symm
    exact h.keyed page e' he'
  · constructor
    · rw [hsame.mmioRegions, hsame.mmioMinBase]
      exact h.bounds.low
    · rw [hsame.mmioRegions, hsame.mmioMaxEnd]
      exact h.bounds.high

/-- The source of a write is no longer than the address space. -/
def CodeOpFits : CodeOp → Prop
  | .write _ src _ | .writeUnchecked _ src => src.length ≤ 2 ^ 64
  | _ => True

/-- The memories that the operations lead to. -/
inductive Reached : Memory → Prop
  | empty : Reached {}
  | code {m : Memory} (h : Reached m) {op : CodeOp} (hfits : CodeOpFits op) : Reached (op.apply m)
  | mmio {m : Memory} (h : Reached m) (op : MmioOp) : Reached (op.apply m)
  | addHook {m : Memory} (h : Reached m) (callback : MemoryAccessEvent → Bool)
      (range : Option MemoryHookRange) (kinds : MemoryAccessKindMask) :
      Reached (m.addAccessHook callback range kinds).2
  | removeHook {m : Memory} (h : Reached m) (id : HookId) : Reached (m.removeAccessHook id).1

/-- A call about the regions. -/
theorem WellFormed.mmio {m : Memory} (h : WellFormed m) (op : MmioOp) :
    WellFormed (op.apply m) := by
  refine ⟨?_, h.bounds.apply op⟩
  rw [pages_apply]
  exact h.keyed

/-- A call about the pages. -/
theorem WellFormed.code {m : Memory} (h : WellFormed m) {op : CodeOp} (hfits : CodeOpFits op) :
    WellFormed (op.apply m) := by
  cases op with
  | map base size permissions =>
    exact ⟨h.keyed.forPages (mapPage_acts permissions) base size, h.bounds.low, h.bounds.high⟩
  | unmap base size =>
    exact ⟨h.keyed.forPages unmapPage_acts base size, h.bounds.low, h.bounds.high⟩
  | reprotect base size permissions =>
    exact ⟨h.keyed.forPages (reprotectPage_acts permissions) base size, h.bounds.low, h.bounds.high⟩
  | restorePages snapshots => exact ⟨PagesKeyed.restorePages m snapshots, h.bounds.low, h.bounds.high⟩
  | write address src kind => exact h.sameAccess (write_sameAccess m address hfits kind)
  | writeUnchecked address src =>
    rcases writeUnchecked_cases m address hfits with hsame | ⟨k, hwrite⟩
    · show WellFormed (m.writeUnchecked address src).1
      rw [hsame]
      exact h
    · exact h.sameAccess hwrite.sameAccess
  | mapMmio base size onRead onWrite => exact h.mmio (.map base size onRead onWrite)
  | unmapMmio id => exact h.mmio (.unmap id)
  | setPassthrough readFn writeFn => exact ⟨h.keyed, h.bounds.low, h.bounds.high⟩
  | clearPassthrough => exact ⟨h.keyed, h.bounds.low, h.bounds.high⟩

/-- Every memory the calls reach is well formed. -/
theorem Reached.wellFormed {m : Memory} (h : Reached m) : WellFormed m := by
  induction h with
  | empty => exact WellFormed.empty
  | code _ hfits ih => exact ih.code hfits
  | mmio _ op ih => exact ih.mmio op
  | addHook _ _ _ _ ih => exact ⟨ih.keyed, ih.bounds.low, ih.bounds.high⟩
  | @removeHook m _ id ih =>
    unfold removeAccessHook
    split
    next => exact ⟨ih.keyed, ih.bounds.low, ih.bounds.high⟩
    next => exact ih

/-! ## The pages -/

/-- **Pages round trip**: into any memory. -/
theorem restorePages_snapshotPages (t : Memory) {m : Memory} (h : PagesKeyed m.pages) :
    (t.restorePages m.snapshotPages).pages = m.pages := by
  have hentries : (m.snapshotPages.map fun s => (s.pageIndex.toNat,
      ({ data := s.data, permissions := s.permissions } : PageEntry))) = m.pages.toList := by
    unfold snapshotPages
    rw [List.map_map]
    conv => rhs; rw [← List.map_id m.pages.toList]
    apply List.map_congr_left
    intro ⟨page, e⟩ hmem
    have hlt := h page e (Std.ExtTreeMap.mem_toList_iff_getElem?_eq_some.mp hmem)
    show ((BitVec.ofNat 64 page).toNat, e) = (page, e)
    rw [BitVec.toNat_ofNat, Nat.mod_eq_of_lt hlt]
  show m.snapshotPages.foldl restorePage ∅ = m.pages
  rw [foldl_restorePage, hentries]
  exact emplaceAll_listing (List.Perm.refl _)

/-! ## The regions -/

/-- The order of the regions in a snapshot. -/
def sortsFirst (r q : MmioRegion) : Bool := !q.snapshot.sortsBefore r.snapshot

/-- The order of the regions in a snapshot. -/
theorem sortsFirst_iff (r q : MmioRegion) :
    sortsFirst r q = true ↔ r.base < q.base ∨ r.base = q.base ∧ r.id ≤ q.id := by
  unfold sortsFirst MmioRegionSnapshot.sortsBefore MmioRegion.snapshot
  dsimp only
  by_cases hbase : q.base = r.base
  · simp [hbase, BitVec.lt_irrefl]
  · have hbase' : r.base ≠ q.base := fun h => hbase h.symm
    simp only [bne_iff_ne, ne_eq, hbase, not_false_eq_true, if_true, Bool.not_eq_true',
      decide_eq_false_iff_not, hbase', false_and, or_false]
    bv_omega

/-- The order is transitive. -/
theorem sortsFirst_trans (r q p : MmioRegion) (h : sortsFirst r q = true)
    (h' : sortsFirst q p = true) : sortsFirst r p = true := by
  rw [sortsFirst_iff] at h h' ⊢
  bv_omega

/-- The order is total. -/
theorem sortsFirst_total (r q : MmioRegion) : (sortsFirst r q || sortsFirst q r) = true := by
  rw [Bool.or_eq_true, sortsFirst_iff, sortsFirst_iff]
  bv_omega

/-- A resolver that knows the callbacks of a memory's regions. -/
def Resolves (m : Memory) (resolve : MmioResolver) : Prop :=
  ∀ r ∈ m.mmioRegions, resolve r.snapshot = some (r.onRead, r.onWrite)

/-- Regions resolved one after the other. -/
theorem foldl_restoreMmioRegion {resolve : MmioResolver} (t : Memory) (rs : List MmioRegion)
    (h : ∀ r ∈ rs, resolve r.snapshot = some (r.onRead, r.onWrite)) :
    ((rs.map MmioRegion.snapshot).foldl (restoreMmioRegion (some resolve)) t).mmioRegions =
      t.mmioRegions ++ rs := by
  induction rs generalizing t with
  | nil => simp
  | cons r rs ih =>
    rw [List.map_cons, List.foldl_cons, ih _ fun q hq => h q (List.mem_cons_of_mem r hq)]
    have hpush : (restoreMmioRegion (some resolve) t r.snapshot).mmioRegions =
        t.mmioRegions ++ [r] := by
      unfold restoreMmioRegion
      simp only [h r List.mem_cons_self]
      exact pushMmioRegion_mmioRegions _ _
    rw [hpush, List.append_assoc, List.singleton_append]

/-- **Regions round trip, sorted.** -/
theorem restoreMmioRegions_snapshot (t : Memory) {m : Memory} {resolve : MmioResolver}
    (h : Resolves m resolve) :
    (t.restoreMmioRegions m.snapshotMmioRegions (some resolve)).mmioRegions =
      m.mmioRegions.mergeSort sortsFirst := by
  have hsorted : m.snapshotMmioRegions =
      (m.mmioRegions.mergeSort sortsFirst).map MmioRegion.snapshot := by
    unfold snapshotMmioRegions
    rw [List.map_mergeSort]
    intro r _ q _
    rfl
  unfold restoreMmioRegions
  rw [hsorted, foldl_restoreMmioRegion]
  · rfl
  · intro r hr
    exact h r (List.mem_mergeSort.mp hr)

/-! ## Observation -/

/-- A memory under the hooks and the passthrough pair of another. -/
def withCallbacksOf (m t : Memory) : Memory :=
  { m with
    accessHooks := t.accessHooks
    passthroughRead := t.passthroughRead
    passthroughWrite := t.passthroughWrite }

/-- Two memories that treat an access of `n` bytes at `a` alike: same pages,
same callbacks, same region. -/
structure SameRoute (m m' : Memory) (a : U64) (n : Nat) : Prop where
  pages : m'.pages = m.pages
  accessHooks : m'.accessHooks = m.accessHooks
  passthroughRead : m'.passthroughRead = m.passthroughRead
  passthroughWrite : m'.passthroughWrite = m.passthroughWrite
  noMmio : m'.mmioRegions.isEmpty = m.mmioRegions.isEmpty
  region : m'.findMmioRegion a n = m.findMmioRegion a n

/-- The fast path is taken by both or by none. -/
theorem SameRoute.singlePage {m m' : Memory} {a : U64} {n : Nat} (h : SameRoute m m' a n) :
    m'.singlePage a n = m.singlePage a n := by
  unfold Memory.singlePage hasAnyAccessHooks
  rw [h.accessHooks, h.noMmio]

/-- The hooks answer alike. -/
theorem SameRoute.accessAllowed {m m' : Memory} {a : U64} {n : Nat} (h : SameRoute m m' a n)
    (event : MemoryAccessEvent) : m'.accessAllowed event = m.accessAllowed event := by
  unfold Memory.accessAllowed
  rw [h.accessHooks]

/-- Reads are routed alike. -/
theorem SameRoute.read {m m' : Memory} {a : U64} {n : Nat} (h : SameRoute m m' a n)
    (kind : MemoryAccessKind) : m'.read a n kind = m.read a n kind := by
  unfold Memory.read
  simp only [h.passthroughRead, h.singlePage, h.pages, h.region, h.accessAllowed]

/-- The page loop answers and writes the same. -/
theorem writePages_congr {m m' : Memory} (h : m'.pages = m.pages)
    (ok : MemoryPermissionMask → Bool) (a : U64) (src : List Byte) :
    (writePages ok m' a src).2 = (writePages ok m a src).2 ∧
      (writePages ok m' a src).1.pages = (writePages ok m a src).1.pages := by
  unfold writePages
  rw [h]
  split
  next => exact ⟨rfl, rfl⟩
  next => exact ⟨rfl, by rw [bumpCodeEpochIf_pages, bumpCodeEpochIf_pages]⟩

/-- Writes are routed alike. -/
theorem SameRoute.write {m m' : Memory} {a : U64} {src : List Byte}
    (h : SameRoute m m' a src.length) (kind : MemoryAccessKind) :
    (m'.write a src kind).2 = (m.write a src kind).2 ∧
      (m'.write a src kind).1.pages = (m.write a src kind).1.pages := by
  -- The five things the route depends on agree, so both writes take the same branch.
  unfold Memory.write
  rw [h.passthroughWrite, h.singlePage, h.accessAllowed, h.region, h.pages]
  split
  next => exact ⟨rfl, h.pages⟩
  next =>
    split
    next =>
      split
      next => exact ⟨rfl, h.pages⟩
      next =>
        split
        next => exact ⟨rfl, by rw [bumpCodeEpochIf_pages, bumpCodeEpochIf_pages]⟩
        next => exact ⟨rfl, h.pages⟩
    next =>
      split
      next =>
        split
        next => exact ⟨rfl, h.pages⟩
        next => exact writePages_congr h.pages _ a src
      next => exact ⟨rfl, h.pages⟩

/-- The unchecked accesses look at pages and regions alone. -/
theorem unchecked_congr {m m' : Memory} {a : U64} (hpages : m'.pages = m.pages) :
    (∀ n, m'.findMmioRegion a n = m.findMmioRegion a n →
      m'.readUnchecked a n = m.readUnchecked a n) ∧
    ∀ src : List Byte, m'.findMmioRegion a src.length = m.findMmioRegion a src.length →
      (m'.writeUnchecked a src).2 = (m.writeUnchecked a src).2 ∧
        (m'.writeUnchecked a src).1.pages = (m.writeUnchecked a src).1.pages := by
  constructor
  · intro n hregion
    unfold readUnchecked
    rw [hregion, hpages]
  · intro src hregion
    unfold writeUnchecked
    rw [hregion]
    split
    next => exact ⟨rfl, hpages⟩
    next => exact writePages_congr hpages _ a src

/-- Every access is answered by the region that sorts first among those that
contain it. -/
def SortSafe (m : Memory) : Prop :=
  ∀ (a : U64) (n : Nat), 1 ≤ n → n < 2 ^ 64 →
    ∀ r, m.mmioRegions.find? (fun r => coversWrapped r.base r.size.toNat a n) = some r →
      ∀ q ∈ m.mmioRegions, coversWrapped q.base q.size.toNat a n = true → sortsFirst r q = true

/-- Mapped in the order of their bases, regions are safe however they overlap. -/
theorem SortSafe.of_pairwise {m : Memory}
    (h : m.mmioRegions.Pairwise fun r q => sortsFirst r q = true) : SortSafe m := by
  intro a n _ _ r hr q hq hcovers
  have hrefl : ∀ r, sortsFirst r r = true := fun r => by simpa using sortsFirst_total r r
  exact le_of_find?_pairwise h hrefl hr hq hcovers

/-- The regions that answer survive a round trip exactly when the sort does
not move one in front of another that answers. -/
theorem findMmioRegion_restored_iff (t : Memory) {m : Memory} (h : MmioBounds m)
    {resolve : MmioResolver} (hresolve : Resolves m resolve) (a : U64) (n : Nat) :
    (t.restoreMmioRegions m.snapshotMmioRegions (some resolve)).findMmioRegion a n =
        m.findMmioRegion a n ↔
      ∀ r, m.mmioRegions.find? (fun r => coversWrapped r.base r.size.toNat a n) = some r →
        ∀ q ∈ m.mmioRegions, coversWrapped q.base q.size.toNat a n = true →
          sortsFirst r q = true := by
  rw [findMmioRegion_eq_find? h, findMmioRegion_eq_find? (MmioBounds.restored _ _ _),
    restoreMmioRegions_snapshot t hresolve]
  exact find?_mergeSort_iff sortsFirst_trans sortsFirst_total _ _

end Memory

/-- A machine observed as another: its state, its pages, and where every
access goes and what it answers, under whatever hooks and passthrough the
machine has. -/
structure RoundTrip (state : CpuState) (m : Memory) (restored : CpuState × Memory) : Prop where
  state : restored.1 = state
  pages : restored.2.pages = m.pages
  region : ∀ (a : U64) (n : Nat), 1 ≤ n → n < 2 ^ 64 →
    restored.2.findMmioRegion a n = m.findMmioRegion a n
  read : ∀ (a : U64) (n : Nat) (kind : MemoryAccessKind), 1 ≤ n → n < 2 ^ 64 →
    restored.2.read a n kind = (m.withCallbacksOf restored.2).read a n kind
  readUnchecked : ∀ (a : U64) (n : Nat), 1 ≤ n → n < 2 ^ 64 →
    restored.2.readUnchecked a n = m.readUnchecked a n
  write : ∀ (a : U64) (src : List Byte) (kind : MemoryAccessKind), 1 ≤ src.length →
    src.length < 2 ^ 64 →
    (restored.2.write a src kind).2 = ((m.withCallbacksOf restored.2).write a src kind).2 ∧
      (restored.2.write a src kind).1.pages =
        ((m.withCallbacksOf restored.2).write a src kind).1.pages
  writeUnchecked : ∀ (a : U64) (src : List Byte), 1 ≤ src.length → src.length < 2 ^ 64 →
    (restored.2.writeUnchecked a src).2 = (m.writeUnchecked a src).2 ∧
      (restored.2.writeUnchecked a src).1.pages = (m.writeUnchecked a src).1.pages

/-- Same pages and same routing make a round trip. -/
theorem RoundTrip.of_region {state : CpuState} {m r : Memory} (hpages : r.pages = m.pages)
    (hempty : r.mmioRegions.isEmpty = m.mmioRegions.isEmpty)
    (hregion : ∀ (a : U64) (n : Nat), 1 ≤ n → n < 2 ^ 64 →
      r.findMmioRegion a n = m.findMmioRegion a n) : RoundTrip state m (state, r) := by
  have hroute : ∀ (a : U64) (n : Nat), 1 ≤ n → n < 2 ^ 64 →
      Memory.SameRoute (m.withCallbacksOf r) r a n :=
    fun a n hn hn' => ⟨hpages, rfl, rfl, rfl, hempty, hregion a n hn hn'⟩
  constructor
  case state => rfl
  case pages => exact hpages
  case region => exact hregion
  case read =>
    intro a n kind hn hn'
    exact (hroute a n hn hn').read kind
  case readUnchecked =>
    intro a n hn hn'
    exact (Memory.unchecked_congr hpages).1 n (hregion a n hn hn')
  case write =>
    intro a src kind hsrc hsrc'
    exact (hroute a src.length hsrc hsrc').write kind
  case writeUnchecked =>
    intro a src hsrc hsrc'
    exact (Memory.unchecked_congr hpages).2 src (hregion a src.length hsrc hsrc')

/-- **Snapshots round trip** into any machine, from any well-formed memory,
exactly when the memory is `SortSafe`. -/
theorem restoreSnapshot_roundTrip_iff (state t : CpuState) {m : Memory} (tm : Memory)
    (h : Memory.WellFormed m) {resolve : MmioResolver} (hresolve : Memory.Resolves m resolve) :
    RoundTrip state m (restoreSnapshot t tm (captureSnapshot state m) (some resolve)) ↔
      m.SortSafe := by
  have hregion := Memory.findMmioRegion_restored_iff (tm.restorePages m.snapshotPages) h.bounds
    hresolve
  constructor
  · intro hround a n hn hn'
    exact (hregion a n).mp (hround.region a n hn hn')
  · intro hsafe
    apply RoundTrip.of_region
    · have hrest := Memory.pages_apply (tm.restorePages m.snapshotPages)
        (.restore m.snapshotMmioRegions (some resolve))
      exact hrest.trans (Memory.restorePages_snapshotPages tm h.keyed)
    · show ((tm.restorePages m.snapshotPages).restoreMmioRegions m.snapshotMmioRegions
        (some resolve)).mmioRegions.isEmpty = m.mmioRegions.isEmpty
      rw [Memory.restoreMmioRegions_snapshot _ hresolve, Bool.eq_iff_iff,
        List.isEmpty_iff_length_eq_zero, List.isEmpty_iff_length_eq_zero, List.length_mergeSort]
    · intro a n hn hn'
      exact (hregion a n).mpr (hsafe a n hn hn')

/-! ## Two devices -/

/-- A device that answers every read with one byte. -/
def constantDevice (b : Byte) : MmioReadCallback := fun _ n => some (Vector.replicate n b)

/-- The resolver of the devices mapped below. -/
def deviceResolver : MmioResolver := fun region =>
  some (some (constantDevice (if region.id = 1#64 then 0xAA#8 else 0xBB#8)), none)

/-- The first device, at `0x1800`, and a second one mapped at `base`. -/
def twoDevices (base : U64) : Memory :=
  ((({} : Memory).mapMmio 0x1800#64 0x1000#64 (some (constantDevice 0xAA#8)) none).2.mapMmio base
    0x1000#64 (some (constantDevice 0xBB#8)) none).2

/-- The resolver knows both devices. -/
theorem twoDevices_resolves (base : U64) : Memory.Resolves (twoDevices base) deviceResolver := by
  intro r hr
  have hlist : (twoDevices base).mmioRegions =
      [⟨1#64, 0x1800#64, 0x1000#64, some (constantDevice 0xAA#8), none⟩,
        ⟨2#64, base, 0x1000#64, some (constantDevice 0xBB#8), none⟩] := rfl
  rw [hlist] at hr
  rcases List.mem_cons.mp hr with rfl | hr
  · rfl
  · rw [List.mem_singleton.mp hr]
    rfl

/-- Two devices and no page. -/
theorem twoDevices_wellFormed (base : U64) : Memory.WellFormed (twoDevices base) := by
  have hfirst := Memory.WellFormed.empty.mmio
    (.map 0x1800#64 0x1000#64 (some (constantDevice 0xAA#8)) none)
  exact hfirst.mmio (.map base 0x1000#64 (some (constantDevice 0xBB#8)) none)

/-- The second device lies below the first and overlaps it: it takes over the
overlap after a restore, with nothing done in between. -/
theorem restoreSnapshot_swaps_devices :
    Memory.Resolves (twoDevices 0x1000#64) deviceResolver ∧
    (twoDevices 0x1000#64).readUnchecked 0x1900#64 1 = some [0xAA#8] ∧
    ¬ RoundTrip {} (twoDevices 0x1000#64) (restoreSnapshot {} (twoDevices 0x1000#64)
      (captureSnapshot {} (twoDevices 0x1000#64)) (some deviceResolver)) := by
  refine ⟨twoDevices_resolves _, by decide +kernel, ?_⟩
  intro hround
  have hregion := hround.region 0x1900#64 1 (by decide) (by decide)
  have hfirst := (Memory.findMmioRegion_restored_iff _ (twoDevices_wellFormed 0x1000#64).bounds
    (twoDevices_resolves 0x1000#64) 0x1900#64 1).mp hregion
  have hsorts := hfirst ⟨1#64, 0x1800#64, 0x1000#64, some (constantDevice 0xAA#8), none⟩ rfl
    ⟨2#64, 0x1000#64, 0x1000#64, some (constantDevice 0xBB#8), none⟩
    (List.mem_cons_of_mem _ List.mem_cons_self) (by decide)
  revert hsorts
  decide

/-- The second device overlaps the first from above: it does not. -/
theorem restoreSnapshot_keeps_devices :
    RoundTrip {} (twoDevices 0x2000#64) (restoreSnapshot {} {}
      (captureSnapshot {} (twoDevices 0x2000#64)) (some deviceResolver)) := by
  apply (restoreSnapshot_roundTrip_iff {} {} {} (twoDevices_wellFormed _)
    (twoDevices_resolves _)).mpr
  apply Memory.SortSafe.of_pairwise
  have hlist : (twoDevices 0x2000#64).mmioRegions =
      [⟨1#64, 0x1800#64, 0x1000#64, some (constantDevice 0xAA#8), none⟩,
        ⟨2#64, 0x2000#64, 0x1000#64, some (constantDevice 0xBB#8), none⟩] := rfl
  rw [hlist, List.pairwise_pair]
  decide

end Seven
