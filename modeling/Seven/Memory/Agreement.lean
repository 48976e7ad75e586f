import Seven.Memory.Effect
import Seven.Memory.FetchView
import Seven.Memory.HookMatch

/-!
# Three ways through one access, two models of permission

A read or a write takes a fast path when there is no hook and no MMIO region
and the span fits in a page, a loop over pages otherwise, and with hooks a
loop into a buffer. The permission of a page is judged by `has_permission`
during an access and by `has_permissions` when a caller asks in advance.

The paths agree:

> `Memory.addAccessHook_invisible`: an installed hook that always agrees
> changes neither what a read returns nor what a write does, and a read that
> succeeds is matched by `read_unchecked`.

The two permission models do not quite: execution implies reading in both, but
writing implies reading only during the access.

> `Memory.permissions_agree_iff`: asking in advance and accessing agree, except
> at ranges that may be read and touch a write-only page.
-/

namespace Seven

open Seven.Lib

namespace Memory

/-! ## A hook that always agrees -/

/-- The answers of an access do not depend on a hook that agrees. -/
theorem accessAllowed_addAccessHook (m : Memory) (range : Option MemoryHookRange)
    (kinds : MemoryAccessKindMask) (event : MemoryAccessEvent) :
    (m.addAccessHook (fun _ => true) range kinds).2.accessAllowed event = m.accessAllowed event := by
  show (m.accessHooks ++ [_]).all _ = m.accessHooks.all _
  rw [List.all_append, List.all_cons, List.all_nil, Bool.or_true, Bool.and_true, Bool.and_true]

/-- The page loop sees the pages and the code epoch only. -/
theorem writePages_addAccessHook (ok : MemoryPermissionMask → Bool) (m : Memory)
    (callback : MemoryAccessEvent → Bool) (range : Option MemoryHookRange)
    (kinds : MemoryAccessKindMask) (a : U64) (src : List Byte) :
    (writePages ok (m.addAccessHook callback range kinds).2 a src).2 = (writePages ok m a src).2 ∧
      (writePages ok (m.addAccessHook callback range kinds).2 a src).1.pages =
        (writePages ok m a src).1.pages ∧
      (writePages ok (m.addAccessHook callback range kinds).2 a src).1.codeEpoch =
        (writePages ok m a src).1.codeEpoch := by
  have hloop : copyToPages ok (m.addAccessHook callback range kinds).2.pages a src =
      copyToPages ok m.pages a src := rfl
  unfold writePages
  rw [hloop]
  split
  next => exact ⟨rfl, rfl, rfl⟩
  next c _ =>
    unfold bumpCodeEpochIf
    cases c.codeChanged <;> exact ⟨rfl, rfl, rfl⟩

/-- Dropping the permission test only lets more through. -/
theorem copyFromPages_unchecked {ok : MemoryPermissionMask → Bool} {pages : PageMap} {a : U64}
    {n : Nat} {bs : List Byte} (h : copyFromPages ok pages a n = some bs) :
    copyFromPages (fun _ => true) pages a n = some bs := by
  obtain ⟨hlen, hbytes⟩ := copyFromPages_eq_some_iff.mp h
  refine copyFromPages_eq_some_iff.mpr ⟨hlen, fun i hi => ?_⟩
  have hbyte : peek ok pages (a + BitVec.ofNat 64 i) = some bs[i] := by
    rw [hbytes i hi, List.getElem?_eq_getElem]
  obtain ⟨haccess, hat⟩ := peek_eq_some_iff.mp hbyte
  obtain ⟨e, he, _⟩ := accessible_iff.mp haccess
  rw [List.getElem?_eq_getElem (by omega)]
  exact peek_eq_some_iff.mpr ⟨accessible_iff.mpr ⟨e, he, rfl⟩, hat⟩

/-- **The paths agree.** In a memory without MMIO and passthrough, installing
a hook that always agrees leaves reads (result and bytes) and writes (result,
pages, code epoch) as they were; and what a read returns, `read_unchecked`
returns. -/
theorem addAccessHook_invisible {m : Memory} (hmmio : m.mmioRegions = [])
    (hread : m.passthroughRead = none) (hwrite : m.passthroughWrite = none)
    (range : Option MemoryHookRange) (kinds : MemoryAccessKindMask) :
    let hooked := (m.addAccessHook (fun _ => true) range kinds).2
    (∀ a n kind, 1 ≤ n → hooked.read a n kind = m.read a n kind) ∧
      (∀ a src kind, 1 ≤ src.length →
        (hooked.write a src kind).2 = (m.write a src kind).2 ∧
        (hooked.write a src kind).1.pages = (m.write a src kind).1.pages ∧
        (hooked.write a src kind).1.codeEpoch = (m.write a src kind).1.codeEpoch) ∧
      ∀ a n kind bs, 1 ≤ n → m.read a n kind = some bs → m.readUnchecked a n = some bs := by
  intro hooked
  have hallow : ∀ event, hooked.accessAllowed event = m.accessAllowed event :=
    accessAllowed_addAccessHook m range kinds
  have hmmio' : hooked.mmioRegions = [] := hmmio
  -- each access is the walk over the pages behind the hooks' verdict, which is the same
  refine ⟨?_, ?_, ?_⟩
  · intro a n kind hn
    rw [read_eq hread (findMmioRegion_nil hmmio a n) hn,
      @read_eq hooked hread a n (findMmioRegion_nil hmmio' a n) hn kind]
    simp only [hallow]
    rfl
  · intro a src kind hsrc
    have hne : src ≠ [] := List.length_pos_iff.mp hsrc
    rw [write_eq hwrite hmmio hne, @write_eq hooked hwrite hmmio' a src hne kind, hallow]
    split
    next => exact writePages_addAccessHook _ m _ range kinds a src
    next => exact ⟨rfl, rfl, rfl⟩
  · intro a n kind bs hn hbs
    have hcopy := copyFromPages_of_read hread (findMmioRegion_nil hmmio a n) hn hbs
    unfold readUnchecked
    rw [findMmioRegion_nil hmmio]
    exact copyFromPages_unchecked hcopy

/-- A read and a write across two pages, the second of them executable, under
a hook on the first. -/
theorem addAccessHook_invisible_two_pages :
    let m := (({} : Memory).map 0x1000#64 0x1000#64 kMemoryPermissionReadWrite).map
      0x2000#64 0x1000#64 kMemoryPermissionAll
    let hooked := (m.addAccessHook (fun _ => true) (some ⟨0x1000#64, 8#64⟩) 7#8).2
    hooked.read 0x1FFF#64 2 .dataRead = m.read 0x1FFF#64 2 .dataRead ∧
      (hooked.write 0x1FFF#64 [1#8, 2#8] .dataWrite).1.codeEpoch =
        (m.write 0x1FFF#64 [1#8, 2#8] .dataWrite).1.codeEpoch := by
  intro m hooked
  have ⟨hreads, hwrites, _⟩ := @addAccessHook_invisible m rfl rfl rfl (some ⟨0x1000#64, 8#64⟩) 7#8
  exact ⟨hreads _ _ _ (by decide), (hwrites _ _ _ (by decide)).2.2⟩

/-! ## Asking in advance -/

/-- A query loop finds what a copy under the same test would find. -/
theorem queryLoop_iff (ok : MemoryPermissionMask → Bool) (m : Memory) (a : U64) (n : Nat) :
    (walk kPageSize (queryChunk ok m.pages) n a n ()).2 = true ↔
      ∀ i < n, accessible ok m.pages (a + BitVec.ofNat 64 i) = true := by
  have hvisit : ∀ page off k s t, True →
      (queryChunk ok m.pages page off k s).2 = (readChunk ok m.pages page off k t).2 ∧ True := by
    intro page off k s t _
    unfold queryChunk readChunk
    cases m.pages[page]? with
    | none => exact ⟨rfl, trivial⟩
    | some e => cases h : ok e.permissions <;> simp [h]
  have hsim := @walk_sim _ _ 64 kPageSize _ _ (fun _ _ => True) hvisit n a n () [] trivial
  rw [← copyFromPages_isSome_iff]
  unfold copyFromPages
  rw [hsim.1]
  split
  next hwalk => rw [hwalk]; simp
  next hwalk => rw [hwalk]; simp

/-- `has_permissions` asks every byte. -/
theorem hasPermissions_iff (m : Memory) (a : U64) (n : Nat) (required : MemoryPermissionMask) :
    m.hasPermissions a n required = true ↔
      ∀ i < n, accessible (permits required) m.pages (a + BitVec.ofNat 64 i) = true :=
  queryLoop_iff (permits required) m a n

/-- `is_mapped` asks every byte. -/
theorem isMapped_iff (m : Memory) (a : U64) (n : Nat) :
    m.isMapped a n = true ↔
      ∀ i < n, accessible (fun _ => true) m.pages (a + BitVec.ofNat 64 i) = true :=
  queryLoop_iff (fun _ => true) m a n

/-- Writable, neither readable nor executable. -/
def WriteOnly (permissions : MemoryPermissionMask) : Bool :=
  permissions &&& kMemoryPermissionAll == MemoryPermission.write

/-- The two models on one page. For writes and fetches they are the same
test; a data read passes on a write-only page as well. -/
theorem hasPermission_eq_permits (p : MemoryPermissionMask) :
    hasPermission p .dataWrite = permits MemoryPermission.write p ∧
      hasPermission p .instructionFetch = permits MemoryPermission.execute p ∧
      hasPermission p .dataRead = (permits MemoryPermission.read p || WriteOnly p) ∧
      (permits MemoryPermission.read p && WriteOnly p) = false := by
  revert p
  decide

/-- Where asking to read and reading part: the range may be read, and one of
its pages is write-only. -/
def ReadDisputed (m : Memory) (a : U64) (n : Nat) : Prop :=
  (∀ i < n, accessible (hasPermission · .dataRead) m.pages (a + BitVec.ofNat 64 i) = true) ∧
    ∃ i < n, accessible WriteOnly m.pages (a + BitVec.ofNat 64 i) = true

/-- A page passes the access's read test when it passes the query's or is
write-only, and never both. -/
theorem accessible_dataRead (pages : PageMap) (a : U64) :
    (accessible (hasPermission · .dataRead) pages a = true ↔
      accessible (permits MemoryPermission.read) pages a = true ∨
        accessible WriteOnly pages a = true) ∧
      ¬ (accessible (permits MemoryPermission.read) pages a = true ∧
        accessible WriteOnly pages a = true) := by
  unfold accessible
  cases entryAt pages a with
  | none => simp
  | some e =>
    obtain ⟨_, _, hread, hdisjoint⟩ := hasPermission_eq_permits e.permissions
    simp only [hread, Bool.or_eq_true, ← Bool.and_eq_true, hdisjoint]
    simp

/-- **The two permission models.** Without hooks, MMIO and passthrough,
asking in advance and accessing agree for reads, writes and fetches of any
range, except where `ReadDisputed`. -/
theorem permissions_agree_iff {m : Memory} (hhooks : m.accessHooks = []) (hmmio : m.mmioRegions = [])
    (hread : m.passthroughRead = none) (hwrite : m.passthroughWrite = none) {a : U64} {n : Nat}
    (hn : 1 ≤ n) (hn' : n < 2 ^ 64) :
    ((m.read a n .dataRead).isSome = m.hasPermissions a n MemoryPermission.read ∧
      (∀ src, src.length = n →
        (m.write a src .dataWrite).2 = m.hasPermissions a n MemoryPermission.write) ∧
      (m.read a n .instructionFetch).isSome = m.hasPermissions a n MemoryPermission.execute) ↔
      ¬ ReadDisputed m a n := by
  have hallow := accessAllowed_nil hhooks
  have hreads : ∀ kind, (m.read a n kind).isSome = true ↔
      ∀ i < n, accessible (hasPermission · kind) m.pages (a + BitVec.ofNat 64 i) = true := by
    intro kind
    rw [read_eq hread (findMmioRegion_nil hmmio a n) hn, ← copyFromPages_isSome_iff]
    split
    next h => rw [h]
    next temp h => rw [h, if_pos (hallow _)]
  -- fetches and stores are judged alike on every mask
  have hfetch : (m.read a n .instructionFetch).isSome =
      m.hasPermissions a n MemoryPermission.execute := by
    rw [Bool.eq_iff_iff, hreads, hasPermissions_iff]
    simp only [(hasPermission_eq_permits _).2.1]
  have hstore : ∀ src, src.length = n →
      (m.write a src .dataWrite).2 = m.hasPermissions a n MemoryPermission.write := by
    intro src hsrc
    have hne : src ≠ [] := List.length_pos_iff.mp (by omega)
    rw [write_eq hwrite hmmio hne, if_pos (hallow _), Bool.eq_iff_iff,
      writePages_ok_iff _ _ _ (by omega), hasPermissions_iff, hsrc]
    simp only [(hasPermission_eq_permits _).1]
  -- data reads are not: a write-only page passes the access and fails the query
  have hdata : (m.read a n .dataRead).isSome = m.hasPermissions a n MemoryPermission.read ↔
      ¬ ReadDisputed m a n := by
    rw [Bool.eq_iff_iff, hreads, hasPermissions_iff]
    constructor
    · intro hsame ⟨hall, i, hi, honly⟩
      have hpermits := hsame.mp hall i hi
      exact (accessible_dataRead m.pages _).2 ⟨hpermits, honly⟩
    · intro hnot
      constructor
      · intro hall i hi
        rcases (accessible_dataRead m.pages _).1.mp (hall i hi) with hpermits | honly
        · exact hpermits
        · exact absurd ⟨hall, i, hi, honly⟩ hnot
      · intro hall i hi
        exact (accessible_dataRead m.pages _).1.mpr (Or.inl (hall i hi))
  constructor
  · intro hagree
    exact hdata.mp hagree.1
  · intro hnot
    exact ⟨hdata.mpr hnot, hstore, hfetch⟩

/-- One write-only page. -/
def writeOnlyMemory : Memory := ({} : Memory).map 0x1000#64 0x1000#64 MemoryPermission.write

/-- The read succeeds; asked in advance, it would not. -/
theorem read_writeOnly_disputed :
    (writeOnlyMemory.read 0x1000#64 4 .dataRead).isSome = true ∧
      writeOnlyMemory.hasPermissions 0x1000#64 4 MemoryPermission.read = false := by
  decide +kernel

/-- Without the write-only page in the range the models agree. -/
theorem permissions_agree_executable :
    let m := writeOnlyMemory.map 0x2000#64 0x1000#64 MemoryPermission.execute
    (m.read 0x2FFE#64 2 .dataRead).isSome = m.hasPermissions 0x2FFE#64 2 MemoryPermission.read := by
  intro m
  refine ((permissions_agree_iff rfl rfl rfl rfl (by decide) (by decide)).mpr ?_).1
  intro ⟨_, i, hi, honly⟩
  have hnone : ∀ i < 2, accessible WriteOnly m.pages (0x2FFE#64 + BitVec.ofNat 64 i) = false := by
    decide +kernel
  rw [hnone i hi] at honly
  cases honly

end Memory

end Seven
