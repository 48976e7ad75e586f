import Seven.Memory.Atomic

/-!
# What a write does to the memory object

A call of `write` or `write_unchecked` either leaves the object alone — the
host or an MMIO callback took it, or a hook refused — or copies a prefix of
the source into the pages (`PageWrite`): mapping, permissions, hooks,
regions and passthrough stay as they are, and the code epoch moves by at
most one, by one exactly when a complete write reached an executable page.

From this follows what handlers with several accesses need: whether a later
access succeeds does not depend on the writes before it
(`write_ok_congr`).
-/

namespace Seven

open Seven.Lib

namespace Memory

/-- The effect of a write that goes to the pages. -/
structure PageWrite (ok : MemoryPermissionMask → Bool) (a : U64) (src : List Byte) (k : Nat)
    (m : Memory) (r : Memory × Bool) : Prop where
  written : Written ok a src k m.pages r.1.pages
  flag : r.2 = decide (k = src.length)
  rest : { r.1 with pages := m.pages, codeEpoch := m.codeEpoch } = m
  epoch : r.1.codeEpoch = m.codeEpoch ∨ r.1.codeEpoch = m.codeEpoch + 1#64
  bumped : r.2 = true → ∀ i < k, accessible executable m.pages (a + BitVec.ofNat 64 i) = true →
    r.1.codeEpoch = m.codeEpoch + 1#64

/-- The code epoch aside, noting code changes nothing. -/
theorem bumpCodeEpochIf_rest (m : Memory) (b : Bool) (pages : PageMap) (epoch : U64) :
    { bumpCodeEpochIf m b with pages := pages, codeEpoch := epoch } =
      { m with pages := pages, codeEpoch := epoch } := by
  unfold bumpCodeEpochIf
  split <;> rfl

/-- The page write of `writePages`. -/
theorem writePages_pageWrite (ok : MemoryPermissionMask → Bool) (m : Memory) (a : U64)
    {src : List Byte} (hlen : src.length ≤ 2 ^ 64) :
    ∃ k, PageWrite ok a src k m (writePages ok m a src) := by
  obtain ⟨k, hw, hres, hcode⟩ := @copyToPages_written ok m.pages a src hlen
  refine ⟨k, ?_⟩
  unfold writePages
  split
  next c h =>
    rw [h] at hw hres
    exact ⟨hw, hres, rfl, Or.inl rfl, fun hd => absurd hd (by simp)⟩
  next c h =>
    rw [h] at hw hres hcode
    refine ⟨by rw [bumpCodeEpochIf_pages]; exact hw, hres, bumpCodeEpochIf_rest _ _ _ _, ?_, ?_⟩
    · unfold bumpCodeEpochIf
      split
      · exact Or.inr rfl
      · exact Or.inl rfl
    -- An executable page among the bytes written moves the epoch.
    · intro _ i hi hexec
      have hany : c.codeChanged = true := by
        rw [hcode, List.any_eq_true]
        exact ⟨i, List.mem_range.mpr hi, hexec⟩
      rw [hany]
      rfl

/-- A write of no bytes on the fast path stores the page it found. -/
theorem pageWrite_nil (ok : MemoryPermissionMask → Bool) (m : Memory) (a : U64) {e : PageEntry}
    (he : entryAt m.pages a = some e) :
    PageWrite ok a [] 0 m
      (bumpCodeEpochIf { m with
          pages := m.pages.insert (a.toNat / kPageSize) (e.store (a.toNat % kPageSize) []) }
        (executable e.permissions), true) := by
  -- An empty write stores the entry it found.
  have hpages : m.pages.insert (a.toNat / kPageSize) (e.store (a.toNat % kPageSize) []) =
      m.pages := by
    apply Std.ExtTreeMap.ext_getElem?
    intro page
    rw [getElem?_insert_page]
    split
    next h =>
      rw [← h]
      simp only [PageEntry.store, List.getElem?_nil, Option.getD_none, ite_self]
      exact he.symm
    next => rfl
  rw [hpages]
  refine ⟨⟨Nat.le_refl 0, by omega, fun h => absurd h (by simp), ?_, by omega, ?_⟩, rfl,
    bumpCodeEpochIf_rest _ _ _ _, ?_, by omega⟩
  · rw [bumpCodeEpochIf_pages]
    exact fun _ => rfl
  · rw [bumpCodeEpochIf_pages]
    exact fun _ _ => rfl
  · unfold bumpCodeEpochIf
    split
    · exact Or.inr rfl
    · exact Or.inl rfl

/-- **Either the object is untouched or the pages are written.** -/
theorem write_cases (m : Memory) (a : U64) {src : List Byte} (hlen : src.length ≤ 2 ^ 64)
    (kind : MemoryAccessKind) :
    (m.write a src kind).1 = m ∨
      ∃ k, PageWrite (hasPermission · kind) a src k m (m.write a src kind) := by
  unfold write
  split
  next => exact Or.inl rfl
  next =>
    split
    next hfast =>
      cases src with
      | nil =>
        split
        next => exact Or.inl rfl
        next e he =>
          split
          next hperm => exact Or.inr ⟨0, pageWrite_nil _ m a he⟩
          next => exact Or.inl rfl
      | cons b bs =>
        -- the fast path is the walk of a single chunk
        simp only [singlePage, Bool.and_eq_true, decide_eq_true_eq] at hfast
        have hchunk := writePages_one_chunk (hasPermission · kind) m
          (List.cons_ne_nil b bs) hfast.2
        obtain ⟨k, hk⟩ := writePages_pageWrite (hasPermission · kind) m a hlen
        rw [hchunk] at hk
        exact Or.inr ⟨k, hk⟩
    next =>
      split
      next =>
        split
        next => exact Or.inl rfl
        next => exact Or.inr (writePages_pageWrite _ m a hlen)
      next => exact Or.inl rfl

/-- An unchecked write goes to a device or to the pages. -/
theorem writeUnchecked_cases (m : Memory) (a : U64) {src : List Byte} (hlen : src.length ≤ 2 ^ 64) :
    (m.writeUnchecked a src).1 = m ∨
      ∃ k, PageWrite (fun _ => true) a src k m (m.writeUnchecked a src) := by
  unfold writeUnchecked
  split
  next => exact Or.inl rfl
  next => exact Or.inr (writePages_pageWrite _ m a hlen)

/-! ## Access rights are stable -/

/-- Two memories that permit the same accesses: they differ in bytes and
epochs only. -/
structure SameAccess (m m' : Memory) : Prop where
  perms : ∀ page : Nat, (m'.pages[page]?).map PageEntry.permissions =
    (m.pages[page]?).map PageEntry.permissions
  accessHooks : m'.accessHooks = m.accessHooks
  mmioRegions : m'.mmioRegions = m.mmioRegions
  mmioMinBase : m'.mmioMinBase = m.mmioMinBase
  mmioMaxEnd : m'.mmioMaxEnd = m.mmioMaxEnd
  passthroughRead : m'.passthroughRead = m.passthroughRead
  passthroughWrite : m'.passthroughWrite = m.passthroughWrite

/-- A memory routes like itself. -/
theorem SameAccess.refl (m : Memory) : SameAccess m m :=
  ⟨fun _ => rfl, rfl, rfl, rfl, rfl, rfl, rfl⟩

/-- The relation composes. -/
theorem SameAccess.trans {a b c : Memory} (h : SameAccess a b) (h' : SameAccess b c) :
    SameAccess a c :=
  ⟨fun page => (h'.perms page).trans (h.perms page), h'.accessHooks.trans h.accessHooks,
    h'.mmioRegions.trans h.mmioRegions, h'.mmioMinBase.trans h.mmioMinBase,
    h'.mmioMaxEnd.trans h.mmioMaxEnd, h'.passthroughRead.trans h.passthroughRead,
    h'.passthroughWrite.trans h.passthroughWrite⟩

/-- A page write moves no page, region or hook. -/
theorem PageWrite.sameAccess {ok : MemoryPermissionMask → Bool} {a : U64} {src : List Byte}
    {k : Nat} {m : Memory} {r : Memory × Bool} (h : PageWrite ok a src k m r) :
    SameAccess m r.1 := by
  have hr := h.rest
  exact ⟨h.written.perms, congrArg (·.accessHooks) hr, congrArg (·.mmioRegions) hr,
    congrArg (·.mmioMinBase) hr, congrArg (·.mmioMaxEnd) hr, congrArg (·.passthroughRead) hr,
    congrArg (·.passthroughWrite) hr⟩

/-- A write changes no access right. -/
theorem write_sameAccess (m : Memory) (a : U64) {src : List Byte} (hlen : src.length ≤ 2 ^ 64)
    (kind : MemoryAccessKind) : SameAccess m (m.write a src kind).1 := by
  rcases write_cases m a hlen kind with h | ⟨k, h⟩
  · rw [h]
    exact SameAccess.refl m
  · exact h.sameAccess

/-- The page loop succeeds exactly when the whole span is accessible. -/
theorem writePages_ok_iff (ok : MemoryPermissionMask → Bool) (m : Memory) (a : U64)
    {src : List Byte} (hlen : src.length ≤ 2 ^ 64) :
    (writePages ok m a src).2 = true ↔
      ∀ i < src.length, accessible ok m.pages (a + BitVec.ofNat 64 i) = true := by
  obtain ⟨k, h⟩ := writePages_pageWrite ok m a hlen
  rw [h.flag, decide_eq_true_iff]
  constructor
  · rintro rfl
    exact h.written.pre
  · intro hall
    refine Nat.le_antisymm h.written.le (Nat.le_of_not_lt fun hk => ?_)
    have hstop := h.written.stop hk
    rw [hall k hk] at hstop
    cases hstop

/-- **Whether a write succeeds is a matter of access rights**: it is the
same in any memory with the same rights, whatever the bytes. -/
theorem write_ok_congr {m m' : Memory} (h : SameAccess m m') (a : U64) {src : List Byte}
    (hlen : src.length ≤ 2 ^ 64) (kind : MemoryAccessKind) :
    (m'.write a src kind).2 = (m.write a src kind).2 := by
  have hsingle : m'.singlePage a src.length = m.singlePage a src.length := by
    unfold singlePage hasAnyAccessHooks
    rw [h.accessHooks, h.mmioRegions]
  have hallow (e : MemoryAccessEvent) : m'.accessAllowed e = m.accessAllowed e := by
    unfold accessAllowed
    rw [h.accessHooks]
  have hmmio : m'.findMmioRegion a src.length = m.findMmioRegion a src.length := by
    unfold findMmioRegion
    rw [h.mmioRegions, h.mmioMinBase, h.mmioMaxEnd]
  have hloop : (writePages (hasPermission · kind) m' a src).2 =
      (writePages (hasPermission · kind) m a src).2 := by
    rw [Bool.eq_iff_iff, writePages_ok_iff _ _ _ hlen, writePages_ok_iff _ _ _ hlen]
    simp only [accessible_congr h.perms]
  have hentry : (entryAt m'.pages a).map PageEntry.permissions =
      (entryAt m.pages a).map PageEntry.permissions := h.perms _
  unfold write
  rw [h.passthroughWrite, hsingle, hallow, hmmio]
  cases m.passthroughWrite with
  | some f => rfl
  | none =>
    simp only
    split
    next =>
      -- the fast path looks at the permissions of one page
      cases he : entryAt m.pages a with
      | none =>
        rw [he] at hentry
        rw [Option.map_eq_none_iff.mp hentry]
      | some e =>
        rw [he] at hentry
        obtain ⟨e', he', hperm⟩ := Option.map_eq_some_iff.mp hentry
        rw [he']
        simp only [hperm]
        split <;> rfl
    next =>
      split
      next =>
        split
        next => rfl
        next => exact hloop
      next => rfl

end Memory

end Seven
