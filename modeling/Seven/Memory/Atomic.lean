import Seven.Memory.Span

/-!
# When is a write all-or-nothing?

`write` and `write_unchecked` check each page when the copy loop reaches
it, so a span whose later page is missing or not writable has already
changed the earlier ones when the call reports failure. (The hooked `read`
copies into a buffer first for this reason; the write side does not.)

`AllOrNothing` is the contract a caller would like. **Main result**:
`allOrNothing_iff` — the contract holds of a call exactly when a hook
refuses it, when the whole span is accessible, or when the bytes in front
of the first inaccessible page already are the source's (in particular when
the very first page is inaccessible).
-/

namespace Seven

open Seven.Lib

/-! ## The accessible prefix -/

/-- The accessible bytes in front of the first inaccessible one already are
the source's. -/
def PrefixHolds (ok : MemoryPermissionMask → Bool) (pages : PageMap) (a : U64)
    (src : List Byte) : Prop :=
  ∀ i < src.length, (∀ j ≤ i, accessible ok pages (a + BitVec.ofNat 64 j) = true) →
    byteAt pages (a + BitVec.ofNat 64 i) = src[i]?

/-- The prefix a partial write covers is the accessible one. -/
theorem Written.prefixHolds_iff {ok : MemoryPermissionMask → Bool} {a : U64} {src : List Byte}
    {k : Nat} {pages pages' : PageMap} (h : Written ok a src k pages pages') (hk : k < src.length) :
    PrefixHolds ok pages a src ↔ ∀ i < k, byteAt pages (a + BitVec.ofNat 64 i) = src[i]? := by
  constructor
  · intro hp i hi
    exact hp i (by omega) fun j hj => h.pre j (by omega)
  · intro hp i _ hall
    refine hp i (Nat.lt_of_not_le fun hki => ?_)
    have hstop := h.stop hk
    rw [hall k hki] at hstop
    cases hstop

/-- A copy that wrote `k` bytes changed nothing exactly when those bytes
were there already. -/
theorem Written.unchanged_iff {ok : MemoryPermissionMask → Bool} {a : U64} {src : List Byte}
    {k : Nat} {pages pages' : PageMap} (h : Written ok a src k pages pages') :
    (∀ l, pageByte pages' l = pageByte pages l) ↔
      ∀ i < k, byteAt pages (a + BitVec.ofNat 64 i) = src[i]? := by
  constructor
  · intro hsame i hi
    rw [← h.hit i hi]
    exact (hsame (locOf (a + BitVec.ofNat 64 i))).symm
  · intro hp l
    by_cases hl : ∃ i < k, locOf (a + BitVec.ofNat 64 i) = l
    · obtain ⟨i, hi, rfl⟩ := hl
      exact (h.hit i hi).trans (hp i hi).symm
    · exact h.frame l fun i hi he => hl ⟨i, hi, he⟩

namespace Memory

/-- A failed write changes no byte of any page; a successful one puts the
source at `a, a + 1, …` and changes no other byte. -/
structure AllOrNothing (a : U64) (src : List Byte) (m : Memory) (r : Memory × Bool) : Prop where
  failed : r.2 = false → ∀ l, pageByte r.1.pages l = pageByte m.pages l
  hit : r.2 = true → ∀ i < src.length, byteAt r.1.pages (a + BitVec.ofNat 64 i) = src[i]?
  frame : r.2 = true → ∀ l, (∀ i < src.length, locOf (a + BitVec.ofNat 64 i) ≠ l) →
    pageByte r.1.pages l = pageByte m.pages l

/-! ## Every write is the page loop -/

/-- No region answers where there is none. -/
theorem findMmioRegion_nil {m : Memory} (h : m.mmioRegions = []) (a : U64) (n : Nat) :
    m.findMmioRegion a n = none := by
  unfold findMmioRegion
  rw [h]
  rfl

/-- Without hooks nobody refuses. -/
theorem accessAllowed_nil {m : Memory} (h : m.accessHooks = []) (event : MemoryAccessEvent) :
    m.accessAllowed event = true := by
  rw [accessAllowed, h]
  rfl

/-- The pages are not the epoch's business. -/
theorem bumpCodeEpochIf_pages (m : Memory) (b : Bool) : (bumpCodeEpochIf m b).pages = m.pages := by
  unfold bumpCodeEpochIf
  split <;> rfl

/-- On one page the loop is a single chunk, the fast path's `memcpy`. -/
theorem writePages_one_chunk (ok : MemoryPermissionMask → Bool) (m : Memory) {a : U64}
    {src : List Byte} (hsrc : src ≠ []) (hfit : a.toNat % kPageSize + src.length ≤ kPageSize) :
    writePages ok m a src =
      match entryAt m.pages a with
      | none => (m, false)
      | some e =>
        if ok e.permissions then
          (bumpCodeEpochIf { m with
              pages := m.pages.insert (a.toNat / kPageSize) (e.store (a.toNat % kPageSize) src) }
            (executable e.permissions), true)
        else (m, false) := by
  have hpos : 0 < src.length := List.length_pos_iff.mpr hsrc
  unfold writePages copyToPages
  rw [walk_one_chunk _ hpos hfit]
  unfold writeChunk entryAt
  cases m.pages[a.toNat / kPageSize]? with
  | none => rfl
  | some e =>
    simp only
    cases ok e.permissions with
    | false => simp
    | true => simp

/-- Without passthrough and away from MMIO, `write` is the hook question
followed by the page loop, whichever path it takes. -/
theorem write_eq_of_region {m : Memory} (hpass : m.passthroughWrite = none) {a : U64}
    {src : List Byte} (hmmio : m.findMmioRegion a src.length = none) (hsrc : src ≠ [])
    (kind : MemoryAccessKind) :
    m.write a src kind =
      if m.accessAllowed ⟨kind, a, src.length, some src, src.length⟩ then
        writePages (hasPermission · kind) m a src
      else (m, false) := by
  unfold write
  split
  next f hf =>
    rw [hpass] at hf
    cases hf
  next =>
    split
    next hfast =>
      -- the fast path is taken without hooks only
      simp only [singlePage, hasAnyAccessHooks, Bool.and_eq_true, decide_eq_true_eq,
        Bool.not_not, List.isEmpty_iff] at hfast
      rw [accessAllowed_nil hfast.1.1, if_pos rfl]
      exact (writePages_one_chunk (hasPermission · kind) m hsrc hfast.2).symm
    next => rw [hmmio]

/-- A write without passthrough and regions: the hooks, then the pages. -/
theorem write_eq {m : Memory} (hpass : m.passthroughWrite = none) (hmmio : m.mmioRegions = [])
    {a : U64} {src : List Byte} (hsrc : src ≠ []) (kind : MemoryAccessKind) :
    m.write a src kind =
      if m.accessAllowed ⟨kind, a, src.length, some src, src.length⟩ then
        writePages (hasPermission · kind) m a src
      else (m, false) :=
  write_eq_of_region hpass (findMmioRegion_nil hmmio a src.length) hsrc kind

/-- An unchecked write without regions. -/
theorem writeUnchecked_eq {m : Memory} (hmmio : m.mmioRegions = []) (a : U64) (src : List Byte) :
    m.writeUnchecked a src = writePages (fun _ => true) m a src := by
  unfold writeUnchecked
  rw [findMmioRegion_nil hmmio]

/-- The page loop's effect on the pages. -/
theorem writePages_written (ok : MemoryPermissionMask → Bool) (m : Memory) (a : U64)
    {src : List Byte} (hlen : src.length ≤ 2 ^ 64) :
    ∃ k, Written ok a src k m.pages (writePages ok m a src).1.pages ∧
      (writePages ok m a src).2 = decide (k = src.length) := by
  obtain ⟨k, hw, hres, _⟩ := @copyToPages_written ok m.pages a src hlen
  refine ⟨k, ?_⟩
  unfold writePages
  split
  next c h =>
    rw [h] at hw hres
    exact ⟨hw, hres⟩
  next c h =>
    rw [h] at hw hres
    exact ⟨by rw [bumpCodeEpochIf_pages]; exact hw, hres⟩

/-! ## The contract -/

/-- The contract of the page loop. -/
theorem writePages_allOrNothing_iff (ok : MemoryPermissionMask → Bool) (m : Memory) (a : U64)
    {src : List Byte} (hlen : src.length ≤ 2 ^ 64) :
    AllOrNothing a src m (writePages ok m a src) ↔
      (∀ i < src.length, accessible ok m.pages (a + BitVec.ofNat 64 i) = true) ∨
        PrefixHolds ok m.pages a src := by
  obtain ⟨k, hw, hres⟩ := writePages_written ok m a hlen
  rcases Nat.lt_or_ge k src.length with hk | hk
  · -- the copy failed after `k` bytes
    have hfail : (writePages ok m a src).2 = false := by
      rw [hres]
      exact decide_eq_false (by omega)
    rw [hw.prefixHolds_iff hk, ← hw.unchanged_iff]
    constructor
    · exact fun h => Or.inr (h.failed hfail)
    · rintro (hall | hsame)
      · have hstop := hw.stop hk
        rw [hall k hk] at hstop
        cases hstop
      · exact ⟨fun _ => hsame, fun h => absurd h (by rw [hfail]; decide),
          fun h => absurd h (by rw [hfail]; decide)⟩
  · have hkn : k = src.length := Nat.le_antisymm hw.le hk
    -- Every byte was copied: both sides hold.
    have hdone : (writePages ok m a src).2 = true := by
      rw [hres]
      exact decide_eq_true hkn
    subst hkn
    exact ⟨fun _ => Or.inl hw.pre, fun _ => ⟨fun h => absurd h (by rw [hdone]; decide),
      fun _ => hw.hit, fun _ => hw.frame⟩⟩

/-- A refused write changes nothing. -/
theorem allOrNothing_refused (a : U64) (src : List Byte) (m : Memory) :
    AllOrNothing a src m (m, false) :=
  ⟨fun _ _ => rfl, by simp, by simp⟩

/-- **All-or-nothing, exactly**: for `write`, a hook refuses, or the span is
accessible throughout, or its accessible prefix already holds the source;
for `write_unchecked`, the same without hooks and with "mapped" for
"accessible". -/
theorem allOrNothing_iff (m : Memory) (a : U64) (src : List Byte) (kind : MemoryAccessKind)
    (hpass : m.passthroughWrite = none) (hmmio : m.mmioRegions = []) (hsrc : 1 ≤ src.length)
    (hlen : src.length ≤ 2 ^ 64) :
    (AllOrNothing a src m (m.write a src kind) ↔
      m.accessAllowed ⟨kind, a, src.length, some src, src.length⟩ = false ∨
      (∀ i < src.length,
        accessible (hasPermission · kind) m.pages (a + BitVec.ofNat 64 i) = true) ∨
      PrefixHolds (hasPermission · kind) m.pages a src) ∧
    (AllOrNothing a src m (m.writeUnchecked a src) ↔
      (∀ i < src.length, accessible (fun _ => true) m.pages (a + BitVec.ofNat 64 i) = true) ∨
      PrefixHolds (fun _ => true) m.pages a src) := by
  constructor
  · rw [write_eq hpass hmmio (List.length_pos_iff.mp hsrc)]
    cases m.accessAllowed ⟨kind, a, src.length, some src, src.length⟩ with
    | false => simp [allOrNothing_refused]
    | true => simp [writePages_allOrNothing_iff _ m a hlen]
  · rw [writeUnchecked_eq hmmio, writePages_allOrNothing_iff _ m a hlen]

/-- Two writable pages: the write that crosses them is all-or-nothing. -/
theorem allOrNothing_iff_two_pages :
    AllOrNothing 0x1FFF#64 [0xAA#8, 0xBB#8] (map {} 0x1000#64 0x2000#64 kMemoryPermissionAll)
      ((map {} 0x1000#64 0x2000#64 kMemoryPermissionAll).write 0x1FFF#64 [0xAA#8, 0xBB#8]
        .dataWrite) :=
  (allOrNothing_iff (map {} 0x1000#64 0x2000#64 kMemoryPermissionAll) 0x1FFF#64
    [0xAA#8, 0xBB#8] .dataWrite rfl rfl (by decide) (by decide)).1.mpr
    (Or.inr (Or.inl (by decide)))

/-- With the second page unmapped, the failed write has changed the first. -/
theorem failed_write_changes_page :
    ¬ AllOrNothing 0x1FFF#64 [0xAA#8, 0xBB#8]
      (map {} 0x1000#64 0x1000#64 kMemoryPermissionAll)
      ((map {} 0x1000#64 0x1000#64 kMemoryPermissionAll).write 0x1FFF#64 [0xAA#8, 0xBB#8]
        .dataWrite) := by
  intro h
  have hl := h.failed (by decide) (locOf 0x1FFF#64)
  revert hl
  decide

end Memory

end Seven
