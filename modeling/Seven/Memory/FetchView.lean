import Seven.Memory.Effect

/-!
# Memory as instruction fetch sees it

Without passthrough and away from MMIO, a fetch depends on the executable
bytes of the pages only: `fetchView` is that function of the address. A
window is readable when all its bytes are in the view, and a code page is a
window of `kPageSize` bytes, so the page cache and the direct read agree
(`window_of_codePage`).

The code epoch is meant to move whenever the view changes. `CodeBefore` is
the relation between an earlier and a later state of the object that makes
this precise, and `SafeOp` says of which operations it holds: every change
of mapping, every write but one that fails after it has changed executable
bytes.
-/

namespace Seven

open Seven.Lib

namespace Memory

/-- The byte a fetch at `a` finds in the pages. -/
def fetchView (m : Memory) (a : U64) : Option Byte :=
  peek (hasPermission · .instructionFetch) m.pages a

/-! ## Windows and code pages -/

/-- On one page a copy is one `memcpy`. -/
theorem copyFromPages_one_chunk (ok : MemoryPermissionMask → Bool) (pages : PageMap) {a : U64}
    {n : Nat} (hn : 0 < n) (hfit : a.toNat % kPageSize + n ≤ kPageSize) :
    copyFromPages ok pages a n =
      match entryAt pages a with
      | none => none
      | some e => if ok e.permissions then some (e.load (a.toNat % kPageSize) n) else none := by
  unfold copyFromPages
  rw [walk_one_chunk _ hn hfit]
  unfold readChunk entryAt
  cases pages[a.toNat / kPageSize]? with
  | none => rfl
  | some e =>
    simp only
    cases ok e.permissions with
    | false => rfl
    | true => simp

/-- `read_code_page` copies the page. -/
theorem readCodePage_eq_some {m : Memory} (hpass : m.passthroughRead = none) {base : U64}
    {bytes : List Byte} (h : m.readCodePage base = some bytes) :
    copyFromPages (hasPermission · .instructionFetch) m.pages base kPageSize = some bytes := by
  unfold readCodePage at h
  rw [hpass] at h
  simp only at h
  split at h
  next => cases h
  next halign =>
    have hzero : base.toNat % kPageSize = 0 := Decidable.not_not.mp halign
    rw [copyFromPages_one_chunk _ _ kPageSize_pos (by omega), hzero]
    exact h

/-- Without passthrough and MMIO, `read` is a copy out of the pages that the
hooks may refuse, whichever path it takes. -/
theorem read_eq {m : Memory} (hpass : m.passthroughRead = none) {a : U64} {n : Nat}
    (hmmio : m.findMmioRegion a n = none) (hn : 0 < n) (kind : MemoryAccessKind) :
    m.read a n kind =
      match copyFromPages (hasPermission · kind) m.pages a n with
      | none => none
      | some temp => if m.accessAllowed ⟨kind, a, n, some temp, n⟩ then some temp else none := by
  unfold read
  rw [hpass]
  simp only
  split
  next hfast =>
    simp only [singlePage, hasAnyAccessHooks, Bool.and_eq_true, decide_eq_true_eq,
      Bool.not_not, List.isEmpty_iff] at hfast
    -- the fast path is taken without hooks only
    rw [copyFromPages_one_chunk _ _ hn hfast.2]
    cases entryAt m.pages a with
    | none => rfl
    | some e =>
      simp only [accessAllowed_nil hfast.1.1, if_true]
      cases hasPermission e.permissions kind <;> rfl
  next =>
    split
    next r hr =>
      rw [hmmio] at hr
      cases hr
    next => rfl

/-- What a read returns is what the pages hold. -/
theorem copyFromPages_of_read {m : Memory} (hpass : m.passthroughRead = none) {a : U64} {n : Nat}
    (hmmio : m.findMmioRegion a n = none) (hn : 0 < n) {kind : MemoryAccessKind} {bs : List Byte}
    (h : m.read a n kind = some bs) :
    copyFromPages (hasPermission · kind) m.pages a n = some bs := by
  rw [read_eq hpass hmmio hn] at h
  split at h
  next => cases h
  next temp htemp =>
    split at h
    next => exact htemp.trans h
    next => cases h

/-- No installed hook listens to fetches, so none refuses one. -/
theorem accessAllowed_fetch {m : Memory} (h : m.hasFetchAccessHooks = false) (a : U64) (n : Nat)
    (buf : Option (List Byte)) (k : Nat) :
    m.accessAllowed ⟨.instructionFetch, a, n, buf, k⟩ = true := by
  unfold accessAllowed
  rw [List.all_eq_true]
  intro hook hmem
  have hkind : (hook.kinds &&& MemoryAccessKind.instructionFetch.bit == 0#8) = true := by
    have := List.any_eq_false.mp h hook hmem
    simpa using this
  simp only [AccessHookEntry.listens, hkind, if_true, Bool.not_false, Bool.true_or]

/-- A window of a code page is the window itself. -/
theorem window_of_codePage {ok : MemoryPermissionMask → Bool} {pages : PageMap} {base rip : U64}
    {off n size : Nat} {bytes : List Byte} (hrip : rip = base + BitVec.ofNat 64 off)
    (hfit : off + n ≤ size)
    (h : copyFromPages ok pages base size = some bytes) :
    copyFromPages ok pages rip n = some ((bytes.drop off).take n) := by
  obtain ⟨hlen, hbytes⟩ := copyFromPages_eq_some_iff.mp h
  refine copyFromPages_eq_some_iff.mpr ⟨by simp; omega, ?_⟩
  intro i hi
  rw [hrip, BitVec.add_assoc, BitVec.ofNat_add_ofNat, hbytes (off + i) (by omega),
    List.getElem?_take_of_lt hi, List.getElem?_drop]

/-- A copy for fetching depends on the view only. -/
theorem copyFromPages_fetch_congr {m m' : Memory} (h : m.fetchView = m'.fetchView) (a : U64) (n : Nat) :
    copyFromPages (hasPermission · .instructionFetch) m.pages a n =
      copyFromPages (hasPermission · .instructionFetch) m'.pages a n := by
  have hview (b : U64) : peek (hasPermission · .instructionFetch) m.pages b =
      peek (hasPermission · .instructionFetch) m'.pages b := congrFun h b
  apply Option.ext
  intro bs
  rw [copyFromPages_eq_some_iff, copyFromPages_eq_some_iff]
  simp only [hview]

/-! ## What the epoch promises -/

/-- `a` may have come before `b`: the epoch has moved, or the view is the
same. -/
def CodeBefore (a b : Memory) : Prop :=
  a.codeEpoch < b.codeEpoch ∨ (a.codeEpoch = b.codeEpoch ∧ a.fetchView = b.fetchView)

/-- Nothing changed. -/
theorem CodeBefore.refl (m : Memory) : CodeBefore m m := Or.inr ⟨rfl, rfl⟩

/-- Two changes in a row. -/
theorem CodeBefore.trans {a b c : Memory} (h : CodeBefore a b) (h' : CodeBefore b c) :
    CodeBefore a c := by
  rcases h with h | ⟨he, hv⟩
  · rcases h' with h' | ⟨he', _⟩
    · exact Or.inl (BitVec.lt_trans h h')
    · exact Or.inl (he' ▸ h)
  · rcases h' with h' | ⟨he', hv'⟩
    · exact Or.inl (he ▸ h')
    · exact Or.inr ⟨he.trans he', hv.trans hv'⟩

/-- With the same epoch, the view has not changed. -/
theorem CodeBefore.stable {a b : Memory} (h : CodeBefore a b) (he : a.codeEpoch = b.codeEpoch) :
    a.fetchView = b.fetchView := by
  rcases h with h | ⟨_, hv⟩
  · rw [he] at h
    exact absurd h (BitVec.lt_irrefl _)
  · exact hv

/-! ## Operations -/

/-- The operations on the memory object that can change what is fetched. -/
inductive CodeOp where
  | map (base size : U64) (permissions : MemoryPermissionMask)
  | unmap (base size : U64)
  | reprotect (base size : U64) (permissions : MemoryPermissionMask)
  | restorePages (snapshots : List PageSnapshot)
  | write (address : U64) (src : List Byte) (kind : MemoryAccessKind)
  | writeUnchecked (address : U64) (src : List Byte)
  | mapMmio (base size : U64) (onRead : Option MmioReadCallback) (onWrite : Option MmioWriteCallback)
  | unmapMmio (id : HookId)
  | setPassthrough (readFn : PassthroughReadFn) (writeFn : PassthroughWriteFn)
  | clearPassthrough

/-- What the call does. -/
def CodeOp.apply (m : Memory) : CodeOp → Memory
  | .map base size permissions => m.map base size permissions
  | .unmap base size => m.unmap base size
  | .reprotect base size permissions => m.reprotect base size permissions
  | .restorePages snapshots => m.restorePages snapshots
  | .write address src kind => (m.write address src kind).1
  | .writeUnchecked address src => (m.writeUnchecked address src).1
  | .mapMmio base size onRead onWrite => (m.mapMmio base size onRead onWrite).2
  | .unmapMmio id => (m.unmapMmio id).1
  | .setPassthrough readFn writeFn => m.setPassthrough readFn writeFn
  | .clearPassthrough => m.clearPassthrough

/-- The epoch counter has room for one more change. -/
def EpochRoom (m : Memory) : Prop := m.codeEpoch < BitVec.allOnes 64

instance (m : Memory) : Decidable m.EpochRoom := inferInstanceAs (Decidable (_ < _))

/-- The executable bytes in front of the first inaccessible one already are
the source's. -/
def ExecPrefixHolds (ok : MemoryPermissionMask → Bool) (pages : PageMap) (a : U64)
    (src : List Byte) : Prop :=
  ∀ i < src.length, (∀ j ≤ i, accessible ok pages (a + BitVec.ofNat 64 j) = true) →
    accessible executable pages (a + BitVec.ofNat 64 i) = true →
    byteAt pages (a + BitVec.ofNat 64 i) = src[i]?

/-- A write that fails may not have changed an executable byte on the way. -/
def CodeOp.Safe (m : Memory) : CodeOp → Prop
  | .write address src kind => m.EpochRoom ∧ src.length ≤ 2 ^ 64 ∧
      ((m.write address src kind).2 = true ∨
        ExecPrefixHolds (hasPermission · kind) m.pages address src)
  | .writeUnchecked address src => m.EpochRoom ∧ src.length ≤ 2 ^ 64 ∧
      ((m.writeUnchecked address src).2 = true ∨
        ExecPrefixHolds (fun _ => true) m.pages address src)
  | .map .. | .unmap .. | .reprotect .. | .restorePages .. => m.EpochRoom
  | .mapMmio .. | .unmapMmio .. | .setPassthrough .. | .clearPassthrough => True

/-- The code epoch moves on while it has room. -/
theorem lt_succ_of_epochRoom {m : Memory} (h : m.EpochRoom) : m.codeEpoch < m.codeEpoch + 1#64 := by
  unfold EpochRoom at h
  rw [BitVec.lt_def] at h ⊢
  rw [BitVec.toNat_allOnes] at h
  rw [BitVec.toNat_add]
  have : (1#64).toNat = 1 := rfl
  omega

/-- Mapping changes bump the epoch whatever they do. -/
theorem CodeBefore.of_bump {m m' : Memory} (h : m.EpochRoom)
    (he : m'.codeEpoch = m.codeEpoch + 1#64) : CodeBefore m m' :=
  Or.inl (he ▸ lt_succ_of_epochRoom h)

/-- Pages and epoch untouched: nothing changes for a fetch from the pages. -/
theorem CodeBefore.of_same {m m' : Memory} (hp : m'.pages = m.pages)
    (he : m'.codeEpoch = m.codeEpoch) : CodeBefore m m' := by
  refine Or.inr ⟨he.symm, ?_⟩
  unfold fetchView
  rw [hp]

/-- The view outside and inside the bytes a copy wrote. -/
theorem Written.fetchView_eq {ok : MemoryPermissionMask → Bool} {a : U64} {src : List Byte} {k : Nat}
    {m m' : Memory} (h : Written ok a src k m.pages m'.pages)
    (hexec : ∀ i < k, accessible executable m.pages (a + BitVec.ofNat 64 i) = true →
      byteAt m.pages (a + BitVec.ofNat 64 i) = src[i]?) :
    m.fetchView = m'.fetchView := by
  funext b
  unfold fetchView peek
  have hacc : accessible (hasPermission · .instructionFetch) m'.pages b =
      accessible (hasPermission · .instructionFetch) m.pages b := accessible_congr h.perms b
  rw [hacc]
  split
  next hb =>
    by_cases hin : ∃ i < k, a + BitVec.ofNat 64 i = b
    · obtain ⟨i, hi, rfl⟩ := hin
      rw [h.hit i hi]
      exact hexec i hi hb
    · refine (h.frame (locOf b) fun i hi he => hin ⟨i, hi, ?_⟩).symm
      exact locOf_injective he
  next => rfl

/-- A write to the pages is safe when it succeeds or its executable prefix
holds. -/
theorem PageWrite.codeBefore {ok : MemoryPermissionMask → Bool} {a : U64} {src : List Byte} {k : Nat}
    {m : Memory} {r : Memory × Bool} (h : PageWrite ok a src k m r) (hroom : m.EpochRoom)
    (hsafe : r.2 = true ∨ ExecPrefixHolds ok m.pages a src) : CodeBefore m r.1 := by
  rcases h.epoch with he | he
  · -- the epoch stands still: every executable byte written was there before
    refine Or.inr ⟨he.symm, Written.fetchView_eq h.written fun i hi hexec => ?_⟩
    rcases hsafe with hok | hextend
    · have hbump := h.bumped hok i hi hexec
      rw [he] at hbump
      have hlt := lt_succ_of_epochRoom hroom
      rw [← hbump] at hlt
      exact absurd hlt (BitVec.lt_irrefl _)
    · have hle := h.written.le
      exact hextend i (by omega) (fun j hj => h.written.pre j (by omega)) hexec
  · exact CodeBefore.of_bump hroom he

/-- A region taken away leaves the pages and the epoch. -/
theorem unmapMmio_fields (m : Memory) (id : HookId) :
    (m.unmapMmio id).1.pages = m.pages ∧ (m.unmapMmio id).1.codeEpoch = m.codeEpoch := by
  unfold unmapMmio
  split
  next =>
    unfold withMmioBounds
    split <;> exact ⟨rfl, rfl⟩
  next => exact ⟨rfl, rfl⟩

/-- **A safe operation moves the epoch or leaves the view alone.** -/
theorem CodeOp.Safe.before {m : Memory} {op : CodeOp} (h : op.Safe m) :
    CodeBefore m (op.apply m) := by
  cases op with
  -- these four bump the epoch whatever they find
  | map base size permissions => exact CodeBefore.of_bump h rfl
  | unmap base size => exact CodeBefore.of_bump h rfl
  | reprotect base size permissions => exact CodeBefore.of_bump h rfl
  | restorePages snapshots => exact CodeBefore.of_bump h rfl
  | write address src kind =>
    obtain ⟨hroom, hlen, hsafe⟩ := h
    rcases write_cases m address hlen kind with hsame | ⟨k, hk⟩
    · show CodeBefore m (m.write address src kind).1
      rw [hsame]
      exact CodeBefore.refl m
    · exact hk.codeBefore hroom hsafe
  | writeUnchecked address src =>
    obtain ⟨hroom, hlen, hsafe⟩ := h
    rcases writeUnchecked_cases m address hlen with hsame | ⟨k, hk⟩
    · show CodeBefore m (m.writeUnchecked address src).1
      rw [hsame]
      exact CodeBefore.refl m
    · exact hk.codeBefore hroom hsafe
  | mapMmio base size onRead onWrite =>
    apply CodeBefore.of_same
    · show (m.mapMmio base size onRead onWrite).2.pages = m.pages
      unfold Memory.mapMmio
      simp only
      split <;> rfl
    · show (m.mapMmio base size onRead onWrite).2.codeEpoch = m.codeEpoch
      unfold Memory.mapMmio
      simp only
      split <;> rfl
  | unmapMmio id => exact CodeBefore.of_same (unmapMmio_fields m id).1 (unmapMmio_fields m id).2
  | setPassthrough readFn writeFn => exact CodeBefore.of_same rfl rfl
  | clearPassthrough => exact CodeBefore.of_same rfl rfl

/-- A sequence of safe operations. -/
def SafeChange : Memory → Memory → Prop :=
  Relation.ReflTransGen fun m m' => ∃ op : CodeOp, op.Safe m ∧ op.apply m = m'

/-- A safe change is one the caches can tell. -/
theorem SafeChange.before {m m' : Memory} (h : SafeChange m m') : CodeBefore m m' := by
  induction h with
  | refl => exact CodeBefore.refl m
  | tail _ hop ih =>
    obtain ⟨op, hsafe, rfl⟩ := hop
    exact ih.trans hsafe.before

end Memory

end Seven
