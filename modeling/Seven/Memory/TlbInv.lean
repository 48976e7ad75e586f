import Seven.Memory.Mapping
import Seven.Memory.Tlb

/-!
# The lookaside buffer is transparent

The invariant is the library's `Coherent` over `tlbHistory`: a state of the
store is the number of epoch bumps so far together with the table of
element pointers, and a slot records the pointer a page had. Between two
bumps no element comes or goes — `reprotect` and the writes go through the
pointers — so with the same epoch the recorded pointer is still the page's,
provided the 64-bit epoch has not run around in between.

`lookupPage_spec` is what one lookup gives under the invariant; the page
loops inherit it through `walk_sim`; `exec_refines` is the step lemma over
the eleven operations and `run_refines` the run lemma.
-/

namespace Seven

open Seven.Lib

/-- Epoch bumps so far and the element pointers: later is after a bump, or
the same. -/
def tlbHistory : EpochHistory (Nat × (Nat → Option EntryRef)) U64 Nat EntryRef where
  Before a b := a = b ∨ (a.1 < b.1 ∧ b.1 < 2 ^ 64)
  refl _ := Or.inl rfl
  trans := by
    rintro a b c (rfl | ⟨hab, hb⟩) (rfl | ⟨hbc, hc⟩)
    · exact Or.inl rfl
    · exact Or.inr ⟨hbc, hc⟩
    · exact Or.inr ⟨hab, hb⟩
    · exact Or.inr ⟨hab.trans hbc, hc⟩
  epoch a := 1#64 + BitVec.ofNat 64 a.1
  Holds a page r := a.2 page = some r
  stable := by
    rintro a b (rfl | ⟨hab, hb⟩) he page r hr
    · exact hr
    · -- both clocks are below `2 ^ 64`, so equal epochs mean equal clocks
      have := congrArg BitVec.toNat he
      simp only [BitVec.toNat_add, BitVec.toNat_ofNat] at this
      omega

namespace TlbMemory

/-- What the slots record. -/
def claims (t : TlbMemory) : Slots (Fin kTlbSize) Nat U64 EntryRef := fun i =>
  (t.tlb i).entry.map fun r => ((t.tlb i).pageIndex, (t.tlb i).epoch, r)

/-- The invariant after `clock` epoch bumps. -/
structure Inv (clock : Nat) (t : TlbMemory) : Prop where
  bound : clock < 2 ^ 64
  epoch : t.tlbEpoch = 1#64 + BitVec.ofNat 64 clock
  coherent : Coherent tlbHistory (clock, refs t.pages) t.claims

/-- The fresh memory. -/
theorem inv_fresh : Inv 0 {} := ⟨by decide, rfl, coherent_empty _⟩

/-- The plain page table behind the buffer. -/
def toMemory (t : TlbMemory) : Memory :=
  { pages := t.pages.map fun _ n => n.entry, pageEpoch := t.pageEpoch, codeEpoch := t.codeEpoch }

/-- A page of the flat table is the node's entry. -/
theorem toMemory_getElem? (t : TlbMemory) (page : Nat) :
    t.toMemory.pages[page]? = (t.pages[page]?).map Node.entry :=
  Std.ExtTreeMap.getElem?_map

/-! ## One lookup -/

/-- Filling a slot from the table. -/
theorem setSlot_inv {clock : Nat} {t : TlbMemory} (h : Inv clock t) (page : Nat) :
    Inv clock (t.setSlot (slotOf page)
      { pageIndex := page, epoch := t.tlbEpoch, entry := refs t.pages page }) := by
  refine ⟨h.bound, h.epoch, coherent_update h.coherent (slotOf page) ?_ ?_⟩
  · intro j hj
    simp only [claims, setSlot, if_neg hj]
  · intro k e r hslot
    simp only [claims, setSlot, if_true, Option.map_eq_some_iff, Prod.mk.injEq] at hslot
    obtain ⟨r', hr', rfl, rfl, rfl⟩ := hslot
    exact ⟨h.epoch, hr'⟩

/-- **One lookup**: the page's pointer, and nothing but the buffer changes. -/
theorem lookupPage_spec {clock : Nat} {t : TlbMemory} (h : Inv clock t) (page : Nat) :
    (t.lookupPage page).1 = refs (t.lookupPage page).2.pages page ∧
      Inv clock (t.lookupPage page).2 ∧ (t.lookupPage page).2.pages = t.pages ∧
      (t.lookupPage page).2.toMemory = t.toMemory := by
  simp only [lookupPage]
  split
  next hhit =>
    simp only [Bool.and_eq_true, beq_iff_eq] at hhit
    obtain ⟨⟨hsome, hindex⟩, hepoch⟩ := hhit
    obtain ⟨r, hr⟩ := Option.isSome_iff_exists.mp hsome
    have hclaim : t.claims (slotOf page) = some (page, t.tlbEpoch, r) := by
      simp only [claims, hr, Option.map_some, hindex, hepoch]
    have hholds := coherent_hit h.coherent hclaim h.epoch
    exact ⟨hr.trans hholds.symm, h, rfl, rfl⟩
  next => exact ⟨rfl, setSlot_inv h page, rfl, rfl⟩

/-- A reference from the table leads to its node. -/
theorem deref_refs {t : TlbMemory} {page : Nat} {r : EntryRef} (h : refs t.pages page = some r) :
    t.deref r = (t.pages[page]?).map Node.entry ∧ r.page = page := by
  unfold refs at h
  cases hn : t.pages[page]? with
  | none =>
    rw [hn] at h
    cases h
  | some n =>
    rw [hn] at h
    cases h
    simp [deref, hn]

/-- A lookup gives the table's entry, whatever the slot held. -/
theorem fetchEntry_spec {clock : Nat} {t : TlbMemory} (h : Inv clock t) (page : Nat) :
    (t.fetchEntry page).1 = t.toMemory.pages[page]? ∧ Inv clock (t.fetchEntry page).2 ∧
      (t.fetchEntry page).2.toMemory = t.toMemory := by
  obtain ⟨hr, hinv, _, hmem⟩ := lookupPage_spec h page
  unfold fetchEntry
  cases hl : t.lookupPage page with
  | mk o t' =>
    rw [hl] at hr hinv hmem
    rw [← hmem, toMemory_getElem?]
    cases o with
    | none =>
      refine ⟨?_, hinv, rfl⟩
      rw [eq_comm, refs, Option.map_eq_none_iff] at hr
      rw [hr]
      rfl
    | some r => exact ⟨(deref_refs hr.symm).1, hinv, rfl⟩

/-! ## The page loops -/

/-- The relation the loops preserve: the invariant, and the page table the
loop started from. -/
def Refines (clock : Nat) (t : TlbMemory) (m : Memory) : Prop := Inv clock t ∧ t.toMemory = m

/-- One chunk of a query. -/
theorem queryChunk_sim {clock : Nat} (ok : MemoryPermissionMask → Bool) (m : Memory)
    (page off k : Nat) (t : TlbMemory) (u : Unit) (h : Refines clock t m) :
    (queryChunk ok page off k t).2 = (Memory.queryChunk ok m.pages page off k u).2 ∧
      Refines clock (queryChunk ok page off k t).1 m := by
  obtain ⟨hinv, rfl⟩ := h
  obtain ⟨he, hinv', hmem⟩ := fetchEntry_spec hinv page
  unfold queryChunk Memory.queryChunk
  rw [← he]
  cases hf : t.fetchEntry page with
  | mk o t' =>
    rw [hf] at hinv' hmem
    cases o <;> exact ⟨rfl, hinv', hmem⟩

/-- A query. -/
theorem query_sim {clock : Nat} (ok : MemoryPermissionMask → Bool) {t : TlbMemory} {m : Memory}
    (h : Refines clock t m) (a : U64) (n : Nat) :
    (walk kPageSize (queryChunk ok) n a n t).2 =
        (walk kPageSize (Memory.queryChunk ok m.pages) n a n ()).2 ∧
      Refines clock (walk kPageSize (queryChunk ok) n a n t).1 m :=
  walk_sim (R := fun t _ => Refines clock t m)
    (fun page off k s u hs => queryChunk_sim ok m page off k s u hs) n a n t () h

/-- `is_mapped` asks of the pointer only whether it is null. -/
theorem mappedChunk_sim {clock : Nat} (m : Memory) (page off k : Nat) (t : TlbMemory) (u : Unit)
    (h : Refines clock t m) :
    (mappedChunk page off k t).2 = (Memory.queryChunk (fun _ => true) m.pages page off k u).2 ∧
      Refines clock (mappedChunk page off k t).1 m := by
  obtain ⟨hinv, rfl⟩ := h
  obtain ⟨hr, hinv', hpages, hmem⟩ := lookupPage_spec hinv page
  refine ⟨?_, hinv', hmem⟩
  unfold mappedChunk Memory.queryChunk
  rw [hr, hpages, toMemory_getElem?, refs, Option.isSome_map]
  cases t.pages[page]? <;> rfl

/-- `is_mapped`. -/
theorem isMapped_sim {clock : Nat} {t : TlbMemory} {m : Memory} (h : Refines clock t m)
    (a : U64) (n : Nat) :
    (t.isMapped a n).1 = m.isMapped a n ∧ Refines clock (t.isMapped a n).2 m :=
  walk_sim (R := fun t _ => Refines clock t m)
    (fun page off k s u hs => mappedChunk_sim m page off k s u hs) n a n t () h

/-- One chunk of a read. -/
theorem readChunk_sim {clock : Nat} (ok : MemoryPermissionMask → Bool) (m : Memory)
    (page off k : Nat) (s : TlbMemory × List Byte) (out : List Byte)
    (h : Refines clock s.1 m ∧ s.2 = out) :
    (readChunk ok page off k s).2 = (Memory.readChunk ok m.pages page off k out).2 ∧
      Refines clock (readChunk ok page off k s).1.1 m ∧
      (readChunk ok page off k s).1.2 = (Memory.readChunk ok m.pages page off k out).1 := by
  obtain ⟨⟨hinv, rfl⟩, rfl⟩ := h
  obtain ⟨he, hinv', hmem⟩ := fetchEntry_spec hinv page
  unfold readChunk Memory.readChunk
  rw [← he]
  cases hf : s.1.fetchEntry page with
  | mk o t' =>
    rw [hf] at hinv' hmem
    cases o with
    | none => exact ⟨rfl, ⟨hinv', hmem⟩, rfl⟩
    | some e =>
      simp only
      split
      · exact ⟨rfl, ⟨hinv', hmem⟩, rfl⟩
      · exact ⟨rfl, ⟨hinv', hmem⟩, rfl⟩

/-- A read across pages. -/
theorem copyFromPages_sim {clock : Nat} (ok : MemoryPermissionMask → Bool) {t : TlbMemory}
    {m : Memory} (h : Refines clock t m) (a : U64) (n : Nat) :
    (copyFromPages ok t a n).1 = Memory.copyFromPages ok m.pages a n ∧
      Refines clock (copyFromPages ok t a n).2 m := by
  have hsim := walk_sim (P := kPageSize) (R := fun (s : TlbMemory × List Byte) (out : List Byte) =>
    Refines clock s.1 m ∧ s.2 = out)
    (fun page off k s out hs => readChunk_sim ok m page off k s out hs) n a n (t, []) [] ⟨h, rfl⟩
  unfold copyFromPages Memory.copyFromPages
  cases hw : walk kPageSize (readChunk ok) n a n (t, []) with
  | mk s b =>
    cases hw' : walk kPageSize (Memory.readChunk ok m.pages) n a n [] with
    | mk out b' =>
      rw [hw, hw'] at hsim
      obtain ⟨rfl, href, rfl⟩ := hsim
      cases b <;> exact ⟨rfl, href⟩

/-- A read inside one page. -/
theorem readEntry_sim {clock : Nat} {t : TlbMemory} {m : Memory} (h : Refines clock t m)
    (page off n : Nat) (kind : MemoryAccessKind) :
    (t.readEntry page off n kind).1 =
        (match m.pages[page]? with
        | none => none
        | some entry =>
          if hasPermission entry.permissions kind then some (entry.load off n) else none) ∧
      Refines clock (t.readEntry page off n kind).2 m := by
  obtain ⟨hinv, rfl⟩ := h
  obtain ⟨he, hinv', hmem⟩ := fetchEntry_spec hinv page
  unfold readEntry
  rw [← he]
  cases hf : t.fetchEntry page with
  | mk o t' =>
    rw [hf] at hinv' hmem
    cases o <;> exact ⟨rfl, hinv', hmem⟩

/-- A store through a page's pointer is a store to the page. -/
theorem assign_refs {t : TlbMemory} {page : Nat} {r : EntryRef} (h : refs t.pages page = some r)
    (e : PageEntry) :
    refs (t.assign r e).pages = refs t.pages ∧
      (t.assign r e).toMemory = { t.toMemory with pages := t.toMemory.pages.insert page e } := by
  obtain ⟨_, hpage⟩ := deref_refs h
  -- `assign` keeps the node's address, so every reference stays good.
  have hget : ∀ j : Nat, (t.assign r e).pages[j]? =
      if page = j then some ⟨r.addr, e⟩ else t.pages[j]? := by
    intro j
    simp only [assign, hpage, Std.ExtTreeMap.getElem?_insert, compare_eq_iff_eq]
  constructor
  · funext j
    unfold refs at h ⊢
    rw [hget]
    split
    next hj =>
      rw [← hj, h, Option.map_some]
      congr 1
      exact EntryRef.mk.injEq .. ▸ ⟨hpage.symm, rfl⟩
    next => rfl
  · have hpages : (t.assign r e).toMemory.pages = t.toMemory.pages.insert page e := by
      apply Std.ExtTreeMap.ext_getElem?
      intro j
      rw [toMemory_getElem?, hget, getElem?_insert_page, toMemory_getElem?]
      split <;> rfl
    rw [← hpages]
    rfl

/-- The buffer and the epochs aside, what a store leaves of the invariant. -/
theorem assign_inv {clock : Nat} {t : TlbMemory} (h : Inv clock t) {page : Nat} {r : EntryRef}
    (hr : refs t.pages page = some r) (e : PageEntry) : Inv clock (t.assign r e) := by
  refine ⟨h.bound, h.epoch, ?_⟩
  rw [(assign_refs hr e).1]
  exact h.coherent

/-- Lookup, dereference and store, as the write loop does them. -/
theorem writeChunk_sim {clock : Nat} (ok : MemoryPermissionMask → Bool) (m : Memory)
    (page off k : Nat) (c : WriteCursor) (d : Memory.WriteCursor)
    (h : Refines clock c.mem { m with pages := d.pages } ∧ c.src = d.src ∧
      c.codeChanged = d.codeChanged) :
    (writeChunk ok page off k c).2 = (Memory.writeChunk ok page off k d).2 ∧
      Refines clock (writeChunk ok page off k c).1.mem
        { m with pages := (Memory.writeChunk ok page off k d).1.pages } ∧
      (writeChunk ok page off k c).1.src = (Memory.writeChunk ok page off k d).1.src ∧
      (writeChunk ok page off k c).1.codeChanged =
        (Memory.writeChunk ok page off k d).1.codeChanged := by
  obtain ⟨⟨hinv, hmem⟩, hsrc, hcode⟩ := h
  -- the lookup answers what the page table holds and changes the cache only
  obtain ⟨hr, hinv', _, hmem'⟩ := lookupPage_spec hinv page
  unfold writeChunk Memory.writeChunk
  cases hl : c.mem.lookupPage page with
  | mk o t' =>
    rw [hl] at hr hinv' hmem'
    have hmem'' : t'.toMemory = { m with pages := d.pages } := hmem'.trans hmem
    have hget : d.pages[page]? = (t'.pages[page]?).map Node.entry := by
      rw [← toMemory_getElem?, hmem'']
    cases o with
    | none =>
      rw [eq_comm, refs, Option.map_eq_none_iff] at hr
      rw [hr] at hget
      rw [hget]
      exact ⟨rfl, ⟨hinv', hmem''⟩, hsrc, hcode⟩
    | some r =>
      simp only [(deref_refs hr.symm).1, ← hget]
      cases d.pages[page]? with
      | none => exact ⟨rfl, ⟨hinv', hmem''⟩, hsrc, hcode⟩
      | some e =>
        simp only
        split
        · refine ⟨rfl, ⟨assign_inv hinv' hr.symm _, ?_⟩, by simp only [hsrc], by simp only [hcode]⟩
          rw [(assign_refs hr.symm _).2, hmem'', hsrc]
        · exact ⟨rfl, ⟨hinv', hmem''⟩, hsrc, hcode⟩

/-- The code epoch moves on in both. -/
theorem bumpCodeEpochIf_refines {clock : Nat} {t : TlbMemory} {m : Memory} (h : Refines clock t m)
    (b : Bool) : Refines clock (bumpCodeEpochIf t b) (m.bumpCodeEpochIf b) := by
  obtain ⟨hinv, rfl⟩ := h
  cases b with
  | false => exact ⟨hinv, rfl⟩
  | true => exact ⟨⟨hinv.bound, hinv.epoch, hinv.coherent⟩, rfl⟩

/-- A write across pages. -/
theorem writePages_sim {clock : Nat} (ok : MemoryPermissionMask → Bool) {t : TlbMemory}
    {m : Memory} (h : Refines clock t m) (a : U64) (src : List Byte) :
    (writePages ok t a src).1 = (Memory.writePages ok m a src).2 ∧
      Refines clock (writePages ok t a src).2 (Memory.writePages ok m a src).1 := by
  -- The walks of both memories advance together, chunk by chunk.
  have hsim := walk_sim (P := kPageSize)
    (R := fun (c : WriteCursor) (d : Memory.WriteCursor) =>
      Refines clock c.mem { m with pages := d.pages } ∧ c.src = d.src ∧
        c.codeChanged = d.codeChanged)
    (fun page off k c d hc => writeChunk_sim ok m page off k c d hc)
    src.length a src.length ⟨t, src, false⟩ ⟨m.pages, src, false⟩ ⟨h, rfl, rfl⟩
  unfold writePages Memory.writePages Memory.copyToPages
  cases hw : walk kPageSize (writeChunk ok) src.length a src.length ⟨t, src, false⟩ with
  | mk c b =>
    cases hw' : walk kPageSize (Memory.writeChunk ok) src.length a src.length
        ⟨m.pages, src, false⟩ with
    | mk d b' =>
      rw [hw, hw'] at hsim
      obtain ⟨rfl, href, _, hcode⟩ := hsim
      cases b with
      | false => exact ⟨rfl, href⟩
      | true =>
        refine ⟨rfl, ?_⟩
        show Refines clock (bumpCodeEpochIf c.mem c.codeChanged) _
        rw [show c.codeChanged = d.codeChanged from hcode]
        exact bumpCodeEpochIf_refines href d.codeChanged

/-- The single-page write. -/
theorem writeEntry_sim {clock : Nat} {t : TlbMemory} {m : Memory} (h : Refines clock t m)
    (a : U64) (src : List Byte) (kind : MemoryAccessKind)
    (hfit : a.toNat % kPageSize + src.length ≤ kPageSize) :
    (t.write a src kind).1 =
        (match m.pages[a.toNat / kPageSize]? with
        | none => false
        | some entry => hasPermission entry.permissions kind) ∧
      Refines clock (t.write a src kind).2
        (match m.pages[a.toNat / kPageSize]? with
        | none => m
        | some entry =>
          if hasPermission entry.permissions kind then
            Memory.bumpCodeEpochIf { m with
                pages := m.pages.insert (a.toNat / kPageSize)
                  (entry.store (a.toNat % kPageSize) src) }
              (executable entry.permissions)
          else m) := by
  obtain ⟨hinv, rfl⟩ := h
  -- The lookup fills a slot and leaves the pages as they are.
  obtain ⟨hr, hinv', _, hmem⟩ := lookupPage_spec hinv (a.toNat / kPageSize)
  unfold write
  rw [if_pos hfit]
  cases hl : t.lookupPage (a.toNat / kPageSize) with
  | mk o t' =>
    rw [hl] at hr hinv' hmem
    rw [← hmem, toMemory_getElem?]
    cases o with
    | none =>
      rw [eq_comm, refs, Option.map_eq_none_iff] at hr
      rw [hr]
      exact ⟨rfl, hinv', rfl⟩
    | some r =>
      simp only [(deref_refs hr.symm).1]
      cases (t'.pages[a.toNat / kPageSize]?).map Node.entry with
      | none => exact ⟨rfl, hinv', rfl⟩
      | some e =>
        simp only
        cases hasPermission e.permissions kind with
        | false => exact ⟨rfl, hinv', rfl⟩
        | true =>
          refine ⟨rfl, bumpCodeEpochIf_refines ⟨assign_inv hinv' hr.symm _, ?_⟩ _⟩
          exact (assign_refs hr.symm _).2

/-! ## The mapping operations -/

/-- Erasing the addresses commutes with a fold of page operations that
agree entry by entry. -/
theorem forPages_hom {σ τ : Type} (p : σ → τ) {f : σ → Nat → σ} {g : τ → Nat → τ}
    (h : ∀ s page, g (p s) page = p (f s page)) (base size : U64) (s : σ) :
    p (Memory.forPages f base size s) = Memory.forPages g base size (p s) :=
  (List.foldl_hom p h).symm

/-- The page table of a node map. -/
def entries (pages : NodeMap) : PageMap := pages.map fun _ n => n.entry

/-- An entry of the flat table. -/
theorem entries_getElem? (pages : NodeMap) (page : Nat) :
    (entries pages)[page]? = (pages[page]?).map Node.entry :=
  Std.ExtTreeMap.getElem?_map

/-- A node put in. -/
theorem entries_insert (pages : NodeMap) (page : Nat) (n : Node) :
    entries (pages.insert page n) = (entries pages).insert page n.entry := by
  apply Std.ExtTreeMap.ext_getElem?
  intro j
  rw [entries_getElem?, getElem?_insert_page, entries_getElem?, Std.ExtTreeMap.getElem?_insert]
  simp only [compare_eq_iff_eq]
  split <;> rfl

/-- A page mapped. -/
theorem entries_mapNode (permissions : MemoryPermissionMask) (s : NodeMap × Nat) (page : Nat) :
    Memory.mapPage permissions (entries s.1) page = entries (mapNode permissions s page).1 := by
  unfold Memory.mapPage mapNode
  rw [entries_getElem?]
  cases s.1[page]? with
  | none => rw [entries_insert]; rfl
  | some n => rw [entries_insert]; rfl

/-- A page unmapped. -/
theorem entries_unmapNode (pages : NodeMap) (page : Nat) :
    Memory.unmapPage (entries pages) page = entries (unmapNode pages page) := by
  apply Std.ExtTreeMap.ext_getElem?
  intro j
  rw [Memory.unmapPage, getElem?_erase_page, entries_getElem?, entries_getElem?, unmapNode,
    Std.ExtTreeMap.getElem?_erase]
  simp only [compare_eq_iff_eq]
  split <;> rfl

/-- A page given other permissions: the node is the same, so its references stay good. -/
theorem entries_reprotectNode (permissions : MemoryPermissionMask) (pages : NodeMap)
    (page : Nat) : Memory.reprotectPage permissions (entries pages) page =
      entries (reprotectNode permissions pages page) := by
  unfold Memory.reprotectPage reprotectNode
  rw [entries_getElem?]
  cases pages[page]? with
  | none => rfl
  | some n => rw [entries_insert]; rfl

/-- Reprotecting moves no element. -/
theorem refs_reprotectNode (permissions : MemoryPermissionMask) (pages : NodeMap) (page : Nat) :
    refs (reprotectNode permissions pages page) = refs pages := by
  unfold reprotectNode
  cases hn : pages[page]? with
  | none => rfl
  | some n =>
    funext j
    simp only [refs, Std.ExtTreeMap.getElem?_insert, compare_eq_iff_eq]
    split
    next hj =>
      rw [← hj, hn]
      rfl
    next => rfl

/-- A page restored. -/
theorem restoreNode_entries (s : NodeMap × Nat) (p : PageSnapshot) :
    Memory.restorePage (entries s.1) p = entries (restoreNode s p).1 := by
  apply Std.ExtTreeMap.ext_getElem?
  intro j
  simp only [Memory.restorePage, restoreNode, entries_getElem?, Std.ExtTreeMap.getElem?_insertIfNew,
    Std.ExtTreeMap.mem_iff_isSome_getElem?, Option.isSome_map]
  split <;> rfl

/-- After a bump no slot is servable, so the invariant holds of any page
table. -/
theorem inv_flushed {clock : Nat} {t t' : TlbMemory} (h : Inv clock t)
    (hbound : clock + 1 < 2 ^ 64) (htlb : t'.tlb = t.tlb) (hepoch : t'.tlbEpoch = t.tlbEpoch + 1#64) :
    Inv (clock + 1) t' := by
  refine ⟨hbound, ?_, ?_⟩
  · rw [hepoch, h.epoch, BitVec.add_assoc, BitVec.ofNat_add_ofNat]
  · have hclaims : t'.claims = t.claims := by
      unfold claims
      rw [htlb]
    rw [hclaims]
    exact coherent_advance h.coherent (Or.inr ⟨Nat.lt_succ_self clock, hbound⟩)

/-- `map`, which spends one epoch. -/
theorem map_refines {clock : Nat} {t : TlbMemory} {m : Memory} (h : Refines clock t m)
    (hbound : clock + 1 < 2 ^ 64) (base size : U64) (permissions : MemoryPermissionMask) :
    Refines (clock + 1) (t.map base size permissions) (m.map base size permissions) := by
  obtain ⟨hinv, rfl⟩ := h
  refine ⟨inv_flushed hinv hbound rfl rfl, ?_⟩
  have hhom := forPages_hom (fun s : NodeMap × Nat => entries s.1)
    (fun s page => entries_mapNode permissions s page) base size (t.pages, t.nextAddr)
  show Memory.mk .. = Memory.mk ..
  congr 1

/-- `unmap` on the table. -/
theorem unmap_toMemory (t : TlbMemory) (base size : U64) :
    (t.unmap base size).toMemory = t.toMemory.unmap base size := by
  have hhom := forPages_hom entries entries_unmapNode base size t.pages
  show Memory.mk .. = Memory.mk ..
  congr 1

/-- `unmap`, which spends one epoch. -/
theorem unmap_refines {clock : Nat} {t : TlbMemory} {m : Memory} (h : Refines clock t m)
    (hbound : clock + 1 < 2 ^ 64) (base size : U64) :
    Refines (clock + 1) (t.unmap base size) (m.unmap base size) := by
  obtain ⟨hinv, rfl⟩ := h
  exact ⟨inv_flushed hinv hbound rfl rfl, unmap_toMemory t base size⟩

/-- `reprotect`, which spends none. -/
theorem reprotect_refines {clock : Nat} {t : TlbMemory} {m : Memory} (h : Refines clock t m)
    (base size : U64) (permissions : MemoryPermissionMask) :
    Refines clock (t.reprotect base size permissions) (m.reprotect base size permissions) := by
  obtain ⟨hinv, rfl⟩ := h
  have hrefs : refs (t.reprotect base size permissions).pages = refs t.pages :=
    List.foldlRecOn _ _ (motive := fun pages => refs pages = refs t.pages) rfl
      fun pages hp page _ => (refs_reprotectNode permissions pages page).trans hp
  refine ⟨⟨hinv.bound, hinv.epoch, ?_⟩, ?_⟩
  · rw [hrefs]
    exact hinv.coherent
  · have hhom := forPages_hom entries (entries_reprotectNode permissions) base size t.pages
    show Memory.mk .. = Memory.mk ..
    congr 1

/-- `restore_pages`, which spends one epoch. -/
theorem restorePages_refines {clock : Nat} {t : TlbMemory} {m : Memory} (h : Refines clock t m)
    (hbound : clock + 1 < 2 ^ 64) (snapshots : List PageSnapshot) :
    Refines (clock + 1) (t.restorePages snapshots) (m.restorePages snapshots) := by
  obtain ⟨hinv, rfl⟩ := h
  refine ⟨inv_flushed hinv hbound rfl rfl, ?_⟩
  have hhom : entries (snapshots.foldl restoreNode (∅, t.nextAddr)).1 =
      snapshots.foldl Memory.restorePage (entries ∅) :=
    (List.foldl_hom (fun s : NodeMap × Nat => entries s.1) restoreNode_entries).symm
  have hempty : entries ∅ = ∅ := by
    apply Std.ExtTreeMap.ext_getElem?
    intro j
    rw [entries_getElem?]
    simp
  rw [hempty] at hhom
  show Memory.mk .. = Memory.mk ..
  congr 1

/-! ## Reads and writes -/

/-- The memory object of these histories has nothing but pages. -/
theorem toMemory_singlePage (t : TlbMemory) (a : U64) (n : Nat) :
    t.toMemory.singlePage a n = decide (a.toNat % kPageSize + n ≤ kPageSize) := rfl

/-- The flat read by its two paths. -/
theorem toMemory_read (t : TlbMemory) (a : U64) (n : Nat) (kind : MemoryAccessKind) :
    t.toMemory.read a n kind =
      if a.toNat % kPageSize + n ≤ kPageSize then
        (match t.toMemory.pages[a.toNat / kPageSize]? with
        | none => none
        | some entry =>
          if hasPermission entry.permissions kind then
            some (entry.load (a.toNat % kPageSize) n)
          else none)
      else Memory.copyFromPages (hasPermission · kind) t.toMemory.pages a n := by
  have hpass : t.toMemory.passthroughRead = none := rfl
  unfold Memory.read
  simp only [hpass, toMemory_singlePage, decide_eq_true_eq]
  split
  · rfl
  · cases Memory.copyFromPages (hasPermission · kind) t.toMemory.pages a n <;> rfl

/-- `read`. -/
theorem read_refines {clock : Nat} {t : TlbMemory} {m : Memory} (h : Refines clock t m) (a : U64)
    (n : Nat) (kind : MemoryAccessKind) :
    (t.read a n kind).1 = m.read a n kind ∧ Refines clock (t.read a n kind).2 m := by
  have hentry := readEntry_sim h (a.toNat / kPageSize) (a.toNat % kPageSize) n kind
  have hcopy := copyFromPages_sim (hasPermission · kind) h a n
  obtain ⟨hinv, rfl⟩ := h
  unfold read
  rw [toMemory_read]
  split
  · exact hentry
  · exact hcopy

/-- A write inside one page of an object with nothing but pages. -/
theorem toMemory_write_single (t : TlbMemory) (a : U64) (src : List Byte)
    (kind : MemoryAccessKind) (hfit : a.toNat % kPageSize + src.length ≤ kPageSize) :
    t.toMemory.write a src kind =
      match t.toMemory.pages[a.toNat / kPageSize]? with
      | none => (t.toMemory, false)
      | some entry =>
        if hasPermission entry.permissions kind then
          (Memory.bumpCodeEpochIf { t.toMemory with
              pages := t.toMemory.pages.insert (a.toNat / kPageSize)
                (entry.store (a.toNat % kPageSize) src) }
            (executable entry.permissions), true)
        else (t.toMemory, false) := by
  have hpass : t.toMemory.passthroughWrite = none := rfl
  have hsingle : t.toMemory.singlePage a src.length = true := decide_eq_true hfit
  unfold Memory.write
  split
  next f hf => rw [hpass] at hf; cases hf
  next => rw [if_pos hsingle]; rfl

/-- A write over several pages of such an object. -/
theorem toMemory_write_pages (t : TlbMemory) (a : U64) (src : List Byte)
    (kind : MemoryAccessKind) (hfit : ¬ a.toNat % kPageSize + src.length ≤ kPageSize) :
    t.toMemory.write a src kind = t.toMemory.writePages (hasPermission · kind) a src := by
  have hpass : t.toMemory.passthroughWrite = none := rfl
  have hsingle : ¬ t.toMemory.singlePage a src.length = true := by
    rw [toMemory_singlePage, decide_eq_true_eq]
    exact hfit
  unfold Memory.write
  split
  next f hf => rw [hpass] at hf; cases hf
  next => rw [if_neg hsingle]; rfl

/-- `write`. -/
theorem write_refines {clock : Nat} {t : TlbMemory} {m : Memory} (h : Refines clock t m) (a : U64)
    (src : List Byte) (kind : MemoryAccessKind) :
    (t.write a src kind).1 = (m.write a src kind).2 ∧
      Refines clock (t.write a src kind).2 (m.write a src kind).1 := by
  have hpages := writePages_sim (hasPermission · kind) h a src
  have hentry := writeEntry_sim h a src kind
  obtain ⟨hinv, rfl⟩ := h
  -- Within one page the entry is written in place, otherwise chunk by chunk.
  by_cases hfit : a.toNat % kPageSize + src.length ≤ kPageSize
  · have hone := hentry hfit
    rw [toMemory_write_single t a src kind hfit]
    cases he : t.toMemory.pages[a.toNat / kPageSize]? with
    | none =>
      rw [he] at hone
      exact hone
    | some e =>
      rw [he] at hone
      simp only at hone ⊢
      cases hp : hasPermission e.permissions kind with
      | false =>
        rw [hp] at hone
        exact hone
      | true =>
        rw [hp] at hone
        exact hone
  · rw [toMemory_write_pages t a src kind hfit]
    unfold write
    rw [if_neg hfit]
    exact hpages

end TlbMemory

/-! ## Runs -/

namespace MemoryOp

open TlbMemory

/-- **The step lemma**: under the invariant every call answers as on the
plain page table and leaves corresponding states. -/
theorem exec_refines {clock : Nat} {t : TlbMemory} {m : Memory} (h : Refines clock t m)
    (op : MemoryOp) (hbound : clock + op.flushes < 2 ^ 64) :
    (op.exec t).1 = (op.spec m).1 ∧
      Refines (clock + op.flushes) (op.exec t).2 (op.spec m).2 := by
  cases op with
  | map base size permissions => exact ⟨rfl, map_refines h hbound base size permissions⟩
  | unmap base size => exact ⟨rfl, unmap_refines h hbound base size⟩
  | reprotect base size permissions => exact ⟨rfl, reprotect_refines h base size permissions⟩
  | restorePages snapshots => exact ⟨rfl, restorePages_refines h hbound snapshots⟩
  | isMapped a n =>
    obtain ⟨hout, href⟩ := isMapped_sim h a n
    exact ⟨congrArg MemoryOut.flag hout, href⟩
  | hasPermissions a n required =>
    obtain ⟨hout, href⟩ := query_sim (Memory.permits required) h a n
    exact ⟨congrArg MemoryOut.flag hout, href⟩
  | read a n kind =>
    obtain ⟨hout, href⟩ := read_refines h a n kind
    exact ⟨congrArg MemoryOut.bytes hout, href⟩
  | readUnchecked a n =>
    obtain ⟨hout, href⟩ := copyFromPages_sim (fun _ => true) h a n
    obtain ⟨_, rfl⟩ := h
    exact ⟨congrArg MemoryOut.bytes hout, href⟩
  | readCodePage base =>
    have hentry := readEntry_sim h (base.toNat / kPageSize) 0 kPageSize .instructionFetch
    have hstep : (t.readCodePage base).1 = m.readCodePage base ∧
        Refines clock (t.readCodePage base).2 m := by
      obtain ⟨hinv, rfl⟩ := h
      unfold TlbMemory.readCodePage Memory.readCodePage
      show _ = (if _ then _ else _) ∧ _
      split
      · exact ⟨rfl, hinv, rfl⟩
      · exact hentry
    exact ⟨congrArg MemoryOut.bytes hstep.1, hstep.2⟩
  | write a src kind =>
    obtain ⟨hout, href⟩ := write_refines h a src kind
    exact ⟨congrArg MemoryOut.flag hout, href⟩
  | writeUnchecked a src =>
    obtain ⟨hout, href⟩ := writePages_sim (fun _ => true) h a src
    obtain ⟨_, rfl⟩ := h
    exact ⟨congrArg MemoryOut.flag hout, href⟩

/-- **The run lemma**: same answers, corresponding states. -/
theorem run_refines (ops : List MemoryOp) : ∀ {clock : Nat} {t : TlbMemory} {m : Memory},
    Refines clock t m → clock + totalFlushes ops < 2 ^ 64 →
      (run t ops).1 = (runSpec m ops).1 ∧
        Refines (clock + totalFlushes ops) (run t ops).2 (runSpec m ops).2 := by
  induction ops with
  | nil => exact fun h _ => ⟨rfl, h⟩
  | cons op ops ih =>
    intro clock t m h hbound
    have hsum : totalFlushes (op :: ops) = op.flushes + totalFlushes ops := by
      simp [totalFlushes]
    rw [hsum] at hbound ⊢
    obtain ⟨hout, href⟩ := exec_refines h op (by omega)
    obtain ⟨houts, hrefs⟩ := ih href (by omega)
    refine ⟨?_, by rw [← Nat.add_assoc]; exact hrefs⟩
    show _ :: _ = _ :: _
    rw [hout, houts]

/-- **Transparency of the buffer**: after any history with fewer than
`2 ^ 64` epoch bumps, a lookup gives the pointer the page table holds. -/
theorem lookupPage_transparent (ops : List MemoryOp) (hbound : totalFlushes ops < 2 ^ 64)
    (page : Nat) : ((run {} ops).2.lookupPage page).1 = refs (run {} ops).2.pages page := by
  have hfresh : Refines 0 {} (toMemory {}) := ⟨inv_fresh, rfl⟩
  obtain ⟨_, hinv, _⟩ := run_refines ops hfresh (by omega)
  obtain ⟨hlookup, _, hpages, _⟩ := lookupPage_spec hinv page
  rw [hlookup, hpages]

/-- The history map, read, unmap, read of one page. -/
theorem lookupPage_transparent_remap :
    ((run {} [.map 0x1000#64 0x1000#64 kMemoryPermissionAll, .isMapped 0x1000#64 1,
        .unmap 0x1000#64 0x1000#64, .isMapped 0x1000#64 1]).2.lookupPage 1).1 =
      refs (run {} [.map 0x1000#64 0x1000#64 kMemoryPermissionAll, .isMapped 0x1000#64 1,
        .unmap 0x1000#64 0x1000#64, .isMapped 0x1000#64 1]).2.pages 1 :=
  lookupPage_transparent [.map 0x1000#64 0x1000#64 kMemoryPermissionAll, .isMapped 0x1000#64 1,
    .unmap 0x1000#64 0x1000#64, .isMapped 0x1000#64 1] (by decide) 1

/-! ## Once around the epoch -/

/-- Two lists of operations in a row. -/
theorem run_append (ops ops' : List MemoryOp) : ∀ t : TlbMemory,
    (run t (ops ++ ops')).2 = (run (run t ops).2 ops').2 := by
  induction ops with
  | nil => exact fun _ => rfl
  | cons op ops ih => exact fun t => ih (op.exec t).2

/-- Repeated unmapping never touches the buffer; it moves the epoch on and
leaves the range without pages. -/
theorem run_replicate_unmap (base size : U64) {page : Nat}
    (hpage : Memory.firstPage base ≤ page ∧ page < Memory.lastPage base size) (n : Nat) :
    ∀ t : TlbMemory,
      (run t (List.replicate n (.unmap base size))).2.tlb = t.tlb ∧
      (run t (List.replicate n (.unmap base size))).2.tlbEpoch =
        t.tlbEpoch + BitVec.ofNat 64 n ∧
      (0 < n ∨ t.pages[page]? = none →
        (run t (List.replicate n (.unmap base size))).2.pages[page]? = none) := by
  induction n with
  | zero => exact fun t => ⟨rfl, (BitVec.add_zero _).symm, fun h => h.resolve_left (by omega)⟩
  | succ n ih =>
    intro t
    have hgone : (t.unmap base size).pages[page]? = none := by
      have hget := toMemory_getElem? (t.unmap base size) page
      rw [unmap_toMemory, Memory.unmap, Memory.forPages_getElem? Memory.unmapPage_acts,
        if_pos hpage] at hget
      exact Option.map_eq_none_iff.mp hget.symm
    rw [List.replicate_succ]
    obtain ⟨htlb, hepoch, hnone⟩ := ih (t.unmap base size)
    refine ⟨htlb, hepoch.trans ?_, fun _ => hnone (Or.inr hgone)⟩
    show t.tlbEpoch + 1#64 + BitVec.ofNat 64 n = _
    rw [BitVec.add_assoc, BitVec.ofNat_add_ofNat, Nat.add_comm 1 n]

/-- Map a page and look it up, then unmap it so often that the epoch is
back where it was: the lookup serves the erased element. -/
theorem lookupPage_stale_after_wrap :
    ¬ ∀ (ops : List MemoryOp) (page : Nat),
      ((run {} ops).2.lookupPage page).1 = refs (run {} ops).2.pages page := by
  intro h
  let warm : List MemoryOp :=
    [.map 0x1000#64 0x1000#64 kMemoryPermissionAll, .isMapped 0x1000#64 1]
  -- After `2 ^ 64` unmaps the epoch is back where it was, and the warm slot answers again.
  have hbad := h (warm ++ List.replicate (2 ^ 64) (.unmap 0x1000#64 0x1000#64)) 1
  rw [run_append] at hbad
  have hpage : Memory.firstPage 0x1000#64 ≤ 1 ∧ 1 < Memory.lastPage 0x1000#64 0x1000#64 := by
    decide
  obtain ⟨htlb, hepoch, hnone⟩ :=
    run_replicate_unmap 0x1000#64 0x1000#64 hpage (2 ^ 64) (run {} warm).2
  have hwrap : (run {} warm).2.tlbEpoch + BitVec.ofNat 64 (2 ^ 64) =
      (run {} warm).2.tlbEpoch := by
    rw [show BitVec.ofNat 64 (2 ^ 64) = 0#64 by decide, BitVec.add_zero]
  rw [hwrap] at hepoch
  generalize (run (run {} warm).2 (List.replicate (2 ^ 64) (.unmap 0x1000#64 0x1000#64))).2 = t
    at hbad htlb hepoch hnone
  have hslot : t.tlb (TlbMemory.slotOf 1) = ⟨1, 2#64, some ⟨1, 0⟩⟩ := by
    rw [htlb]
    rfl
  have hnow : t.tlbEpoch = 2#64 := hepoch.trans (by decide)
  have hserved : (t.lookupPage 1).1 = some ⟨1, 0⟩ := by
    simp [TlbMemory.lookupPage, hslot, hnow]
  rw [hserved, refs, hnone (Or.inl (by omega))] at hbad
  cases hbad

end MemoryOp

end Seven
