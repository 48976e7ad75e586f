import Seven.Memory.FetchView
import Mathlib.Data.List.Perm.Basic

/-!
# Pages supplied on demand

A host that pages on demand maps a page when the guest first touches it.
What it installs there and how far it moves the two epochs is the host's
business, a function of the page (`PageSupply`); `supply` does it to the
memory object for one page, `supplyAll` for a list of pages.

An access that stays within one page cannot tell whether other pages are
there: it commutes with supplying them (`read_supplyAll`,
`write_supplyAll`). At a page that is missing it is refused and changes
nothing (`read_missing`, `write_missing`). So the memory with the missing
pages and the memory with all of them stay in step, access by access, up to
the first access to a missing page — and supplying that page there brings
the list down by one (`supplyAll_erase`).

A device may lie elsewhere. All that is asked of an access is that the pages
answer it (`PagesAnswer`): no region lies over it, and no passthrough is
installed.

The other cause of a fault is a page whose permissions do not suffice.
Raising them (`allow`) commutes with every access that succeeded without
(`read_allow`, `write_allow`).
-/

namespace Seven

open Seven.Lib

/-- What the host makes of a page that is missing. -/
structure PageSupply where
  entry : PageEntry
  pageBumps : U64
  codeBumps : U64

/-- The page an address lies in. -/
def pageOf (a : U64) : Nat := a.toNat / kPageSize

/-- The span lies within one page. -/
def WithinPage (a : U64) (size : Nat) : Prop := a.toNat % kPageSize + size ≤ kPageSize

instance (a : U64) (size : Nat) : Decidable (WithinPage a size) :=
  inferInstanceAs (Decidable (_ ≤ _))

namespace Memory

/-- A page put in, and the epochs moved on by what the callback did to them. -/
def supply (supplies : Nat → PageSupply) (m : Memory) (page : Nat) : Memory :=
  { m with
    pages := m.pages.insert page (supplies page).entry
    pageEpoch := m.pageEpoch + (supplies page).pageBumps
    codeEpoch := m.codeEpoch + (supplies page).codeBumps }

/-- Several pages put in. -/
def supplyAll (supplies : Nat → PageSupply) (m : Memory) (pages : List Nat) : Memory :=
  pages.foldl (supply supplies) m

/-- Every access goes to the pages: no passthrough and no device. -/
structure Paged (m : Memory) : Prop where
  passthroughRead : m.passthroughRead = none
  passthroughWrite : m.passthroughWrite = none
  mmioRegions : m.mmioRegions = []

/-- The pages answer the access: no passthrough is installed, and no device
lies over it. -/
structure PagesAnswer (m : Memory) (a : U64) (n : Nat) : Prop where
  passthroughRead : m.passthroughRead = none
  passthroughWrite : m.passthroughWrite = none
  region : m.findMmioRegion a n = none

/-- With no device anywhere every access is the pages'. -/
theorem Paged.answer {m : Memory} (h : Paged m) (a : U64) (n : Nat) : m.PagesAnswer a n :=
  ⟨h.passthroughRead, h.passthroughWrite, findMmioRegion_nil h.mmioRegions a n⟩

/-- None of the pages is mapped. -/
def Missing (pages : List Nat) (m : Memory) : Prop := ∀ page ∈ pages, m.pages[page]? = none

section

variable {supplies : Nat → PageSupply} {m : Memory}

/-- A page looked up after a supply. -/
theorem supply_getElem? (page p : Nat) :
    (m.supply supplies page).pages[p]? =
      if page = p then some (supplies page).entry else m.pages[p]? := getElem?_insert_page _ _ _ _

/-- The first page supplied. -/
theorem supplyAll_cons (page : Nat) (pages : List Nat) :
    m.supplyAll supplies (page :: pages) = (m.supply supplies page).supplyAll supplies pages := rfl

/-- A page looked up after several supplies. -/
theorem supplyAll_getElem? (pages : List Nat) (p : Nat) :
    (m.supplyAll supplies pages).pages[p]? =
      if p ∈ pages then some (supplies p).entry else m.pages[p]? := by
  induction pages generalizing m with
  | nil => rfl
  | cons page pages ih =>
    rw [supplyAll_cons, ih, supply_getElem?]
    by_cases hp : p ∈ pages
    · rw [if_pos hp, if_pos (List.mem_cons_of_mem page hp)]
    · rw [if_neg hp]
      by_cases hpage : page = p
      · subst hpage
        rw [if_pos rfl, if_pos List.mem_cons_self]
      · have hnot : p ∉ page :: pages := by
          rintro (_ | ⟨_, h⟩)
          · exact hpage rfl
          · exact hp h
        rw [if_neg hpage, if_neg hnot]

/-- Mapping one page that is not there supplies it, with zeros. -/
theorem map_eq_supply {page : Nat} (hnone : m.pages[page]? = none) (hpage : page + 2 ≤ 2 ^ 52)
    (permissions : MemoryPermissionMask) :
    m.map (BitVec.ofNat 64 (page * kPageSize)) 0x1000#64 permissions =
      m.supply (fun _ => ⟨{ permissions := permissions }, 1#64, 1#64⟩) page := by
  have hk : kPageSize = 4096 := rfl
  have hbase : (BitVec.ofNat 64 (page * kPageSize)).toNat = page * 4096 := by
    rw [BitVec.toNat_ofNat, hk]
    omega
  have hfirst : firstPage (BitVec.ofNat 64 (page * kPageSize)) = page := by
    unfold firstPage
    rw [hbase, hk]
    omega
  have hlast : lastPage (BitVec.ofNat 64 (page * kPageSize)) 0x1000#64 = page + 1 := by
    unfold lastPage
    rw [BitVec.toNat_sub, BitVec.toNat_add, BitVec.toNat_add, hbase]
    simp only [hk, BitVec.toNat_ofNat]
    omega
  unfold map forPages supply
  rw [hfirst, hlast, Nat.add_sub_cancel_left]
  show Memory.mk (mapPage permissions m.pages page) _ _ _ _ _ _ _ _ _ = _
  unfold mapPage
  rw [hnone]
  rfl

/-! ## The order does not matter -/

/-- Two pages put in commute. -/
theorem insert_comm_page (pages : PageMap) {i j : Nat} (hij : i ≠ j) (e f : PageEntry) :
    (pages.insert i e).insert j f = (pages.insert j f).insert i e := by
  apply Std.ExtTreeMap.ext_getElem?
  intro k
  simp only [getElem?_insert_page]
  by_cases hi : i = k
  · rw [if_neg (fun hj => hij (hi.trans hj.symm)), if_pos hi, if_pos hi]
  · rw [if_neg hi, if_neg hi]

/-- Two supplies commute. -/
theorem supply_comm (supplies : Nat → PageSupply) (m : Memory) (p q : Nat) :
    (m.supply supplies p).supply supplies q = (m.supply supplies q).supply supplies p := by
  by_cases hpq : p = q
  · rw [hpq]
  · unfold supply
    simp only [mk.injEq, true_and, and_true]
    refine ⟨insert_comm_page _ hpq _ _, ?_, ?_⟩
    · ac_rfl
    · ac_rfl

instance supply_rightCommutative (supplies : Nat → PageSupply) :
    RightCommutative (supply supplies) := ⟨supply_comm supplies⟩

/-- The order of the supplies does not matter. -/
theorem supplyAll_perm {pages pages' : List Nat} (h : pages.Perm pages') :
    m.supplyAll supplies pages = m.supplyAll supplies pages' := h.foldl_eq m

/-- Supplying one of the pages leaves the others to supply. -/
theorem supplyAll_erase {page : Nat} {pages : List Nat} (h : page ∈ pages) :
    m.supplyAll supplies pages =
      (m.supply supplies page).supplyAll supplies (pages.erase page) :=
  supplyAll_perm (List.perm_cons_erase h)

/-- A page supplied is one less that is missing. -/
theorem Missing.supply_erase {pages : List Nat} (h : Missing pages m) (hnodup : pages.Nodup)
    (page : Nat) : Missing (pages.erase page) (m.supply supplies page) := by
  intro p hp
  obtain ⟨hne, hmem⟩ := (hnodup.mem_erase_iff).mp hp
  rw [supply_getElem?, if_neg hne.symm]
  exact h p hmem

/-! ## The rest of the object -/

/-- A supply adds no device. -/
theorem PagesAnswer.supply {a : U64} {n : Nat} (h : m.PagesAnswer a n)
    (supplies : Nat → PageSupply) (page : Nat) : (m.supply supplies page).PagesAnswer a n :=
  ⟨h.passthroughRead, h.passthroughWrite, h.region⟩

/-- Supplies add no device. -/
theorem PagesAnswer.supplyAll {a : U64} {n : Nat} (h : m.PagesAnswer a n) (pages : List Nat) :
    (m.supplyAll supplies pages).PagesAnswer a n := by
  induction pages generalizing m with
  | nil => exact h
  | cons page pages ih => exact ih (h.supply supplies page)

/-- Regions are found alike. -/
theorem findMmioRegion_sameAccess {m' : Memory} (hsame : SameAccess m m') (a : U64) (n : Nat) :
    m'.findMmioRegion a n = m.findMmioRegion a n := by
  unfold findMmioRegion
  rw [hsame.mmioRegions, hsame.mmioMinBase, hsame.mmioMaxEnd]

/-- Whether the pages answer does not depend on the bytes. -/
theorem PagesAnswer.sameAccess {m' : Memory} {a : U64} {n : Nat} (h : m.PagesAnswer a n)
    (hsame : SameAccess m m') : m'.PagesAnswer a n :=
  ⟨hsame.passthroughRead.trans h.passthroughRead, hsame.passthroughWrite.trans h.passthroughWrite,
    (findMmioRegion_sameAccess hsame a n).trans h.region⟩

/-- Whether there is a device does not depend on the bytes. -/
theorem Paged.sameAccess {m' : Memory} (h : Paged m) (hsame : SameAccess m m') : Paged m' :=
  ⟨hsame.passthroughRead.trans h.passthroughRead, hsame.passthroughWrite.trans h.passthroughWrite,
    hsame.mmioRegions.trans h.mmioRegions⟩

/-- What is missing does not depend on the bytes. -/
theorem Missing.sameAccess {m' : Memory} {pages : List Nat} (h : Missing pages m)
    (hsame : SameAccess m m') : Missing pages m' := by
  intro page hpage
  have hperms := hsame.perms page
  rw [h page hpage] at hperms
  exact Option.map_eq_none_iff.mp hperms

/-- An access on one page finds what it finds without the other page. -/
theorem entryAt_supply (supplies : Nat → PageSupply) (m : Memory) {page : Nat} {a : U64}
    (hne : page ≠ pageOf a) :
    entryAt (m.supply supplies page).pages a = entryAt m.pages a :=
  (supply_getElem? page _).trans (if_neg hne)

/-! ## Reads -/

/-- A read elsewhere does not see the supply. -/
theorem read_supply {page : Nat} {a : U64} {n : Nat} (hm : m.PagesAnswer a n) (hn : 0 < n)
    (hfit : WithinPage a n) (hne : page ≠ pageOf a) (kind : MemoryAccessKind) :
    (m.supply supplies page).read a n kind = m.read a n kind := by
  rw [read_eq hm.passthroughRead hm.region hn, read_eq (m := m.supply supplies page)
    hm.passthroughRead (hm.supply supplies page).region hn, copyFromPages_one_chunk _ _ hn hfit,
    copyFromPages_one_chunk _ _ hn hfit, entryAt_supply supplies m hne]
  rfl

/-- A read elsewhere does not see the supplies. -/
theorem read_supplyAll {pages : List Nat} {a : U64} {n : Nat} (hm : m.PagesAnswer a n) (hn : 0 < n)
    (hfit : WithinPage a n) (hnot : pageOf a ∉ pages) (kind : MemoryAccessKind) :
    (m.supplyAll supplies pages).read a n kind = m.read a n kind := by
  induction pages generalizing m with
  | nil => rfl
  | cons page pages ih =>
    obtain ⟨hne, hrest⟩ := not_or.mp fun h => hnot (List.mem_cons.mpr h)
    rw [supplyAll_cons, ih (hm.supply supplies page) hrest, read_supply hm hn hfit (Ne.symm hne)]

/-- A read of a missing page is refused. -/
theorem read_missing {a : U64} {n : Nat} (hm : m.PagesAnswer a n) (hn : 0 < n) (hfit : WithinPage a n)
    (hnone : m.pages[pageOf a]? = none) (kind : MemoryAccessKind) : m.read a n kind = none := by
  have hentry : entryAt m.pages a = none := hnone
  rw [read_eq hm.passthroughRead hm.region hn, copyFromPages_one_chunk _ _ hn hfit, hentry]

/-- Supplies leave the hooks. -/
theorem supplyAll_accessHooks (pages : List Nat) :
    (m.supplyAll supplies pages).accessHooks = m.accessHooks := by
  induction pages generalizing m with
  | nil => rfl
  | cons page pages ih => exact ih

/-- A supplied page can be read if its permissions say so. -/
theorem read_supplied {pages : List Nat} {a : U64} {n : Nat} (hm : m.PagesAnswer a n)
    (hhooks : m.accessHooks = []) (hn : 0 < n) (hfit : WithinPage a n) (hmem : pageOf a ∈ pages)
    {kind : MemoryAccessKind}
    (hperm : hasPermission (supplies (pageOf a)).entry.permissions kind = true) :
    ((m.supplyAll supplies pages).read a n kind).isSome := by
  have hentry : entryAt (m.supplyAll supplies pages).pages a = some (supplies (pageOf a)).entry :=
    (supplyAll_getElem? pages _).trans (if_pos hmem)
  have hnone : (m.supplyAll supplies pages).accessHooks = [] :=
    (supplyAll_accessHooks pages).trans hhooks
  rw [read_eq (hm.supplyAll pages).passthroughRead (hm.supplyAll pages).region hn,
    copyFromPages_one_chunk _ _ hn hfit, hentry]
  simp only [hperm, if_true, accessAllowed_nil hnone]
  rfl

/-! ## Writes -/

/-- Noting code and supplying a page commute. -/
theorem bumpCodeEpochIf_supply (page : Nat) (b : Bool) :
    bumpCodeEpochIf (m.supply supplies page) b = (bumpCodeEpochIf m b).supply supplies page := by
  unfold bumpCodeEpochIf
  split
  next =>
    unfold supply
    simp only [mk.injEq, true_and, and_true]
    ac_rfl
  next => rfl

/-- A write elsewhere and a supply commute. -/
theorem write_supply {page : Nat} {a : U64} {src : List Byte} (hm : m.PagesAnswer a src.length) (hsrc : src ≠ [])
    (hfit : WithinPage a src.length) (hne : page ≠ pageOf a) (kind : MemoryAccessKind) :
    (m.supply supplies page).write a src kind =
      ((m.write a src kind).1.supply supplies page, (m.write a src kind).2) := by
  have hallow (e : MemoryAccessEvent) :
      (m.supply supplies page).accessAllowed e = m.accessAllowed e := rfl
  rw [write_eq_of_region hm.passthroughWrite hm.region hsrc,
    write_eq_of_region (m := m.supply supplies page) hm.passthroughWrite
      (hm.supply supplies page).region hsrc, hallow]
  split
  next =>
    rw [writePages_one_chunk _ _ hsrc hfit, writePages_one_chunk _ _ hsrc hfit,
      entryAt_supply supplies m hne]
    cases entryAt m.pages a with
    | none => rfl
    | some e =>
      simp only
      split
      next =>
        rw [← bumpCodeEpochIf_supply]
        -- the two pages are installed in the other order
        have hcomm := insert_comm_page m.pages hne (supplies page).entry
          (e.store (a.toNat % kPageSize) src)
        unfold pageOf at hcomm
        unfold supply
        rw [hcomm]
      next => rfl
  next => rfl

/-- A write elsewhere and supplies commute. -/
theorem write_supplyAll {pages : List Nat} {a : U64} {src : List Byte}
    (hm : m.PagesAnswer a src.length) (hsrc : src ≠ []) (hfit : WithinPage a src.length) (hnot : pageOf a ∉ pages)
    (kind : MemoryAccessKind) :
    (m.supplyAll supplies pages).write a src kind =
      ((m.write a src kind).1.supplyAll supplies pages, (m.write a src kind).2) := by
  induction pages generalizing m with
  | nil => rfl
  | cons page pages ih =>
    obtain ⟨hne, hrest⟩ := not_or.mp fun h => hnot (List.mem_cons.mpr h)
    rw [supplyAll_cons, ih (hm.supply supplies page) hrest, write_supply hm hsrc hfit (Ne.symm hne)]
    rfl

/-- A write to a missing page is refused and changes nothing. -/
theorem write_missing {a : U64} {src : List Byte} (hm : m.PagesAnswer a src.length) (hsrc : src ≠ [])
    (hfit : WithinPage a src.length) (hnone : m.pages[pageOf a]? = none)
    (kind : MemoryAccessKind) : m.write a src kind = (m, false) := by
  have hentry : entryAt m.pages a = none := hnone
  rw [write_eq_of_region hm.passthroughWrite hm.region hsrc]
  split
  next => rw [writePages_one_chunk _ _ hsrc hfit, hentry]
  next => rfl

/-- A store within one page that is refused changes nothing. -/
theorem write_refused {a : U64} {src : List Byte} (hsrc : src ≠ [])
    (hfit : WithinPage a src.length) {kind : MemoryAccessKind} (h : (m.write a src kind).2 = false) :
    (m.write a src kind).1 = m := by
  cases hpass : m.passthroughWrite with
  | some f =>
    unfold write
    rw [hpass]
  | none =>
    cases hregion : m.findMmioRegion a src.length with
    | none =>
      rw [write_eq_of_region hpass hregion hsrc] at h ⊢
      split at h
      next hallowed =>
        rw [if_pos hallowed, writePages_one_chunk _ _ hsrc hfit]
        rw [writePages_one_chunk _ _ hsrc hfit] at h
        cases hentry : entryAt m.pages a with
        | none => rfl
        | some e =>
          rw [hentry] at h
          simp only at h ⊢
          split at h
          next => cases h
          next hperm => rw [if_neg hperm]
      next hallowed => rw [if_neg hallowed]
    | some mmio =>
      -- a device takes the store or refuses it; the pages are not involved
      have hnonempty : m.mmioRegions ≠ [] := by
        intro hnil
        rw [findMmioRegion_nil hnil] at hregion
        cases hregion
      have hslow : m.singlePage a src.length = false := by
        unfold singlePage
        rw [List.isEmpty_eq_false_iff.mpr hnonempty, Bool.and_false, Bool.false_and]
      unfold write
      rw [hpass]
      simp only [hslow, hregion, Bool.false_eq_true, if_false]
      split <;> rfl

end

/-! ## Raising the permissions of a page -/

/-- The page gets these permissions, as `reprotect` gives them. -/
def allow (permissions : MemoryPermissionMask) (page : Nat) (m : Memory) : Memory :=
  { m.bumpEpochs with pages := reprotectPage permissions m.pages page }

/-- What was permitted stays permitted, and code stays code. -/
structure Raises (old new : MemoryPermissionMask) : Prop where
  kept : ∀ kind, hasPermission old kind = true → hasPermission new kind = true
  code : executable new = executable old

/-- The page, where it is mapped, has permissions to be raised. -/
def Raisable (permissions : MemoryPermissionMask) (page : Nat) (m : Memory) : Prop :=
  ∀ e, m.pages[page]? = some e → Raises e.permissions permissions

section allow

variable {permissions : MemoryPermissionMask} {page : Nat} {m : Memory} {a : U64}

/-- Whether permissions can be raised does not depend on the bytes. -/
theorem Raisable.sameAccess {m' : Memory} (h : Raisable permissions page m)
    (hsame : SameAccess m m') : Raisable permissions page m' := by
  intro e he
  have hperms := hsame.perms page
  rw [he] at hperms
  obtain ⟨e', he', hpermissions⟩ := Option.map_eq_some_iff.mp hperms.symm
  rw [← hpermissions]
  exact h e' he'

/-- An access finds the entry it found, with permissions as good. -/
theorem entryAt_allow {e : PageEntry} (h : Raisable permissions page m)
    (he : entryAt m.pages a = some e) :
    ∃ p, Raises e.permissions p ∧
      entryAt (m.allow permissions page).pages a = some { e with permissions := p } := by
  unfold entryAt at he
  unfold entryAt allow reprotectPage
  cases hpage : m.pages[page]? with
  | none => exact ⟨e.permissions, ⟨fun _ hk => hk, rfl⟩, he⟩
  | some e' =>
    simp only
    rw [getElem?_insert_page]
    by_cases hsame : page = a.toNat / kPageSize
    · rw [← hsame, hpage] at he
      cases he
      rw [if_pos hsame]
      exact ⟨permissions, h e hpage, rfl⟩
    · rw [if_neg hsame]
      exact ⟨e.permissions, ⟨fun _ hk => hk, rfl⟩, he⟩

/-- A read that succeeded succeeds with the same bytes. -/
theorem read_allow {n : Nat} (hm : m.PagesAnswer a n) (h : Raisable permissions page m) (hn : 0 < n)
    (hfit : WithinPage a n) {kind : MemoryAccessKind} {bytes : List Byte}
    (hread : m.read a n kind = some bytes) :
    (m.allow permissions page).read a n kind = some bytes := by
  have hmmio' : (m.allow permissions page).findMmioRegion a n = none := hm.region
  rw [read_eq hm.passthroughRead hm.region hn, copyFromPages_one_chunk _ _ hn hfit] at hread
  rw [read_eq (m := m.allow permissions page) hm.passthroughRead hmmio' hn,
    copyFromPages_one_chunk _ _ hn hfit]
  cases he : entryAt m.pages a with
  | none =>
    rw [he] at hread
    cases hread
  | some e =>
    obtain ⟨p, hraises, he'⟩ := entryAt_allow h he
    rw [he] at hread
    rw [he']
    simp only at hread ⊢
    by_cases hperm : hasPermission e.permissions kind = true
    · rw [if_pos hperm] at hread
      rw [if_pos (hraises.kept kind hperm)]
      exact hread
    · rw [if_neg hperm] at hread
      cases hread

/-- A store into the page commutes with the change of its permissions. -/
theorem reprotectPage_store {e : PageEntry} {p : MemoryPermissionMask}
    (he : entryAt m.pages a = some e)
    (he' : entryAt (m.allow permissions page).pages a = some { e with permissions := p })
    (off : Nat) (src : List Byte) :
    (reprotectPage permissions m.pages page).insert (a.toNat / kPageSize)
        (({ e with permissions := p } : PageEntry).store off src) =
      reprotectPage permissions (m.pages.insert (a.toNat / kPageSize) (e.store off src)) page := by
  unfold entryAt at he
  unfold entryAt allow reprotectPage at he'
  unfold reprotectPage
  rw [getElem?_insert_page]
  -- The write and the repair meet in one entry, or change two different ones.
  by_cases hsame : a.toNat / kPageSize = page
  · rw [if_pos hsame, hsame]
    rw [hsame] at he
    simp only [he, hsame, getElem?_insert_page, if_true, Option.some.injEq] at he' ⊢
    rw [insert_insert_page, insert_insert_page, ← he']
    rfl
  · rw [if_neg hsame]
    cases hpage : m.pages[page]? with
    | none =>
      simp only [hpage, he, Option.some.injEq] at he' ⊢
      rw [← he']
    | some e' =>
      simp only [hpage, getElem?_insert_page, if_neg (Ne.symm hsame), he, Option.some.injEq] at he' ⊢
      rw [← he']
      exact insert_comm_page m.pages (Ne.symm hsame) _ _

/-- Noting code and raising permissions commute. -/
theorem bumpCodeEpochIf_allow (b : Bool) :
    bumpCodeEpochIf (m.allow permissions page) b = (bumpCodeEpochIf m b).allow permissions page := by
  cases b <;> rfl

/-- A write that succeeded succeeds and commutes with raising permissions. -/
theorem write_allow {src : List Byte} (hm : m.PagesAnswer a src.length)
    (h : Raisable permissions page m) (hsrc : src ≠ []) (hfit : WithinPage a src.length) {kind : MemoryAccessKind}
    (hwrite : (m.write a src kind).2 = true) :
    (m.allow permissions page).write a src kind =
      ((m.write a src kind).1.allow permissions page, true) := by
  have hallow (e : MemoryAccessEvent) :
      (m.allow permissions page).accessAllowed e = m.accessAllowed e := rfl
  have hmmio' : (m.allow permissions page).findMmioRegion a src.length = none := hm.region
  rw [write_eq_of_region hm.passthroughWrite hm.region hsrc] at hwrite ⊢
  rw [write_eq_of_region (m := m.allow permissions page) hm.passthroughWrite hmmio' hsrc, hallow]
  -- A hook that refuses, an unmapped page and a missing permission contradict `hwrite`.
  by_cases hallowed : m.accessAllowed ⟨kind, a, src.length, some src, src.length⟩ = true
  · rw [if_pos hallowed] at hwrite
    rw [if_pos hallowed, if_pos hallowed]
    rw [writePages_one_chunk _ _ hsrc hfit] at hwrite ⊢
    rw [writePages_one_chunk _ _ hsrc hfit]
    cases he : entryAt m.pages a with
    | none =>
      rw [he] at hwrite
      cases hwrite
    | some e =>
      obtain ⟨p, hraises, he'⟩ := entryAt_allow h he
      rw [he] at hwrite
      rw [he']
      simp only at hwrite ⊢
      by_cases hperm : hasPermission e.permissions kind = true
      · rw [if_pos hperm, if_pos (hraises.kept kind hperm), hraises.code, ← bumpCodeEpochIf_allow]
        have hpages := reprotectPage_store he he' (a.toNat % kPageSize) src
        unfold allow
        rw [← hpages]
        rfl
      · rw [if_neg hperm] at hwrite
        cases hwrite
  · rw [if_neg hallowed] at hwrite
    cases hwrite

end allow

end Memory

end Seven
