import Seven.Memory.Basic

/-!
# map, unmap, reprotect: which pages they touch

The three mapping operations run one page operation over
`first_page .. last_page`. `forPages_getElem?` says what the loop leaves at
each page index: the page operation's effect inside the bounds, the old
entry outside.

What they are *for* is stated without page arithmetic: a page is affected
exactly when it shares an address with the integer interval
`[base, base + size)` (`Intersects`), and `MapLaw`, `UnmapLaw` and
`ReprotectLaw` say what its entry must become.

The two agree until the interval reaches into the last page of the address
space. There `base + size + kPageSize - 1` wraps, the upper bound becomes
page 0 and the loop does not run (`lastPage_wrapped`): the call changes no
page. **Main result**: `range_laws_iff`, each law holds exactly when the
bound did not wrap or the operation had nothing to change.
-/

namespace Seven

namespace Memory

/-! ## The page loop -/

/-- A page operation that changes the entry of its own page by `g` and
leaves every other page alone. -/
def ActsOnPage (f : PageMap → Nat → PageMap) (g : Option PageEntry → Option PageEntry) : Prop :=
  ∀ (pages : PageMap) (page j : Nat),
    (f pages page)[j]? = if page = j then g pages[j]? else pages[j]?

variable {f : PageMap → Nat → PageMap} {g : Option PageEntry → Option PageEntry}

/-- A step per page, on a run of pages: each page sees it once. -/
theorem foldl_range'_getElem? (hf : ActsOnPage f g) (n first : Nat) (pages : PageMap) (j : Nat) :
    ((List.range' first n).foldl f pages)[j]? =
      if first ≤ j ∧ j < first + n then g pages[j]? else pages[j]? := by
  induction n generalizing first pages with
  | zero =>
    rw [if_neg (by omega)]
    rfl
  | succ n ih =>
    rw [List.range'_succ, List.foldl_cons, ih, hf]
    by_cases hj : first = j
    · rw [if_neg (by omega), if_pos hj, if_pos (by omega)]
    · by_cases hin : first + 1 ≤ j ∧ j < first + 1 + n
      · rw [if_pos hin, if_neg hj, if_pos (by omega)]
      · rw [if_neg hin, if_neg hj, if_neg (by omega)]

/-- The entry the page loop leaves at `j`. -/
theorem forPages_getElem? (hf : ActsOnPage f g) (base size : U64) (pages : PageMap) (j : Nat) :
    (forPages f base size pages)[j]? =
      if firstPage base ≤ j ∧ j < lastPage base size then g pages[j]? else pages[j]? := by
  unfold forPages
  rw [foldl_range'_getElem? hf]
  congr 1
  simp only [eq_iff_iff]
  omega

/-- `map` on one page. -/
theorem mapPage_acts (permissions : MemoryPermissionMask) :
    ActsOnPage (mapPage permissions)
      fun e => some
        { data := (e.map PageEntry.data).getD fun _ => 0#8, permissions := permissions } := by
  intro pages page j
  unfold mapPage
  rw [getElem?_insert_page]
  split
  next h =>
    rw [← h]
    cases pages[page]? <;> rfl
  next => rfl

/-- `unmap` on one page. -/
theorem unmapPage_acts : ActsOnPage unmapPage fun _ => none :=
  fun pages page j => getElem?_erase_page pages page j

/-- `reprotect` on one page. -/
theorem reprotectPage_acts (permissions : MemoryPermissionMask) :
    ActsOnPage (reprotectPage permissions)
      (Option.map fun e => { e with permissions := permissions }) := by
  intro pages page j
  unfold reprotectPage
  by_cases hj : page = j
  · subst hj
    cases h : pages[page]? with
    | none => simp [h]
    | some e => simp
  · rw [if_neg hj]
    split
    · rfl
    · rw [getElem?_insert_page, if_neg hj]

/-! ## The integer interval -/

/-- `page` holds an address of the integer interval `[base, base + size)`. -/
def Intersects (base size : U64) (page : Nat) : Prop :=
  ∃ a, base.toNat ≤ a ∧ a < base.toNat + size.toNat ∧ a / kPageSize = page

/-- The law of a range operation whose effect on one page entry is `g`:
every intersecting page is changed by `g`, every other page is untouched. -/
structure RangeLaw (g : Option PageEntry → Option PageEntry) (base size : U64)
    (pages pages' : PageMap) : Prop where
  inside : ∀ page, Intersects base size page → pages'[page]? = g pages[page]?
  outside : ∀ page, ¬ Intersects base size page → pages'[page]? = pages[page]?

/-- After `map` every intersecting page has the permissions and its old
bytes, or zeros when it is new. -/
def MapLaw (base size : U64) (permissions : MemoryPermissionMask) (m m' : Memory) : Prop :=
  RangeLaw (fun e =>
    some { data := (e.map PageEntry.data).getD fun _ => 0#8, permissions := permissions })
    base size m.pages m'.pages

/-- After `unmap` every intersecting page is gone. -/
def UnmapLaw (base size : U64) (m m' : Memory) : Prop :=
  RangeLaw (fun _ => none) base size m.pages m'.pages

/-- After `reprotect` every intersecting mapped page has the permissions. -/
def ReprotectLaw (base size : U64) (permissions : MemoryPermissionMask) (m m' : Memory) : Prop :=
  RangeLaw (Option.map fun e => { e with permissions := permissions }) base size m.pages m'.pages

/-- A page meets the range when it begins before its end and ends behind its base. -/
theorem intersects_iff {base size : U64} (hsize : 1 ≤ size.toNat) (page : Nat) :
    Intersects base size page ↔
      base.toNat / kPageSize ≤ page ∧ page * kPageSize < base.toNat + size.toNat := by
  constructor
  · rintro ⟨a, hlo, hhi, rfl⟩
    have := Nat.div_mul_le_self a kPageSize
    exact ⟨Nat.div_le_div_right hlo, by omega⟩
  · rintro ⟨hlo, hhi⟩
    refine ⟨max base.toNat (page * kPageSize), by omega, by omega, ?_⟩
    rcases Nat.le_total base.toNat (page * kPageSize) with h | h
    · rw [Nat.max_eq_right h, Nat.mul_div_cancel _ kPageSize_pos]
    · rw [Nat.max_eq_left h]
      exact Nat.le_antisymm hlo ((Nat.le_div_iff_mul_le kPageSize_pos).mpr h)

/-- While the rounded end fits, the loop bounds are the interval's pages. -/
theorem inBounds_iff {base size : U64} (hsize : 1 ≤ size.toNat)
    (hfit : base.toNat + size.toNat ≤ 2 ^ 64 - kPageSize) (page : Nat) :
    firstPage base ≤ page ∧ page < lastPage base size ↔ Intersects base size page := by
  have hsum : (base + size + BitVec.ofNat 64 kPageSize - 1#64).toNat =
      base.toNat + size.toNat + 4095 := by
    simp only [kPageSize] at hfit ⊢
    bv_omega
  rw [intersects_iff hsize, firstPage, lastPage, hsum]
  simp only [kPageSize]
  omega

/-- **The rounded end wraps to page 0** once the interval reaches into the
last page of the address space. -/
theorem lastPage_wrapped {base size : U64}
    (hwrap : ¬ base.toNat + size.toNat ≤ 2 ^ 64 - kPageSize)
    (hend : base.toNat + size.toNat ≤ 2 ^ 64) : lastPage base size = 0 := by
  refine Nat.div_eq_of_lt ?_
  simp only [kPageSize] at hwrap ⊢
  bv_omega

/-- The page loop obeys its page operation's law exactly when the bound
fits or the operation changes no page of the interval. -/
theorem forPages_law_iff (hf : ActsOnPage f g) {base size : U64} (hsize : 1 ≤ size.toNat)
    (hend : base.toNat + size.toNat ≤ 2 ^ 64) (pages : PageMap) :
    RangeLaw g base size pages (forPages f base size pages) ↔
      base.toNat + size.toNat ≤ 2 ^ 64 - kPageSize ∨
        ∀ page, Intersects base size page → g pages[page]? = pages[page]? := by
  by_cases hfit : base.toNat + size.toNat ≤ 2 ^ 64 - kPageSize
  · refine ⟨fun _ => Or.inl hfit, fun _ => ⟨?_, ?_⟩⟩
    · intro page hp
      rw [forPages_getElem? hf, if_pos ((inBounds_iff hsize hfit page).mpr hp)]
    · intro page hp
      rw [forPages_getElem? hf, if_neg fun h => hp ((inBounds_iff hsize hfit page).mp h)]
  · -- the loop does not run, so the law asks `g` to change nothing
    have hsame : ∀ page : Nat, (forPages f base size pages)[page]? = pages[page]? := by
      intro page
      rw [forPages_getElem? hf, lastPage_wrapped hfit hend, if_neg (by omega)]
    constructor
    · intro h
      exact Or.inr fun page hp => by rw [← h.inside page hp, hsame]
    · rintro (h | h)
      · exact absurd h hfit
      · exact ⟨fun page hp => by rw [hsame, h page hp], fun page _ => hsame page⟩

/-! ## The three laws -/

/-- **The range laws hold exactly when the rounded end does not wrap**, or
when there was nothing to do: every intersecting page is mapped with these
permissions already (`map`), none is mapped (`unmap`), or those mapped have
these permissions already (`reprotect`). -/
theorem range_laws_iff (m : Memory) (base size : U64) (permissions : MemoryPermissionMask)
    (hsize : 1 ≤ size.toNat) (hend : base.toNat + size.toNat ≤ 2 ^ 64) :
    (MapLaw base size permissions m (m.map base size permissions) ↔
      base.toNat + size.toNat ≤ 2 ^ 64 - kPageSize ∨
        ∀ page, Intersects base size page →
          ∃ e, m.pages[page]? = some e ∧ e.permissions = permissions) ∧
    (UnmapLaw base size m (m.unmap base size) ↔
      base.toNat + size.toNat ≤ 2 ^ 64 - kPageSize ∨
        ∀ page, Intersects base size page → m.pages[page]? = none) ∧
    (ReprotectLaw base size permissions m (m.reprotect base size permissions) ↔
      base.toNat + size.toNat ≤ 2 ^ 64 - kPageSize ∨
        ∀ page, Intersects base size page → ∀ e, m.pages[page]? = some e →
          e.permissions = permissions) := by
  refine ⟨?_, ?_, ?_⟩
  · refine (forPages_law_iff (mapPage_acts permissions) hsize hend m.pages).trans ?_
    refine or_congr_right (forall₂_congr fun page _ => ?_)
    cases he : m.pages[page]? with
    | none => simp
    | some e =>
      simp only [Option.some.injEq, exists_eq_left', Option.map_some, Option.getD_some]
      exact ⟨fun h => by rw [← h], fun h => by rw [← h]⟩
  · refine (forPages_law_iff unmapPage_acts hsize hend m.pages).trans ?_
    exact or_congr_right (forall₂_congr fun page _ => eq_comm)
  · refine (forPages_law_iff (reprotectPage_acts permissions) hsize hend m.pages).trans ?_
    refine or_congr_right (forall₂_congr fun page _ => ?_)
    cases he : m.pages[page]? with
    | none => simp
    | some e =>
      simp only [Option.map_some, Option.some.injEq, forall_eq']
      exact ⟨fun h => by rw [← h], fun h => by rw [← h]⟩

/-- The laws on a range inside one page. -/
theorem range_laws_iff_first_page :
    MapLaw 0x1234#64 0x10#64 kMemoryPermissionAll {}
      (map {} 0x1234#64 0x10#64 kMemoryPermissionAll) :=
  (range_laws_iff {} 0x1234#64 0x10#64 kMemoryPermissionAll (by decide) (by decide)).1.mpr
    (Or.inl (by decide))

/-- Mapping the last page of the address space maps nothing. -/
theorem map_last_page_lost :
    ¬ ∀ (m : Memory) (base size : U64) (permissions : MemoryPermissionMask),
      1 ≤ size.toNat → base.toNat + size.toNat ≤ 2 ^ 64 →
      MapLaw base size permissions m (m.map base size permissions) ∧
      UnmapLaw base size m (m.unmap base size) ∧
      ReprotectLaw base size permissions m (m.reprotect base size permissions) := by
  intro h
  have hlaw := (h {} 0xFFFFFFFFFFFFF000#64 0x1000#64 kMemoryPermissionAll (by decide)
    (by decide)).1
  have hin := hlaw.inside 0xFFFFFFFFFFFFF
    ⟨0xFFFFFFFFFFFFF000, by decide, by decide, by decide⟩
  have hlost : (map {} 0xFFFFFFFFFFFFF000#64 0x1000#64 kMemoryPermissionAll).pages[
      0xFFFFFFFFFFFFF]? = none := by
    unfold map
    rw [forPages_getElem? (mapPage_acts _), lastPage_wrapped (by decide) (by decide),
      if_neg (by omega)]
    rfl
  rw [hlost] at hin
  cases hin

end Memory

end Seven
