import Mathlib.Data.List.Find
import Seven.Memory.Basic
import Seven.Lib.WrapInterval

/-!
# MMIO dispatch

`find_mmio_region` rejects an access by two bounds kept beside the region
list, `mmio_min_base_` and `mmio_max_end_`, and only then searches the list.
Four operations maintain the bounds: `map_mmio` widens them, `unmap_mmio`
recomputes them, `clear_mmio_regions` resets them and
`restore_mmio_regions` rebuilds them.

`MmioBounds` is what all four keep: every region starts at or above the lower
bound and its *wrapped* end is at most the upper one. So the prefilter never
rejects what the search would accept (`findMmioRegion_eq_find?`), and the
whole question is what the search accepts.

> `MmioOp.findMmioRegion_first_iff`: after any history, an access is
> answered by the first region whose integer interval contains it, exactly
> when the region that decides does not trip over the top of the address
> space (`TopSafe`).

A region that ends at `2 ^ 64` has the wrapped end `0`, and so does an access
that ends there.
-/

namespace Seven

open Seven.Lib

/-- What a snapshot keeps of a region: no callbacks. -/
structure MmioRegionSnapshot where
  id : HookId
  base : U64
  size : U64
deriving DecidableEq

/-- Callbacks for a region of a snapshot, or none to drop it. -/
abbrev MmioResolver :=
  MmioRegionSnapshot → Option (Option MmioReadCallback × Option MmioWriteCallback)

namespace Memory

/-! ## The other two operations -/

/-- `clear_mmio_regions`. -/
def clearMmioRegions (m : Memory) : Memory :=
  { m with mmioRegions := [], mmioMinBase := BitVec.allOnes 64, mmioMaxEnd := 0#64 }

/-- `mmio_regions_.push_back` and the bounds after it. -/
def pushMmioRegion (m : Memory) (region : MmioRegion) : Memory :=
  if m.mmioRegions.isEmpty then
    { m with
      mmioRegions := m.mmioRegions ++ [region]
      mmioMinBase := region.base
      mmioMaxEnd := region.base + region.size }
  else
    { m with
      mmioRegions := m.mmioRegions ++ [region]
      mmioMinBase := minU64 m.mmioMinBase region.base
      mmioMaxEnd := maxU64 m.mmioMaxEnd (region.base + region.size) }

/-- The region goes behind the others. -/
theorem pushMmioRegion_mmioRegions (m : Memory) (region : MmioRegion) :
    (m.pushMmioRegion region).mmioRegions = m.mmioRegions ++ [region] := by
  unfold pushMmioRegion
  split <;> rfl

/-- One round of the loop in `restore_mmio_regions`. -/
def restoreMmioRegion (resolver : Option MmioResolver) (m : Memory) (region : MmioRegionSnapshot) :
    Memory :=
  match resolver with
  | none => m
  | some resolve =>
    match resolve region with
    | none => m
    | some (onRead, onWrite) =>
      pushMmioRegion { m with nextHookId := maxU64 m.nextHookId (region.id + 1#64) }
        ⟨region.id, region.base, region.size, onRead, onWrite⟩

/-- The regions of a snapshot, in its order. -/
def restoreMmioRegions (m : Memory) (regions : List MmioRegionSnapshot)
    (resolver : Option MmioResolver) : Memory :=
  regions.foldl (restoreMmioRegion resolver) m.clearMmioRegions

/-- `map_mmio` is the push of a region under a fresh id. -/
theorem mapMmio_snd (m : Memory) (base size : U64) (onRead : Option MmioReadCallback)
    (onWrite : Option MmioWriteCallback) :
    (m.mapMmio base size onRead onWrite).2 =
      pushMmioRegion { m with nextHookId := m.nextHookId + 1#64 }
        ⟨m.nextHookId, base, size, onRead, onWrite⟩ := rfl

/-- The memory less what the region operations own: regions, bounds and the
id counter. -/
def withoutMmio (m : Memory) : Memory :=
  { m with mmioRegions := [], mmioMinBase := 0#64, mmioMaxEnd := 0#64, nextHookId := 0#64 }

/-- A region put back leaves everything else. -/
theorem withoutMmio_restoreMmioRegion (resolver : Option MmioResolver) (m : Memory)
    (region : MmioRegionSnapshot) :
    (restoreMmioRegion resolver m region).withoutMmio = m.withoutMmio := by
  unfold restoreMmioRegion
  split
  · rfl
  · split
    · rfl
    · unfold pushMmioRegion
      split <;> rfl

/-- Restoring regions touches nothing else. -/
theorem withoutMmio_restoreMmioRegions (m : Memory) (regions : List MmioRegionSnapshot)
    (resolver : Option MmioResolver) :
    (m.restoreMmioRegions regions resolver).withoutMmio = m.withoutMmio := by
  have hloop : ∀ (rs : List MmioRegionSnapshot) (m' : Memory),
      (rs.foldl (restoreMmioRegion resolver) m').withoutMmio = m'.withoutMmio := by
    intro rs
    induction rs with
    | nil => intro m'; rfl
    | cons r rs ih =>
      intro m'
      rw [List.foldl_cons, ih, withoutMmio_restoreMmioRegion]
  exact hloop regions m.clearMmioRegions

end Memory

/-! ## Histories -/

/-- The operations that touch the region list. -/
inductive MmioOp where
  | map (base size : U64) (onRead : Option MmioReadCallback) (onWrite : Option MmioWriteCallback)
  | unmap (id : HookId)
  | clear
  | restore (regions : List MmioRegionSnapshot) (resolver : Option MmioResolver)

namespace MmioOp

/-- What the call does. -/
def apply (m : Memory) : MmioOp → Memory
  | map base size onRead onWrite => (m.mapMmio base size onRead onWrite).2
  | unmap id => (m.unmapMmio id).1
  | clear => m.clearMmioRegions
  | restore regions resolver => m.restoreMmioRegions regions resolver

/-- A history of calls. -/
def runAll (m : Memory) (ops : List MmioOp) : Memory := ops.foldl apply m

/-- The regions an operation brings in stay inside the address space. -/
def Fits : MmioOp → Prop
  | map base size _ _ => base.toNat + size.toNat ≤ 2 ^ 64
  | unmap _ => True
  | clear => True
  | restore regions _ => ∀ r ∈ regions, r.base.toNat + r.size.toNat ≤ 2 ^ 64

end MmioOp

/-! ## The invariant -/

namespace Memory

/-- An operation on the regions touches nothing else. -/
theorem withoutMmio_apply (m : Memory) (op : MmioOp) :
    (op.apply m).withoutMmio = m.withoutMmio := by
  cases op with
  | map base size onRead onWrite =>
    show (m.mapMmio base size onRead onWrite).2.withoutMmio = m.withoutMmio
    unfold mapMmio
    dsimp only
    split <;> rfl
  | unmap id =>
    show (m.unmapMmio id).1.withoutMmio = m.withoutMmio
    unfold unmapMmio withMmioBounds
    split
    next => split <;> rfl
    next => rfl
  | clear => rfl
  | restore regions resolver => exact withoutMmio_restoreMmioRegions m regions resolver

/-- Pages are not the regions' business. -/
theorem pages_apply (m : Memory) (op : MmioOp) : (op.apply m).pages = m.pages := by
  have hrest := congrArg (·.pages) (withoutMmio_apply m op)
  exact hrest

/-- The smaller of two is at most the first. -/
theorem minU64_le_left (a b : U64) : minU64 a b ≤ a := by
  unfold minU64
  split
  next h => exact BitVec.le_of_lt h
  next => exact BitVec.le_refl a

/-- The smaller of two is at most the second. -/
theorem minU64_le_right (a b : U64) : minU64 a b ≤ b := by
  unfold minU64
  split
  next => exact BitVec.le_refl b
  next h => exact BitVec.not_lt.mp h

/-- The larger of two is at least the first. -/
theorem le_maxU64_left (a b : U64) : a ≤ maxU64 a b := by
  unfold maxU64
  split
  next h => exact BitVec.le_of_lt h
  next => exact BitVec.le_refl a

/-- The larger of two is at least the second. -/
theorem le_maxU64_right (a b : U64) : b ≤ maxU64 a b := by
  unfold maxU64
  split
  next => exact BitVec.le_refl b
  next h => exact BitVec.not_lt.mp h

/-- A running minimum is at most its seed and every value folded in. -/
theorem foldl_minU64_le {α : Type} (f : α → U64) :
    ∀ (l : List α) (b : U64), l.foldl (fun b r => minU64 b (f r)) b ≤ b ∧
      ∀ r ∈ l, l.foldl (fun b r => minU64 b (f r)) b ≤ f r
  | [], b => ⟨BitVec.le_refl b, fun _ h => absurd h List.not_mem_nil⟩
  | x :: l, b => by
    have ⟨hseed, hall⟩ := foldl_minU64_le f l (minU64 b (f x))
    rw [List.foldl_cons]
    refine ⟨BitVec.le_trans hseed (minU64_le_left b (f x)), fun r hr => ?_⟩
    rcases List.mem_cons.mp hr with rfl | hr
    · exact BitVec.le_trans hseed (minU64_le_right b (f r))
    · exact hall r hr

/-- A running maximum is at least its seed and every value folded in. -/
theorem le_foldl_maxU64 {α : Type} (f : α → U64) :
    ∀ (l : List α) (b : U64), b ≤ l.foldl (fun b r => maxU64 b (f r)) b ∧
      ∀ r ∈ l, f r ≤ l.foldl (fun b r => maxU64 b (f r)) b
  | [], b => ⟨BitVec.le_refl b, fun _ h => absurd h List.not_mem_nil⟩
  | x :: l, b => by
    have ⟨hseed, hall⟩ := le_foldl_maxU64 f l (maxU64 b (f x))
    rw [List.foldl_cons]
    refine ⟨BitVec.le_trans (le_maxU64_left b (f x)) hseed, fun r hr => ?_⟩
    rcases List.mem_cons.mp hr with rfl | hr
    · exact BitVec.le_trans (le_maxU64_right b (f r)) hseed
    · exact hall r hr

end Memory

/-- The bounds enclose every base and every wrapped end. -/
structure MmioBounds (m : Memory) : Prop where
  low : ∀ r ∈ m.mmioRegions, m.mmioMinBase ≤ r.base
  high : ∀ r ∈ m.mmioRegions, r.base + r.size ≤ m.mmioMaxEnd

/-- No regions, nothing to bound. -/
theorem MmioBounds.of_nil {m : Memory} (h : m.mmioRegions = []) : MmioBounds m := by
  constructor
  all_goals
    intro r hr
    rw [h] at hr
    exact absurd hr List.not_mem_nil

/-- The counter does not matter. -/
theorem MmioBounds.renumber {m : Memory} (h : MmioBounds m) (id : HookId) :
    MmioBounds { m with nextHookId := id } := ⟨h.low, h.high⟩

/-- Pushing a region keeps the bounds: the first one sets them, a later one
widens them. -/
theorem MmioBounds.push {m : Memory} (h : MmioBounds m) (region : MmioRegion) :
    MmioBounds (m.pushMmioRegion region) := by
  unfold Memory.pushMmioRegion
  by_cases hempty : m.mmioRegions.isEmpty = true
  · rw [if_pos hempty]
    -- The first region sets both bounds.
    have hnil := List.isEmpty_iff.mp hempty
    constructor
    all_goals
      intro r hr
      have hr' : r = region := by simpa [hnil] using hr
      subst hr'
      exact BitVec.le_refl _
  -- A later one widens them.
  · rw [if_neg hempty]
    constructor
    all_goals
      intro r hr
      rcases List.mem_append.mp hr with hr | hr
    · exact BitVec.le_trans (Memory.minU64_le_left _ _) (h.low r hr)
    · rw [List.mem_singleton.mp hr]
      exact Memory.minU64_le_right _ _
    · exact BitVec.le_trans (h.high r hr) (Memory.le_maxU64_left _ _)
    · rw [List.mem_singleton.mp hr]
      exact Memory.le_maxU64_right _ _

/-- Recomputed bounds enclose whatever is in the list. -/
theorem MmioBounds.recomputed (m : Memory) : MmioBounds m.withMmioBounds := by
  unfold Memory.withMmioBounds
  split
  next hnil => exact MmioBounds.of_nil hnil
  next r rs hcons =>
    have ⟨hbase, hbases⟩ := Memory.foldl_minU64_le (fun r : MmioRegion => r.base) rs r.base
    have ⟨hend, hends⟩ :=
      Memory.le_foldl_maxU64 (fun r : MmioRegion => r.base + r.size) rs (r.base + r.size)
    constructor
    · intro q hq
      rcases List.mem_cons.mp (hcons ▸ hq) with rfl | hq
      · exact hbase
      · exact hbases q hq
    · intro q hq
      rcases List.mem_cons.mp (hcons ▸ hq) with rfl | hq
      · exact hend
      · exact hends q hq

/-- A region taken away. -/
theorem MmioBounds.unmapMmio {m : Memory} (h : MmioBounds m) (id : HookId) :
    MmioBounds (m.unmapMmio id).1 := by
  unfold Memory.unmapMmio
  split
  next => exact MmioBounds.recomputed _
  next => exact h

/-- A region put back. -/
theorem MmioBounds.restoreMmioRegion {m : Memory} (h : MmioBounds m)
    (resolver : Option MmioResolver) (region : MmioRegionSnapshot) :
    MmioBounds (m.restoreMmioRegion resolver region) := by
  unfold Memory.restoreMmioRegion
  split
  next => exact h
  next resolve =>
    split
    next => exact h
    next => exact MmioBounds.push (h.renumber _) _

/-- The restore loop keeps the bounds, region by region. -/
theorem MmioBounds.restoreLoop (resolver : Option MmioResolver) :
    ∀ (regions : List MmioRegionSnapshot) {m : Memory}, MmioBounds m →
      MmioBounds (regions.foldl (Memory.restoreMmioRegion resolver) m)
  | [], _, h => h
  | region :: regions, m, h => by
    rw [List.foldl_cons]
    exact MmioBounds.restoreLoop resolver regions (h.restoreMmioRegion resolver region)

/-- All regions of a snapshot. -/
theorem MmioBounds.restored (m : Memory) (regions : List MmioRegionSnapshot)
    (resolver : Option MmioResolver) : MmioBounds (m.restoreMmioRegions regions resolver) :=
  MmioBounds.restoreLoop resolver regions (MmioBounds.of_nil rfl)

/-- One operation keeps the bounds. -/
theorem MmioBounds.apply {m : Memory} (h : MmioBounds m) (op : MmioOp) : MmioBounds (op.apply m) := by
  cases op with
  | map base size onRead onWrite =>
    show MmioBounds (m.mapMmio base size onRead onWrite).2
    rw [Memory.mapMmio_snd]
    exact MmioBounds.push (h.renumber _) _
  | unmap id => exact h.unmapMmio id
  | clear => exact MmioBounds.of_nil rfl
  | restore regions resolver => exact MmioBounds.restored m regions resolver

/-- A history keeps the bounds. -/
theorem MmioBounds.runAll :
    ∀ (ops : List MmioOp) {m : Memory}, MmioBounds m → MmioBounds (MmioOp.runAll m ops)
  | [], _, h => h
  | op :: ops, _, h => MmioBounds.runAll ops (h.apply op)

/-! ## Regions inside the address space -/

/-- Every region stays inside the address space. -/
def RegionsFit (regions : List MmioRegion) : Prop :=
  ∀ r ∈ regions, r.base.toNat + r.size.toNat ≤ 2 ^ 64

/-- One fitting region more. -/
theorem RegionsFit.push {m : Memory} (h : RegionsFit m.mmioRegions) {region : MmioRegion}
    (hfits : region.base.toNat + region.size.toNat ≤ 2 ^ 64) :
    RegionsFit (m.pushMmioRegion region).mmioRegions := by
  intro r hr
  rw [Memory.pushMmioRegion_mmioRegions] at hr
  rcases List.mem_append.mp hr with hr | hr
  · exact h r hr
  · rw [List.mem_singleton.mp hr]
    exact hfits

/-- The bounds computed anew leave the list. -/
theorem withMmioBounds_mmioRegions (m : Memory) : m.withMmioBounds.mmioRegions = m.mmioRegions := by
  unfold Memory.withMmioBounds
  split <;> rfl

/-- The regions of a snapshot fit when the snapshot's do. -/
theorem RegionsFit.restoreLoop (resolver : Option MmioResolver) :
    ∀ (regions : List MmioRegionSnapshot) {m : Memory}, RegionsFit m.mmioRegions →
      (∀ r ∈ regions, r.base.toNat + r.size.toNat ≤ 2 ^ 64) →
      RegionsFit (regions.foldl (Memory.restoreMmioRegion resolver) m).mmioRegions
  | [], _, h, _ => h
  | region :: regions, _, h, hfits => by
    rw [List.foldl_cons]
    apply RegionsFit.restoreLoop resolver regions
    · unfold Memory.restoreMmioRegion
      split
      · exact h
      · split
        · exact h
        · apply RegionsFit.push
          · exact h
          · exact hfits region List.mem_cons_self
    · intro r hr
      exact hfits r (List.mem_cons_of_mem region hr)

/-- Step: every call with fitting arguments. -/
theorem RegionsFit.apply {m : Memory} (h : RegionsFit m.mmioRegions) {op : MmioOp}
    (hfits : op.Fits) : RegionsFit (op.apply m).mmioRegions := by
  cases op with
  -- A map appends one region, and its size is the one asked for.
  | map base size onRead onWrite =>
    show RegionsFit (m.mapMmio base size onRead onWrite).2.mmioRegions
    rw [Memory.mapMmio_snd]
    apply RegionsFit.push
    · exact h
    · exact hfits
  | unmap id =>
    show RegionsFit (m.unmapMmio id).1.mmioRegions
    unfold Memory.unmapMmio
    split
    next =>
      intro r hr
      rw [withMmioBounds_mmioRegions] at hr
      exact h r (List.mem_of_mem_eraseP hr)
    next => exact h
  | clear =>
    intro r hr
    exact absurd hr List.not_mem_nil
  | restore regions resolver =>
    apply RegionsFit.restoreLoop resolver regions
    · intro r hr
      exact absurd hr List.not_mem_nil
    · exact hfits

/-- Run: every history of such calls. -/
theorem RegionsFit.runAll :
    ∀ (ops : List MmioOp) {m : Memory}, RegionsFit m.mmioRegions → (∀ op ∈ ops, op.Fits) →
      RegionsFit (MmioOp.runAll m ops).mmioRegions
  | [], _, h, _ => h
  | op :: ops, m, h, hfits => by
    show RegionsFit (MmioOp.runAll (op.apply m) ops).mmioRegions
    apply RegionsFit.runAll ops
    · exact h.apply (hfits op List.mem_cons_self)
    · intro op' hop'
      exact hfits op' (List.mem_cons_of_mem op hop')

/-! ## The search -/

namespace Memory

/-- **The prefilter hides nothing** the search would find: both bounds
enclose what the search compares against. -/
theorem findMmioRegion_eq_find? {m : Memory} (h : MmioBounds m) (address : U64) (size : Nat) :
    m.findMmioRegion address size =
      m.mmioRegions.find? fun r => coversWrapped r.base r.size.toNat address size := by
  have hend : ∀ r : MmioRegion, wrapEnd r.base r.size.toNat = r.base + r.size := by
    intro r
    unfold wrapEnd
    rw [BitVec.ofNat_toNat, BitVec.setWidth_eq]
  have htest : ∀ r : MmioRegion,
      coversWrapped r.base r.size.toNat address size =
        (decide (address >= r.base) && decide (address + BitVec.ofNat 64 size <= r.base + r.size)) := by
    intro r
    unfold coversWrapped
    rw [hend r]
    rfl
  simp only [htest]
  unfold findMmioRegion
  by_cases hempty : m.mmioRegions.isEmpty = true
  · rw [if_pos hempty, List.isEmpty_iff.mp hempty]
    rfl
  · rw [if_neg hempty]
    dsimp only
    split
    next hreject =>
      -- what the prefilter rejects, every region's own test rejects
      symm
      rw [List.find?_eq_none]
      intro r hr hfound
      obtain ⟨hlow, hhigh⟩ := Bool.and_eq_true_iff.mp hfound
      rcases (Bool.or_eq_true _ _).mp hreject with hmin | hmax
      · have hbase := BitVec.le_trans (h.low r hr) (of_decide_eq_true hlow)
        exact BitVec.not_le.mpr (of_decide_eq_true hmin) hbase
      · have hbound := BitVec.le_trans (of_decide_eq_true hhigh) (h.high r hr)
        exact BitVec.not_le.mpr (of_decide_eq_true hmax) hbound
    next => rfl

/-- A narrower test finds the same element exactly when the element the wider
one finds passes the narrower. -/
theorem find?_and_eq_iff {α : Type} (p q : α → Bool) :
    ∀ l : List α, (l.find? fun x => p x && q x) = l.find? p ↔ ∀ x, l.find? p = some x → q x = true
  | [] => by
    constructor
    · intro _ x hx
      exact absurd hx (by simp)
    · intro _
      rfl
  | x :: l => by
    have ih := find?_and_eq_iff p q l
    by_cases hp : p x = true
    · rw [List.find?_cons_of_pos hp]
      by_cases hq : q x = true
      · rw [List.find?_cons_of_pos (by rw [hp, hq]; rfl)]
        constructor
        · intro _ y hy
          exact Option.some.inj hy ▸ hq
        · intro _
          rfl
      · constructor
        · intro hfound y hy
          have := List.find?_some (hfound.trans hy)
          exact (Bool.and_eq_true_iff.mp this).2
        · intro hall
          exact absurd (hall x rfl) hq
    · rw [List.find?_cons_of_neg hp, List.find?_cons_of_neg (by simp [hp])]
      exact ih

/-- The region that decides an access does not trip over the top of the
address space. An access below the top needs the first region containing it
to end below the top as well; an access that ends at the top is compared by
its base alone, so the first region at or below it has to end there too. -/
def TopSafe (regions : List MmioRegion) (address : U64) (size : Nat) : Prop :=
  if address.toNat + size = 2 ^ 64 then
    ∀ r, regions.find? (fun r => decide (r.base ≤ address)) = some r →
      r.base.toNat + r.size.toNat = 2 ^ 64
  else
    ∀ r, regions.find? (fun r => decide (Covers r.base r.size.toNat address size)) = some r →
      r.base.toNat + r.size.toNat < 2 ^ 64

/-- The search in a well-formed region list, against integer containment. -/
theorem findMmioRegion_covers_iff {m : Memory} (h : MmioBounds m)
    (hfit : RegionsFit m.mmioRegions) {address : U64} {size : Nat}
    (hsize : 1 ≤ size) (hspan : address.toNat + size ≤ 2 ^ 64) :
    m.findMmioRegion address size =
        m.mmioRegions.find? (fun r => decide (Covers r.base r.size.toNat address size)) ↔
      TopSafe m.mmioRegions address size := by
  rw [findMmioRegion_eq_find? h]
  unfold TopSafe
  by_cases htop : address.toNat + size = 2 ^ 64
  · -- The access ends at the top: the code compares bases, the integers also need the end.
    rw [if_pos htop]
    have hcode : m.mmioRegions.find? (fun r => coversWrapped r.base r.size.toNat address size) =
        m.mmioRegions.find? (fun r => decide (r.base ≤ address)) := by
      apply List.find?_congr
      intro r hr
      rw [Bool.eq_iff_iff, coversWrapped_iff hsize (hfit r hr) hspan, if_pos htop]
      exact (decide_eq_true_iff).symm
    have hspec : m.mmioRegions.find? (fun r => decide (Covers r.base r.size.toNat address size)) =
        m.mmioRegions.find? (fun r => decide (r.base ≤ address) &&
          decide (r.base.toNat + r.size.toNat = 2 ^ 64)) := by
      apply List.find?_congr
      intro r hr
      have hfits := hfit r hr
      rw [Bool.eq_iff_iff, Bool.and_eq_true_iff, decide_eq_true_iff, decide_eq_true_iff,
        decide_eq_true_iff, BitVec.le_def]
      unfold Covers
      omega
    rw [hcode, hspec, eq_comm, find?_and_eq_iff]
    simp only [decide_eq_true_eq]
  · -- The access ends below the top: the code misses exactly the regions that end there.
    rw [if_neg htop]
    have hcode : m.mmioRegions.find? (fun r => coversWrapped r.base r.size.toNat address size) =
        m.mmioRegions.find? (fun r => decide (Covers r.base r.size.toNat address size) &&
          decide (r.base.toNat + r.size.toNat < 2 ^ 64)) := by
      apply List.find?_congr
      intro r hr
      rw [Bool.eq_iff_iff, coversWrapped_iff hsize (hfit r hr) hspan, if_neg htop,
        Bool.and_eq_true_iff, decide_eq_true_iff, decide_eq_true_iff]
    rw [hcode, find?_and_eq_iff]
    simp only [decide_eq_true_eq]

end Memory

/-- **MMIO dispatch**: after any history of the four operations an access is
answered by the first region, in list order, whose integer interval contains
it, and by none when there is none, exactly when `TopSafe` holds of it. -/
theorem MmioOp.findMmioRegion_first_iff {m₀ : Memory} (hempty : m₀.mmioRegions = [])
    {ops : List MmioOp} (hfits : ∀ op ∈ ops, op.Fits) {address : U64} {size : Nat}
    (hsize : 1 ≤ size) (hspan : address.toNat + size ≤ 2 ^ 64) :
    (runAll m₀ ops).findMmioRegion address size =
        (runAll m₀ ops).mmioRegions.find? (fun r =>
          decide (Covers r.base r.size.toNat address size)) ↔
      Memory.TopSafe (runAll m₀ ops).mmioRegions address size := by
  have hfit₀ : RegionsFit m₀.mmioRegions := by
    intro r hr
    rw [hempty] at hr
    exact absurd hr List.not_mem_nil
  exact Memory.findMmioRegion_covers_iff (MmioBounds.runAll ops (MmioBounds.of_nil hempty))
    (RegionsFit.runAll ops hfit₀ hfits) hsize hspan

namespace MmioOp

/-- Two overlapping regions after the first one was unmapped and the second
mapped again below: the older of the two answers. -/
def overlapHistory : List MmioOp :=
  [map 0x1000#64 0x1000#64 none none, map 0x1800#64 0x1000#64 none none, unmap 1#64,
    map 0x1000#64 0x1000#64 none none]

/-- The history's regions fit. -/
theorem overlapHistory_fits : ∀ op ∈ overlapHistory, op.Fits := by
  simp [overlapHistory, Fits]

/-- Two overlapping regions: the first one answers. -/
theorem findMmioRegion_first_overlap :
    (runAll {} overlapHistory).findMmioRegion 0x1900#64 8 =
      (runAll {} overlapHistory).mmioRegions.find? (fun r =>
        decide (Covers r.base r.size.toNat 0x1900#64 8)) :=
  (findMmioRegion_first_iff rfl overlapHistory_fits (by decide) (by decide)).mpr (by
    unfold Memory.TopSafe
    rw [if_neg (by decide)]
    intro r hr
    have hfirst : some r = some ⟨2#64, 0x1800#64, 0x1000#64, none, none⟩ := hr.symm.trans rfl
    rw [Option.some.inj hfirst]
    decide)

/-- One page of device memory at the top of the address space. -/
def topHistory : List MmioOp := [map 0xFFFFFFFFFFFFF000#64 0x1000#64 none none]

/-- The region contains the access and is not found: its end wraps to `0`,
and so does the upper bound of the prefilter. -/
theorem findMmioRegion_misses_top :
    (∀ op ∈ topHistory, op.Fits) ∧
    (runAll {} topHistory).findMmioRegion 0xFFFFFFFFFFFFF100#64 8 ≠
      (runAll {} topHistory).mmioRegions.find? (fun r =>
        decide (Covers r.base r.size.toNat 0xFFFFFFFFFFFFF100#64 8)) := by
  constructor
  · simp [topHistory, Fits]
  · intro h
    have hfound := congrArg Option.isSome h
    revert hfound
    decide

end MmioOp

end Seven
