import Seven.Handlers.X87Codes
import Seven.Memory.Landing

/-!
# Images in any memory

`X87Image` follows an image into plain memory, where every store is taken.
Here the memory may refuse any of them, in the middle too: what the stores
leave is what each of them leaves (`putAll_landed`, `putAll_frame`), since
they do not overlap and access rights stay.

> `keepsOutside_iff`: the stores leave the bytes behind an operand alone
> exactly when what they put there is there already.
-/

namespace Seven

open Seven.Lib

namespace Memory

/-- How many bytes of a stored word end up in the pages. -/
def landed (m : Memory) (a value : U64) (width : Nat) : Nat := m.taken a (toBytes value width)

/-- At most all bytes land. -/
theorem landed_le (m : Memory) (a value : U64) (width : Nat) : m.landed a value width ≤ width := by
  have h := m.taken_le a (toBytes value width)
  rw [toBytes_length] at h
  exact h

/-- Where they land does not depend on the bytes. -/
theorem landed_congr {m m' : Memory} (h : SameAccess m m') (a value : U64) (width : Nat) :
    m'.landed a value width = m.landed a value width := taken_congr h a _

/-- What a stored word leaves. -/
theorem stored_landed (m : Memory) (a value : U64) {width : Nat} (hpos : 0 < width)
    (hle : width ≤ 8) :
    (∀ i < m.landed a value width,
      byteAt (m.stored a value width).pages (a + BitVec.ofNat 64 i) = (toBytes value width)[i]?) ∧
    ∀ x, (∀ i < m.landed a value width, a + BitVec.ofNat 64 i ≠ x) →
      byteAt (m.stored a value width).pages x = byteAt m.pages x := by
  have hlen := toBytes_length value width
  exact m.write_taken a (List.length_pos_iff.mp (by omega)) (by omega)

/-- Different offsets of an area are different addresses. -/
theorem offset_ne {base : U64} {i j n : Nat} (hn : n ≤ 2 ^ 64) (hi : i < n) (hj : j < n)
    (hne : i ≠ j) : base + BitVec.ofNat 64 i ≠ base + BitVec.ofNat 64 j := by
  intro heq
  rw [BitVec.add_right_inj] at heq
  have hnat := congrArg BitVec.toNat heq
  rw [BitVec.toNat_ofNat, BitVec.toNat_ofNat, Nat.mod_eq_of_lt (by omega),
    Nat.mod_eq_of_lt (by omega)] at hnat
  exact hne hnat

/-- Stores move no page, region or hook. -/
theorem putAll_sameAccess {base : U64} {n : Nat} :
    ∀ {stores : List (Nat × U64 × Nat)} (m : Memory), InOrder n (placed stores) →
      SameAccess m (m.putAll base stores) := by
  intro stores
  induction stores with
  | nil => exact fun m _ => SameAccess.refl m
  | cons p rest ih =>
    intro m horder
    have hp := horder.fits _ List.mem_cons_self
    have hrest : InOrder n (placed rest) :=
      ⟨fun q hq => horder.fits q (List.mem_cons_of_mem _ hq),
        (List.pairwise_cons.mp horder.apart).2⟩
    exact (m.stored_sameAccess _ _ hp.2.1).trans (ih _ hrest)

/-- Bytes that no store reaches stay. -/
theorem putAll_frame {base : U64} {n : Nat} :
    ∀ {stores : List (Nat × U64 × Nat)} (m : Memory), InOrder n (placed stores) → ∀ x,
      (∀ p ∈ stores, ∀ i < m.landed (base + BitVec.ofNat 64 p.1) p.2.1 p.2.2,
        base + BitVec.ofNat 64 (p.1 + i) ≠ x) →
      byteAt (m.putAll base stores).pages x = byteAt m.pages x := by
  intro stores
  induction stores with
  | nil => exact fun _ _ _ _ => rfl
  | cons p rest ih =>
    intro m horder x hx
    obtain ⟨hpos, hle, _⟩ := horder.fits _ List.mem_cons_self
    have hrest : InOrder n (placed rest) :=
      ⟨fun q hq => horder.fits q (List.mem_cons_of_mem _ hq),
        (List.pairwise_cons.mp horder.apart).2⟩
    have hsame := m.stored_sameAccess (base + BitVec.ofNat 64 p.1) p.2.1 hle
    rw [putAll_cons, ih _ hrest x]
    · refine (m.stored_landed _ _ hpos hle).2 x fun i hi => ?_
      rw [BitVec.add_assoc, ← BitVec.ofNat_add]
      exact hx p List.mem_cons_self i hi
    · intro q hq i hi
      rw [landed_congr hsame] at hi
      exact hx q (List.mem_cons_of_mem _ hq) i hi

/-- Bytes that a store reaches are that store's. -/
theorem putAll_landed {base : U64} {n : Nat} (hn : n ≤ 2 ^ 64) :
    ∀ {stores : List (Nat × U64 × Nat)} (m : Memory), InOrder n (placed stores) →
      ∀ p ∈ stores, ∀ i < m.landed (base + BitVec.ofNat 64 p.1) p.2.1 p.2.2,
        byteAt (m.putAll base stores).pages (base + BitVec.ofNat 64 (p.1 + i)) =
          (toBytes p.2.1 p.2.2)[i]? := by
  intro stores
  induction stores with
  | nil => exact fun m _ p hp => absurd hp List.not_mem_nil
  | cons p rest ih =>
    intro m horder q hq i hi
    obtain ⟨hpos, hle, hend⟩ := horder.fits _ List.mem_cons_self
    obtain ⟨hbefore, happart⟩ := List.pairwise_cons.mp horder.apart
    have hrest : InOrder n (placed rest) :=
      ⟨fun r hr => horder.fits r (List.mem_cons_of_mem _ hr), happart⟩
    have hsame := m.stored_sameAccess (base + BitVec.ofNat 64 p.1) p.2.1 hle
    rw [putAll_cons]
    rcases List.mem_cons.mp hq with rfl | hq
    · -- the stores behind it begin behind it
      have hiw := Nat.lt_of_lt_of_le hi (landed_le _ _ _ _)
      rw [putAll_frame _ hrest]
      · rw [BitVec.ofNat_add, ← BitVec.add_assoc]
        exact (m.stored_landed _ _ hpos hle).1 i hi
      · intro r hr j hj
        have hstart := hbefore _ (List.mem_map_of_mem hr)
        obtain ⟨_, _, hrend⟩ := hrest.fits _ (List.mem_map_of_mem hr)
        have hjw := Nat.lt_of_lt_of_le hj (landed_le _ _ _ _)
        dsimp only at hstart hend hrend hiw
        exact offset_ne hn (by omega) (by omega) (by omega)
    · refine ih _ hrest q hq i ?_
      rw [landed_congr hsame]
      exact hi

/-- Plain memory takes all of a store. -/
theorem PlainSpan.landed {m : Memory} {a : U64} {width : Nat} (h : m.PlainSpan a width)
    (value : U64) : m.landed a value width = width := by
  have hlen := toBytes_length value width
  have hreach : m.reachesPages a (toBytes value width) = true := by
    unfold reachesPages
    rw [hlen, h.noPassthrough.2, h.noRegion, h.allowed _ rfl rfl]
    rfl
  unfold Memory.landed taken
  rw [if_pos hreach, hlen]
  have hle := accessiblePrefix_le (hasPermission · .dataWrite) m.pages width a
  by_contra hne
  have hstop := accessiblePrefix_stop (hasPermission · .dataWrite) m.pages width a (by omega)
  rw [h.writable _ (by omega)] at hstop
  cases hstop

/-- A word stored to plain memory reads back, whatever the other stores meet. -/
theorem PlainSpan.read_putAll {m : Memory} {base : U64} {n : Nat} (hn : n ≤ 2 ^ 64)
    {stores : List (Nat × U64 × Nat)} (horder : InOrder n (placed stores))
    {offset width : Nat} {value : U64} (hp : (offset, value, width) ∈ stores)
    (h : m.PlainSpan (base + BitVec.ofNat 64 offset) width) :
    (m.putAll base stores).read (base + BitVec.ofNat 64 offset) width .dataRead =
      some (toBytes value width) := by
  have hpos : 0 < width := (horder.fits (offset, width) (List.mem_map_of_mem hp)).1
  have hheld : ∀ i < m.landed (base + BitVec.ofNat 64 offset) value width,
      byteAt (m.putAll base stores).pages (base + BitVec.ofNat 64 (offset + i)) =
        (toBytes value width)[i]? := putAll_landed hn m horder (offset, value, width) hp
  rw [h.landed] at hheld
  have hplain := h.sameAccess (@putAll_sameAccess base n stores m horder)
  refine hplain.read hpos (toBytes_length value width) fun i hi => ?_
  rw [BitVec.add_assoc, ← BitVec.ofNat_add]
  exact hheld i hi

/-! ## Outside of an operand -/

/-- Every byte outside of the operand is what it was. -/
def KeepsOutside (m m' : Memory) (base : U64) (size : Nat) : Prop :=
  ∀ x, (∀ i < size, base + BitVec.ofNat 64 i ≠ x) → byteAt m'.pages x = byteAt m.pages x

/-- The bytes that the stores put behind the operand are there already. -/
def AlreadyBehind (m : Memory) (base : U64) (size : Nat) (stores : List (Nat × U64 × Nat)) : Prop :=
  ∀ p ∈ stores, ∀ i < m.landed (base + BitVec.ofNat 64 p.1) p.2.1 p.2.2, size ≤ p.1 + i →
    byteAt m.pages (base + BitVec.ofNat 64 (p.1 + i)) = (toBytes p.2.1 p.2.2)[i]?

/-- The bytes outside the landing are kept. -/
theorem keepsOutside_iff {m : Memory} {base : U64} {size n : Nat} (hn : n ≤ 2 ^ 64)
    {stores : List (Nat × U64 × Nat)} (horder : InOrder n (placed stores)) :
    KeepsOutside m (m.putAll base stores) base size ↔ AlreadyBehind m base size stores := by
  constructor
  · intro h p hp i hi hbehind
    obtain ⟨_, _, hend⟩ := horder.fits _ (List.mem_map_of_mem hp)
    have hiw := Nat.lt_of_lt_of_le hi (landed_le _ _ _ _)
    dsimp only at hend
    have houtside := h (base + BitVec.ofNat 64 (p.1 + i)) fun j hj =>
      offset_ne hn (by omega) (by omega) (by omega)
    exact houtside.symm.trans (putAll_landed hn m horder p hp i hi)
  · intro h x hx
    by_cases hreached : ∃ p ∈ stores,
        ∃ i < m.landed (base + BitVec.ofNat 64 p.1) p.2.1 p.2.2, base + BitVec.ofNat 64 (p.1 + i) = x
    · obtain ⟨p, hp, i, hi, rfl⟩ := hreached
      have hbehind : size ≤ p.1 + i := by
        by_contra hin
        exact hx _ (by omega) rfl
      exact (putAll_landed hn m horder p hp i hi).trans (h p hp i hi hbehind).symm
    · exact putAll_frame m horder x fun p hp i hi heq => hreached ⟨p, hp, i, hi, heq⟩

end Memory

end Seven
