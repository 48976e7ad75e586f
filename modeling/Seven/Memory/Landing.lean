import Seven.Memory.Effect

/-!
# Where a store lands

A store goes to the host, to a device, or to the pages, and a hook may stop
it before. On the pages it stops at the first byte that is not writable, and
what came before stays written. `taken` is how many bytes that is: a matter
of access rights and of what stands in front of the memory, the same before
and after other stores (`taken_congr`).

> `write_taken`: the bytes that are taken are there, every other byte is what
> it was.
-/

namespace Seven

open Seven.Lib

namespace Memory

/-- How many bytes from an address on are accessible, of `n`. -/
def accessiblePrefix (ok : MemoryPermissionMask → Bool) (pages : PageMap) : U64 → Nat → Nat
  | _, 0 => 0
  | a, n + 1 => if accessible ok pages a then accessiblePrefix ok pages (a + 1#64) n + 1 else 0

/-- Does a store get to the pages? -/
def reachesPages (m : Memory) (a : U64) (src : List Byte) : Bool :=
  m.passthroughWrite.isNone && (m.findMmioRegion a src.length).isNone &&
    m.accessAllowed ⟨.dataWrite, a, src.length, some src, src.length⟩

/-- How many bytes of a store end up in the pages. -/
def taken (m : Memory) (a : U64) (src : List Byte) : Nat :=
  if m.reachesPages a src then
    accessiblePrefix (hasPermission · .dataWrite) m.pages a src.length
  else 0

/-! ## The accessible prefix -/

/-- The next byte's offset. -/
theorem add_succ_ofNat (a : U64) (i : Nat) :
    a + BitVec.ofNat 64 (i + 1) = a + 1#64 + BitVec.ofNat 64 i := by
  rw [Nat.add_comm, BitVec.ofNat_add, BitVec.add_assoc]

/-- The prefix is at most the span. -/
theorem accessiblePrefix_le (ok : MemoryPermissionMask → Bool) (pages : PageMap) :
    ∀ (n : Nat) (a : U64), accessiblePrefix ok pages a n ≤ n := by
  intro n
  induction n with
  | zero => exact fun _ => Nat.le_refl 0
  | succ n ih =>
    intro a
    unfold accessiblePrefix
    split
    next => exact Nat.succ_le_succ (ih _)
    next => exact Nat.zero_le _

/-- Every byte of the prefix is accessible. -/
theorem accessiblePrefix_pre (ok : MemoryPermissionMask → Bool) (pages : PageMap) :
    ∀ (n : Nat) (a : U64), ∀ i < accessiblePrefix ok pages a n,
      accessible ok pages (a + BitVec.ofNat 64 i) = true := by
  intro n
  induction n with
  | zero => exact fun _ i hi => absurd hi (Nat.not_lt_zero i)
  | succ n ih =>
    intro a i hi
    unfold accessiblePrefix at hi
    split at hi
    next hfirst =>
      cases i with
      | zero =>
        rw [BitVec.add_zero]
        exact hfirst
      | succ i =>
        rw [add_succ_ofNat]
        exact ih (a + 1#64) i (Nat.lt_of_succ_lt_succ hi)
    next => exact absurd hi (Nat.not_lt_zero i)

/-- The byte behind the prefix is not. -/
theorem accessiblePrefix_stop (ok : MemoryPermissionMask → Bool) (pages : PageMap) :
    ∀ (n : Nat) (a : U64), accessiblePrefix ok pages a n < n →
      accessible ok pages (a + BitVec.ofNat 64 (accessiblePrefix ok pages a n)) = false := by
  intro n
  induction n with
  | zero => exact fun _ h => absurd h (Nat.not_lt_zero _)
  | succ n ih =>
    intro a h
    unfold accessiblePrefix at h ⊢
    by_cases hfirst : accessible ok pages a = true
    · rw [if_pos hfirst] at h ⊢
      rw [add_succ_ofNat]
      exact ih (a + 1#64) (Nat.lt_of_succ_lt_succ h)
    · rw [if_neg hfirst, BitVec.add_zero]
      rw [Bool.not_eq_true] at hfirst
      exact hfirst

/-- A copy stops where the accessible bytes end. -/
theorem Written.eq_prefix {ok : MemoryPermissionMask → Bool} {a : U64} {src : List Byte} {k : Nat}
    {pages pages' : PageMap} (h : Written ok a src k pages pages') :
    k = accessiblePrefix ok pages a src.length := by
  have hle := accessiblePrefix_le ok pages src.length a
  rcases Nat.lt_trichotomy k (accessiblePrefix ok pages a src.length) with hlt | heq | hgt
  · have hstop := h.stop (by omega)
    rw [accessiblePrefix_pre ok pages _ a k hlt] at hstop
    cases hstop
  · exact heq
  · have hstop := accessiblePrefix_stop ok pages src.length a (by have := h.le; omega)
    rw [h.pre _ hgt] at hstop
    cases hstop

/-! ## Stores -/

/-- No more bytes are taken than there are. -/
theorem taken_le (m : Memory) (a : U64) (src : List Byte) : m.taken a src ≤ src.length := by
  unfold taken
  split
  next => exact accessiblePrefix_le _ _ _ _
  next => exact Nat.zero_le _

/-- Other stores do not change how far one gets. -/
theorem taken_congr {m m' : Memory} (h : SameAccess m m') (a : U64) (src : List Byte) :
    m'.taken a src = m.taken a src := by
  have hreach : m'.reachesPages a src = m.reachesPages a src := by
    unfold reachesPages findMmioRegion accessAllowed
    rw [h.passthroughWrite, h.mmioRegions, h.mmioMinBase, h.mmioMaxEnd, h.accessHooks]
  have hprefix (n : Nat) : ∀ a : U64,
      accessiblePrefix (hasPermission · .dataWrite) m'.pages a n =
        accessiblePrefix (hasPermission · .dataWrite) m.pages a n := by
    induction n with
    | zero => exact fun _ => rfl
    | succ n ih =>
      intro a
      unfold accessiblePrefix
      rw [accessible_congr h.perms, ih]
  unfold taken
  rw [hreach, hprefix]

/-- A store that does not get to the pages changes nothing. -/
theorem write_of_not_reaches {m : Memory} {a : U64} {src : List Byte} (hsrc : src ≠ [])
    (h : m.reachesPages a src = false) : (m.write a src .dataWrite).1 = m := by
  cases hpass : m.passthroughWrite with
  | some f =>
    unfold write
    rw [hpass]
  | none =>
    cases hregion : m.findMmioRegion a src.length with
    | none =>
      unfold reachesPages at h
      rw [hpass, hregion] at h
      have hrefused : ¬m.accessAllowed ⟨.dataWrite, a, src.length, some src, src.length⟩ = true := by
        rw [Bool.not_eq_true]
        exact h
      rw [write_eq_of_region hpass hregion hsrc, if_neg hrefused]
    | some region =>
      -- a device rules the fast path out
      have hslow : ¬m.singlePage a src.length = true := by
        intro hsingle
        unfold singlePage at hsingle
        rw [Bool.and_eq_true, Bool.and_eq_true] at hsingle
        unfold findMmioRegion at hregion
        rw [if_pos hsingle.1.2] at hregion
        cases hregion
      unfold write
      rw [hpass]
      dsimp only
      rw [if_neg hslow]
      split
      next => rw [hregion]
      next => rfl

/-- **What a store leaves.** -/
theorem write_taken (m : Memory) (a : U64) {src : List Byte} (hsrc : src ≠ [])
    (hlen : src.length ≤ 2 ^ 64) :
    (∀ i < m.taken a src,
      byteAt (m.write a src .dataWrite).1.pages (a + BitVec.ofNat 64 i) = src[i]?) ∧
    ∀ x, (∀ i < m.taken a src, a + BitVec.ofNat 64 i ≠ x) →
      byteAt (m.write a src .dataWrite).1.pages x = byteAt m.pages x := by
  by_cases hreach : m.reachesPages a src = true
  · have hboth := hreach
    unfold reachesPages at hboth
    rw [Bool.and_eq_true, Bool.and_eq_true, Option.isNone_iff_eq_none,
      Option.isNone_iff_eq_none] at hboth
    obtain ⟨⟨hpass, hregion⟩, hallowed⟩ := hboth
    obtain ⟨k, hk⟩ := writePages_pageWrite (hasPermission · .dataWrite) m a hlen
    have hwritten := hk.written
    rw [write_eq_of_region hpass hregion hsrc, if_pos hallowed]
    unfold taken
    rw [if_pos hreach, ← Written.eq_prefix hwritten]
    refine ⟨hwritten.hit, fun x hx => ?_⟩
    rw [byteAt_eq, byteAt_eq]
    exact hwritten.frame _ fun i hi hloc => hx i hi (locOf_injective hloc)
  · have htaken : m.taken a src = 0 := if_neg hreach
    rw [Bool.not_eq_true] at hreach
    rw [htaken, write_of_not_reaches hsrc hreach]
    exact ⟨fun i hi => absurd hi (Nat.not_lt_zero i), fun _ _ => rfl⟩

end Memory

end Seven
