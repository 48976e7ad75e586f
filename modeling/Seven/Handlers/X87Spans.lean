import Seven.Handlers.X87Landing
import Seven.Memory.Agreement

/-!
# Checked spans and checked stores

`validate_memory_span` asks page by page whether a span is mapped and may be
written; it passes exactly when every byte is writable, and otherwise faults
with nothing changed (`validateWritable_ok`, `validateWritable_fault`). The
checked stores of an image all succeed in plain memory (`storeWordsChecked_ok`).
-/

namespace Seven

open Seven.Lib

/-! ## Areas -/

namespace Memory

/-- Is every byte of the span writable? -/
def WritableSpan (m : Memory) (base : U64) (n : Nat) : Prop :=
  ∀ i < n, accessible (hasPermission · .dataWrite) m.pages (base + BitVec.ofNat 64 i) = true

/-- A plain area can be written. -/
theorem PlainArea.writableSpan {m : Memory} {base : U64} {n : Nat} (h : m.PlainArea base n) :
    m.WritableSpan base n := by
  intro i hi
  have hbyte := (h i 1 (by omega) (by omega) (by omega)).writable 0 (by omega)
  rw [BitVec.add_zero] at hbyte
  exact hbyte

/-- The two tests are one. -/
theorem spanWritable_iff (m : Memory) (a : U64) (n : Nat) :
    (m.isMapped a n && spanWritable m a n) = true ↔ m.WritableSpan a n := by
  have hwrite : spanWritable m a n = true ↔ m.WritableSpan a n := by
    unfold spanWritable WritableSpan
    rw [hasPermissions_iff]
    refine forall₂_congr fun i _ => ?_
    have hok : (hasPermission · .dataWrite) = permits MemoryPermission.write :=
      funext fun p => (hasPermission_eq_permits p).1
    rw [hok]
  rw [Bool.and_eq_true, hwrite]
  refine ⟨fun h => h.2, fun h => ⟨(isMapped_iff m a n).mpr fun i hi => ?_, h⟩⟩
  obtain ⟨e, he, _⟩ := accessible_iff.mp (h i hi)
  exact accessible_iff.mpr ⟨e, he, rfl⟩

/-- Ordered lists joined. -/
theorem InOrder.append {n : Nat} {l l' : List (Nat × Nat)} (h : InOrder n l) (h' : InOrder n l')
    (hbetween : ∀ p ∈ l, ∀ q ∈ l', p.1 + p.2 ≤ q.1) : InOrder n (l ++ l') := by
  refine ⟨fun p hp => ?_, List.pairwise_append.mpr ⟨h.apart, h'.apart, hbetween⟩⟩
  rcases List.mem_append.mp hp with hp | hp
  · exact h.fits p hp
  · exact h'.fits p hp

/-- Single bytes, one after the other. -/
theorem inOrder_bytes {n start : Nat} :
    ∀ {k : Nat}, start + k ≤ n → InOrder n ((List.range k).map fun i => (start + i, 1)) := by
  intro k
  induction k with
  | zero => exact fun _ => ⟨fun p hp => absurd hp List.not_mem_nil, List.Pairwise.nil⟩
  | succ k ih =>
    intro hk
    rw [List.range_succ, List.map_append]
    refine (ih (by omega)).append ⟨?_, List.pairwise_singleton _ _⟩ ?_
    · intro p hp
      rw [List.map_singleton, List.mem_singleton] at hp
      subst hp
      exact ⟨Nat.one_pos, Nat.le_of_ble_eq_true rfl, by dsimp only; omega⟩
    · intro p hp q hq
      obtain ⟨i, hi, rfl⟩ := List.mem_map.mp hp
      rw [List.map_singleton, List.mem_singleton] at hq
      subst hq
      have := List.mem_range.mp hi
      dsimp only
      omega

/-- Stores in two parts. -/
theorem putAll_append (m : Memory) (base : U64) (stores stores' : List (Nat × U64 × Nat)) :
    m.putAll base (stores ++ stores') = (m.putAll base stores).putAll base stores' := by
  unfold putAll
  exact List.foldl_append

/-- Stores leave a plain area plain. -/
theorem PlainArea.putAll_area {base : U64} {n : Nat} :
    ∀ {stores : List (Nat × U64 × Nat)} {m : Memory}, m.PlainArea base n →
      (∀ p ∈ stores, p.2.2 ≤ 8) → (m.putAll base stores).PlainArea base n := by
  intro stores
  induction stores with
  | nil => exact fun h _ => h
  | cons p rest ih =>
    intro m h hle
    exact ih (h.stored p.1 p.2.1 (hle p List.mem_cons_self))
      fun q hq => hle q (List.mem_cons_of_mem _ hq)

end Memory

/-! ## Validation -/

section validation

variable {allowed : Memory → U64 → Nat → Bool} {ctx : ExecutionContext} {base : U64} {size : Nat}

/-- A span whose parts are all allowed passes. -/
theorem validateMemorySpan_ok
    (h : ∀ offset chunk, offset + chunk ≤ size →
      (ctx.memory.isMapped (base + BitVec.ofNat 64 offset) chunk &&
        allowed ctx.memory (base + BitVec.ofNat 64 offset) chunk) = true) :
    ∀ fuel offset, validateMemorySpan allowed base size fuel offset ctx = .ok () ctx := by
  intro fuel
  induction fuel with
  | zero => exact fun _ => rfl
  | succ fuel ih =>
    intro offset
    unfold validateMemorySpan
    by_cases hinside : offset < size
    · rw [if_pos hinside]
      dsimp only
      have hget : (get : HandlerM ExecutionContext) ctx = .ok ctx ctx := rfl
      rw [bind_ok hget]
      have hchunk := h offset (min (size - offset)
        (kPageSize - (base + BitVec.ofNat 64 offset).toNat % kPageSize)) (by omega)
      rw [Bool.and_eq_true] at hchunk
      rw [if_neg (by rw [hchunk.1, hchunk.2]; exact Bool.false_ne_true)]
      exact ih _
    · rw [if_neg hinside]
      rfl

/-- A span with a byte that is not writable faults, and nothing changes. The
loop is at `offset`, and what is behind it has passed. -/
theorem validateWritable_fault :
    ∀ fuel offset, size ≤ offset + fuel →
      (∃ i, offset ≤ i ∧ i < size ∧ accessible (hasPermission · .dataWrite) ctx.memory.pages
        (base + BitVec.ofNat 64 i) = false) →
      ∃ r, validateMemorySpan spanWritable base size fuel offset ctx = .error r ctx ∧
        PageFault r := by
  intro fuel
  induction fuel with
  | zero =>
    rintro offset hfuel ⟨i, hle, hlt, _⟩
    exact absurd hfuel (by omega)
  | succ fuel ih =>
    rintro offset hfuel ⟨i, hle, hlt, hrefused⟩
    have hget : (get : HandlerM ExecutionContext) ctx = .ok ctx ctx := rfl
    unfold validateMemorySpan
    rw [if_pos (by omega)]
    dsimp only
    rw [bind_ok hget]
    have hroom : (base + BitVec.ofNat 64 offset).toNat % kPageSize < kPageSize :=
      Nat.mod_lt _ (by decide)
    generalize hchunk : min (size - offset)
      (kPageSize - (base + BitVec.ofNat 64 offset).toNat % kPageSize) = chunk
    by_cases hpass : (ctx.memory.isMapped (base + BitVec.ofNat 64 offset) chunk &&
        spanWritable ctx.memory (base + BitVec.ofNat 64 offset) chunk) = true
    · -- the byte is not in this chunk
      have hspan := (Memory.spanWritable_iff _ _ _).mp hpass
      have hlater : offset + chunk ≤ i := by
        by_contra hin
        have hbyte := hspan (i - offset) (by omega)
        rw [BitVec.add_assoc, ← BitVec.ofNat_add, Nat.add_sub_cancel' hle, hrefused] at hbyte
        cases hbyte
      rw [Bool.and_eq_true] at hpass
      rw [if_neg (by rw [hpass.1, hpass.2]; exact Bool.false_ne_true)]
      exact ih (offset + chunk) (by omega) ⟨i, hlater, hlt, hrefused⟩
    · rw [Bool.and_eq_true, not_and_or, Bool.not_eq_true, Bool.not_eq_true] at hpass
      have hrefuse : (!ctx.memory.isMapped (base + BitVec.ofNat 64 offset) chunk ||
          !spanWritable ctx.memory (base + BitVec.ofNat 64 offset) chunk) = true := by
        rcases hpass with h | h
        · rw [h]
          rfl
        · rw [h, Bool.not_false, Bool.or_true]
      rw [if_pos hrefuse]
      exact ⟨_, rfl, rfl⟩

/-- A span that can be written passes. -/
theorem validateWritable_ok (h : ctx.memory.WritableSpan base size) (fuel offset : Nat) :
    validateMemorySpan spanWritable base size fuel offset ctx = .ok () ctx := by
  refine validateMemorySpan_ok (fun o chunk hfits => ?_) fuel offset
  refine (Memory.spanWritable_iff _ _ _).mpr fun i hi => ?_
  rw [BitVec.add_assoc, ← BitVec.ofNat_add]
  exact h (o + i) (by omega)

end validation

/-! ## Checked stores -/

/-- In plain memory all the stores are made. -/
theorem storeWordsChecked_ok {base : U64} {n : Nat} :
    ∀ {stores : List (Nat × U64 × Nat)} {ctx : ExecutionContext},
      ctx.memory.PlainArea base n → (∀ p ∈ stores, 0 < p.2.2 ∧ p.2.2 ≤ 8 ∧ p.1 + p.2.2 ≤ n) →
      storeWordsChecked base stores ctx =
        .ok () { ctx with memory := ctx.memory.putAll base stores } := by
  intro stores
  induction stores with
  | nil => exact fun _ _ => rfl
  | cons p rest ih =>
    intro ctx hplain hfits
    obtain ⟨offset, value, width⟩ := p
    obtain ⟨hpos, hle, hend⟩ := hfits _ List.mem_cons_self
    have hstored := (hplain offset width hpos hle hend).stored hpos hle value
    unfold storeWordsChecked
    rw [bind_ok (writeMemoryChecked_ok hstored.1)]
    exact ih (hplain.stored offset value hle) fun q hq => hfits q (List.mem_cons_of_mem _ hq)

end Seven
