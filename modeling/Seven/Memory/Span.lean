import Seven.Memory.Basic

/-!
# Reads and writes, byte by byte

The page loops of `read` and `write` work in chunks; a caller thinks in
bytes. This file closes the gap once: a copy out of the pages returns `n`
bytes exactly when every one of the `n` addresses is accessible, and they
are the bytes at those addresses (`copyFromPages_eq_some_iff`); a copy into
the pages writes the accessible prefix of the span and stops
(`copyToPages_written`).

`Written` is that second fact in full: the prefix length `k`, the bytes at
the first `k` addresses, and the frame — every other byte of every page and
every permission are as before. It is what the all-or-nothing question, the
code epoch and the restartability of handlers are answered from.
-/

namespace Seven

open Seven.Lib

/-! ## Locations -/

/-- A byte of the page table: a page index and an offset in the page. -/
abbrev Loc := Nat × Fin kPageSize

/-- Where an address lives. -/
def locOf (a : U64) : Loc := (a.toNat / kPageSize, Fin.ofNat kPageSize a.toNat)

/-- The byte at a location, if its page is mapped. -/
def pageByte (pages : PageMap) (l : Loc) : Option Byte := (pages[l.1]?).map fun e => e.data l.2

/-- A byte by its page and offset. -/
theorem byteAt_eq (pages : PageMap) (a : U64) : byteAt pages a = pageByte pages (locOf a) := rfl

/-- An address is its page and offset. -/
theorem locOf_injective {a b : U64} (h : locOf a = locOf b) : a = b := by
  obtain ⟨hpage, hoff⟩ := Prod.mk.injEq .. ▸ h
  have hoff' : a.toNat % kPageSize = b.toNat % kPageSize := congrArg Fin.val hoff
  apply BitVec.eq_of_toNat_eq
  rw [← Nat.div_add_mod a.toNat kPageSize, ← Nat.div_add_mod b.toNat kPageSize, hpage, hoff']

/-- Addresses of one span are distinct. -/
theorem succ_span_ne {a : U64} {i : Nat} (hi : i < 2 ^ 64 - 1) :
    a + 1#64 + BitVec.ofNat 64 i ≠ a := by
  intro h
  have := congrArg BitVec.toNat h
  simp only [BitVec.toNat_add, BitVec.toNat_ofNat] at this
  omega

/-- The next byte's offset, counted from the next address. -/
theorem add_succ_span (a : U64) (i : Nat) :
    a + 1#64 + BitVec.ofNat 64 i = a + BitVec.ofNat 64 (i + 1) := by
  rw [BitVec.add_assoc, BitVec.ofNat_add_ofNat, Nat.add_comm 1 i]

/-- The first byte of a span. -/
theorem add_zero_span (a : U64) : a + BitVec.ofNat 64 0 = a := BitVec.add_zero a

/-- Every address is one at some distance. -/
theorem add_sub_span (a x : U64) : a + BitVec.ofNat 64 (x - a).toNat = x := by
  rw [BitVec.ofNat_toNat, BitVec.setWidth_eq, BitVec.add_comm, BitVec.sub_add_cancel]

/-- An address is the span's `n`-th byte when its distance is `n`. -/
theorem eq_add_span_iff {a x : U64} {n : Nat} (hn : n < 2 ^ 64) :
    x = a + BitVec.ofNat 64 n ↔ (x - a).toNat = n := by
  constructor
  · rintro rfl
    rw [BitVec.add_comm, BitVec.add_sub_cancel, BitVec.toNat_ofNat, Nat.mod_eq_of_lt hn]
  · intro h
    rw [← h, add_sub_span]

/-! ## Access rights -/

/-- Does the page of `a` exist and pass the permission test? -/
def accessible (ok : MemoryPermissionMask → Bool) (pages : PageMap) (a : U64) : Bool :=
  match entryAt pages a with
  | none => false
  | some e => ok e.permissions

/-- The byte at `a`, when it is accessible. -/
def peek (ok : MemoryPermissionMask → Bool) (pages : PageMap) (a : U64) : Option Byte :=
  if accessible ok pages a then byteAt pages a else none

/-- A byte is accessible when its page is there and allows it. -/
theorem accessible_iff {ok : MemoryPermissionMask → Bool} {pages : PageMap} {a : U64} :
    accessible ok pages a = true ↔ ∃ e, entryAt pages a = some e ∧ ok e.permissions = true := by
  unfold accessible
  split
  next h => simp [h]
  next e h => simp [h]

/-- Accessibility is a matter of permissions only. -/
theorem accessible_congr {ok : MemoryPermissionMask → Bool} {pages pages' : PageMap}
    (h : ∀ page : Nat, (pages'[page]?).map PageEntry.permissions =
      (pages[page]?).map PageEntry.permissions) (a : U64) :
    accessible ok pages' a = accessible ok pages a := by
  have ha := h (a.toNat / kPageSize)
  unfold accessible entryAt
  cases h' : pages'[a.toNat / kPageSize]? with
  | none =>
    rw [h'] at ha
    cases h0 : pages[a.toNat / kPageSize]? with
    | none => rfl
    | some e =>
      rw [h0] at ha
      cases ha
  | some e' =>
    rw [h'] at ha
    cases h0 : pages[a.toNat / kPageSize]? with
    | none =>
      rw [h0] at ha
      cases ha
    | some e =>
      rw [h0] at ha
      exact congrArg ok (Option.some.inj ha)

/-- What is peeked at. -/
theorem peek_eq_some_iff {ok : MemoryPermissionMask → Bool} {pages : PageMap} {a : U64} {b : Byte} :
    peek ok pages a = some b ↔ accessible ok pages a = true ∧ byteAt pages a = some b := by
  unfold peek
  split
  next h => simp [h]
  next h => simp [h]

/-- Something is peeked at when the byte is accessible. -/
theorem peek_isSome {ok : MemoryPermissionMask → Bool} {pages : PageMap} {a : U64} :
    (peek ok pages a).isSome = accessible ok pages a := by
  unfold peek
  cases h : accessible ok pages a with
  | false => rfl
  | true =>
    obtain ⟨e, he, _⟩ := accessible_iff.mp h
    rw [if_pos rfl, byteAt, he]
    rfl

/-! ## Copying out -/

/-- One byte of a copy out of the pages. -/
def readByte (ok : MemoryPermissionMask → Bool) (pages : PageMap) (a : U64) (out : List Byte) :
    List Byte × Bool :=
  match peek ok pages a with
  | none => (out, false)
  | some b => (out ++ [b], true)

/-- The offset of an address in its page, as the page stores it. -/
theorem ofNat_offset (a : U64) :
    Fin.ofNat kPageSize (a.toNat % kPageSize) = Fin.ofNat kPageSize a.toNat := by
  apply Fin.ext
  exact Nat.mod_mod _ _

/-- A chunk of a read is its bytes. -/
theorem readChunk_splits (ok : MemoryPermissionMask → Bool) (pages : PageMap) :
    Splits kPageSize (Memory.readChunk ok pages) (readByte ok pages) where
  one := by
    intro a out
    unfold Memory.readChunk readByte peek accessible byteAt entryAt
    cases pages[a.toNat / kPageSize]? with
    | none => rfl
    | some e =>
      cases hok : ok e.permissions with
      | false => simp [hok]
      | true =>
        have hload : e.load (a.toNat % kPageSize) 1 = [e.data (Fin.ofNat kPageSize a.toNat)] := by
          rw [← ofNat_offset a]
          rfl
        simp only [hok, if_true, Option.map_some, hload]
  cons := by
    intro page off k out _ _
    unfold Memory.readChunk
    cases pages[page]? with
    | none => rfl
    | some e =>
      cases hok : ok e.permissions with
      | false => simp [hok]
      | true => simp only [hok, if_true, andThen_true, e.load_succ off k, List.append_assoc]

/-- The bytes of a byte walk that succeeds. -/
theorem walkBytes_readByte_iff {ok : MemoryPermissionMask → Bool} {pages : PageMap} (n : Nat) :
    ∀ (a : U64) (out out' : List Byte),
      walkBytes (readByte ok pages) n a out = (out', true) ↔
        ∃ bs : List Byte, out' = out ++ bs ∧ bs.length = n ∧
          ∀ i < n, peek ok pages (a + BitVec.ofNat 64 i) = bs[i]? := by
  induction n with
  | zero =>
    intro a out out'
    constructor
    · intro h
      cases h
      exact ⟨[], by simp, rfl, by omega⟩
    · rintro ⟨bs, rfl, hlen, _⟩
      rw [List.length_eq_zero_iff.mp hlen, List.append_nil]
      rfl
  | succ n ih =>
    intro a out out'
    unfold walkBytes
    cases hp : peek ok pages a with
    | none =>
      -- the walk ends here, and no list of `n + 1` bytes can start with this one
      have hstep : readByte ok pages a out = (out, false) := by rw [readByte, hp]
      rw [hstep, andThen_false]
      refine ⟨fun h => absurd h (by simp), ?_⟩
      rintro ⟨bs, _, hlen, hbs⟩
      have h0 := hbs 0 (by omega)
      rw [add_zero_span, hp, List.getElem?_eq_getElem (by omega)] at h0
      cases h0
    | some b =>
      have hstep : readByte ok pages a out = (out ++ [b], true) := by rw [readByte, hp]
      rw [hstep, andThen_true, ih]
      constructor
      · rintro ⟨bs, rfl, hlen, hbs⟩
        refine ⟨b :: bs, by simp, by simp [hlen], ?_⟩
        intro i hi
        cases i with
        | zero => simpa using hp
        | succ i =>
          rw [← add_succ_span, hbs i (by omega), List.getElem?_cons_succ]
      · rintro ⟨bs, rfl, hlen, hbs⟩
        cases bs with
        | nil => simp at hlen
        | cons b' bs =>
          have h0 := hbs 0 (by omega)
          rw [add_zero_span, hp] at h0
          refine ⟨bs, by simpa using (Option.some.inj h0).symm, by simpa using hlen, ?_⟩
          intro i hi
          rw [add_succ_span, hbs (i + 1) (by omega), List.getElem?_cons_succ]

/-- **What a copy out of the pages returns**: `n` bytes, each the byte at
its address, all accessible. -/
theorem copyFromPages_eq_some_iff {ok : MemoryPermissionMask → Bool} {pages : PageMap} {a : U64}
    {n : Nat} {bs : List Byte} :
    Memory.copyFromPages ok pages a n = some bs ↔
      bs.length = n ∧ ∀ i < n, peek ok pages (a + BitVec.ofNat 64 i) = bs[i]? := by
  unfold Memory.copyFromPages
  rw [walk_eq_walkBytes (readChunk_splits ok pages) kPageSize_pos kPageSize_dvd _ _ _ _
    (Nat.le_refl n)]
  have hiff := @walkBytes_readByte_iff ok pages n a [] bs
  simp only [List.nil_append, exists_eq_left'] at hiff
  rw [← hiff]
  split
  next out h => rw [h, Prod.mk.injEq, Option.some.injEq, and_iff_left rfl]
  next out h => simp [h]

/-- A copy out of the pages fails only at an inaccessible byte. -/
theorem copyFromPages_isSome_iff {ok : MemoryPermissionMask → Bool} {pages : PageMap} {a : U64}
    {n : Nat} :
    (Memory.copyFromPages ok pages a n).isSome ↔
      ∀ i < n, accessible ok pages (a + BitVec.ofNat 64 i) = true := by
  constructor
  · intro h i hi
    obtain ⟨bs, hbs⟩ := Option.isSome_iff_exists.mp h
    obtain ⟨hlen, hpeek⟩ := copyFromPages_eq_some_iff.mp hbs
    rw [← peek_isSome, hpeek i hi, List.getElem?_eq_getElem (by omega)]
    rfl
  · intro h
    rw [Option.isSome_iff_exists]
    refine ⟨(List.range n).map fun i => (peek ok pages (a + BitVec.ofNat 64 i)).getD 0#8, ?_⟩
    refine copyFromPages_eq_some_iff.mpr ⟨by simp, ?_⟩
    intro i hi
    obtain ⟨b, hb⟩ := Option.isSome_iff_exists.mp (peek_isSome.trans (h i hi))
    simp [hi, hb]

/-! ## Copying in -/

/-- One byte of a copy into the pages. -/
def writeByte (ok : MemoryPermissionMask → Bool) (a : U64) (c : Memory.WriteCursor) :
    Memory.WriteCursor × Bool :=
  match entryAt c.pages a with
  | none => (c, false)
  | some e =>
    if ok e.permissions then
      ({ pages := c.pages.insert (a.toNat / kPageSize)
            (e.store (a.toNat % kPageSize) (c.src.take 1))
         src := c.src.drop 1
         codeChanged := c.codeChanged || executable e.permissions }, true)
    else (c, false)

/-- The last entry put in stands. -/
theorem insert_insert_page (pages : PageMap) (page : Nat) (e e' : PageEntry) :
    (pages.insert page e).insert page e' = pages.insert page e' := by
  apply Std.ExtTreeMap.ext_getElem?
  intro k
  simp only [getElem?_insert_page]
  split <;> rfl

/-- A store of nothing, or of a list cut after its first byte. -/
theorem store_take_succ (e : PageEntry) (off k : Nat) (src : List Byte) :
    e.store off (src.take (k + 1)) =
      (e.store off (src.take 1)).store (off + 1) ((src.drop 1).take k) := by
  cases src with
  | nil =>
    simp only [List.take_nil, List.drop_nil, PageEntry.store]
    simp
  | cons b bs => exact e.store_cons off b (bs.take k)

/-- A chunk of a write is its bytes. -/
theorem writeChunk_splits (ok : MemoryPermissionMask → Bool) :
    Splits kPageSize (Memory.writeChunk ok) (writeByte ok) where
  one := fun _ _ => rfl
  cons := by
    intro page off k c _ _
    unfold Memory.writeChunk
    cases c.pages[page]? with
    | none => rfl
    | some e =>
      cases hok : ok e.permissions with
      | false => simp [hok]
      | true =>
        simp only [hok, if_true, andThen_true, getElem?_insert_page,
          PageEntry.store_permissions, insert_insert_page, store_take_succ e off k c.src,
          List.drop_drop, Bool.or_assoc, Bool.or_self, Nat.add_comm 1 k]

/-- The effect of a copy of `src` to `a` that wrote its first `k` bytes. -/
structure Written (ok : MemoryPermissionMask → Bool) (a : U64) (src : List Byte) (k : Nat)
    (pages pages' : PageMap) : Prop where
  le : k ≤ src.length
  /-- the bytes written were accessible … -/
  pre : ∀ i < k, accessible ok pages (a + BitVec.ofNat 64 i) = true
  /-- … and the copy stopped only at one that was not -/
  stop : k < src.length → accessible ok pages (a + BitVec.ofNat 64 k) = false
  perms : ∀ page : Nat, (pages'[page]?).map PageEntry.permissions =
    (pages[page]?).map PageEntry.permissions
  hit : ∀ i < k, byteAt pages' (a + BitVec.ofNat 64 i) = src[i]?
  frame : ∀ l, (∀ i < k, locOf (a + BitVec.ofNat 64 i) ≠ l) →
    pageByte pages' l = pageByte pages l

/-- One byte written to an accessible address. -/
theorem writeByte_step {ok : MemoryPermissionMask → Bool} {a : U64} {c : Memory.WriteCursor}
    {b : Byte} {bs : List Byte} (hsrc : c.src = b :: bs)
    (hacc : accessible ok c.pages a = true) :
    ∃ c', writeByte ok a c = (c', true) ∧ c'.src = bs ∧
      c'.codeChanged = (c.codeChanged || accessible executable c.pages a) ∧
      (∀ page : Nat, (c'.pages[page]?).map PageEntry.permissions =
        (c.pages[page]?).map PageEntry.permissions) ∧
      byteAt c'.pages a = some b ∧
      ∀ l, locOf a ≠ l → pageByte c'.pages l = pageByte c.pages l := by
  obtain ⟨e, he, hok⟩ := accessible_iff.mp hacc
  have hpage : c.pages[a.toNat / kPageSize]? = some e := he
  refine ⟨_, by rw [writeByte, he]; exact if_pos hok, by rw [hsrc]; rfl, ?_, ?_, ?_, ?_⟩
  · simp only [accessible, he]
  · intro page
    simp only [getElem?_insert_page]
    split
    next h => rw [← h, hpage]; rfl
    next => rfl
  · simp only [byteAt, entryAt, getElem?_insert_page, if_true, hsrc, List.take_succ_cons,
      List.take_zero, Option.map_some, PageEntry.store]
    simp [Fin.ofNat]
  · intro l hl
    -- another byte of the same page, or another page
    simp only [pageByte, getElem?_insert_page]
    split
    next h =>
      have hoff : l.2.val ≠ a.toNat % kPageSize := by
        intro ho
        exact hl (Prod.ext h (Fin.ext ho.symm))
      rw [← h, hpage]
      simp only [Option.map_some, PageEntry.store, hsrc, List.take_succ_cons, List.take_zero]
      congr 1
      split
      next hle =>
        rw [List.getElem?_eq_none (by simp only [List.length_singleton]; omega)]
        rfl
      next => rfl
    next => rfl

/-- A byte that may not be written stops the walk. -/
theorem writeByte_stop {ok : MemoryPermissionMask → Bool} {a : U64} {c : Memory.WriteCursor}
    (hacc : accessible ok c.pages a = false) : writeByte ok a c = (c, false) := by
  unfold accessible at hacc
  unfold writeByte
  cases he : entryAt c.pages a with
  | none => rfl
  | some e =>
    rw [he] at hacc
    simp only at hacc
    simp [hacc]

/-- Nothing is written in front of an inaccessible byte. -/
theorem Written.zero {ok : MemoryPermissionMask → Bool} {a : U64} {src : List Byte}
    {pages : PageMap} (hstop : 0 < src.length → accessible ok pages a = false) :
    Written ok a src 0 pages pages where
  le := Nat.zero_le _
  pre := fun i hi => absurd hi (Nat.not_lt_zero i)
  stop := by
    rw [add_zero_span]
    exact hstop
  perms := fun _ => rfl
  hit := fun i hi => absurd hi (Nat.not_lt_zero i)
  frame := fun _ _ => rfl

/-- One byte written, then `k` behind it. -/
theorem Written.cons {ok : MemoryPermissionMask → Bool} {a : U64} {b : Byte} {bs : List Byte}
    {k : Nat} {pages pages' pages'' : PageMap} (hlen : bs.length < 2 ^ 64)
    (hacc : accessible ok pages a = true)
    (hperms : ∀ page : Nat, (pages'[page]?).map PageEntry.permissions =
      (pages[page]?).map PageEntry.permissions)
    (hbyte : byteAt pages' a = some b)
    (hframe : ∀ l, locOf a ≠ l → pageByte pages' l = pageByte pages l)
    (h : Written ok (a + 1#64) bs k pages' pages'') :
    Written ok a (b :: bs) (k + 1) pages pages'' := by
  have hk := h.le
  -- The bytes of the rest do not come round to the first one.
  have hfresh : ∀ i < k, locOf (a + 1#64 + BitVec.ofNat 64 i) ≠ locOf a :=
    fun i hi heq => succ_span_ne (by omega) (locOf_injective heq)
  refine ⟨by simpa using hk, ?_, ?_, ?_, ?_, ?_⟩
  · intro i hi
    cases i with
    | zero => simpa using hacc
    | succ i =>
      rw [← add_succ_span, ← accessible_congr hperms]
      exact h.pre i (by omega)
  · intro hlt
    rw [← add_succ_span, ← accessible_congr hperms]
    exact h.stop (by simpa using hlt)
  · exact fun page => (h.perms page).trans (hperms page)
  · intro i hi
    cases i with
    | zero =>
      rw [add_zero_span, byteAt_eq, h.frame _ hfresh, ← byteAt_eq, hbyte]
      rfl
    | succ i =>
      rw [← add_succ_span a i, h.hit i (by omega), List.getElem?_cons_succ]
  · intro l hl
    rw [h.frame l fun i hi => add_succ_span a i ▸ hl (i + 1) (by omega)]
    exact hframe l (add_zero_span a ▸ hl 0 (by omega))

/-- The byte walk of a write, from any cursor. -/
theorem walkBytes_writeByte {ok : MemoryPermissionMask → Bool} :
    ∀ (src : List Byte) (a : U64) (c : Memory.WriteCursor), c.src = src →
      src.length ≤ 2 ^ 64 →
      ∃ k, Written ok a src k c.pages (walkBytes (writeByte ok) src.length a c).1.pages ∧
        (walkBytes (writeByte ok) src.length a c).2 = decide (k = src.length) ∧
        (walkBytes (writeByte ok) src.length a c).1.codeChanged =
          (c.codeChanged || (List.range k).any fun i =>
            accessible executable c.pages (a + BitVec.ofNat 64 i)) := by
  intro src
  induction src with
  | nil =>
    intro a c _ _
    exact ⟨0, .zero fun h => absurd h (Nat.lt_irrefl 0), by simp [walkBytes], by simp [walkBytes]⟩
  | cons b bs ih =>
    intro a c hsrc hlen
    rw [List.length_cons] at hlen
    cases hacc : accessible ok c.pages a with
    | false =>
      -- nothing is written and the walk stops here
      have hwalk : walkBytes (writeByte ok) (b :: bs).length a c = (c, false) := by
        rw [List.length_cons, walkBytes, writeByte_stop hacc, andThen_false]
      rw [hwalk]
      exact ⟨0, .zero fun _ => hacc, by simp, by simp⟩
    | true =>
      obtain ⟨c', hstep, hsrc', hcode, hperms, hbyte, hframe⟩ := writeByte_step hsrc hacc
      obtain ⟨k, hw, hres, hcc⟩ := ih (a + 1#64) c' hsrc' (by omega)
      have hwalk : walkBytes (writeByte ok) (b :: bs).length a c =
          walkBytes (writeByte ok) bs.length (a + 1#64) c' := by
        rw [List.length_cons, walkBytes, hstep, andThen_true]
      rw [hwalk]
      refine ⟨k + 1, hw.cons (by omega) hacc hperms hbyte hframe, ?_, ?_⟩
      · rw [hres]
        simp
      · rw [hcc, hcode, List.range_succ_eq_map, List.any_cons, List.any_map, Bool.or_assoc]
        simp only [Function.comp_def, add_zero_span, add_succ_span, accessible_congr hperms,
          Nat.succ_eq_add_one]

/-- **What a copy into the pages does**: it writes the accessible prefix of
the span, succeeds when that is all of it, and notices an executable page
among the pages it wrote. -/
theorem copyToPages_written {ok : MemoryPermissionMask → Bool} (pages : PageMap) (a : U64)
    {src : List Byte} (hlen : src.length ≤ 2 ^ 64) :
    ∃ k, Written ok a src k pages (Memory.copyToPages ok pages a src).1.pages ∧
      (Memory.copyToPages ok pages a src).2 = decide (k = src.length) ∧
      (Memory.copyToPages ok pages a src).1.codeChanged =
        (List.range k).any fun i => accessible executable pages (a + BitVec.ofNat 64 i) := by
  have h := @walkBytes_writeByte ok src a ⟨pages, src, false⟩ rfl hlen
  unfold Memory.copyToPages
  rw [walk_eq_walkBytes (writeChunk_splits ok) kPageSize_pos kPageSize_dvd _ _ _ _
    (Nat.le_refl _)]
  simpa using h

end Seven
