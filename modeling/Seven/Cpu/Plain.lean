import Seven.Cpu.Checked
import Seven.Cpu.Flags
import Seven.Lib.ByteQueue
import Seven.Memory.FetchView

/-!
# Words on plain memory

A word is stored as its little-endian bytes and read back truncated. On a
*plain* span, page memory that no hook, device or passthrough stands in front
of, the accesses are what they look like: a store is taken, lands there and
nowhere else, and a read returns the bytes.
-/

namespace Seven

open Seven.Lib

/-! ## Words and bytes -/

/-- The bytes of a value, as the queue of `Seven.Lib` writes them. -/
theorem toBytes_eq_toLE (value : U64) (n : Nat) : toBytes value n = toLE n value.toNat := by
  induction n generalizing value with
  | zero => rfl
  | succ n ih =>
    have hstep : toBytes value (n + 1) = value.setWidth 8 :: toBytes (value >>> 8) n := by
      unfold toBytes
      rw [List.range_succ_eq_map, List.map_cons, List.map_map]
      congr 1
      apply List.map_congr_left
      intro i _
      show (value >>> (8 * (i + 1))).setWidth 8 = ((value >>> 8) >>> (8 * i)).setWidth 8
      rw [← BitVec.shiftRight_add, Nat.mul_succ, Nat.add_comm]
    have hshift : (value >>> 8).toNat = value.toNat / 256 := by
      rw [BitVec.toNat_ushiftRight, Nat.shiftRight_eq_div_pow]
    rw [hstep, ih, hshift]
    rfl

/-- The value of bytes, as the queue reads them. -/
theorem fromBytes_eq_ofLE (bytes : List Byte) : fromBytes bytes = BitVec.ofNat 64 (ofLE bytes) := by
  induction bytes with
  | nil => rfl
  | cons b bytes ih =>
    show (fromBytes bytes <<< 8) ||| b.setWidth 64 = BitVec.ofNat 64 (b.toNat + 256 * ofLE bytes)
    have hb := b.isLt
    apply BitVec.eq_of_toNat_eq
    rw [ih, BitVec.toNat_or, BitVec.toNat_shiftLeft, BitVec.toNat_setWidth, BitVec.toNat_ofNat,
      BitVec.toNat_ofNat, Nat.mod_eq_of_lt (by omega : b.toNat < 2 ^ 64), Nat.shiftLeft_eq]
    have hlow : ofLE bytes % 2 ^ 64 * 2 ^ 8 % 2 ^ 64 = 2 ^ 8 * (ofLE bytes % 2 ^ 56) := by omega
    rw [hlow, ← Nat.two_pow_add_eq_or_of_lt hb]
    omega

/-- Writing a word and reading it back truncates it. -/
theorem fromBytes_toBytes_of_le (value : U64) {n : Nat} (hn : n ≤ 8) :
    fromBytes (toBytes value n) = truncate value n := by
  have hdvd : 2 ^ (8 * n) ≤ 2 ^ 64 := Nat.pow_le_pow_right (by decide) (by omega)
  have hlt : value.toNat % 2 ^ (8 * n) < 2 ^ (8 * n) := Nat.mod_lt _ (Nat.two_pow_pos _)
  rw [fromBytes_eq_ofLE, toBytes_eq_toLE, ofLE_toLE]
  apply BitVec.eq_of_toNat_eq
  rw [truncate_toNat value hn, BitVec.toNat_ofNat]
  have h256 : 256 ^ n = 2 ^ (8 * n) := by rw [Nat.pow_mul]
  rw [h256]
  exact Nat.mod_eq_of_lt (by omega)

/-- A value written and read back. -/
theorem fromBytes_toBytes (value : U64) {n : Nat} (hn : n ∈ [2, 4, 8]) :
    fromBytes (toBytes value n) = truncate value n := by
  simp only [List.mem_cons, List.not_mem_nil, or_false] at hn
  exact fromBytes_toBytes_of_le value (by omega)

/-- Which bytes a word that fits was read from. -/
theorem fromBytes_eq_iff {bytes : List Byte} {n : Nat} (hlen : bytes.length = n) (hn : n ≤ 8)
    (value : U64) :
    fromBytes bytes = value ↔ bytes = toBytes value n ∧ value.toNat < 2 ^ (8 * n) := by
  have h256 : 256 ^ n = 2 ^ (8 * n) := by rw [Nat.pow_mul]
  have hpow : 2 ^ (8 * n) ≤ 2 ^ 64 := Nat.pow_le_pow_right (by omega) (by omega)
  have hlt : ofLE bytes < 2 ^ (8 * n) := by
    rw [← h256, ← hlen]
    exact ofLE_lt bytes
  constructor
  · rintro rfl
    have hnat : (fromBytes bytes).toNat = ofLE bytes := by
      rw [fromBytes_eq_ofLE, BitVec.toNat_ofNat]
      exact Nat.mod_eq_of_lt (by omega)
    refine ⟨?_, by rw [hnat]; exact hlt⟩
    rw [toBytes_eq_toLE, hnat, ← hlen, toLE_ofLE]
  · rintro ⟨rfl, hfits⟩
    rw [fromBytes_toBytes_of_le value hn]
    apply BitVec.eq_of_toNat_eq
    rw [truncate_toNat value hn]
    exact Nat.mod_eq_of_lt hfits

/-- A value that fits is left by truncation. -/
theorem truncate_of_lt {value : U64} {n : Nat} (hn : n ≤ 8) (h : value.toNat < 2 ^ (8 * n)) :
    truncate value n = value := by
  apply BitVec.eq_of_toNat_eq
  rw [truncate_toNat _ hn]
  exact Nat.mod_eq_of_lt h

/-- The word read from a span is at most as wide as the span. -/
theorem truncate_fromBytes {bytes : List Byte} {n : Nat} (hlen : bytes.length = n) (hn : n ≤ 8) :
    truncate (fromBytes bytes) n = fromBytes bytes :=
  truncate_of_lt hn ((fromBytes_eq_iff hlen hn _).mp rfl).2

/-! ## Page-backed spans -/

namespace Memory

/-- No device and no passthrough serves the span: its bytes are those of the
pages. -/
structure PageBacked (m : Memory) (a : U64) (n : Nat) : Prop where
  noPassthrough : m.passthroughRead = none ∧ m.passthroughWrite = none
  noRegion : m.findMmioRegion a n = none

/-- A read that succeeds returns the bytes of the pages. -/
theorem PageBacked.read {m : Memory} {a : U64} {n : Nat} (h : m.PageBacked a n) (hn : 0 < n)
    {bytes : List Byte} (hread : m.read a n .dataRead = some bytes) :
    bytes.length = n ∧ ∀ i < n, byteAt m.pages (a + BitVec.ofNat 64 i) = bytes[i]? := by
  rw [read_eq h.noPassthrough.1 h.noRegion hn] at hread
  cases hcopy : copyFromPages (hasPermission · .dataRead) m.pages a n with
  | none =>
    rw [hcopy] at hread
    cases hread
  | some copied =>
    rw [hcopy] at hread
    dsimp only at hread
    split at hread
    · obtain rfl := Option.some.inj hread
      obtain ⟨hlen, hpeek⟩ := copyFromPages_eq_some_iff.mp hcopy
      refine ⟨hlen, fun i hi => ?_⟩
      rw [← hpeek i hi]
      -- What the copy read is a stored byte: at a refused one it would have read nothing.
      unfold peek
      split
      · rfl
      next hrefused =>
        have hnone := hpeek i hi
        unfold peek at hnone
        rw [if_neg hrefused, List.getElem?_eq_getElem (by omega)] at hnone
        cases hnone
    · cases hread

/-- A store that is taken lands in the pages and nowhere else. -/
theorem PageBacked.stored {m : Memory} {a value : U64} {width : Nat} (h : m.PageBacked a width)
    (hpos : 0 < width) (hle : width ≤ 8) (haccepts : m.accepts a value width = true) :
    (∀ i < width, byteAt (m.stored a value width).pages (a + BitVec.ofNat 64 i) =
        (toBytes value width)[i]?) ∧
      ∀ x, (∀ i < width, a + BitVec.ofNat 64 i ≠ x) →
        byteAt (m.stored a value width).pages x = byteAt m.pages x := by
  have hlen := toBytes_length value width
  have hne : toBytes value width ≠ [] := List.length_pos_iff.mp (by omega)
  have hwrite := write_eq_of_region h.noPassthrough.2 (by rw [hlen]; exact h.noRegion) hne .dataWrite
  unfold Memory.accepts at haccepts
  unfold Memory.stored
  rw [hwrite] at haccepts ⊢
  split at haccepts
  next hallowed =>
    rw [if_pos hallowed]
    obtain ⟨k, hw, hres⟩ := writePages_written (hasPermission · .dataWrite) m a
      (by omega : (toBytes value width).length ≤ 2 ^ 64)
    rw [hres, decide_eq_true_iff, hlen] at haccepts
    subst haccepts
    refine ⟨fun i hi => hw.hit i hi, fun x hx => ?_⟩
    rw [byteAt_eq, byteAt_eq]
    apply hw.frame
    intro i hi hloc
    exact hx i hi (locOf_injective hloc)
  next hrefused => cases haccepts

/-- The byte at every address after a store that is taken. -/
theorem PageBacked.stored_byte {m : Memory} {a value : U64} {width : Nat}
    (h : m.PageBacked a width) (hpos : 0 < width) (hle : width ≤ 8)
    (haccepts : m.accepts a value width = true) (x : U64) :
    byteAt (m.stored a value width).pages x =
      (toBytes value width)[(x - a).toNat]?.or (byteAt m.pages x) := by
  obtain ⟨hlanded, hkept⟩ := h.stored hpos hle haccepts
  have hx := add_sub_span a x
  by_cases hin : (x - a).toNat < width
  · have hsome := hlanded _ hin
    rw [hx] at hsome
    rw [hsome, List.getElem?_eq_getElem (by rw [toBytes_length]; exact hin)]
    rfl
  · rw [List.getElem?_eq_none (by rw [toBytes_length]; omega), hkept x]
    · rfl
    · rintro i hi rfl
      apply hin
      rw [BitVec.add_comm, BitVec.add_sub_cancel, BitVec.toNat_ofNat]
      omega

end Memory

/-! ## Plain spans -/

namespace Memory

/-- A span of writable page memory that no hook, device or passthrough stands
in front of. -/
structure PlainSpan (m : Memory) (a : U64) (n : Nat) : Prop where
  noPassthrough : m.passthroughRead = none ∧ m.passthroughWrite = none
  noRegion : m.findMmioRegion a n = none
  allowed : ∀ event : MemoryAccessEvent, event.address = a → event.size = n →
    m.accessAllowed event = true
  writable : ∀ i < n,
    accessible (hasPermission · .dataWrite) m.pages (a + BitVec.ofNat 64 i) = true

/-- A plain span lies in pages. -/
theorem PlainSpan.pageBacked {m : Memory} {a : U64} {n : Nat} (h : m.PlainSpan a n) :
    m.PageBacked a n := ⟨h.noPassthrough, h.noRegion⟩

/-- Plainness does not depend on the bytes. -/
theorem PlainSpan.sameAccess {m m' : Memory} {a : U64} {n : Nat} (h : m.PlainSpan a n)
    (hsame : SameAccess m m') : m'.PlainSpan a n := by
  refine ⟨?_, ?_, ?_, ?_⟩
  · rw [hsame.passthroughRead, hsame.passthroughWrite]
    exact h.noPassthrough
  · have hregion := h.noRegion
    unfold findMmioRegion at hregion ⊢
    rw [hsame.mmioRegions, hsame.mmioMinBase, hsame.mmioMaxEnd]
    exact hregion
  · intro event ha hn
    have hallowed := h.allowed event ha hn
    unfold accessAllowed at hallowed ⊢
    rw [hsame.accessHooks]
    exact hallowed
  · intro i hi
    rw [accessible_congr hsame.perms]
    exact h.writable i hi

/-- A store to a plain span is taken. -/
theorem PlainSpan.accepts {m : Memory} {a : U64} {width : Nat} (h : m.PlainSpan a width)
    (hpos : 0 < width) (hle : width ≤ 8) (value : U64) : m.accepts a value width = true := by
  have hlen := toBytes_length value width
  have hne : toBytes value width ≠ [] := List.length_pos_iff.mp (by omega)
  obtain ⟨k, hw, hres⟩ := writePages_written (hasPermission · .dataWrite) m a
    (by omega : (toBytes value width).length ≤ 2 ^ 64)
  -- nothing stops the store
  have hk : k = width := by
    have hkle := hw.le
    by_cases hlt : k < width
    · have hstop := hw.stop (by omega)
      rw [h.writable k hlt] at hstop
      cases hstop
    · omega
  unfold Memory.accepts
  rw [write_eq_of_region h.noPassthrough.2 (by rw [hlen]; exact h.noRegion) hne,
    if_pos (h.allowed _ rfl hlen), hres, hk, hlen]
  exact decide_eq_true rfl

/-- A store to a plain span is taken, lands there and nowhere else. -/
theorem PlainSpan.stored {m : Memory} {a : U64} {width : Nat} (h : m.PlainSpan a width)
    (hpos : 0 < width) (hle : width ≤ 8) (value : U64) :
    m.accepts a value width = true ∧
      (∀ i < width, byteAt (m.stored a value width).pages (a + BitVec.ofNat 64 i) =
        (toBytes value width)[i]?) ∧
      ∀ x, (∀ i < width, a + BitVec.ofNat 64 i ≠ x) →
        byteAt (m.stored a value width).pages x = byteAt m.pages x :=
  ⟨h.accepts hpos hle value, h.pageBacked.stored hpos hle (h.accepts hpos hle value)⟩

/-- The byte at every address after a store to a plain span. -/
theorem PlainSpan.stored_byte {m : Memory} {a : U64} {width : Nat} (h : m.PlainSpan a width)
    (hpos : 0 < width) (hle : width ≤ 8) (value x : U64) :
    byteAt (m.stored a value width).pages x =
      (toBytes value width)[(x - a).toNat]?.or (byteAt m.pages x) :=
  h.pageBacked.stored_byte hpos hle (h.accepts hpos hle value) x

/-- What may be written may be read. -/
theorem hasPermission_read_of_write {p : MemoryPermissionMask}
    (h : hasPermission p .dataWrite = true) : hasPermission p .dataRead = true := by
  unfold hasPermission at h ⊢
  dsimp only at h ⊢
  rw [h, Bool.or_true, Bool.true_or]

/-- A read of a plain span returns its bytes. -/
theorem PlainSpan.read {m : Memory} {a : U64} {n : Nat} (h : m.PlainSpan a n) (hn : 0 < n)
    {bytes : List Byte} (hlen : bytes.length = n)
    (hbytes : ∀ i < n, byteAt m.pages (a + BitVec.ofNat 64 i) = bytes[i]?) :
    m.read a n .dataRead = some bytes := by
  have hcopy : copyFromPages (hasPermission · .dataRead) m.pages a n = some bytes := by
    refine copyFromPages_eq_some_iff.mpr ⟨hlen, fun i hi => ?_⟩
    obtain ⟨e, he, hperm⟩ := accessible_iff.mp (h.writable i hi)
    have hread : accessible (hasPermission · .dataRead) m.pages (a + BitVec.ofNat 64 i) = true :=
      accessible_iff.mpr ⟨e, he, hasPermission_read_of_write hperm⟩
    unfold peek
    rw [if_pos hread]
    exact hbytes i hi
  rw [read_eq h.noPassthrough.1 h.noRegion hn, hcopy]
  exact if_pos (h.allowed _ rfl rfl)

/-- A read of a plain span succeeds. -/
theorem PlainSpan.read_bytes {m : Memory} {a : U64} {n : Nat} (h : m.PlainSpan a n) (hn : 0 < n) :
    ∃ bytes, m.read a n .dataRead = some bytes ∧ bytes.length = n ∧
      ∀ i < n, byteAt m.pages (a + BitVec.ofNat 64 i) = bytes[i]? := by
  have hbyte (i : Nat) (hi : i < n) : ∃ b, byteAt m.pages (a + BitVec.ofNat 64 i) = some b := by
    obtain ⟨e, he, _⟩ := accessible_iff.mp (h.writable i hi)
    unfold byteAt
    rw [he]
    exact ⟨_, rfl⟩
  let bytes := (List.range n).map fun i => (byteAt m.pages (a + BitVec.ofNat 64 i)).getD 0#8
  have hlen : bytes.length = n := by rw [List.length_map, List.length_range]
  have hbytes (i : Nat) (hi : i < n) : byteAt m.pages (a + BitVec.ofNat 64 i) = bytes[i]? := by
    obtain ⟨b, hb⟩ := hbyte i hi
    rw [List.getElem?_map, List.getElem?_range hi, hb, Option.map_some, hb, Option.getD_some]
  exact ⟨bytes, h.read hn hlen hbytes, hlen, hbytes⟩

/-! ## Other bytes -/

/-- A store changes the bytes of its span only, wherever it goes. -/
theorem stored_byte_ne (m : Memory) {a value x : U64} {width : Nat} (hle : width ≤ 8)
    (hx : ∀ i < width, a + BitVec.ofNat 64 i ≠ x) :
    byteAt (m.stored a value width).pages x = byteAt m.pages x := by
  have hlen := toBytes_length value width
  unfold Memory.stored
  rcases write_cases m a (by omega : (toBytes value width).length ≤ 2 ^ 64) .dataWrite with
    hsame | ⟨k, hpages⟩
  · rw [hsame]
  · rw [byteAt_eq, byteAt_eq]
    apply hpages.written.frame
    intro i hi hloc
    have hk := hpages.written.le
    exact hx i (by omega) (locOf_injective hloc)

/-- What a read of a plain span depends on. -/
theorem PlainSpan.read_congr {m m' : Memory} {a : U64} {n : Nat} (h : m.PlainSpan a n)
    (h' : m'.PlainSpan a n) (hn : 0 < n)
    (hbytes : ∀ i < n, byteAt m'.pages (a + BitVec.ofNat 64 i) =
      byteAt m.pages (a + BitVec.ofNat 64 i)) :
    m'.read a n .dataRead = m.read a n .dataRead := by
  obtain ⟨bytes, hread, hlen, hat⟩ := h.read_bytes hn
  rw [hread]
  exact h'.read hn hlen fun i hi => (hbytes i hi).trans (hat i hi)

/-- A memory without a page, and without devices. -/
def withoutPage (m : Memory) (page : Nat) : Memory :=
  { m with pages := m.pages.erase page, mmioRegions := [] }

/-- The entries when a page is gone. -/
theorem withoutPage_entryAt (m : Memory) {page : Nat} {x : U64} :
    entryAt (m.withoutPage page).pages x =
      if page = x.toNat / kPageSize then none else entryAt m.pages x :=
  getElem?_erase_page m.pages page _

/-- The bytes of the other pages. -/
theorem withoutPage_byteAt (m : Memory) {page : Nat} {x : U64} (h : page ≠ x.toNat / kPageSize) :
    byteAt (m.withoutPage page).pages x = byteAt m.pages x := by
  unfold byteAt
  rw [withoutPage_entryAt, if_neg h]

/-- A span away from the page stays plain. -/
theorem PlainSpan.withoutPage {m : Memory} {a : U64} {n page : Nat} (h : m.PlainSpan a n)
    (hpage : ∀ i < n, page ≠ (a + BitVec.ofNat 64 i).toNat / kPageSize) :
    (m.withoutPage page).PlainSpan a n := by
  refine ⟨h.noPassthrough, findMmioRegion_nil rfl a n, h.allowed, fun i hi => ?_⟩
  obtain ⟨e, he, hperm⟩ := accessible_iff.mp (h.writable i hi)
  refine accessible_iff.mpr ⟨e, ?_, hperm⟩
  rw [withoutPage_entryAt, if_neg (hpage i hi), he]

/-- The page's addresses cannot be read. -/
theorem withoutPage_read {m : Memory} (hpass : m.passthroughRead = none) {x : U64} {n : Nat}
    (hn : 0 < n) : (m.withoutPage (x.toNat / kPageSize)).read x n .dataRead = none := by
  have hregion : (m.withoutPage (x.toNat / kPageSize)).findMmioRegion x n = none :=
    findMmioRegion_nil rfl x n
  have hdirect : (m.withoutPage (x.toNat / kPageSize)).passthroughRead = none := hpass
  rw [read_eq hdirect hregion hn]
  cases hcopy : copyFromPages (hasPermission · .dataRead)
    (m.withoutPage (x.toNat / kPageSize)).pages x n with
  | none => rfl
  | some bytes =>
    obtain ⟨hlen, hpeek⟩ := copyFromPages_eq_some_iff.mp hcopy
    have hfirst := hpeek 0 hn
    unfold peek accessible at hfirst
    rw [BitVec.add_zero, withoutPage_entryAt, if_pos rfl, List.getElem?_eq_getElem (by omega)] at hfirst
    cases hfirst

end Memory

end Seven
