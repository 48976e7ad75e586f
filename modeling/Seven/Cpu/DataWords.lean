import Seven.Cpu.Plain
import Seven.Memory.FetchView

/-!
# Words of guest data

Guest code keeps its data in words on plain pages that are not executable.
`word` is the word at an address as the pages hold it; a load returns it
(`DataWord.load`) and a store changes it and no word apart from it
(`DataWord.store`). Such a store is invisible to instruction fetch: the view
and the code epoch stay as they are (`CodeKept`).
-/

namespace Seven

open Seven.Lib

namespace Memory

/-! ## Code that stays -/

/-- The two memories serve the same instruction fetches, and permit the same
accesses. -/
structure CodeKept (m m' : Memory) : Prop where
  access : SameAccess m m'
  epoch : m'.codeEpoch = m.codeEpoch
  view : m'.fetchView = m.fetchView

/-- Nothing changed. -/
theorem CodeKept.refl (m : Memory) : CodeKept m m := ⟨SameAccess.refl m, rfl, rfl⟩

/-- Changes of data compose. -/
theorem CodeKept.trans {a b c : Memory} (h : CodeKept a b) (h' : CodeKept b c) : CodeKept a c :=
  ⟨h.access.trans h'.access, h'.epoch.trans h.epoch, h'.view.trans h.view⟩

/-- The fetched bytes are those from before. -/
theorem CodeKept.before {m m' : Memory} (h : CodeKept m m') : CodeBefore m m' :=
  Or.inr ⟨h.epoch.symm, h.view.symm⟩

/-- A write that meets no executable byte keeps the code. -/
theorem writePages_codeKept {ok : MemoryPermissionMask → Bool} {m : Memory} {a : U64}
    {src : List Byte} (hlen : src.length ≤ 2 ^ 64)
    (hcode : ∀ i < src.length, accessible executable m.pages (a + BitVec.ofNat 64 i) = false) :
    CodeKept m (writePages ok m a src).1 := by
  obtain ⟨k, hpage⟩ := writePages_pageWrite ok m a hlen
  refine ⟨hpage.sameAccess, ?_, ?_⟩
  · obtain ⟨k', hw, -, hchanged⟩ := @copyToPages_written ok m.pages a src hlen
    -- The epoch is bumped only where a byte written is executable, and none is.
    have hnone : (copyToPages ok m.pages a src).1.codeChanged = false := by
      rw [hchanged, List.any_eq_false]
      intro i hi
      rw [hcode i (Nat.lt_of_lt_of_le (List.mem_range.mp hi) hw.le)]
      exact Bool.false_ne_true
    unfold writePages
    split
    next c hc => rfl
    next c hc =>
      rw [hc] at hnone
      unfold bumpCodeEpochIf
      dsimp only at hnone
      rw [hnone]
      rfl
  · refine (Written.fetchView_eq hpage.written fun i hi hexec => ?_).symm
    rw [hcode i (Nat.lt_of_lt_of_le hi hpage.written.le)] at hexec
    cases hexec

/-! ## Words -/

/-- A plain word that is not code. -/
structure DataWord (m : Memory) (a : U64) : Prop where
  plain : m.PlainSpan a 8
  noCode : ∀ i < 8, accessible executable m.pages (a + BitVec.ofNat 64 i) = false

/-- The bytes of the word at an address. -/
def wordBytes (m : Memory) (a : U64) : List Byte :=
  (List.range 8).map fun i => (byteAt m.pages (a + BitVec.ofNat 64 i)).getD 0#8

/-- The word at an address, as the pages hold it. -/
def word (m : Memory) (a : U64) : U64 := fromBytes (m.wordBytes a)

/-- Two words that share no byte. -/
def WordsApart (a b : U64) : Prop := 8 ≤ (a - b).toNat ∧ 8 ≤ (b - a).toNat

/-- Apart is symmetric. -/
theorem WordsApart.symm {a b : U64} (h : WordsApart a b) : WordsApart b a := ⟨h.2, h.1⟩

/-- Words apart have no byte in common. -/
theorem WordsApart.bytes {a b : U64} (h : WordsApart a b) {i j : Nat} (hi : i < 8) (hj : j < 8) :
    a + BitVec.ofNat 64 i ≠ b + BitVec.ofNat 64 j := by
  obtain ⟨hab, hba⟩ := h
  intro heq
  have hnat := congrArg BitVec.toNat heq
  have ha := a.isLt
  have hb := b.isLt
  simp only [BitVec.toNat_sub, BitVec.toNat_add, BitVec.toNat_ofNat] at hnat hab hba
  omega

variable {m m' : Memory} {a b : U64}

/-- The bytes of a word depend on these bytes only. -/
theorem wordBytes_congr
    (h : ∀ i < 8, byteAt m'.pages (a + BitVec.ofNat 64 i) = byteAt m.pages (a + BitVec.ofNat 64 i)) :
    m'.wordBytes a = m.wordBytes a := by
  unfold wordBytes
  refine List.map_congr_left fun i hi => ?_
  rw [h i (List.mem_range.mp hi)]

/-- Eight bytes given one by one. -/
theorem wordBytes_eq {bytes : List Byte} (hlen : bytes.length = 8)
    (h : ∀ i < 8, byteAt m.pages (a + BitVec.ofNat 64 i) = bytes[i]?) : m.wordBytes a = bytes := by
  apply List.ext_getElem?
  intro i
  unfold wordBytes
  rcases Nat.lt_or_ge i 8 with hi | hi
  · rw [List.getElem?_map, List.getElem?_range hi, Option.map_some, h i hi,
      List.getElem?_eq_getElem (by omega), Option.getD_some]
  · rw [List.getElem?_eq_none (by simp; omega), List.getElem?_eq_none (by omega)]

namespace DataWord

/-- A word in memory without hooks and regions. -/
theorem of_pages (hpassthrough : m.passthroughRead = none ∧ m.passthroughWrite = none)
    (hregions : m.mmioRegions = []) (hhooks : m.accessHooks = [])
    (hbytes : ∀ i < 8,
      accessible (hasPermission · .dataWrite) m.pages (a + BitVec.ofNat 64 i) = true ∧
        accessible executable m.pages (a + BitVec.ofNat 64 i) = false) : m.DataWord a := by
  refine ⟨⟨hpassthrough, ?_, fun event _ _ => ?_, fun i hi => (hbytes i hi).1⟩,
    fun i hi => (hbytes i hi).2⟩
  · unfold findMmioRegion
    rw [hregions]
    simp
  · unfold accessAllowed
    rw [hhooks]
    rfl

/-- A word stays a data word while the code is kept. -/
theorem kept (h : m.DataWord a) (hkept : CodeKept m m') : m'.DataWord a := by
  refine ⟨h.plain.sameAccess hkept.access, fun i hi => ?_⟩
  rw [accessible_congr hkept.access.perms]
  exact h.noCode i hi

/-- What a read of the word returns. -/
theorem read (h : m.DataWord a) : m.read a 8 .dataRead = some (m.wordBytes a) := by
  obtain ⟨bytes, hread, hlen, hat⟩ := h.plain.read_bytes (by decide : 0 < 8)
  rw [hread, wordBytes_eq hlen hat]

/-- A load of the word. -/
theorem load (h : m.DataWord a) {c : ExecutionContext} (hc : c.memory = m) :
    readMemoryChecked a 8 c = .ok (m.word a) c := readMemoryChecked_some (hc ▸ h.read)

/-- A load through the memory operand. -/
theorem loadOperand {c : ExecutionContext} (h : c.memory.DataWord a) {i : Nat}
    (hkind : c.instr.opKind i = .memory) (haddress : memoryAddress c.state c.instr = a) :
    readOperandChecked i 8 c = .ok (c.memory.word a) c := by
  refine readOperandChecked_ok_iff.mpr ?_
  unfold readOperand
  rw [hkind]
  dsimp only
  rw [haddress, h.read, Option.map_some]
  exact congrArg some BitVec.and_allOnes

/-- A data word accepts any value. -/
theorem accepts (h : m.DataWord a) (v : U64) : m.accepts a v 8 = true :=
  h.plain.accepts (by decide) (by decide) v

/-- A store through the memory operand. -/
theorem storeOperand {c : ExecutionContext} (h : c.memory.DataWord a) {i : Nat}
    (hkind : c.instr.opKind i = .memory) (haddress : memoryAddress c.state c.instr = a) (v : U64) :
    writeOperandChecked i v 8 c = .ok () { c with memory := c.memory.stored a v 8 } := by
  have hv : truncate v 8 = v := BitVec.and_allOnes
  have htaken : (c.memory.write a (toBytes v 8) .dataWrite).2 = true := h.accepts v
  unfold writeOperandChecked writeOperand
  rw [hkind]
  dsimp only
  rw [hv, haddress, htaken]
  rfl

/-- A store to a data word keeps the code. -/
theorem store_kept (h : m.DataWord a) (v : U64) : CodeKept m (m.stored a v 8) := by
  have hlen := toBytes_length v 8
  have hne : toBytes v 8 ≠ [] := List.length_pos_iff.mp (by omega)
  unfold stored
  rw [write_eq_of_region h.plain.noPassthrough.2 (by rw [hlen]; exact h.plain.noRegion) hne]
  split
  next => exact writePages_codeKept (by omega) fun i hi => h.noCode i (by omega)
  next => exact CodeKept.refl m

/-- The word that was stored. -/
theorem word_stored (h : m.DataWord a) (v : U64) : (m.stored a v 8).word a = v := by
  unfold word
  rw [wordBytes_eq (toBytes_length v 8) (h.plain.stored (by decide) (by decide) v).2.1,
    fromBytes_toBytes_of_le v (Nat.le_refl 8)]
  exact BitVec.and_allOnes

/-- Every word apart from it is what it was. -/
theorem word_stored_ne (m : Memory) (hab : WordsApart a b) (v : U64) :
    (m.stored a v 8).word b = m.word b := by
  unfold word
  rw [wordBytes_congr fun i hi => stored_byte_ne m (Nat.le_refl 8) fun j hj => hab.bytes hj hi]

end DataWord

/-! ## Arrays of words -/

/-- The address of an element. -/
def wordAt (a : U64) (i : Nat) : U64 := a + BitVec.ofNat 64 (8 * i)

/-- The next word is eight bytes on. -/
theorem wordAt_succ (a : U64) (i : Nat) : wordAt a (i + 1) = wordAt a i + 8#64 := by
  unfold wordAt
  bv_omega

/-- The elements of an array are apart. -/
theorem wordsApart_wordAt (a : U64) {i j n : Nat} (hn : 8 * n ≤ 2 ^ 64) (hi : i < n) (hj : j < n)
    (hne : i ≠ j) : WordsApart (wordAt a i) (wordAt a j) := by
  have ha := a.isLt
  unfold WordsApart wordAt
  simp only [BitVec.toNat_sub, BitVec.toNat_add, BitVec.toNat_ofNat]
  omega

/-- The words of an array, the lowest first. -/
def words (m : Memory) (a : U64) (n : Nat) : List U64 :=
  (List.range n).map fun i => m.word (wordAt a i)

/-- No words. -/
@[simp] theorem words_zero (m : Memory) (a : U64) : m.words a 0 = [] := rfl

/-- There are `n` words. -/
@[simp] theorem words_length (m : Memory) (a : U64) (n : Nat) : (m.words a n).length = n := by
  simp [words]

/-- One word more, at the end. -/
theorem words_succ (m : Memory) (a : U64) (n : Nat) :
    m.words a (n + 1) = m.words a n ++ [m.word (wordAt a n)] := by
  simp [words, List.range_succ]

/-- The words depend on these words only. -/
theorem words_congr {m m' : Memory} {a : U64} {n : Nat}
    (h : ∀ i < n, m'.word (wordAt a i) = m.word (wordAt a i)) : m'.words a n = m.words a n := by
  unfold words
  exact List.map_congr_left fun i hi => h i (List.mem_range.mp hi)

end Memory

end Seven
