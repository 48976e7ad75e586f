import Seven.Cpu.State
import Seven.Lib.ByteQueue
import Seven.Lib.MapListing

/-!
# Saving and restoring the registers

`save_registers` writes the fields of `CpuState` into a byte buffer, one by
one, and `restore_registers` reads them back in the same order. Words lie in
the buffer as in memory, extended floats as ten bytes, vectors as the
little-endian bytes that `export_bits` yields, in an array of 64 zeros. The
model-specific registers are counted and listed in the order in which the hash
map hands them out.

Every field that is written is read back (`readRegisters_reads`). Four fields
are neither written nor read, and keep what the target had:

> `restoreRegisters_saveRegisters_iff`: the target becomes the source exactly
> when the two agree on the opmask registers and on the pending debug state.
-/

namespace Seven

open Seven.Lib

/-! ## Single values -/

/-- `static_cast<uint8_t>(mode)`. -/
def encodeMode : ExecutionMode → BitVec 8
  | .real16 => 0#8
  | .compat32 => 1#8
  | .long64 => 2#8

/-- `static_cast<ExecutionMode>(mode)`; every switch over the mode treats an
unknown one as `long64`. -/
def decodeMode (mode : BitVec 8) : ExecutionMode :=
  if mode = 0#8 then .real16 else if mode = 1#8 then .compat32 else .long64

/-- A mode reads back. -/
theorem decodeMode_encodeMode (mode : ExecutionMode) : decodeMode (encodeMode mode) = mode := by
  cases mode <;> rfl

/-- `encode_ext80`: the significand, then sign and exponent. -/
def encodeExt80 (value : BitVec 80) : List Byte :=
  writeWord (value.extractLsb' 0 64) ++ writeWord (value.extractLsb' 64 16)

/-- An x87 register read. -/
def decodeExt80 : Reader (BitVec 80) := do
  let signif ← readWord 64
  let signExp ← readWord 16
  pure (signExp ++ signif)

/-- It reads back. -/
theorem decodeExt80_reads (value : BitVec 80) : Reads decodeExt80 (encodeExt80 value) value := by
  have hjoin : value.extractLsb' 64 16 ++ value.extractLsb' 0 64 = value := by
    rw [BitVec.extractLsb'_append_extractLsb'_eq_extractLsb' (by decide)]
    exact BitVec.extractLsb'_eq_self
  have hread : Reads decodeExt80 (encodeExt80 value)
      (value.extractLsb' 64 16 ++ value.extractLsb' 0 64) :=
    (readWord_reads (by decide) _).bind (readWord_reads (by decide) _).bind_pure
  rw [hjoin] at hread
  exact hread

/-- `export_bits` with chunks of eight bits, least significant first, into a
zeroed array: as many bytes as the highest set bit needs, at least one. -/
def exportBits (value : BitVec 512) : List Byte :=
  let msbPlusOne := Nat.log2 value.toNat + 1
  let outputDistance := msbPlusOne / 8 + if msbPlusOne % 8 ≠ 0 then 1 else 0
  toLE outputDistance value.toNat ++ List.replicate (64 - outputDistance) 0#8

/-- `import_bits` with the same chunks. -/
def importBits : Reader (BitVec 512) := do
  let bytes ← readBytes 64
  pure (BitVec.ofNat 512 (ofLE bytes))

/-- The highest bit of a vector. -/
theorem log2_lt_width (value : BitVec 512) : Nat.log2 value.toNat < 512 := by
  by_cases hzero : value.toNat = 0
  · rw [hzero]
    decide
  · exact (Nat.log2_lt hzero).mpr value.isLt

/-- The bytes that are written hold the value. -/
theorem ofLE_exportBits (value : BitVec 512) : ofLE (exportBits value) = value.toNat := by
  unfold exportBits
  dsimp only
  rw [ofLE_append_zeros, ofLE_toLE, Nat.mod_eq_of_lt]
  have hlt : value.toNat < 2 ^ (Nat.log2 value.toNat + 1) := Nat.lt_log2_self
  refine Nat.lt_of_lt_of_le hlt ?_
  rw [show 256 = 2 ^ 8 from rfl, ← Nat.pow_mul]
  apply Nat.pow_le_pow_right (by decide)
  split <;> omega

/-- With the padding there are 64. -/
theorem length_exportBits (value : BitVec 512) : (exportBits value).length = 64 := by
  have hlog := log2_lt_width value
  unfold exportBits
  dsimp only
  rw [List.length_append, length_toLE, List.length_replicate]
  split <;> omega

/-- A vector reads back. -/
theorem importBits_reads (value : BitVec 512) : Reads importBits (exportBits value) value := by
  have hread : Reads importBits (exportBits value) (BitVec.ofNat 512 (ofLE (exportBits value))) := by
    unfold importBits
    rw [← length_exportBits value]
    exact (readBytes_reads (exportBits value)).bind_pure
  rw [ofLE_exportBits, BitVec.ofNat_toNat, BitVec.setWidth_eq] at hread
  exact hread

/-! ## The buffer -/

/-- An entry of the table of model-specific registers. -/
def writeMsr (entry : Nat × U64) : List Byte :=
  writeWord (BitVec.ofNat 32 entry.1) ++ writeWord entry.2

/-- An MSR entry read. -/
def readMsr : Reader (Nat × U64) := do
  let id ← readWord 32
  let val ← readWord 64
  pure (id.toNat, val)

/-- It reads back. -/
theorem readMsr_reads {entry : Nat × U64} (h : entry.1 < 2 ^ 32) :
    Reads readMsr (writeMsr entry) entry := by
  have hread : Reads readMsr (writeMsr entry) ((BitVec.ofNat 32 entry.1).toNat, entry.2) :=
    (readWord_reads (by decide) _).bind (readWord_reads (by decide) _).bind_pure
  rw [BitVec.toNat_ofNat, Nat.mod_eq_of_lt h] at hread
  exact hread

/-- `save_registers`; `msrEntries` is what iterating over `state.msr` yields. -/
def saveRegisters (state : CpuState) (msrEntries : List (Nat × U64)) : List Byte :=
  List.flatten
    [ writeWord (encodeMode state.mode)
    , writeWord state.rip
    , writeWord state.rflags
    , writeWord state.fsBase
    , writeWord state.gsBase
    , writeWord state.mxcsr
    , writeWord state.x87ControlWord
    , writeWord state.x87StatusWord
    , writeWord state.x87Top
    , writeWord state.gdtr.base
    , writeWord state.gdtr.limit
    , writeWord state.idtr.base
    , writeWord state.idtr.limit
    , writeArray writeWord state.gpr
    , writeArray writeWord state.mmx
    , writeArray writeWord state.sreg
    , writeArray writeWord state.cr
    , writeArray writeWord state.dr
    , writeArray writeWord state.tr
    , writeArray writeWord state.x87Tags
    , writeArray writeWord state.xcr
    , writeWord (BitVec.ofNat 64 msrEntries.length)
    , msrEntries.flatMap writeMsr
    , writeArray encodeExt80 state.x87Stack
    , writeArray exportBits state.vectors ]

/-- The reads of `restore_registers`, into the target state. -/
def readRegisters (state : CpuState) : Reader CpuState := do
  let mode ← readWord 8
  let rip ← readWord 64
  let rflags ← readWord 64
  let fsBase ← readWord 64
  let gsBase ← readWord 64
  let mxcsr ← readWord 32
  let x87ControlWord ← readWord 16
  let x87StatusWord ← readWord 16
  let x87Top ← readWord 8
  let gdtrBase ← readWord 64
  let gdtrLimit ← readWord 16
  let idtrBase ← readWord 64
  let idtrLimit ← readWord 16
  let gpr ← readArray (readWord 64) 16
  let mmx ← readArray (readWord 64) 8
  let sreg ← readArray (readWord 16) 6
  let cr ← readArray (readWord 64) 16
  let dr ← readArray (readWord 64) 16
  let tr ← readArray (readWord 64) 8
  let x87Tags ← readArray (readWord 8) 8
  let xcr ← readArray (readWord 64) 2
  let msrCount ← readWord 64
  let msrEntries ← readMany readMsr msrCount.toNat
  let x87Stack ← readArray decodeExt80 8
  let vectors ← readArray importBits 32
  pure { state with
    mode := decodeMode mode
    rip, rflags, fsBase, gsBase, mxcsr, x87ControlWord, x87StatusWord, x87Top
    gdtr := ⟨gdtrBase, gdtrLimit⟩
    idtr := ⟨idtrBase, idtrLimit⟩
    gpr, mmx, sreg, cr, dr, tr, x87Tags, xcr
    msr := emplaceAll ∅ msrEntries
    x87Stack, vectors }

/-- A buffer that is too short is refused. -/
def restoreRegisters (registerData : List Byte) (state : CpuState) : Option CpuState :=
  (readRegisters state registerData).map Prod.fst

/-! ## The round trip -/

/-- The ids of model-specific registers have 32 bits. -/
def MsrKeyed (state : CpuState) : Prop :=
  ∀ (id : Nat) (val : U64), state.msr[id]? = some val → id < 2 ^ 32

/-- The fields that the buffer does not hold: opmask registers and pending
debug state. -/
def withUnsavedOf (s t : CpuState) : CpuState :=
  { s with
    opmask := t.opmask
    debugSuppression := t.debugSuppression
    pendingSingleStep := t.pendingSingleStep
    pendingDebugHitBits := t.pendingDebugHitBits }

/-- **What is written is read back**, and nothing else is touched. -/
theorem readRegisters_reads {s : CpuState} (t : CpuState) (hkeyed : MsrKeyed s)
    {msrEntries : List (Nat × U64)} (hentries : msrEntries.Perm s.msr.toList) :
    Reads (readRegisters t) (saveRegisters s msrEntries) (withUnsavedOf s t) := by
  have hlisted : ∀ entry ∈ msrEntries, entry.1 < 2 ^ 32 := by
    intro entry hentry
    have hmem := hentries.mem_iff.mp hentry
    exact hkeyed entry.1 entry.2 (Std.ExtTreeMap.mem_toList_iff_getElem?_eq_some.mp hmem)
  have hcount : (BitVec.ofNat 64 msrEntries.length).toNat = msrEntries.length := by
    have hle := hentries.length_eq ▸ length_toList_le hkeyed
    rw [BitVec.toNat_ofNat, Nat.mod_eq_of_lt (by omega)]
  have hmsr : emplaceAll ∅ msrEntries = s.msr := emplaceAll_listing hentries
  have hword : ∀ {w : Nat} (v : BitVec w), 8 ∣ w → Reads (readWord w) (writeWord v) v :=
    fun v hw => readWord_reads hw v
  have hfile : ∀ {w n : Nat} (values : Fin n → BitVec w), 8 ∣ w →
      Reads (readArray (readWord w) n) (writeArray writeWord values) values :=
    fun values hw => readArray_reads (readWord_reads hw) values
  unfold readRegisters saveRegisters
  simp only [List.flatten_cons, List.flatten_nil]
  -- from the mode to the limit of the interrupt table
  iterate 13 refine Reads.bind (hword _ (by decide)) ?_
  -- from the general registers to the extended control registers
  iterate 8 refine Reads.bind (hfile _ (by decide)) ?_
  -- the model-specific registers
  refine Reads.bind (hword _ (by decide)) ?_
  rw [hcount]
  refine Reads.bind (readMany_reads msrEntries fun entry h => readMsr_reads (hlisted entry h)) ?_
  rw [hmsr, decodeMode_encodeMode]
  -- the floats and the vectors
  refine Reads.bind (readArray_reads decodeExt80_reads _) ?_
  refine Reads.bind (readArray_reads importBits_reads _) ?_
  exact Reads.pure _

/-- The target holds what the buffer does not. -/
theorem withUnsavedOf_eq_iff (s t : CpuState) :
    withUnsavedOf s t = s ↔
      t.opmask = s.opmask ∧ t.debugSuppression = s.debugSuppression ∧
        t.pendingSingleStep = s.pendingSingleStep ∧
        t.pendingDebugHitBits = s.pendingDebugHitBits := by
  constructor
  · intro h
    have hopmask := congrArg CpuState.opmask h
    have hsuppression := congrArg CpuState.debugSuppression h
    have hstep := congrArg CpuState.pendingSingleStep h
    have hbits := congrArg CpuState.pendingDebugHitBits h
    exact ⟨hopmask, hsuppression, hstep, hbits⟩
  · intro ⟨hopmask, hsuppression, hstep, hbits⟩
    unfold withUnsavedOf
    rw [hopmask, hsuppression, hstep, hbits]

/-- **Registers round trip** exactly between states that agree on the opmask
registers and on the pending debug state, in whatever order the hash map lists
its entries. -/
theorem restoreRegisters_saveRegisters_iff {s : CpuState} (t : CpuState) (hkeyed : MsrKeyed s)
    {msrEntries : List (Nat × U64)} (hentries : msrEntries.Perm s.msr.toList) :
    restoreRegisters (saveRegisters s msrEntries) t = some s ↔
      t.opmask = s.opmask ∧ t.debugSuppression = s.debugSuppression ∧
        t.pendingSingleStep = s.pendingSingleStep ∧
        t.pendingDebugHitBits = s.pendingDebugHitBits := by
  unfold restoreRegisters
  rw [(readRegisters_reads t hkeyed hentries).run, Option.map_some, Option.some_inj]
  exact withUnsavedOf_eq_iff s t

/-- The initial table has small keys. -/
theorem initialMsr_keyed {s : CpuState} (h : s.msr = initialMsr) : MsrKeyed s := by
  intro id val hval
  rw [h] at hval
  unfold initialMsr at hval
  rw [Std.ExtTreeMap.getElem?_insert, Std.ExtTreeMap.getElem?_insert] at hval
  split at hval
  next hid =>
    rw [← Nat.compare_eq_eq.mp hid]
    decide
  next =>
    split at hval
    next hid =>
      rw [← Nat.compare_eq_eq.mp hid]
      decide
    next =>
      rw [Std.ExtTreeMap.getElem?_empty] at hval
      cases hval

/-- A state on its way through a program. -/
def runningState : CpuState :=
  { rip := 0x401000#64, rflags := 0x246#64, gpr := fun i => BitVec.ofNat 64 i.val
    x87Stack := fun _ => 0x3FFF8000000000000000#80, vectors := fun i => BitVec.ofNat 512 (2 ^ i.val) }

/-- The running state comes back whole. -/
theorem restoreRegisters_runningState :
    restoreRegisters (saveRegisters runningState runningState.msr.toList) {} = some runningState :=
  (restoreRegisters_saveRegisters_iff {} (initialMsr_keyed rfl) (List.Perm.refl _)).mpr
    ⟨rfl, rfl, rfl, rfl⟩

/-- A mask in `k1` and a pending single step are lost on the way. -/
theorem restoreRegisters_drops_opmask :
    let s : CpuState :=
      { opmask := fun i => if i = 1 then 0xFF#64 else 0#64, pendingSingleStep := true }
    restoreRegisters (saveRegisters s s.msr.toList) {} ≠ some s := by
  intro s h
  unfold restoreRegisters at h
  rw [(readRegisters_reads {} (initialMsr_keyed rfl) (List.Perm.refl _)).run, Option.map_some,
    Option.some_inj] at h
  have hstep := congrArg CpuState.pendingSingleStep h
  cases hstep

end Seven
