import Seven.Backend.Handles
import Seven.Backend.Registers
import Seven.Memory.Snapshot

/-!
# Saved states

`serialize_state` puts the registers into the host's buffer and, for a
snapshot, the pages and the device regions behind them, each list under its
count. `deserialize_state` reads them back into a memory made anew. Callbacks
are not written: a region gets those of the first binding of its base and
size, as `map_mmio` left them in the backend's list.

A session is any sequence of what the host and its guest do between a save
and a load: calls of the backend, stores, loads of other buffers. Over it the
invariant is that every region of the memory has the callbacks its binding
has (`SessionInv.resolves`), and that later calls find the bindings the
earlier ones found (`Extends`). It needs one condition: no device is mapped a
second time at the same base and size, for that replaces a binding under a
region that keeps its callbacks.

> `Emulator.saved_state_loads`: a state saved in such a session and loaded
> later in it, whatever happened in between, uses up the buffer and brings
> back the registers, less the unsaved ones, and a memory that answers as
> the saved one exactly when that was `SortSafe`.
-/

namespace Seven

open Seven.Lib

/-! ## The buffer -/

/-- `write_vector` and `read_vector` of the host's buffers. -/
structure VectorFormat where
  write : List Byte → List Byte
  read : Reader (List Byte)
  reads : ∀ bytes, bytes.length < 2 ^ 64 → Reads read (write bytes) bytes

/-- A page saved. -/
def writePage (page : PageSnapshot) : List Byte :=
  writeWord page.pageIndex ++ (writeWord page.permissions ++ writeArray writeWord page.data)

/-- A page read. -/
def readPage : Reader PageSnapshot := do
  let pageIndex ← readWord 64
  let permissions ← readWord 8
  let data ← readArray (readWord 8) kPageSize
  pure ⟨pageIndex, data, permissions⟩

/-- A region saved. -/
def writeRegion (region : MmioRegionSnapshot) : List Byte :=
  writeWord region.id ++ (writeWord region.base ++ writeWord region.size)

/-- A region read. -/
def readRegion : Reader MmioRegionSnapshot := do
  let id ← readWord 64
  let base ← readWord 64
  let size ← readWord 64
  pure ⟨id, base, size⟩

/-- A page reads back. -/
theorem readPage_reads (page : PageSnapshot) : Reads readPage (writePage page) page := by
  have hdata := readArray_reads (readWord_reads (w := 8) (by decide)) page.data
  exact (readWord_reads (by decide) _).bind ((readWord_reads (by decide) _).bind hdata.bind_pure)

/-- A region reads back. -/
theorem readRegion_reads (region : MmioRegionSnapshot) :
    Reads readRegion (writeRegion region) region :=
  (readWord_reads (by decide) _).bind
    ((readWord_reads (by decide) _).bind (readWord_reads (by decide) _).bind_pure)

/-- A list behind its count. -/
def writeCounted {α : Type} (write : α → List Byte) (values : List α) : List Byte :=
  writeWord (BitVec.ofNat 64 values.length) ++ values.flatMap write

/-- A list with its length in front. -/
def readCounted {α : Type} (read : Reader α) : Reader (List α) := do
  let count ← readWord 64
  readMany read count.toNat

/-- It reads back. -/
theorem readCounted_reads {α : Type} {read : Reader α} {write : α → List Byte}
    (h : ∀ v, Reads read (write v) v) {values : List α} (hcount : values.length < 2 ^ 64) :
    Reads (readCounted read) (writeCounted write values) values := by
  refine (readWord_reads (by decide) _).bind ?_
  rw [BitVec.toNat_ofNat, Nat.mod_eq_of_lt hcount]
  exact readMany_reads values fun v _ => h v

/-- The parts of the backend's object that a saved state is about. -/
structure Emulator where
  state : CpuState := {}
  backend : Backend := {}

namespace Emulator

/-- `serialize_state`; `msrEntries` is what iterating over `state.msr` yields. -/
def serializeState (fmt : VectorFormat) (e : Emulator) (msrEntries : List (Nat × U64))
    (isSnapshot : Bool) : List Byte :=
  let regs := fmt.write (saveRegisters e.state msrEntries)
  if !isSnapshot then regs
  else
    regs ++ (writeCounted writePage e.backend.memory.snapshotPages ++
      writeCounted writeRegion e.backend.memory.snapshotMmioRegions)

/-- `deserialize_state`; it fails where the buffer is too short. -/
def deserializeState (fmt : VectorFormat) (isSnapshot : Bool) (e : Emulator) :
    Reader Emulator := do
  let regs ← fmt.read
  let state ← StateT.lift (restoreRegisters regs e.state)
  if !isSnapshot then
    pure { e with state := state }
  else
    let pages ← readCounted readPage
    let regions ← readCounted readRegion
    pure ⟨state, e.backend.deserializeState true pages regions⟩

end Emulator

/-! ## The size of the registers -/

/-- The length of a list saved. -/
theorem length_flatMap_const {α : Type} {write : α → List Byte} {k : Nat}
    (h : ∀ v, (write v).length = k) (values : List α) :
    (values.flatMap write).length = values.length * k := by
  induction values with
  | nil => simp
  | cons v values ih => simp [h, ih, Nat.succ_mul, Nat.add_comm]

/-- The registers of a state take less than 2^64 bytes. -/
theorem length_saveRegisters_lt {s : CpuState} (hkeyed : MsrKeyed s)
    {msrEntries : List (Nat × U64)} (hentries : msrEntries.Perm s.msr.toList) :
    (saveRegisters s msrEntries).length < 2 ^ 64 := by
  have hword : ∀ {w : Nat} (v : BitVec w), (writeWord v).length = w / 8 :=
    fun v => length_toLE _ v.toNat
  have hfile : ∀ {α : Type} {n k : Nat} {write : α → List Byte} (values : Fin n → α),
      (∀ v, (write v).length = k) → (writeArray write values).length = n * k := by
    intro α n k write values hk
    rw [writeArray, length_flatMap_const hk, List.length_ofFn]
  have hmsr : ∀ entry, (writeMsr entry).length = 12 := by
    intro entry
    rw [writeMsr, List.length_append, hword, hword]
  have hext : ∀ v, (encodeExt80 v).length = 10 := by
    intro v
    rw [encodeExt80, List.length_append, hword, hword]
  have hcount := hentries.length_eq ▸ length_toList_le hkeyed
  unfold saveRegisters
  simp only [List.length_flatten, List.map_cons, List.map_nil, List.sum_cons, List.sum_nil, hword,
    hfile _ hword, hfile _ hext, hfile _ length_exportBits, length_flatMap_const hmsr]
  omega

/-! ## Restored registers -/

/-- Whatever the buffer, restored ids have 32 bits. -/
theorem readRegisters_keyed (t : CpuState) : Yields (readRegisters t) MsrKeyed := by
  have hentry : Yields readMsr fun entry => entry.1 < 2 ^ 32 :=
    (Yields.any _).bind fun id _ => (Yields.any _).bind fun _ _ => Yields.pure id.isLt
  unfold readRegisters
  iterate 22 refine (Yields.any _).bind fun _ _ => ?_
  refine (Yields.readMany hentry _).bind fun entries hentries => ?_
  iterate 2 refine (Yields.any _).bind fun _ _ => ?_
  refine Yields.pure ?_
  intro id val hval
  exact hentries _ (mem_of_emplaceAll hval)

/-- What is restored has small keys. -/
theorem restoreRegisters_keyed {registerData : List Byte} {t s : CpuState}
    (h : restoreRegisters registerData t = some s) : MsrKeyed s := by
  obtain ⟨⟨s', rest⟩, hread, rfl⟩ := Option.map_eq_some_iff.mp h
  exact readRegisters_keyed t _ _ _ hread

/-! ## Sessions -/

/-- What happens to the emulator between a save and a load. -/
inductive EmulatorCall where
  | backend (call : BackendCall)
  | mapMemory (address size : U64) (permissions : MemoryPermissionMask)
  | unmapMemory (address size : U64)
  | applyMemoryProtection (address size : U64) (permissions : MemoryPermissionMask)
  | tryWriteMemory (address : U64) (data : List Byte)
  /-- A store of the guest, and whatever it has made of its registers. -/
  | guest (state : CpuState) (keyed : MsrKeyed state) (address : U64) (data : List Byte)
      (kind : MemoryAccessKind)
  | deserializeState (isSnapshot : Bool) (buffer : List Byte)

namespace Emulator

/-- The memory replaced. -/
def withMemory (e : Emulator) (memory : Memory) : Emulator :=
  { e with backend := { e.backend with memory := memory } }

/-- One call of the emulator. -/
def step (fmt : VectorFormat) (e : Emulator) : EmulatorCall → Option Emulator
  | .backend call => (e.backend.step call).map fun backend => { e with backend := backend }
  | .mapMemory address size permissions =>
    some (e.withMemory (e.backend.memory.map address size permissions))
  | .unmapMemory address size => some (e.withMemory (e.backend.memory.unmap address size))
  | .applyMemoryProtection address size permissions =>
    some (e.withMemory (e.backend.memory.reprotect address size permissions))
  | .tryWriteMemory address data =>
    some (e.withMemory (e.backend.memory.writeUnchecked address data).1)
  | .guest state _ address data kind =>
    some { e.withMemory (e.backend.memory.write address data kind).1 with state := state }
  | .deserializeState isSnapshot buffer =>
    (deserializeState fmt isSnapshot e buffer).map Prod.fst

/-- No device of this base and size. -/
def Unmapped (b : Backend) (base size : U64) : Prop :=
  ∀ binding ∈ b.mmioBindings, ¬(binding.base = base ∧ binding.size = size)

instance (b : Backend) (base size : U64) : Decidable (Unmapped b base size) :=
  inferInstanceAs (Decidable (∀ binding ∈ b.mmioBindings, _))

/-- Devices are mapped once at each base and size; and a store is no longer
than the address space. -/
def StepOk (e : Emulator) : EmulatorCall → Prop
  | .backend (.mapMmio binding) => Unmapped e.backend binding.base binding.size
  | .tryWriteMemory _ data => data.length ≤ 2 ^ 64
  | .guest _ _ _ data _ => data.length ≤ 2 ^ 64
  | _ => True

instance decidableStepOk (e : Emulator) : (c : EmulatorCall) → Decidable (StepOk e c)
  | .backend (.mapMmio binding) =>
    inferInstanceAs (Decidable (Unmapped e.backend binding.base binding.size))
  | .backend (.hookMemoryRead _ _) => inferInstanceAs (Decidable True)
  | .backend (.hookMemoryWrite _ _) => inferInstanceAs (Decidable True)
  | .backend (.hookExecutor _) => inferInstanceAs (Decidable True)
  | .backend (.deleteHook _) => inferInstanceAs (Decidable True)
  | .backend (.deserializeState _ _ _) => inferInstanceAs (Decidable True)
  | .mapMemory _ _ _ => inferInstanceAs (Decidable True)
  | .unmapMemory _ _ => inferInstanceAs (Decidable True)
  | .applyMemoryProtection _ _ _ => inferInstanceAs (Decidable True)
  | .tryWriteMemory _ data => inferInstanceAs (Decidable (data.length ≤ 2 ^ 64))
  | .guest _ _ _ data _ => inferInstanceAs (Decidable (data.length ≤ 2 ^ 64))
  | .deserializeState _ _ => inferInstanceAs (Decidable True)

/-! ## The invariant -/

/-- Every region has the callbacks of its binding, and no call installs host
memory. -/
structure SessionInv (e : Emulator) : Prop where
  keyed : MsrKeyed e.state
  memory : Memory.WellFormed e.backend.memory
  passthroughRead : e.backend.memory.passthroughRead = none
  passthroughWrite : e.backend.memory.passthroughWrite = none
  resolves : Memory.Resolves e.backend.memory (Backend.resolveBinding e.backend.mmioBindings)

/-- What the bindings of one list resolve, those of the other resolve alike. -/
def Extends (bindings bindings' : List MmioBinding) : Prop :=
  ∀ region callbacks, Backend.resolveBinding bindings region = some callbacks →
    Backend.resolveBinding bindings' region = some callbacks

/-- No binding more. -/
theorem Extends.refl (bindings : List MmioBinding) : Extends bindings bindings :=
  fun _ _ h => h

/-- More and more. -/
theorem Extends.trans {bs bs' bs'' : List MmioBinding} (h : Extends bs bs')
    (h' : Extends bs' bs'') : Extends bs bs'' :=
  fun region callbacks hr => h' region callbacks (h region callbacks hr)

/-- A new device goes to the end of the list. -/
theorem replaceOrAddBinding_new {binding : MmioBinding} {bindings : List MmioBinding}
    (h : ∀ b ∈ bindings, ¬(b.base = binding.base ∧ b.size = binding.size)) :
    Backend.replaceOrAddBinding binding bindings = bindings ++ [binding] := by
  induction bindings with
  | nil => rfl
  | cons b bindings ih =>
    rw [Backend.replaceOrAddBinding, if_neg (h b List.mem_cons_self),
      ih fun b' hb' => h b' (List.mem_cons_of_mem b hb')]
    rfl

/-- The bindings in front decide. -/
theorem resolveBinding_append (bindings bindings' : List MmioBinding)
    (region : MmioRegionSnapshot) :
    Backend.resolveBinding (bindings ++ bindings') region =
      (Backend.resolveBinding bindings region).or (Backend.resolveBinding bindings' region) := by
  unfold Backend.resolveBinding
  rw [List.find?_append]
  cases bindings.find? fun b => b.base == region.base && b.size == region.size <;> rfl

/-- More at the end. -/
theorem extends_append (bindings bindings' : List MmioBinding) :
    Extends bindings (bindings ++ bindings') := by
  intro region callbacks h
  rw [resolveBinding_append, h]
  rfl

/-- The new device is found: no earlier one has its base and size. -/
theorem resolveBinding_new {binding : MmioBinding} {bindings : List MmioBinding}
    (h : ∀ b ∈ bindings, ¬(b.base = binding.base ∧ b.size = binding.size)) (id : HookId) :
    Backend.resolveBinding (bindings ++ [binding]) ⟨id, binding.base, binding.size⟩ =
      some binding.callbacks := by
  have hnone : bindings.find? (fun b => b.base == binding.base && b.size == binding.size) = none := by
    rw [List.find?_eq_none]
    intro b hb hboth
    rw [Bool.and_eq_true, beq_iff_eq, beq_iff_eq] at hboth
    exact h b hb hboth
  rw [resolveBinding_append]
  simp [Backend.resolveBinding, hnone]

/-- A region that comes out of `restore_mmio_regions` was resolved. -/
theorem resolves_restored (m : Memory) (regions : List MmioRegionSnapshot) (resolve : MmioResolver) :
    Memory.Resolves (m.restoreMmioRegions regions (some resolve)) resolve := by
  have hloop : ∀ (regions : List MmioRegionSnapshot) (m : Memory), Memory.Resolves m resolve →
      Memory.Resolves (regions.foldl (Memory.restoreMmioRegion (some resolve)) m) resolve := by
    intro regions
    induction regions with
    | nil => exact fun m h => h
    | cons region regions ih =>
      intro m h
      apply ih
      unfold Memory.restoreMmioRegion
      dsimp only
      -- A region the resolver does not answer for is skipped.
      split
      next => exact h
      next onRead onWrite hresolve =>
        intro r hr
        rw [Memory.pushMmioRegion_mmioRegions] at hr
        rcases List.mem_append.mp hr with hr | hr
        · exact h r hr
        · rw [List.mem_singleton.mp hr]
          exact hresolve
  exact hloop regions _ fun r hr => absurd hr List.not_mem_nil

/-- Registers, pages and hooks may change as they like. -/
theorem SessionInv.keeps {e e' : Emulator} (h : SessionInv e) (hkeyed : MsrKeyed e'.state)
    (hmemory : Memory.WellFormed e'.backend.memory)
    (hregions : e'.backend.memory.mmioRegions = e.backend.memory.mmioRegions)
    (hread : e'.backend.memory.passthroughRead = e.backend.memory.passthroughRead)
    (hwrite : e'.backend.memory.passthroughWrite = e.backend.memory.passthroughWrite)
    (hbindings : e'.backend.mmioBindings = e.backend.mmioBindings) :
    SessionInv e' ∧ Extends e.backend.mmioBindings e'.backend.mmioBindings := by
  rw [hbindings]
  refine ⟨⟨hkeyed, hmemory, hread.trans h.passthroughRead, hwrite.trans h.passthroughWrite, ?_⟩,
    Extends.refl _⟩
  intro r hr
  rw [hregions] at hr
  rw [hbindings]
  exact h.resolves r hr

/-- A device mapped at a new place. -/
theorem SessionInv.mapMmio {e : Emulator} (h : SessionInv e) {binding : MmioBinding}
    (hnew : Unmapped e.backend binding.base binding.size) :
    SessionInv { e with backend := e.backend.mapMmio binding } ∧
      Extends e.backend.mmioBindings (e.backend.mapMmio binding).mmioBindings := by
  have hbindings : (e.backend.mapMmio binding).mmioBindings =
      e.backend.mmioBindings ++ [binding] := replaceOrAddBinding_new hnew
  have hrest := Memory.withoutMmio_apply e.backend.memory
    (.map binding.base binding.size binding.callbacks.1 binding.callbacks.2)
  rw [hbindings]
  refine ⟨⟨h.keyed, ?_, ?_, ?_, ?_⟩, extends_append _ _⟩
  -- Mapping a region is one of the MMIO operations the memory's invariant already covers.
  · exact h.memory.mmio (.map binding.base binding.size _ _)
  · exact (congrArg Memory.passthroughRead hrest).trans h.passthroughRead
  · exact (congrArg Memory.passthroughWrite hrest).trans h.passthroughWrite
  · intro r hr
    have hr' : r ∈ e.backend.memory.mmioRegions ++
        [⟨e.backend.memory.nextHookId, binding.base, binding.size, binding.callbacks.1,
          binding.callbacks.2⟩] := by
      rw [← Memory.pushMmioRegion_mmioRegions { e.backend.memory with
        nextHookId := e.backend.memory.nextHookId + 1#64 }]
      exact hr
    show Backend.resolveBinding (e.backend.mapMmio binding).mmioBindings r.snapshot = _
    rw [hbindings]
    -- The old bindings answer as before, and the new one answers for the new region.
    rcases List.mem_append.mp hr' with hr' | hr'
    · exact extends_append _ _ _ _ (h.resolves r hr')
    · rw [List.mem_singleton.mp hr']
      exact resolveBinding_new hnew _

/-- A snapshot, whatever it holds. -/
theorem SessionInv.load {e : Emulator} {state : CpuState} (hkeyed : MsrKeyed state)
    (pages : List PageSnapshot) (regions : List MmioRegionSnapshot) :
    SessionInv ⟨state, e.backend.deserializeState true pages regions⟩ := by
  have hrest := Memory.withoutMmio_restoreMmioRegions (({} : Memory).restorePages pages) regions
    (some (Backend.resolveBinding e.backend.mmioBindings))
  refine ⟨hkeyed, ?_, congrArg Memory.passthroughRead hrest,
    congrArg Memory.passthroughWrite hrest, resolves_restored _ _ _⟩
  have hpages : Memory.WellFormed (({} : Memory).restorePages pages) :=
    @Memory.WellFormed.code _ Memory.WellFormed.empty (.restorePages pages) trivial
  exact hpages.mmio (.restore regions _)

/-- The fields of a memory that a call of the pages leaves alone. -/
theorem SessionInv.pages {e : Emulator} (h : SessionInv e) {op : Memory.CodeOp}
    (hfits : Memory.CodeOpFits op) (hregions : (op.apply e.backend.memory).mmioRegions =
      e.backend.memory.mmioRegions)
    (hread : (op.apply e.backend.memory).passthroughRead = e.backend.memory.passthroughRead)
    (hwrite : (op.apply e.backend.memory).passthroughWrite = e.backend.memory.passthroughWrite)
    {state : CpuState} (hkeyed : MsrKeyed state) :
    SessionInv { e.withMemory (op.apply e.backend.memory) with state := state } ∧
      Extends e.backend.mmioBindings e.backend.mmioBindings := by
  refine h.keeps ?_ ?_ ?_ ?_ ?_ ?_
  · exact hkeyed
  · exact h.memory.code hfits
  · exact hregions
  · exact hread
  · exact hwrite
  · rfl

/-- The hooks of the backend are no part of the invariant. -/
theorem SessionInv.backendCall {e : Emulator} (h : SessionInv e) {call : BackendCall}
    {b : Backend} (hok : StepOk e (.backend call)) (hstep : e.backend.step call = some b) :
    SessionInv { e with backend := b } ∧ Extends e.backend.mmioBindings b.mmioBindings := by
  -- A hook call touches neither the pages nor the regions, which is all the invariant reads.
  have hhooks : ∀ memory : Memory, memory.pages = e.backend.memory.pages →
      memory.mmioRegions = e.backend.memory.mmioRegions →
      memory.mmioMinBase = e.backend.memory.mmioMinBase →
      memory.mmioMaxEnd = e.backend.memory.mmioMaxEnd → Memory.WellFormed memory := by
    intro memory hpages hregions hlow hhigh
    refine ⟨?_, ?_, ?_⟩
    · rw [hpages]
      exact h.memory.keyed
    · rw [hregions, hlow]
      exact h.memory.bounds.low
    · rw [hregions, hhigh]
      exact h.memory.bounds.high
  cases call with
  | hookMemoryRead address size =>
    cases hstep
    exact h.keeps h.keyed (hhooks _ rfl rfl rfl rfl) rfl rfl rfl rfl
  | hookMemoryWrite address size =>
    cases hstep
    exact h.keeps h.keyed (hhooks _ rfl rfl rfl rfl) rfl rfl rfl rfl
  | hookExecutor id =>
    cases hstep
    exact h.keeps h.keyed h.memory rfl rfl rfl rfl
  | deleteHook hook =>
    cases hstep
    have hremove : ∀ id, Memory.WellFormed (e.backend.memory.removeAccessHook id).1 ∧
        (e.backend.memory.removeAccessHook id).1.mmioRegions = e.backend.memory.mmioRegions ∧
        (e.backend.memory.removeAccessHook id).1.passthroughRead =
          e.backend.memory.passthroughRead ∧
        (e.backend.memory.removeAccessHook id).1.passthroughWrite =
          e.backend.memory.passthroughWrite := by
      intro id
      unfold Memory.removeAccessHook
      split
      next => exact ⟨hhooks _ rfl rfl rfl rfl, rfl, rfl, rfl⟩
      next => exact ⟨h.memory, rfl, rfl, rfl⟩
    -- The handle may be unknown, of a memory hook, or of another kind.
    unfold Backend.deleteHook
    split
    next => exact ⟨h, Extends.refl _⟩
    next object _ =>
      dsimp only
      split
      next =>
        have ⟨hmemory, hregions, hread, hwrite⟩ := hremove object.memoryId
        exact h.keeps h.keyed hmemory hregions hread hwrite rfl
      next => exact h.keeps h.keyed h.memory rfl rfl rfl rfl
  | mapMmio binding =>
    cases hstep
    exact h.mapMmio hok
  | deserializeState isSnapshot pages regions =>
    cases hstep
    unfold Backend.deserializeState
    split
    next => exact ⟨SessionInv.load h.keyed pages regions, Extends.refl _⟩
    next => exact ⟨h, Extends.refl _⟩

/-- A buffer, whatever it holds. -/
theorem SessionInv.deserialize {fmt : VectorFormat} {e e' : Emulator} (h : SessionInv e)
    {isSnapshot : Bool} {buffer : List Byte}
    (hstep : step fmt e (.deserializeState isSnapshot buffer) = some e') :
    SessionInv e' ∧ Extends e.backend.mmioBindings e'.backend.mmioBindings := by
  have hyields : Yields (deserializeState fmt isSnapshot e) fun e' =>
      SessionInv e' ∧ Extends e.backend.mmioBindings e'.backend.mmioBindings := by
    have hregs : ∀ regs, Yields (StateT.lift (restoreRegisters regs e.state)) MsrKeyed := by
      intro regs bs state rest hstate
      obtain ⟨state', hrestored, hpair⟩ := Option.bind_eq_some_iff.mp hstate
      cases hpair
      exact restoreRegisters_keyed hrestored
    refine (Yields.any _).bind fun regs _ => (hregs regs).bind fun state hkeyed => ?_
    split
    next => exact Yields.pure (h.keeps hkeyed h.memory rfl rfl rfl rfl)
    next =>
      refine (Yields.any _).bind fun pages _ => (Yields.any _).bind fun regions _ => ?_
      exact Yields.pure ⟨SessionInv.load hkeyed pages regions, Extends.refl _⟩
  obtain ⟨⟨e'', rest⟩, hread, rfl⟩ := Option.map_eq_some_iff.mp hstep
  exact hyields _ _ _ hread

/-- **One call of a session** keeps the invariant and the bindings found so
far. -/
theorem session_step {fmt : VectorFormat} {e e' : Emulator} (h : SessionInv e)
    {c : EmulatorCall} (hok : StepOk e c) (hstep : step fmt e c = some e') :
    SessionInv e' ∧ Extends e.backend.mmioBindings e'.backend.mmioBindings := by
  cases c with
  | backend call =>
    obtain ⟨b, hb, rfl⟩ := Option.map_eq_some_iff.mp hstep
    exact h.backendCall hok hb
  | mapMemory address size permissions =>
    cases hstep
    exact @SessionInv.pages _ h (.map address size permissions) trivial rfl rfl rfl _ h.keyed
  | unmapMemory address size =>
    cases hstep
    exact @SessionInv.pages _ h (.unmap address size) trivial rfl rfl rfl _ h.keyed
  | applyMemoryProtection address size permissions =>
    cases hstep
    exact @SessionInv.pages _ h (.reprotect address size permissions) trivial rfl rfl rfl _ h.keyed
  | tryWriteMemory address data =>
    cases hstep
    -- The write goes to the pages alone, or changes nothing where it fails.
    have hsame : Memory.SameAccess e.backend.memory
        (e.backend.memory.writeUnchecked address data).1 := by
      rcases Memory.writeUnchecked_cases e.backend.memory address hok with hsame | ⟨k, hwrite⟩
      · rw [hsame]
        exact Memory.SameAccess.refl _
      · exact hwrite.sameAccess
    exact @SessionInv.pages _ h (.writeUnchecked address data) hok hsame.mmioRegions
      hsame.passthroughRead hsame.passthroughWrite _ h.keyed
  | guest state keyed address data kind =>
    cases hstep
    have hsame := Memory.write_sameAccess e.backend.memory address hok kind
    exact @SessionInv.pages _ h (.write address data kind) hok hsame.mmioRegions
      hsame.passthroughRead hsame.passthroughWrite _ keyed
  | deserializeState isSnapshot buffer => exact h.deserialize hstep

/-- Run: the invariant of a session. -/
theorem session_run {fmt : VectorFormat} {e t : Emulator} {cs : List EmulatorCall}
    (hrun : GuardedRun (step fmt) StepOk e cs t) (h : SessionInv e) :
    SessionInv t ∧ Extends e.backend.mmioBindings t.backend.mmioBindings := by
  refine hrun.invariant (I := fun t => SessionInv t ∧
    Extends e.backend.mmioBindings t.backend.mmioBindings) ?_ ⟨h, Extends.refl _⟩
  intro s c s' hs hok hstep
  have hnext := session_step hs.1 hok hstep
  exact ⟨hnext.1, hs.2.trans hnext.2⟩

/-- The start. -/
theorem sessionInv_init : SessionInv {} := by
  refine ⟨initialMsr_keyed rfl, Memory.WellFormed.empty, rfl, rfl, ?_⟩
  intro r hr
  exact absurd hr List.not_mem_nil

/-! ## The round trip -/

/-- The counts of the two lists are not cut off. -/
def CountsFit (m : Memory) : Prop :=
  m.snapshotPages.length < 2 ^ 64 ∧ m.snapshotMmioRegions.length < 2 ^ 64

/-- What is saved can be read. -/
theorem serializeState_reads (fmt : VectorFormat) {e : Emulator} (t : Emulator)
    (hkeyed : MsrKeyed e.state) (hfits : CountsFit e.backend.memory)
    {msrEntries : List (Nat × U64)} (hentries : msrEntries.Perm e.state.msr.toList) :
    Reads (deserializeState fmt true t) (serializeState fmt e msrEntries true)
      ⟨withUnsavedOf e.state t.state,
        t.backend.deserializeState true e.backend.memory.snapshotPages
          e.backend.memory.snapshotMmioRegions⟩ := by
  have hregs := (readRegisters_reads t.state hkeyed hentries).run
  have hlift : Reads (StateT.lift (restoreRegisters (saveRegisters e.state msrEntries) t.state)) []
      (withUnsavedOf e.state t.state) := by
    intro rest
    unfold restoreRegisters
    rw [hregs]
    rfl
  refine (fmt.reads _ (length_saveRegisters_lt hkeyed hentries)).bind ?_
  refine hlift.bind ?_
  refine (readCounted_reads readPage_reads hfits.1).bind ?_
  exact (readCounted_reads readRegion_reads hfits.2).bind_pure

/-- Sorting a sorted list of regions once more. -/
theorem snapshotMmioRegions_restored (t : Memory) {m : Memory} {resolve : MmioResolver}
    (h : Memory.Resolves m resolve) :
    (t.restoreMmioRegions m.snapshotMmioRegions (some resolve)).snapshotMmioRegions =
      m.snapshotMmioRegions := by
  let le (lhs rhs : MmioRegionSnapshot) : Bool := !rhs.sortsBefore lhs
  let region (s : MmioRegionSnapshot) : MmioRegion := ⟨s.id, s.base, s.size, none, none⟩
  -- The order of the snapshots is that of the regions, which compares id, base and size.
  have hle : ∀ s s', le s s' = Memory.sortsFirst (region s) (region s') := fun _ _ => rfl
  have htrans : ∀ a b c, le a b = true → le b c = true → le a c = true := by
    intro a b c hab hbc
    exact Memory.sortsFirst_trans (region a) (region b) (region c) hab hbc
  have htotal : ∀ a b, (le a b || le b a) = true :=
    fun a b => Memory.sortsFirst_total (region a) (region b)
  have hmap : (m.mmioRegions.mergeSort Memory.sortsFirst).map MmioRegion.snapshot =
      m.snapshotMmioRegions := by
    unfold Memory.snapshotMmioRegions
    rw [List.map_mergeSort]
    intro r _ q _
    rfl
  have hsorted : m.snapshotMmioRegions.Pairwise fun lhs rhs => le lhs rhs = true :=
    List.pairwise_mergeSort htrans htotal _
  show ((t.restoreMmioRegions m.snapshotMmioRegions (some resolve)).mmioRegions.map
    MmioRegion.snapshot).mergeSort le = m.snapshotMmioRegions
  -- The regions come back in the sorted order, and sorting them again changes nothing.
  rw [Memory.restoreMmioRegions_snapshot t h, hmap]
  exact List.mergeSort_of_pairwise hsorted

/-- **A saved state loads.** Saved after the calls `before` and loaded after
the further calls `after`, it uses up its buffer and leaves the bindings
alone; the registers are the saved ones, the unsaved ones those of the
target; hooks are gone; saving again gives the same bytes; and every access
is answered as when it was saved exactly when the saved memory was
`SortSafe`. -/
theorem saved_state_loads (fmt : VectorFormat) {e t : Emulator} {before after : List EmulatorCall}
    (hbefore : GuardedRun (step fmt) StepOk {} before e)
    (hafter : GuardedRun (step fmt) StepOk e after t) (hfits : CountsFit e.backend.memory)
    {msrEntries : List (Nat × U64)} (hentries : msrEntries.Perm e.state.msr.toList) :
    ∃ r, Reads (deserializeState fmt true t) (serializeState fmt e msrEntries true) r ∧
      r.state = withUnsavedOf e.state t.state ∧
      r.backend.mmioBindings = t.backend.mmioBindings ∧ r.backend.memory.accessHooks = [] ∧
      serializeState fmt r msrEntries true = serializeState fmt e msrEntries true ∧
      (RoundTrip r.state e.backend.memory (r.state, r.backend.memory) ↔
        e.backend.memory.SortSafe) := by
  have hinv := (session_run hbefore sessionInv_init).1
  have hextends := (session_run hafter hinv).2
  -- the bindings of the target resolve the regions of the saved memory
  have hresolves : Memory.Resolves e.backend.memory
      (Backend.resolveBinding t.backend.mmioBindings) :=
    fun r hr => hextends _ _ (hinv.resolves r hr)
  let pages := ({} : Memory).restorePages e.backend.memory.snapshotPages
  have hrest := Memory.withoutMmio_restoreMmioRegions pages
    e.backend.memory.snapshotMmioRegions (some (Backend.resolveBinding t.backend.mmioBindings))
  refine ⟨_, serializeState_reads fmt t hinv.keyed hfits hentries, rfl, rfl, ?_, ?_, ?_⟩
  · exact congrArg Memory.accessHooks hrest
  · have hpages : (pages.restoreMmioRegions e.backend.memory.snapshotMmioRegions
        (some (Backend.resolveBinding t.backend.mmioBindings))).pages = e.backend.memory.pages :=
      (congrArg Memory.pages hrest).trans
        (Memory.restorePages_snapshotPages {} hinv.memory.keyed)
    have hregions := snapshotMmioRegions_restored pages hresolves
    have hsecond : ∀ memory : Memory,
        memory.pages = e.backend.memory.pages →
        memory.snapshotMmioRegions = e.backend.memory.snapshotMmioRegions →
        ∀ b : Backend, serializeState fmt
          ⟨withUnsavedOf e.state t.state, { b with memory := memory }⟩ msrEntries true =
            serializeState fmt e msrEntries true := by
      intro memory hmemory hmmio b
      unfold serializeState Memory.snapshotPages
      dsimp only
      rw [hmemory, hmmio]
      rfl
    exact hsecond _ hpages hregions { t.backend with installed := [] }
  · exact restoreSnapshot_roundTrip_iff (withUnsavedOf e.state t.state) t.state {} hinv.memory
      hresolves

/-! ## A session -/

/-- Bytes behind their number. -/
def countedFormat : VectorFormat where
  write bytes := writeWord (BitVec.ofNat 64 bytes.length) ++ bytes
  read := do
    let count ← readWord 64
    readBytes count.toNat
  reads := by
    intro bytes hlen
    refine (readWord_reads (by decide) _).bind ?_
    rw [BitVec.toNat_ofNat, Nat.mod_eq_of_lt hlen]
    exact readBytes_reads bytes

/-- A page with three bytes on it, a device and a hook. -/
def sessionBefore : List EmulatorCall :=
  [.mapMemory 0x1000#64 0x1000#64 3#8, .tryWriteMemory 0x1000#64 [1#8, 2#8, 3#8],
    .backend (.mapMmio ⟨0x8000#64, 0x1000#64, fun _ n => Vector.replicate n 0xAA#8⟩),
    .backend (.hookMemoryRead 0x1000#64 8#64)]

/-- The page goes, and a second device comes below the first. -/
def sessionAfter : List EmulatorCall :=
  [.unmapMemory 0x1000#64 0x1000#64,
    .backend (.mapMmio ⟨0x6000#64, 0x1000#64, fun _ n => Vector.replicate n 0xBB#8⟩),
    .backend (.deleteHook 1)]

/-- The session when it is saved. -/
def sessionSaved : Emulator :=
  (runGuarded (step countedFormat) StepOk {} sessionBefore).getD {}

/-- The session it is loaded into. -/
def sessionTarget : Emulator :=
  (runGuarded (step countedFormat) StepOk sessionSaved sessionAfter).getD {}

/-- Its memory comes back, its devices too. -/
theorem saved_state_loads_session :
    sessionSaved.backend.memory.readUnchecked 0x1000#64 3 = some [1#8, 2#8, 3#8] ∧
      sessionTarget.backend.memory.readUnchecked 0x1000#64 3 = none ∧
      ∃ r : Emulator,
        Reads (deserializeState countedFormat true sessionTarget)
          (serializeState countedFormat sessionSaved sessionSaved.state.msr.toList true) r ∧
        RoundTrip r.state sessionSaved.backend.memory (r.state, r.backend.memory) := by
  have hbefore := guardedRun_of_runGuarded
    (rfl : runGuarded (step countedFormat) StepOk {} sessionBefore = some sessionSaved)
  have hafter := guardedRun_of_runGuarded
    (rfl : runGuarded (step countedFormat) StepOk sessionSaved sessionAfter = some sessionTarget)
  refine ⟨by decide +kernel, by decide +kernel, ?_⟩
  have hfits : CountsFit sessionSaved.backend.memory := ⟨by decide +kernel, by decide +kernel⟩
  obtain ⟨r, hreads, _, _, _, _, hround⟩ :=
    saved_state_loads countedFormat hbefore hafter hfits (List.Perm.refl _)
  refine ⟨r, hreads, hround.mpr ?_⟩
  apply Memory.SortSafe.of_pairwise
  exact List.pairwise_singleton _ _

end Emulator

end Seven
