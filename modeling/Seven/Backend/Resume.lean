import Seven.Backend.SavedState
import Seven.Executor.Alike

/-!
# Carrying on from a saved state

A guest is saved, the host does other things with the emulator, and loads the
guest again. What it runs then is what it would have run had it never been
saved: the loaded memory answers every access as the saved one
(`alike_loaded`), and runs on such memories are alike.

> `resumed_run_agrees`: a run of the loaded machine, by an executor that has
> decoded nothing yet, ends with the result, the state and the pages of the
> run the saved machine would have gone on with.
-/

namespace Seven

open Seven.Lib

namespace Emulator

/-- The memory `deserialize_state` makes of a saved one answers every access
like it. -/
theorem alike_loaded {m : Memory} (hmemory : Memory.WellFormed m) (hhooks : m.accessHooks = [])
    (hread : m.passthroughRead = none) (hwrite : m.passthroughWrite = none)
    {resolve : MmioResolver} (hresolve : Memory.Resolves m resolve) (hsafe : m.SortSafe) :
    Memory.Alike m ((({} : Memory).restorePages m.snapshotPages).restoreMmioRegions
      m.snapshotMmioRegions (some resolve)) := by
  have hrest := Memory.withoutMmio_restoreMmioRegions (({} : Memory).restorePages m.snapshotPages)
    m.snapshotMmioRegions (some resolve)
  intro a n hn
  constructor
  case pages =>
    exact (congrArg Memory.pages hrest).trans
      (Memory.restorePages_snapshotPages {} hmemory.keyed)
  case accessHooks => exact (congrArg Memory.accessHooks hrest).trans hhooks.symm
  case passthroughRead => exact (congrArg Memory.passthroughRead hrest).trans hread.symm
  case passthroughWrite => exact (congrArg Memory.passthroughWrite hrest).trans hwrite.symm
  case noMmio =>
    rw [Memory.restoreMmioRegions_snapshot _ hresolve, Bool.eq_iff_iff,
      List.isEmpty_iff_length_eq_zero, List.isEmpty_iff_length_eq_zero, List.length_mergeSort]
  case region =>
    exact (Memory.findMmioRegion_restored_iff _ hmemory.bounds hresolve a n).mpr
      (hsafe a n hn.1 hn.2)

variable {W : Type}

/-- The machine of an emulator, in a world. -/
def machine (e : Emulator) (world : W) : Machine W := ⟨e.state, e.backend.memory, world⟩

/-- **Saving and loading is invisible to the guest.** A state saved after the
calls `before`, with no memory hook installed, and loaded as `r` after the
further calls `after` into an emulator that agrees on what a saved state leaves
out: `n` instructions from there, run by an executor with empty caches, end as
`n` instructions run on by the executor `ex` that was there when it was
saved. -/
theorem resumed_run_agrees (A : ProgramEnv W) (hdecode : DecodesWindow A.decode)
    (fmt : VectorFormat) {e t r : Emulator} {before after : List EmulatorCall}
    (hbefore : GuardedRun (step fmt) StepOk {} before e)
    (hafter : GuardedRun (step fmt) StepOk e after t) (hfits : CountsFit e.backend.memory)
    {msrEntries : List (Nat × U64)} (hentries : msrEntries.Perm e.state.msr.toList)
    (hload : Reads (deserializeState fmt true t) (serializeState fmt e msrEntries true) r)
    (hunsaved : withUnsavedOf e.state t.state = e.state) (hhooks : e.backend.memory.accessHooks = [])
    (hsort : e.backend.memory.SortSafe) {ex ex' : Executor} (hempty : ex'.caches.Empty)
    (hrequest : ex'.stopRequested = ex.stopRequested) (n : Nat) (world : W)
    (hcoh : A.Coherent ⟨ex, e.machine world⟩) (hsafe : A.PassesSafe n (0, ex, e.machine world))
    (hsafe' : A.PassesSafe n (0, ex', r.machine world)) :
    (A.run n (ex', r.machine world)).1 = (A.run n (ex, e.machine world)).1 ∧
      MachinesAlike (A.run n (ex, e.machine world)).2.2 (A.run n (ex', r.machine world)).2.2 := by
  have hinv := (session_run hbefore sessionInv_init).1
  have hextends := (session_run hafter hinv).2
  have hresolves : Memory.Resolves e.backend.memory
      (Backend.resolveBinding t.backend.mmioBindings) :=
    fun r hr => hextends _ _ (hinv.resolves r hr)
  have hloaded := hload.unique (serializeState_reads fmt t hinv.keyed hfits hentries)
  have hmachine : MachinesAlike (e.machine world) (r.machine world) := by
    subst hloaded
    exact ⟨hunsaved, rfl, alike_loaded hinv.memory hhooks hinv.passthroughRead
      hinv.passthroughWrite hresolves hsort⟩
  exact A.run_alike hdecode n
    ⟨rfl, hrequest, hmachine, hcoh, hempty.coherent _, hsafe, hsafe'⟩

/-! ## A guest in front of a device

`AC` is `LODSB`; `RSI` points to a device. -/

/-- One instruction, `LODSB`. -/
def lodsbDecoder : Decode := fun _ bytes _ =>
  bytes.head?.bind fun b =>
    if b = 0xAC#8 then some { code := .string .lods .rm8, length := 1 } else none

/-- No other. -/
def lodsbOther (_ : Code) : Option (AccessM Unit) := none

/-- None is no handler. -/
theorem lodsbOther_handler (code : Code) :
    (none : Option Handler) = (lodsbOther code).map AccessM.toHandler := rfl

/-- Its programs. -/
def lodsbAccess : AccessEnv Unit where
  decode := lodsbDecoder
  otherProgram := lodsbOther
  otherHandler_eq := lodsbOther_handler

/-- No hooks. -/
theorem lodsbAccess_hooks : lodsbAccess.toEnv.NoCoreHooks :=
  ⟨fun _ => rfl, rfl, fun _ => rfl, rfl, fun _ => rfl⟩

/-- No other program to size. -/
theorem lodsbAccess_sized (code : Code) (p : AccessM Unit)
    (h : lodsbAccess.otherProgram code = some p) : p.Sized := by cases h

/-- The environment of the instance. -/
def lodsbEnv : ProgramEnv Unit where
  toAccessEnv := lodsbAccess
  hooks := lodsbAccess_hooks
  fault := rfl
  stop := rfl
  sized := lodsbAccess_sized

/-- The decoder looks at its window. -/
theorem lodsbEnv_window : DecodesWindow lodsbEnv.decode := by
  intro bitness bytes rip
  cases bytes <;> rfl

/-- `RSI` at the device. -/
def lodsbState : CpuState :=
  { rip := 0x1000#64, gpr := fun i => if i = 6 then 0x8000#64 else 0#64 }

/-- The code, two devices and the state. -/
def lodsbBefore : List EmulatorCall :=
  [.mapMemory 0x1000#64 0x1000#64 kMemoryPermissionAll, .tryWriteMemory 0x1000#64 [0xAC#8],
    .backend (.mapMmio ⟨0x6000#64, 0x1000#64, fun _ n => Vector.replicate n 0xBB#8⟩),
    .backend (.mapMmio ⟨0x8000#64, 0x1000#64, fun _ n => Vector.replicate n 0xAA#8⟩),
    .guest lodsbState (initialMsr_keyed rfl) 0#64 [] .dataWrite]

/-- The session when it is saved. -/
def lodsbSaved : Emulator := (runGuarded (step countedFormat) StepOk {} lodsbBefore).getD {}

/-- The code is unmapped and a third device comes. -/
def lodsbAfter : List EmulatorCall :=
  [.unmapMemory 0x1000#64 0x1000#64,
    .backend (.mapMmio ⟨0x4000#64, 0x1000#64, fun _ n => Vector.replicate n 0xCC#8⟩)]

/-- The session it is loaded into. -/
def lodsbTarget : Emulator :=
  (runGuarded (step countedFormat) StepOk lodsbSaved lodsbAfter).getD {}

/-- The devices, in the order of their addresses. -/
def lodsbDevices : List MmioRegionSnapshot :=
  [⟨1#64, 0x6000#64, 0x1000#64⟩, ⟨2#64, 0x8000#64, 0x1000#64⟩]

/-- The devices, in the order of their ids. -/
theorem lodsbDevices_sorted :
    lodsbDevices.Pairwise fun lhs rhs => (!rhs.sortsBefore lhs) = true := by
  unfold lodsbDevices
  rw [List.pairwise_pair]
  decide

/-- They are the saved session's. -/
theorem lodsbSaved_devices : lodsbSaved.backend.memory.snapshotMmioRegions = lodsbDevices :=
  List.mergeSort_of_pairwise lodsbDevices_sorted

/-- Their order is the saved one. -/
theorem lodsbSaved_sortSafe : lodsbSaved.backend.memory.SortSafe := by
  have hsorted : (lodsbSaved.backend.memory.mmioRegions.map MmioRegion.snapshot).Pairwise
      fun lhs rhs => (!rhs.sortsBefore lhs) = true := lodsbDevices_sorted
  exact Memory.SortSafe.of_pairwise (List.pairwise_map.mp hsorted)

/-- The session behind the load. -/
def lodsbLoaded : Emulator :=
  ⟨withUnsavedOf lodsbSaved.state lodsbTarget.state,
    lodsbTarget.backend.deserializeState true lodsbSaved.backend.memory.snapshotPages lodsbDevices⟩

/-- One pass of `LODSB` leaves the memory as it was. -/
theorem lodsbEnv_safe {s : Nat × Executor × Machine Unit}
    (h : lodsbEnv.StepSafe ⟨(lodsbEnv.collect s.2).1, (lodsbEnv.collect s.2).2⟩) :
    lodsbEnv.PassesSafe 1 s := by
  intro k u hk hreaches
  have hzero : k = 0 := by omega
  subst hzero
  cases hreaches
  exact h

set_option maxRecDepth 20000 in
/-- The load reads the device's byte in both. -/
theorem resumed_run_agrees_lodsb :
    readRegister (lodsbEnv.run 1 ({}, lodsbLoaded.machine ())).2.2.state .al = 0xAA#64 ∧
      MachinesAlike (lodsbEnv.run 1 ({}, lodsbSaved.machine ())).2.2
        (lodsbEnv.run 1 ({}, lodsbLoaded.machine ())).2.2 := by
  have hbefore : GuardedRun (step countedFormat) StepOk {} lodsbBefore lodsbSaved :=
    guardedRun_of_runGuarded rfl
  have hafter : GuardedRun (step countedFormat) StepOk lodsbSaved lodsbAfter lodsbTarget :=
    guardedRun_of_runGuarded rfl
  have hfits : CountsFit lodsbSaved.backend.memory := by
    refine ⟨by decide +kernel, ?_⟩
    rw [lodsbSaved_devices]
    decide
  have hempty : (({} : Executor)).caches.Empty := ⟨fun _ => rfl, fun _ => rfl⟩
  have hload := serializeState_reads countedFormat lodsbTarget
    (session_run hbefore sessionInv_init).1.keyed hfits (List.Perm.refl lodsbSaved.state.msr.toList)
  rw [lodsbSaved_devices] at hload
  refine ⟨?_, (resumed_run_agrees lodsbEnv lodsbEnv_window countedFormat hbefore hafter hfits
    (List.Perm.refl _) hload rfl rfl lodsbSaved_sortSafe hempty rfl 1 () (hempty.coherent _)
    (lodsbEnv_safe ?_) (lodsbEnv_safe ?_)).2⟩
  · decide +kernel
  · exact ⟨fun _ => ⟨rfl, rfl⟩, Relation.ReflTransGen.refl⟩
  · exact ⟨fun _ => ⟨rfl, rfl⟩, Relation.ReflTransGen.refl⟩

end Emulator

end Seven
