import Mathlib.Data.List.Nodup
import Seven.Memory.Mmio
import Seven.Memory.HookMatch
import Seven.Lib.GuardedRun

/-!
# Hook handles of the backend

`hook_memory_read` and `hook_memory_write` install an access hook in the
backend's `Memory` and hand out a handle, an object that remembers the id the
memory gave the hook. `delete_hook` looks the handle up among the backend's
objects and removes the hook of that id.

The ids come from a counter inside the memory, and `deserialize_state` of a
snapshot replaces the memory: the hooks are gone, the handles stay, and the
counter starts again, so that an old handle's id soon names a hook of
somebody else.

A handle is an address, here a number never used again. Two ghosts say who
is who: `installed` pairs every hook of the memory with the handle it was
installed for, `live` are the handles handed out and not deleted, with
their hooks.

> `Backend.handles_sound`: while no snapshot is loaded over live memory
> handles, each of them still fires, and deleting a handle takes no other
> handle's hook.
-/

namespace Seven

open Seven.Lib

/-- A hook's number for the user. -/
abbrev Handle := Nat

/-- `hook_object::kind`. -/
inductive HookObjectKind where
  | executor
  | memory
  | localHook
deriving DecidableEq

/-- What the handle stands for. -/
structure HookObject where
  hookKind : HookObjectKind := .localHook
  executorId : HookId := 0#64
  memoryId : HookId := 0#64

/-- `mmio_binding`; the write callback answers nothing. -/
structure MmioBinding where
  base : U64
  size : U64
  read : U64 → (n : Nat) → Vector Byte n

/-- The pair of callbacks the backend gives to the memory: both succeed. -/
def MmioBinding.callbacks (binding : MmioBinding) :
    Option MmioReadCallback × Option MmioWriteCallback :=
  (some fun offset n => some (binding.read offset n), some fun _ _ => true)

/-- The part of the backend the handles live in. -/
structure Backend where
  memory : Memory := {}
  hooks : List (Handle × HookObject) := []
  mmioBindings : List MmioBinding := []
  nextHandle : Handle := 1
  installed : List (Handle × AccessHookEntry) := []
  live : List (Handle × AccessHookEntry) := []

/-- A call of the backend. -/
inductive BackendCall where
  | hookMemoryRead (address size : U64)
  | hookMemoryWrite (address size : U64)
  /-- Any `hook_*` that makes an executor hook, under the executor's id. -/
  | hookExecutor (executorId : HookId)
  | deleteHook (hook : Handle)
  | mapMmio (binding : MmioBinding)
  /-- Page and region lists as the buffer holds them. -/
  | deserializeState (isSnapshot : Bool) (pages : List PageSnapshot)
      (regions : List MmioRegionSnapshot)

namespace Backend

/-- The hook of `hook_memory_read` and `hook_memory_write`: the user's
callback runs and the access goes on. -/
def memoryHook (kind : MemoryAccessKind) (id : HookId) (address size : U64) : AccessHookEntry :=
  { id := id, callback := fun _ => true, range := some ⟨address, size⟩, kinds := kind.bit }

/-- `hook_memory_read` and `hook_memory_write`. -/
def hookMemory (b : Backend) (kind : MemoryAccessKind) (address size : U64) : Handle × Backend :=
  let (id, memory) := b.memory.addAccessHook (fun _ => true) (some ⟨address, size⟩) kind.bit
  let entry := memoryHook kind id address size
  (b.nextHandle,
    { b with
      memory := memory
      hooks := b.hooks ++ [(b.nextHandle, { hookKind := .memory, memoryId := id })]
      nextHandle := b.nextHandle + 1
      installed := b.installed ++ [(b.nextHandle, entry)]
      live := b.live ++ [(b.nextHandle, entry)] })

def hookMemoryRead (b : Backend) := hookMemory b .dataRead
def hookMemoryWrite (b : Backend) := hookMemory b .dataWrite

/-- A hook that goes to the executor. -/
def makeExecutorHook (b : Backend) (executorId : HookId) : Handle × Backend :=
  (b.nextHandle,
    { b with
      hooks := b.hooks ++ [(b.nextHandle, { hookKind := .executor, executorId := executorId })]
      nextHandle := b.nextHandle + 1 })

/-- `memory_.remove_access_hook(id)`, with the ghost. -/
def removeMemoryHook (b : Backend) (id : HookId) : Backend :=
  { b with
    memory := (b.memory.removeAccessHook id).1
    installed := b.installed.eraseP fun p => p.2.id == id }

/-- `delete_hook`; what the executor does with its hooks is not the memory's
business. -/
def deleteHook (b : Backend) (hook : Handle) : Backend :=
  match b.hooks.find? fun entry => entry.1 == hook with
  | none => b
  | some (_, object) =>
    let b' := if object.hookKind = .memory then b.removeMemoryHook object.memoryId else b
    { b' with
      hooks := b'.hooks.eraseP fun entry => entry.1 == hook
      live := b'.live.filter fun p => p.1 != hook }

/-- `replace_or_add_binding`. -/
def replaceOrAddBinding (binding : MmioBinding) : List MmioBinding → List MmioBinding
  | [] => [binding]
  | b :: bs =>
    if b.base = binding.base ∧ b.size = binding.size then binding :: bs
    else b :: replaceOrAddBinding binding bs

/-- `map_mmio`: a region with the same range is replaced. -/
def mapMmio (b : Backend) (binding : MmioBinding) : Backend :=
  { b with
    mmioBindings := replaceOrAddBinding binding b.mmioBindings
    memory :=
      (b.memory.mapMmio binding.base binding.size binding.callbacks.1 binding.callbacks.2).2 }

/-- The resolver of `deserialize_state`: the first binding of the region's
base and size. -/
def resolveBinding (bindings : List MmioBinding) : MmioResolver := fun region =>
  (bindings.find? fun b => b.base == region.base && b.size == region.size).map
    MmioBinding.callbacks

/-- `deserialize_state`, past the registers. -/
def deserializeState (b : Backend) (isSnapshot : Bool) (pages : List PageSnapshot)
    (regions : List MmioRegionSnapshot) : Backend :=
  if isSnapshot then
    let memory : Memory := {}
    { b with
      memory :=
        (memory.restorePages pages).restoreMmioRegions regions (some (resolveBinding b.mmioBindings))
      installed := [] }
  else b

/-- One call. -/
def step (b : Backend) : BackendCall → Option Backend
  | .hookMemoryRead address size => some (b.hookMemoryRead address size).2
  | .hookMemoryWrite address size => some (b.hookMemoryWrite address size).2
  | .hookExecutor id => some (b.makeExecutorHook id).2
  | .deleteHook hook => some (b.deleteHook hook)
  | .mapMmio binding => some (b.mapMmio binding)
  | .deserializeState isSnapshot pages regions => some (b.deserializeState isSnapshot pages regions)

/-! ## The condition -/

/-- The memory's next id is not one of an installed hook; with the counter at
64 bits this fails only once it has come round. -/
def FreshId (b : Backend) : Prop := ∀ h ∈ b.memory.accessHooks, h.id ≠ b.memory.nextHookId

/-- The calls under which handles stay sound: no snapshot replaces the memory
while a memory handle is live. -/
def StepOk (b : Backend) : BackendCall → Prop
  | .hookMemoryRead _ _ => FreshId b
  | .hookMemoryWrite _ _ => FreshId b
  | .deserializeState isSnapshot _ _ => isSnapshot = true → b.live = []
  | .hookExecutor _ => True
  | .deleteHook _ => True
  | .mapMmio _ => True

instance decidableFreshId (b : Backend) : Decidable (FreshId b) :=
  inferInstanceAs (Decidable (∀ h ∈ b.memory.accessHooks, _))

instance decidableStepOk (b : Backend) : (c : BackendCall) → Decidable (StepOk b c)
  | .hookMemoryRead _ _ => inferInstanceAs (Decidable (FreshId b))
  | .hookMemoryWrite _ _ => inferInstanceAs (Decidable (FreshId b))
  | .deserializeState isSnapshot _ _ => inferInstanceAs (Decidable (isSnapshot = true → b.live = []))
  | .hookExecutor _ => inferInstanceAs (Decidable True)
  | .deleteHook _ => inferInstanceAs (Decidable True)
  | .mapMmio _ => inferInstanceAs (Decidable True)

end Backend

/-! ## The invariant -/

/-- Every hook of the memory is installed for a handle, under an id of its
own; live handles have their hooks installed; and a memory object remembers
the id of its own handle's hook. -/
structure HandleInv (b : Backend) : Prop where
  hooks : b.installed.map Prod.snd = b.memory.accessHooks
  ids : (b.installed.map fun p => p.2.id).Nodup
  agrees : ∀ h ∈ b.memory.accessHooks, ∀ event, h.callback event = true
  live : ∀ p ∈ b.live, p ∈ b.installed
  object : ∀ o ∈ b.hooks, o.2.hookKind = .memory → ∃ h, (o.1, h) ∈ b.live ∧ h.id = o.2.memoryId
  handles : (b.hooks.map Prod.fst).Nodup
  fresh : ∀ o ∈ b.hooks, o.1 < b.nextHandle

/-- The start. -/
theorem handleInv_init : HandleInv {} := by
  refine ⟨rfl, List.nodup_nil, ?_, ?_, ?_, List.nodup_nil, ?_⟩
  all_goals
    intro x hx
    exact absurd hx List.not_mem_nil

/-- Two installed hooks of one id are one. -/
theorem HandleInv.eq_of_id {b : Backend} (h : HandleInv b) {p q : Handle × AccessHookEntry}
    (hp : p ∈ b.installed) (hq : q ∈ b.installed) (hid : p.2.id = q.2.id) : p = q :=
  List.inj_on_of_nodup_map h.ids hp hq hid

/-- A key that is removed once from a list of distinct keys is gone. -/
theorem fst_ne_of_mem_eraseP {V : Type} {k : Handle} :
    ∀ {l : List (Handle × V)}, (l.map Prod.fst).Nodup →
      ∀ p ∈ l.eraseP (fun q => q.1 == k), p.1 ≠ k
  | [], _, p, hp => absurd hp List.not_mem_nil
  | q :: l, hnodup, p, hp => by
    have ⟨hnot, hrest⟩ := List.nodup_cons.mp (List.map_cons (f := Prod.fst) ▸ hnodup)
    rw [List.eraseP_cons] at hp
    by_cases hq : q.1 = k
    · rw [beq_iff_eq.mpr hq] at hp
      intro hpk
      exact hnot (hq.trans hpk.symm ▸ List.mem_map_of_mem hp)
    · rw [beq_eq_false_iff_ne.mpr hq] at hp
      rcases List.mem_cons.mp hp with rfl | hp
      · exact hq
      · exact fst_ne_of_mem_eraseP hrest p hp

/-- A new id behind the old ones. -/
theorem nodup_map_concat {A B : Type} (f : A → B) {l : List A} (h : (l.map f).Nodup) {x : A}
    (hx : ∀ y ∈ l, f y ≠ f x) : ((l ++ [x]).map f).Nodup := by
  rw [List.map_append]
  refine List.nodup_append.mpr ⟨h, List.nodup_singleton _, ?_⟩
  intro k hk k' hk'
  obtain ⟨y, hy, rfl⟩ := List.mem_map.mp hk
  rw [List.mem_singleton.mp hk']
  exact hx y hy

/-- The next handle is new, and the ones handed out stay below the counter. -/
theorem HandleInv.push {b : Backend} (h : HandleInv b) (object : HookObject) :
    ((b.hooks ++ [(b.nextHandle, object)]).map Prod.fst).Nodup ∧
      ∀ o ∈ b.hooks ++ [(b.nextHandle, object)], o.1 < b.nextHandle + 1 := by
  constructor
  · apply nodup_map_concat Prod.fst h.handles
    intro o ho heq
    have hlt := h.fresh o ho
    rw [heq] at hlt
    exact Nat.lt_irrefl _ hlt
  · intro o ho
    rcases List.mem_append.mp ho with ho | ho
    · exact Nat.lt_succ_of_lt (h.fresh o ho)
    · rw [List.mem_singleton.mp ho]
      exact Nat.lt_succ_self _

namespace Backend

/-- Step: a memory hook. -/
theorem hookMemory_inv {b : Backend} (h : HandleInv b) (hfresh : FreshId b) (kind : MemoryAccessKind)
    (address size : U64) : HandleInv (b.hookMemory kind address size).2 := by
  have ⟨hhandles, hbelow⟩ := h.push { hookKind := .memory, memoryId := b.memory.nextHookId }
  refine ⟨?_, ?_, ?_, ?_, ?_, hhandles, hbelow⟩
  -- The handle list and the memory's hook list are appended to together.
  · show (b.installed ++ [_]).map Prod.snd = b.memory.accessHooks ++ [_]
    rw [List.map_append, h.hooks]
    rfl
  -- The memory's next id is fresh, so the ids stay distinct.
  · apply nodup_map_concat (fun p : Handle × AccessHookEntry => p.2.id) h.ids
    intro p hp
    exact hfresh p.2 (h.hooks ▸ List.mem_map_of_mem hp)
  · intro g hg
    rcases List.mem_append.mp hg with hg | hg
    · exact h.agrees g hg
    · rw [List.mem_singleton.mp hg]
      intro _
      rfl
  · intro p hp
    rcases List.mem_append.mp hp with hp | hp
    · exact List.mem_append_left _ (h.live p hp)
    · exact List.mem_append_right _ hp
  -- An old object keeps its hook; the new one owns the entry just pushed.
  · intro o ho hmemory
    rcases List.mem_append.mp ho with ho | ho
    · obtain ⟨g, hg, hid⟩ := h.object o ho hmemory
      exact ⟨g, List.mem_append_left _ hg, hid⟩
    · rw [List.mem_singleton.mp ho]
      exact ⟨_, List.mem_append_right _ List.mem_cons_self, rfl⟩

/-- Step: an executor hook. -/
theorem makeExecutorHook_inv {b : Backend} (h : HandleInv b) (id : HookId) :
    HandleInv (b.makeExecutorHook id).2 := by
  have ⟨hhandles, hbelow⟩ := h.push { hookKind := .executor, executorId := id }
  refine ⟨h.hooks, h.ids, h.agrees, h.live, ?_, hhandles, hbelow⟩
  intro o ho hmemory
  rcases List.mem_append.mp ho with ho | ho
  · exact h.object o ho hmemory
  · rw [List.mem_singleton.mp ho] at hmemory
    cases hmemory

/-- Removing the hook of an id takes one hook, of that id. -/
theorem removeMemoryHook_inv {b : Backend} (h : HandleInv b) (id : HookId) :
    (b.removeMemoryHook id).installed.map Prod.snd = (b.removeMemoryHook id).memory.accessHooks ∧
      ((b.removeMemoryHook id).installed.map fun p => p.2.id).Nodup ∧
      (∀ g ∈ (b.removeMemoryHook id).memory.accessHooks, g ∈ b.memory.accessHooks) ∧
      ∀ p ∈ b.installed, p.2.id ≠ id → p ∈ (b.removeMemoryHook id).installed := by
  have hhooks := b.memory.removeAccessHook_accessHooks id
  refine ⟨?_, ?_, ?_, ?_⟩
  · show (b.installed.eraseP _).map Prod.snd = (b.memory.removeAccessHook id).1.accessHooks
    rw [hhooks, ← h.hooks, List.eraseP_map]
    rfl
  · exact h.ids.sublist (List.eraseP_sublist.map _)
  · intro g hg
    have hg' : g ∈ (b.memory.removeAccessHook id).1.accessHooks := hg
    rw [hhooks] at hg'
    exact List.mem_of_mem_eraseP hg'
  · intro p hp hid
    exact (List.mem_eraseP_of_neg (by rwa [beq_iff_eq])).mpr hp

/-- `delete_hook` keeps the invariant, and the hooks of all live handles but
the one deleted. -/
theorem deleteHook_inv {b : Backend} (h : HandleInv b) (hook : Handle) :
    HandleInv (b.deleteHook hook) ∧
      ∀ p ∈ b.live, p.1 ≠ hook → p ∈ (b.deleteHook hook).installed := by
  unfold deleteHook
  split
  next => exact ⟨h, fun p hp _ => h.live p hp⟩
  next handle object hfind =>
    have hmem := List.mem_of_find?_eq_some hfind
    have hfound := List.find?_some hfind
    have hhandle : handle = hook := beq_iff_eq.mp hfound
    subst hhandle
    -- The objects that stay are those of other handles, and so are the live ones.
    have hlive : ∀ p ∈ b.live.filter (fun p => p.1 != handle), p ∈ b.live ∧ p.1 ≠ handle := by
      intro p hp
      have ⟨hp', hne⟩ := List.mem_filter.mp hp
      exact ⟨hp', bne_iff_ne.mp hne⟩
    have hobject : ∀ o ∈ b.hooks.eraseP (fun entry => entry.1 == handle),
        o.2.hookKind = .memory →
          ∃ g, (o.1, g) ∈ b.live.filter (fun p => p.1 != handle) ∧ g.id = o.2.memoryId := by
      intro o ho hmemory
      have hne := fst_ne_of_mem_eraseP h.handles o ho
      obtain ⟨g, hg, hid⟩ := h.object o (List.mem_of_mem_eraseP ho) hmemory
      exact ⟨g, List.mem_filter.mpr ⟨hg, bne_iff_ne.mpr hne⟩, hid⟩
    have hhandles : ((b.hooks.eraseP fun entry => entry.1 == handle).map Prod.fst).Nodup :=
      h.handles.sublist (List.eraseP_sublist.map _)
    have hfresh : ∀ o ∈ b.hooks.eraseP (fun entry => entry.1 == handle), o.1 < b.nextHandle :=
      fun o ho => h.fresh o (List.mem_of_mem_eraseP ho)
    by_cases hkind : object.hookKind = .memory
    · -- A memory handle: its hook goes, and ids tell it from all others.
      obtain ⟨g, hg, hid⟩ := h.object _ hmem hkind
      have hothers : ∀ p ∈ b.live, p.1 ≠ handle → p.2.id ≠ object.memoryId := by
        intro p hp hne heq
        have hpg := h.eq_of_id (h.live p hp) (h.live _ hg) (heq.trans hid.symm)
        exact hne (congrArg Prod.fst hpg)
      obtain ⟨hhooks, hids, hsub, hkeep⟩ := removeMemoryHook_inv h object.memoryId
      have hstay : ∀ p ∈ b.live, p.1 ≠ handle →
          p ∈ (b.removeMemoryHook object.memoryId).installed :=
        fun p hp hne => hkeep p (h.live p hp) (hothers p hp hne)
      rw [if_pos hkind]
      refine ⟨⟨hhooks, hids, fun g' hg' => h.agrees g' (hsub g' hg'), ?_, hobject, hhandles, hfresh⟩,
        hstay⟩
      intro p hp
      have ⟨hp', hne⟩ := hlive p hp
      exact hstay p hp' hne
    · rw [if_neg hkind]
      exact ⟨⟨h.hooks, h.ids, h.agrees, fun p hp => h.live p (hlive p hp).1, hobject, hhandles, hfresh⟩,
        fun p hp _ => h.live p hp⟩

/-- Step: a device. -/
theorem mapMmio_inv {b : Backend} (h : HandleInv b) (binding : MmioBinding) :
    HandleInv (b.mapMmio binding) := by
  have hsame : (b.mapMmio binding).memory.accessHooks = b.memory.accessHooks := by
    show (b.memory.mapMmio _ _ _ _).2.accessHooks = _
    rw [Memory.mapMmio_snd]
    unfold Memory.pushMmioRegion
    split <;> rfl
  exact ⟨h.hooks.trans hsame.symm, h.ids, hsame.symm ▸ h.agrees, h.live, h.object, h.handles, h.fresh⟩

/-- Loading a snapshot over no live memory handle. -/
theorem deserializeState_inv {b : Backend} (h : HandleInv b) {isSnapshot : Bool}
    (hlive : isSnapshot = true → b.live = []) (pages : List PageSnapshot)
    (regions : List MmioRegionSnapshot) : HandleInv (b.deserializeState isSnapshot pages regions) := by
  unfold deserializeState
  split
  next hsnapshot =>
    have hnil := hlive hsnapshot
    have hnone : (Memory.restoreMmioRegions (Memory.restorePages {} pages) regions
        (some (resolveBinding b.mmioBindings))).accessHooks = [] :=
      congrArg Memory.accessHooks (Memory.withoutMmio_restoreMmioRegions _ regions _)
    refine ⟨hnone.symm, List.nodup_nil, ?_, ?_, ?_, h.handles, h.fresh⟩
    · intro g hg
      rw [hnone] at hg
      exact absurd hg List.not_mem_nil
    · intro p hp
      have hp' : p ∈ b.live := hp
      rw [hnil] at hp'
      exact absurd hp' List.not_mem_nil
    · exact h.object
  next => exact h

/-- One call within the condition keeps the invariant. -/
theorem step_inv {b b' : Backend} {c : BackendCall} (h : HandleInv b) (hok : StepOk b c)
    (hstep : b.step c = some b') : HandleInv b' := by
  cases c with
  | hookMemoryRead address size =>
    cases hstep
    exact hookMemory_inv h hok .dataRead address size
  | hookMemoryWrite address size =>
    cases hstep
    exact hookMemory_inv h hok .dataWrite address size
  | hookExecutor id =>
    cases hstep
    exact makeExecutorHook_inv h id
  | deleteHook hook =>
    cases hstep
    exact (deleteHook_inv h hook).1
  | mapMmio binding =>
    cases hstep
    exact mapMmio_inv h binding
  | deserializeState isSnapshot pages regions =>
    cases hstep
    exact deserializeState_inv h hok pages regions

/-- A handle's hook is the memory's `i`-th and is called by every access it
listens to. -/
def Fires (b : Backend) (p : Handle × AccessHookEntry) : Prop :=
  ∃ i, b.installed[i]? = some p ∧ b.memory.accessHooks[i]? = some p.2 ∧
    ∀ event, Memory.AccessHookEntry.listens p.2 event = true → i ∈ b.memory.calledHooks event

/-- Backend hooks never refuse, so an installed one fires. -/
theorem fires_of_installed {b : Backend} (h : HandleInv b) {p : Handle × AccessHookEntry}
    (hp : p ∈ b.installed) : Fires b p := by
  obtain ⟨pre, post, hsplit⟩ := List.append_of_mem hp
  have hhooks : b.memory.accessHooks = pre.map Prod.snd ++ p.2 :: post.map Prod.snd := by
    rw [← h.hooks, hsplit, List.map_append, List.map_cons]
  refine ⟨pre.length, ?_, ?_, ?_⟩
  · rw [hsplit]
    simp
  · rw [hhooks]
    simp
  · intro event hlistens
    refine mem_called.mpr
      ⟨pre.map Prod.snd, p.2, post.map Prod.snd, hhooks, List.length_map _, hlistens, ?_⟩
    intro g hg _
    apply h.agrees g
    rw [hhooks]
    exact List.mem_append_left _ hg

/-- **Hook handles.** In every run of calls within `StepOk`, every memory
handle that was returned and not deleted fires on each access its range and
kind match, and `delete_hook` of a handle keeps the hooks of all other live
handles. -/
theorem handles_sound {cs : List BackendCall} {b : Backend} (hrun : GuardedRun step StepOk {} cs b) :
    (∀ p ∈ b.live, Fires b p) ∧
      ∀ hook b', b.step (.deleteHook hook) = some b' →
        ∀ p ∈ b.live, p.1 ≠ hook → p ∈ b.installed ∧ p ∈ b'.installed := by
  have hinv : HandleInv b :=
    hrun.invariant (fun _ _ _ h hok hstep => step_inv h hok hstep) handleInv_init
  refine ⟨fun p hp => fires_of_installed hinv (hinv.live p hp), ?_⟩
  intro hook b' hstep p hp hne
  cases hstep
  exact ⟨hinv.live p hp, (deleteHook_inv hinv hook).2 p hp hne⟩

/-! ## Two runs -/

/-- Two hooks and a device; one hook is deleted, registers are restored, the
other one deleted, a snapshot with the device loaded and a hook set again. -/
def handleRun : List BackendCall :=
  [.hookMemoryRead 0x1000#64 8#64, .mapMmio ⟨0x8000#64, 0x1000#64, fun _ n => Vector.replicate n 0#8⟩,
    .hookMemoryWrite 0x2000#64 4#64, .deleteHook 1, .deserializeState false [] [], .deleteHook 2,
    .deserializeState true [] [⟨2#64, 0x8000#64, 0x1000#64⟩], .hookMemoryWrite 0x3000#64 4#64]

/-- The run of the witness. -/
theorem handles_sound_handleRun :
    ∃ b, GuardedRun step StepOk {} handleRun b ∧
      b.live.map (fun p => (p.1, p.2.id)) = [(3, 3#64)] ∧ ∀ p ∈ b.live, Fires b p := by
  have hrun := guardedRun_of_runGuarded (rfl : runGuarded step StepOk {} handleRun = some _)
  exact ⟨_, hrun, rfl, (handles_sound hrun).1⟩

/-- A hook, a snapshot without pages or regions, another hook. -/
def reloadRun : List BackendCall :=
  [.hookMemoryRead 0x1000#64 8#64, .deserializeState true [] [], .hookMemoryRead 0x2000#64 8#64]

/-- After the load the first handle's hook is gone, and deleting that handle
removes the hook of the second: both remember id 1. -/
theorem delete_after_load_removes_other :
    ∃ b b', reloadRun.foldlM step {} = some b ∧ b.step (.deleteHook 1) = some b' ∧
      b.live.map Prod.fst = [1, 2] ∧ b.installed.map Prod.fst = [2] ∧
      b'.live.map Prod.fst = [2] ∧ b'.installed.map Prod.fst = [] := by
  exact ⟨_, _, rfl, rfl, rfl, rfl, rfl, rfl⟩

end Backend

end Seven
