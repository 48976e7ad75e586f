import Seven.Memory.Basic
import Seven.Lib.WrapInterval
import Seven.Lib.Dispatch

/-!
# Access-hook matching

`access_allowed` walks the installed hooks in order, skips a hook whose kind
mask or range does not match the event, calls the others and stops at the
first refusal: a dispatch in the sense of the library, with `listens` (the
code's test) for listening.

A hook's range is a base and a size, and the test compares ends computed in
64-bit arithmetic. What it is meant to decide is `wants`: the mask contains
the kind, and the range, if there is one, shares an address with the access
as intervals of integers. `listens_eq_wants_iff` says where one hook's test
is right, and

> `Memory.calledHooks_exact_iff`: an access calls exactly the hooks that want
> it, up to the first refusal, if and only if the test is right at every hook
> the dispatch gets to.
-/

namespace Seven

open Seven.Lib

namespace Memory

/-! ## Installing and removing, outside a dispatch -/

/-- `add_access_hook`, outside a dispatch. -/
def addAccessHook (m : Memory) (callback : MemoryAccessEvent → Bool)
    (range : Option MemoryHookRange) (kinds : MemoryAccessKindMask) : HookId × Memory :=
  (m.nextHookId,
    { m with
      nextHookId := m.nextHookId + 1#64
      accessHooks := m.accessHooks ++ [⟨m.nextHookId, callback, range, kinds⟩] })

/-- `remove_access_hook`, outside a dispatch. -/
def removeAccessHook (m : Memory) (id : HookId) : Memory × Bool :=
  if m.accessHooks.any fun h => h.id == id then
    ({ m with accessHooks := m.accessHooks.eraseP fun h => h.id == id }, true)
  else (m, false)

/-- The first entry with that number goes. -/
theorem removeAccessHook_accessHooks (m : Memory) (id : HookId) :
    (m.removeAccessHook id).1.accessHooks = m.accessHooks.eraseP fun h => h.id == id := by
  unfold removeAccessHook
  split
  next => rfl
  next hany =>
    symm
    apply List.eraseP_of_forall_not
    intro h hh hid
    exact hany (List.any_eq_true.mpr ⟨h, hh, hid⟩)

/-! ## One hook -/

/-- Should the hook be called? -/
def AccessHookEntry.wants (h : AccessHookEntry) (event : MemoryAccessEvent) : Bool :=
  if h.kinds &&& event.kind.bit == 0#8 then false
  else
    match h.range with
    | none => true
    | some range => decide (Meets range.base range.size.toNat event.address event.size)

/-- The hook's range, if its mask contains the kind, is one whose wrapped end
and the access's decide as the integers do. -/
def AccessHookEntry.RangeSafe (h : AccessHookEntry) (event : MemoryAccessEvent) : Prop :=
  h.kinds &&& event.kind.bit ≠ 0#8 → ∀ range, h.range = some range →
    MeetsSafe range.base range.size.toNat event.address event.size

/-- The code's range test is the library's. -/
theorem AccessHookEntry.listens_some {h : AccessHookEntry} {range : MemoryHookRange}
    (hrange : h.range = some range) {event : MemoryAccessEvent}
    (hkind : h.kinds &&& event.kind.bit ≠ 0#8) :
    AccessHookEntry.listens h event =
      meetsWrapped range.base range.size.toNat event.address event.size := by
  have hkind' : ¬ (h.kinds &&& event.kind.bit == 0#8) = true := by
    rw [beq_iff_eq]
    exact hkind
  unfold AccessHookEntry.listens meetsWrapped wrapEnd
  rw [if_neg hkind', hrange, BitVec.ofNat_toNat, BitVec.setWidth_eq]
  simp only [Bool.not_or, ge_iff_le, ← BitVec.not_lt, decide_not, Bool.not_not]

/-- Where one hook's test is right. -/
theorem AccessHookEntry.listens_eq_wants_iff (h : AccessHookEntry) {event : MemoryAccessEvent}
    (hsize : 1 ≤ event.size) (hsize' : event.size < 2 ^ 64) :
    AccessHookEntry.listens h event = AccessHookEntry.wants h event ↔
      AccessHookEntry.RangeSafe h event := by
  unfold AccessHookEntry.RangeSafe
  by_cases hkind : h.kinds &&& event.kind.bit = 0#8
  · -- masked out, in the code and in the specification
    have hskip : (h.kinds &&& event.kind.bit == 0#8) = true := beq_iff_eq.mpr hkind
    unfold AccessHookEntry.listens AccessHookEntry.wants
    rw [if_pos hskip, if_pos hskip]
    constructor
    · intro _ hne
      exact absurd hkind hne
    · intro _
      rfl
  · have hskip : ¬ (h.kinds &&& event.kind.bit == 0#8) = true := by
      rw [beq_iff_eq]
      exact hkind
    cases hrange : h.range with
    -- A hook without a range hears every access of its kinds.
    | none =>
      unfold AccessHookEntry.listens AccessHookEntry.wants
      rw [if_neg hskip, if_neg hskip, hrange]
      constructor
      · intro _ _ range hsome
        cases hsome
      · intro _
        rfl
    -- With a range the sums of the code may wrap.
    | some range =>
      have hwants : AccessHookEntry.wants h event =
          decide (Meets range.base range.size.toNat event.address event.size) := by
        unfold AccessHookEntry.wants
        rw [if_neg hskip, hrange]
      rw [AccessHookEntry.listens_some hrange hkind, hwants,
        meetsWrapped_eq_iff range.size.isLt hsize hsize']
      constructor
      · intro hsafe _ range' hsome
        exact Option.some.inj hsome ▸ hsafe
      · intro hsafe
        exact hsafe hkind range rfl

/-! ## The dispatch -/

/-- The positions of the hooks that `access_allowed` calls. -/
def calledHooks (m : Memory) (event : MemoryAccessEvent) : List Nat :=
  called (fun h => AccessHookEntry.listens h event) (fun h => h.callback event) m.accessHooks

/-- The positions of the hooks that should be called: those that want the
event, up to and including the first one that refuses. -/
def wantedHooks (m : Memory) (event : MemoryAccessEvent) : List Nat :=
  called (fun h => AccessHookEntry.wants h event) (fun h => h.callback event) m.accessHooks

/-- The answer is the dispatch's: allowed unless a called hook refused. -/
theorem accessAllowed_iff_called (m : Memory) (event : MemoryAccessEvent) :
    m.accessAllowed event = true ↔
      ∀ i ∈ m.calledHooks event, ∃ h, m.accessHooks[i]? = some h ∧ h.callback event = true := by
  unfold accessAllowed calledHooks
  rw [← verdict_eq_all, verdict_iff_called]

/-- **Access-hook matching**: an access calls exactly the hooks that want it,
up to and including the first refusal, and is allowed iff all of these
agreed — exactly when every hook that is reached has a safe range. -/
theorem calledHooks_exact_iff (m : Memory) {event : MemoryAccessEvent}
    (hsize : 1 ≤ event.size) (hsize' : event.size < 2 ^ 64) :
    (m.calledHooks event = m.wantedHooks event ∧
      (m.accessAllowed event = true ↔
        ∀ i ∈ m.wantedHooks event, ∃ h, m.accessHooks[i]? = some h ∧ h.callback event = true)) ↔
      ∀ pre h post, m.accessHooks = pre ++ h :: post →
        (∀ g ∈ pre, AccessHookEntry.wants g event = true → g.callback event = true) →
        AccessHookEntry.RangeSafe h event := by
  have hanswer : m.calledHooks event = m.wantedHooks event →
      (m.accessAllowed event = true ↔
        ∀ i ∈ m.wantedHooks event, ∃ h, m.accessHooks[i]? = some h ∧ h.callback event = true) := by
    intro hsame
    rw [← hsame]
    exact accessAllowed_iff_called m event
  rw [and_iff_left_of_imp hanswer]
  show called _ _ m.accessHooks = called _ _ m.accessHooks ↔ _
  rw [called_eq_iff]
  constructor
  · intro hnone pre h post hsplit hpass
    rw [← AccessHookEntry.listens_eq_wants_iff h hsize hsize']
    by_contra hne
    exact hnone ⟨pre, h, post, hsplit, hpass, hne⟩
  · intro hall ⟨pre, h, post, hsplit, hpass, hne⟩
    exact hne ((AccessHookEntry.listens_eq_wants_iff h hsize hsize').mpr
      (hall pre h post hsplit hpass))

/-! ## Two runs -/

/-- A watch on the top page that refuses every write. -/
def topWatch : AccessHookEntry :=
  { id := 1#64, callback := fun _ => false, range := some ⟨0xFFFFFFFFFFFFF000#64, 0x1000#64⟩,
    kinds := MemoryAccessKind.dataWrite.bit }

/-- A write at the top of the address space. -/
def topWrite : MemoryAccessEvent :=
  { kind := .dataWrite, address := 0xFFFFFFFFFFFFF100#64, size := 8, data := none, dataSize := 0 }

/-- The watch is never called: its range ends at `2 ^ 64`, so its end wraps to
`0`, and the write it should refuse is allowed. -/
theorem topWatch_not_called :
    let m : Memory := { accessHooks := [topWatch] }
    m.calledHooks topWrite = [] ∧ m.wantedHooks topWrite = [0] ∧ m.accessAllowed topWrite = true := by
  decide

/-- The same watch on the page below the top, behind one for fetches. -/
def guardedMemory : Memory :=
  { accessHooks :=
      [{ topWatch with kinds := MemoryAccessKind.instructionFetch.bit },
        { topWatch with range := some ⟨0xFFFFFFFFFFFFE000#64, 0x1000#64⟩ }] }

/-- The same write further down. -/
def lowWrite : MemoryAccessEvent := { topWrite with address := 0xFFFFFFFFFFFFDFFC#64 }

/-- Below the top the two lists agree. -/
theorem calledHooks_exact_below_top :
    guardedMemory.calledHooks lowWrite = guardedMemory.wantedHooks lowWrite ∧
      (guardedMemory.accessAllowed lowWrite = true ↔
        ∀ i ∈ guardedMemory.wantedHooks lowWrite,
          ∃ h, guardedMemory.accessHooks[i]? = some h ∧ h.callback lowWrite = true) := by
  refine (calledHooks_exact_iff guardedMemory (by decide) (by decide)).mpr ?_
  intro pre h post hsplit _
  have hmem : h ∈ guardedMemory.accessHooks := by
    rw [hsplit]
    exact List.mem_append_right pre List.mem_cons_self
  intro hkind range hrange
  rcases List.mem_cons.mp hmem with rfl | hmem
  · exact absurd (by decide) hkind
  · rw [List.mem_singleton.mp hmem] at hrange
    rw [← Option.some.inj hrange]
    exact meetsSafe_of_lt (by decide) (by decide) (by decide)

end Memory

end Seven
