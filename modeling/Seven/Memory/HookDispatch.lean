import Seven.Memory.HookMatch
import Seven.Lib.GuardedRun

/-!
# Hook callbacks that use the memory

A hook callback may itself read, write, add and remove hooks. Changes asked
for during a dispatch are deferred: `dispatching_access_hooks_` sends them
to two queues, which the dispatch applies when it ends. The flag is one
boolean for all nesting levels, and *every* dispatch clears it and applies
the queues, not only the outermost.

The machine below runs the memory's hook state beside a stack of dispatches
in progress, each at the index of the hook whose callback is running.
A callback's accesses, additions and removals are the actions taken until
it returns; which actions those are is left open, so a run stands for any
callbacks whatever.

Two ghosts ride along. `live` are the hooks that an access owes a call:
added, not removed since, and installed by now if they were added during a
dispatch (until that ends they are `waiting`). `log` keeps, for each
finished dispatch, what it owed and whom it called.

> `HookWorld.accessHooks_stable`: while every step is within `StepOk`, no
> step changes the list under a running dispatch, and every finished
> dispatch called all it owed, up to the first refusal.

`StepOk` rules out two things: a change of the list by a callback that has
lost the deferral to a nested access, and a nested access that ends while
changes are queued.
-/

namespace Seven

open Seven.Lib

/-! ## The hook state of a memory -/

/-- An installed hook; what its callback does is up to the run. -/
structure HookEntry where
  id : HookId
  range : Option MemoryHookRange
  kinds : MemoryAccessKindMask

/-- The code's test, which does not look at the callback. -/
def HookEntry.listens (h : HookEntry) (event : MemoryAccessEvent) : Bool :=
  Memory.AccessHookEntry.listens ⟨h.id, fun _ => true, h.range, h.kinds⟩ event

/-- The part of `Memory` the hooks live in. -/
structure HookState where
  accessHooks : List HookEntry := []
  pendingAdded : List HookEntry := []
  pendingRemoved : List HookId := []
  dispatching : Bool := false
  hasAny : Bool := false
  activeKinds : MemoryAccessKindMask := 0#8
  nextHookId : HookId := 1#64

namespace HookState

/-- `refresh_access_hook_state`. -/
def refresh (m : HookState) : HookState :=
  { m with
    activeKinds := (m.accessHooks ++ m.pendingAdded).foldl (fun mask h => mask ||| h.kinds) 0#8
    hasAny := m.dispatching || !m.accessHooks.isEmpty || !m.pendingAdded.isEmpty ||
      !m.pendingRemoved.isEmpty }

/-- `add_access_hook`: inside a dispatch the entry waits. -/
def addAccessHook (m : HookState) (range : Option MemoryHookRange) (kinds : MemoryAccessKindMask) :
    HookId × HookState :=
  let entry : HookEntry := ⟨m.nextHookId, range, kinds⟩
  let m' := { m with nextHookId := m.nextHookId + 1#64 }
  (m.nextHookId,
    if m.dispatching then refresh { m' with pendingAdded := m.pendingAdded ++ [entry] }
    else refresh { m' with accessHooks := m.accessHooks ++ [entry] })

/-- Some hook of the list has this number. -/
def exists? (id : HookId) (hooks : List HookEntry) : Bool := hooks.any fun h => h.id == id

/-- `remove_access_hook`: inside a dispatch the number waits. -/
def removeAccessHook (m : HookState) (id : HookId) : HookState × Bool :=
  if m.dispatching then
    if exists? id m.accessHooks || exists? id m.pendingAdded then
      (refresh { m with pendingRemoved := m.pendingRemoved ++ [id] }, true)
    else (m, false)
  else if exists? id m.accessHooks then
    (refresh { m with accessHooks := m.accessHooks.eraseP fun h => h.id == id }, true)
  else (m, false)

/-- One queued removal, from the list and from the queued additions. -/
def applyRemoval (m : HookState) (id : HookId) : HookState :=
  { m with
    accessHooks := m.accessHooks.filter fun h => h.id != id
    pendingAdded := m.pendingAdded.filter fun h => h.id != id }

/-- `apply_pending_access_hook_ops`: removals first, then additions. -/
def applyPending (m : HookState) : HookState :=
  let removed := { m.pendingRemoved.foldl applyRemoval m with pendingRemoved := [] }
  refresh { removed with
    accessHooks := removed.accessHooks ++ removed.pendingAdded
    pendingAdded := [] }

/-- What both ends of a dispatch do. -/
def endDispatch (m : HookState) : HookState := applyPending { m with dispatching := false }

end HookState

/-! ## Dispatches in progress -/

/-- A dispatch in progress: `index` is the position of the hook whose
callback is running. `installed`, `owed` and `called` are ghosts: the list
the dispatch started with, the hooks it owes a call, the hooks called. -/
structure Dispatch where
  event : MemoryAccessEvent
  index : Nat
  installed : List HookEntry
  owed : List HookEntry
  called : List HookEntry

/-- A dispatch that ended. -/
structure DispatchRecord where
  event : MemoryAccessEvent
  installed : List HookEntry
  owed : List HookEntry
  called : List HookEntry
  allowed : Bool

/-- The memory, the dispatches that have begun and not ended, and two ghost lists: the hooks that
are installed, and those that wait. -/
structure HookWorld where
  mem : HookState := {}
  stack : List Dispatch := []
  live : List HookEntry := []
  waiting : List HookEntry := []
  log : List DispatchRecord := []

/-- What a program or a callback may do. -/
inductive HookCall where
  /-- A read or write; inside a callback, a nested one. -/
  | access (event : MemoryAccessEvent)
  | add (range : Option MemoryHookRange) (kinds : MemoryAccessKindMask)
  | remove (id : HookId)
  /-- `map_mmio` or `restore_mmio_regions`: of this state, only the id
  counter moves. -/
  | renumber (next : HookId)
  /-- The running callback returns. -/
  | ret (answer : Bool)

/-- The next hook from position `i` on that listens. -/
def nextListening (event : MemoryAccessEvent) : List HookEntry → Nat → Option (Nat × HookEntry)
  | [], _ => none
  | h :: hooks, i => if h.listens event then some (i, h) else nextListening event hooks (i + 1)

namespace HookWorld

/-- The dispatch `d` ends over the dispatches `rest`. -/
def finish (w : HookWorld) (d : Dispatch) (rest : List Dispatch) (allowed : Bool) : HookWorld :=
  { mem := w.mem.endDispatch
    stack := rest
    live := if rest.isEmpty then w.live ++ w.waiting else w.live
    waiting := if rest.isEmpty then [] else w.waiting
    log := w.log ++ [⟨d.event, d.installed, d.owed, d.called, allowed⟩] }

/-- The loop of `access_allowed` from position `start`: on to the next
callback, or to the end of the list. -/
def proceed (w : HookWorld) (d : Dispatch) (rest : List Dispatch) (start : Nat) : HookWorld :=
  match nextListening d.event (w.mem.accessHooks.drop start) start with
  | some (i, h) => { w with stack := { d with index := i, called := d.called ++ [h] } :: rest }
  | none => w.finish d rest true

/-- The hooks an access made now owes a call. -/
def owedTo (w : HookWorld) (event : MemoryAccessEvent) : List HookEntry :=
  w.live.filter fun h => h.listens event

/-- One action. Should the list change under a dispatch, the source has no
defined behaviour; the step goes on by index, and the guarded runs never
get there. -/
def step (w : HookWorld) : HookCall → Option HookWorld
  | .access event =>
    let d : Dispatch := ⟨event, 0, w.mem.accessHooks, w.owedTo event, []⟩
    if w.mem.hasAny then
      -- The event is passed to the first hook that listens.
      some (proceed { w with mem := { w.mem with dispatching := true } } d w.stack 0)
    else
      -- No hook is installed: the access is allowed at once.
      some { w with log := w.log ++ [⟨event, d.installed, d.owed, [], true⟩] }
  | .add range kinds =>
    let entry : HookEntry := ⟨w.mem.nextHookId, range, kinds⟩
    let mem := (w.mem.addAccessHook range kinds).2
    -- Under a dispatch the hook waits for the outermost one to end.
    if w.stack.isEmpty then some { w with mem := mem, live := w.live ++ [entry] }
    else some { w with mem := mem, waiting := w.waiting ++ [entry] }
  | .remove id =>
    some { w with
      mem := (w.mem.removeAccessHook id).1
      live := w.live.filter fun h => h.id != id
      waiting := w.waiting.filter fun h => h.id != id }
  | .renumber next => some { w with mem := { w.mem with nextHookId := next } }
  | .ret answer =>
    match w.stack with
    | [] => none
    | d :: rest =>
      -- A hook that refuses ends the dispatch.
      if answer then some (w.proceed d rest (d.index + 1)) else some (w.finish d rest false)

/-! ## The condition -/

/-- The queues would leave the list as it is: no removal names an installed
hook, and every addition is removed again. -/
def QueuesCancel (m : HookState) : Prop :=
  (∀ h ∈ m.accessHooks, h.id ∉ m.pendingRemoved) ∧ ∀ h ∈ m.pendingAdded, h.id ∈ m.pendingRemoved

/-- Nobody from position `start` on listens, so the dispatch ends. -/
def NoneFrom (m : HookState) (event : MemoryAccessEvent) (start : Nat) : Prop :=
  ∀ h ∈ m.accessHooks.drop start, h.listens event = false

/-- A callback returns: if that ends a nested dispatch, the queues cancel
out. -/
def ReturnOk (m : HookState) (answer : Bool) : List Dispatch → Prop
  | d :: _ :: _ => answer = false ∨ NoneFrom m d.event (d.index + 1) → QueuesCancel m
  | _ => True

/-- The steps under which deferral works. A nested dispatch ends only with
queues that cancel out, and a callback changes the list only while the flag
defers the change. The last condition of `add` fails only after the 64-bit
id counter has come round to an id that waits for its removal. -/
def StepOk (w : HookWorld) : HookCall → Prop
  | .access event => w.stack ≠ [] → NoneFrom w.mem event 0 → QueuesCancel w.mem
  | .add _ _ => (w.stack ≠ [] → w.mem.dispatching = true) ∧ w.mem.nextHookId ∉ w.mem.pendingRemoved
  | .remove id =>
    w.stack ≠ [] → w.mem.dispatching = false → ∀ h ∈ w.mem.accessHooks, h.id ≠ id
  | .renumber _ => True
  | .ret answer => ReturnOk w.mem answer w.stack

instance decidableQueuesCancel (m : HookState) : Decidable (QueuesCancel m) :=
  inferInstanceAs (Decidable (_ ∧ _))

instance decidableNoneFrom (m : HookState) (event : MemoryAccessEvent) (start : Nat) :
    Decidable (NoneFrom m event start) :=
  inferInstanceAs (Decidable (∀ h ∈ m.accessHooks.drop start, _))

instance decidableReturnOk (m : HookState) (answer : Bool) :
    (stack : List Dispatch) → Decidable (ReturnOk m answer stack)
  | [] => inferInstanceAs (Decidable True)
  | [_] => inferInstanceAs (Decidable True)
  | d :: _ :: _ =>
    inferInstanceAs (Decidable (answer = false ∨ NoneFrom m d.event (d.index + 1) → _))

instance decidableStepOk (w : HookWorld) : (a : HookCall) → Decidable (StepOk w a)
  | .access event => inferInstanceAs (Decidable (w.stack ≠ [] → NoneFrom w.mem event 0 → _))
  | .add _ _ => inferInstanceAs (Decidable ((w.stack ≠ [] → w.mem.dispatching = true) ∧ _))
  | .remove _ =>
    inferInstanceAs (Decidable (w.stack ≠ [] → w.mem.dispatching = false →
      ∀ h ∈ w.mem.accessHooks, _))
  | .renumber _ => inferInstanceAs (Decidable True)
  | .ret answer => inferInstanceAs (Decidable (ReturnOk w.mem answer w.stack))

end HookWorld

/-! ## What an end of dispatch does -/

namespace HookState

/-- The removals one by one are one filter. -/
theorem foldl_applyRemoval :
    ∀ (ids : List HookId) (m : HookState), ids.foldl applyRemoval m =
      { m with
        accessHooks := m.accessHooks.filter fun h => decide (h.id ∉ ids)
        pendingAdded := m.pendingAdded.filter fun h => decide (h.id ∉ ids) }
  | [], m => by simp
  | id :: ids, m => by
    have hboth : ∀ hooks : List HookEntry,
        (hooks.filter fun h => h.id != id).filter (fun h => decide (h.id ∉ ids)) =
          hooks.filter fun h => decide (h.id ∉ id :: ids) := by
      intro hooks
      rw [List.filter_filter]
      apply List.filter_congr
      intro h _
      rw [Bool.eq_iff_iff]
      simp [and_comm]
    rw [List.foldl_cons, foldl_applyRemoval ids]
    simp only [applyRemoval, hboth]

/-- An end of dispatch leaves the hooks that no removal names, then the
queued additions that none does; nothing stays queued. -/
theorem endDispatch_spec (m : HookState) :
    m.endDispatch.accessHooks =
        (m.accessHooks.filter fun h => decide (h.id ∉ m.pendingRemoved)) ++
          m.pendingAdded.filter (fun h => decide (h.id ∉ m.pendingRemoved)) ∧
      m.endDispatch.pendingAdded = [] ∧ m.endDispatch.pendingRemoved = [] ∧
      m.endDispatch.dispatching = false ∧
      m.endDispatch.hasAny = !m.endDispatch.accessHooks.isEmpty := by
  unfold endDispatch applyPending refresh
  rw [foldl_applyRemoval]
  simp

/-- With queues that cancel out, an end of dispatch keeps the list. -/
theorem endDispatch_accessHooks_of_cancel {m : HookState} (h : HookWorld.QueuesCancel m) :
    m.endDispatch.accessHooks = m.accessHooks := by
  rw [m.endDispatch_spec.1]
  have hkept : (m.accessHooks.filter fun h => decide (h.id ∉ m.pendingRemoved)) = m.accessHooks := by
    rw [List.filter_eq_self]
    intro g hg
    exact decide_eq_true (h.1 g hg)
  have hnone : (m.pendingAdded.filter fun h => decide (h.id ∉ m.pendingRemoved)) = [] := by
    rw [List.filter_eq_nil_iff]
    intro g hg hkeep
    exact of_decide_eq_true hkeep (h.2 g hg)
  rw [hkept, hnone, List.append_nil]

end HookState

/-! ## The invariant -/

/-- What the two ghosts say about the list and the queues: an owed hook is
installed and no removal names it; a waiting one is queued. -/
structure HooksKept (m : HookState) (live waiting : List HookEntry) : Prop where
  live : ∀ h ∈ live, h ∈ m.accessHooks ∧ h.id ∉ m.pendingRemoved
  waiting : ∀ h ∈ waiting, h ∈ m.pendingAdded ∧ h.id ∉ m.pendingRemoved
  any : m.accessHooks ≠ [] → m.hasAny = true
  direct : m.dispatching = false → m.pendingAdded = [] ∧ m.pendingRemoved = []

/-- A dispatch in progress runs over the present list and has called every
listening hook up to its index. -/
structure Dispatch.Ok (hooks : List HookEntry) (d : Dispatch) : Prop where
  inside : d.index < hooks.length
  installed : d.installed = hooks
  owed : ∀ h ∈ d.owed, h ∈ hooks ∧ h.listens d.event = true
  called : d.called = (hooks.take (d.index + 1)).filter fun h => h.listens d.event
  running : d.called ≠ []

/-- A dispatch that did what it should: it owed nothing but hooks installed
at its start, called listening hooks in list order, and all of them unless
one refused. -/
structure DispatchRecord.Complete (o : DispatchRecord) : Prop where
  owed : ∀ h ∈ o.owed, h ∈ o.installed ∧ h.listens o.event = true
  called : o.called <+: o.installed.filter fun h => h.listens o.event
  allowed : o.allowed = true → o.called = o.installed.filter fun h => h.listens o.event
  refused : o.allowed = false → o.called ≠ []

/-- What holds in every reachable state. -/
structure HookInv (w : HookWorld) : Prop where
  kept : HooksKept w.mem w.live w.waiting
  idle : w.stack = [] → w.mem.dispatching = false
  stack : ∀ d ∈ w.stack, d.Ok w.mem.accessHooks
  log : ∀ o ∈ w.log, o.Complete

/-- The start. -/
theorem hookInv_init : HookInv {} := by
  refine ⟨⟨?_, ?_, ?_, ?_⟩, ?_, ?_, ?_⟩
  · intro h hh
    exact absurd hh List.not_mem_nil
  · intro h hh
    exact absurd hh List.not_mem_nil
  · intro hne
    exact absurd rfl hne
  · intro _
    exact ⟨rfl, rfl⟩
  · intro _
    rfl
  · intro d hd
    exact absurd hd List.not_mem_nil
  · intro o ho
    exact absurd ho List.not_mem_nil

/-! ## A dispatch moves on -/

/-- No hook listens when the search ends without one. -/
theorem nextListening_none {event : MemoryAccessEvent} :
    ∀ {hooks : List HookEntry} {i : Nat}, nextListening event hooks i = none →
      ∀ h ∈ hooks, h.listens event = false
  | [], _, _, h, hh => absurd hh List.not_mem_nil
  | g :: hooks, i, hnone, h, hh => by
    unfold nextListening at hnone
    split at hnone
    next => cases hnone
    next hg =>
      rcases List.mem_cons.mp hh with rfl | hh
      · exact Bool.eq_false_iff.mpr hg
      · exact nextListening_none hnone h hh

/-- The search stops at the first hook that listens. -/
theorem nextListening_some {event : MemoryAccessEvent} :
    ∀ {hooks : List HookEntry} {i j : Nat} {h : HookEntry}, nextListening event hooks i = some (j, h) →
      h.listens event = true ∧ ∃ pre post, hooks = pre ++ h :: post ∧ j = i + pre.length ∧
        ∀ g ∈ pre, g.listens event = false
  | [], _, _, _, hsome => by cases hsome
  | g :: hooks, i, j, h, hsome => by
    unfold nextListening at hsome
    split at hsome
    next hg =>
      obtain ⟨rfl, rfl⟩ := Prod.mk.inj (Option.some.inj hsome)
      exact ⟨hg, [], hooks, rfl, rfl, fun _ hf => absurd hf List.not_mem_nil⟩
    next hg =>
      obtain ⟨hl, pre, post, heq, hj, hpre⟩ := nextListening_some hsome
      refine ⟨hl, g :: pre, post, by rw [heq, List.cons_append], ?_, ?_⟩
      · rw [hj, List.length_cons]
        omega
      · intro f hf
        rcases List.mem_cons.mp hf with rfl | hf
        · exact Bool.eq_false_iff.mpr hg
        · exact hpre f hf

/-- The listening hooks up to the next one: those before, and it. -/
theorem filter_take_next {event : MemoryAccessEvent} {hooks : List HookEntry} {start j : Nat}
    {h : HookEntry} (hstart : start ≤ hooks.length)
    (hnext : nextListening event (hooks.drop start) start = some (j, h)) :
    j < hooks.length ∧ (hooks.take (j + 1)).filter (fun g => g.listens event) =
      (hooks.take start).filter (fun g => g.listens event) ++ [h] := by
  obtain ⟨hl, pre, post, hdrop, rfl, hpre⟩ := nextListening_some hnext
  -- The hooks passed over do not listen.
  have hsplit : hooks = (hooks.take start ++ pre ++ [h]) ++ post := by
    rw [List.append_assoc, List.append_assoc, List.singleton_append, ← hdrop, List.take_append_drop]
  have hlen : (hooks.take start ++ pre ++ [h]).length = start + pre.length + 1 := by
    rw [List.length_append, List.length_append, List.length_take, Nat.min_eq_left hstart,
      List.length_singleton]
  have hskip : pre.filter (fun g => g.listens event) = [] := by
    rw [List.filter_eq_nil_iff]
    intro g hg
    rw [hpre g hg]
    exact Bool.false_ne_true
  constructor
  · have htotal := congrArg List.length hsplit
    rw [List.length_append, hlen] at htotal
    omega
  · have htake : hooks.take (start + pre.length + 1) = hooks.take start ++ pre ++ [h] :=
      (congrArg (List.take _) hsplit).trans (List.take_left' hlen)
    rw [htake, List.filter_append, List.filter_append, hskip, List.append_nil,
      List.filter_singleton, hl]
    rfl

/-- No listening hook from `start` on: those before are all. -/
theorem filter_take_last {event : MemoryAccessEvent} {hooks : List HookEntry} {start : Nat}
    (hnone : ∀ h ∈ hooks.drop start, h.listens event = false) :
    (hooks.take start).filter (fun g => g.listens event) = hooks.filter (fun g => g.listens event) := by
  have hrest : (hooks.drop start).filter (fun g => g.listens event) = [] := by
    rw [List.filter_eq_nil_iff]
    intro g hg
    rw [hnone g hg]
    exact Bool.false_ne_true
  rw [← List.append_nil ((hooks.take start).filter _), ← hrest, ← List.filter_append,
    List.take_append_drop]

namespace HookWorld

/-- A dispatch ends. The outermost one installs what waits; a nested one, by
the condition, changes nothing. -/
theorem finish_inv {w : HookWorld} {d : Dispatch} {rest : List Dispatch} {allowed : Bool}
    (hkept : HooksKept w.mem w.live w.waiting) (hrest : ∀ e ∈ rest, e.Ok w.mem.accessHooks)
    (hlog : ∀ o ∈ w.log, o.Complete)
    (hout : DispatchRecord.Complete ⟨d.event, d.installed, d.owed, d.called, allowed⟩)
    (hcancel : rest ≠ [] → QueuesCancel w.mem) : HookInv (w.finish d rest allowed) := by
  obtain ⟨hhooks, hadded, hremoved, hflag, hany⟩ := w.mem.endDispatch_spec
  -- No live hook is among those the flush removes.
  have hlive : ∀ h ∈ w.live, h ∈ w.mem.endDispatch.accessHooks := by
    intro h hh
    have ⟨hmem, hid⟩ := hkept.live h hh
    rw [hhooks]
    exact List.mem_append_left _ (List.mem_filter.mpr ⟨hmem, decide_eq_true hid⟩)
  have hwaiting : ∀ h ∈ w.waiting, h ∈ w.mem.endDispatch.accessHooks := by
    intro h hh
    have ⟨hmem, hid⟩ := hkept.waiting h hh
    rw [hhooks]
    exact List.mem_append_right _ (List.mem_filter.mpr ⟨hmem, decide_eq_true hid⟩)
  have hunnamed : ∀ h : HookEntry, h.id ∉ w.mem.endDispatch.pendingRemoved := by
    intro h
    rw [hremoved]
    exact List.not_mem_nil
  have hdirect : w.mem.endDispatch.hasAny = !w.mem.endDispatch.accessHooks.isEmpty := hany
  refine ⟨⟨?_, ?_, ?_, ?_⟩, ?_, ?_, ?_⟩
  -- The flush of the outermost dispatch makes the waiting hooks live.
  · intro h hh
    refine ⟨?_, hunnamed h⟩
    by_cases hempty : rest.isEmpty = true
    · have hh' : h ∈ w.live ++ w.waiting := by simpa only [finish, hempty, if_true] using hh
      rcases List.mem_append.mp hh' with hh' | hh'
      · exact hlive h hh'
      · exact hwaiting h hh'
    · have hh' : h ∈ w.live := by simpa only [finish, if_neg hempty] using hh
      exact hlive h hh'
  · intro h hh
    by_cases hempty : rest.isEmpty = true
    · have hh' : h ∈ ([] : List HookEntry) := by simpa only [finish, hempty, if_true] using hh
      exact absurd hh' List.not_mem_nil
    · -- A nested end: a waiting hook would be an addition that no removal names.
      have hh' : h ∈ w.waiting := by simpa only [finish, if_neg hempty] using hh
      have ⟨hmem, hid⟩ := hkept.waiting h hh'
      have hne : rest ≠ [] := fun he => hempty (he ▸ rfl)
      exact absurd ((hcancel hne).2 h hmem) hid
  · intro hne
    show w.mem.endDispatch.hasAny = true
    rw [hdirect, Bool.not_eq_true', ← Bool.not_eq_true, List.isEmpty_iff]
    exact hne
  · intro _
    exact ⟨hadded, hremoved⟩
  · intro _
    exact hflag
  · intro e he
    have hne : rest ≠ [] := List.ne_nil_of_mem he
    show e.Ok w.mem.endDispatch.accessHooks
    rw [HookState.endDispatch_accessHooks_of_cancel (hcancel hne)]
    exact hrest e he
  · intro o ho
    rcases List.mem_append.mp ho with ho | ho
    · exact hlog o ho
    · rw [List.mem_singleton.mp ho]
      exact hout

/-- Under the same condition, an end that leaves a dispatch running keeps
the list. -/
theorem finish_accessHooks {w : HookWorld} {d : Dispatch} {rest : List Dispatch} {allowed : Bool}
    (hcancel : rest ≠ [] → QueuesCancel w.mem) (hstack : (w.finish d rest allowed).stack ≠ []) :
    (w.finish d rest allowed).mem.accessHooks = w.mem.accessHooks :=
  HookState.endDispatch_accessHooks_of_cancel (hcancel hstack)

/-- The list stays as it was while a dispatch goes on. -/
theorem proceed_accessHooks {w : HookWorld} {d : Dispatch} {rest : List Dispatch} {start : Nat}
    (hcancel : rest ≠ [] → NoneFrom w.mem d.event start → QueuesCancel w.mem)
    (hstack : (w.proceed d rest start).stack ≠ []) :
    (w.proceed d rest start).mem.accessHooks = w.mem.accessHooks := by
  unfold proceed at hstack ⊢
  split at hstack
  next => rfl
  next hnone => exact finish_accessHooks (fun hne => hcancel hne (nextListening_none hnone)) hstack

/-- A dispatch moves on from position `start`. -/
theorem proceed_inv {w : HookWorld} {d : Dispatch} {rest : List Dispatch} {start : Nat}
    (hkept : HooksKept w.mem w.live w.waiting) (hrest : ∀ e ∈ rest, e.Ok w.mem.accessHooks)
    (hlog : ∀ o ∈ w.log, o.Complete) (hstart : start ≤ w.mem.accessHooks.length)
    (hinstalled : d.installed = w.mem.accessHooks)
    (howed : ∀ h ∈ d.owed, h ∈ w.mem.accessHooks ∧ h.listens d.event = true)
    (hcalled : d.called = (w.mem.accessHooks.take start).filter fun h => h.listens d.event)
    (hcancel : rest ≠ [] → NoneFrom w.mem d.event start → QueuesCancel w.mem) :
    HookInv (w.proceed d rest start) := by
  unfold proceed
  split
  -- A hook is called: the dispatch goes on the stack.
  next i h hnext =>
    have ⟨hinside, hlist⟩ := filter_take_next hstart hnext
    refine ⟨hkept, fun hnil => absurd hnil (List.cons_ne_nil _ _), ?_, hlog⟩
    intro e he
    rcases List.mem_cons.mp he with rfl | he
    · exact ⟨hinside, hinstalled, howed, by rw [hlist, ← hcalled], List.concat_ne_nil _ _⟩
    · exact hrest e he
  -- No hook is left: every listening hook was called.
  next hnone =>
    have hlast := nextListening_none hnone
    have hall : d.called = d.installed.filter fun h => h.listens d.event := by
      rw [hinstalled, hcalled, filter_take_last hlast]
    refine finish_inv hkept hrest hlog ⟨?_, ⟨[], ?_⟩, fun _ => hall, ?_⟩ fun hne => hcancel hne hlast
    · intro h hh
      rw [hinstalled]
      exact howed h hh
    · rw [List.append_nil]
      exact hall
    · intro hfalse
      cases hfalse

end HookWorld

/-! ## Additions and removals -/

namespace HookState

/-- Adding during a dispatch queues the hook, adding outside installs it. -/
theorem addAccessHook_spec (m : HookState) (range : Option MemoryHookRange)
    (kinds : MemoryAccessKindMask) :
    let m' := (m.addAccessHook range kinds).2
    let entry : HookEntry := ⟨m.nextHookId, range, kinds⟩
    m'.accessHooks = (if m.dispatching then m.accessHooks else m.accessHooks ++ [entry]) ∧
      m'.pendingAdded = (if m.dispatching then m.pendingAdded ++ [entry] else m.pendingAdded) ∧
      m'.pendingRemoved = m.pendingRemoved ∧ m'.dispatching = m.dispatching ∧
      m'.hasAny = true := by
  unfold addAccessHook refresh
  cases hflag : m.dispatching <;> simp

/-- Removing during a dispatch at most queues the id. -/
theorem removeAccessHook_dispatching {m : HookState} (hflag : m.dispatching = true) (id : HookId) :
    let m' := (m.removeAccessHook id).1
    m'.accessHooks = m.accessHooks ∧ m'.pendingAdded = m.pendingAdded ∧
      (∀ i ∈ m'.pendingRemoved, i ∈ m.pendingRemoved ∨ i = id) ∧ m'.dispatching = true ∧
      (m.hasAny = true → m'.hasAny = true) := by
  unfold removeAccessHook
  rw [if_pos hflag]
  split
  next =>
    refine ⟨rfl, rfl, ?_, hflag, fun _ => ?_⟩
    · intro i hi
      rcases List.mem_append.mp hi with hi | hi
      · exact Or.inl hi
      · exact Or.inr (List.mem_singleton.mp hi)
    · simp [refresh, hflag]
  next => exact ⟨rfl, rfl, fun i hi => Or.inl hi, hflag, fun h => h⟩

/-- Removing outside a dispatch takes at most one hook of that id out. -/
theorem removeAccessHook_direct {m : HookState} (hflag : m.dispatching = false) (id : HookId) :
    let m' := (m.removeAccessHook id).1
    (∀ h ∈ m.accessHooks, h.id ≠ id → h ∈ m'.accessHooks) ∧
      ((∀ h ∈ m.accessHooks, h.id ≠ id) → m' = m) ∧
      m'.pendingAdded = m.pendingAdded ∧ m'.pendingRemoved = m.pendingRemoved ∧
      m'.dispatching = false ∧
      ((m.accessHooks ≠ [] → m.hasAny = true) → m'.accessHooks ≠ [] → m'.hasAny = true) := by
  unfold removeAccessHook
  rw [if_neg (by rw [hflag]; exact Bool.false_ne_true)]
  split
  next hexists =>
    refine ⟨?_, ?_, rfl, rfl, hflag, fun _ hne => ?_⟩
    · intro h hh hid
      exact (List.mem_eraseP_of_neg (by simpa using hid)).mpr hh
    · intro hnone
      obtain ⟨h, hh, hid⟩ := List.any_eq_true.mp hexists
      exact absurd (beq_iff_eq.mp hid) (hnone h hh)
    · simp only [refresh, Bool.or_eq_true, Bool.not_eq_true', List.isEmpty_eq_false_iff]
      exact Or.inl (Or.inl (Or.inr hne))
  next => exact ⟨fun h hh _ => hh, fun _ => rfl, rfl, rfl, hflag, fun h => h⟩

end HookState

namespace HookWorld

/-- Step: a hook added. -/
theorem add_inv {w w' : HookWorld} {range : Option MemoryHookRange} {kinds : MemoryAccessKindMask}
    (h : HookInv w) (hok : StepOk w (.add range kinds))
    (hstep : w.step (.add range kinds) = some w') :
    HookInv w' ∧ (w'.stack ≠ [] → w'.mem.accessHooks = w.mem.accessHooks) := by
  obtain ⟨hhooks, hadded, hremoved, hflag, hany⟩ := w.mem.addAccessHook_spec range kinds
  have ⟨hdefer, hfresh⟩ := hok
  simp only [step] at hstep
  split at hstep
  next hempty =>
    -- Outside a dispatch the hook is installed at once.
    have hnil := List.isEmpty_iff.mp hempty
    have hflag' := h.idle hnil
    rw [hflag'] at hhooks hadded
    cases hstep
    refine ⟨⟨⟨?_, ?_, fun _ => hany, ?_⟩, fun _ => hflag.trans hflag', ?_, h.log⟩,
      fun hne => absurd hnil hne⟩
    · intro g hg
      rw [hhooks, hremoved]
      rcases List.mem_append.mp hg with hg | hg
      · have ⟨hmem, hid⟩ := h.kept.live g hg
        exact ⟨List.mem_append_left _ hmem, hid⟩
      · rw [List.mem_singleton.mp hg]
        exact ⟨List.mem_append_right _ List.mem_cons_self, hfresh⟩
    · intro g hg
      rw [hadded, hremoved]
      exact h.kept.waiting g hg
    · intro _
      have := h.kept.direct hflag'
      rw [hadded, hremoved]
      exact this
    · intro d hd
      rw [hnil] at hd
      exact absurd hd List.not_mem_nil
  next hempty =>
    -- Inside one it is queued, and waits.
    have hne : w.stack ≠ [] := fun he => hempty (List.isEmpty_iff.mpr he)
    have hflag' := hdefer hne
    rw [hflag'] at hhooks hadded
    cases hstep
    refine ⟨⟨⟨?_, ?_, fun _ => hany, ?_⟩, fun hnil => absurd hnil hne, ?_, h.log⟩, fun _ => hhooks⟩
    · intro g hg
      rw [hhooks, hremoved]
      exact h.kept.live g hg
    · intro g hg
      rw [hadded, hremoved]
      rcases List.mem_append.mp hg with hg | hg
      · have ⟨hmem, hid⟩ := h.kept.waiting g hg
        exact ⟨List.mem_append_left _ hmem, hid⟩
      · rw [List.mem_singleton.mp hg]
        exact ⟨List.mem_append_right _ List.mem_cons_self, hfresh⟩
    · intro hfalse
      cases (hflag.trans hflag').symm.trans hfalse
    · intro d hd
      show d.Ok _
      rw [hhooks]
      exact h.stack d hd

/-- Step: a hook removed. -/
theorem remove_inv {w w' : HookWorld} {id : HookId} (h : HookInv w) (hok : StepOk w (.remove id))
    (hstep : w.step (.remove id) = some w') :
    HookInv w' ∧ (w'.stack ≠ [] → w'.mem.accessHooks = w.mem.accessHooks) := by
  cases hstep
  have hlive : ∀ g ∈ w.live.filter (fun g => g.id != id), g ∈ w.live ∧ g.id ≠ id := by
    intro g hg
    have ⟨hmem, hid⟩ := List.mem_filter.mp hg
    exact ⟨hmem, bne_iff_ne.mp hid⟩
  have hwaiting : ∀ g ∈ w.waiting.filter (fun g => g.id != id), g ∈ w.waiting ∧ g.id ≠ id := by
    intro g hg
    have ⟨hmem, hid⟩ := List.mem_filter.mp hg
    exact ⟨hmem, bne_iff_ne.mp hid⟩
  by_cases hflag : w.mem.dispatching = true
  · -- queued: the list stays, one more id is named
    obtain ⟨hhooks, hadded, hremoved, hflag', hany⟩ :=
      HookState.removeAccessHook_dispatching hflag id
    refine ⟨⟨⟨?_, ?_, ?_, ?_⟩, ?_, ?_, h.log⟩, fun _ => hhooks⟩
    · intro g hg
      have ⟨hg', hne⟩ := hlive g hg
      have ⟨hmem, hid⟩ := h.kept.live g hg'
      refine ⟨hhooks.symm ▸ hmem, fun hnamed => ?_⟩
      rcases hremoved g.id hnamed with hold | hnew
      · exact hid hold
      · exact hne hnew
    · intro g hg
      have ⟨hg', hne⟩ := hwaiting g hg
      have ⟨hmem, hid⟩ := h.kept.waiting g hg'
      refine ⟨hadded.symm ▸ hmem, fun hnamed => ?_⟩
      rcases hremoved g.id hnamed with hold | hnew
      · exact hid hold
      · exact hne hnew
    · intro hne
      rw [hhooks] at hne
      exact hany (h.kept.any hne)
    · intro hfalse
      cases hflag'.symm.trans hfalse
    · intro hnil
      cases hflag.symm.trans (h.idle hnil)
    · intro d hd
      show d.Ok _
      rw [hhooks]
      exact h.stack d hd
  · -- at once: under a dispatch the condition leaves only ids that are not installed
    have hflag' := Bool.eq_false_iff.mpr hflag
    obtain ⟨hothers, hsame, hadded, hremoved, hflag'', hany⟩ :=
      HookState.removeAccessHook_direct hflag' id
    have hkeep : w.stack ≠ [] → (w.mem.removeAccessHook id).1 = w.mem :=
      fun hne => hsame (hok hne hflag')
    refine ⟨⟨⟨?_, ?_, hany h.kept.any, ?_⟩, fun _ => hflag'', ?_, h.log⟩,
      fun hne => congrArg HookState.accessHooks (hkeep hne)⟩
    · intro g hg
      have ⟨hg', hne⟩ := hlive g hg
      have ⟨hmem, hid⟩ := h.kept.live g hg'
      exact ⟨hothers g hmem hne, hremoved.symm ▸ hid⟩
    · intro g hg
      have ⟨hmem, hid⟩ := h.kept.waiting g (hwaiting g hg).1
      exact ⟨hadded.symm ▸ hmem, hremoved.symm ▸ hid⟩
    · intro _
      have hdirect := h.kept.direct hflag'
      rw [hadded, hremoved]
      exact hdirect
    · intro d hd
      show d.Ok _
      rw [hkeep (List.ne_nil_of_mem hd)]
      exact h.stack d hd

/-- Step: an access, nested or not. -/
theorem access_inv {w w' : HookWorld} {event : MemoryAccessEvent} (h : HookInv w)
    (hok : StepOk w (.access event)) (hstep : w.step (.access event) = some w') :
    HookInv w' ∧ (w'.stack ≠ [] → w'.mem.accessHooks = w.mem.accessHooks) := by
  have howed : ∀ g ∈ w.owedTo event, g ∈ w.mem.accessHooks ∧ g.listens event = true := by
    intro g hg
    have ⟨hlive, hl⟩ := List.mem_filter.mp hg
    exact ⟨(h.kept.live g hlive).1, hl⟩
  simp only [step] at hstep
  split at hstep
  next hany =>
    cases hstep
    constructor
    · refine proceed_inv ⟨h.kept.live, h.kept.waiting, fun _ => hany, ?_⟩ h.stack h.log
        (Nat.zero_le _) rfl howed rfl hok
      intro hfalse
      cases hfalse
    · exact proceed_accessHooks hok
  next hany =>
    -- No hooks at all: nothing is owed, nothing is called.
    have hempty : w.mem.accessHooks = [] := by
      by_contra hne
      exact hany (h.kept.any hne)
    cases hstep
    refine ⟨⟨h.kept, h.idle, h.stack, ?_⟩, fun _ => rfl⟩
    intro o ho
    rcases List.mem_append.mp ho with ho | ho
    · exact h.log o ho
    · rw [List.mem_singleton.mp ho]
      refine ⟨howed, List.nil_prefix, ?_, ?_⟩
      · intro _
        show [] = w.mem.accessHooks.filter _
        rw [hempty]
        rfl
      · intro hfalse
        cases hfalse

/-- Step: a callback answers. -/
theorem ret_inv {w w' : HookWorld} {answer : Bool} (h : HookInv w) (hok : StepOk w (.ret answer))
    (hstep : w.step (.ret answer) = some w') :
    HookInv w' ∧ (w'.stack ≠ [] → w'.mem.accessHooks = w.mem.accessHooks) := by
  simp only [step] at hstep
  split at hstep
  next => cases hstep
  next d rest hstack =>
    have hd : d.Ok w.mem.accessHooks := h.stack d (hstack ▸ List.mem_cons_self)
    have hrest : ∀ e ∈ rest, e.Ok w.mem.accessHooks := by
      intro e he
      exact h.stack e (hstack ▸ List.mem_cons_of_mem d he)
    have hcancel : rest ≠ [] → answer = false ∨ NoneFrom w.mem d.event (d.index + 1) →
        QueuesCancel w.mem := by
      intro hne hend
      obtain ⟨e, rest', rfl⟩ := List.exists_cons_of_ne_nil hne
      have hok' : ReturnOk w.mem answer (d :: e :: rest') := hstack ▸ hok
      exact hok' hend
    split at hstep
    next =>
      -- accepted: on to the next hook that listens
      cases hstep
      have hcancel' : rest ≠ [] → NoneFrom w.mem d.event (d.index + 1) → QueuesCancel w.mem :=
        fun hne hnone => hcancel hne (Or.inr hnone)
      exact ⟨proceed_inv h.kept hrest h.log hd.inside hd.installed hd.owed hd.called hcancel',
        proceed_accessHooks hcancel'⟩
    next hanswer =>
      -- refused: the dispatch ends here
      cases hstep
      have hcancel' : rest ≠ [] → QueuesCancel w.mem :=
        fun hne => hcancel hne (Or.inl (Bool.eq_false_iff.mpr hanswer))
      refine ⟨finish_inv h.kept hrest h.log ⟨?_, ?_, ?_, ?_⟩ hcancel', finish_accessHooks hcancel'⟩
      · intro g hg
        rw [hd.installed]
        exact hd.owed g hg
      · show d.called <+: d.installed.filter _
        rw [hd.called, hd.installed]
        exact (List.take_prefix _ _).filter _
      · intro hfalse
        cases hfalse
      · intro _
        exact hd.running

/-- One step within the condition keeps the invariant, and the list under
every dispatch it leaves running. -/
theorem step_inv {w w' : HookWorld} {a : HookCall} (h : HookInv w) (hok : StepOk w a)
    (hstep : w.step a = some w') :
    HookInv w' ∧ (w'.stack ≠ [] → w'.mem.accessHooks = w.mem.accessHooks) := by
  cases a with
  | access event => exact access_inv h hok hstep
  | add range kinds => exact add_inv h hok hstep
  | remove id => exact remove_inv h hok hstep
  | renumber next =>
    cases hstep
    exact ⟨⟨⟨h.kept.live, h.kept.waiting, h.kept.any, h.kept.direct⟩, h.idle, h.stack, h.log⟩,
      fun _ => rfl⟩
  | ret answer => exact ret_inv h hok hstep

/-- **Hook-list stability.** In every run within `StepOk`, whatever the
callbacks do: a step that leaves a dispatch running leaves the list it runs
over alone, and every dispatch that finished called the hooks it owed, in
list order, all of them unless one refused. -/
theorem accessHooks_stable {as : List HookCall} {w : HookWorld}
    (hrun : GuardedRun step StepOk {} as w) :
    (∀ o ∈ w.log, o.Complete) ∧ ∀ a w', StepOk w a → w.step a = some w' → w'.stack ≠ [] →
      w'.mem.accessHooks = w.mem.accessHooks := by
  have hinv : HookInv w :=
    hrun.invariant (fun _ _ _ h hok hstep => (step_inv h hok hstep).1) hookInv_init
  exact ⟨hinv.log, fun _ _ hok hstep => (step_inv hinv hok hstep).2⟩

/-! ## Two runs -/

/-- A read of one byte. -/
def byteRead : MemoryAccessEvent :=
  { kind := .dataRead, address := 0x1000#64, size := 1, data := none, dataSize := 0 }

/-- A callback adds a hook and removes its own; the next read calls the new
hook only. -/
def deferredRun : List HookCall :=
  [.add none kAllMemoryAccessKinds, .access byteRead, .add none kAllMemoryAccessKinds, .remove 1#64,
    .ret true, .access byteRead, .ret false]

/-- A hook added inside a callback is called from the next access on. -/
theorem accessHooks_stable_deferred :
    ∃ w, GuardedRun step StepOk {} deferredRun w ∧
      w.log.map (fun o => (o.owed.map HookEntry.id, o.called.map HookEntry.id, o.allowed)) =
        [([1#64], [1#64], true), ([2#64], [2#64], false)] ∧
      ∀ o ∈ w.log, o.Complete := by
  have hrun := guardedRun_of_runGuarded (rfl : runGuarded step StepOk {} deferredRun = some _)
  exact ⟨_, hrun, rfl, (accessHooks_stable hrun).1⟩

/-- A callback adds a hook, then reads; the read's callback returns. -/
def nestedRun : List HookCall :=
  [.add none kAllMemoryAccessKinds, .access byteRead, .add none kAllMemoryAccessKinds,
    .access byteRead]

/-- The end of the nested read installs the new hook into the list that the
outer dispatch is still running over. -/
theorem nested_access_changes_list :
    ∃ w w', nestedRun.foldlM step {} = some w ∧ w.step (.ret true) = some w' ∧ w'.stack ≠ [] ∧
      w'.mem.accessHooks ≠ w.mem.accessHooks := by
  refine ⟨_, _, rfl, rfl, List.cons_ne_nil _ _, ?_⟩
  intro hsame
  cases congrArg List.length hsame

end HookWorld

end Seven
