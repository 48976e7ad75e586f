import Seven.Executor.Fetch
import Seven.Lib.GuardedRun

/-!
# Hook callbacks that change the hook tables

The executor keeps its hooks in seven containers and dispatches to them from
six places. `run_instruction_hooks`, `run_trap_hooks`, `run_fault_hooks` and
`notify_stop_hooks` raise `dispatching_hooks_` around their loops, which turns
`add_*_hook`, `remove_hook` and `clear_hooks` into queued mutations, applied
when the loop ends. The loops over `execution_hooks_` and over one address's
`execution_address_hooks_` in `step` do not raise the flag: there a mutation
takes effect at once.

A hook here is its id; what its callback asks for and answers is left to the
run, as in the memory's hook machine. `expected` is a ghost, the tables with
every request applied as it is made.

> `HookTablesWorld.hookTables_stable`: while no execution-hook callback changes
> the list it is called from, no list changes under a dispatch, every dispatch
> calls exactly the hooks installed when it started, up to its early exit, and
> between dispatches the tables are the requests applied in order.
-/

namespace Seven

open Seven.Lib

/-! ## Containers of lists -/

/-- An unordered map from keys to hook lists. -/
abbrev KeyedHooks (K : Type) := List (K × List HookId)

namespace KeyedHooks

variable {K : Type} [DecidableEq K]

/-- `find`: the hooks under a key. -/
def find (k : K) : KeyedHooks K → Option (List HookId)
  | [] => none
  | (k', ids) :: rest => if k' = k then some ids else find k rest

/-- `hooks[k].emplace_back(id, …)`. -/
def append (k : K) (id : HookId) : KeyedHooks K → KeyedHooks K
  | [] => [(k, [id])]
  | (k', ids) :: rest => if k' = k then (k', ids ++ [id]) :: rest else (k', ids) :: append k id rest

/-- The erasing loop of `remove_hook`; `execution_address_hooks_` drops a list
that becomes empty, the other maps keep it. -/
def remove (dropEmpty : Bool) (id : HookId) : KeyedHooks K → Option (KeyedHooks K)
  | [] => none
  | (k, ids) :: rest =>
    if id ∈ ids then
      if dropEmpty && (ids.erase id).isEmpty then some rest else some ((k, ids.erase id) :: rest)
    else (remove dropEmpty id rest).map ((k, ids) :: ·)

/-- The hooks called for a key. -/
def listAt (k : K) (hooks : KeyedHooks K) : List HookId := (find k hooks).getD []

/-- Another key's hooks stay. -/
theorem find_append_of_ne {k k' : K} (h : k ≠ k') (id : HookId) :
    ∀ hooks : KeyedHooks K, find k' (append k id hooks) = find k' hooks
  | [] => if_neg h
  | (j, ids) :: rest => by
    unfold append
    split
    next hj =>
      subst hj
      rw [find, find, if_neg h, if_neg h]
    next =>
      rw [find, find, find_append_of_ne h id rest]

/-- What is found is in the table. -/
theorem mem_of_find {k : K} {ids : List HookId} :
    ∀ {hooks : KeyedHooks K}, find k hooks = some ids → (k, ids) ∈ hooks
  | [], h => by cases h
  | (j, ids') :: rest, h => by
    unfold find at h
    split at h
    next hj =>
      cases h
      exact hj ▸ List.mem_cons_self
    next => exact List.mem_cons_of_mem _ (mem_of_find h)

/-- No hooks where no key is found. -/
theorem listAt_of_find_none {k : K} {hooks : KeyedHooks K} (h : (find k hooks).isSome = false) :
    listAt k hooks = [] := by
  unfold listAt
  rw [Option.isSome_eq_false_iff, Option.isNone_iff_eq_none] at h
  rw [h]
  rfl

/-- No list of the map holds a hook, so no key has one. -/
theorem listAt_of_all_empty {hooks : KeyedHooks K}
    (h : (hooks.any fun entry => !entry.2.isEmpty) = false) (k : K) : listAt k hooks = [] := by
  unfold listAt
  cases hfind : find k hooks with
  | none => rfl
  | some ids =>
    have hempty := List.any_eq_false.mp h _ (mem_of_find hfind)
    simpa using hempty

/-- Removing an id that a key's list does not hold leaves that list alone. -/
theorem find_remove_of_not_mem {dropEmpty : Bool} {id : HookId} {k : K} :
    ∀ {hooks hooks' : KeyedHooks K}, remove dropEmpty id hooks = some hooks' →
      id ∉ listAt k hooks → find k hooks' = find k hooks
  | [], _, h, _ => by cases h
  | (j, ids) :: rest, hooks', h, hid => by
    unfold remove at h
    by_cases hmem : id ∈ ids
    · -- The list that loses the id belongs to another key.
      have hj : j ≠ k := by
        intro hj
        apply hid
        unfold listAt find
        rw [if_pos hj]
        exact hmem
      rw [if_pos hmem] at h
      split at h
      · cases h
        rw [find, if_neg hj]
      · cases h
        rw [find, find, if_neg hj, if_neg hj]
    · rw [if_neg hmem] at h
      obtain ⟨rest', hrest, rfl⟩ := Option.map_eq_some_iff.mp h
      rw [find, find]
      split
      next => rfl
      next hj =>
        apply find_remove_of_not_mem hrest
        unfold listAt find at hid
        rwa [if_neg hj] at hid

end KeyedHooks

/-! ## The tables -/

/-- Where an `add_*_hook` puts its hook. -/
inductive HookSlot where
  | execution
  | executionAddress (address : U64)
  | instruction
  | code (code : Code)
  | stop
  | fault
  | trap (kind : TrapKind)

/-- The nine tables of the executor. -/
structure HookTables where
  execution : List HookId := []
  executionAddress : KeyedHooks U64 := []
  instruction : List HookId := []
  code : KeyedHooks Code := []
  stop : List HookId := []
  fault : List HookId := []
  trap : KeyedHooks TrapKind := []

/-- The cached emptiness flags. -/
structure HookFlags where
  execution : Bool := false
  executionAddress : Bool := false
  instruction : Bool := false
  code : Bool := false
  stop : Bool := false
  fault : Bool := false
  trap : Bool := false

namespace HookTables

/-- A hook put into a table. -/
def add (t : HookTables) (id : HookId) : HookSlot → HookTables
  | .execution => { t with execution := t.execution ++ [id] }
  | .executionAddress address =>
    { t with executionAddress := t.executionAddress.append address id }
  | .instruction => { t with instruction := t.instruction ++ [id] }
  | .code code => { t with code := t.code.append code id }
  | .stop => { t with stop := t.stop ++ [id] }
  | .fault => { t with fault := t.fault ++ [id] }
  | .trap kind => { t with trap := t.trap.append kind id }

/-- `remove_now`: the first container, in the order of the source, that holds
the id. -/
def removeNow (t : HookTables) (id : HookId) : HookTables × Bool :=
  if id ∈ t.execution then ({ t with execution := t.execution.erase id }, true)
  else
    match t.executionAddress.remove true id with
    | some hooks => ({ t with executionAddress := hooks }, true)
    | none =>
      if id ∈ t.instruction then ({ t with instruction := t.instruction.erase id }, true)
      else
        match t.code.remove false id with
        | some hooks => ({ t with code := hooks }, true)
        | none =>
          if id ∈ t.stop then ({ t with stop := t.stop.erase id }, true)
          else if id ∈ t.fault then ({ t with fault := t.fault.erase id }, true)
          else
            match t.trap.remove false id with
            | some hooks => ({ t with trap := hooks }, true)
            | none => (t, false)

/-- `refresh_hook_flags`. -/
def flags (t : HookTables) : HookFlags :=
  { execution := !t.execution.isEmpty
    executionAddress := !t.executionAddress.isEmpty
    instruction := !t.instruction.isEmpty
    code := t.code.any fun entry => !entry.2.isEmpty
    stop := !t.stop.isEmpty
    fault := !t.fault.isEmpty
    trap := t.trap.any fun entry => !entry.2.isEmpty }

end HookTables

/-! ## The executor's side -/

/-- A queued mutation, one of the closures of the source. -/
inductive HookMutation where
  | add (id : HookId) (slot : HookSlot)
  | remove (id : HookId)
  | clear

namespace HookTables

/-- What a mutation does. -/
def mutate (t : HookTables) : HookMutation → HookTables
  | .add id slot => t.add id slot
  | .remove id => (t.removeNow id).1
  | .clear => {}

end HookTables

/-- The tables with the flags computed from them, and the mutations that wait. -/
structure ExecutorHooks where
  tables : HookTables := {}
  flags : HookFlags := {}
  dispatching : Bool := false
  pending : List HookMutation := []
  nextHookId : HookId := 1#64

namespace ExecutorHooks

/-- `refresh_hook_flags`. -/
def refreshHookFlags (h : ExecutorHooks) : ExecutorHooks := { h with flags := h.tables.flags }

/-- What all `add_*_hook` do. -/
def addHook (slot : HookSlot) (h : ExecutorHooks) : HookId × ExecutorHooks :=
  let id := h.nextHookId
  let h' := { h with nextHookId := id + 1#64 }
  (id,
    if h.dispatching then { h' with pending := h.pending ++ [.add id slot] }
    else refreshHookFlags { h' with tables := h.tables.add id slot })

def addInstructionHook (h : ExecutorHooks) := addHook .instruction h
def addCodeHook (code : Code) (h : ExecutorHooks) := addHook (.code code) h
def addExecutionHook (h : ExecutorHooks) := addHook .execution h
def addExecutionAddressHook (address : U64) (h : ExecutorHooks) := addHook (.executionAddress address) h
def addStopHook (h : ExecutorHooks) := addHook .stop h
def addFaultHook (h : ExecutorHooks) := addHook .fault h
def addTrapHook (kind : TrapKind) (h : ExecutorHooks) := addHook (.trap kind) h

/-- `remove_hook`: inside a dispatch it waits, and promises. -/
def removeHook (id : HookId) (h : ExecutorHooks) : Bool × ExecutorHooks :=
  if h.dispatching then (true, { h with pending := h.pending ++ [.remove id] })
  else ((h.tables.removeNow id).2, refreshHookFlags { h with tables := (h.tables.removeNow id).1 })

/-- `clear_hooks`. -/
def clearHooks (h : ExecutorHooks) : ExecutorHooks :=
  if h.dispatching then { h with pending := h.pending ++ [.clear] }
  else refreshHookFlags { h with tables := {}, pending := [] }

/-- One queued closure; the one of `clear_hooks` clears the queue as well,
which has been moved away by then. -/
def runMutation (h : ExecutorHooks) (m : HookMutation) : ExecutorHooks :=
  match m with
  | .clear => { h with tables := h.tables.mutate .clear, pending := [] }
  | m => { h with tables := h.tables.mutate m }

/-- `apply_pending_hook_mutations`: in the order of the calls. -/
def applyPendingHookMutations (h : ExecutorHooks) : ExecutorHooks :=
  if h.pending.isEmpty then h
  else refreshHookFlags (h.pending.foldl runMutation { h with pending := [] })

end ExecutorHooks

/-! ## Dispatches -/

/-- A place that dispatches, with what it looks its hooks up by. -/
inductive HookSite where
  | execution
  | executionAddress (rip : U64)
  | instruction (code : Code)
  | trap (kind : TrapKind)
  | fault
  | stop

namespace HookSite

/-- Does the loop raise `dispatching_hooks_`? -/
def deferring : HookSite → Bool
  | .execution | .executionAddress _ => false
  | .instruction _ | .trap _ | .fault | .stop => true

/-- Can a callback's answer end the loop? Execution and stop hooks answer
nothing. -/
def exits : HookSite → Bool
  | .instruction _ | .trap _ | .fault => true
  | .execution | .executionAddress _ | .stop => false

/-- The hooks a dispatch runs over; `run_instruction_hooks` runs over the
instruction hooks, then those of the code. -/
def hooks (t : HookTables) : HookSite → List HookId
  | .execution => t.execution
  | .executionAddress rip => t.executionAddress.listAt rip
  | .instruction code => t.instruction ++ t.code.listAt code
  | .trap kind => t.trap.listAt kind
  | .fault => t.fault
  | .stop => t.stop

/-- The flags that `step` looks at before it comes to the dispatch. -/
def reached (h : ExecutorHooks) : HookSite → Bool
  | .execution => h.flags.execution
  | .executionAddress _ => h.flags.executionAddress
  | .instruction _ => h.flags.instruction || h.flags.code
  | .trap _ | .fault | .stop => true

/-- `run_instruction_hooks` first applies what is queued. -/
def prepare (h : ExecutorHooks) : HookSite → ExecutorHooks
  | .instruction _ => h.applyPendingHookMutations
  | .execution | .executionAddress _ | .trap _ | .fault | .stop => h

/-- The guards in front of the loop. -/
def entered (t : HookTables) : HookSite → Bool
  | .execution => true
  | .executionAddress rip => (t.executionAddress.find rip).isSome
  | .instruction code => !(t.instruction.isEmpty && (t.code.listAt code).isEmpty)
  | .trap kind => (t.trap.find kind).isSome
  | .fault => !t.fault.isEmpty
  | .stop => !t.stop.isEmpty

end HookSite

/-- A dispatch in progress; `installed` and `called` are ghosts. -/
structure HookDispatch where
  site : HookSite
  index : Nat
  installed : List HookId
  called : List HookId

/-- A dispatch that has ended. -/
structure HookDispatchRecord where
  site : HookSite
  installed : List HookId
  called : List HookId
  exited : Bool

/-- The executor's hooks beside the dispatch in progress. -/
structure HookTablesWorld where
  hooks : ExecutorHooks := {}
  running : Option HookDispatch := none
  expected : HookTables := {}
  log : List HookDispatchRecord := []

/-- What a program or a callback may ask of the tables. -/
inductive HookRequest where
  | add (slot : HookSlot)
  | remove (id : HookId)
  | clear

/-- One action of the executor or of its user. -/
inductive HookTablesAction where
  /-- `step` or `run` comes to a dispatch. -/
  | start (site : HookSite)
  /-- `add_*_hook`, `remove_hook` or `clear_hooks`, from a callback while a
  dispatch is running. -/
  | request (r : HookRequest)
  /-- The running callback returns; `exit` is an answer other than
  *continue*. -/
  | ret (exit : Bool)

namespace HookRequest

/-- What the request does. -/
def run (h : ExecutorHooks) : HookRequest → ExecutorHooks
  | .add slot => (h.addHook slot).2
  | .remove id => (h.removeHook id).2
  | .clear => h.clearHooks

/-- What the request asks of the tables. -/
def mutation (h : ExecutorHooks) : HookRequest → HookMutation
  | .add slot => .add h.nextHookId slot
  | .remove id => .remove id
  | .clear => .clear

end HookRequest

namespace HookTablesWorld

/-- The dispatch ends; where mutations waited, they are applied. -/
def finish (w : HookTablesWorld) (d : HookDispatch) (exited : Bool) : HookTablesWorld :=
  { w with
    hooks :=
      if d.site.deferring then
        ExecutorHooks.applyPendingHookMutations { w.hooks with dispatching := false }
      else w.hooks
    running := none
    log := w.log ++ [⟨d.site, d.installed, d.called, exited⟩] }

/-- The loop from position `start`: on to the next callback, or out. -/
def proceed (w : HookTablesWorld) (d : HookDispatch) (start : Nat) : HookTablesWorld :=
  match (d.site.hooks w.hooks.tables)[start]? with
  | some id => { w with running := some { d with index := start, called := d.called ++ [id] } }
  | none => w.finish d false

/-- One action, where it may happen. -/
def step (w : HookTablesWorld) : HookTablesAction → Option HookTablesWorld
  | .start site =>
    match w.running with
    | some _ => none
    | none =>
      if site.reached w.hooks then
        let hooks := site.prepare w.hooks
        let d : HookDispatch := ⟨site, 0, site.hooks hooks.tables, []⟩
        if site.entered hooks.tables then
          some (proceed { w with hooks := { hooks with dispatching := site.deferring } } d 0)
        else some { w with hooks := hooks, log := w.log ++ [⟨site, d.installed, [], false⟩] }
      else some { w with log := w.log ++ [⟨site, site.hooks w.hooks.tables, [], false⟩] }
  | .request r =>
    some { w with hooks := r.run w.hooks, expected := w.expected.mutate (r.mutation w.hooks) }
  | .ret exit =>
    match w.running with
    | none => none
    | some d =>
      if exit && d.site.exits then some (w.finish d true) else some (w.proceed d (d.index + 1))

/-! ## The condition -/

/-- Is this the slot of a non-deferring dispatch's list? -/
def feeds : HookSlot → HookSite → Bool
  | .execution, .execution => true
  | .executionAddress address, .executionAddress rip => address == rip
  | _, _ => false

/-- A request, applied at once, that does not touch the list of a dispatch. -/
def LeavesAlone (t : HookTables) (site : HookSite) : HookRequest → Prop
  | .add slot => feeds slot site = false
  | .remove id => id ∉ site.hooks t
  | .clear => False

/-- The request leaves the running dispatch's list alone, where nothing defers it. -/
def RequestOk (t : HookTables) (r : HookRequest) : Option HookDispatch → Prop
  | some d => d.site.deferring = false → LeavesAlone t d.site r
  | none => True

/-- The steps under which every dispatch is safe: a callback of an execution
hook leaves the list it is called from alone. -/
def StepOk (w : HookTablesWorld) : HookTablesAction → Prop
  | .request r => RequestOk w.hooks.tables r w.running
  | .start _ => True
  | .ret _ => True

instance decidableLeavesAlone (t : HookTables) (site : HookSite) :
    (r : HookRequest) → Decidable (LeavesAlone t site r)
  | .add slot => inferInstanceAs (Decidable (feeds slot site = false))
  | .remove id => inferInstanceAs (Decidable (id ∉ site.hooks t))
  | .clear => inferInstanceAs (Decidable False)

instance decidableRequestOk (t : HookTables) (r : HookRequest) :
    (running : Option HookDispatch) → Decidable (RequestOk t r running)
  | some d => inferInstanceAs (Decidable (d.site.deferring = false → LeavesAlone t d.site r))
  | none => inferInstanceAs (Decidable True)

instance decidableStepOk (w : HookTablesWorld) : (a : HookTablesAction) → Decidable (StepOk w a)
  | .request r => inferInstanceAs (Decidable (RequestOk w.hooks.tables r w.running))
  | .start _ => inferInstanceAs (Decidable True)
  | .ret _ => inferInstanceAs (Decidable True)

end HookTablesWorld

/-! ## Queued and immediate requests -/

namespace ExecutorHooks

/-- Running queued mutations is mutating the tables in order. -/
theorem foldl_runMutation :
    ∀ (q : List HookMutation) (h : ExecutorHooks), h.pending = [] →
      q.foldl runMutation h = { h with tables := q.foldl HookTables.mutate h.tables }
  | [], _, _ => rfl
  | m :: q, h, hnil => by
    have hrun : runMutation h m = { h with tables := h.tables.mutate m } := by
      cases m with
      | add id slot => rfl
      | remove id => rfl
      | clear =>
        show { h with tables := h.tables.mutate .clear, pending := [] } = _
        rw [← hnil]
    rw [List.foldl_cons, hrun, List.foldl_cons]
    exact foldl_runMutation q { h with tables := h.tables.mutate m } hnil

/-- Between dispatches: nothing is queued, the flags are right. With a
queue: the tables lag behind the requests by the queue. -/
structure Tracks (h : ExecutorHooks) (expected : HookTables) : Prop where
  flags : h.flags = h.tables.flags
  queue : h.pending.foldl HookTables.mutate h.tables = expected
  direct : h.dispatching = false → h.pending = []

/-- Applying the queue brings the tables up to the requests. -/
theorem tracks_applyPending {h : ExecutorHooks} {expected : HookTables}
    (hflags : h.flags = h.tables.flags)
    (hqueue : h.pending.foldl HookTables.mutate h.tables = expected) :
    Tracks h.applyPendingHookMutations expected ∧
      h.applyPendingHookMutations.dispatching = h.dispatching := by
  unfold applyPendingHookMutations
  split
  next hempty => exact ⟨⟨hflags, hqueue, fun _ => List.isEmpty_iff.mp hempty⟩, rfl⟩
  next =>
    rw [foldl_runMutation _ _ rfl]
    exact ⟨⟨rfl, hqueue, fun _ => rfl⟩, rfl⟩

/-- A request is queued while a dispatch defers, else it takes effect; either
way the tables expected are those with the request applied. -/
theorem Tracks.request {h : ExecutorHooks} {expected : HookTables} (ht : Tracks h expected)
    (r : HookRequest) :
    Tracks (r.run h) (expected.mutate (r.mutation h)) ∧ (r.run h).dispatching = h.dispatching ∧
      (r.run h).tables = if h.dispatching then h.tables else h.tables.mutate (r.mutation h) := by
  have hqueue : ∀ m, (h.pending ++ [m]).foldl HookTables.mutate h.tables = expected.mutate m := by
    intro m
    rw [List.foldl_append, ht.queue]
    rfl
  by_cases hflag : h.dispatching = true
  · -- deferred: the request joins the queue and the tables stay
    have hno : ∀ {p : Prop}, h.dispatching = false → p := by
      intro p hfalse
      cases hflag.symm.trans hfalse
    cases r with
    | add slot =>
      simp only [HookRequest.run, addHook, if_pos hflag]
      exact ⟨⟨ht.flags, hqueue _, hno⟩, trivial, trivial⟩
    | remove id =>
      simp only [HookRequest.run, removeHook, if_pos hflag]
      exact ⟨⟨ht.flags, hqueue _, hno⟩, trivial, trivial⟩
    | clear =>
      simp only [HookRequest.run, clearHooks, if_pos hflag]
      exact ⟨⟨ht.flags, hqueue _, hno⟩, trivial, trivial⟩
  · -- at once: nothing is queued, so the tables are the expected ones
    have hnil := ht.direct (Bool.eq_false_iff.mpr hflag)
    have hnow : h.tables = expected := by
      have hq := ht.queue
      rwa [hnil] at hq
    cases r with
    -- The tables are rebuilt from the queue, which is empty.
    | add slot =>
      simp only [HookRequest.run, addHook, if_neg hflag, refreshHookFlags]
      exact ⟨⟨rfl, by rw [hnil, ← hnow]; rfl, fun _ => hnil⟩, trivial, rfl⟩
    | remove id =>
      simp only [HookRequest.run, removeHook, if_neg hflag, refreshHookFlags]
      exact ⟨⟨rfl, by rw [hnil, ← hnow]; rfl, fun _ => hnil⟩, trivial, rfl⟩
    | clear =>
      simp only [HookRequest.run, clearHooks, if_neg hflag, refreshHookFlags]
      exact ⟨⟨rfl, rfl, fun _ => rfl⟩, trivial, rfl⟩

end ExecutorHooks

/-! ## Lists that a request leaves alone -/

namespace HookTables

/-- Another hook removed. -/
theorem hooks_removeNow_execution {t : HookTables} {id : HookId} (hid : id ∉ t.execution) :
    (t.removeNow id).1.execution = t.execution := by
  unfold removeNow
  rw [if_neg hid]
  repeat' split
  all_goals rfl

/-- Another address' hook removed. -/
theorem hooks_removeNow_address {t : HookTables} {id : HookId} {rip : U64}
    (hid : id ∉ t.executionAddress.listAt rip) :
    (t.removeNow id).1.executionAddress.find rip = t.executionAddress.find rip := by
  unfold removeNow
  split
  next => rfl
  next =>
    split
    next hooks hremove => exact KeyedHooks.find_remove_of_not_mem hremove hid
    next =>
      repeat' split
      all_goals rfl

/-- A request that leaves a list alone does. -/
theorem hooks_mutate_of_leavesAlone {t : HookTables} {site : HookSite}
    (hsite : site.deferring = false) {r : HookRequest}
    (hr : HookTablesWorld.LeavesAlone t site r) (h : ExecutorHooks) :
    site.hooks (t.mutate (r.mutation h)) = site.hooks t := by
  -- Two lists alone are dispatched without deferring: the hooks of every address and those of
  -- one.
  cases site with
  | execution =>
    cases r with
    | add slot =>
      cases slot with
      | execution => cases hr
      | _ => rfl
    | remove id => exact hooks_removeNow_execution hr
    | clear => exact hr.elim
  | executionAddress rip =>
    cases r with
    | add slot =>
      cases slot with
      | executionAddress address =>
        have hne : address ≠ rip := by
          intro heq
          subst heq
          simp [HookTablesWorld.LeavesAlone, HookTablesWorld.feeds] at hr
        exact congrArg (Option.getD · []) (KeyedHooks.find_append_of_ne hne _ _)
      | _ => rfl
    | remove id => exact congrArg (Option.getD · []) (hooks_removeNow_address hr)
    | clear => exact hr.elim
  | _ => cases hsite

/-- A dispatch that is not reached had nobody to call. -/
theorem hooks_of_not_reached {h : ExecutorHooks} (hflags : h.flags = h.tables.flags)
    {site : HookSite} (hreached : site.reached h = false) : site.hooks h.tables = [] := by
  unfold HookSite.reached at hreached
  rw [hflags] at hreached
  cases site with
  | execution => exact List.isEmpty_iff.mp ((Bool.not_eq_false' _).mp hreached)
  | executionAddress rip =>
    have hnil := List.isEmpty_iff.mp ((Bool.not_eq_false' _).mp hreached)
    show h.tables.executionAddress.listAt rip = []
    rw [hnil]
    rfl
  | instruction code =>
    have ⟨hinstruction, hcode⟩ := Bool.or_eq_false_iff.mp hreached
    show h.tables.instruction ++ h.tables.code.listAt code = []
    rw [List.isEmpty_iff.mp ((Bool.not_eq_false' _).mp hinstruction),
      KeyedHooks.listAt_of_all_empty hcode]
    rfl
  | _ => cases hreached

/-- A site that is not entered has no hooks to call. -/
theorem hooks_of_not_entered {t : HookTables} {site : HookSite}
    (hentered : site.entered t = false) : site.hooks t = [] := by
  unfold HookSite.entered at hentered
  cases site with
  | execution => cases hentered
  | executionAddress rip => exact KeyedHooks.listAt_of_find_none hentered
  | instruction code =>
    have ⟨hinstruction, hcode⟩ := Bool.and_eq_true_iff.mp ((Bool.not_eq_false' _).mp hentered)
    show t.instruction ++ t.code.listAt code = []
    rw [List.isEmpty_iff.mp hinstruction, List.isEmpty_iff.mp hcode]
    rfl
  | trap kind => exact KeyedHooks.listAt_of_find_none hentered
  | fault => exact List.isEmpty_iff.mp ((Bool.not_eq_false' _).mp hentered)
  | stop => exact List.isEmpty_iff.mp ((Bool.not_eq_false' _).mp hentered)

end HookTables

/-! ## The invariant -/

/-- A dispatch in progress runs over the list it started with and has called
the hooks up to its index. -/
structure HookDispatch.Ok (h : ExecutorHooks) (d : HookDispatch) : Prop where
  installed : d.installed = d.site.hooks h.tables
  inside : d.index < (d.site.hooks h.tables).length
  called : d.called = (d.site.hooks h.tables).take (d.index + 1)
  flag : h.dispatching = d.site.deferring

/-- A dispatch that called the hooks installed at its start, in order, all
of them unless it took the early exit. -/
structure HookDispatchRecord.Complete (r : HookDispatchRecord) : Prop where
  called : r.called <+: r.installed
  whole : r.exited = false → r.called = r.installed
  exit : r.exited = true → r.called ≠ []

/-- What holds in every reachable world. -/
structure HookTablesInv (w : HookTablesWorld) : Prop where
  tracks : w.hooks.Tracks w.expected
  idle : w.running = none → w.hooks.dispatching = false
  running : ∀ d, w.running = some d → d.Ok w.hooks
  log : ∀ r ∈ w.log, r.Complete

/-- The start. -/
theorem hookTablesInv_init : HookTablesInv {} := by
  refine ⟨⟨rfl, rfl, fun _ => rfl⟩, fun _ => rfl, ?_, ?_⟩
  · intro d hd
    cases hd
  · intro r hr
    exact absurd hr List.not_mem_nil

namespace HookTablesWorld

/-- A dispatch that ends. -/
theorem finish_inv {w : HookTablesWorld} {d : HookDispatch} {exited : Bool}
    (htracks : w.hooks.Tracks w.expected) (hflag : w.hooks.dispatching = d.site.deferring)
    (hlog : ∀ r ∈ w.log, r.Complete)
    (hrecord : HookDispatchRecord.Complete ⟨d.site, d.installed, d.called, exited⟩) :
    HookTablesInv (w.finish d exited) := by
  have hlog' : ∀ r ∈ (w.finish d exited).log, r.Complete := by
    intro r hr
    rcases List.mem_append.mp hr with hr | hr
    · exact hlog r hr
    · rw [List.mem_singleton.mp hr]
      exact hrecord
  have hnone : ∀ e, (w.finish d exited).running = some e → e.Ok (w.finish d exited).hooks := by
    intro e he
    cases he
  by_cases hdefer : d.site.deferring = true
  · -- The flag goes down, then the queue is applied.
    obtain ⟨htracks', hflag'⟩ := @ExecutorHooks.tracks_applyPending
      { w.hooks with dispatching := false } w.expected htracks.flags htracks.queue
    have hhooks : (w.finish d exited).hooks =
        ExecutorHooks.applyPendingHookMutations { w.hooks with dispatching := false } := by
      unfold finish
      rw [if_pos hdefer]
    refine ⟨?_, fun _ => ?_, hnone, hlog'⟩
    · rw [hhooks]
      exact htracks'
    · rw [hhooks]
      exact hflag'
  · have hhooks : (w.finish d exited).hooks = w.hooks := by
      unfold finish
      rw [if_neg hdefer]
    refine ⟨?_, fun _ => ?_, hnone, hlog'⟩
    · rw [hhooks]
      exact htracks
    · rw [hhooks, hflag]
      exact Bool.eq_false_iff.mpr hdefer

/-- A dispatch that goes on. -/
theorem proceed_inv {w : HookTablesWorld} {d : HookDispatch} {start : Nat}
    (htracks : w.hooks.Tracks w.expected) (hflag : w.hooks.dispatching = d.site.deferring)
    (hlog : ∀ r ∈ w.log, r.Complete) (hinstalled : d.installed = d.site.hooks w.hooks.tables)
    (hcalled : d.called = (d.site.hooks w.hooks.tables).take start) :
    HookTablesInv (w.proceed d start) := by
  unfold proceed
  split
  next id hget =>
    have ⟨hinside, hid⟩ := List.getElem?_eq_some_iff.mp hget
    refine ⟨htracks, ?_, ?_, hlog⟩
    · intro hnone
      cases hnone
    intro e he
    cases he
    refine ⟨hinstalled, hinside, ?_, hflag⟩
    rw [hcalled, List.take_add_one, hget]
    rfl
  next hnone =>
    have hlen : (d.site.hooks w.hooks.tables).length ≤ start := List.getElem?_eq_none_iff.mp hnone
    have hall : d.called = d.installed := by
      rw [hcalled, hinstalled, List.take_of_length_le hlen]
    exact finish_inv htracks hflag hlog ⟨hall ▸ List.prefix_rfl, fun _ => hall, fun h => by cases h⟩

/-- Moving on leaves the list of the running dispatch alone. -/
theorem proceed_hooks {w : HookTablesWorld} {d e : HookDispatch} {start : Nat}
    (he : (w.proceed d start).running = some e) :
    e.site.hooks (w.proceed d start).hooks.tables = e.site.hooks w.hooks.tables := by
  unfold proceed at he ⊢
  split at he
  next => rfl
  next => cases he

/-- Step: a dispatch begins. -/
theorem start_inv {w w' : HookTablesWorld} {site : HookSite} (h : HookTablesInv w)
    (hstep : w.step (.start site) = some w') :
    HookTablesInv w' ∧ ∀ d, w'.running = some d →
      d.site.hooks w'.hooks.tables = d.site.hooks w.hooks.tables := by
  simp only [step] at hstep
  split at hstep
  next => cases hstep
  next hidle =>
    have hflag := h.idle hidle
    have hnil := h.tracks.direct hflag
    -- Nothing is queued between dispatches.
    have hprepare : site.prepare w.hooks = w.hooks := by
      have happly : w.hooks.applyPendingHookMutations = w.hooks := by
        unfold ExecutorHooks.applyPendingHookMutations
        rw [if_pos (List.isEmpty_iff.mpr hnil)]
      cases site with
      | instruction code => exact happly
      | _ => rfl
    have hnobody : ∀ installed, installed = [] →
        HookTablesInv { w with log := w.log ++ [⟨site, installed, [], false⟩] } := by
      intro installed hempty
      refine ⟨h.tracks, h.idle, h.running, ?_⟩
      intro r hr
      rcases List.mem_append.mp hr with hr | hr
      · exact h.log r hr
      · rw [List.mem_singleton.mp hr, hempty]
        exact ⟨List.prefix_rfl, fun _ => rfl, fun hexit => by cases hexit⟩
    rw [hprepare] at hstep
    split at hstep
    next hreached =>
      split at hstep
      next hentered =>
        cases hstep
        have htracks : ExecutorHooks.Tracks { w.hooks with dispatching := site.deferring } w.expected :=
          ⟨h.tracks.flags, h.tracks.queue, fun _ => hnil⟩
        exact ⟨proceed_inv htracks rfl h.log rfl rfl, fun d hd => proceed_hooks hd⟩
      next hentered =>
        cases hstep
        have hempty := HookTables.hooks_of_not_entered (Bool.eq_false_iff.mpr hentered)
        exact ⟨hnobody _ hempty, fun d hd => by cases hidle.symm.trans hd⟩
    next hreached =>
      cases hstep
      have hempty :=
        HookTables.hooks_of_not_reached h.tracks.flags (Bool.eq_false_iff.mpr hreached)
      exact ⟨hnobody _ hempty, fun d hd => by cases hidle.symm.trans hd⟩

/-- Step: a request, inside a dispatch or not. -/
theorem request_inv {w w' : HookTablesWorld} {r : HookRequest} (h : HookTablesInv w)
    (hok : StepOk w (.request r)) (hstep : w.step (.request r) = some w') :
    HookTablesInv w' ∧ ∀ d, w'.running = some d →
      d.site.hooks w'.hooks.tables = d.site.hooks w.hooks.tables := by
  obtain ⟨htracks, hflag, htables⟩ := h.tracks.request r
  cases hstep
  have hkept : ∀ d, w.running = some d →
      d.site.hooks (r.run w.hooks).tables = d.site.hooks w.hooks.tables := by
    intro d hd
    have hd' := (h.running d hd).flag
    rw [htables]
    by_cases hdefer : d.site.deferring = true
    · rw [if_pos (hd'.trans hdefer)]
    · -- An undeferred dispatch: the condition speaks.
      have hdefer' := Bool.eq_false_iff.mpr hdefer
      have hok' : RequestOk w.hooks.tables r (some d) := hd ▸ hok
      rw [if_neg (by rw [hd', hdefer']; exact Bool.false_ne_true)]
      exact HookTables.hooks_mutate_of_leavesAlone hdefer' (hok' hdefer') w.hooks
  refine ⟨⟨htracks, fun hidle => hflag.trans (h.idle hidle), ?_, h.log⟩, hkept⟩
  intro d hd
  have hd' := h.running d hd
  have hsame := hkept d hd
  exact ⟨hd'.installed.trans hsame.symm, hsame.symm ▸ hd'.inside, hsame.symm ▸ hd'.called,
    hflag.trans hd'.flag⟩

/-- Step: a callback answers. -/
theorem ret_inv {w w' : HookTablesWorld} {exit : Bool} (h : HookTablesInv w)
    (hstep : w.step (.ret exit) = some w') :
    HookTablesInv w' ∧ ∀ d, w'.running = some d →
      d.site.hooks w'.hooks.tables = d.site.hooks w.hooks.tables := by
  -- Nothing runs, or the hook that runs is the last one asked for, or more are to come.
  simp only [step] at hstep
  split at hstep
  next => cases hstep
  next d hrunning =>
    have hd := h.running d hrunning
    split at hstep
    next =>
      cases hstep
      have hnonempty : d.called ≠ [] := by
        rw [hd.called, List.take_add_one, List.getElem?_eq_getElem hd.inside]
        exact List.concat_ne_nil _ _
      have hinitial : d.called <+: d.installed := by
        rw [hd.called, hd.installed]
        exact List.take_prefix _ _
      exact ⟨finish_inv h.tracks hd.flag h.log
        ⟨hinitial, nofun, fun _ => hnonempty⟩, fun e he => by cases he⟩
    next =>
      cases hstep
      exact ⟨proceed_inv h.tracks hd.flag h.log hd.installed hd.called,
        fun e he => proceed_hooks he⟩

/-- One step within the condition keeps the invariant and the list of the
dispatch it leaves running. -/
theorem step_inv {w w' : HookTablesWorld} {a : HookTablesAction} (h : HookTablesInv w)
    (hok : StepOk w a) (hstep : w.step a = some w') :
    HookTablesInv w' ∧ ∀ d, w'.running = some d →
      d.site.hooks w'.hooks.tables = d.site.hooks w.hooks.tables := by
  cases a with
  | start site => exact start_inv h hstep
  | request r => exact request_inv h hok hstep
  | ret exit => exact ret_inv h hstep

/-- **Hook containers.** In every run within `StepOk`: no step changes the
hooks a dispatch is running over; every dispatch called exactly the hooks
installed when it started, up to its early exit; between dispatches the
tables are the requests applied in order; and the flags always say which
tables hold a hook. -/
theorem hookTables_stable {as : List HookTablesAction} {w : HookTablesWorld}
    (hrun : GuardedRun step StepOk {} as w) :
    (∀ r ∈ w.log, r.Complete) ∧
      (w.running = none → w.hooks.tables = w.expected) ∧
      w.hooks.flags = w.hooks.tables.flags ∧
      ∀ a w', StepOk w a → w.step a = some w' → ∀ d, w'.running = some d →
        d.site.hooks w'.hooks.tables = d.site.hooks w.hooks.tables := by
  have hinv : HookTablesInv w :=
    hrun.invariant (fun _ _ _ h hok hstep => (step_inv h hok hstep).1) hookTablesInv_init
  refine ⟨hinv.log, ?_, hinv.tracks.flags, fun _ _ hok hstep => (step_inv hinv hok hstep).2⟩
  intro hidle
  have hqueue := hinv.tracks.queue
  rwa [hinv.tracks.direct (hinv.idle hidle)] at hqueue

/-! ## Two runs -/

/-- An execution hook's callback adds a hook for its own address, whose
callback adds a stop hook and an instruction hook; that one, when called,
clears everything and adds a fault hook. -/
def tableRun : List HookTablesAction :=
  [.request (.add .execution), .start .execution, .request (.add (.executionAddress 0x1000#64)),
    .ret false, .start (.executionAddress 0x1000#64), .request (.add .stop),
    .request (.add .instruction), .ret false, .start (.instruction .cpuid), .request .clear,
    .request (.add .fault), .ret true, .start .fault, .ret false]

/-- The run of the witness. -/
theorem hookTables_stable_tableRun :
    ∃ w, GuardedRun step StepOk {} tableRun w ∧
      w.log.map (fun r => (r.called, r.exited)) =
        [([1#64], false), ([2#64], false), ([4#64], true), ([5#64], false)] ∧
      (∀ r ∈ w.log, r.Complete) ∧ w.hooks.flags = w.hooks.tables.flags := by
  have hrun := guardedRun_of_runGuarded (rfl : runGuarded step StepOk {} tableRun = some _)
  have hstable := hookTables_stable hrun
  exact ⟨_, hrun, rfl, hstable.1, hstable.2.2.1⟩

/-- An execution hook's callback adds another execution hook: the list it is
called from grows under the loop, which goes on to the new hook. -/
theorem execution_hook_changes_list :
    ∃ w w' d, [.request (.add .execution), .start .execution].foldlM step {} = some w ∧
      w.step (.request (.add .execution)) = some w' ∧ w'.running = some d ∧
      d.site.hooks w'.hooks.tables ≠ d.site.hooks w.hooks.tables := by
  refine ⟨_, _, _, rfl, rfl, rfl, ?_⟩
  intro hsame
  cases congrArg List.length hsame

end HookTablesWorld

end Seven
