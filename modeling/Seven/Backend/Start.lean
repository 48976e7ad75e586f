import Seven.Executor.Accounting

/-!
# Starting the emulator

`start` of the backend runs the executor. With a count it is one run. Without
one it is a run in slices of `kInstructionSlice`, so that a stop request takes
effect: a slice that ends at its limit is followed by the next. Each slice
overwrites `last_result_`, which `last_retired_instructions` and
`last_batch_result` report from, so what they report of a run of several
slices is what the last one has retired. `RunEnv.start_retired` says when that
is all.
-/

namespace Seven

open Seven.Lib

variable {W : Type}

/-! ## The backend -/

/-- Instructions to a slice. -/
def kInstructionSlice : Nat := 0x20000

/-- `BatchStopReason`. -/
inductive BatchStopReason where
  | completed
  | executionLimit
  | stopRequested
  | violation
deriving DecidableEq, Repr

/-- `BatchResult`. -/
structure BatchResult where
  retired : Nat
  rip : U64
  rsp : U64
  reason : BatchStopReason

/-- `last_result_`, and the rest of the backend behind a start. -/
abbrev Started (W : Type) := ExecutionResult × Executor × Machine W

/-- `last_retired_instructions`. -/
def lastRetiredInstructions (out : Started W) : Nat := out.1.retired

/-- `last_batch_result`. -/
def lastBatchResult (out : Started W) : BatchResult where
  retired := out.1.retired
  rip := out.2.2.state.rip
  rsp := out.2.2.state.rsp
  reason :=
    match out.1.reason with
    | .none => .completed
    | .executionLimit => .executionLimit
    | .stopRequested => .stopRequested
    | _ => .violation

namespace RunEnv

variable (env : RunEnv W)

/-- `clear_stop_request`. -/
def clearStopRequest (s : Executor × Machine W) : Executor × Machine W :=
  ({ s.1 with stopRequested := false }, { s.2 with world := (env.takeStop s.2.world).2 })

/-- The slices of a start without a count, if at most `fuel` of them end
it. -/
def slices : Nat → Executor × Machine W → Option (Started W)
  | 0, _ => none
  | fuel + 1, s =>
    let out := env.run kInstructionSlice s
    if out.1.reason = .executionLimit then slices fuel out.2 else some out

/-- `start`: slices until one of them does not end at its limit. -/
def start (fuel count : Nat) (s : Executor × Machine W) : Option (Started W) :=
  let s := env.clearStopRequest s
  if count = 0 then env.slices fuel s else some (env.run count s)

/-- Where the slices begin. -/
def sliceStarts : Nat → Executor × Machine W → List (Executor × Machine W)
  | 0, _ => []
  | fuel + 1, s =>
    let out := env.run kInstructionSlice s
    s :: if out.1.reason = .executionLimit then sliceStarts fuel out.2 else []

/-- The instructions retired since a start without a count was called. -/
def startRetired (fuel : Nat) (s : Executor × Machine W) : Nat :=
  ((env.sliceStarts fuel (env.clearStopRequest s)).map (env.committed kInstructionSlice)).sum

/-- The run stops in its first step. -/
def StopsAtOnce (s : Executor × Machine W) : Prop :=
  (env.step (env.collect s).1 (env.collect s).2).1.reason ≠ .none

/-! ## The last slice and the others -/

variable {env}

/-- A start returns what its last slice does; the others end at a limit. -/
theorem slices_some {fuel : Nat} {s : Executor × Machine W} {out : Started W}
    (h : env.slices fuel s = some out) :
    ∃ front last, env.sliceStarts fuel s = front ++ [last] ∧
      out = env.run kInstructionSlice last ∧
      ∀ t ∈ front, (env.run kInstructionSlice t).1.reason = .executionLimit := by
  induction fuel generalizing s with
  | zero => cases h
  | succ fuel ih =>
    unfold slices at h
    unfold sliceStarts
    dsimp only at h ⊢
    by_cases hlimit : (env.run kInstructionSlice s).1.reason = .executionLimit
    · rw [if_pos hlimit] at h ⊢
      obtain ⟨front, last, hstarts, hout, hfront⟩ := ih h
      refine ⟨s :: front, last, by rw [hstarts]; rfl, hout, fun t ht => ?_⟩
      rcases List.mem_cons.mp ht with rfl | ht
      · exact hlimit
      · exact hfront t ht
    · rw [if_neg hlimit] at h ⊢
      cases h
      exact ⟨[], s, rfl, rfl, fun t ht => absurd ht List.not_mem_nil⟩

/-- A run that ends at a limit has begun its first step. -/
theorem running_of_limit {n : Nat} {s : Executor × Machine W}
    (h : (env.run (n + 1) s).1.reason = .executionLimit) :
    (env.collect s).1.stopRequested = false := by
  cases hstop : (env.collect s).1.stopRequested with
  | false => rfl
  | true =>
    have hpass : env.pass (0, s) =
        .done (env.report { reason := .stopRequested, retired := 0 } (env.collect s)) :=
      if_pos hstop
    unfold run at h
    rw [retry_done hpass] at h
    cases h

/-- Such a run has committed nothing exactly when it has stopped at once. -/
theorem committed_eq_zero_iff (hstops : env.StopsAreFaults)
    (hother : ∀ code h, env.otherHandler code = some h → RaisesFaults h) {n : Nat}
    {s : Executor × Machine W} (hlimit : (env.run (n + 1) s).1.reason = .executionLimit)
    (hsteps : ∀ t ∈ env.begun (n + 1) s, env.Accounted t.1 t.2) :
    env.committed (n + 1) s = 0 ↔ env.StopsAtOnce s := by
  have hstop := running_of_limit hlimit
  unfold committed StopsAtOnce
  unfold begun at hsteps ⊢
  dsimp only at hsteps ⊢
  rw [hstop, if_neg Bool.false_ne_true] at hsteps ⊢
  obtain ⟨-, hcommits⟩ := Env.step_accounted hstops hother hstop (hsteps _ List.mem_cons_self)
  rw [List.map_cons, List.sum_cons, hcommits]
  by_cases hreason : (env.step (env.collect s).1 (env.collect s).2).1.reason = .none
  · rw [if_pos hreason]
    exact iff_of_false (by omega) (not_not_intro hreason)
  · rw [if_neg hreason, if_pos hreason]
    exact iff_of_true rfl hreason

/-! ## The same steps in one run -/

/-- The same steps retire the same. -/
theorem retired_of_sameSteps {l l' : List (Executor × Machine W)}
    (h : List.Forall₂ SameButRecords l l') :
    (l.map fun t => (env.step t.1 t.2).1.retired).sum =
      (l'.map fun t => (env.step t.1 t.2).1.retired).sum := by
  induction h with
  | nil => rfl
  | cons hfirst _ ih =>
    rw [List.map_cons, List.map_cons, List.sum_cons, List.sum_cons, ih,
      (env.step_records hfirst).1]

/-- The steps of several slices. -/
theorem retired_flatMap (starts : List (Executor × Machine W)) :
    ((starts.flatMap (env.begun kInstructionSlice)).map fun t =>
        (env.step t.1 t.2).1.retired).sum =
      (starts.map (env.stepsRetired kInstructionSlice)).sum := by
  induction starts with
  | nil => rfl
  | cons s rest ih =>
    rw [List.flatMap_cons, List.map_append, List.sum_append, ih, List.map_cons, List.sum_cons]
    rfl

section reports

variable (hstops : env.StopsAreFaults)
  (hother : ∀ code h, env.otherHandler code = some h → RaisesFaults h)

include hstops hother

/-- A slice reports what it has committed. -/
theorem slice_accounted {t : Executor × Machine W}
    (hsteps : ∀ u ∈ env.begun kInstructionSlice t, env.Accounted u.1 u.2) :
    (env.run kInstructionSlice t).1.retired = env.stepsRetired kInstructionSlice t ∧
      env.stepsRetired kInstructionSlice t = env.committed kInstructionSlice t := by
  have hloop := loop_accounted hstops hother kInstructionSlice kInstructionSlice 0 t
    (Nat.zero_add _) hsteps
  rw [Nat.zero_add] at hloop
  exact hloop

variable {fuel : Nat} {s : Executor × Machine W}
  (hsteps : ∀ t ∈ env.sliceStarts fuel s, ∀ u ∈ env.begun kInstructionSlice t,
    env.Accounted u.1 u.2)

include hsteps

/-- The report is that of the last slice, so it is the whole exactly when the
others have committed nothing. -/
theorem slices_report_iff {out : Started W} (h : env.slices fuel s = some out) :
    lastRetiredInstructions out =
        ((env.sliceStarts fuel s).map (env.committed kInstructionSlice)).sum ↔
      ∀ t ∈ (env.sliceStarts fuel s).dropLast, env.StopsAtOnce t := by
  obtain ⟨front, last, hstarts, hout, hfront⟩ := slices_some h
  rw [hstarts] at hsteps ⊢
  obtain ⟨hretired, hcommitted⟩ := slice_accounted hstops hother
    (hsteps last (List.mem_append_right front List.mem_cons_self))
  have hreported : lastRetiredInstructions out = env.committed kInstructionSlice last := by
    rw [hout]
    exact hretired.trans hcommitted
  have htotal : ((front ++ [last]).map (env.committed kInstructionSlice)).sum =
      (front.map (env.committed kInstructionSlice)).sum + env.committed kInstructionSlice last := by
    rw [List.map_append, List.sum_append]
    rfl
  have hzero : (front.map (env.committed kInstructionSlice)).sum = 0 ↔
      ∀ t ∈ front, env.committed kInstructionSlice t = 0 := by
    rw [List.sum_eq_zero_iff_forall_eq_nat, List.forall_mem_map]
  rw [List.dropLast_concat, hreported, htotal]
  rw [show (env.committed kInstructionSlice last =
    (front.map (env.committed kInstructionSlice)).sum + env.committed kInstructionSlice last) ↔
    (front.map (env.committed kInstructionSlice)).sum = 0 by omega, hzero]
  refine forall₂_congr fun t ht => ?_
  exact committed_eq_zero_iff hstops hother (hfront t ht)
    (hsteps t (List.mem_append_left _ ht))

/-- One run of the same steps reports the sum over the slices. -/
theorem counted_eq_sliced {count : Nat}
    (hbegun : ∀ t ∈ env.begun count s, env.Accounted t.1 t.2)
    (hsame : List.Forall₂ SameButRecords (env.begun count s)
      ((env.sliceStarts fuel s).flatMap (env.begun kInstructionSlice))) :
    lastRetiredInstructions (env.run count s) =
      ((env.sliceStarts fuel s).map (env.committed kInstructionSlice)).sum := by
  obtain ⟨hretired, -⟩ := loop_accounted hstops hother count count 0 s (Nat.zero_add _) hbegun
  have hcommitted : (env.sliceStarts fuel s).map (env.stepsRetired kInstructionSlice) =
      (env.sliceStarts fuel s).map (env.committed kInstructionSlice) :=
    List.map_congr_left fun t ht => (slice_accounted hstops hother (hsteps t ht)).2
  rw [← hcommitted, ← (retired_of_sameSteps hsame).trans (retired_flatMap _)]
  exact hretired.trans (Nat.zero_add _)

end reports

/-- **What a start reports.** When the steps of a start without a count take
none of the branches that miscount, `last_retired_instructions` and
`last_batch_result` report all that has retired since it was called if and
only if every slice but the last has stopped in its first step, as when there
is one slice only. Exactly then they report what a start with a count reports
that makes the same steps. -/
theorem start_retired (hstops : env.StopsAreFaults)
    (hother : ∀ code h, env.otherHandler code = some h → RaisesFaults h) {fuel : Nat}
    {s : Executor × Machine W} {out : Started W} (h : env.start fuel 0 s = some out)
    (hsteps : ∀ t ∈ env.sliceStarts fuel (env.clearStopRequest s),
      ∀ u ∈ env.begun kInstructionSlice t, env.Accounted u.1 u.2) :
    ((lastRetiredInstructions out = env.startRetired fuel s ∧
        (lastBatchResult out).retired = env.startRetired fuel s) ↔
      ∀ t ∈ (env.sliceStarts fuel (env.clearStopRequest s)).dropLast, env.StopsAtOnce t) ∧
    ∀ count out', 0 < count → env.start fuel count s = some out' →
      (∀ t ∈ env.begun count (env.clearStopRequest s), env.Accounted t.1 t.2) →
      List.Forall₂ SameButRecords (env.begun count (env.clearStopRequest s))
        ((env.sliceStarts fuel (env.clearStopRequest s)).flatMap (env.begun kInstructionSlice)) →
      (lastRetiredInstructions out' = lastRetiredInstructions out ↔
        ∀ t ∈ (env.sliceStarts fuel (env.clearStopRequest s)).dropLast, env.StopsAtOnce t) := by
  change env.slices fuel (env.clearStopRequest s) = some out at h
  have hall : lastRetiredInstructions out = env.startRetired fuel s ↔
      ∀ t ∈ (env.sliceStarts fuel (env.clearStopRequest s)).dropLast, env.StopsAtOnce t :=
    slices_report_iff hstops hother hsteps h
  refine ⟨⟨fun hboth => hall.mp hboth.1, fun hcond => ⟨hall.mpr hcond, hall.mpr hcond⟩⟩, ?_⟩
  intro count out' hcount hstart hbegun hsame
  unfold start at hstart
  rw [if_neg (by omega)] at hstart
  cases hstart
  have hcounted : lastRetiredInstructions (env.run count (env.clearStopRequest s)) =
      env.startRetired fuel s :=
    counted_eq_sliced hstops hother hsteps hbegun hsame
  rw [hcounted, ← hall]
  exact eq_comm

/-! ## Two starts -/

/-- `PUSH AX`, and nothing to decode behind it. -/
def pushOnce : Executor × Machine Unit := runMachine 0x202#64 0#64 0x3FF#16

set_option maxRecDepth 20000 in
/-- The steps begun by the instance. -/
theorem pushOnce_begun : runEnv.begun kInstructionSlice pushOnce =
    [runEnv.collect pushOnce,
      runEnv.collect (runEnv.step (runEnv.collect pushOnce).1 (runEnv.collect pushOnce).2).2] := rfl

set_option maxRecDepth 20000 in
/-- They are accounted for. -/
theorem pushOnce_accounted (t : Executor × Machine Unit)
    (ht : t ∈ runEnv.begun kInstructionSlice pushOnce) : runEnv.Accounted t.1 t.2 := by
  rw [pushOnce_begun] at ht
  rw [List.mem_cons, List.mem_singleton] at ht
  rcases ht with rfl | rfl
  · exact Env.accounted_of_quiet rfl rfl rfl
  · exact Env.accounted_of_quiet rfl rfl rfl

set_option maxRecDepth 20000 in
/-- One slice. -/
theorem pushOnce_starts : runEnv.sliceStarts 1 (runEnv.clearStopRequest pushOnce) = [pushOnce] :=
  rfl

set_option maxRecDepth 20000 in
/-- A start that ends in its first slice. -/
theorem start_retired_push :
    ∃ out, runEnv.start 1 0 pushOnce = some out ∧
      lastRetiredInstructions out = runEnv.startRetired 1 pushOnce := by
  have hstart := @start_retired Unit runEnv runEnv_stopsAreFaults
    (fun code h hnone => by cases hnone) 1 pushOnce (runEnv.run kInstructionSlice pushOnce) rfl ?_
  · rw [pushOnce_starts] at hstart
    exact ⟨_, rfl, (hstart.1.mpr fun t ht => absurd ht List.not_mem_nil).1⟩
  · intro t ht u hu
    rw [pushOnce_starts, List.mem_singleton] at ht
    subst ht
    exact pushOnce_accounted u hu

end RunEnv

/-! `EB FE` is a jump to itself. The stop hook requests a stop. -/

/-- A jump to itself. -/
def spinInstruction : Instruction := { code := .other 0, length := 2, nearBranch64 := 0x1000#64 }

/-- Its environment. -/
def spinEnv : RunEnv Bool where
  decode := fun _ _ _ => some spinInstruction
  otherHandler code :=
    if code = .other 0 then some fun ctx => jumpTo ctx.instr.nearBranch64 ctx else none
  stopHooks := [fun _ m => { m with world := true }]
  takeStop w := (w, false)

/-- Its state. -/
def spinState : CpuState where
  rip := 0x1000#64
  rflags := 0x202#64
  gpr := fun _ => 0#64

/-- Its code. -/
def spinMemory : Memory :=
  (Memory.writeUnchecked (Memory.map {} 0x1000#64 0x1000#64 kMemoryPermissionAll)
    0x1000#64 [0xEB#8, 0xFE#8]).1

/-- The executor has met the instruction before. -/
def spinExecutor : Executor where
  caches := Caches.setDecoded {} (decodeCacheIndex 0x1000#64)
    { decodedInstruction (fun _ => true) spinInstruction with
      rip := 0x1000#64
      codeEpoch := spinMemory.codeEpoch
      valid := true }

/-- The machine that spins. -/
def spin : Executor × Machine Bool := (spinExecutor, ⟨spinState, spinMemory, false⟩)

set_option maxRecDepth 20000 in
/-- A step leads back. -/
theorem spin_step : spinEnv.step spin.1 spin.2 =
    ({ retired := 1, code := some (.other 0) }, spin) := by
  have hstep : spinEnv.step spin.1 spin.2 = ({ retired := 1, code := some (.other 0) },
      (spinExecutor, ⟨{ spinState with
        gpr := fun j => if j = 4 then 0#64 else if j = 4 then 0#64 else 0#64 },
        spinMemory, false⟩)) := rfl
  have hgpr : (fun j : Fin 16 => if j = 4 then 0#64 else if j = 4 then 0#64 else 0#64) =
      fun _ => 0#64 := by
    funext j
    simp
  rw [hstep, hgpr]
  rfl

namespace RunEnv

/-- The jump spins through any slice. -/
theorem spin_reaches : ∀ n i, Reaches spinEnv.pass n (i, spin) (i + n, spin)
  | 0, i => Reaches.refl _
  | n + 1, i => by
    have hpass : spinEnv.pass (i, spin) = .again (i + 1, spin) := by
      have hcollect : spinEnv.collect spin = spin := rfl
      unfold pass
      dsimp only
      change (if (spinEnv.collect spin).1.stopRequested = true then _ else
        if (spinEnv.step (spinEnv.collect spin).1 (spinEnv.collect spin).2).1.reason ≠ .none
          then _ else Answer.again (i + 1,
            (spinEnv.step (spinEnv.collect spin).1 (spinEnv.collect spin).2).2)) = _
      rw [hcollect, spin_step]
      rfl
    have hrest := spin_reaches n (i + 1)
    rw [show i + 1 + n = i + (n + 1) by omega] at hrest
    exact hrest.again hpass

/-- So do `n`. -/
theorem spin_begun : ∀ n, spinEnv.begun n spin = List.replicate n spin
  | 0 => rfl
  | n + 1 => by
    have hcollect : spinEnv.collect spin = spin := rfl
    unfold begun
    dsimp only
    rw [hcollect, spin_step, List.replicate_succ, ← spin_begun n]
    rfl

/-- A start that spins through one slice and is stopped then reports nothing,
though a whole slice has retired. -/
theorem start_forgets_slices :
    ∃ out, spinEnv.start 2 0 spin = some out ∧ lastRetiredInstructions out = 0 ∧
      ((spinEnv.sliceStarts 2 (spinEnv.clearStopRequest spin)).map
        (spinEnv.stepsRetired kInstructionSlice)).sum = kInstructionSlice := by
  have hclear : spinEnv.clearStopRequest spin = spin := rfl
  -- the first slice ends at its limit, with the stop request in place
  obtain ⟨stopped, hstopped⟩ : ∃ stopped, stopped = spinEnv.report
      { reason := .executionLimit, retired := kInstructionSlice } spin := ⟨_, rfl⟩
  have hfirst : spinEnv.run kInstructionSlice spin = stopped := by
    have hretry : retry spinEnv.pass (fun t => spinEnv.report
        { reason := .executionLimit, retired := kInstructionSlice } t.2)
        (0 + kInstructionSlice) (0, spin) =
        spinEnv.report { reason := .executionLimit, retired := kInstructionSlice } spin :=
      retry_reaches (by
        have hreach := spin_reaches kInstructionSlice 0
        rw [Nat.zero_add] at hreach
        exact hreach) 0
    rw [Nat.zero_add] at hretry
    exact hretry.trans hstopped.symm
  have hlimit : stopped.1.reason = .executionLimit := by rw [hstopped]; rfl
  -- so the second one runs nothing
  have hcollected : (spinEnv.collect stopped.2).1.stopRequested = true := by rw [hstopped]; rfl
  have hsecond : spinEnv.run kInstructionSlice stopped.2 =
      spinEnv.report { reason := .stopRequested, retired := 0 } (spinEnv.collect stopped.2) := by
    have hpass : spinEnv.pass (0, stopped.2) = .done
        (spinEnv.report { reason := .stopRequested, retired := 0 } (spinEnv.collect stopped.2)) :=
      if_pos hcollected
    exact retry_done hpass
  have hretired : spinEnv.stepsRetired kInstructionSlice spin = kInstructionSlice := by
    unfold stepsRetired
    rw [spin_begun, List.map_replicate, spin_step, List.sum_replicate_nat, Nat.mul_one]
  have hnone : spinEnv.stepsRetired kInstructionSlice stopped.2 = 0 := by
    have hbegun : spinEnv.begun kInstructionSlice stopped.2 = [] := if_pos hcollected
    unfold stepsRetired
    rw [hbegun]
    rfl
  have hend : (spinEnv.report { reason := .stopRequested, retired := 0 }
      (spinEnv.collect stopped.2)).1.reason ≠ .executionLimit := fun h => by cases h
  refine ⟨spinEnv.report { reason := .stopRequested, retired := 0 } (spinEnv.collect stopped.2),
    ?_, rfl, ?_⟩
  · unfold start
    dsimp only
    rw [hclear, if_pos rfl]
    unfold slices
    dsimp only
    rw [hfirst, if_pos hlimit]
    unfold slices
    dsimp only
    rw [hsecond, if_neg hend]
  · have hstarts : spinEnv.sliceStarts 2 spin = [spin, stopped.2] := by
      unfold sliceStarts
      dsimp only
      rw [hfirst, if_pos hlimit]
      unfold sliceStarts
      dsimp only
      rw [hsecond, if_neg hend]
    rw [hclear, hstarts, List.map_cons, List.map_cons, List.map_nil, List.sum_cons, List.sum_cons,
      List.sum_nil, hretired, hnone, Nat.add_zero, Nat.add_zero]

end RunEnv

end Seven
