import Seven.Executor.HitNotes
import Seven.Executor.Shadow

/-!
# Data breakpoints of an instruction

Behind a handler the executor looks for data breakpoints in one of two places.
When the handler has found some itself (a string loop, a load of `SS`), those
are reported. Otherwise it goes through the memory operands that the
instruction info lists, at the addresses they had before the handler ran:
`consulted`.

The info lists every load and store, and marks those conditional that the
instruction may leave out (`Lists`), but the executor does not ask for the
mark. So a listed access may be reported that was not made (`Stray`). And an
access or a watched interval that ends at the top of the address space is
never found (`AtTop`):

> `NotingEnv.dataBreakpoints_exact_iff`: the reported breakpoints are those of
> the bytes that were read or written, when neither happens.
-/

namespace Seven

open Seven.Lib

variable {W : Type}

/-! ## What the instruction info lists -/

/-- A load or a store that the info lists, and whether it marks it as one that
may be left out. -/
structure ListedAccess where
  access : DebugMemoryAccess
  conditional : Bool

/-- The load and the store of an operand. -/
def UsedMemory.listed (s : CpuState) (u : UsedMemory) : List ListedAccess :=
  (if opAccessReads u.access then
    [⟨{ debugMemoryAccess s u with isRead := true, isWrite := false }, u.access = .condRead⟩]
  else []) ++
  if opAccessWrites u.access then
    [⟨{ debugMemoryAccess s u with isRead := false, isWrite := true },
      u.access = .condWrite ∨ u.access = .readCondWrite⟩]
  else []

/-- The accesses the source lists. -/
def listedAccesses (s : CpuState) (used : List UsedMemory) : List ListedAccess :=
  used.flatMap (UsedMemory.listed s)

/-- One of the accesses touches what breakpoint `i` watches, below the top. -/
def Sees (t : CpuState) (l : List DebugMemoryAccess) (i : Fin 4) : Prop :=
  ∃ a ∈ l, Touches t a i ∧ BelowTop t a i

instance (t : CpuState) (l : List DebugMemoryAccess) (i : Fin 4) : Decidable (Sees t l i) :=
  inferInstanceAs (Decidable (∃ a ∈ _, _))

section sees

variable {t : CpuState} {l : List DebugMemoryAccess} {i : Fin 4}

/-- What the executor finds among accesses. -/
theorem collectDataBreakpointHits_sees (hshort : ∀ a ∈ l, a.size ≤ 2 ^ 63) :
    (collectDataBreakpointHits t l).getLsbD i.val = true ↔ Sees t l i := by
  rw [collectDataBreakpointHits_getLsbD]
  constructor
  · rintro ⟨a, ha, hhit⟩
    exact ⟨a, ha, (DebugMemoryAccess.hits_iff (hshort a ha)).mp hhit⟩
  · rintro ⟨a, ha, hseen⟩
    exact ⟨a, ha, (DebugMemoryAccess.hits_iff (hshort a ha)).mpr hseen⟩

/-- A mask of hits is zero when nothing is seen. -/
theorem collectDataBreakpointHits_ne_zero (hshort : ∀ a ∈ l, a.size ≤ 2 ^ 63) :
    collectDataBreakpointHits t l ≠ 0#64 ↔ ∃ i, Sees t l i := by
  rw [collectDataBreakpointHits_ne_zero_iff]
  refine exists_congr fun i => ?_
  rw [← collectDataBreakpointHits_sees hshort, collectDataBreakpointHits_getLsbD]

/-- Nothing is seen in no accesses. -/
theorem not_sees_nil : ¬Sees t [] i := by
  rintro ⟨a, ha, _⟩
  exact List.not_mem_nil ha

/-- Seen in the first, or in the others. -/
theorem sees_cons {a : DebugMemoryAccess} :
    Sees t (a :: l) i ↔ (Touches t a i ∧ BelowTop t a i) ∨ Sees t l i := by
  unfold Sees
  simp only [List.mem_cons, exists_eq_or_imp]

/-- A read and a write are reported when one of them is. -/
theorem watchReports_or (t : CpuState) (isRead isWrite : Bool) (i : Fin 4) :
    watchReports t isRead isWrite i =
      (watchReports t isRead false i || watchReports t false isWrite i) := by
  unfold watchReports
  dsimp only
  generalize ((t.dr 7 >>> (i.val * 2)) &&& 3#64 != 0#64) = enabled
  generalize ((t.dr 7 >>> (16 + i.val * 4)) &&& 3#64 == 1#64) = onWrite
  generalize ((t.dr 7 >>> (16 + i.val * 4)) &&& 3#64 == 3#64) = onAccess
  revert isRead isWrite enabled onWrite onAccess
  decide

/-- A register that watches neither reads nor writes. -/
theorem not_watchReports (t : CpuState) (i : Fin 4) : watchReports t false false i = false := by
  unfold watchReports
  simp only [Bool.and_false, Bool.or_self]

/-- An operand is found when its load or its store is. -/
theorem sees_listed (s : CpuState) (u : UsedMemory) :
    Sees t ((u.listed s).map ListedAccess.access) i ↔
      Touches t (debugMemoryAccess s u) i ∧ BelowTop t (debugMemoryAccess s u) i := by
  have hkind : Touches t (debugMemoryAccess s u) i ↔
      (watchReports t (opAccessReads u.access) false i = true ∨
        watchReports t false (opAccessWrites u.access) i = true) ∧
      HasByteIn (watchBase t i) (watchSize t i).toNat (debugMemoryAccess s u).address
        (debugMemoryAccess s u).size := by
    rw [← Bool.or_eq_true, ← watchReports_or]
    exact Iff.rfl
  have hnone := not_watchReports t i
  rw [hkind, or_and_right, or_and_right]
  unfold UsedMemory.listed
  -- an operand that is not read has no load, and no store if it is not written
  cases opAccessReads u.access <;> cases opAccessWrites u.access <;>
    simp only [hnone, if_true, if_false, Bool.false_eq_true, List.map_nil, List.map_cons,
      List.nil_append, List.cons_append, sees_cons, not_sees_nil, false_and, or_false, false_or] <;>
    exact Iff.rfl

/-- The executor goes through the listed loads and stores. -/
theorem collectDebugMemoryAccesses_sees (s : CpuState) (used : List UsedMemory) :
    Sees t (collectDebugMemoryAccesses s used) i ↔
      Sees t ((listedAccesses s used).map ListedAccess.access) i := by
  have hoperand (u : UsedMemory) := sees_listed (t := t) (i := i) s u
  unfold Sees at hoperand ⊢
  simp only [collectDebugMemoryAccesses, listedAccesses, List.mem_map, List.mem_filter,
    List.mem_flatMap] at hoperand ⊢
  constructor
  · rintro ⟨_, ⟨u, ⟨hu, _⟩, rfl⟩, hseen⟩
    obtain ⟨_, ⟨l, hl, rfl⟩, hlisted⟩ := (hoperand u).mpr hseen
    exact ⟨_, ⟨l, ⟨u, hu, hl⟩, rfl⟩, hlisted⟩
  · rintro ⟨_, ⟨l, ⟨u, hu, hl⟩, rfl⟩, hseen⟩
    have hfound := (hoperand u).mp ⟨_, ⟨l, hl, rfl⟩, hseen⟩
    refine ⟨_, ⟨u, ⟨hu, ?_⟩, rfl⟩, hfound⟩
    -- an operand that is neither read nor written is of no kind that is reported
    by_contra hkind
    rw [Bool.not_eq_true, Bool.or_eq_false_iff] at hkind
    have hreports := hfound.1.1
    simp only [debugMemoryAccess, hkind.1, hkind.2, not_watchReports] at hreports
    exact Bool.false_ne_true hreports

/-- What is reported is enabled. -/
theorem watchReports_enabled {isRead isWrite : Bool} (h : watchReports t isRead isWrite i = true) :
    hasEnabledDataBreakpoints t = true := by
  unfold watchReports at h
  rw [Bool.and_eq_true, bne_iff_ne] at h
  obtain ⟨henabled, hkind⟩ := h
  have hrw : breakpointRw t i ≠ 0#64 := by
    unfold breakpointRw
    intro hzero
    rw [hzero] at hkind
    exact Bool.false_ne_true hkind
  have hdr : t.dr 7 ≠ 0#64 := by
    intro hzero
    rw [hzero, BitVec.zero_ushiftRight, BitVec.zero_and] at henabled
    exact henabled rfl
  unfold hasEnabledDataBreakpoints
  rw [bne_iff_ne.mpr hdr, Bool.true_and, List.any_eq_true]
  refine ⟨i, List.mem_finRange i, ?_⟩
  rw [Bool.and_eq_true, bne_iff_ne]
  exact ⟨bne_iff_ne.mpr henabled, hrw⟩

end sees

/-- Does the executor look for debug events behind the handler? -/
def Execution.looksBehind (x : Execution W) (before : CpuState) : Bool :=
  x.rig.state.debugSuppression != 0#8 || x.rig.state.pendingDebugHitBits != 0#64 ||
    x.prologue.checkDataBreakpoints || x.rig.state.pendingSingleStep || singleStepping before

namespace NotingEnv

variable (A : NotingEnv W)

/-- The loads and stores of the handler, which starts from `g`. -/
def performed (x : Execution W) (g : Rig W) : List DebugMemoryAccess :=
  (A.program x.prologue.entry.reportedCode).performed
    (g.context x.prologue.instr x.prologue.nextRip)

/-- The handler looks for data breakpoints itself, and finds one. -/
def Noted (x : Execution W) (g : Rig W) : Prop :=
  A.notes x.prologue.entry.reportedCode x.prologue.instr = true ∧
    ∃ i, Sees x.rig.state (A.performed x g) i

instance (x : Execution W) (g : Rig W) : Decidable (A.Noted x g) :=
  inferInstanceAs (Decidable (_ ∧ _))

/-- Where the executor takes the hits of an execution from. -/
def consulted (x : Execution W) (g : Rig W) : List DebugMemoryAccess :=
  if A.Noted x g then A.performed x g else x.prologue.debugMemoryAccesses

/-- The data breakpoints behind an execution: those of the exception it is
followed by, or those that wait. -/
def reported (startRip : U64) (s : Caches × Rig W) (x : Execution W) : U64 :=
  (A.event startRip s).elim (withholdHits x.prologue x.context x.rig.state).pendingDebugHitBits
    DebugEvent.hits

/-- The instruction reads or writes a byte that breakpoint `i` watches, as it
reports. -/
def Touched (x : Execution W) (g : Rig W) (i : Fin 4) : Prop :=
  ∃ a ∈ A.performed x g, Touches x.rig.state a i

instance (x : Execution W) (g : Rig W) (i : Fin 4) : Decidable (A.Touched x g i) :=
  inferInstanceAs (Decidable (∃ a ∈ _, _))

/-- The breakpoints that are not reported already are reported if touched. -/
def Exact (startRip : U64) (s : Caches × Rig W) (x : Execution W) (g : Rig W) : Prop :=
  ∀ i : Fin 4, x.rig.state.pendingDebugHitBits.getLsbD i.val = false →
    ((A.reported startRip s x).getLsbD i.val = true ↔ A.Touched x g i)

/-- The info lists what an instruction accesses. A loop, whose handler looks
for breakpoints itself, has more loads and stores than are listed. -/
structure Lists (before : CpuState) (x : Execution W) (g : Rig W) : Prop where
  /-- Each load and store is listed. -/
  complete : A.notes x.prologue.entry.reportedCode x.prologue.instr = false →
    ∀ a ∈ A.performed x g,
      ∃ l ∈ listedAccesses before (A.usedMemory x.prologue.instr), l.access = a
  /-- What is listed and not conditional is made. -/
  made : ∀ l ∈ listedAccesses before (A.usedMemory x.prologue.instr),
    l.conditional = true ∨ l.access ∈ A.performed x g

/-- The breakpoint is touched at the top of the address space only: either the
watched interval ends there or beyond, or all loads and stores that touch it
do. -/
def AtTop (x : Execution W) (g : Rig W) (i : Fin 4) : Prop :=
  A.Touched x g i ∧ ∀ a ∈ A.performed x g, Touches x.rig.state a i → ¬BelowTop x.rig.state a i

instance (x : Execution W) (g : Rig W) (i : Fin 4) : Decidable (A.AtTop x g i) :=
  inferInstanceAs (Decidable (_ ∧ _))

/-- A conditional access touches the breakpoint, below the top, that the
instruction has left out, and the executor goes through the list: data
breakpoints were enabled, and the handler has found none. -/
def Stray (before : CpuState) (x : Execution W) (g : Rig W) (i : Fin 4) : Prop :=
  hasEnabledDataBreakpoints before = true ∧ ¬A.Noted x g ∧
    ∃ l ∈ listedAccesses before (A.usedMemory x.prologue.instr),
      l.conditional = true ∧ l.access ∉ A.performed x g ∧
        Touches x.rig.state l.access i ∧ BelowTop x.rig.state l.access i

instance (before : CpuState) (x : Execution W) (g : Rig W) (i : Fin 4) :
    Decidable (A.Stray before x g i) := inferInstanceAs (Decidable (_ ∧ _))

/-! ## What is reported -/

variable {A} {startRip : U64} {s : Caches × Rig W} {x : Execution W} {g : Rig W}

/-- The handler has succeeded. -/
theorem handler_ok (h : A.Executes startRip s x g) :
    (A.program x.prologue.entry.reportedCode).toHandler
      (g.context x.prologue.instr x.prologue.nextRip) = .ok () x.context := by
  have hcontext := h.context
  have hsucceeds := h.succeeds
  have hfaults := Env.handler_faults A.other_faults x.prologue.entry.reportedCode
  rw [A.toHandler_program]
  unfold Handler.run at hcontext hsucceeds
  cases hrun : A.handler x.prologue.entry.reportedCode
      (g.context x.prologue.instr x.prologue.nextRip) with
  | ok u c =>
    rw [hrun] at hcontext
    rw [hcontext]
  | error r c =>
    rw [hrun] at hsucceeds
    exact absurd hsucceeds (hfaults _ _ _ hrun).1

/-- What the handler has put into the hit bits, by the breakpoints behind it. -/
theorem handler_hits (h : A.Executes startRip s x g) :
    x.context.debugHitBits =
      if A.notes x.prologue.entry.reportedCode x.prologue.instr then
        collectDataBreakpointHits x.rig.state (A.performed x g)
      else 0#64 := by
  have hnotes := A.handler_notes _ (handler_ok h)
  have hretired : x.rig.state = retire x.context := by rw [h.rig, coreRig_state]
  unfold AccessM.NotesAs at hnotes
  by_cases hnoting : A.notes x.prologue.entry.reportedCode x.prologue.instr = true
  · rw [if_pos hnoting]
    obtain ⟨hhits, hwatches⟩ := (if_pos hnoting).mp hnotes
    -- retiring moves `RIP` and the stack pointer only
    have hsame := collectDataBreakpointHits_congr (t := retire x.context) hwatches.dr hwatches.mode
      (A.performed x g)
    rw [hhits, hretired, hsame]
    exact BitVec.zero_or
  · rw [if_neg hnoting]
    exact (if_neg hnoting).mp hnotes

/-- What the executor takes for the hits of the instruction. -/
theorem currentHits_eq (h : A.Executes startRip s x g)
    (hshort : ∀ a ∈ A.performed x g, a.size ≤ 2 ^ 63) :
    currentHits x.prologue x.context x.rig.state =
      collectDataBreakpointHits x.rig.state (A.consulted x g) := by
  have hhits := handler_hits h
  have hfound := collectDataBreakpointHits_ne_zero (t := x.rig.state) hshort
  unfold currentHits consulted
  rw [hhits]
  by_cases hnoting : A.notes x.prologue.entry.reportedCode x.prologue.instr = true
  · rw [if_pos hnoting]
    by_cases hseen : ∃ i, Sees x.rig.state (A.performed x g) i
    · have hnoted : A.Noted x g := ⟨hnoting, hseen⟩
      rw [if_pos (hfound.mpr hseen), if_pos hnoted]
    · have hnoted : ¬A.Noted x g := fun h => hseen h.2
      rw [if_neg (mt hfound.mp hseen), if_neg hnoted]
  · have hnoted : ¬A.Noted x g := fun h => hnoting h.1
    rw [if_neg hnoting, if_neg (not_not_intro rfl), if_neg hnoted]

/-- The event behind an executed instruction. -/
theorem event_eq (h : A.Executes startRip s x g) :
    A.event startRip s = debugEvent x.prologue x.context (s.2.state.debugSuppression != 0#8)
      (singleStepping s.2.state) x.rig.state := by
  have hexecuted : A.executed startRip s = some x := by
    unfold Env.executed
    rw [h.fetched]
    dsimp only
    rw [h.reached]
    dsimp only
    rw [← h.prologue, if_neg (not_not_intro h.succeeds), ← h.result, ← h.context, ← h.rig]
  unfold Env.event
  rw [hexecuted]
  rfl

/-- The hits of the event, or those that wait behind none. -/
theorem debugEvent_hits (p : Prologue) (ctx : ExecutionContext) (debugSuppressed tfActive : Bool)
    (s : CpuState) :
    (debugEvent p ctx debugSuppressed tfActive s).elim (withholdHits p ctx s).pendingDebugHitBits
        DebugEvent.hits =
      s.pendingDebugHitBits |||
        if !(s.debugSuppression != 0#8) && s.pendingDebugHitBits == 0#64 &&
            !p.checkDataBreakpoints && !s.pendingSingleStep && !tfActive then 0#64
        else currentHits p ctx s := by
  unfold debugEvent
  dsimp only
  by_cases hshadow : (s.debugSuppression != 0#8) = true
  · rw [withholdHits_shadow hshadow, hshadow]
    rfl
  rw [Bool.not_eq_true] at hshadow
  rw [withholdHits_clear hshadow, hshadow]
  split
  next => exact BitVec.or_zero.symm
  next =>
    rw [if_neg Bool.false_ne_true]
    split
    next hnothing =>
      -- nothing waits either
      rw [Bool.and_eq_true, beq_iff_eq] at hnothing
      rw [hnothing.1]
      exact (BitVec.or_eq_zero_iff.mp hnothing.1).1
    next => rfl

/-- **What is reported behind an execution**: what waited, and what is found
where the executor looks, if it does. -/
theorem reported_eq (h : A.Executes startRip s x g)
    (hshort : ∀ a ∈ A.performed x g, a.size ≤ 2 ^ 63) :
    A.reported startRip s x =
      x.rig.state.pendingDebugHitBits |||
        if x.looksBehind s.2.state then collectDataBreakpointHits x.rig.state (A.consulted x g)
        else 0#64 := by
  have hquiet : (!(x.rig.state.debugSuppression != 0#8) &&
      x.rig.state.pendingDebugHitBits == 0#64 && !x.prologue.checkDataBreakpoints &&
      !x.rig.state.pendingSingleStep && !singleStepping s.2.state) =
      !x.looksBehind s.2.state := by
    unfold Execution.looksBehind bne
    simp only [Bool.not_or, Bool.not_not]
  unfold reported
  rw [event_eq h, debugEvent_hits, hquiet, currentHits_eq h hshort]
  cases x.looksBehind s.2.state with
  | true => rfl
  | false => rfl

/-- The operands are listed when data breakpoints were enabled. -/
theorem debugMemoryAccesses_eq (h : A.Executes startRip s x g) :
    x.prologue.debugMemoryAccesses =
      if hasEnabledDataBreakpoints s.2.state then
        collectDebugMemoryAccesses s.2.state (A.usedMemory x.prologue.instr)
      else [] := by
  have hprologue := congrArg Prologue.debugMemoryAccesses h.prologue
  exact hprologue

/-- The flag of the prologue. -/
theorem checkDataBreakpoints_eq (h : A.Executes startRip s x g) :
    x.prologue.checkDataBreakpoints = hasEnabledDataBreakpoints s.2.state :=
  congrArg Prologue.checkDataBreakpoints h.prologue

/-! ## Exactness -/

/-- What the instruction touches was enabled before. -/
theorem enabled_of_touches {a : DebugMemoryAccess} {i : Fin 4}
    (hdr : A.performed x g ≠ [] → x.rig.state.dr 7 = s.2.state.dr 7) (ha : a ∈ A.performed x g)
    (htouches : Touches x.rig.state a i) : hasEnabledDataBreakpoints s.2.state = true := by
  rw [← hasEnabledDataBreakpoints_congr (hdr (List.ne_nil_of_mem ha))]
  exact watchReports_enabled htouches.1

/-- What is touched and not seen is touched at the top. -/
theorem touched_iff (i : Fin 4) :
    A.Touched x g i ↔ Sees x.rig.state (A.performed x g) i ∨ A.AtTop x g i := by
  constructor
  · intro htouched
    by_cases hsees : Sees x.rig.state (A.performed x g) i
    · exact Or.inl hsees
    · exact Or.inr ⟨htouched, fun a ha htouches hbelow => hsees ⟨a, ha, htouches, hbelow⟩⟩
  · rintro (⟨a, ha, htouches, _⟩ | htop)
    · exact ⟨a, ha, htouches⟩
    · exact htop.1

/-- An interval that ends at `2^64` is not seen. -/
theorem not_sees_of_atTop {i : Fin 4} (htop : A.AtTop x g i) :
    ¬Sees x.rig.state (A.performed x g) i := by
  rintro ⟨a, ha, htouches, hbelow⟩
  exact htop.2 a ha htouches hbelow

section exactness

variable (h : A.Executes startRip s x g)
include h

/-- Where nothing was enabled, the executor sees nothing. -/
theorem consulted_enabled (hdr : A.performed x g ≠ [] → x.rig.state.dr 7 = s.2.state.dr 7)
    {i : Fin 4} (hsees : Sees x.rig.state (A.consulted x g) i) :
    hasEnabledDataBreakpoints s.2.state = true := by
  obtain ⟨a, ha, htouches, _⟩ := hsees
  unfold consulted at ha
  split at ha
  next => exact enabled_of_touches hdr ha htouches
  next =>
    rw [debugMemoryAccesses_eq h] at ha
    split at ha
    next henabled => exact henabled
    next => exact absurd ha List.not_mem_nil

/-- A breakpoint is reported when the executor sees it. -/
theorem reported_getLsbD
    (hshort : ∀ a ∈ A.performed x g ++ x.prologue.debugMemoryAccesses, a.size ≤ 2 ^ 63)
    (hdr : A.performed x g ≠ [] → x.rig.state.dr 7 = s.2.state.dr 7) {i : Fin 4}
    (hnew : x.rig.state.pendingDebugHitBits.getLsbD i.val = false) :
    (A.reported startRip s x).getLsbD i.val = true ↔ Sees x.rig.state (A.consulted x g) i := by
  have hconsulted : ∀ a ∈ A.consulted x g, a.size ≤ 2 ^ 63 := by
    intro a ha
    unfold consulted at ha
    split at ha
    next => exact hshort a (List.mem_append_left _ ha)
    next => exact hshort a (List.mem_append_right _ ha)
  rw [reported_eq h fun a ha => hshort a (List.mem_append_left _ ha), BitVec.getLsbD_or, hnew,
    Bool.false_or]
  by_cases hlooks : x.looksBehind s.2.state = true
  · rw [if_pos hlooks]
    exact collectDataBreakpointHits_sees hconsulted
  · rw [if_neg hlooks, BitVec.getLsbD_zero]
    refine iff_of_false Bool.false_ne_true fun hsees => hlooks ?_
    unfold Execution.looksBehind
    rw [checkDataBreakpoints_eq h, consulted_enabled h hdr hsees, Bool.or_true, Bool.true_or,
      Bool.true_or]

/-- **The executor sees what the instruction touches below the top, and what
strays.** -/
theorem sees_consulted_iff (hdr : A.performed x g ≠ [] → x.rig.state.dr 7 = s.2.state.dr 7)
    (hlists : A.Lists s.2.state x g) (i : Fin 4) :
    Sees x.rig.state (A.consulted x g) i ↔
      Sees x.rig.state (A.performed x g) i ∨ A.Stray s.2.state x g i := by
  unfold consulted
  split
  -- A handler that noted a hit itself has the last word; otherwise the list of accesses is asked.
  next hnoted =>
    constructor
    · exact Or.inl
    · rintro (hsees | ⟨_, hnone, _⟩)
      · exact hsees
      · exact absurd hnoted hnone
  next hnoted =>
    rw [debugMemoryAccesses_eq h]
    constructor
    · split
      next henabled =>
        intro hsees
        obtain ⟨_, ha, hseen⟩ := (collectDebugMemoryAccesses_sees _ _).mp hsees
        obtain ⟨l, hl, rfl⟩ := List.mem_map.mp ha
        by_cases hmade : l.access ∈ A.performed x g
        · exact Or.inl ⟨_, hmade, hseen⟩
        · exact Or.inr ⟨henabled, hnoted, l, hl, (hlists.made l hl).resolve_right hmade, hmade, hseen⟩
      next =>
        rintro ⟨a, ha, _⟩
        exact absurd ha List.not_mem_nil
    · rintro (⟨a, ha, hseen⟩ | ⟨henabled, _, l, hl, _, _, hseen⟩)
      · -- a handler that looks itself would have found it
        have hsilent : A.notes x.prologue.entry.reportedCode x.prologue.instr = false := by
          rw [← Bool.not_eq_true]
          exact fun hnoting => hnoted ⟨hnoting, i, a, ha, hseen⟩
        rw [if_pos (enabled_of_touches hdr ha hseen.1), collectDebugMemoryAccesses_sees]
        obtain ⟨l, hl, rfl⟩ := hlists.complete hsilent a ha
        exact ⟨_, List.mem_map_of_mem hl, hseen⟩
      · rw [if_pos henabled, collectDebugMemoryAccesses_sees]
        exact ⟨_, List.mem_map_of_mem hl, hseen⟩

end exactness

end NotingEnv

/-! `AA` is `STOSB`, `F3 AA` repeats it, and the info lists the byte at `RDI`
for both, for the repeat as one that may be left out. Breakpoint 0 watches it
for writes. -/

/-- `STOSB`, repeated or not. -/
def stosb (length : Nat) (rep : Bool) : Instruction :=
  { code := .string .stos .rm8, length := length, hasRepPrefix := rep }

/-- Two instructions, `STOSB` and `REP STOSB`. -/
def stosbEnv : NotingEnv Unit where
  decode := fun _ bytes _ =>
    bytes.head?.bind fun b =>
      if b = 0xAA#8 then some (stosb 1 false)
      else if b = 0xF3#8 then some (stosb 2 true)
      else none
  usedMemory := fun instr =>
    [⟨.rdi, .none, 0#64, 0#64, .none, 1, if instr.hasRepPrefix then .condWrite else .write⟩]
  otherHandler := fun _ => none
  otherProgram := fun _ => none
  otherHandler_eq := fun _ => rfl
  other_faults := fun _ _ h => absurd h.symm (Option.some_ne_none _)
  otherNotes := fun _ _ => false
  otherNotes_eq := fun _ _ h => absurd h.symm (Option.some_ne_none _)

/-- No hooks. -/
theorem stosbEnv_noCoreHooks : stosbEnv.NoCoreHooks := by
  constructor <;> intros <;> rfl

/-- The count in `RCX` is zero. -/
def stosbStart (code : List Byte) : Caches × Rig Unit :=
  stosbEnv.start {}
    { state :=
        { rip := 0x1000#64
          gpr := fun i => if i = 7 then 0x1800#64 else 0#64
          dr := fun i => if i = 0 then 0x1800#64 else if i = 7 then 0x10001#64 else 0#64 }
      memory := (Memory.writeUnchecked (Memory.map {} 0x1000#64 0x1000#64 kMemoryPermissionAll)
        0x1000#64 code).1
      world := () }

/-- Where the attempt has got to. -/
theorem stosbStart_reached {code : List Byte} {x : Execution Unit} {g : Rig Unit}
    (h : stosbEnv.Executes 0x1000#64 (stosbStart code) x g) :
    g = (stosbStart code).2.mapState clearSuppression :=
  stosbEnv_noCoreHooks.reached h.reached

/-- The byte is watched, and the list is as the info gives it. -/
def StosbListed (code : List Byte) (x : Execution Unit) : Prop :=
  let g := (stosbStart code).2.mapState clearSuppression
  (x.prologue.entry.reportedCode = .string .stos .rm8) ∧
    x.rig.state.dr 7 = (stosbStart code).2.state.dr 7 ∧
    (∀ a ∈ stosbEnv.performed x g ++ x.prologue.debugMemoryAccesses, a.size = 1) ∧
    ∀ l ∈ listedAccesses (stosbStart code).2.state (stosbEnv.usedMemory x.prologue.instr),
      l.conditional = true ∨ l.access ∈ stosbEnv.performed x g

instance (code : List Byte) (x : Execution Unit) : Decidable (StosbListed code x) :=
  inferInstanceAs (Decidable (_ ∧ _))

/-- The listing of `STOSB`. -/
theorem StosbListed.lists {code : List Byte} {x : Execution Unit} (h : StosbListed code x) :
    stosbEnv.Lists (stosbStart code).2.state x ((stosbStart code).2.mapState clearSuppression) where
  complete := by
    intro hsilent
    rw [h.1] at hsilent
    exact absurd hsilent.symm Bool.false_ne_true
  made := h.2.2.2

end Seven
