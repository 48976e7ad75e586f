import Seven.Lib.Commutes
import Seven.Cpu.Checked
import Seven.Handlers.Strings

/-!
# A repeat is an iteration on registers

The string loops keep pointers and counter in local variables and write them
back wherever they leave. From outside it is as if they had been in the
registers all along: `stringIteration` is one element with the pointers
taken from `RSI` and `RDI` and the counter from `RCX`, and
`stringImpl_iterate` says that a repeat is that element, and then the
repeat again from the context the element left.

The reason is that an element looks at the registers of the loop through its
arguments only (`stringElement_commutes`), so it does not matter when they
are written back (`stringLoop_withPointers`). What an element may change
besides them is `ElementFrame`.
-/

namespace Seven

open Seven.Lib

/-! ## Registers and flags of the loop -/

namespace CpuState

/-- Two registers may be set in either order. -/
theorem setGpr_comm (s : CpuState) {i j : Fin 16} (hij : i ≠ j) (a b : U64) :
    (s.setGpr i a).setGpr j b = (s.setGpr j b).setGpr i a := by
  simp only [setGpr, mk.injEq, and_true]
  funext k
  by_cases hi : k = i
  · rw [if_neg (fun hj => hij (hi.symm.trans hj)), if_pos hi, if_pos hi]
  · rw [if_neg hi, if_neg hi]

/-- The last of two settings stands. -/
theorem setGpr_setGpr (s : CpuState) (i : Fin 16) (a b : U64) :
    (s.setGpr i a).setGpr i b = s.setGpr i b := by
  simp only [setGpr, mk.injEq, and_true]
  funext k
  split <;> rfl

/-- A register set to what it is. -/
theorem setGpr_gpr (s : CpuState) (i : Fin 16) : s.setGpr i (s.gpr i) = s := by
  have hgpr : (fun j => if j = i then s.gpr i else s.gpr j) = s.gpr := by
    funext j
    split
    next hj => rw [hj]
    next => rfl
  simp only [setGpr, hgpr]

end CpuState

/-- The flags an arithmetic instruction sets. -/
def kStatusFlags : U64 := kFlagCF ||| kFlagPF ||| kFlagAF ||| kFlagZF ||| kFlagSF ||| kFlagOF

/-- A flag outside the mask. -/
theorem setFlag_and {rflags bit mask : U64} (h : bit &&& mask = 0#64) (value : Bool) :
    setFlag rflags bit value &&& mask = rflags &&& mask := by
  unfold setFlag
  cases value with
  | true =>
    show (rflags ||| bit) &&& mask = _
    rw [BitVec.and_or_distrib_right, h, BitVec.or_zero]
  | false =>
    show (rflags &&& ~~~bit) &&& mask = _
    have hmask : mask = ~~~bit &&& mask := by
      have hsplit : mask = (bit ||| ~~~bit) &&& mask := by
        rw [BitVec.or_not_self, BitVec.allOnes_and]
      rw [BitVec.and_or_distrib_right, h, BitVec.zero_or] at hsplit
      exact hsplit
    rw [BitVec.and_assoc, ← hmask]

/-- A compare touches the status flags only. -/
theorem setSubFlags_and {mask : U64} (h : mask &&& kStatusFlags = 0#64)
    (rflags lhs rhs result : U64) (width : Nat) (borrowIn : Bool) :
    setSubFlags rflags lhs rhs result width borrowIn &&& mask = rflags &&& mask := by
  have hflag (bit : U64) (hbit : bit &&& kStatusFlags = bit) : bit &&& mask = 0#64 := by
    rw [← hbit, BitVec.and_assoc, BitVec.and_comm kStatusFlags, h, BitVec.and_zero]
  unfold setSubFlags setResultFlags
  simp only
  rw [setFlag_and (hflag kFlagOF (by decide)), setFlag_and (hflag kFlagPF (by decide)),
    setFlag_and (hflag kFlagSF (by decide)), setFlag_and (hflag kFlagZF (by decide)),
    setFlag_and (hflag kFlagAF (by decide)), setFlag_and (hflag kFlagCF (by decide))]

/-- The pointers as the registers have them. -/
def pointersOf (s : CpuState) : StringPointers := ⟨s.gpr 6, s.gpr 7⟩

/-- The context with pointers and counter written back. -/
def withPointers (op : StringOp) (p : StringPointers) (remaining : Nat) (ctx : ExecutionContext) :
    ExecutionContext :=
  { ctx with state := savePointers op true p remaining ctx.state }

section pointers

variable (op : StringOp) (p q : StringPointers) (n k : Nat) (s : CpuState)

/-- The last of two savings stands. -/
theorem savePointers_savePointers :
    savePointers op true p n (savePointers op true q k s) = savePointers op true p n s := by
  have h67 : (6 : Fin 16) ≠ 7 := by decide
  have h61 : (6 : Fin 16) ≠ 1 := by decide
  have h71 : (7 : Fin 16) ≠ 1 := by decide
  cases op <;>
    simp only [savePointers, StringOp.usesRsi, StringOp.usesRdi, if_true, Bool.false_eq_true,
      if_false, CpuState.setGpr_comm _ h67.symm, CpuState.setGpr_comm _ h61.symm,
      CpuState.setGpr_comm _ h71.symm, CpuState.setGpr_setGpr]

/-- Saving what is there. -/
theorem savePointers_self (hcount : s.gpr 1 = BitVec.ofNat 64 n) :
    savePointers op true (pointersOf s) n s = s := by
  unfold savePointers pointersOf
  cases op <;>
    simp only [StringOp.usesRsi, StringOp.usesRdi, if_true, Bool.false_eq_true, if_false,
      CpuState.setGpr_gpr, ← hcount]

/-- What is written back is what is there, once unused pointers agree. -/
theorem pointersOf_savePointers (hrsi : op.usesRsi = false → s.gpr 6 = p.rsi)
    (hrdi : op.usesRdi = false → s.gpr 7 = p.rdi) :
    pointersOf (savePointers op true p n s) = p := by
  cases op with
  | movs => rfl
  | cmps => rfl
  | stos => exact congrArg (StringPointers.mk · p.rdi) (hrsi rfl)
  | scas => exact congrArg (StringPointers.mk · p.rdi) (hrsi rfl)
  | lods => exact congrArg (StringPointers.mk p.rsi ·) (hrdi rfl)

/-- The counter saved. -/
theorem savePointers_count : (savePointers op true p n s).gpr 1 = BitVec.ofNat 64 n := by
  cases op <;> rfl

/-- Saving leaves the flags. -/
theorem savePointers_rflags : (savePointers op true p n s).rflags = s.rflags := by
  cases op <;> rfl

/-- Saving touches the general registers only. -/
theorem savePointers_state :
    savePointers op true p n s =
      { s with
        gpr := (savePointers op true p n s).gpr
        rflags := (savePointers op true p n s).rflags } := by
  cases op <;> rfl

/-- And not `RAX`. -/
theorem savePointers_rax : readRegister (savePointers op true p n s) .rax = readRegister s .rax := by
  cases op <;> rfl

/-- And nothing the watch looks at. -/
theorem savePointers_hits (address size : U64) (isRead isWrite : Bool) :
    debugDataBreakpointHits (savePointers op true p n s) address size isRead isWrite =
      debugDataBreakpointHits s address size isRead isWrite := by
  cases op <;> rfl

/-- `RAX` may be set before or after. -/
theorem savePointers_setGpr_rax (value : U64) :
    (savePointers op true p n s).setGpr 0 value = savePointers op true p n (s.setGpr 0 value) := by
  have h0 (i : Fin 16) (hi : i ≠ 0) (t : CpuState) (v : U64) :
      (t.setGpr i v).setGpr 0 value = (t.setGpr 0 value).setGpr i v := t.setGpr_comm hi v value
  cases op <;>
    simp only [savePointers, StringOp.usesRsi, StringOp.usesRdi, if_true, Bool.false_eq_true,
      if_false, h0 6 (by decide), h0 7 (by decide), h0 1 (by decide)]

end pointers

/-! ## One element -/

/-- A load into `RAX`. -/
theorem writeRegister_rax (s : CpuState) (value : U64) (width : Nat) :
    writeRegister s .rax value width =
      s.setGpr 0 (mergeGpr (s.gpr 0) value false (if width ≠ 0 then width else 8)) := rfl

/-- A map on contexts that leaves alone what an element does besides its
memory accesses. -/
structure Transparent (P : ExecutionContext → Prop) (f : ExecutionContext → ExecutionContext) :
    Prop where
  rax : ∀ ctx, readRegister (f ctx).state .rax = readRegister ctx.state .rax
  hits : ∀ ctx address size isRead isWrite,
    debugDataBreakpointHits (f ctx).state address size isRead isWrite =
      debugDataBreakpointHits ctx.state address size isRead isWrite
  loads : ∀ value width, Commutes P f (modifyState fun s => writeRegister s .rax value width)
  compares : ∀ width lhs rhs, Commutes P f (compareElements width lhs rhs)

section elements

variable {P : ExecutionContext → Prop} {f : ExecutionContext → ExecutionContext} {op : StringOp}
  {width : Nat} {p : StringPointers}

/-- The question for watched reads cannot fail. -/
theorem readHits_run (address : U64) (width : Nat) (ctx : ExecutionContext) :
    readHits address width ctx =
      .ok (debugDataBreakpointHits ctx.state address (BitVec.ofNat 64 width) true false) ctx := rfl

/-- Nor can that for watched writes. -/
theorem writeHits_run (address : U64) (width : Nat) (ctx : ExecutionContext) :
    writeHits address width ctx =
      .ok (debugDataBreakpointHits ctx.state address (BitVec.ofNat 64 width) false true) ctx := rfl

theorem readHits_total (address : U64) (width : Nat) : Total (readHits address width) :=
  fun ctx => ⟨_, ctx, rfl⟩

theorem writeHits_total (address : U64) (width : Nat) : Total (writeHits address width) :=
  fun ctx => ⟨_, ctx, rfl⟩

/-- The question does not see the change. -/
theorem Transparent.readHits (h : Transparent P f) (address : U64) (width : Nat) :
    Commutes P f (readHits address width) := by
  intro ctx hctx
  rw [readHits_run, readHits_run, h.hits]
  refine ⟨rfl, ?_⟩
  rintro hits c hc
  cases hc
  exact hctx

/-- Nor does the other. -/
theorem Transparent.writeHits (h : Transparent P f) (address : U64) (width : Nat) :
    Commutes P f (writeHits address width) := by
  intro ctx hctx
  rw [writeHits_run, writeHits_run, h.hits]
  refine ⟨rfl, ?_⟩
  rintro hits c hc
  cases hc
  exact hctx

/-- `STOS` as one write and its hits. -/
theorem stringElement_stos (ctx : ExecutionContext) :
    stringElement .stos width p ctx =
      (writeMemoryChecked p.rdi (readRegister ctx.state .rax &&& maskForWidth width) width >>=
        fun _ => Seven.writeHits p.rdi width) ctx := rfl

/-- `SCAS` as one read, its hits and a comparison. -/
theorem stringElement_scas (ctx : ExecutionContext) :
    stringElement .scas width p ctx =
      (readMemoryChecked p.rdi width >>= fun rhs =>
        compareElements width (readRegister ctx.state .rax) rhs >>= fun _ =>
          Seven.readHits p.rdi width) ctx := rfl

/-- **An element does not see a map that its accesses do not see.** -/
theorem stringElement_commutes (h : Transparent P f)
    (hrsi : op.usesRsi = true → Commutes P f (readMemoryChecked p.rsi width))
    (hrdi : op.usesRdi = true → Commutes P f (readMemoryChecked p.rdi width))
    (hwrite : op.usesRdi = true → ∀ value, Commutes P f (writeMemoryChecked p.rdi value width)) :
    Commutes P f (stringElement op width p) := by
  cases op with
  | movs =>
    exact (hrsi rfl).bind fun value => (hwrite rfl _).bind fun _ =>
      (h.readHits _ _).bind fun _ => (h.writeHits _ _).bind fun _ => Commutes.pure _
  | stos =>
    intro ctx hctx
    rw [stringElement_stos, stringElement_stos, h.rax]
    exact ((hwrite rfl _).bind fun _ => h.writeHits p.rdi width) ctx hctx
  | lods =>
    exact (hrsi rfl).bind fun value => (h.loads value width).bind fun _ => h.readHits _ _
  | cmps =>
    exact (hrsi rfl).bind fun lhs => (hrdi rfl).bind fun rhs =>
      (h.compares width lhs rhs).bind fun _ => (h.readHits _ _).bind fun _ =>
        (h.readHits _ _).bind fun _ => Commutes.pure _
  | scas =>
    intro ctx hctx
    rw [stringElement_scas, stringElement_scas, h.rax]
    exact ((hrdi rfl).bind fun rhs => (h.compares width _ rhs).bind fun _ =>
      h.readHits p.rdi width) ctx hctx

/-- A map that changes the state only leaves the accesses alone. -/
theorem readMemoryChecked_state (g : CpuState → CpuState) (address : U64) (width : Nat) :
    Commutes (fun _ => True) (fun ctx => { ctx with state := g ctx.state })
      (readMemoryChecked address width) := by
  intro ctx _
  refine ⟨?_, fun _ _ _ => trivial⟩
  unfold readMemoryChecked
  cases ctx.memory.read address width .dataRead <;> rfl

/-- A write does not see the state. -/
theorem writeMemoryChecked_state (g : CpuState → CpuState) (address value : U64) (width : Nat) :
    Commutes (fun _ => True) (fun ctx => { ctx with state := g ctx.state })
      (writeMemoryChecked address value width) := by
  intro ctx _
  refine ⟨?_, fun _ _ _ => trivial⟩
  unfold writeMemoryChecked
  cases ctx.memory.write address (toBytes value width) .dataWrite with
  | mk memory ok => cases ok <;> rfl

/-- The pointers saved are not seen by an element. -/
theorem withPointers_transparent (op : StringOp) (q : StringPointers) (k : Nat) :
    Transparent (fun _ => True) (withPointers op q k) where
  rax := fun ctx => savePointers_rax op q k ctx.state
  hits := fun ctx => savePointers_hits op q k ctx.state
  loads := by
    intro value width ctx _
    refine ⟨?_, fun _ _ _ => trivial⟩
    have hrax : (savePointers op true q k ctx.state).gpr 0 = ctx.state.gpr 0 :=
      savePointers_rax op q k ctx.state
    simp only [modifyState, mapState, withPointers, writeRegister_rax, hrax,
      savePointers_setGpr_rax]
  compares := by
    intro width lhs rhs ctx _
    refine ⟨?_, fun _ _ _ => trivial⟩
    cases op <;> rfl

/-- **When the pointers are written back does not matter to an element.** -/
theorem stringElement_withPointers (q : StringPointers) (k : Nat) (ctx : ExecutionContext) :
    stringElement op width p (withPointers op q k ctx) =
      mapState (withPointers op q k) (stringElement op width p ctx) :=
  (stringElement_commutes (withPointers_transparent op q k)
    (fun _ => readMemoryChecked_state _ _ _) (fun _ => readMemoryChecked_state _ _ _)
    (fun _ value => writeMemoryChecked_state _ _ value _) ctx trivial).1

/-- A refused store may have written part of its bytes, but the state is
still as it was. -/
theorem failsAt_writeMemoryChecked_state (address value : U64) (width : Nat)
    (ctx : ExecutionContext) :
    FailsAt (fun _ : ExecutionResult => True) ExecutionContext.state
      (writeMemoryChecked address value width) ctx ctx.state := by
  cases haccepts : ctx.memory.accepts address value width with
  | true => exact failsAt_ok (writeMemoryChecked_ok haccepts)
  | false => exact (failsAt_error_iff (writeMemoryChecked_error haccepts) trivial).mpr rfl

/-- An element that fails has not touched the state. -/
theorem stringElement_error {ctx c : ExecutionContext} {r : ExecutionResult}
    (h : stringElement op width p ctx = .error r c) : c.state = ctx.state := by
  have hread (address : U64) : Quiet (readMemoryChecked address width) :=
    readMemoryChecked_quiet address width
  have hwrite (address value : U64) := failsAt_writeMemoryChecked_state address value width
  -- only the accesses can fail, and what comes behind the last of them cannot
  have hfails : FailsAt (fun _ : ExecutionResult => True) ExecutionContext.state
      (stringElement op width p) ctx ctx.state := by
    cases op with
    | movs =>
      refine (failsAt_quiet_bind (hread p.rsi)).mpr fun value _ => ?_
      refine (failsAt_bind_total fun _ => ?_).mpr (hwrite _ _ ctx)
      exact (readHits_total _ _).bind fun _ => (writeHits_total _ _).bind fun _ => Total.pure _
    | stos =>
      intro r' c' h' hbad
      rw [stringElement_stos] at h'
      refine (failsAt_bind_total fun _ => ?_).mpr (hwrite _ _ ctx) r' c' h' hbad
      exact writeHits_total p.rdi width
    | lods =>
      refine (failsAt_quiet_bind (hread p.rsi)).mpr fun value _ => ?_
      exact ((modifyState_total _).bind fun _ => readHits_total p.rsi width).failsAt ctx
    | cmps =>
      refine (failsAt_quiet_bind (hread p.rsi)).mpr fun lhs _ => ?_
      refine (failsAt_quiet_bind (hread p.rdi)).mpr fun rhs _ => ?_
      refine Total.failsAt ?_ ctx
      exact (modifyState_total _).bind fun _ => (readHits_total _ _).bind fun _ =>
        (readHits_total _ _).bind fun _ => Total.pure _
    | scas =>
      have hcompared (lhs : U64) : FailsAt (fun _ : ExecutionResult => True) ExecutionContext.state
          (readMemoryChecked p.rdi width >>= fun rhs => compareElements width lhs rhs >>= fun _ =>
            readHits p.rdi width) ctx ctx.state := by
        refine (failsAt_quiet_bind (hread p.rdi)).mpr fun rhs _ => ?_
        exact ((modifyState_total _).bind fun _ => readHits_total p.rdi width).failsAt ctx
      intro r' c' h' hbad
      rw [stringElement_scas] at h'
      exact hcompared _ r' c' h' hbad
  exact hfails r c h trivial

/-- What running part of a repeat may change: general registers, status
flags, the bytes of the memory. -/
structure RepeatFrame (ctx c : ExecutionContext) : Prop where
  context : c = { ctx with state := c.state, memory := c.memory }
  state : c.state = { ctx.state with gpr := c.state.gpr, rflags := c.state.rflags }
  flags : ∀ mask, mask &&& kStatusFlags = 0#64 → c.state.rflags &&& mask = ctx.state.rflags &&& mask
  memory : Memory.SameAccess ctx.memory c.memory

/-- An element changes `RAX` of the general registers, if any. -/
structure ElementFrame (ctx c : ExecutionContext) : Prop extends RepeatFrame ctx c where
  gpr : ∀ i, i ≠ 0 → c.state.gpr i = ctx.state.gpr i

/-- No turn. -/
theorem RepeatFrame.refl (ctx : ExecutionContext) : RepeatFrame ctx ctx :=
  ⟨rfl, rfl, fun _ _ => rfl, Memory.SameAccess.refl _⟩

/-- Two stretches of turns. -/
theorem RepeatFrame.trans {a b c : ExecutionContext} (h : RepeatFrame a b) (h' : RepeatFrame b c) :
    RepeatFrame a c := by
  refine ⟨?_, ?_, fun mask hm => (h'.flags mask hm).trans (h.flags mask hm),
    h.memory.trans h'.memory⟩
  · have hc := h'.context
    rw [h.context] at hc
    exact hc
  · have hc := h'.state
    rw [h.state] at hc
    exact hc

/-- The instruction stays. -/
theorem RepeatFrame.instr {ctx c : ExecutionContext} (h : RepeatFrame ctx c) :
    c.instr = ctx.instr := by
  have hinstr := congrArg ExecutionContext.instr h.context
  exact hinstr

/-- No element. -/
theorem ElementFrame.refl (ctx : ExecutionContext) : ElementFrame ctx ctx :=
  ⟨RepeatFrame.refl ctx, fun _ _ => rfl⟩

/-- Two elements. -/
theorem ElementFrame.trans {a b c : ExecutionContext} (h : ElementFrame a b)
    (h' : ElementFrame b c) : ElementFrame a c :=
  ⟨h.toRepeatFrame.trans h'.toRepeatFrame, fun i hi => (h'.gpr i hi).trans (h.gpr i hi)⟩

/-- A read is part of an element. -/
theorem readMemoryChecked_frame (address : U64) (width : Nat) :
    Keeps ElementFrame (readMemoryChecked address width) := by
  intro ctx value c h
  unfold readMemoryChecked at h
  cases hr : ctx.memory.read address width .dataRead with
  | some bytes =>
    rw [hr] at h
    cases h
    exact ElementFrame.refl ctx
  | none =>
    rw [hr] at h
    cases h

/-- A write is part of an element. -/
theorem writeMemoryChecked_frame (address value : U64) {width : Nat} (hwidth : width ≤ 8) :
    Keeps ElementFrame (writeMemoryChecked address value width) := by
  intro ctx _ c h
  obtain ⟨-, rfl⟩ := of_writeMemoryChecked_ok h
  have hsame := ctx.memory.stored_sameAccess address value hwidth
  exact ⟨⟨rfl, rfl, fun _ _ => rfl, hsame⟩, fun _ _ => rfl⟩

theorem readHits_frame (address : U64) (width : Nat) :
    Keeps ElementFrame (readHits address width) := by
  intro ctx hits c h
  rw [readHits_run] at h
  cases h
  exact ElementFrame.refl ctx

theorem writeHits_frame (address : U64) (width : Nat) :
    Keeps ElementFrame (writeHits address width) := by
  intro ctx hits c h
  rw [writeHits_run] at h
  cases h
  exact ElementFrame.refl ctx

theorem loadRax_frame (value : U64) (width : Nat) :
    Keeps ElementFrame (modifyState fun s => writeRegister s .rax value width) := by
  intro ctx _ c h
  cases h
  exact ⟨⟨rfl, rfl, fun _ _ => rfl, Memory.SameAccess.refl _⟩, fun i hi => if_neg hi⟩

/-- A comparison is part of an element. -/
theorem compareElements_frame (width : Nat) (lhs rhs : U64) :
    Keeps ElementFrame (compareElements width lhs rhs) := by
  intro ctx _ c h
  cases h
  exact ⟨⟨rfl, rfl, fun mask hm => setSubFlags_and hm _ _ _ _ _ _, Memory.SameAccess.refl _⟩,
    fun _ _ => rfl⟩

/-- **What an element changes.** -/
theorem stringElement_frame (hwidth : width ≤ 8) : Keeps ElementFrame (stringElement op width p) := by
  have bind {α β : Type} {x : HandlerM α} {g : α → HandlerM β} (hx : Keeps ElementFrame x)
      (hg : ∀ a, Keeps ElementFrame (g a)) : Keeps ElementFrame (x >>= g) :=
    Keeps.bind ElementFrame.trans hx hg
  have hread (address : U64) := readMemoryChecked_frame address width
  have hwrite (address value : U64) := writeMemoryChecked_frame address value hwidth
  -- Each operation is a chain of accesses and of steps that write RAX or the flags.
  cases op with
  | movs =>
    exact bind (hread _) fun _ => bind (hwrite _ _) fun _ => bind (readHits_frame _ _) fun _ =>
      bind (writeHits_frame _ _) fun _ => Keeps.pure ElementFrame.refl _
  | stos =>
    intro ctx
    rw [stringElement_stos]
    exact bind (hwrite _ _) (fun _ => writeHits_frame _ _) ctx
  | lods =>
    exact bind (hread _) fun _ => bind (loadRax_frame _ _) fun _ => readHits_frame _ _
  | cmps =>
    exact bind (hread _) fun _ => bind (hread _) fun _ => bind (compareElements_frame _ _ _) fun _ =>
      bind (readHits_frame _ _) fun _ => bind (readHits_frame _ _) fun _ =>
        Keeps.pure ElementFrame.refl _
  | scas =>
    intro ctx
    rw [stringElement_scas]
    exact bind (hread _) (fun _ => bind (compareElements_frame _ _ _) fun _ =>
      readHits_frame _ _) ctx

end elements

/-! ## The loop -/

section loop

variable {op : StringOp} {width : Nat} {p : StringPointers}

/-- Noting a breakpoint does not see the pointers. -/
theorem noteDebugBreak_withPointers (q : StringPointers) (k : Nat) (ctx : ExecutionContext)
    (hits : U64) (goOn : Bool) :
    noteDebugBreak (withPointers op q k ctx) hits goOn =
      (withPointers op q k (noteDebugBreak ctx hits goOn).1, (noteDebugBreak ctx hits goOn).2) := by
  unfold noteDebugBreak
  split <;> rfl

/-- A loop that goes on has turns left. -/
theorem continueLoop_pos {rep repne : Bool} {remaining : Nat} {rflags : U64}
    (h : continueLoop op rep repne remaining rflags = true) : 0 < remaining := by
  simp only [continueLoop, Bool.and_eq_true, decide_eq_true_eq] at h
  exact h.1.2

/-- **When the pointers are written back does not matter to the loop.** -/
theorem stringLoop_withPointers (repne df : Bool) (q : StringPointers) (k : Nat) :
    ∀ (n : Nat) (p : StringPointers) (ctx : ExecutionContext),
      stringLoop op width true repne df (n + 1) p (withPointers op q k ctx) =
        stringLoop op width true repne df (n + 1) p ctx := by
  intro n
  induction n with
  | zero =>
    intro p ctx
    unfold stringLoop
    rw [stringElement_withPointers]
    cases stringElement op width p ctx with
    -- The saved pointers and count are overwritten before the loop looks at them.
    | error r c => simp only [mapState, withPointers, savePointers_savePointers]
    | ok hits c =>
      have hlast (rflags : U64) : continueLoop op true repne 0 rflags = false := rfl
      simp only [mapState, hlast, noteDebugBreak_withPointers, Bool.not_false, Bool.or_true, if_true]
      simp only [withPointers, savePointers_savePointers]
  | succ n ih =>
    intro p ctx
    unfold stringLoop
    rw [stringElement_withPointers]
    cases stringElement op width p ctx with
    | error r c => simp only [mapState, withPointers, savePointers_savePointers]
    | ok hits c =>
      have hflags : (withPointers op q k c).state.rflags = c.state.rflags :=
        savePointers_rflags op q k c.state
      simp only [mapState, hflags, noteDebugBreak_withPointers, ih]
      simp only [withPointers, savePointers_savePointers]

end loop

/-! ## The iteration -/

/-- The instruction has a repeat prefix. -/
def Instruction.repeats (i : Instruction) : Bool := i.hasRepPrefix || i.hasRepnePrefix

/-- The pointers after the element in front of the context. -/
def nextPointers (op : StringOp) (width : Nat) (s : CpuState) : StringPointers :=
  advancePointers op (flagSet s.rflags kFlagDF) width (pointersOf s)

/-- One element of a repeat, with its pointers and counter in the registers.
Does the repeat go on? -/
def stringIteration (op : StringOp) (width : Nat) : HandlerM Bool := fun ctx =>
  match stringElement op width (pointersOf ctx.state) ctx with
  | .error r c => .error r c
  | .ok hits c =>
    let remaining := (ctx.state.gpr 1).toNat - 1
    let goOn := continueLoop op true ctx.instr.hasRepnePrefix remaining c.state.rflags
    let (c, stop) := noteDebugBreak c hits goOn
    .ok (!stop && goOn) (withPointers op (nextPointers op width ctx.state) remaining c)

section iteration

variable {op : StringOp} {width : Nat} {ctx c : ExecutionContext}

/-- A counter that counts. -/
theorem counter_ne_zero {n : Nat} (hcount : (ctx.state.gpr 1).toNat = n + 1) :
    ctx.state.gpr 1 ≠ 0#64 := by
  intro hzero
  rw [hzero] at hcount
  cases hcount

/-- No turn, no change. -/
theorem stringImpl_zero (op : StringOp) (width : Nat) (ctx : ExecutionContext)
    (hrep : ctx.instr.repeats = true) (hcount : ctx.state.gpr 1 = 0#64) :
    stringImpl op width ctx = .ok () ctx := by
  unfold Instruction.repeats at hrep
  simp only [stringImpl, hrep, if_true, hcount]
  rfl

/-- The loop from the middle is the repeat, started there. -/
theorem stringLoop_eq_stringImpl (hrep : c.instr.repeats = true) {p : StringPointers} {n : Nat}
    (hn : n + 1 < 2 ^ 64) (hrsi : op.usesRsi = false → c.state.gpr 6 = p.rsi)
    (hrdi : op.usesRdi = false → c.state.gpr 7 = p.rdi) :
    stringLoop op width true c.instr.hasRepnePrefix (flagSet c.state.rflags kFlagDF) (n + 1) p c =
      stringImpl op width (withPointers op p (n + 1) c) := by
  rw [← stringLoop_withPointers _ _ p (n + 1)]
  have hpointers := pointersOf_savePointers op p (n + 1) c.state hrsi hrdi
  have hcount : ((savePointers op true p (n + 1) c.state).gpr 1).toNat = n + 1 := by
    rw [savePointers_count, BitVec.toNat_ofNat]
    exact Nat.mod_eq_of_lt hn
  unfold Instruction.repeats at hrep
  unfold stringImpl
  simp only [withPointers, hrep, if_true, hcount, savePointers_rflags]
  unfold pointersOf at hpointers
  rw [hpointers]

/-- **A repeat is one element, and the repeat again from where it left.** -/
theorem stringImpl_iterate (op : StringOp) (ctx : ExecutionContext) (hwidth : width ≤ 8)
    (hrep : ctx.instr.repeats = true)
    (hcount : ctx.state.gpr 1 ≠ 0#64) :
    stringImpl op width ctx =
      match stringIteration op width ctx with
      | .error r c => .error r c
      | .ok true c => stringImpl op width c
      | .ok false c => .ok () c := by
  obtain ⟨n, hn⟩ : ∃ n, (ctx.state.gpr 1).toNat = n + 1 := by
    refine ⟨(ctx.state.gpr 1).toNat - 1, ?_⟩
    have : (ctx.state.gpr 1).toNat ≠ 0 := fun h => hcount (BitVec.eq_of_toNat_eq h)
    omega
  have hrep' := hrep
  unfold Instruction.repeats at hrep'
  have himpl : stringImpl op width ctx =
      stringLoop op width true ctx.instr.hasRepnePrefix (flagSet ctx.state.rflags kFlagDF) (n + 1)
        (pointersOf ctx.state) ctx := by
    simp only [stringImpl, hrep', if_true, hn]
    rfl
  rw [himpl]
  unfold stringLoop stringIteration
  cases hel : stringElement op width (pointersOf ctx.state) ctx with
  | error r c =>
    -- the pointers written back are those the registers still hold
    have hstate : c.state = ctx.state := stringElement_error hel
    have hself : savePointers op true (pointersOf ctx.state) (n + 1) c.state = c.state := by
      rw [hstate]
      refine savePointers_self op (n + 1) ctx.state ?_
      rw [← hn, BitVec.ofNat_toNat, BitVec.setWidth_eq]
    simp only [hself]
  | ok hits c =>
    have hframe := stringElement_frame hwidth ctx hits c hel
    have hinstr := hframe.instr
    simp only [hn, Nat.add_sub_cancel]
    generalize hgo : continueLoop op true ctx.instr.hasRepnePrefix n c.state.rflags = goOn
    obtain ⟨hst, hin⟩ := noteDebugBreak_frame c hits goOn
    cases hbreak : noteDebugBreak c hits goOn with
    | mk c₁ stop =>
      rw [hbreak] at hst hin
      simp only at hst hin
      cases stop with
      | true => rfl
      | false =>
        cases goOn with
        | false => rfl
        | true =>
          obtain ⟨k, rfl⟩ : ∃ k, n = k + 1 := ⟨n - 1, by have := continueLoop_pos hgo; omega⟩
          have hdf : flagSet c₁.state.rflags kFlagDF = flagSet ctx.state.rflags kFlagDF := by
            unfold flagSet
            rw [hst, hframe.flags kFlagDF (by decide)]
          have hrepne : c₁.instr.hasRepnePrefix = ctx.instr.hasRepnePrefix := by rw [hin, hinstr]
          have hlt := (ctx.state.gpr 1).isLt
          have hloop := @stringLoop_eq_stringImpl op width c₁ (by rw [hin, hinstr]; exact hrep)
            (nextPointers op width ctx.state) k (by omega)
            (fun hrsi => by
              rw [hst, hframe.gpr 6 (by decide)]
              simp only [nextPointers, advancePointers, hrsi, Bool.false_eq_true, if_false]
              rfl)
            (fun hrdi => by
              rw [hst, hframe.gpr 7 (by decide)]
              simp only [nextPointers, advancePointers, hrdi, Bool.false_eq_true, if_false]
              rfl)
          rw [hdf, hrepne] at hloop
          exact hloop

/-- A loop that is not broken off. -/
theorem noteDebugBreak_goesOn {hits : U64} {goOn : Bool}
    (h : (noteDebugBreak ctx hits goOn).2 = false) : noteDebugBreak ctx hits goOn = (ctx, false) := by
  unfold noteDebugBreak at h ⊢
  split at h
  next hzero => rw [if_pos hzero]
  next => cases h

/-- An iteration that goes on is an element and the registers behind it. -/
theorem stringIteration_goesOn (h : stringIteration op width ctx = .ok true c) :
    ∃ hits c₀, stringElement op width (pointersOf ctx.state) ctx = .ok hits c₀ ∧
      c = withPointers op (nextPointers op width ctx.state) ((ctx.state.gpr 1).toNat - 1) c₀ := by
  unfold stringIteration at h
  cases hel : stringElement op width (pointersOf ctx.state) ctx with
  | error r c₀ =>
    rw [hel] at h
    cases h
  | ok hits c₀ =>
    rw [hel] at h
    simp only [EStateM.Result.ok.injEq, Bool.and_eq_true, Bool.not_eq_true'] at h
    obtain ⟨⟨hstop, -⟩, hc⟩ := h
    rw [noteDebugBreak_goesOn hstop] at hc
    exact ⟨hits, c₀, rfl, hc.symm⟩

/-- Saving is part of a turn. -/
theorem withPointers_frame (op : StringOp) (p : StringPointers) (n : Nat) (ctx : ExecutionContext) :
    RepeatFrame ctx (withPointers op p n ctx) :=
  ⟨rfl, savePointers_state op p n ctx.state,
    fun mask _ => congrArg (· &&& mask) (savePointers_rflags op p n ctx.state),
    Memory.SameAccess.refl _⟩

/-- A turn keeps the frame of the loop. -/
theorem stringIteration_frame (hwidth : width ≤ 8) (h : stringIteration op width ctx = .ok true c) :
    RepeatFrame ctx c := by
  obtain ⟨hits, c₀, hel, rfl⟩ := stringIteration_goesOn h
  exact (stringElement_frame hwidth ctx hits c₀ hel).toRepeatFrame.trans (withPointers_frame _ _ _ c₀)

/-- The counter goes down by one. -/
theorem stringIteration_count (h : stringIteration op width ctx = .ok true c) :
    (c.state.gpr 1).toNat = (ctx.state.gpr 1).toNat - 1 := by
  obtain ⟨hits, c₀, -, rfl⟩ := stringIteration_goesOn h
  have hlt := (ctx.state.gpr 1).isLt
  show ((savePointers op true _ _ c₀.state).gpr 1).toNat = _
  rw [savePointers_count, BitVec.toNat_ofNat]
  exact Nat.mod_eq_of_lt (by omega)

end iteration

section states

variable {op : StringOp} {width : Nat}

/-- The last iteration too changes registers and flags only. -/
theorem stringIteration_state {ctx c : ExecutionContext} {goOn : Bool} (hwidth : width ≤ 8)
    (h : stringIteration op width ctx = .ok goOn c) :
    c.state = { ctx.state with gpr := c.state.gpr, rflags := c.state.rflags } := by
  unfold stringIteration at h
  cases hel : stringElement op width (pointersOf ctx.state) ctx with
  | error r c₀ =>
    rw [hel] at h
    cases h
  | ok hits c₀ =>
    rw [hel] at h
    simp only [EStateM.Result.ok.injEq] at h
    obtain ⟨-, hc⟩ := h
    have hframe := (stringElement_frame hwidth ctx hits c₀ hel).toRepeatFrame
    have hstate := (hframe.trans (withPointers_frame op (nextPointers op width ctx.state)
      ((ctx.state.gpr 1).toNat - 1) c₀)).state
    -- noting a breakpoint leaves the state alone
    have hsame : c.state = (withPointers op (nextPointers op width ctx.state)
        ((ctx.state.gpr 1).toNat - 1) c₀).state := by
      rw [← hc]
      unfold withPointers
      simp only [(noteDebugBreak_frame c₀ hits _).1]
    rw [hsame]
    exact hstate

/-- **A repeat changes general registers and flags of the state.** -/
theorem stringImpl_state (hwidth : width ≤ 8) {e : ExecutionContext} :
    ∀ (n : Nat) (ctx : ExecutionContext), (ctx.state.gpr 1).toNat = n → ctx.instr.repeats = true →
      stringImpl op width ctx = .ok () e →
      e.state = { ctx.state with gpr := e.state.gpr, rflags := e.state.rflags } := by
  intro n
  induction n with
  | zero =>
    intro ctx hcount hrep hok
    rw [stringImpl_zero op width ctx hrep (BitVec.eq_of_toNat_eq hcount)] at hok
    cases hok
    rfl
  | succ n ih =>
    intro ctx hcount hrep hok
    have hne := counter_ne_zero hcount
    rw [stringImpl_iterate op ctx hwidth hrep hne] at hok
    cases hit : stringIteration op width ctx with
    | error r c =>
      rw [hit] at hok
      cases hok
    | ok goOn c =>
      rw [hit] at hok
      have hstate := stringIteration_state hwidth hit
      cases goOn with
      | false =>
        cases hok
        exact hstate
      | true =>
        -- what the iteration changed, then what the rest changes of that
        have hframe := stringIteration_frame hwidth hit
        have hcount' : (c.state.gpr 1).toNat = n := by
          rw [stringIteration_count hit, hcount, Nat.add_sub_cancel]
        have hrest := ih c hcount' (by rw [hframe.instr]; exact hrep) hok
        rw [hstate] at hrest
        exact hrest

end states

/-- The states in front of the elements a repeat gets to, at most `n`. -/
def repeatTurns (op : StringOp) (width : Nat) : Nat → ExecutionContext → List CpuState
  | 0, _ => []
  | n + 1, ctx =>
    ctx.state ::
      match stringIteration op width ctx with
      | .ok true c => repeatTurns op width n c
      | _ => []

/-- The states in front of the elements of a repeat. -/
def turnsOf (op : StringOp) (width : Nat) (ctx : ExecutionContext) : List CpuState :=
  repeatTurns op width (ctx.state.gpr 1).toNat ctx

/-- The pointers of the elements of a repeat. -/
def elementsOf (op : StringOp) (width : Nat) (ctx : ExecutionContext) : List StringPointers :=
  (turnsOf op width ctx).map pointersOf

section iteration

variable {op : StringOp} {width : Nat} {ctx : ExecutionContext}

/-- No turns. -/
theorem turnsOf_zero (op : StringOp) (width : Nat) (ctx : ExecutionContext)
    (h : ctx.state.gpr 1 = 0#64) : turnsOf op width ctx = [] := by
  unfold turnsOf
  rw [h]
  rfl

/-- A turn and the rest. -/
theorem turnsOf_succ (op : StringOp) (width : Nat) (ctx : ExecutionContext)
    (h : ctx.state.gpr 1 ≠ 0#64) :
    turnsOf op width ctx =
      ctx.state ::
        match stringIteration op width ctx with
        | .ok true c => turnsOf op width c
        | _ => [] := by
  obtain ⟨n, hn⟩ : ∃ n, (ctx.state.gpr 1).toNat = n + 1 := by
    refine ⟨(ctx.state.gpr 1).toNat - 1, ?_⟩
    have : (ctx.state.gpr 1).toNat ≠ 0 := fun hzero => h (BitVec.eq_of_toNat_eq hzero)
    omega
  unfold turnsOf
  rw [hn, repeatTurns]
  cases hit : stringIteration op width ctx with
  | error r c => rfl
  | ok goOn c =>
    cases goOn with
    | false => rfl
    | true =>
      have hcount := stringIteration_count hit
      rw [hn, Nat.add_sub_cancel] at hcount
      simp only [hcount]

/-- No elements. -/
theorem elementsOf_zero (op : StringOp) (width : Nat) (ctx : ExecutionContext)
    (h : ctx.state.gpr 1 = 0#64) : elementsOf op width ctx = [] := by
  unfold elementsOf
  rw [turnsOf_zero op width ctx h]
  rfl

/-- An element and the rest. -/
theorem elementsOf_succ (op : StringOp) (width : Nat) (ctx : ExecutionContext)
    (h : ctx.state.gpr 1 ≠ 0#64) :
    elementsOf op width ctx =
      pointersOf ctx.state ::
        match stringIteration op width ctx with
        | .ok true c => elementsOf op width c
        | _ => [] := by
  unfold elementsOf
  rw [turnsOf_succ op width ctx h, List.map_cons]
  cases stringIteration op width ctx with
  | error r c => rfl
  | ok goOn c => cases goOn <;> rfl

end iteration

/-! ## A repeat that gets through -/

/-- Nothing is watched. -/
theorem debugDataBreakpointHits_disabled {s : CpuState} (h : s.dr 7 = 0#64) (address size : U64)
    (isRead isWrite : Bool) : debugDataBreakpointHits s address size isRead isWrite = 0#64 := by
  have hoff (i : Fin 4) : dataBreakpointHit s address size isRead isWrite i = false := by
    unfold dataBreakpointHit
    rw [h]
    simp
  unfold debugDataBreakpointHits
  simp only [hoff, Bool.false_eq_true, if_false]
  rfl

section lods

variable {width : Nat} {ctx : ExecutionContext} {bytes : List Byte}

/-- `LODS` upwards. -/
theorem nextPointers_lods (hdf : flagSet ctx.state.rflags kFlagDF = false) :
    nextPointers .lods width ctx.state =
      ⟨ctx.state.gpr 6 + BitVec.ofNat 64 width, ctx.state.gpr 7⟩ := by
  simp only [nextPointers, advancePointers, hdf, StringOp.usesRsi, StringOp.usesRdi]
  rfl

/-- One element, from readable memory and without breakpoints. -/
theorem stringElement_lods_loads (hdr : ctx.state.dr 7 = 0#64)
    (hbytes : ctx.memory.read (ctx.state.gpr 6) width .dataRead = some bytes) :
    stringElement .lods width (pointersOf ctx.state) ctx =
      .ok 0#64 { ctx with state := writeRegister ctx.state .rax (fromBytes bytes) width } := by
  have hload : stringElement .lods width (pointersOf ctx.state) ctx =
      readHits (pointersOf ctx.state).rsi width
        { ctx with state := writeRegister ctx.state .rax (fromBytes bytes) width } := by
    show (readMemoryChecked (ctx.state.gpr 6) width >>= fun value =>
      (modifyState fun s => writeRegister s .rax value width) >>= fun _ =>
        readHits (ctx.state.gpr 6) width) ctx = _
    rw [bind_ok (readMemoryChecked_some hbytes)]
    rfl
  rw [hload, readHits_run, debugDataBreakpointHits_disabled
    (s := writeRegister ctx.state .rax (fromBytes bytes) width) hdr]

/-- The iteration of it goes on while something is left. -/
theorem stringIteration_lods_loads {n : Nat} (hcount : (ctx.state.gpr 1).toNat = n + 1)
    (hdr : ctx.state.dr 7 = 0#64)
    (hbytes : ctx.memory.read (ctx.state.gpr 6) width .dataRead = some bytes) :
    stringIteration .lods width ctx =
      .ok (decide (0 < n)) (withPointers .lods (nextPointers .lods width ctx.state) n
        { ctx with state := writeRegister ctx.state .rax (fromBytes bytes) width }) := by
  have hgo (rflags : U64) : continueLoop .lods true ctx.instr.hasRepnePrefix n rflags =
      decide (0 < n) := by
    simp only [continueLoop, StringOp.compares, Bool.true_and, Bool.not_false, Bool.true_or,
      Bool.and_true]
  have hnone (c : ExecutionContext) (goOn : Bool) : noteDebugBreak c 0#64 goOn = (c, false) := rfl
  unfold stringIteration
  rw [stringElement_lods_loads hdr hbytes]
  simp only [hcount, Nat.add_sub_cancel, hgo, hnone, Bool.not_false, Bool.true_and]

end lods

/-- **`REP LODS` over readable memory loads every element**, upwards and
without breakpoints. -/
theorem repLods_runs {width : Nat} (hwidth : width ≤ 8) :
    ∀ (n : Nat) (ctx : ExecutionContext), (ctx.state.gpr 1).toNat = n →
      ctx.instr.repeats = true → ctx.state.dr 7 = 0#64 →
      flagSet ctx.state.rflags kFlagDF = false →
      (∀ i < n, (ctx.memory.read (ctx.state.gpr 6 + BitVec.ofNat 64 (i * width)) width
        .dataRead).isSome) →
      (∃ e, stringImpl .lods width ctx = .ok () e) ∧
      (elementsOf .lods width ctx).map StringPointers.rsi =
        (List.range n).map fun i => ctx.state.gpr 6 + BitVec.ofNat 64 (i * width) := by
  intro n
  induction n with
  | zero =>
    intro ctx hcount hrep _ _ _
    have hzero : ctx.state.gpr 1 = 0#64 := BitVec.eq_of_toNat_eq hcount
    refine ⟨⟨ctx, stringImpl_zero .lods width ctx hrep hzero⟩, ?_⟩
    rw [elementsOf_zero _ _ _ hzero]
    rfl
  | succ n ih =>
    intro ctx hcount hrep hdr hdf hread
    have hne := counter_ne_zero hcount
    obtain ⟨bytes, hbytes⟩ := Option.isSome_iff_exists.mp (hread 0 (Nat.succ_pos n))
    rw [Nat.zero_mul, BitVec.add_zero] at hbytes
    have hit := stringIteration_lods_loads hcount hdr hbytes
    have hstep := stringImpl_iterate .lods ctx hwidth hrep hne
    have hlist := elementsOf_succ .lods width ctx hne
    rw [hit] at hstep hlist
    cases n with
    | zero =>
      refine ⟨⟨_, hstep⟩, ?_⟩
      rw [hlist]
      show [ctx.state.gpr 6] = [ctx.state.gpr 6 + BitVec.ofNat 64 (0 * width)]
      rw [Nat.zero_mul, BitVec.add_zero]
    | succ k =>
      -- the rest begins one element further on, so its reads are the later ones
      have hrsi : (withPointers .lods (nextPointers .lods width ctx.state) (k + 1)
          { ctx with state := writeRegister ctx.state .rax (fromBytes bytes) width }).state.gpr 6 =
          ctx.state.gpr 6 + BitVec.ofNat 64 width := by
        rw [nextPointers_lods hdf]
        rfl
      have hshift (i : Nat) : ctx.state.gpr 6 + BitVec.ofNat 64 width + BitVec.ofNat 64 (i * width) =
          ctx.state.gpr 6 + BitVec.ofNat 64 ((i + 1) * width) := by
        rw [BitVec.add_assoc, BitVec.ofNat_add_ofNat, Nat.add_one_mul, Nat.add_comm width]
      have hcount' := stringIteration_count hit
      rw [hcount, Nat.add_sub_cancel] at hcount'
      obtain ⟨⟨e, he⟩, hrest⟩ := ih _ hcount' hrep hdr hdf (fun i hi => by
        rw [hrsi, hshift]
        exact hread (i + 1) (by omega))
      refine ⟨⟨e, hstep.trans he⟩, ?_⟩
      rw [hlist, List.range_succ_eq_map, List.map_cons, List.map_cons, List.map_map, Nat.zero_mul,
        BitVec.add_zero]
      refine congrArg (ctx.state.gpr 6 :: ·) ?_
      refine hrest.trans (List.map_congr_left fun i _ => ?_)
      rw [hrsi, hshift]
      rfl

end Seven
