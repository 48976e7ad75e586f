import Seven.Executor.Accounting
import Seven.Executor.Confinement
import Seven.Executor.Watch

/-!
# The hits that handlers report

Most handlers leave it to the executor to look for data breakpoints. A string
loop, a pop into `SS` and a move into `SS` do it themselves, at every load and
store they make (`performed`), and put what they find into the hit bits of the
context:

> `NotingEnv.handler_notes`: a handler that succeeds has added what its loads
> and stores hit, or nothing.

One that adds something leaves the watched intervals where they were
(`SameWatches`). The handlers that this development does not have may do
either.
-/

namespace Seven

open Seven.Lib

variable {W : Type}

/-! ## The loads and stores of a program -/

/-- The access a request makes, with its kind. -/
def DataOp.performs (ctx : ExecutionContext) : DataOp → Option DebugMemoryAccess
  | .load form size => some ⟨form.address ctx.state ctx.instr, size, true, false⟩
  | .store form bytes => some ⟨form.address ctx.state ctx.instr, bytes.length, false, true⟩
  | _ => none

namespace AccessM

variable {α β : Type}

/-- The loads and stores of a run, as the breakpoints see them. -/
def performed (p : AccessM α) (ctx : ExecutionContext) : List DebugMemoryAccess :=
  (p.trace DataOp.serve ctx).filterMap fun e => e.2.performs e.1

/-- A sequence that succeeds makes the accesses of its parts. -/
theorem performed_bind {p : AccessM α} {f : α → AccessM β} {ctx c : ExecutionContext} {b : β}
    (h : (p >>= f).toHandler ctx = .ok b c) :
    ∃ a mid, p.toHandler ctx = .ok a mid ∧ (f a).toHandler mid = .ok b c ∧
      (p >>= f).performed ctx = p.performed ctx ++ (f a).performed mid := by
  rw [toHandler_bind] at h
  obtain ⟨a, mid, hfirst, hsecond⟩ := of_bind_ok h
  refine ⟨a, mid, hfirst, hsecond, ?_⟩
  unfold performed
  rw [Requests.trace_bind_ok hfirst, List.filterMap_append]

/-- A load is one access. -/
theorem performed_loadOr (cleanup : CpuState → CpuState) (form : AddressForm) (width : Nat)
    (ctx : ExecutionContext) :
    (loadOr cleanup form width).performed ctx =
      [⟨form.address ctx.state ctx.instr, width, true, false⟩] := by
  have hload : (load form width).toHandler ctx =
      .ok (ctx.memory.read (form.address ctx.state ctx.instr) width .dataRead) ctx := rfl
  unfold loadOr performed
  rw [Requests.trace_bind_ok hload, List.filterMap_append]
  cases ctx.memory.read (form.address ctx.state ctx.instr) width .dataRead with
  | some bytes => rfl
  | none => rfl

/-- A store is one access. -/
theorem performed_storeOr (cleanup : CpuState → CpuState) (form : AddressForm) (value : U64)
    (width : Nat) (ctx : ExecutionContext) :
    (storeOr cleanup form value width).performed ctx =
      [⟨form.address ctx.state ctx.instr, width, false, true⟩] := by
  have hlength := toBytes_length value width
  have hstore : (store form (toBytes value width)).toHandler ctx =
      .ok (ctx.memory.write (form.address ctx.state ctx.instr) (toBytes value width) .dataWrite).2
        { ctx with memory :=
          (ctx.memory.write (form.address ctx.state ctx.instr) (toBytes value width) .dataWrite).1 } :=
    rfl
  have hperforms : (store form (toBytes value width)).performed ctx =
      [⟨form.address ctx.state ctx.instr, (toBytes value width).length, false, true⟩] := rfl
  unfold performed at hperforms
  unfold storeOr performed
  rw [Requests.trace_bind_ok hstore, List.filterMap_append, hperforms, hlength]
  cases (ctx.memory.write (form.address ctx.state ctx.instr) (toBytes value width) .dataWrite).2 with
  | true => rfl
  | false => rfl

/-! ## String loops -/

end AccessM

/-- The breakpoints watch the same intervals. -/
structure SameWatches (s t : CpuState) : Prop where
  dr : t.dr = s.dr
  mode : t.mode = s.mode

/-- The relation composes. -/
theorem SameWatches.trans {s t u : CpuState} (h : SameWatches s t) (h' : SameWatches t u) :
    SameWatches s u := ⟨h'.dr.trans h.dr, h'.mode.trans h.mode⟩

/-- The pointers are not watched. -/
theorem savePointers_watches (op : StringOp) (rep : Bool) (p : StringPointers) (n : Nat)
    (s : CpuState) : SameWatches s (savePointers op rep p n s) := by
  cases op <;> cases rep <;> exact ⟨rfl, rfl⟩

/-- The accesses of an element at these pointers. -/
def elementAccesses (op : StringOp) (width : Nat) (p : StringPointers) : List DebugMemoryAccess :=
  match op with
  | .movs => [⟨p.rsi, width, true, false⟩, ⟨p.rdi, width, false, true⟩]
  | .stos => [⟨p.rdi, width, false, true⟩]
  | .lods => [⟨p.rsi, width, true, false⟩]
  | .cmps => [⟨p.rsi, width, true, false⟩, ⟨p.rdi, width, true, false⟩]
  | .scas => [⟨p.rdi, width, true, false⟩]

/-- An element looks for the breakpoints of its accesses. -/
theorem elementHits_eq (op : StringOp) (width : Nat) (p : StringPointers) (s : CpuState) :
    elementHits op width p s = collectDataBreakpointHits s (elementAccesses op width p) := by
  have hnil : collectDataBreakpointHits s [] = 0#64 := rfl
  unfold elementHits elementAccesses
  cases op <;> simp only [collectDataBreakpointHits_cons, hnil, BitVec.or_zero]

namespace AccessM

section strings

variable {cleanup : CpuState → CpuState} {op : StringOp} {width : Nat} {moved : StringPointers}
  {ctx c : ExecutionContext}

/-- A load leaves the context. -/
theorem of_loadOr_ok {form : AddressForm} {value : U64}
    (h : (loadOr cleanup form width).toHandler ctx = .ok value c) : c = ctx := by
  rw [toHandler_loadOr] at h
  unfold cleaned at h
  split at h
  next hread =>
    cases h
    exact readMemoryChecked_ok hread
  next => cases h

/-- The accesses of an element that succeeds. -/
theorem performed_stringElement {hits : U64}
    (h : (stringElement cleanup op width moved).toHandler ctx = .ok hits c) :
    (stringElement cleanup op width moved).performed ctx =
      elementAccesses op width (movedPointers ctx.state moved) := by
  unfold stringElement at h ⊢
  have hlook (f : ExecutionContext → AccessM U64) :
      (look >>= f).performed ctx = (f ctx.withoutMemory).performed ctx := rfl
  rw [look_bind, ctx.withoutMemory_state] at h
  rw [hlook, ctx.withoutMemory_state]
  -- what follows the accesses looks, and changes the state, but asks for no access
  cases op with
  | movs =>
    obtain ⟨value, mid, hload, hrest, hperformed⟩ := performed_bind h
    obtain rfl := of_loadOr_ok hload
    obtain ⟨_, mid, _, _, hperformed'⟩ := performed_bind hrest
    rw [hperformed, hperformed', performed_loadOr, performed_storeOr]
    rfl
  | stos =>
    obtain ⟨_, mid, _, _, hperformed⟩ := performed_bind h
    rw [hperformed, performed_storeOr]
    rfl
  | lods =>
    obtain ⟨value, mid, hload, hrest, hperformed⟩ := performed_bind h
    rw [hperformed, performed_loadOr]
    rfl
  | cmps =>
    obtain ⟨lhs, mid, hload, hrest, hperformed⟩ := performed_bind h
    obtain rfl := of_loadOr_ok hload
    obtain ⟨rhs, mid, _, _, hperformed'⟩ := performed_bind hrest
    rw [hperformed, hperformed', performed_loadOr, performed_loadOr]
    rfl
  | scas =>
    obtain ⟨value, mid, hload, hrest, hperformed⟩ := performed_bind h
    rw [hperformed, performed_loadOr]
    rfl

/-- A note adds its hits. -/
theorem noteDebugBreak_hits (ctx : ExecutionContext) (hits : U64) (goOn : Bool) :
    (noteDebugBreak ctx hits goOn).1.debugHitBits = ctx.debugHitBits ||| hits := by
  unfold noteDebugBreak
  split
  next hnone =>
    rw [hnone]
    exact BitVec.or_zero.symm
  next => rfl

/-- What an element that succeeds reports, and what it leaves. -/
theorem of_stringElement_ok (hwidth : width ≤ 8) {hits : U64}
    (h : (stringElement cleanup op width moved).toHandler ctx = .ok hits c) :
    ElementFrame ctx c ∧
      hits = collectDataBreakpointHits ctx.state
        ((stringElement cleanup op width moved).performed ctx) := by
  have hrun : Seven.stringElement op width (movedPointers ctx.state moved) ctx = .ok hits c := by
    rw [toHandler_stringElement] at h
    unfold cleaned at h
    split at h
    next helement =>
      cases h
      exact helement
    next => cases h
  have hframe := stringElement_frame hwidth ctx hits c hrun
  refine ⟨hframe, ?_⟩
  rw [(effect_of_stringElement hrun).2, elementHits_frame hframe.toRepeatFrame, elementHits_eq,
    performed_stringElement h]

/-- **A loop reports what its accesses hit**, by induction on the count, and
moves no watched interval. -/
theorem stringLoop_notes (hwidth : width ≤ 8) (rep repne df : Bool) (n : Nat) :
    ∀ (moved : StringPointers) (ctx c : ExecutionContext),
      (stringLoop op width rep repne df n moved).toHandler ctx = .ok () c →
      c.debugHitBits = ctx.debugHitBits ||| collectDataBreakpointHits ctx.state
        ((stringLoop op width rep repne df n moved).performed ctx) ∧
      SameWatches ctx.state c.state := by
  induction n with
  | zero =>
    intro moved ctx c h
    cases h
    exact ⟨BitVec.or_zero.symm, rfl, rfl⟩
  | succ remaining ih =>
    intro moved ctx c h
    unfold stringLoop at h ⊢
    have hlook {β : Type} (f : ExecutionContext → AccessM β) (ctx : ExecutionContext) :
        (look >>= f).performed ctx = (f ctx.withoutMemory).performed ctx := rfl
    rw [look_bind, ctx.withoutMemory_state] at h
    rw [hlook, ctx.withoutMemory_state]
    obtain ⟨hits, mid, helement, hrest, hperformed⟩ := performed_bind h
    obtain ⟨hframe, hhits⟩ := of_stringElement_ok hwidth helement
    rw [hperformed, collectDataBreakpointHits_append, ← hhits]
    rw [look_bind, mid.withoutMemory_state] at hrest
    rw [hlook, mid.withoutMemory_state]
    dsimp only at hrest ⊢
    generalize continueLoop op rep repne remaining mid.state.rflags = goOn at hrest ⊢
    obtain ⟨_, noted, hnote, hend, hperformed'⟩ := performed_bind hrest
    rw [toHandler_noteDebugBreak] at hnote
    cases hnote
    have hnoted : (noteDebugBreak mid hits goOn).1.debugHitBits = ctx.debugHitBits ||| hits := by
      rw [noteDebugBreak_hits, hframe.context]
    -- the breakpoints are the same all along
    have hstate : (noteDebugBreak mid hits goOn).1.state = mid.state :=
      (noteDebugBreak_frame mid hits goOn).1
    have hwatches : SameWatches ctx.state (noteDebugBreak mid hits goOn).1.state := by
      rw [hstate]
      exact ⟨hframe.dr, by rw [hframe.state]⟩
    have hchange : (change fun ctx => (noteDebugBreak ctx hits goOn).1).performed mid = [] := rfl
    rw [hperformed', hchange, List.nil_append]
    by_cases hstop : ((noteDebugBreak mid.withoutMemory hits goOn).2 || !goOn) = true
    · rw [if_pos hstop] at hend ⊢
      cases hend
      exact ⟨hnoted.trans (congrArg (ctx.debugHitBits ||| ·) BitVec.or_zero.symm),
        hwatches.trans (savePointers_watches op rep _ remaining _)⟩
    · rw [if_neg hstop] at hend ⊢
      obtain ⟨hrest, hlast⟩ := ih _ _ _ hend
      refine ⟨?_, hwatches.trans hlast⟩
      rw [hrest, hnoted, BitVec.or_assoc, collectDataBreakpointHits_congr hwatches.dr hwatches.mode]

end strings

/-- **A string instruction reports what its accesses hit.** -/
theorem stringImpl_notes {op : StringOp} {width : Nat} (hwidth : width ≤ 8)
    {ctx c : ExecutionContext} (h : (stringImpl op width).toHandler ctx = .ok () c) :
    c.debugHitBits = ctx.debugHitBits ||| collectDataBreakpointHits ctx.state
      ((stringImpl op width).performed ctx) ∧ SameWatches ctx.state c.state :=
  stringLoop_notes hwidth _ _ _ _ _ _ _ h

/-- A repeat that begins with a count of zero accesses nothing. -/
theorem stringImpl_performed_zero (op : StringOp) (width : Nat) {ctx : ExecutionContext}
    (hrep : (ctx.instr.hasRepPrefix || ctx.instr.hasRepnePrefix) = true)
    (hcount : ctx.state.gpr 1 = 0#64) : (stringImpl op width).performed ctx = [] := by
  have hzero : (if (ctx.instr.hasRepPrefix || ctx.instr.hasRepnePrefix) = true then
      (ctx.state.gpr 1).toNat else 1) = 0 := by
    rw [if_pos hrep, hcount]
    rfl
  show (stringLoop op width _ _ _ (if (ctx.instr.hasRepPrefix || ctx.instr.hasRepnePrefix) = true
    then (ctx.state.gpr 1).toNat else 1) _).performed ctx = []
  rw [hzero]
  rfl

end AccessM

/-! ## Pops -/

/-- Operand 0 is `SS`. -/
def IntoSs (instr : Instruction) : Prop :=
  instr.opKind 0 = .register ∧ instr.opRegister 0 = .ss

instance (instr : Instruction) : Decidable (IntoSs instr) :=
  inferInstanceAs (Decidable (_ ∧ _))

namespace AccessM

/-- A checked load is one access. -/
theorem performed_readMemoryChecked (form : AddressForm) (width : Nat) (ctx : ExecutionContext) :
    (readMemoryChecked form width).performed ctx =
      [⟨form.address ctx.state ctx.instr, width, true, false⟩] := by
  have hload : (load form width).toHandler ctx =
      .ok (ctx.memory.read (form.address ctx.state ctx.instr) width .dataRead) ctx := rfl
  unfold readMemoryChecked performed
  rw [Requests.trace_bind_ok hload, List.filterMap_append]
  cases ctx.memory.read (form.address ctx.state ctx.instr) width .dataRead with
  | some bytes => rfl
  | none => rfl

/-- A pop is one access. -/
theorem performed_popWidth {width : Nat} {ctx c : ExecutionContext} {value : U64}
    (h : (popWidth width).toHandler ctx = .ok value c) :
    (popWidth width).performed ctx = [⟨ctx.state.rsp, width, true, false⟩] ∧
      c = { ctx with state :=
        ctx.state.setRsp (maskStackPointer ctx.state (ctx.state.rsp + BitVec.ofNat 64 width)) } := by
  unfold popWidth at h ⊢
  by_cases hwidth : width ∈ [1, 2, 4, 8]
  · rw [if_pos hwidth] at h ⊢
    obtain ⟨_, mid, hread, hrest, hperformed⟩ := performed_bind h
    rw [toHandler_readMemoryChecked] at hread
    obtain rfl := readMemoryChecked_ok hread
    cases hrest
    refine ⟨?_, rfl⟩
    rw [hperformed, performed_readMemoryChecked]
    rfl
  · rw [if_neg hwidth] at h
    cases h

/-- A register destination is none. -/
theorem performed_writeOperandChecked_register {operandIndex width : Nat} {value : U64}
    {ctx : ExecutionContext} (hkind : ctx.instr.opKind operandIndex = .register) :
    (writeOperandChecked operandIndex value width).performed ctx = [] := by
  have hlook (f : ExecutionContext → AccessM Bool) (g : Bool → AccessM Unit) :
      (look >>= f >>= g).performed ctx = (f ctx.withoutMemory >>= g).performed ctx := rfl
  unfold writeOperandChecked writeOperand
  rw [hlook, ctx.withoutMemory_instr, hkind]
  rfl

/-- A pop to `SS` notes its shadow. -/
theorem notePopSs_ss {ctx : ExecutionContext} (hss : IntoSs ctx.instr) (oldSp : U64) (width : Nat) :
    Seven.notePopSs oldSp width ctx = .ok () { ctx with
      state := shadowSs ctx.state
      debugHitBits := ctx.debugHitBits |||
        debugDataBreakpointHits (shadowSs ctx.state) oldSp (BitVec.ofNat 64 width) true false } :=
  if_pos hss

/-- A pop elsewhere does not. -/
theorem notePopSs_other {ctx : ExecutionContext} (hss : ¬IntoSs ctx.instr) (oldSp : U64)
    (width : Nat) : Seven.notePopSs oldSp width ctx = .ok () ctx := if_neg hss

/-- Writing `SS` leaves the mode. -/
theorem writeOperand_ss_mode {ctx : ExecutionContext} (hss : IntoSs ctx.instr) (value : U64)
    (width : Nat) : (Seven.writeOperand ctx 0 value width).1.state.mode = ctx.state.mode := by
  unfold Seven.writeOperand
  rw [hss.1]
  dsimp only
  rw [hss.2]
  rfl

/-- **A pop reports its load when it is one into `SS`**, and nothing else. -/
theorem popOperandWidth_notes (width : StackWidth) {ctx c : ExecutionContext}
    (h : (popOperandWidth width.bytes).toHandler ctx = .ok () c) :
    if IntoSs ctx.instr then
      c.debugHitBits = ctx.debugHitBits ||| collectDataBreakpointHits ctx.state
          ((popOperandWidth width.bytes).performed ctx) ∧ SameWatches ctx.state c.state
    else c.debugHitBits = ctx.debugHitBits := by
  unfold popOperandWidth at h ⊢
  rw [look_bind, ctx.withoutMemory_state] at h
  have hlook {β : Type} (f : ExecutionContext → AccessM β) :
      (look >>= f).performed ctx = (f ctx.withoutMemory).performed ctx := rfl
  rw [hlook, ctx.withoutMemory_state]
  obtain ⟨value, popped, hpop, hrest, hperformed⟩ := performed_bind h
  obtain ⟨hload, hpopped⟩ := performed_popWidth hpop
  obtain ⟨_, written, hwrite, hnote, hperformed'⟩ := performed_bind hrest
  rw [hperformed, hperformed', hload]
  rw [toHandler_writeOperandChecked] at hwrite
  have hbefore : BeforeNote popped written :=
    (beforeNote_frame.writeOperandChecked 0 value _ popped).ok hwrite
  have hinstr : written.instr = ctx.instr := by rw [hbefore.instr, hpopped]
  have hbits : written.debugHitBits = ctx.debugHitBits := by
    rw [hbefore.hits, hpopped]
  have hnothing : (notePopSs ctx.state.rsp width.bytes).performed written = [] := rfl
  rw [toHandler_notePopSs] at hnote
  rw [hnothing, List.append_nil]
  by_cases hss : IntoSs ctx.instr
  · rw [if_pos hss]
    have hssPopped : IntoSs popped.instr := by
      rw [hpopped]
      exact hss
    rw [← hinstr] at hss
    rw [notePopSs_ss hss] at hnote
    cases hnote
    rw [performed_writeOperandChecked_register hssPopped.1, List.append_nil]
    -- neither the pop nor the write of `SS` moves a breakpoint
    have hdr : (shadowSs written.state).dr = ctx.state.dr := by
      show written.state.dr = _
      rw [of_writeOperandChecked_ok hwrite, writeOperand_ss hssPopped.1 hssPopped.2, hpopped]
      rfl
    have hmode : (shadowSs written.state).mode = ctx.state.mode := by
      show written.state.mode = _
      rw [of_writeOperandChecked_ok hwrite, writeOperand_ss_mode hssPopped, hpopped]
      rfl
    refine ⟨?_, hdr, hmode⟩
    rw [← collectDataBreakpointHits_congr hdr hmode, hbits, collectDataBreakpointHits_cons]
    exact congrArg (ctx.debugHitBits ||| ·) BitVec.or_zero.symm
  · rw [if_neg hss]
    rw [← hinstr] at hss
    rw [notePopSs_other hss] at hnote
    cases hnote
    exact hbits

end AccessM

/-! ## All handlers -/

/-- A program that has succeeded has added to the hit bits what its accesses
hit, by breakpoints that it leaves where they are, or nothing. -/
def AccessM.NotesAs (noting : Bool) (p : AccessM Unit) (ctx c : ExecutionContext) : Prop :=
  if noting then
    c.debugHitBits = ctx.debugHitBits ||| collectDataBreakpointHits ctx.state (p.performed ctx) ∧
      SameWatches ctx.state c.state
  else c.debugHitBits = ctx.debugHitBits

/-- An environment whose other handlers do one or the other: the moves into
`SS` report their load, the rest nothing. -/
structure NotingEnv (W : Type) extends AccessEnv W where
  other_faults : ∀ code h, otherHandler code = some h → RaisesFaults h
  otherNotes : Code → Instruction → Bool
  otherNotes_eq : ∀ code p, otherProgram code = some p → ∀ ctx c,
    p.toHandler ctx = .ok () c → p.NotesAs (otherNotes code ctx.instr) ctx c

/-- The shape pops to an operand. -/
def StackShape.popsOperand : StackShape → Bool
  | .popOperand _ => true
  | _ => false

/-- Pops, other than into an operand, and all other stack instructions report
nothing. -/
theorem StackShape.program_notes (shape : StackShape) {ctx c : ExecutionContext}
    (h : shape.program.toHandler ctx = .ok () c) :
    shape.program.NotesAs (shape.popsOperand && decide (IntoSs ctx.instr)) ctx c := by
  unfold AccessM.NotesAs
  by_cases hpop : ∃ width, shape = .popOperand width
  · obtain ⟨width, rfl⟩ := hpop
    have hnotes := AccessM.popOperandWidth_notes width h
    by_cases hss : IntoSs ctx.instr
    · rw [if_pos hss] at hnotes
      rw [decide_eq_true hss]
      exact hnotes
    · rw [if_neg hss] at hnotes
      rw [decide_eq_false hss]
      exact hnotes
  · rw [not_exists] at hpop
    have hfalse : shape.popsOperand = false := by
      cases shape with
      | popOperand width => exact absurd rfl (hpop width)
      | _ => rfl
    rw [hfalse, Bool.false_and, if_neg Bool.false_ne_true]
    rw [shape.toHandler_program] at h
    exact ((shape.moves noNotes_frame (StackShape.contained_noNotes hpop) ctx).ok h).hits

namespace NotingEnv

variable (A : NotingEnv W)

/-- Does the handler look for data breakpoints itself? -/
def notes : Code → Instruction → Bool
  | .stack c, instr => c.shape.popsOperand && decide (IntoSs instr)
  | .rmw _, _ => false
  | .string _ _, _ => true
  | code, instr => A.otherNotes code instr

/-- **What a handler reports itself.** -/
theorem handler_notes (code : Code) {ctx c : ExecutionContext}
    (h : (A.program code).toHandler ctx = .ok () c) :
    (A.program code).NotesAs (A.notes code ctx.instr) ctx c := by
  have hother (code : Code)
      (hrun : ((A.otherProgram code).getD AccessM.unsupported).toHandler ctx = .ok () c) :
      ((A.otherProgram code).getD AccessM.unsupported).NotesAs (A.otherNotes code ctx.instr) ctx c := by
    cases hprogram : A.otherProgram code with
    | none =>
      rw [hprogram] at hrun
      cases hrun
    | some p =>
      rw [hprogram] at hrun
      exact A.otherNotes_eq code p hprogram ctx c hrun
  cases code with
  | stack code => exact code.shape.program_notes h
  | rmw code =>
    have hrun : code.handler ctx = .ok () c := by
      rw [← code.toHandler_program]
      exact h
    exact ((code.moves noNotes_frame ctx).ok hrun).hits
  | string op width => exact AccessM.stringImpl_notes width.bytes_bounds.2 h
  | _ => exact hother _ h

end NotingEnv

end Seven
