import Seven.Handlers.DataMoves
import Seven.Executor.Frames

/-!
# What handlers note for the debug exceptions

A handler speaks to the debug exceptions behind it in two ways. A load of
`SS`, by `POP SS` or by `MOV`, sets the debug suppression, and with the trap
flag set it leaves a single step pending. Loads of `SS` and string loops also
report the data breakpoints they hit themselves, in the hit bits of the
context. `DebugNotes` is all a handler may do there (`Env.handler_debugNotes`).
-/

namespace Seven

open Seven.Lib

variable {W : Type}

/-- The fields the debug exceptions keep in the state are the same. -/
structure SameDebug (s t : CpuState) : Prop where
  suppression : t.debugSuppression = s.debugSuppression
  singleStep : t.pendingSingleStep = s.pendingSingleStep
  hits : t.pendingDebugHitBits = s.pendingDebugHitBits

/-- `t` is in the shadow of a load of `SS` made in `s`. -/
structure Shadowed (s t : CpuState) : Prop where
  suppression : t.debugSuppression = 1#8
  singleStep : t.pendingSingleStep = (s.pendingSingleStep || flagSet s.rflags kFlagTF)
  hits : t.pendingDebugHitBits = s.pendingDebugHitBits
  flags : systemFlags t.rflags = systemFlags s.rflags

/-- What a handler may have noted. -/
structure DebugNotes (c c' : ExecutionContext) : Prop where
  fields : SameDebug c.state c'.state ∨ Shadowed c.state c'.state
  hits : hasEnabledDataBreakpoints c.state = false → c'.debugHitBits = c.debugHitBits

/-- The relation composes. -/
theorem SameDebug.trans {s t u : CpuState} (h : SameDebug s t) (h' : SameDebug t u) :
    SameDebug s u :=
  ⟨h'.suppression.trans h.suppression, h'.singleStep.trans h.singleStep, h'.hits.trans h.hits⟩

/-- A register's write. -/
theorem sameDebug_register (s : CpuState) (reg : Register) (value : U64) (width : Nat) :
    SameDebug s (writeRegister s reg value width) := by
  unfold writeRegister
  split <;> exact ⟨rfl, rfl, rfl⟩

/-- It is a frame. -/
theorem sameDebug_frame : StateFrame SameDebug where
  refl _ := ⟨rfl, rfl, rfl⟩
  trans := SameDebug.trans
  gpr _ _ _ := ⟨rfl, rfl, rfl⟩
  sreg _ _ _ := ⟨rfl, rfl, rfl⟩
  register := sameDebug_register
  rip _ _ := ⟨rfl, rfl, rfl⟩
  mode _ _ := ⟨rfl, rfl, rfl⟩
  flags _ _ _ := ⟨rfl, rfl, rfl⟩

/-! ## The relation the ordinary handlers move along -/

/-- Nothing is noted. -/
structure NoNotes (c c' : ExecutionContext) : Prop where
  fields : SameDebug c.state c'.state
  hits : c'.debugHitBits = c.debugHitBits

/-- No notes are notes. -/
theorem NoNotes.debugNotes {c c' : ExecutionContext} (h : NoNotes c c') : DebugNotes c c' :=
  ⟨Or.inl h.fields, fun _ => h.hits⟩

/-- No notes is a frame. -/
theorem noNotes_frame : HandlerFrame NoNotes where
  refl c := ⟨sameDebug_frame.refl c.state, rfl⟩
  trans h h' := ⟨h.fields.trans h'.fields, h'.hits.trans h.hits⟩
  state _ _ h := ⟨h.of_frame sameDebug_frame, rfl⟩
  memory c _ := ⟨sameDebug_frame.refl c.state, rfl⟩
  taken c := ⟨sameDebug_frame.refl c.state, rfl⟩

/-- Every shape but a pop into an operand contains its updates. -/
theorem StackShape.contained_noNotes {shape : StackShape}
    (h : ∀ width, shape ≠ .popOperand width) : shape.Contained NoNotes := by
  have same (c : ExecutionContext) (s : CpuState) (hs : SameDebug c.state s) :
      NoNotes c { c with state := s } := ⟨hs, rfl⟩
  cases shape with
  | popOperand width => exact absurd rfl (h width)
  | popfq => exact fun c value => same c _ ⟨rfl, rfl, rfl⟩
  | iret width => exact fun c value => same c _ ⟨rfl, rfl, rfl⟩
  | int vector => exact fun gate c => same c _ ⟨rfl, rfl, rfl⟩
  | into => exact fun gate c => same c _ ⟨rfl, rfl, rfl⟩
  | _ => trivial

/-! ## Data breakpoints that are not enabled -/

/-- Nothing is watched. -/
theorem debugDataBreakpointHits_unwatched {s : CpuState}
    (h : hasEnabledDataBreakpoints s = false) (address size : U64) (isRead isWrite : Bool) :
    debugDataBreakpointHits s address size isRead isWrite = 0#64 := by
  by_cases hdr : s.dr 7 = 0#64
  · exact debugDataBreakpointHits_disabled hdr address size isRead isWrite
  have hoff (i : Fin 4) : dataBreakpointHit s address size isRead isWrite i = false := by
    unfold hasEnabledDataBreakpoints at h
    rw [bne_iff_ne.mpr hdr, Bool.true_and, List.any_eq_false] at h
    have hi := h i (List.mem_finRange i)
    unfold breakpointEnabled breakpointRw at hi
    unfold dataBreakpointHit
    dsimp only
    rw [Bool.not_eq_true, Bool.and_eq_false_iff] at hi
    rcases hi with hi | hi
    · rw [hi]
      rfl
    · rw [bne_eq_false_iff_eq] at hi
      rw [hi]
      simp only [BitVec.reduceBEq, Bool.false_and, Bool.or_false, Bool.and_false]
  unfold debugDataBreakpointHits
  simp only [hoff, Bool.false_eq_true, if_false]
  rfl

/-- Whether something is depends on `DR7`. -/
theorem hasEnabledDataBreakpoints_congr {s t : CpuState} (h : t.dr 7 = s.dr 7) :
    hasEnabledDataBreakpoints t = hasEnabledDataBreakpoints s := by
  unfold hasEnabledDataBreakpoints breakpointEnabled breakpointRw
  rw [h]

/-! ## String loops -/

section strings

variable {op : StringOp} {width : Nat} {p : StringPointers}

/-- Hits are reported where data breakpoints are enabled only. -/
def NoHits (x : HandlerM U64) : Prop :=
  ∀ c hits c', x c = .ok hits c' → hasEnabledDataBreakpoints c.state = false → hits = 0#64

/-- An element leaves the debug registers. -/
theorem ElementFrame.dr {c c' : ExecutionContext} (h : ElementFrame c c') :
    c'.state.dr = c.state.dr := by
  have hdr := congrArg CpuState.dr h.state
  exact hdr

/-- One after the other. -/
theorem noHits_bind {α : Type} {x : HandlerM α} {f : α → HandlerM U64}
    (hx : Keeps ElementFrame x) (hf : ∀ a, NoHits (f a)) : NoHits (x >>= f) := by
  intro c hits c' h hoff
  obtain ⟨a, c₁, hx', hf'⟩ := of_bind_ok h
  have hdr := (hx c a c₁ hx').dr
  refine hf a c₁ hits c' hf' ?_
  rw [hasEnabledDataBreakpoints_congr (congrFun hdr 7)]
  exact hoff

/-- Watched reads do not hit. -/
theorem readHits_noHits (address : U64) (width : Nat) : NoHits (readHits address width) := by
  intro c hits c' h hoff
  cases h
  exact debugDataBreakpointHits_unwatched hoff _ _ _ _

/-- Nor do watched writes. -/
theorem writeHits_noHits (address : U64) (width : Nat) : NoHits (writeHits address width) := by
  intro c hits c' h hoff
  cases h
  exact debugDataBreakpointHits_unwatched hoff _ _ _ _

/-- The hits of two accesses. -/
theorem bothHits_noHits {x y : HandlerM U64} (hx : NoHits x) (hy : NoHits y)
    (hframe : Keeps ElementFrame x) : NoHits (do return (← x) ||| (← y)) := by
  intro c hits c' h hoff
  obtain ⟨a, c₁, hxa, hrest⟩ := of_bind_ok h
  obtain ⟨b, c₂, hyb, hpure⟩ := of_bind_ok hrest
  have hdr := (hframe c a c₁ hxa).dr
  have ha := hx c a c₁ hxa hoff
  have hb := hy c₁ b c₂ hyb (by rw [hasEnabledDataBreakpoints_congr (congrFun hdr 7)]; exact hoff)
  cases hpure
  rw [ha, hb]
  rfl

/-- Nor does an element. -/
theorem stringElement_noHits (hwidth : width ≤ 8) : NoHits (stringElement op width p) := by
  have hread (address : U64) := readMemoryChecked_frame address width
  have hwrite (address value : U64) := writeMemoryChecked_frame address value hwidth
  -- An element is its accesses and then the look at the breakpoints, which finds none switched
  -- on.
  cases op with
  | movs =>
    exact noHits_bind (hread _) fun _ => noHits_bind (hwrite _ _) fun _ =>
      bothHits_noHits (readHits_noHits _ _) (writeHits_noHits _ _) (readHits_frame _ _)
  | stos =>
    intro c
    rw [stringElement_stos]
    exact noHits_bind (hwrite _ _) (fun _ => writeHits_noHits _ _) c
  | lods =>
    exact noHits_bind (hread _) fun _ => noHits_bind (loadRax_frame _ _) fun _ =>
      readHits_noHits _ _
  | cmps =>
    exact noHits_bind (hread _) fun _ => noHits_bind (hread _) fun _ =>
      noHits_bind (compareElements_frame _ _ _) fun _ =>
        bothHits_noHits (readHits_noHits _ _) (readHits_noHits _ _) (readHits_frame _ _)
  | scas =>
    intro c
    rw [stringElement_scas]
    exact noHits_bind (hread _) (fun _ => noHits_bind (compareElements_frame _ _ _) fun _ =>
      readHits_noHits _ _) c

/-- A loop notes nothing where nothing is watched. -/
theorem stringLoop_hits (hwidth : width ≤ 8) (rep repne df : Bool) :
    ∀ (remaining : Nat) (p : StringPointers) (c : ExecutionContext),
      hasEnabledDataBreakpoints c.state = false →
      (finalState (stringLoop op width rep repne df remaining p c)).debugHitBits = c.debugHitBits
  | 0, _, _, _ => rfl
  | remaining + 1, p, c, hoff => by
    have hbits := (noNotes_frame.stringElement op width p c).hits
    unfold stringLoop
    -- The element leaves the hits alone, and with DR7 unchanged so does the rest of the loop.
    cases helement : stringElement op width p c with
    | error r c₁ =>
      rw [helement] at hbits
      exact hbits
    | ok hits c₁ =>
      rw [helement] at hbits
      have hframe := stringElement_frame hwidth c hits c₁ helement
      have hnone := stringElement_noHits hwidth c hits c₁ helement hoff
      have hnote (c : ExecutionContext) (goOn : Bool) : noteDebugBreak c 0#64 goOn = (c, false) :=
        rfl
      rw [hnone]
      simp only [hnote]
      split
      next => exact hbits
      next =>
        have hrest := stringLoop_hits hwidth rep repne df remaining
          (advancePointers op df width p) c₁
          (by rw [hasEnabledDataBreakpoints_congr (congrFun hframe.dr 7)]; exact hoff)
        exact hrest.trans hbits

end strings

/-- A string instruction notes its hits only. -/
theorem stringImpl_debugNotes {op : StringOp} {width : Nat} (hwidth : width ≤ 8) :
    Moves DebugNotes (stringImpl op width) := by
  intro c
  have hfields := stringImpl_moves sameDebug_frame.onState
    (noteDebugBreak_onState sameDebug_frame.toIsPath) op width c
  exact ⟨Or.inl hfields, stringLoop_hits hwidth _ _ _ _ _ c⟩

/-! ## Loads of `SS` -/

/-- What a load of `SS` does before its note. -/
structure BeforeNote (c c' : ExecutionContext) : Prop extends NoNotes c c' where
  flags : systemFlags c'.state.rflags = systemFlags c.state.rflags
  instr : c'.instr = c.instr

/-- What `POP SS` and `MOV SS` do before their note is a frame. -/
theorem beforeNote_frame : HandlerFrame BeforeNote where
  refl c := ⟨noNotes_frame.refl c, rfl, rfl⟩
  trans h h' := ⟨noNotes_frame.trans h.toNoNotes h'.toNoNotes, h'.flags.trans h.flags,
    h'.instr.trans h.instr⟩
  state c s h := by
    have hflags : StateFrame fun s t : CpuState => systemFlags t.rflags = systemFlags s.rflags :=
      { refl := fun _ => rfl
        trans := fun h h' => h'.trans h
        gpr := fun _ _ _ => rfl
        sreg := fun _ _ _ => rfl
        register := fun s reg value width => by
          unfold writeRegister
          split <;> rfl
        rip := fun _ _ => rfl
        mode := fun _ _ => rfl
        flags := fun _ _ h => h }
    exact ⟨noNotes_frame.state c s h, h.of_frame hflags, rfl⟩
  memory c value := ⟨noNotes_frame.memory c value, rfl, rfl⟩
  taken c := ⟨noNotes_frame.taken c, rfl, rfl⟩

/-- TF is a system flag. -/
theorem systemFlags_tf {a b : U64} (h : systemFlags a = systemFlags b) :
    flagSet a kFlagTF = flagSet b kFlagTF := by
  have htf (r : U64) : r &&& kFlagTF = systemFlags r &&& kFlagTF := by
    unfold systemFlags
    rw [BitVec.and_assoc, show ~~~kStatusFlags &&& kFlagTF = kFlagTF by decide]
  unfold flagSet
  rw [htf a, htf b, h]

/-- A note of a load of `SS` behind such a prefix. -/
theorem BeforeNote.shadowed {c c₁ : ExecutionContext} (h : BeforeNote c c₁) (hits : U64)
    (hhits : hasEnabledDataBreakpoints c.state = false → hits = 0#64) :
    DebugNotes c { c₁ with
      state := shadowSs c₁.state, debugHitBits := c₁.debugHitBits ||| hits } := by
  refine ⟨Or.inr ⟨rfl, ?_, h.fields.hits, h.flags⟩, fun hoff => ?_⟩
  · show (c₁.state.pendingSingleStep || flagSet c₁.state.rflags kFlagTF) = _
    rw [h.fields.singleStep, systemFlags_tf h.flags]
  · show c₁.debugHitBits ||| hits = _
    rw [hhits hoff, h.hits]
    exact BitVec.or_zero

/-- A write to `SS` leaves the debug registers alone. -/
theorem writeOperand_ss {c : ExecutionContext} (hkind : c.instr.opKind 0 = .register)
    (hreg : c.instr.opRegister 0 = .ss) (value : U64) (width : Nat) :
    (writeOperand c 0 value width).1.state.dr = c.state.dr := by
  unfold writeOperand
  rw [hkind]
  dsimp only
  rw [hreg]
  rfl

/-- A pop leaves the debug registers. -/
theorem popWidth_dr {width : Nat} {c c' : ExecutionContext} {value : U64}
    (h : popWidth width c = .ok value c') : c'.state.dr = c.state.dr := by
  unfold popWidth at h
  split at h
  next =>
    obtain ⟨ctx, c₁, hget, h⟩ := of_bind_ok h
    cases hget
    obtain ⟨v, c₂, hread, h⟩ := of_bind_ok h
    cases readMemoryChecked_ok hread
    cases h
    rfl
  next => cases h

/-- `POP` notes the shadow of `SS`. -/
theorem popOperandWidth_debugNotes (width : StackWidth) :
    Moves DebugNotes (popOperandWidth width.bytes) := by
  refine Moves.of_keeps ?_ (((StackShape.popOperand width).failsAlong noNotes_frame).mono
    fun c c' => NoNotes.debugNotes)
  intro c u c' h
  obtain ⟨ctx, c₀, hget, h⟩ := of_bind_ok h
  cases hget
  obtain ⟨value, c₁, hpop, h⟩ := of_bind_ok h
  obtain ⟨u', c₂, hwrite, hnote⟩ := of_bind_ok h
  -- Before the note is written only the destination and the stack pointer have moved.
  have hbefore : BeforeNote c c₂ := beforeNote_frame.trans
    ((beforeNote_frame.popWidth _ c).ok hpop)
    ((beforeNote_frame.writeOperandChecked 0 value _ c₁).ok hwrite)
  unfold notePopSs at hnote
  split at hnote
  next hss =>
    cases hnote
    -- Only POP SS adds hits, and only where a data breakpoint is switched on.
    refine hbefore.shadowed _ fun hoff => debugDataBreakpointHits_unwatched ?_ _ _ _ _
    have hinstr : c₁.instr = c.instr := ((beforeNote_frame.popWidth _ c).ok hpop).instr
    rw [hbefore.instr, ← hinstr] at hss
    have hdr : (shadowSs c₂.state).dr = c.state.dr := by
      show c₂.state.dr = _
      rw [of_writeOperandChecked_ok hwrite, writeOperand_ss hss.1 hss.2, popWidth_dr hpop]
    exact (hasEnabledDataBreakpoints_congr (congrFun hdr 7)).trans hoff
  next =>
    cases hnote
    exact hbefore.debugNotes

/-- The note cannot fail. -/
theorem noteMovSs_total (width : Nat) : Total (noteMovSs width) := by
  intro c
  unfold noteMovSs
  split
  next => exact ⟨_, _, rfl⟩
  next => exact ⟨_, _, rfl⟩

/-- `MOV` to a segment register notes the shadow of `SS`. -/
theorem movSreg_debugNotes (width : Nat) : Moves DebugNotes (movSreg width) := by
  have hfails : FailsAlong NoNotes (movSreg width) :=
    FailsAlong.bind_total (noNotes_frame.push.of_quiet (readOperandChecked_quiet 1 width)).failsAlong
      fun value => Total.bind (fun s => ⟨s, s, rfl⟩) fun _ =>
        (modifyState_total _).bind fun _ => noteMovSs_total width
  refine Moves.of_keeps ?_ (hfails.mono fun c c' => NoNotes.debugNotes)
  intro c u c' hrun
  obtain ⟨value, c₁, hread, h⟩ := of_bind_ok hrun
  -- A read of the operand leaves the context as it was.
  have hsame : c₁ = c := by
    rcases readOperandChecked_quiet 1 width c with ⟨v, hv⟩ | ⟨e, he⟩
    · rw [hv] at hread
      cases hread
      rfl
    · rw [he] at hread
      cases hread
  clear hrun hread
  subst hsame
  obtain ⟨ctx, c₀, hget, h⟩ := of_bind_ok h
  cases hget
  obtain ⟨u', c₂, hwrite, hnote⟩ := of_bind_ok h
  have hbefore : BeforeNote c₁ c₂ := by
    have hmove := beforeNote_frame.modifyState
      (fun s => .register s (c₁.instr.opRegister 0) value 2) c₁
    exact hmove.ok hwrite
  cases hwrite
  unfold noteMovSs at hnote
  split at hnote
  next hss =>
    cases hnote
    refine hbefore.shadowed _ fun hoff => ?_
    -- MOV SS from memory looks at its own read; from a register there is nothing to look at.
    split
    next =>
      refine debugDataBreakpointHits_unwatched ?_ _ _ _ _
      have hdr : (shadowSs (writeRegister c₁.state (c₁.instr.opRegister 0) value 2)).dr =
          c₁.state.dr := by
        rw [show c₁.instr.opRegister 0 = .ss from hss]
        rfl
      exact (hasEnabledDataBreakpoints_congr (congrFun hdr 7)).trans hoff
    next => rfl
  next =>
    cases hnote
    exact hbefore.debugNotes

/-- **What a handler notes**, when the other handlers note no more. -/
theorem Env.handler_debugNotes {env : Env W}
    (hother : ∀ code h, env.otherHandler code = some h → Moves DebugNotes h) (code : Code) :
    Moves DebugNotes (env.handler code) := by
  have hplain {h : Handler} (hm : Moves NoNotes h) : Moves DebugNotes h :=
    hm.mono fun c c' => NoNotes.debugNotes
  have hrest (code : Code) : Moves DebugNotes ((env.otherHandler code).getD unsupported) :=
    otherHandler_cases hother (hplain (noNotes_frame.push.of_quiet unsupported_quiet)) code
  cases code with
  | stack c =>
    show Moves DebugNotes c.shape.handler
    by_cases hpop : ∃ width, c.shape = .popOperand width
    · obtain ⟨width, hpop⟩ := hpop
      rw [hpop]
      exact popOperandWidth_debugNotes width
    · rw [not_exists] at hpop
      exact hplain (c.shape.moves noNotes_frame (StackShape.contained_noNotes hpop))
  | rmw c => exact hplain (c.moves noNotes_frame)
  | string op width => exact stringImpl_debugNotes width.bytes_bounds.2
  | _ => exact hrest _

end Seven
