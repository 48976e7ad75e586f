import Seven.Handlers.StringRepeat
import Seven.Memory.Supply

/-!
# Repeats on a memory with missing pages

A repeat runs twice: on a memory in which some pages are missing, and on the
memory with these pages supplied (`mapped`). An element whose accesses lie
within one page each either does the same in both, or it is refused at a
missing page and changes nothing. Iterated (`stringImpl_demand`): the repeat
on the memory with the missing pages either ends like the other one, or it
stops with a page fault at a missing page, in a context from which the
repeat on the mapped memory would have ended in the same way. Devices may be
mapped, as long as the pages answer the accesses of the elements.
-/

namespace Seven

open Seven.Lib

namespace StringOp

/-- The addresses an element accesses, in order. -/
def addresses (op : StringOp) (p : StringPointers) : List U64 :=
  (if op.usesRsi then [p.rsi] else []) ++ (if op.usesRdi then [p.rdi] else [])

/-- Is memory written? -/
def writes : StringOp → Bool
  | .movs | .stos => true
  | .lods | .cmps | .scas => false

/-- `RSI` is an address of the element. -/
theorem rsi_mem_addresses {op : StringOp} (p : StringPointers) (h : op.usesRsi = true) :
    p.rsi ∈ op.addresses p := by
  unfold addresses
  rw [h]
  exact List.mem_append_left _ List.mem_cons_self

/-- `RDI` is an address of the element. -/
theorem rdi_mem_addresses {op : StringOp} (p : StringPointers) (h : op.usesRdi = true) :
    p.rdi ∈ op.addresses p := by
  unfold addresses
  rw [h]
  exact List.mem_append_right _ List.mem_cons_self

end StringOp

/-- The context with the pages supplied. -/
def mapped (supplies : Nat → PageSupply) (missing : List Nat) (ctx : ExecutionContext) :
    ExecutionContext :=
  { ctx with memory := ctx.memory.supplyAll supplies missing }

/-- The pages answer the accesses of `width` bytes at these addresses. -/
def PagedContext (width : Nat) (paged : U64 → Prop) (ctx : ExecutionContext) : Prop :=
  ∀ a, paged a → ctx.memory.PagesAnswer a width

section

variable {supplies : Nat → PageSupply} {missing : List Nat} {op : StringOp} {width : Nat}
  {paged : U64 → Prop} {p : StringPointers} {ctx c : ExecutionContext}

/-- Paged does not depend on the bytes. -/
theorem PagedContext.sameAccess (h : PagedContext width paged ctx)
    (hsame : Memory.SameAccess ctx.memory c.memory) : PagedContext width paged c :=
  fun a ha => (h a ha).sameAccess hsame

/-- An element has bytes. -/
theorem toBytes_ne_nil (hpos : 0 < width) (value : U64) : toBytes value width ≠ [] := by
  intro h
  have hlen := toBytes_length value width
  rw [h, List.length_nil] at hlen
  omega

/-! ## Accesses -/

/-- A read of a page that is there. -/
theorem readMemoryChecked_present (supplies : Nat → PageSupply) (hpos : 0 < width) {a : U64}
    (ha : paged a) (hfit : WithinPage a width) (hnot : pageOf a ∉ missing) :
    Commutes (PagedContext width paged) (mapped supplies missing) (readMemoryChecked a width) := by
  intro ctx hpaged
  have hread : (ctx.memory.supplyAll supplies missing).read a width .dataRead =
      ctx.memory.read a width .dataRead := Memory.read_supplyAll (hpaged a ha) hpos hfit hnot _
  unfold readMemoryChecked mapped
  simp only [hread]
  cases ctx.memory.read a width .dataRead with
  | some bytes =>
    refine ⟨rfl, ?_⟩
    intro value c hc
    cases hc
    exact hpaged
  | none =>
    refine ⟨rfl, ?_⟩
    intro value c hc
    cases hc

/-- A write of a page that is there. -/
theorem writeMemoryChecked_present (supplies : Nat → PageSupply) (hpos : 0 < width)
    (hwidth : width ≤ 8) {a : U64} (ha : paged a) (hfit : WithinPage a width)
    (hnot : pageOf a ∉ missing) (value : U64) :
    Commutes (PagedContext width paged) (mapped supplies missing) (writeMemoryChecked a value width) := by
  intro ctx hpaged
  have hfit' : WithinPage a (toBytes value width).length := by
    rw [toBytes_length]
    exact hfit
  have hanswer : ctx.memory.PagesAnswer a (toBytes value width).length := by
    rw [toBytes_length]
    exact hpaged a ha
  have hwrite : (ctx.memory.supplyAll supplies missing).write a (toBytes value width) .dataWrite =
      ((ctx.memory.write a (toBytes value width) .dataWrite).1.supplyAll supplies missing,
        (ctx.memory.write a (toBytes value width) .dataWrite).2) :=
    Memory.write_supplyAll hanswer (toBytes_ne_nil hpos value) hfit' hnot _
  refine ⟨?_, fun _ c hc =>
    PagedContext.sameAccess hpaged (writeMemoryChecked_frame a value hwidth ctx () c hc).memory⟩
  unfold writeMemoryChecked mapped
  simp only [hwrite]
  cases ctx.memory.write a (toBytes value width) .dataWrite with
  | mk memory ok => cases ok <;> rfl

/-- A read of a page that is missing. -/
theorem readMemoryChecked_missing (hmissing : ctx.memory.Missing missing) (hpos : 0 < width) {a : U64}
    (hanswer : ctx.memory.PagesAnswer a width) (hfit : WithinPage a width) (hmem : pageOf a ∈ missing) :
    readMemoryChecked a width ctx = .error (pageFaultAt ctx a) ctx :=
  readMemoryChecked_none (Memory.read_missing hanswer hpos hfit (hmissing _ hmem) _)

/-- A write of a page that is missing. -/
theorem writeMemoryChecked_missing (hmissing : ctx.memory.Missing missing) (hpos : 0 < width)
    {a : U64} (hanswer : ctx.memory.PagesAnswer a width) (hfit : WithinPage a width) (hmem : pageOf a ∈ missing) (value : U64) :
    writeMemoryChecked a value width ctx = .error (pageFaultAt ctx a) ctx := by
  have hfit' : WithinPage a (toBytes value width).length := by
    rw [toBytes_length]
    exact hfit
  have hanswer' : ctx.memory.PagesAnswer a (toBytes value width).length := by
    rw [toBytes_length]
    exact hanswer
  have hwrite := Memory.write_missing hanswer' (toBytes_ne_nil hpos value) hfit' (hmissing _ hmem)
    .dataWrite
  unfold writeMemoryChecked
  rw [hwrite]
  rfl

/-! ## One element -/

/-- The supplied pages are not seen by the registers. -/
theorem mapped_transparent : Transparent (PagedContext width paged) (mapped supplies missing) where
  rax := fun _ => rfl
  hits := fun _ _ _ _ _ => rfl
  loads := by
    intro value width ctx hpaged
    refine ⟨rfl, ?_⟩
    intro _ c hc
    cases hc
    exact hpaged
  compares := by
    intro width lhs rhs ctx hpaged
    refine ⟨rfl, ?_⟩
    intro _ c hc
    cases hc
    exact hpaged

/-- Away from the missing pages an element does the same in both memories. -/
theorem stringElement_present (supplies : Nat → PageSupply) (hpos : 0 < width) (hwidth : width ≤ 8)
    (ha : ∀ a ∈ op.addresses p, paged a) (hfit : ∀ a ∈ op.addresses p, WithinPage a width)
    (hnot : ∀ a ∈ op.addresses p, pageOf a ∉ missing) :
    Commutes (PagedContext width paged) (mapped supplies missing) (stringElement op width p) := by
  refine stringElement_commutes mapped_transparent (fun h => ?_) (fun h => ?_) (fun h value => ?_)
  · have hmem := StringOp.rsi_mem_addresses p h
    exact readMemoryChecked_present supplies hpos (ha _ hmem) (hfit _ hmem) (hnot _ hmem)
  · have hmem := StringOp.rdi_mem_addresses p h
    exact readMemoryChecked_present supplies hpos (ha _ hmem) (hfit _ hmem) (hnot _ hmem)
  · have hmem := StringOp.rdi_mem_addresses p h
    exact writeMemoryChecked_present supplies hpos hwidth (ha _ hmem) (hfit _ hmem) (hnot _ hmem) value

/-- A first read at a present page, then an access at a missing one. -/
theorem readThen_missing {α : Type} {g : U64 → HandlerM α} (hpaged : PagedContext width paged ctx)
    (hpos : 0 < width) {a b : U64} (ha : paged a) (hfit : WithinPage a width) (hnot : pageOf a ∉ missing)
    {value : α} (hok : (readMemoryChecked a width >>= g) (mapped supplies missing ctx) = .ok value c)
    (hg : ∀ v, g v ctx = .error (pageFaultAt ctx b) ctx) :
    (readMemoryChecked a width >>= g) ctx = .error (pageFaultAt ctx b) ctx := by
  obtain ⟨v, c', hread, -⟩ := of_bind_ok hok
  obtain ⟨t, ht, -, -⟩ := (readMemoryChecked_present supplies hpos ha hfit hnot).of_ok_map
    hpaged hread
  have htc := readMemoryChecked_ok ht
  subst htc
  rw [bind_ok ht]
  exact hg v

/-- **At a missing page an element is refused and changes nothing.** -/
theorem stringElement_missing (hpaged : PagedContext width paged ctx)
    (hmissing : ctx.memory.Missing missing) (hpos : 0 < width)
    (hanswer : ∀ a ∈ op.addresses p, paged a) (hfit : ∀ a ∈ op.addresses p, WithinPage a width)
    (hsome : ∃ a ∈ op.addresses p, pageOf a ∈ missing) {hits : U64}
    (hok : stringElement op width p (mapped supplies missing ctx) = .ok hits c) :
    ∃ a ∈ op.addresses p, pageOf a ∈ missing ∧
      stringElement op width p ctx = .error (pageFaultAt ctx a) ctx := by
  have hread {a : U64} (hmem : a ∈ op.addresses p) (ha : pageOf a ∈ missing) :=
    readMemoryChecked_missing hmissing hpos (hpaged a (hanswer a hmem)) (hfit a hmem) ha
  have hwrite {a : U64} (hmem : a ∈ op.addresses p) (ha : pageOf a ∈ missing) (value : U64) :=
    writeMemoryChecked_missing hmissing hpos (hpaged a (hanswer a hmem)) (hfit a hmem) ha value
  obtain ⟨a, hmem, ha⟩ := hsome
  -- of two pointers, when it is not the first it is the second
  have hsecond (hpair : a ∈ [p.rsi, p.rdi]) (hrsi : pageOf p.rsi ∉ missing) :
      pageOf p.rdi ∈ missing := by
    rcases List.mem_cons.mp hpair with rfl | hrdi
    · exact absurd ha hrsi
    · rw [← List.mem_singleton.mp hrdi]
      exact ha
  cases op with
  | movs =>
    by_cases hrsi : pageOf p.rsi ∈ missing
    · exact ⟨p.rsi, List.mem_cons_self, hrsi, bind_error (hread List.mem_cons_self hrsi)⟩
    · have hrdi : p.rdi ∈ StringOp.movs.addresses p := StringOp.rdi_mem_addresses p rfl
      have hpage := hsecond hmem hrsi
      exact ⟨p.rdi, hrdi, hpage, readThen_missing hpaged hpos (hanswer _ List.mem_cons_self)
        (hfit _ List.mem_cons_self) hrsi hok
        fun v => bind_error (hwrite hrdi hpage _)⟩
  | stos =>
    have hrdi : a = p.rdi := List.mem_singleton.mp hmem
    subst hrdi
    refine ⟨p.rdi, hmem, ha, ?_⟩
    rw [stringElement_stos]
    exact bind_error (hwrite hmem ha _)
  | lods =>
    have hrsi : a = p.rsi := List.mem_singleton.mp hmem
    subst hrsi
    exact ⟨p.rsi, hmem, ha, bind_error (hread hmem ha)⟩
  | cmps =>
    by_cases hrsi : pageOf p.rsi ∈ missing
    · exact ⟨p.rsi, List.mem_cons_self, hrsi, bind_error (hread List.mem_cons_self hrsi)⟩
    · have hrdi : p.rdi ∈ StringOp.cmps.addresses p := StringOp.rdi_mem_addresses p rfl
      have hpage := hsecond hmem hrsi
      exact ⟨p.rdi, hrdi, hpage, readThen_missing hpaged hpos (hanswer _ List.mem_cons_self)
        (hfit _ List.mem_cons_self) hrsi hok
        fun v => bind_error (hread hrdi hpage)⟩
  | scas =>
    have hrdi : a = p.rdi := List.mem_singleton.mp hmem
    subst hrdi
    refine ⟨p.rdi, hmem, ha, ?_⟩
    rw [stringElement_scas]
    exact bind_error (hread hmem ha)

/-! ## One iteration -/

/-- A turn whose pages are there. -/
theorem stringIteration_present (supplies : Nat → PageSupply) (hpaged : PagedContext width paged ctx)
    (hpos : 0 < width) (hwidth : width ≤ 8)
    (hanswer : ∀ a ∈ op.addresses (pointersOf ctx.state), paged a)
    (hfit : ∀ a ∈ op.addresses (pointersOf ctx.state), WithinPage a width)
    (hnot : ∀ a ∈ op.addresses (pointersOf ctx.state), pageOf a ∉ missing) :
    stringIteration op width (mapped supplies missing ctx) =
      mapState (mapped supplies missing) (stringIteration op width ctx) := by
  have hel : stringElement op width (pointersOf (mapped supplies missing ctx).state)
      (mapped supplies missing ctx) = mapState (mapped supplies missing)
        (stringElement op width (pointersOf ctx.state) ctx) :=
    (stringElement_present supplies hpos hwidth hanswer hfit hnot ctx hpaged).1
  unfold stringIteration
  rw [hel]
  cases stringElement op width (pointersOf ctx.state) ctx with
  | error r c => rfl
  | ok hits c =>
    have hbreak (goOn : Bool) : noteDebugBreak (mapped supplies missing c) hits goOn =
        (mapped supplies missing (noteDebugBreak c hits goOn).1, (noteDebugBreak c hits goOn).2) := by
      unfold noteDebugBreak
      split <;> rfl
    simp only [mapState, hbreak]
    rfl

/-- A turn with a missing page faults at the first of them. -/
theorem stringIteration_missing (hpaged : PagedContext width paged ctx)
    (hmissing : ctx.memory.Missing missing) (hpos : 0 < width)
    (hanswer : ∀ a ∈ op.addresses (pointersOf ctx.state), paged a)
    (hfit : ∀ a ∈ op.addresses (pointersOf ctx.state), WithinPage a width)
    (hsome : ∃ a ∈ op.addresses (pointersOf ctx.state), pageOf a ∈ missing) {goOn : Bool}
    (hok : stringIteration op width (mapped supplies missing ctx) = .ok goOn c) :
    ∃ a ∈ op.addresses (pointersOf ctx.state), pageOf a ∈ missing ∧
      stringIteration op width ctx = .error (pageFaultAt ctx a) ctx := by
  have hel : ∃ hits c', stringElement op width (pointersOf ctx.state)
      (mapped supplies missing ctx) = .ok hits c' := by
    unfold stringIteration at hok
    cases hr : stringElement op width (pointersOf ctx.state) (mapped supplies missing ctx) with
    | error r c' =>
      have hr' : stringElement op width (pointersOf (mapped supplies missing ctx).state)
        (mapped supplies missing ctx) = .error r c' := hr
      rw [hr'] at hok
      cases hok
    | ok hits c' => exact ⟨hits, c', rfl⟩
  obtain ⟨hits, c', hel⟩ := hel
  obtain ⟨a, hmem, ha, herror⟩ := stringElement_missing hpaged hmissing hpos hanswer hfit hsome hel
  refine ⟨a, hmem, ha, ?_⟩
  unfold stringIteration
  rw [herror]

end

/-! ## The whole repeat -/

section

variable {supplies : Nat → PageSupply} {missing : List Nat} {op : StringOp} {width : Nat}
  {paged : U64 → Prop} {safe : StringPointers → Prop} {I : ExecutionContext → Prop} {e : ExecutionContext}

/-- None of the elements accesses a missing page. -/
def AvoidsMissing (op : StringOp) (missing : List Nat) (elements : List StringPointers) : Prop :=
  ∀ p ∈ elements, ∀ a ∈ op.addresses p, pageOf a ∉ missing

/-- The repeat from `ctx` stops at a missing page, in the context `c` in
front of an element; on the mapped memory the repeat from `c` ends in `e`. -/
structure Interrupted (op : StringOp) (width : Nat) (supplies : Nat → PageSupply)
    (missing : List Nat) (I : ExecutionContext → Prop) (ctx c : ExecutionContext) (a : U64)
    (e : ExecutionContext) : Prop where
  fault : stringImpl op width ctx = .error (pageFaultAt c a) c
  page : pageOf a ∈ missing
  resumes : stringImpl op width (mapped supplies missing c) = .ok () e
  kept : I c
  frame : RepeatFrame ctx c
  started : ctx.state.gpr 1 ≠ 0#64
  count : c.state.gpr 1 ≠ 0#64
  turns : ∃ before, AvoidsMissing op missing (before.map pointersOf) ∧
    turnsOf op width (mapped supplies missing ctx) =
      before ++ turnsOf op width (mapped supplies missing c)

/-- The elements up to the interruption avoid the missing pages. -/
theorem Interrupted.elements {ctx c : ExecutionContext} {a : U64}
    (h : Interrupted op width supplies missing I ctx c a e) :
    ∃ before, AvoidsMissing op missing before ∧
      elementsOf op width (mapped supplies missing ctx) =
        before ++ elementsOf op width (mapped supplies missing c) := by
  obtain ⟨before, havoid, hturns⟩ := h.turns
  refine ⟨before.map pointersOf, havoid, ?_⟩
  unfold elementsOf
  rw [hturns, List.map_append]

/-- The repeat cannot go past an element whose page is missing. -/
theorem Interrupted.here {ctx : ExecutionContext} (hpos : 0 < width) (hwidth : width ≤ 8)
    (hrep : ctx.instr.repeats = true) (hne : ctx.state.gpr 1 ≠ 0#64)
    (hpaged : PagedContext width paged ctx) (hmissing : ctx.memory.Missing missing) (hkept : I ctx)
    (hanswer : ∀ a ∈ op.addresses (pointersOf ctx.state), paged a)
    (hfit : ∀ a ∈ op.addresses (pointersOf ctx.state), WithinPage a width)
    (hpage : ∃ a ∈ op.addresses (pointersOf ctx.state), pageOf a ∈ missing)
    (hok : stringImpl op width (mapped supplies missing ctx) = .ok () e) :
    ∃ a, Interrupted op width supplies missing I ctx ctx a e := by
  have hstep := stringImpl_iterate op (mapped supplies missing ctx) hwidth hrep hne
  cases hit : stringIteration op width (mapped supplies missing ctx) with
  | error r c =>
    rw [hit] at hstep
    cases hstep.symm.trans hok
  | ok goOn c =>
    obtain ⟨a, -, ha, herror⟩ := stringIteration_missing hpaged hmissing hpos hanswer hfit hpage hit
    refine ⟨a, ?_, ha, hok, hkept, RepeatFrame.refl ctx, hne, hne, [], ?_, rfl⟩
    · rw [stringImpl_iterate op ctx hwidth hrep hne, herror]
    · intro p hp
      cases hp

/-- A turn in front of an interrupted run. -/
theorem Interrupted.after {ctx b c : ExecutionContext} {a : U64}
    (h : Interrupted op width supplies missing I b c a e) (hne : ctx.state.gpr 1 ≠ 0#64)
    (hstep : stringImpl op width ctx = stringImpl op width b) (hframe : RepeatFrame ctx b)
    (hfirst : AvoidsMissing op missing [pointersOf ctx.state])
    (hturns : turnsOf op width (mapped supplies missing ctx) =
      ctx.state :: turnsOf op width (mapped supplies missing b)) :
    Interrupted op width supplies missing I ctx c a e := by
  obtain ⟨before, havoid, hbefore⟩ := h.turns
  refine ⟨hstep.trans h.fault, h.page, h.resumes, h.kept, hframe.trans h.frame, hne, h.count,
    ctx.state :: before, ?_, by rw [hturns, hbefore]; rfl⟩
  intro p hp
  rcases List.mem_cons.mp hp with rfl | hp
  · exact hfirst _ List.mem_cons_self
  · exact havoid p hp

/-- **A repeat on a memory with missing pages**: when it ends on the mapped
memory, it ends in the same way without the pages or stops in front of an
element that accesses one of them. -/
theorem stringImpl_demand (hpos : 0 < width) (hwidth : width ≤ 8)
    (hsafe : ∀ p, safe p → ∀ a ∈ op.addresses p, paged a ∧ WithinPage a width)
    (hI : ∀ a b, safe (pointersOf a.state) → a.state.gpr 1 ≠ 0#64 →
      stringIteration op width a = .ok true b → I a → I b) :
    ∀ (n : Nat) (ctx : ExecutionContext), (ctx.state.gpr 1).toNat = n →
      ctx.instr.repeats = true → PagedContext width paged ctx → ctx.memory.Missing missing → I ctx →
      (∀ p ∈ elementsOf op width (mapped supplies missing ctx), safe p) →
      stringImpl op width (mapped supplies missing ctx) = .ok () e →
      (∃ c, stringImpl op width ctx = .ok () c ∧ e = mapped supplies missing c ∧
        AvoidsMissing op missing (elementsOf op width (mapped supplies missing ctx))) ∨
      ∃ c a, Interrupted op width supplies missing I ctx c a e := by
  intro n
  induction n with
  | zero =>
    intro ctx hcount hrep hpaged hmissing hkept helements hok
    have hzero : ctx.state.gpr 1 = 0#64 := BitVec.eq_of_toNat_eq hcount
    rw [stringImpl_zero op width (mapped supplies missing ctx) hrep hzero] at hok
    cases hok
    refine Or.inl ⟨ctx, stringImpl_zero op width ctx hrep hzero, rfl, ?_⟩
    rw [elementsOf_zero op width (mapped supplies missing ctx) hzero]
    intro p hp
    cases hp
  | succ n ih =>
    intro ctx hcount hrep hpaged hmissing hkept helements hok
    have hne := counter_ne_zero hcount
    have hlist := elementsOf_succ op width (mapped supplies missing ctx) hne
    have hfirst : safe (pointersOf ctx.state) := by
      refine helements _ ?_
      rw [hlist]
      exact List.mem_cons_self
    have hanswer : ∀ a ∈ op.addresses (pointersOf ctx.state), paged a :=
      fun a ha => (hsafe _ hfirst a ha).1
    have hfit : ∀ a ∈ op.addresses (pointersOf ctx.state), WithinPage a width :=
      fun a ha => (hsafe _ hfirst a ha).2
    by_cases hpage : ∃ a ∈ op.addresses (pointersOf ctx.state), pageOf a ∈ missing
    · -- the element in front of the context accesses a missing page
      exact Or.inr ⟨ctx,
        Interrupted.here hpos hwidth hrep hne hpaged hmissing hkept hanswer hfit hpage hok⟩
    · -- the element runs as on the mapped memory, and the induction takes the rest
      have hnot : ∀ a ∈ op.addresses (pointersOf ctx.state), pageOf a ∉ missing :=
        fun a ha hmem => hpage ⟨a, ha, hmem⟩
      have havoid : AvoidsMissing op missing [pointersOf ctx.state] := by
        intro p hp
        rw [List.mem_singleton.mp hp]
        exact hnot
      have hsame := stringIteration_present supplies hpaged hpos hwidth hanswer hfit hnot
      have hturns := turnsOf_succ op width (mapped supplies missing ctx) hne
      rw [stringImpl_iterate op (mapped supplies missing ctx) hwidth hrep hne, hsame] at hok
      rw [hsame] at hlist hturns
      have hstep := stringImpl_iterate op ctx hwidth hrep hne
      -- The memory is missing pages the mapped one has, and that is all the two differ in.
      cases hit : stringIteration op width ctx with
      | error r c =>
        rw [hit] at hok
        cases hok
      | ok goOn c =>
        rw [hit] at hok hlist hturns hstep
        -- With no turn left neither memory is looked at.
        cases goOn with
        | false =>
          cases hok
          refine Or.inl ⟨c, hstep, rfl, ?_⟩
          rw [hlist]
          exact havoid
        | true =>
          have hframe := stringIteration_frame hwidth hit
          have hcount' : (c.state.gpr 1).toNat = n := by
            rw [stringIteration_count hit, hcount, Nat.add_sub_cancel]
          rcases ih c hcount' (by rw [hframe.instr]; exact hrep)
            (PagedContext.sameAccess hpaged hframe.memory) (hmissing.sameAccess hframe.memory)
            (hI ctx c hfirst hne hit hkept)
            (fun p hp => helements p (by rw [hlist]; exact List.mem_cons_of_mem _ hp)) hok with
            ⟨d, hd, he, hrest⟩ | ⟨d, a, hd⟩
          · refine Or.inl ⟨d, hstep.trans hd, he, ?_⟩
            rw [hlist]
            intro p hp
            rcases List.mem_cons.mp hp with rfl | hp
            · exact hnot
            · exact hrest p hp
          · exact Or.inr ⟨d, a, hd.after hne hstep hframe havoid hturns⟩

end

/-! ## What an iteration does to memory and state -/

section

variable {op : StringOp} {width : Nat} {p : StringPointers} {ctx c : ExecutionContext}

/-- What an element does to memory: at most one write, at `RDI`. -/
def ElementWrite (op : StringOp) (width : Nat) (p : StringPointers) (m m' : Memory) : Prop :=
  m' = m ∨ (op.writes = true ∧ ∃ src : List Byte, src.length = width ∧
    m.write p.rdi src .dataWrite = (m', true))

/-- A successful write. -/
theorem writeMemoryChecked_write {a value : U64}
    (h : writeMemoryChecked a value width ctx = .ok () c) :
    ctx.memory.write a (toBytes value width) .dataWrite = (c.memory, true) := by
  obtain ⟨haccepts, rfl⟩ := of_writeMemoryChecked_ok h
  exact Prod.ext rfl haccepts

/-- Part of a handler that leaves the memory alone. -/
def SameMemory (s t : ExecutionContext) : Prop := t.memory = s.memory

/-- A read leaves the memory. -/
theorem readMemoryChecked_sameMemory (a : U64) (width : Nat) :
    Keeps SameMemory (readMemoryChecked a width) := by
  intro s v t ht
  exact congrArg ExecutionContext.memory (readMemoryChecked_ok ht)

/-- So does the question for watched reads. -/
theorem readHits_sameMemory (a : U64) (width : Nat) : Keeps SameMemory (readHits a width) := by
  intro s v t ht
  rw [readHits_run] at ht
  cases ht
  rfl

/-- And for watched writes. -/
theorem writeHits_sameMemory (a : U64) (width : Nat) : Keeps SameMemory (writeHits a width) := by
  intro s v t ht
  rw [writeHits_run] at ht
  cases ht
  rfl

/-- And a change of the state. -/
theorem modifyState_sameMemory (g : CpuState → CpuState) : Keeps SameMemory (modifyState g) := by
  intro s v t ht
  cases ht
  rfl

/-- **An element writes memory at most once.** -/
theorem stringElement_write {hits : U64} (h : stringElement op width p ctx = .ok hits c) :
    ElementWrite op width p ctx.memory c.memory := by
  have hread (a : U64) := readMemoryChecked_sameMemory a width
  have hhits (a : U64) := readHits_sameMemory a width
  have hhits' (a : U64) := writeHits_sameMemory a width
  have hmodify (g : CpuState → CpuState) := modifyState_sameMemory g
  have bind {α β : Type} {x : HandlerM α} {g : α → HandlerM β} (hx : Keeps SameMemory x)
      (hg : ∀ a, Keeps SameMemory (g a)) : Keeps SameMemory (x >>= g) :=
    Keeps.bind (fun hab hbc => Eq.trans hbc hab) hx hg
  have hpure {α : Type} (a : α) : Keeps SameMemory (pure a : HandlerM α) :=
    Keeps.pure (R := SameMemory) (fun _ => rfl) a
  cases op with
  | movs =>
    obtain ⟨value, t, hr, hrest⟩ := of_bind_ok h
    obtain ⟨_, u, hw, htail⟩ := of_bind_ok hrest
    rw [readMemoryChecked_ok hr] at hw
    -- behind the store only the breakpoints are looked up
    have hlast := bind (hhits p.rsi) (fun _ => bind (hhits' p.rdi) fun _ => hpure _) u _ c htail
    refine Or.inr ⟨rfl, toBytes (truncate value width) width, toBytes_length _ _, ?_⟩
    rw [show c.memory = u.memory from hlast]
    exact writeMemoryChecked_write hw
  | stos =>
    rw [stringElement_stos] at h
    obtain ⟨_, u, hw, htail⟩ := of_bind_ok h
    refine Or.inr ⟨rfl, toBytes (readRegister ctx.state .rax &&& maskForWidth width) width,
      toBytes_length _ _, ?_⟩
    rw [show c.memory = u.memory from hhits' p.rdi u _ c htail]
    exact writeMemoryChecked_write hw
  | lods =>
    exact Or.inl (bind (hread p.rsi) (fun _ => bind (hmodify _) fun _ => hhits p.rsi) ctx _ c h)
  | cmps =>
    exact Or.inl (bind (hread p.rsi) (fun _ => bind (hread p.rdi) fun _ => bind (hmodify _) fun _ =>
      bind (hhits p.rsi) fun _ => bind (hhits p.rdi) fun _ => hpure _) ctx _ c h)
  | scas =>
    rw [stringElement_scas] at h
    exact Or.inl (bind (hread p.rdi) (fun _ => bind (hmodify _) fun _ => hhits p.rdi) ctx _ c h)

/-- A turn writes one element, or none. -/
theorem stringIteration_write (h : stringIteration op width ctx = .ok true c) :
    ElementWrite op width (pointersOf ctx.state) ctx.memory c.memory := by
  obtain ⟨hits, c₀, hel, rfl⟩ := stringIteration_goesOn h
  exact (stringElement_write hel : ElementWrite op width _ ctx.memory c₀.memory)

end

end Seven
