import Seven.Handlers.StringPaging

/-!
# Repeats are resumable iteration

What a repeated string instruction means is said without its loop:
`iterateElements` runs the instruction without its prefix, counts `RCX` down,
and goes on until nothing is left or ZF ends a compare. A repeat is that
iteration, cut short in two ways (`RepeatOutcome`): an access may be refused,
and a data breakpoint may be hit with elements still to come. Either way the
state and the memory are those after the elements that were completed, and
`RCX` is the number of the others — so the repeat, run again once the cause is
gone, ends as it would have with the cause gone from the start.

The elements completed before the stop are `Reached`: iterations that went
on. What is to be shown of a stop is shown along this chain, one iteration at
a time.
-/

namespace Seven

open Seven.Lib

/-! ## The specification -/

/-- Same state, memory and instruction; what a handler tells the executor
besides is left out. -/
structure SameMachine (a b : ExecutionContext) : Prop where
  state : a.state = b.state
  memory : a.memory = b.memory
  instr : a.instr = b.instr

/-- The same end, up to what is told the executor. -/
inductive SameOutcome {α : Type} : EStateM.Result ExecutionResult ExecutionContext α →
    EStateM.Result ExecutionResult ExecutionContext α → Prop
  | ok (value : α) {a b : ExecutionContext} (h : SameMachine a b) :
      SameOutcome (.ok value a) (.ok value b)
  | error (r : ExecutionResult) {a b : ExecutionContext} (h : SameMachine a b) :
      SameOutcome (.error r a) (.error r b)

/-- The instruction without its prefix. -/
def Instruction.unprefixed (i : Instruction) : Instruction :=
  { i with hasRepPrefix := false, hasRepnePrefix := false }

/-- The instruction without its prefix, and `RCX` one down. -/
def oneElement (op : StringOp) (width : Nat) : Handler := fun ctx =>
  match stringImpl op width { ctx with instr := ctx.instr.unprefixed } with
  | .ok () c =>
    .ok () { c with state := c.state.setGpr 1 (c.state.gpr 1 - 1#64), instr := ctx.instr }
  | .error r c => .error r { c with instr := ctx.instr }

/-- Does ZF end the compare? `REPE` goes on while equal, `REPNE` while not. -/
def endsOnZf (op : StringOp) (repne : Bool) (rflags : U64) : Bool :=
  op.compares && (if repne then flagSet rflags kFlagZF else !flagSet rflags kFlagZF)

/-- At most so many elements, fewer if ZF ends the compare. -/
def iterateElements (op : StringOp) (width : Nat) : Nat → Handler
  | 0, ctx => .ok () ctx
  | n + 1, ctx =>
    match oneElement op width ctx with
    | .error r c => .error r c
    | .ok () c =>
      if endsOnZf op c.instr.hasRepnePrefix c.state.rflags then .ok () c
      else iterateElements op width n c

/-- `RCX` as a number. -/
def counter (ctx : ExecutionContext) : Nat := (ctx.state.gpr 1).toNat

/-! ## What is told the executor does not matter -/

/-- The relation holds of itself. -/
theorem SameMachine.refl (a : ExecutionContext) : SameMachine a a := ⟨rfl, rfl, rfl⟩

/-- It turns round. -/
theorem SameMachine.symm {a b : ExecutionContext} (h : SameMachine a b) : SameMachine b a :=
  ⟨h.state.symm, h.memory.symm, h.instr.symm⟩

/-- It composes. -/
theorem SameMachine.trans {a b c : ExecutionContext} (h : SameMachine a b)
    (h' : SameMachine b c) : SameMachine a c :=
  ⟨h.state.trans h'.state, h.memory.trans h'.memory, h.instr.trans h'.instr⟩

/-- The machine of one context with the rest of another. -/
def renew (x ctx : ExecutionContext) : ExecutionContext :=
  { x with state := ctx.state, memory := ctx.memory }

section renew

variable {op : StringOp} {width : Nat} {p : StringPointers} {x : ExecutionContext}

/-- A read does not see the rest of the context. -/
theorem readMemoryChecked_renew (address : U64) (width : Nat) :
    Commutes (fun ctx => ctx.instr.code = x.instr.code) (renew x)
      (readMemoryChecked address width) := by
  intro ctx hcode
  cases hread : ctx.memory.read address width .dataRead with
  | some bytes =>
    have hread' : (renew x ctx).memory.read address width .dataRead = some bytes := hread
    rw [readMemoryChecked_some hread, readMemoryChecked_some hread']
    refine ⟨rfl, ?_⟩
    rintro value c ⟨⟩
    exact hcode
  | none =>
    have hread' : (renew x ctx).memory.read address width .dataRead = none := hread
    rw [readMemoryChecked_none hread, readMemoryChecked_none hread']
    unfold pageFaultAt
    rw [hcode]
    refine ⟨rfl, ?_⟩
    rintro value c ⟨⟩

/-- A write does not. -/
theorem writeMemoryChecked_renew (address value : U64) (width : Nat) :
    Commutes (fun ctx => ctx.instr.code = x.instr.code) (renew x)
      (writeMemoryChecked address value width) := by
  intro ctx hcode
  refine ⟨?_, ?_⟩
  · cases haccepts : ctx.memory.accepts address value width with
    | true =>
      have haccepts' : (renew x ctx).memory.accepts address value width = true := haccepts
      rw [writeMemoryChecked_ok haccepts, writeMemoryChecked_ok haccepts']
      rfl
    | false =>
      have haccepts' : (renew x ctx).memory.accepts address value width = false := haccepts
      rw [writeMemoryChecked_error haccepts, writeMemoryChecked_error haccepts']
      unfold pageFaultAt
      rw [hcode]
      rfl
  · intro _ c hc
    rw [(of_writeMemoryChecked_ok hc).2]
    exact hcode

/-- No element does. -/
theorem renew_transparent :
    Transparent (fun ctx => ctx.instr.code = x.instr.code) (renew x) where
  rax := fun _ => rfl
  hits := fun _ _ _ _ _ => rfl
  loads := by
    intro value width ctx hcode
    refine ⟨rfl, ?_⟩
    rintro _ c ⟨⟩
    exact hcode
  compares := by
    intro width lhs rhs ctx hcode
    refine ⟨rfl, ?_⟩
    rintro _ c ⟨⟩
    exact hcode

/-- Nor its run. -/
theorem stringElement_renew {ctx : ExecutionContext} (hcode : ctx.instr.code = x.instr.code) :
    stringElement op width p (renew x ctx) =
      mapState (renew x) (stringElement op width p ctx) :=
  (stringElement_commutes renew_transparent (fun _ => readMemoryChecked_renew _ _)
    (fun _ => readMemoryChecked_renew _ _) (fun _ value => writeMemoryChecked_renew _ value _)
    ctx hcode).1

/-- Renewing from a context of the same machine gives it. -/
theorem renew_eq {a b : ExecutionContext} (h : SameMachine a b) : renew b a = b := by
  unfold renew
  rw [h.state, h.memory]

/-- Noting a breakpoint leaves the machine alone. -/
theorem noteDebugBreak_same {a b : ExecutionContext} (h : SameMachine a b) (hits : U64)
    (goOn goOn' : Bool) :
    SameMachine (noteDebugBreak a hits goOn).1 (noteDebugBreak b hits goOn').1 := by
  obtain ⟨hstate, hinstr⟩ := noteDebugBreak_frame a hits goOn
  obtain ⟨hstate', hinstr'⟩ := noteDebugBreak_frame b hits goOn'
  refine ⟨?_, ?_, ?_⟩
  · rw [hstate, hstate', h.state]
  · rw [noteDebugBreak_memory, noteDebugBreak_memory, h.memory]
  · rw [hinstr, hinstr', h.instr]

/-- An element leaves everything but state and memory alone, and does not
look at it. -/
theorem stringElement_same {a b : ExecutionContext} (h : SameMachine a b) :
    SameOutcome (stringElement op width p a) (stringElement op width p b) := by
  have hb := @stringElement_renew op width p b a (congrArg _ h.instr)
  have ha := @stringElement_renew op width p a a rfl
  rw [renew_eq h] at hb
  rw [renew_eq (SameMachine.refl a)] at ha
  rw [hb, ha]
  cases stringElement op width p a with
  | error r c => exact .error r ⟨rfl, rfl, h.instr⟩
  | ok hits c => exact .ok hits ⟨rfl, rfl, h.instr⟩

/-- Where an element ends, all but state and memory is as it was. -/
theorem stringElement_ok_renew {ctx c : ExecutionContext} {hits : U64}
    (h : stringElement op width p ctx = .ok hits c) : renew ctx c = c := by
  have hself := @stringElement_renew op width p ctx ctx rfl
  rw [renew_eq (SameMachine.refl ctx), h] at hself
  exact (EStateM.Result.ok.inj hself).2.symm

/-- An element leaves the instruction. -/
theorem stringElement_instr {ctx c : ExecutionContext} {hits : U64}
    (h : stringElement op width p ctx = .ok hits c) : c.instr = ctx.instr := by
  rw [← stringElement_ok_renew h]
  rfl

/-- A failed element leaves the rest of the context. -/
theorem stringElement_error_renew {ctx c : ExecutionContext} {r : ExecutionResult}
    (h : stringElement op width p ctx = .error r c) : renew ctx c = c := by
  have hself := @stringElement_renew op width p ctx ctx rfl
  rw [renew_eq (SameMachine.refl ctx), h] at hself
  exact (EStateM.Result.error.inj hself).2.symm

/-- The note of a breakpoint does not see it. -/
theorem noteDebugBreak_renew (x ctx : ExecutionContext) (hits : U64) :
    (noteDebugBreak (renew x ctx) hits false).1 =
      renew (noteDebugBreak x hits false).1 ctx := by
  unfold noteDebugBreak
  split <;> rfl

/-- Saving pointers keeps the machines the same. -/
theorem withPointers_same {a b : ExecutionContext} (h : SameMachine a b) (q : StringPointers)
    (n : Nat) : SameMachine (withPointers op q n a) (withPointers op q n b) :=
  ⟨congrArg (savePointers op true q n) h.state, h.memory, h.instr⟩

/-- A turn on the same machine ends alike. -/
theorem stringIteration_same {a b : ExecutionContext} (h : SameMachine a b) :
    SameOutcome (stringIteration op width a) (stringIteration op width b) := by
  have hel := @stringElement_same op width (pointersOf a.state) a b h
  unfold stringIteration
  rw [← h.state, ← h.instr]
  generalize stringElement op width (pointersOf a.state) a = ra at hel
  generalize stringElement op width (pointersOf a.state) b = rb at hel
  cases hel with
  | error r hsame => exact .error r hsame
  | ok hits hsame =>
    have hflags := congrArg CpuState.rflags hsame.state
    simp only [noteDebugBreak_snd, hflags]
    exact .ok _ (withPointers_same (noteDebugBreak_same hsame hits _ _) _ _)

/-- **A repeat does not see what the executor is told.** -/
theorem stringImpl_same (hwidth : width ≤ 8) :
    ∀ (n : Nat) {a b : ExecutionContext}, counter a = n → a.instr.repeats = true →
      SameMachine a b → SameOutcome (stringImpl op width a) (stringImpl op width b) := by
  intro n
  induction n with
  | zero =>
    intro a b hcount hrep h
    have hzero : a.state.gpr 1 = 0#64 := BitVec.eq_of_toNat_eq hcount
    rw [stringImpl_zero op width a hrep hzero,
      stringImpl_zero op width b (by rw [← h.instr]; exact hrep) (by rw [← h.state]; exact hzero)]
    exact .ok () h
  | succ n ih =>
    intro a b hcount hrep h
    have hne := counter_ne_zero hcount
    have hit := @stringIteration_same op width a b h
    rw [stringImpl_iterate op a hwidth hrep hne,
      stringImpl_iterate op b hwidth (by rw [← h.instr]; exact hrep) (by rw [← h.state]; exact hne)]
    generalize ha : stringIteration op width a = ra at hit
    generalize stringIteration op width b = rb at hit
    -- The two iterations end alike, and go on alike into the induction.
    cases hit with
    | error r hsame => exact .error r hsame
    | ok goOn hsame =>
      cases goOn with
      | false => exact .ok () hsame
      | true =>
        refine ih ?_ ?_ hsame
        · unfold counter at hcount ⊢
          rw [stringIteration_count ha, hcount, Nat.add_sub_cancel]
        · rw [(stringIteration_frame hwidth ha).instr]
          exact hrep

end renew

/-! ## An iteration is the instruction without its prefix -/

section oneElement

variable {op : StringOp} {width : Nat} {ctx c : ExecutionContext}

/-- A repeat's saving counts, a single instruction's does not. -/
theorem savePointers_rep (op : StringOp) (p : StringPointers) (k n : Nat) (s : CpuState) :
    savePointers op true p n s = (savePointers op false p k s).setGpr 1 (BitVec.ofNat 64 n) := by
  cases op <;> rfl

/-- Unmoved pointers save nothing. -/
theorem savePointers_unmoved (op : StringOp) (k : Nat) (s : CpuState) :
    savePointers op false (pointersOf s) k s = s := by
  unfold savePointers pointersOf
  cases op <;>
    simp only [StringOp.usesRsi, StringOp.usesRdi, if_true, Bool.false_eq_true, if_false,
      CpuState.setGpr_gpr]

/-- Does the repeat have a reason to go on behind this element? -/
def continues (op : StringOp) (ctx c : ExecutionContext) : Bool :=
  continueLoop op true ctx.instr.hasRepnePrefix ((ctx.state.gpr 1).toNat - 1) c.state.rflags

/-- When a loop goes on. -/
theorem continues_eq (op : StringOp) (ctx c : ExecutionContext) :
    continues op ctx c = (decide (1 < counter ctx) &&
      !endsOnZf op ctx.instr.hasRepnePrefix c.state.rflags) := by
  have hleft : decide (0 < (ctx.state.gpr 1).toNat - 1) = decide (1 < counter ctx) := by
    unfold counter
    exact decide_eq_decide.mpr (by omega)
  unfold continues continueLoop endsOnZf
  rw [hleft, Bool.true_and]
  congr 1
  cases op.compares <;> cases ctx.instr.hasRepnePrefix <;>
    cases flagSet c.state.rflags kFlagZF <;> rfl

/-- An iteration from its element: a breakpoint ends the repeat as well. -/
theorem stringIteration_of_element {hits : U64}
    (h : stringElement op width (pointersOf ctx.state) ctx = .ok hits c) :
    stringIteration op width ctx = .ok (!decide (hits ≠ 0#64) && continues op ctx c)
      (withPointers op (nextPointers op width ctx.state) ((ctx.state.gpr 1).toNat - 1)
        (noteDebugBreak c hits (continues op ctx c)).1) := by
  unfold stringIteration
  rw [h, ← noteDebugBreak_snd c hits (continues op ctx c)]
  rfl

/-- The instruction without its prefix is one element, the pointers behind
it. -/
theorem oneElement_eq (op : StringOp) (hwidth : width ≤ 8) (ctx : ExecutionContext) :
    oneElement op width ctx =
      match stringElement op width (pointersOf ctx.state) ctx with
      | .error r c => .error r c
      | .ok hits c =>
        .ok () { (noteDebugBreak c hits false).1 with
          state := (savePointers op false (nextPointers op width ctx.state) 0 c.state).setGpr 1
            (ctx.state.gpr 1 - 1#64) } := by
  have hel := @stringElement_renew op width (pointersOf ctx.state)
    { ctx with instr := ctx.instr.unprefixed } ctx rfl
  have hloop : stringImpl op width { ctx with instr := ctx.instr.unprefixed } =
      stringLoop op width false false (flagSet ctx.state.rflags kFlagDF) (0 + 1)
        (pointersOf ctx.state) (renew { ctx with instr := ctx.instr.unprefixed } ctx) := rfl
  unfold oneElement
  rw [hloop]
  unfold stringLoop
  rw [hel]
  -- The element fails with the context untouched, or moves the pointers by one.
  cases hr : stringElement op width (pointersOf ctx.state) ctx with
  | error r c =>
    have hstate : c.state = ctx.state := stringElement_error hr
    have hself := savePointers_unmoved op 1 ctx.state
    have hc := stringElement_error_renew hr
    simp only [mapState, renew, hstate, hself]
    rw [← hc]
    simp only [renew, hstate]
  | ok hits c =>
    have hc := stringElement_ok_renew hr
    have hstop (rflags : U64) : continueLoop op false false 0 rflags = false := rfl
    have hcount : (savePointers op false (nextPointers op width ctx.state) 0 c.state).gpr 1 =
        ctx.state.gpr 1 := by
      have hframe := (stringElement_frame hwidth ctx hits c hr).gpr 1 (by decide)
      rw [← hframe]
      cases op <;> rfl
    have hnoted : noteDebugBreak c hits false = noteDebugBreak (renew ctx c) hits false := by
      rw [hc]
    simp only [mapState, hstop, Bool.not_false, Bool.or_true, if_true, hnoted]
    rw [noteDebugBreak_renew, noteDebugBreak_renew]
    unfold nextPointers at hcount ⊢
    simp only [renew, hcount]
    unfold noteDebugBreak
    split <;> rfl

/-- An iteration that fails is the instruction failing. -/
theorem oneElement_error {r : ExecutionResult} (hwidth : width ≤ 8)
    (h : stringIteration op width ctx = .error r c) :
    oneElement op width ctx = .error r c := by
  rw [oneElement_eq op hwidth]
  unfold stringIteration at h
  cases hel : stringElement op width (pointersOf ctx.state) ctx with
  | error r' c' =>
    rw [hel] at h
    cases h
    rfl
  | ok hits c' =>
    rw [hel] at h
    cases h

/-- The counter less one. -/
theorem sub_one_eq_ofNat {x : U64} (hne : x ≠ 0#64) : x - 1#64 = BitVec.ofNat 64 (x.toNat - 1) := by
  have hpos : x.toNat ≠ 0 := fun h => hne (BitVec.eq_of_toNat_eq h)
  apply BitVec.eq_of_toNat_eq
  have hlt := x.isLt
  simp only [BitVec.toNat_sub, BitVec.toNat_ofNat]
  omega

/-- An iteration that succeeds is the instruction succeeding, but for what is
noted about the breakpoint; and where none was hit, that too. -/
theorem oneElement_ok {goOn : Bool} (hwidth : width ≤ 8) (hne : ctx.state.gpr 1 ≠ 0#64)
    (h : stringIteration op width ctx = .ok goOn c) :
    ∃ d, oneElement op width ctx = .ok () d ∧ SameMachine c d ∧ (goOn = true → c = d) := by
  have hdown := sub_one_eq_ofNat hne
  rw [oneElement_eq op hwidth]
  cases hel : stringElement op width (pointersOf ctx.state) ctx with
  | error r' c' =>
    unfold stringIteration at h
    rw [hel] at h
    cases h
  | ok hits c₀ =>
    -- Without a prefix the count is not touched, so the register is taken down by hand.
    rw [stringIteration_of_element hel] at h
    obtain ⟨hgo, hc⟩ := EStateM.Result.ok.inj h
    have hstate : (savePointers op false (nextPointers op width ctx.state) 0 c₀.state).setGpr 1
        (ctx.state.gpr 1 - 1#64) = savePointers op true (nextPointers op width ctx.state)
          ((ctx.state.gpr 1).toNat - 1) c₀.state := by
      rw [hdown]
      exact (savePointers_rep op _ 0 _ c₀.state).symm
    refine ⟨_, rfl, ?_, ?_⟩
    · rw [← hc, hstate]
      have hnoted := noteDebugBreak_same (SameMachine.refl c₀) hits (continues op ctx c₀) false
      refine ⟨?_, hnoted.memory, hnoted.instr⟩
      show savePointers op true _ _ (noteDebugBreak c₀ hits (continues op ctx c₀)).1.state = _
      rw [(noteDebugBreak_frame c₀ hits _).1]
    · rintro rfl
      simp only [Bool.and_eq_true, Bool.not_eq_true'] at hgo
      have hnone : hits = 0#64 := not_not.mp (of_decide_eq_false hgo.1)
      rw [← hc, hstate, hnone]
      rfl

end oneElement

/-! ## A refused element changes nothing -/

section refused

variable {op : StringOp} {width : Nat} {p : StringPointers} {ctx c : ExecutionContext}
  {r : ExecutionResult}

/-- A refused access at one of the addresses, nothing changed. -/
def RefusedAt (addresses : List U64) (ctx : ExecutionContext) (r : ExecutionResult)
    (c : ExecutionContext) : Prop :=
  c = ctx ∧ ∃ a ∈ addresses, r = pageFaultAt ctx a

/-- A refused read names its address. -/
theorem readMemoryChecked_refused {a : U64} {addresses : List U64} (ha : a ∈ addresses)
    (h : readMemoryChecked a width ctx = .error r c) : RefusedAt addresses ctx r c := by
  cases hread : ctx.memory.read a width .dataRead with
  | some bytes =>
    rw [readMemoryChecked_some hread] at h
    cases h
  | none =>
    rw [readMemoryChecked_none hread] at h
    cases h
    exact ⟨rfl, a, ha, rfl⟩

/-- A refused write names its address. -/
theorem writeMemoryChecked_refused {a value : U64} {addresses : List U64} (ha : a ∈ addresses)
    (hpos : 0 < width) (hfit : WithinPage a width)
    (h : writeMemoryChecked a value width ctx = .error r c) : RefusedAt addresses ctx r c := by
  cases haccepts : ctx.memory.accepts a value width with
  | true =>
    rw [writeMemoryChecked_ok haccepts] at h
    cases h
  | false =>
    rw [writeMemoryChecked_error haccepts] at h
    cases h
    have hkept : ctx.memory.stored a value width = ctx.memory :=
      Memory.write_refused (toBytes_ne_nil hpos value) (by rw [toBytes_length]; exact hfit) haccepts
    refine ⟨?_, a, ha, rfl⟩
    rw [hkept]

/-- **An element that is refused has changed nothing**, not even where it
read before it was to write. -/
theorem stringElement_refused (hpos : 0 < width) (hfit : ∀ a ∈ op.addresses p, WithinPage a width)
    (h : stringElement op width p ctx = .error r c) : RefusedAt (op.addresses p) ctx r c := by
  have hquiet {α : Type} {x : HandlerM α} (hx : Total x) {s : ExecutionContext}
      (hs : x s = .error r c) : RefusedAt (op.addresses p) ctx r c := by
    obtain ⟨a, s', hok⟩ := hx s
    rw [hok] at hs
    cases hs
  -- Each access in its order: the first that is refused is the error.
  cases op with
  | movs =>
    have hrsi : p.rsi ∈ StringOp.movs.addresses p := StringOp.rsi_mem_addresses p rfl
    have hrdi : p.rdi ∈ StringOp.movs.addresses p := StringOp.rdi_mem_addresses p rfl
    rcases of_bind_error h with hread | ⟨value, s, hread, hrest⟩
    · exact readMemoryChecked_refused hrsi hread
    · rw [readMemoryChecked_ok hread] at hrest
      rcases of_bind_error hrest with hwrite | ⟨_, t, _, htail⟩
      · exact writeMemoryChecked_refused hrdi hpos (hfit _ hrdi) hwrite
      · exact hquiet ((readHits_total _ _).bind fun _ => (writeHits_total _ _).bind fun _ =>
          Total.pure _) htail
  | stos =>
    have hrdi : p.rdi ∈ StringOp.stos.addresses p := StringOp.rdi_mem_addresses p rfl
    rw [stringElement_stos] at h
    rcases of_bind_error h with hwrite | ⟨_, t, _, htail⟩
    · exact writeMemoryChecked_refused hrdi hpos (hfit _ hrdi) hwrite
    · exact hquiet (writeHits_total _ _) htail
  | lods =>
    have hrsi : p.rsi ∈ StringOp.lods.addresses p := StringOp.rsi_mem_addresses p rfl
    rcases of_bind_error h with hread | ⟨value, s, _, hrest⟩
    · exact readMemoryChecked_refused hrsi hread
    · exact hquiet ((modifyState_total _).bind fun _ => readHits_total p.rsi width) hrest
  | cmps =>
    have hrsi : p.rsi ∈ StringOp.cmps.addresses p := StringOp.rsi_mem_addresses p rfl
    have hrdi : p.rdi ∈ StringOp.cmps.addresses p := StringOp.rdi_mem_addresses p rfl
    rcases of_bind_error h with hread | ⟨lhs, s, hread, hrest⟩
    · exact readMemoryChecked_refused hrsi hread
    · rw [readMemoryChecked_ok hread] at hrest
      rcases of_bind_error hrest with hread' | ⟨rhs, t, _, htail⟩
      · exact readMemoryChecked_refused hrdi hread'
      · exact hquiet ((modifyState_total _).bind fun _ => (readHits_total _ _).bind fun _ =>
          (readHits_total _ _).bind fun _ => Total.pure _) htail
  | scas =>
    have hrdi : p.rdi ∈ StringOp.scas.addresses p := StringOp.rdi_mem_addresses p rfl
    rw [stringElement_scas] at h
    rcases of_bind_error h with hread | ⟨rhs, t, _, htail⟩
    · exact readMemoryChecked_refused hrdi hread
    · exact hquiet ((modifyState_total _).bind fun _ => readHits_total p.rdi width) htail

/-- A refused turn names an address of its element. -/
theorem stringIteration_refused (hpos : 0 < width)
    (hfit : ∀ a ∈ op.addresses (pointersOf ctx.state), WithinPage a width)
    (h : stringIteration op width ctx = .error r c) :
    RefusedAt (op.addresses (pointersOf ctx.state)) ctx r c := by
  cases hel : stringElement op width (pointersOf ctx.state) ctx with
  | error r' c' =>
    unfold stringIteration at h
    rw [hel] at h
    cases h
    exact stringElement_refused hpos hfit hel
  | ok hits c' =>
    rw [stringIteration_of_element hel] at h
    cases h

end refused

/-! ## The completed elements -/

/-- So many iterations that went on lead from the one context to the other. -/
inductive Reached (op : StringOp) (width : Nat) : Nat → ExecutionContext → ExecutionContext → Prop
  | refl (ctx : ExecutionContext) : Reached op width 0 ctx ctx
  | step {k : Nat} {ctx b c : ExecutionContext} (h : stringIteration op width ctx = .ok true b)
      (hrest : Reached op width k b c) : Reached op width (k + 1) ctx c

/-- The mode stays. -/
theorem RepeatFrame.mode {ctx c : ExecutionContext} (h : RepeatFrame ctx c) :
    c.state.mode = ctx.state.mode := by
  rw [h.state]

/-- Nor does a turn count as a jump. -/
theorem RepeatFrame.taken {ctx c : ExecutionContext} (h : RepeatFrame ctx c) :
    c.controlFlowTaken = ctx.controlFlowTaken := by
  rw [h.context]

section reached

variable {op : StringOp} {width k : Nat} {ctx b c : ExecutionContext}

/-- An iteration that goes on has elements left and no ZF that ends it. -/
theorem stringIteration_left (h : stringIteration op width ctx = .ok true c) :
    counter ctx = counter c + 1 ∧ 0 < counter c ∧
      endsOnZf op c.instr.hasRepnePrefix c.state.rflags = false := by
  have hcount := stringIteration_count h
  cases hel : stringElement op width (pointersOf ctx.state) ctx with
  | error r' c' =>
    unfold stringIteration at h
    rw [hel] at h
    cases h
  | ok hits c₀ =>
    rw [stringIteration_of_element hel] at h
    obtain ⟨hgo, hc⟩ := EStateM.Result.ok.inj h
    -- The loop goes on only with a count left and without the flag that ends it.
    have hcontinues := (Bool.and_eq_true _ _ ▸ hgo).2
    rw [continues_eq, Bool.and_eq_true, decide_eq_true_eq, Bool.not_eq_true'] at hcontinues
    obtain ⟨hmore, hzf⟩ := hcontinues
    have hflags : c.state.rflags = c₀.state.rflags := by
      rw [← hc]
      show (savePointers op true _ _ (noteDebugBreak c₀ hits _).1.state).rflags = _
      rw [savePointers_rflags, (noteDebugBreak_frame c₀ hits _).1]
    have hinstr : c.instr = ctx.instr := by
      rw [← hc, ← stringElement_instr hel]
      exact (noteDebugBreak_frame c₀ hits _).2
    have hdown : counter c = counter ctx - 1 := hcount
    exact ⟨by omega, by omega, by rw [hflags, hinstr]; exact hzf⟩

/-- The turns done and the turns left. -/
theorem Reached.count (h : Reached op width k ctx c) : counter ctx = k + counter c := by
  induction h with
  | refl ctx => exact (Nat.zero_add _).symm
  | step hit _ ih =>
    obtain ⟨hcount, _⟩ := stringIteration_left hit
    omega

/-- The frame of the turns done. -/
theorem Reached.frame (hwidth : width ≤ 8) (h : Reached op width k ctx c) : RepeatFrame ctx c := by
  induction h with
  | refl ctx => exact RepeatFrame.refl ctx
  | step hit _ ih => exact (stringIteration_frame hwidth hit).trans ih

/-- A counter that counts. -/
theorem counter_pos_iff : 0 < counter ctx ↔ ctx.state.gpr 1 ≠ 0#64 := by
  unfold counter
  constructor
  · intro h hzero
    rw [hzero] at h
    exact absurd h (Nat.lt_irrefl 0)
  · intro h
    rcases Nat.eq_zero_or_pos (ctx.state.gpr 1).toNat with h0 | hpos
    · exact absurd (BitVec.eq_of_toNat_eq h0) h
    · exact hpos

/-- A turn was there to take. -/
theorem stringIteration_nonzero (h : stringIteration op width ctx = .ok true c) :
    ctx.state.gpr 1 ≠ 0#64 := by
  apply counter_pos_iff.mp
  have := (stringIteration_left h).1
  omega

/-- The repeat goes on from what was reached. -/
theorem Reached.stringImpl (hwidth : width ≤ 8) (h : Reached op width k ctx c)
    (hrep : ctx.instr.repeats = true) :
    Seven.stringImpl op width ctx = Seven.stringImpl op width c := by
  induction h with
  | refl ctx => rfl
  | @step k ctx b c hit _ ih =>
    have hne := stringIteration_nonzero hit
    rw [stringImpl_iterate op ctx hwidth hrep hne, hit]
    exact ih (by rw [(stringIteration_frame hwidth hit).instr]; exact hrep)

/-- What was reached is what the unprefixed instruction leads to. -/
theorem Reached.iterate (hwidth : width ≤ 8) (h : Reached op width k ctx c) (m : Nat) :
    iterateElements op width (k + m) ctx = iterateElements op width m c := by
  induction h with
  | refl ctx => rw [Nat.zero_add]
  | @step k ctx b c hit _ ih =>
    obtain ⟨hcount, _, hzf⟩ := stringIteration_left hit
    obtain ⟨d, hd, _, hsame⟩ := oneElement_ok hwidth (stringIteration_nonzero hit) hit
    have hbd := hsame rfl
    subst hbd
    rw [show k + 1 + m = (k + m) + 1 by omega, iterateElements, hd]
    simp only [hzf, Bool.false_eq_true, if_false]
    exact ih

/-- The elements ahead of what was reached are elements of the repeat. -/
theorem Reached.elements (h : Reached op width k ctx c) {P : StringPointers → Prop}
    (hall : ∀ p ∈ elementsOf op width ctx, P p) : ∀ p ∈ elementsOf op width c, P p := by
  induction h with
  | refl ctx => exact hall
  | @step k ctx b c hit _ ih =>
    apply ih
    intro p hp
    apply hall
    rw [elementsOf_succ op width ctx (stringIteration_nonzero hit), hit]
    exact List.mem_cons_of_mem _ hp

/-- What holds of all elements holds of the first. -/
theorem elementsOf_first (hne : ctx.state.gpr 1 ≠ 0#64) {P : StringPointers → Prop}
    (hall : ∀ p ∈ elementsOf op width ctx, P p) : P (pointersOf ctx.state) := by
  apply hall
  rw [elementsOf_succ op width ctx hne]
  exact List.mem_cons_self

/-- How a repeat ends: nothing was left, or in the iteration behind the
completed ones. -/
theorem stringImpl_reaches (hwidth : width ≤ 8) :
    ∀ (n : Nat) (ctx : ExecutionContext), counter ctx = n → ctx.instr.repeats = true →
      ∃ k b, Reached op width k ctx b ∧
        ((counter b = 0 ∧ stringImpl op width ctx = .ok () b) ∨
          (0 < counter b ∧ ∃ r c, stringIteration op width b = .error r c ∧
            stringImpl op width ctx = .error r c) ∨
          (0 < counter b ∧ ∃ c, stringIteration op width b = .ok false c ∧
            stringImpl op width ctx = .ok () c)) := by
  intro n
  induction n with
  | zero =>
    intro ctx hcount hrep
    refine ⟨0, ctx, Reached.refl ctx, Or.inl ⟨hcount, ?_⟩⟩
    exact stringImpl_zero op width ctx hrep (BitVec.eq_of_toNat_eq hcount)
  | succ n ih =>
    intro ctx hcount hrep
    have hpos : 0 < counter ctx := by omega
    have hstep := stringImpl_iterate op ctx hwidth hrep (counter_pos_iff.mp hpos)
    -- An error and an end stop in front of this turn; a turn that goes on is one more.
    cases hit : stringIteration op width ctx with
    | error r c =>
      rw [hit] at hstep
      exact ⟨0, ctx, Reached.refl ctx, Or.inr (Or.inl ⟨hpos, r, c, hit, hstep⟩)⟩
    | ok goOn c =>
      rw [hit] at hstep
      cases goOn with
      | false => exact ⟨0, ctx, Reached.refl ctx, Or.inr (Or.inr ⟨hpos, c, hit, hstep⟩)⟩
      | true =>
        have hcount' : counter c = n := by
          have := (stringIteration_left hit).1
          omega
        obtain ⟨k, b, hreached, hend⟩ :=
          ih c hcount' (by rw [(stringIteration_frame hwidth hit).instr]; exact hrep)
        exact ⟨k + 1, b, Reached.step hit hreached, by rw [hstep]; exact hend⟩

end reached

/-! ## Effect and breakpoints of an element -/

/-- What an element does. -/
def elementEffect (op : StringOp) (width : Nat) (p : StringPointers) : Handler :=
  match op with
  | .movs => readMemoryChecked p.rsi width >>= fun value =>
      writeMemoryChecked p.rdi (truncate value width) width
  | .stos => fun ctx =>
      writeMemoryChecked p.rdi (readRegister ctx.state .rax &&& maskForWidth width) width ctx
  | .lods => readMemoryChecked p.rsi width >>= fun value =>
      modifyState fun s => writeRegister s .rax value width
  | .cmps => readMemoryChecked p.rsi width >>= fun lhs => readMemoryChecked p.rdi width >>=
      fun rhs => compareElements width lhs rhs
  | .scas => fun ctx => (readMemoryChecked p.rdi width >>= fun rhs =>
      compareElements width (readRegister ctx.state .rax) rhs) ctx

/-- The data breakpoints its accesses hit. -/
def elementHits (op : StringOp) (width : Nat) (p : StringPointers) (s : CpuState) : U64 :=
  let hits (address : U64) := debugDataBreakpointHits s address (BitVec.ofNat 64 width)
  match op with
  | .movs => hits p.rsi true false ||| hits p.rdi false true
  | .stos => hits p.rdi false true
  | .lods => hits p.rsi true false
  | .cmps => hits p.rsi true false ||| hits p.rdi true false
  | .scas => hits p.rdi true false

section effect

variable {op : StringOp} {width : Nat} {p : StringPointers} {ctx c : ExecutionContext}

/-- An element is its effect and the hits it reports. -/
theorem stringElement_eq (op : StringOp) (width : Nat) (p : StringPointers)
    (ctx : ExecutionContext) :
    stringElement op width p ctx =
      (elementEffect op width p >>= fun _ => fun c => .ok (elementHits op width p c.state) c) ctx := by
  -- the breakpoints are looked up behind the effect
  have hassoc {α : Type} (x : HandlerM α) (f : α → Handler) :
      ((x >>= f) >>= fun _ => fun c => .ok (elementHits op width p c.state) c) ctx =
        (x >>= fun a => f a >>= fun _ => fun c => .ok (elementHits op width p c.state) c) ctx :=
    congrFun (bind_assoc x f _) ctx
  cases op with
  | movs => exact (hassoc (readMemoryChecked p.rsi width) _).symm
  | stos => rfl
  | lods => exact (hassoc (readMemoryChecked p.rsi width) _).symm
  | cmps =>
    refine Eq.trans ?_ (hassoc (readMemoryChecked p.rsi width) _).symm
    cases hread : readMemoryChecked p.rsi width ctx with
    | error r s => rw [bind_error hread]; exact bind_error hread
    | ok lhs s =>
      rw [bind_ok hread]
      refine (bind_ok hread).trans ?_
      exact (congrFun (bind_assoc (readMemoryChecked p.rdi width) _ _) s).symm
  | scas => exact (hassoc (readMemoryChecked p.rdi width) _).symm

/-- An element whose effect succeeds. -/
theorem stringElement_of_effect (h : elementEffect op width p ctx = .ok () c) :
    stringElement op width p ctx = .ok (elementHits op width p c.state) c := by
  rw [stringElement_eq]
  exact bind_ok h

/-- An element that succeeds is its effect and the breakpoints found there. -/
theorem effect_of_stringElement {hits : U64} (h : stringElement op width p ctx = .ok hits c) :
    elementEffect op width p ctx = .ok () c ∧ hits = elementHits op width p c.state := by
  rw [stringElement_eq] at h
  obtain ⟨_, s, heffect, hrest⟩ := of_bind_ok h
  cases hrest
  exact ⟨heffect, rfl⟩

/-- The hits depend on the debug registers and the mode. -/
theorem elementHits_congr {s t : CpuState} (hdr : t.dr = s.dr) (hmode : t.mode = s.mode) :
    elementHits op width p t = elementHits op width p s := by
  have hhits (address size : U64) (isRead isWrite : Bool) :
      debugDataBreakpointHits t address size isRead isWrite =
        debugDataBreakpointHits s address size isRead isWrite := by
    unfold debugDataBreakpointHits dataBreakpointHit maskLinearAddress
    rw [hdr, hmode]
  unfold elementHits
  simp only [hhits]

/-- The registers of the breakpoints are not touched. -/
theorem elementHits_frame (h : RepeatFrame ctx c) :
    elementHits op width p c.state = elementHits op width p ctx.state :=
  elementHits_congr (by rw [h.state]) (by rw [h.state])

end effect

/-! ## Removing the cause -/

/-- The memory is changed in a way that an access within one page that
succeeds cannot tell, before and after the change. `I` is what the change
relies on. -/
structure MemoryRepair (I : Memory → Prop) (width : Nat) (repair : Memory → Memory) : Prop where
  reads : ∀ m a bytes, I m → WithinPage a width → m.read a width .dataRead = some bytes →
    (repair m).read a width .dataRead = some bytes
  writes : ∀ m a value, I m → WithinPage a width → m.accepts a value width = true →
    (repair m).accepts a value width = true ∧
      (repair m).stored a value width = repair (m.stored a value width) ∧
      I (m.stored a value width)

/-- The context with its memory repaired. -/
def repaired (repair : Memory → Memory) (ctx : ExecutionContext) : ExecutionContext :=
  { ctx with memory := repair ctx.memory }

/-- The context with other debug registers. -/
def withDebug (dr : Fin 16 → U64) (ctx : ExecutionContext) : ExecutionContext :=
  { ctx with state := { ctx.state with dr := dr } }

section repair

variable {I : Memory → Prop} {repair : Memory → Memory} {op : StringOp} {width k : Nat}
  {p : StringPointers} {ctx c : ExecutionContext}

/-- A read is carried along a repair. -/
theorem MemoryRepair.readMemoryChecked (h : MemoryRepair I width repair) {a : U64}
    (hfit : WithinPage a width) :
    Carries (fun ctx => I ctx.memory) (repaired repair) (readMemoryChecked a width) := by
  intro ctx hI value c hok
  have hc := readMemoryChecked_ok hok
  subst hc
  cases hread : c.memory.read a width .dataRead with
  | some bytes =>
    rw [readMemoryChecked_some hread] at hok
    cases hok
    exact ⟨readMemoryChecked_some (h.reads _ _ _ hI hfit hread), hI⟩
  | none =>
    rw [readMemoryChecked_none hread] at hok
    cases hok

/-- A write is carried along a repair. -/
theorem MemoryRepair.writeMemoryChecked (h : MemoryRepair I width repair) {a : U64}
    (hfit : WithinPage a width) (value : U64) :
    Carries (fun ctx => I ctx.memory) (repaired repair) (writeMemoryChecked a value width) := by
  intro ctx hI _ c hok
  obtain ⟨haccepts, rfl⟩ := of_writeMemoryChecked_ok hok
  obtain ⟨haccepts', hstored, hI'⟩ := h.writes _ _ _ hI hfit haccepts
  refine ⟨?_, hI'⟩
  have hwrite : Seven.writeMemoryChecked a value width (repaired repair ctx) =
      .ok () { ctx with memory := (repair ctx.memory).stored a value width } :=
    writeMemoryChecked_ok haccepts'
  rw [hwrite]
  rw [hstored]
  rfl

/-- A change of the state is carried along a repair. -/
theorem modifyState_carries (g : CpuState → CpuState) :
    Carries (fun ctx => I ctx.memory) (repaired repair) (modifyState g) := by
  rintro ctx hI _ c ⟨⟩
  exact ⟨rfl, hI⟩

/-- **A completed element is completed in the repaired memory as well.** -/
theorem MemoryRepair.element (h : MemoryRepair I width repair)
    (hfit : ∀ a ∈ op.addresses p, WithinPage a width) :
    Carries (fun ctx => I ctx.memory) (repaired repair) (elementEffect op width p) := by
  have hread (a : U64) (ha : a ∈ op.addresses p) := h.readMemoryChecked (hfit a ha)
  have hwrite (a : U64) (ha : a ∈ op.addresses p) := h.writeMemoryChecked (hfit a ha)
  cases op with
  | movs =>
    exact (hread _ (StringOp.rsi_mem_addresses p rfl)).bind fun value =>
      hwrite _ (StringOp.rdi_mem_addresses p rfl) _
  | stos =>
    intro ctx
    exact hwrite _ (StringOp.rdi_mem_addresses p rfl)
      (readRegister ctx.state .rax &&& maskForWidth width) ctx
  | lods =>
    exact (hread _ (StringOp.rsi_mem_addresses p rfl)).bind fun value => modifyState_carries _
  | cmps =>
    exact (hread _ (StringOp.rsi_mem_addresses p rfl)).bind fun lhs =>
      (hread _ (StringOp.rdi_mem_addresses p rfl)).bind fun rhs => modifyState_carries _
  | scas =>
    intro ctx
    exact ((hread _ (StringOp.rdi_mem_addresses p rfl)).bind fun rhs =>
      modifyState_carries _) ctx

/-- A turn is carried along a repair. -/
theorem MemoryRepair.iteration (h : MemoryRepair I width repair)
    (hfit : ∀ a ∈ op.addresses (pointersOf ctx.state), WithinPage a width) (hI : I ctx.memory)
    (hit : stringIteration op width ctx = .ok true c) :
    stringIteration op width (repaired repair ctx) = .ok true (repaired repair c) ∧ I c.memory := by
  obtain ⟨hits, c₀, hel, rfl⟩ := stringIteration_goesOn hit
  obtain ⟨heffect, hhits⟩ := effect_of_stringElement hel
  obtain ⟨heffect', hI'⟩ := h.element hfit ctx hI () c₀ heffect
  have hel' := stringElement_of_effect heffect'
  rw [show elementHits op width (pointersOf ctx.state) (repaired repair c₀).state = hits from
    hhits.symm] at hel'
  refine ⟨?_, hI'⟩
  rw [stringIteration_of_element hel] at hit
  obtain ⟨hgo, hc⟩ := EStateM.Result.ok.inj hit
  have hzero : hits = 0#64 := by
    have hstop := (Bool.and_eq_true _ _ ▸ hgo).1
    simp only [Bool.not_eq_true'] at hstop
    exact not_not.mp (of_decide_eq_false hstop)
  subst hzero
  refine (@stringIteration_of_element op width (repaired repair ctx) _ _ hel').trans ?_
  exact congrArg (EStateM.Result.ok · (repaired repair (withPointers op
    (nextPointers op width ctx.state) ((ctx.state.gpr 1).toNat - 1) c₀))) hgo

/-- The turns up to an interruption are. -/
theorem MemoryRepair.reached (h : MemoryRepair I width repair) {b : ExecutionContext}
    (hreached : Reached op width k ctx b) :
    (∀ p ∈ elementsOf op width ctx, ∀ a ∈ op.addresses p, WithinPage a width) → I ctx.memory →
      Reached op width k (repaired repair ctx) (repaired repair b) := by
  induction hreached with
  | refl ctx => exact fun _ _ => Reached.refl _
  | @step k ctx d b hit hrest ih =>
    intro hfit hI
    have hne := stringIteration_nonzero hit
    obtain ⟨hit', hI'⟩ := h.iteration (elementsOf_first hne hfit) hI hit
    exact Reached.step hit' (ih ((Reached.step hit (Reached.refl d)).elements hfit) hI')

/-- Supplying a page that is missing repairs the memory. -/
theorem supply_memoryRepair (supplies : Nat → PageSupply) (page : Nat) (hpos : 0 < width)
    (hwidth : width ≤ 8) :
    MemoryRepair (fun m => m.Paged ∧ m.pages[page]? = none) width (Memory.supply supplies · page)
    where
  reads := by
    rintro m a bytes ⟨hpaged, hnone⟩ hfit hread
    -- A page that is missing refuses the access, so the page supplied is another one.
    have hne : page ≠ pageOf a := by
      rintro rfl
      rw [Memory.read_missing (hpaged.answer a width) hpos hfit hnone] at hread
      cases hread
    rw [Memory.read_supply (hpaged.answer a width) hpos hfit hne]
    exact hread
  writes := by
    rintro m a value ⟨hpaged, hnone⟩ hfit haccepts
    have hsrc := toBytes_ne_nil hpos value
    have hfit' : WithinPage a (toBytes value width).length := by
      rw [toBytes_length]
      exact hfit
    have hne : page ≠ pageOf a := by
      rintro rfl
      unfold Memory.accepts at haccepts
      rw [Memory.write_missing (hpaged.answer a _) hsrc hfit' hnone] at haccepts
      cases haccepts
    have hwrite := @Memory.write_supply supplies m page a _ (hpaged.answer a _) hsrc hfit' hne .dataWrite
    have hsame := Memory.stored_sameAccess m a value hwidth
    have hmissing : Memory.Missing [page] m := fun p hp => by
      rw [List.mem_singleton.mp hp]
      exact hnone
    exact ⟨(congrArg Prod.snd hwrite).trans haccepts, congrArg Prod.fst hwrite,
      hpaged.sameAccess hsame, hmissing.sameAccess hsame page List.mem_cons_self⟩

/-- Raising the permissions of a page repairs the memory. -/
theorem allow_memoryRepair (permissions : MemoryPermissionMask) (page : Nat) (hpos : 0 < width)
    (hwidth : width ≤ 8) :
    MemoryRepair (fun m => m.Paged ∧ Memory.Raisable permissions page m) width
      (Memory.allow permissions page) where
  reads := by
    rintro m a bytes ⟨hpaged, hraisable⟩ hfit hread
    exact Memory.read_allow (hpaged.answer a width) hraisable hpos hfit hread
  writes := by
    rintro m a value ⟨hpaged, hraisable⟩ hfit haccepts
    have hfit' : WithinPage a (toBytes value width).length := by
      rw [toBytes_length]
      exact hfit
    have hwrite := Memory.write_allow (hpaged.answer a _) hraisable (toBytes_ne_nil hpos value) hfit'
      haccepts
    have hsame := Memory.stored_sameAccess m a value hwidth
    exact ⟨congrArg Prod.snd hwrite, congrArg Prod.fst hwrite, hpaged.sameAccess hsame,
      hraisable.sameAccess hsame⟩

/-- The effect of an element does not look at the debug registers. -/
theorem elementEffect_withDebug (dr : Fin 16 → U64) :
    Commutes (fun _ => True) (withDebug dr) (elementEffect op width p) := by
  have hread (a : U64) := readMemoryChecked_state (fun s => { s with dr := dr }) a width
  have hwrite (a value : U64) :=
    writeMemoryChecked_state (fun s => { s with dr := dr }) a value width
  -- The debug registers are read by the looks at the breakpoints alone.
  have hmodify (g : CpuState → CpuState) (hg : ∀ s, g { s with dr := dr } = { g s with dr := dr }) :
      Commutes (fun _ => True) (withDebug dr) (modifyState g) := by
    intro ctx _
    refine ⟨?_, fun _ _ _ => trivial⟩
    show EStateM.Result.ok () { ctx with state := g { ctx.state with dr := dr } } = _
    rw [hg]
    rfl
  cases op with
  | movs => exact (hread p.rsi).bind fun value => hwrite p.rdi _
  | stos =>
    intro ctx
    exact hwrite p.rdi (readRegister ctx.state .rax &&& maskForWidth width) ctx
  | lods => exact (hread p.rsi).bind fun value => hmodify _ fun _ => rfl
  | cmps => exact (hread p.rsi).bind fun lhs => (hread p.rdi).bind fun rhs => hmodify _ fun _ => rfl
  | scas =>
    intro ctx
    exact ((hread p.rdi).bind fun rhs => hmodify (fun s => setFlags s (setSubFlags s.rflags
      (readRegister ctx.state .rax &&& maskForWidth width) (rhs &&& maskForWidth width)
      (truncate ((readRegister ctx.state .rax &&& maskForWidth width) -
        (rhs &&& maskForWidth width)) width) width false)) fun _ => rfl) ctx

/-- A completed iteration, with debug registers that its element does not
hit: the breakpoint is what had ended the repeat, if anything had. -/
theorem stringIteration_withDebug {dr : Fin 16 → U64} {hits : U64}
    (hquiet : elementHits op width (pointersOf ctx.state) (withDebug dr c).state = 0#64)
    (hel : stringElement op width (pointersOf ctx.state) ctx = .ok hits c) :
    stringIteration op width (withDebug dr ctx) = .ok (continues op ctx c)
      (withDebug dr (withPointers op (nextPointers op width ctx.state)
        ((ctx.state.gpr 1).toNat - 1) c)) := by
  obtain ⟨heffect, _⟩ := effect_of_stringElement hel
  have heffect' := ((elementEffect_withDebug dr).ok trivial heffect).1
  have hel' := stringElement_of_effect heffect'
  rw [hquiet] at hel'
  refine (@stringIteration_of_element op width (withDebug dr ctx) _ _ hel').trans ?_
  have hsave : withPointers op (nextPointers op width ctx.state) ((ctx.state.gpr 1).toNat - 1)
      (withDebug dr c) = withDebug dr (withPointers op (nextPointers op width ctx.state)
        ((ctx.state.gpr 1).toNat - 1) c) := by
    cases op <;> rfl
  show EStateM.Result.ok (continues op ctx c) (withPointers op (nextPointers op width ctx.state)
    ((ctx.state.gpr 1).toNat - 1) (withDebug dr c)) = _
  rw [hsave]

/-- Other debug registers that watch none of the elements change no turn. -/
theorem Reached.withDebug {dr : Fin 16 → U64} (hwidth : width ≤ 8) {b : ExecutionContext}
    (hreached : Reached op width k ctx b) :
    (∀ p ∈ elementsOf op width ctx, elementHits op width p { ctx.state with dr := dr } = 0#64) →
      Reached op width k (Seven.withDebug dr ctx) (Seven.withDebug dr b) := by
  induction hreached with
  | refl ctx => exact fun _ => Reached.refl _
  | @step k ctx d b hit hrest ih =>
    intro hquiet
    have hne := stringIteration_nonzero hit
    obtain ⟨hits, c₀, hel, hd⟩ := stringIteration_goesOn hit
    have hframe := (stringElement_frame hwidth ctx hits c₀ hel).toRepeatFrame
    -- The element hits nothing under the other debug registers either.
    have hquiet₀ : elementHits op width (pointersOf ctx.state) (Seven.withDebug dr c₀).state =
        0#64 := by
      rw [← elementsOf_first hne hquiet]
      exact elementHits_congr rfl hframe.mode
    have hstep := stringIteration_withDebug hquiet₀ hel
    have hgo : continues op ctx c₀ = true := by
      rw [stringIteration_of_element hel] at hit
      exact (Bool.and_eq_true _ _ ▸ (EStateM.Result.ok.inj hit).1).2
    rw [hgo, ← hd] at hstep
    refine Reached.step hstep (ih ?_)
    have hall := (Reached.step hit (Reached.refl d)).elements hquiet
    intro p hp
    rw [← hall p hp]
    exact elementHits_congr rfl (stringIteration_frame hwidth hit).mode

end repair

/-! ## The result -/

/-- The repeat has stopped behind `k` elements, all the others ahead: state
and memory are those the unprefixed instruction leaves after `k` times, and
the rest of the iteration goes on from there. -/
structure StopsAfter (op : StringOp) (width : Nat) (ctx : ExecutionContext) (k : Nat)
    (e : ExecutionContext) : Prop where
  less : k < counter ctx
  remaining : counter e = counter ctx - k
  elements : ∃ c, iterateElements op width k ctx = .ok () c ∧ SameMachine e c ∧
    iterateElements op width (counter ctx) ctx = iterateElements op width (counter ctx - k) c

/-- How a repeat ends. -/
inductive RepeatOutcome (op : StringOp) (width : Nat) (ctx : ExecutionContext) :
    EStateM.Result ExecutionResult ExecutionContext Unit → Prop
  /-- As the iteration does, `RIP` to move on. -/
  | finished {e c : ExecutionContext}
      (hrun : iterateElements op width (counter ctx) ctx = .ok () c) (hsame : SameMachine e c)
      (hmoves : e.controlFlowTaken = ctx.controlFlowTaken) : RepeatOutcome op width ctx (.ok () e)
  /-- In front of an element that is refused. -/
  | fault {k : Nat} {e : ExecutionContext} {r : ExecutionResult} (hstop : StopsAfter op width ctx k e)
      (hnext : oneElement op width e = .error r e)
      (hrefused : RefusedAt (op.addresses (pointersOf e.state)) e r e) :
      RepeatOutcome op width ctx (.error r e)
  /-- Behind an element that hit a data breakpoint, `RIP` to stay. -/
  | breakpoint {k : Nat} {e : ExecutionContext} (hstop : StopsAfter op width ctx k e) (hpos : 0 < k)
      (hstays : e.controlFlowTaken = true)
      (hhit : ∃ p ∈ elementsOf op width ctx, elementHits op width p ctx.state ≠ 0#64) :
      RepeatOutcome op width ctx (.ok () e)

section outcome

variable {op : StringOp} {width k : Nat} {ctx b e : ExecutionContext}

/-- Where the loop has got to, it stops at the next hit or the end. -/
theorem Reached.stopsAfter (hwidth : width ≤ 8) (h : Reached op width k ctx b)
    (hpos : 0 < counter b) : StopsAfter op width ctx k b where
  less := by
    have := h.count
    omega
  remaining := by
    have := h.count
    omega
  elements := by
    refine ⟨b, h.iterate hwidth 0, SameMachine.refl b, ?_⟩
    rw [h.count, Nat.add_sub_cancel_left]
    exact h.iterate hwidth (counter b)

/-- The last iteration of a repeat: it ended because nothing was left or ZF
said so, or a breakpoint was hit and the rest is still to come. -/
theorem stringIteration_last (h : stringIteration op width b = .ok false e) :
    ∃ hits c₀, stringElement op width (pointersOf b.state) b = .ok hits c₀ ∧
      e = withPointers op (nextPointers op width b.state) (counter b - 1)
        (noteDebugBreak c₀ hits (continues op b c₀)).1 ∧
      (continues op b c₀ = true → hits ≠ 0#64) := by
  cases hel : stringElement op width (pointersOf b.state) b with
  | error r c =>
    unfold stringIteration at h
    rw [hel] at h
    cases h
  | ok hits c₀ =>
    rw [stringIteration_of_element hel] at h
    obtain ⟨hgo, he⟩ := EStateM.Result.ok.inj h
    refine ⟨hits, c₀, rfl, he.symm, ?_⟩
    intro hcontinues hzero
    rw [hcontinues, hzero] at hgo
    cases hgo

/-- An iteration leaves the count one down. -/
theorem counter_withPointers (p : StringPointers) (c : ExecutionContext) :
    counter (withPointers op p (counter b - 1) c) = counter b - 1 := by
  show ((savePointers op true _ _ _).gpr 1).toNat = _
  have hlt := (b.state.gpr 1).isLt
  rw [savePointers_count, BitVec.toNat_ofNat]
  exact Nat.mod_eq_of_lt (by unfold counter; omega)

/-- The iteration through the last element the repeat has done. -/
theorem Reached.iterate_last {hits : U64} {c₀ d : ExecutionContext} (hwidth : width ≤ 8)
    (hreached : Reached op width k ctx b)
    (hel : stringElement op width (pointersOf b.state) b = .ok hits c₀)
    (hd : oneElement op width b = .ok () d)
    (hsame : SameMachine (withPointers op (nextPointers op width b.state) (counter b - 1)
      (noteDebugBreak c₀ hits (continues op b c₀)).1) d) (m : Nat) :
    iterateElements op width (k + (m + 1)) ctx =
      if endsOnZf op b.instr.hasRepnePrefix c₀.state.rflags then .ok () d
      else iterateElements op width m d := by
  -- what ZF says of the element is read off where the iteration ended
  have hzf : endsOnZf op d.instr.hasRepnePrefix d.state.rflags =
      endsOnZf op b.instr.hasRepnePrefix c₀.state.rflags := by
    rw [← hsame.instr, ← hsame.state]
    show endsOnZf op (noteDebugBreak c₀ hits _).1.instr.hasRepnePrefix
      (savePointers op true _ _ (noteDebugBreak c₀ hits _).1.state).rflags = _
    rw [savePointers_rflags, (noteDebugBreak_frame c₀ hits _).1,
      (noteDebugBreak_frame c₀ hits _).2, stringElement_instr hel]
  rw [hreached.iterate hwidth, iterateElements, hd]
  simp only [hzf]

/-- The last iteration ends the repeat as the iteration of the unprefixed
instruction ends, unless a breakpoint stops it with elements left. -/
theorem Reached.outcome_last (hwidth : width ≤ 8) (hreached : Reached op width k ctx b)
    (hleft : 0 < counter b) (hit : stringIteration op width b = .ok false e) :
    RepeatOutcome op width ctx (.ok () e) := by
  have hne := counter_pos_iff.mp hleft
  obtain ⟨d, hd, hsame, _⟩ := oneElement_ok hwidth hne hit
  obtain ⟨hits, c₀, hel, rfl, hhit⟩ := stringIteration_last hit
  have hframe := hreached.frame hwidth
  have helframe := (stringElement_frame hwidth b hits c₀ hel).toRepeatFrame
  have hcount := hreached.count
  obtain ⟨n, hn⟩ : ∃ n, counter b = n + 1 := ⟨counter b - 1, by omega⟩
  have hiterate := hreached.iterate_last hwidth hel hd hsame
  have hcontinues := continues_eq op b c₀
  cases hgo : continues op b c₀ with
  | false =>
    rw [hgo] at hcontinues hsame
    -- the count has run out, or the zero flag ends the repeat
    refine .finished (c := d) ?_ hsame ?_
    · rw [hcount, hn, hiterate]
      by_cases hends : endsOnZf op b.instr.hasRepnePrefix c₀.state.rflags = true
      · rw [if_pos hends]
      · rw [if_neg hends]
        have hlast : n = 0 := by
          rw [Bool.eq_false_iff.mpr hends, Bool.not_false, Bool.and_true] at hcontinues
          have := of_decide_eq_false hcontinues.symm
          omega
        rw [hlast]
        rfl
    · show (noteDebugBreak c₀ hits false).1.controlFlowTaken = _
      rw [noteDebugBreak_taken, Bool.and_false, Bool.or_false, helframe.taken, hframe.taken]
  | true =>
    rw [hgo] at hcontinues hsame
    -- it would go on, so a breakpoint has stopped it
    have hmore := Bool.and_eq_true _ _ ▸ hcontinues.symm
    have hn1 : 1 < counter b := of_decide_eq_true hmore.1
    have hends : endsOnZf op b.instr.hasRepnePrefix c₀.state.rflags = false := by
      rw [← Bool.not_eq_true', hmore.2]
    have hremaining := @counter_withPointers op b (nextPointers op width b.state)
      (noteDebugBreak c₀ hits true).1
    refine .breakpoint (k := k + 1) ⟨by omega, by omega, d, ?_, hsame, ?_⟩ (Nat.succ_pos k) ?_ ?_
    · rw [hiterate 0, hends]
      rfl
    · rw [hcount, hn, hiterate n, hends]
      show iterateElements op width n d = _
      rw [show k + (n + 1) - (k + 1) = n by omega]
    · show (noteDebugBreak c₀ hits true).1.controlFlowTaken = true
      rw [noteDebugBreak_taken, decide_eq_true (hhit hgo), Bool.true_and, Bool.or_true]
    · refine ⟨pointersOf b.state, elementsOf_first hne (hreached.elements fun p hp => hp), ?_⟩
      rw [← elementHits_frame hframe, ← elementHits_frame helframe,
        ← (effect_of_stringElement hel).2]
      exact hhit hgo

/-- **Every end of a repeat is one of the three.** -/
theorem stringImpl_outcome (hpos : 0 < width) (hwidth : width ≤ 8)
    (hrep : ctx.instr.repeats = true)
    (hfit : ∀ p ∈ elementsOf op width ctx, ∀ a ∈ op.addresses p, WithinPage a width) :
    RepeatOutcome op width ctx (stringImpl op width ctx) := by
  obtain ⟨k, b, hreached, hend⟩ :=
    @stringImpl_reaches op width hwidth (counter ctx) ctx rfl hrep
  rcases hend with ⟨hzero, hrun⟩ | ⟨hleft, r, c, hit, hrun⟩ | ⟨hleft, e, hit, hrun⟩
  · rw [hrun]
    refine .finished ?_ (SameMachine.refl b) (hreached.frame hwidth).taken
    rw [hreached.count, hreached.iterate hwidth, hzero]
    rfl
  · rw [hrun]
    have hrefused := stringIteration_refused hpos
      (elementsOf_first (counter_pos_iff.mp hleft) (hreached.elements hfit)) hit
    have hc : c = b := hrefused.1
    rw [hc] at hit hrefused ⊢
    exact .fault (hreached.stopsAfter hwidth hleft) (oneElement_error hwidth hit) hrefused
  · rw [hrun]
    exact hreached.outcome_last hwidth hleft hit

/-- **After a fault** the repeat goes on, in a memory without its cause, as it
would have run with the cause gone from the start. -/
theorem stringImpl_resumes_fault (hpos : 0 < width) (hwidth : width ≤ 8)
    (hrep : ctx.instr.repeats = true)
    (hfit : ∀ p ∈ elementsOf op width ctx, ∀ a ∈ op.addresses p, WithinPage a width)
    {r : ExecutionResult} (hrun : stringImpl op width ctx = .error r e)
    {I : Memory → Prop} {repair : Memory → Memory} (hrepair : MemoryRepair I width repair)
    (hI : I ctx.memory) {x : ExecutionContext} (hx : SameMachine x (repaired repair e)) :
    SameOutcome (stringImpl op width x) (stringImpl op width (repaired repair ctx)) := by
  obtain ⟨k, b, hreached, hend⟩ :=
    @stringImpl_reaches op width hwidth (counter ctx) ctx rfl hrep
  -- The turns before the fault run on the repaired memory as they did.
  have hreached' := hrepair.reached hreached hfit hI
  have hbrep : b.instr.repeats = true := by
    rw [(hreached.frame hwidth).instr]
    exact hrep
  rcases hend with ⟨_, hok⟩ | ⟨hleft, r', c, hit, herror⟩ | ⟨_, c, _, hok⟩
  · cases hrun.symm.trans hok
  · -- the repeat stopped where it is now taken up again
    have hrefused := stringIteration_refused hpos
      (elementsOf_first (counter_pos_iff.mp hleft) (hreached.elements hfit)) hit
    have hec : e = c := (EStateM.Result.error.inj (hrun.symm.trans herror)).2
    have heb : e = b := hec.trans hrefused.1
    rw [hreached'.stringImpl hwidth hrep, ← heb]
    refine stringImpl_same hwidth (counter x) rfl ?_ hx
    rw [hx.instr]
    show e.instr.repeats = true
    rw [heb]
    exact hbrep
  · cases hrun.symm.trans hok

/-- **After a data breakpoint** the repeat goes on, with debug registers its
elements do not hit, as it would have run with these from the start. -/
theorem stringImpl_resumes_breakpoint (hwidth : width ≤ 8) (hrep : ctx.instr.repeats = true)
    (hrun : stringImpl op width ctx = .ok () e) (hfresh : ctx.controlFlowTaken = false)
    (hstays : e.controlFlowTaken = true) {dr : Fin 16 → U64}
    (hquiet : ∀ p ∈ elementsOf op width ctx,
      elementHits op width p { ctx.state with dr := dr } = 0#64)
    {x : ExecutionContext} (hx : SameMachine x (withDebug dr e)) :
    SameOutcome (stringImpl op width x) (stringImpl op width (withDebug dr ctx)) := by
  obtain ⟨k, b, hreached, hend⟩ :=
    @stringImpl_reaches op width hwidth (counter ctx) ctx rfl hrep
  have hframe := hreached.frame hwidth
  have htaken : b.controlFlowTaken = false := by
    rw [← hfresh]
    exact hframe.taken
  rcases hend with ⟨_, hok⟩ | ⟨_, r, c, _, herror⟩ | ⟨hleft, c, hit, hok⟩
  · have heb := (EStateM.Result.ok.inj (hrun.symm.trans hok)).2
    rw [heb, htaken] at hstays
    cases hstays
  · cases hrun.symm.trans herror
  · have hec := (EStateM.Result.ok.inj (hrun.symm.trans hok)).2
    obtain ⟨hits, c₀, hel, he, hhit⟩ := stringIteration_last hit
    have helframe := (stringElement_frame hwidth b hits c₀ hel).toRepeatFrame
    have htaken₀ := helframe.taken.trans htaken
    have hne := counter_pos_iff.mp hleft
    cases hgo : continues op b c₀ with
    | false =>
      rw [hec, he, hgo] at hstays
      have hmoves := noteDebugBreak_taken c₀ hits false
      rw [Bool.and_false, Bool.or_false, htaken₀] at hmoves
      cases hmoves.symm.trans hstays
    | true =>
      have hquiet₀ : elementHits op width (pointersOf b.state) (withDebug dr c₀).state = 0#64 := by
        rw [← elementsOf_first hne (hreached.elements hquiet)]
        exact elementHits_congr rfl (helframe.mode.trans hframe.mode)
      have hstep := stringIteration_withDebug hquiet₀ hel
      rw [hgo] at hstep
      have hinstr : (withDebug dr b).instr.repeats = true := by
        show b.instr.repeats = true
        rw [hframe.instr]
        exact hrep
      rw [(hreached.withDebug hwidth hquiet).stringImpl hwidth hrep,
        stringImpl_iterate op (withDebug dr b) hwidth hinstr hne, hstep]
      -- what was noted about the breakpoint is all that differs
      have hnoted := noteDebugBreak_same (SameMachine.refl c₀) hits (continues op b c₀) false
      have hsame : SameMachine (withDebug dr e) (withDebug dr (withPointers op
          (nextPointers op width b.state) ((b.state.gpr 1).toNat - 1) c₀)) := by
        rw [hec, he]
        refine ⟨?_, ?_, ?_⟩
        · show { savePointers op true _ _ (noteDebugBreak c₀ hits _).1.state with dr := dr } = _
          rw [(noteDebugBreak_frame c₀ hits _).1]
          rfl
        · show (noteDebugBreak c₀ hits _).1.memory = _
          rw [noteDebugBreak_memory]
          rfl
        · show (noteDebugBreak c₀ hits _).1.instr = _
          rw [(noteDebugBreak_frame c₀ hits _).2]
          rfl
      have hall := hx.trans hsame
      refine stringImpl_same hwidth (counter x) rfl ?_ hall
      rw [hall.instr]
      show c₀.instr.repeats = true
      rw [stringElement_instr hel, hframe.instr]
      exact hrep

end outcome

/-- **Main result**: a repeat whose elements lie within one page each ends as
the unprefixed instruction does when iterated, or behind some of the elements
in front of the others; and run again without what stopped it, a fault or a
data breakpoint, it ends as it would have without it from the start. -/
theorem repeat_resumes (op : StringOp) (w : RmWidth) (ctx : ExecutionContext)
    (hrep : ctx.instr.repeats = true)
    (hfit : ∀ p ∈ elementsOf op w.bytes ctx, ∀ a ∈ op.addresses p, WithinPage a w.bytes) :
    RepeatOutcome op w.bytes ctx (stringImpl op w.bytes ctx) ∧
      (∀ r e, stringImpl op w.bytes ctx = .error r e →
        ∀ I repair, MemoryRepair I w.bytes repair → I ctx.memory →
          ∀ x, SameMachine x (repaired repair e) →
            SameOutcome (stringImpl op w.bytes x)
              (stringImpl op w.bytes (repaired repair ctx))) ∧
      (ctx.controlFlowTaken = false →
        ∀ e, stringImpl op w.bytes ctx = .ok () e → e.controlFlowTaken = true →
          ∀ dr, (∀ p ∈ elementsOf op w.bytes ctx,
              elementHits op w.bytes p { ctx.state with dr := dr } = 0#64) →
            ∀ x, SameMachine x (withDebug dr e) →
              SameOutcome (stringImpl op w.bytes x) (stringImpl op w.bytes (withDebug dr ctx))) := by
  obtain ⟨hpos, hwidth⟩ := w.bytes_bounds
  refine ⟨stringImpl_outcome hpos hwidth hrep hfit, ?_, ?_⟩
  · intro r e hrun I repair hrepair hI x hx
    exact stringImpl_resumes_fault hpos hwidth hrep hfit hrun hrepair hI hx
  · intro hfresh e hrun hstays dr hquiet x hx
    exact stringImpl_resumes_breakpoint hwidth hrep hrun hfresh hstays hquiet hx

/-- Two bytes to store across a page boundary, the second page missing. -/
def boundaryContext : ExecutionContext where
  state := ((({} : CpuState).setGpr 0 0x41#64).setGpr 1 2#64).setGpr 7 0x1FFF#64
  memory := Memory.map {} 0x1000#64 0x1000#64 kMemoryPermissionAll
  instr := { code := .string .stos .rm8, length := 1, hasRepPrefix := true }
  nextRip := 0#64

/-- The second page of the block. -/
def secondPage (_ : Nat) : PageSupply := ⟨{ permissions := kMemoryPermissionAll }, 1#64, 1#64⟩

set_option maxRecDepth 20000 in
/-- The first byte is stored, the second one refused; with the page supplied
the repeat goes on as if it had been there. -/
theorem repeat_resumes_boundary : ∃ r e,
    stringImpl .stos 1 boundaryContext = .error r e ∧ counter e = 1 ∧
      SameOutcome (stringImpl .stos 1 (repaired (Memory.supply secondPage · 2) e))
        (stringImpl .stos 1 (repaired (Memory.supply secondPage · 2) boundaryContext)) := by
  have helements : elementsOf .stos 1 boundaryContext =
      [⟨0#64, 0x1FFF#64⟩, ⟨0#64, 0x2000#64⟩] := rfl
  refine ⟨_, _, rfl, rfl, ?_⟩
  refine (repeat_resumes .stos .rm8 boundaryContext rfl ?_).2.1 _ _ rfl _ _
    (supply_memoryRepair secondPage 2 Nat.one_pos (Nat.le_of_ble_eq_true rfl)) ?_ _
    (SameMachine.refl _)
  · show ∀ p ∈ elementsOf .stos 1 boundaryContext, _
    rw [helements]
    rintro p (_ | ⟨_, _ | ⟨_, h⟩⟩)
    · intro a ha
      rw [List.mem_singleton.mp ha]
      exact Nat.le_of_ble_eq_true rfl
    · intro a ha
      rw [List.mem_singleton.mp ha]
      exact Nat.le_of_ble_eq_true rfl
    · cases h
  · exact ⟨⟨rfl, rfl, rfl⟩, rfl⟩

end Seven
