import Seven.Handlers.AccessPrograms
import Seven.Handlers.StringPaging

/-!
# String instructions as programs

A string loop keeps the pointers in local variables and writes them back on
every way out, a fault included. Its program keeps how far the pointers are
from the registers, which do not move before the loop ends. So the addresses
are of the forms `source` and `destination`.

> `toHandler_stringImpl`: what the program computes is the handler.

The fault is the difference to the other handlers: a refused access cleans up
before it fails (`loadOr`, `storeOr`), where the handler of one element fails
and the loop around it cleans up (`cleaned`).
-/

namespace Seven

open Seven.Lib

namespace AccessM

variable {α β : Type}

/-! ## The programs -/

/-- The local pointers. -/
def movedPointers (s : CpuState) (moved : StringPointers) : StringPointers :=
  ⟨s.gpr 6 + moved.rsi, s.gpr 7 + moved.rdi⟩

/-- A load that cleans up before it faults. -/
def loadOr (cleanup : CpuState → CpuState) (form : AddressForm) (width : Nat) : AccessM U64 := do
  match ← load form width with
  | some bytes => return fromBytes bytes
  | none =>
    let ctx ← look
    modifyState cleanup
    raise (pageFaultAt ctx (form.address ctx.state ctx.instr))

/-- A store of an element; where it is refused, `cleanup` runs in front of the fault. -/
def storeOr (cleanup : CpuState → CpuState) (form : AddressForm) (value : U64) (width : Nat) :
    AccessM Unit := do
  if ← store form (toBytes value width) then pure ()
  else
    let ctx ← look
    modifyState cleanup
    raise (pageFaultAt ctx (form.address ctx.state ctx.instr))

/-- The flags of a comparison. -/
def compareElements (width : Nat) (lhs rhs : U64) : AccessM Unit :=
  modifyState fun s =>
    let lhs := lhs &&& maskForWidth width
    let rhs := rhs &&& maskForWidth width
    setFlags s (setSubFlags s.rflags lhs rhs (truncate (lhs - rhs) width) width false)

/-- The watched reads an element hits. -/
def readHits (address : U64) (width : Nat) : AccessM U64 := do
  return debugDataBreakpointHits (← look).state address (BitVec.ofNat 64 width) true false

/-- The watched writes an element hits. -/
def writeHits (address : U64) (width : Nat) : AccessM U64 := do
  return debugDataBreakpointHits (← look).state address (BitVec.ofNat 64 width) false true

/-- One element, at the pointers moved so far. -/
def stringElement (cleanup : CpuState → CpuState) (op : StringOp) (width : Nat)
    (moved : StringPointers) : AccessM U64 := do
  let s := (← look).state
  let p := movedPointers s moved
  -- The order of the accesses is that of the handlers; the looks at the breakpoints come last.
  match op with
  | .movs =>
    let value ← loadOr cleanup (.source moved.rsi) width
    storeOr cleanup (.destination moved.rdi) (truncate value width) width
    return (← readHits p.rsi width) ||| (← writeHits p.rdi width)
  | .stos =>
    let value := readRegister s .rax &&& maskForWidth width
    storeOr cleanup (.destination moved.rdi) value width
    writeHits p.rdi width
  | .lods =>
    let value ← loadOr cleanup (.source moved.rsi) width
    modifyState fun s => writeRegister s .rax value width
    readHits p.rsi width
  | .cmps =>
    let lhs ← loadOr cleanup (.source moved.rsi) width
    let rhs ← loadOr cleanup (.destination moved.rdi) width
    compareElements width lhs rhs
    return (← readHits p.rsi width) ||| (← readHits p.rdi width)
  | .scas =>
    let lhs := readRegister s .rax
    let rhs ← loadOr cleanup (.destination moved.rdi) width
    compareElements width lhs rhs
    readHits p.rdi width

/-- The loop. -/
def stringLoop (op : StringOp) (width : Nat) (rep repne df : Bool) :
    Nat → StringPointers → AccessM Unit
  | 0, _ => pure ()
  | remaining + 1, moved => do
    let p := movedPointers (← look).state moved
    let hits ← stringElement (savePointers op rep p (remaining + 1)) op width moved
    let ctx ← look
    let goOn := continueLoop op rep repne remaining ctx.state.rflags
    change fun ctx => (noteDebugBreak ctx hits goOn).1
    if (noteDebugBreak ctx hits goOn).2 || !goOn then
      modifyState (savePointers op rep (advancePointers op df width p) remaining)
    else stringLoop op width rep repne df remaining (advancePointers op df width moved)

/-- `string_impl`. -/
def stringImpl (op : StringOp) (width : Nat) : AccessM Unit := do
  let ctx ← look
  let rep := ctx.instr.hasRepPrefix || ctx.instr.hasRepnePrefix
  let count := if rep then (ctx.state.gpr 1).toNat else 1
  let df := flagSet ctx.state.rflags kFlagDF
  stringLoop op width rep ctx.instr.hasRepnePrefix df count ⟨0#64, 0#64⟩

/-! ## Cleaning up -/

/-- A handler that cleans up when it fails. -/
def cleaned (cleanup : CpuState → CpuState) (h : HandlerM α) : HandlerM α := fun ctx =>
  match h ctx with
  | .ok a c => .ok a c
  | .error r c => .error r { c with state := cleanup c.state }

section cleaned

variable {cleanup : CpuState → CpuState} {p : AccessM α} {h : HandlerM α} {f : α → AccessM β}
  {g : α → HandlerM β} {ctx c : ExecutionContext}

/-- An element that succeeds is not cleaned up. -/
theorem cleaned_ok {a : α} (hrun : h ctx = .ok a c) : cleaned cleanup h ctx = .ok a c := by
  unfold cleaned
  rw [hrun]

/-- One that fails is. -/
theorem cleaned_error {r : ExecutionResult} (hrun : h ctx = .error r c) :
    cleaned cleanup h ctx = .error r { c with state := cleanup c.state } := by
  unfold cleaned
  rw [hrun]

/-- Cleaning up follows the sequencing. -/
theorem cleaned_bind (hp : p.toHandler ctx = cleaned cleanup h ctx)
    (hf : ∀ a c, h ctx = .ok a c → (f a).toHandler c = cleaned cleanup (g a) c) :
    (p >>= f).toHandler ctx = cleaned cleanup (h >>= g) ctx := by
  rw [toHandler_bind]
  cases hrun : h ctx with
  | ok a c =>
    rw [cleaned_ok hrun] at hp
    rw [bind_ok hp, hf a c hrun]
    unfold cleaned
    rw [bind_ok hrun]
  | error r c =>
    rw [cleaned_error hrun] at hp
    rw [bind_error hp, cleaned_error (bind_error hrun)]

/-- The program is the handler, cleanup included. -/
theorem toHandler_loadOr (form : AddressForm) (width : Nat) :
    (loadOr cleanup form width).toHandler ctx =
      cleaned cleanup (Seven.readMemoryChecked (form.address ctx.state ctx.instr) width) ctx := by
  unfold loadOr cleaned Seven.readMemoryChecked
  rw [toHandler_bind, bind_ok (show (load form width).toHandler ctx =
    .ok (ctx.memory.read (form.address ctx.state ctx.instr) width .dataRead) ctx from rfl)]
  cases ctx.memory.read (form.address ctx.state ctx.instr) width .dataRead with
  | some bytes => rfl
  | none => rfl

/-- The program is the handler, cleanup included. -/
theorem toHandler_storeOr (form : AddressForm) (value : U64) (width : Nat) :
    (storeOr cleanup form value width).toHandler ctx =
      cleaned cleanup (Seven.writeMemoryChecked (form.address ctx.state ctx.instr) value width)
        ctx := by
  unfold storeOr cleaned Seven.writeMemoryChecked
  rw [toHandler_bind, bind_ok (show (store form (toBytes value width)).toHandler ctx =
    .ok _ _ from rfl)]
  rcases ctx.memory.write (form.address ctx.state ctx.instr) (toBytes value width) .dataWrite with
    ⟨memory, ok⟩
  cases ok with
  | true => rfl
  | false => rfl

/-- A loaded context is the context of the load. -/
theorem cleaned_load {form : AddressForm} {width : Nat} {address : U64} {f : U64 → AccessM β}
    {g : U64 → HandlerM β} (haddress : form.address ctx.state ctx.instr = address)
    (hf : ∀ value, (f value).toHandler ctx = cleaned cleanup (g value) ctx) :
    (loadOr cleanup form width >>= f).toHandler ctx =
      cleaned cleanup (Seven.readMemoryChecked address width >>= g) ctx := by
  subst haddress
  refine cleaned_bind (toHandler_loadOr form width) fun value c hread => ?_
  rw [readMemoryChecked_ok hread]
  exact hf value

/-- A store in front of equal rests. -/
theorem cleaned_store {form : AddressForm} {address value : U64} {width : Nat}
    {f : Unit → AccessM β} {g : Unit → HandlerM β}
    (haddress : form.address ctx.state ctx.instr = address)
    (hf : ∀ c, (f ()).toHandler c = cleaned cleanup (g ()) c) :
    (storeOr cleanup form value width >>= f).toHandler ctx =
      cleaned cleanup (Seven.writeMemoryChecked address value width >>= g) ctx := by
  subst haddress
  exact cleaned_bind (toHandler_storeOr form value width) fun _ c _ => hf c

/-- The program of an element is the handler's. -/
theorem toHandler_stringElement (op : StringOp) (width : Nat) (moved : StringPointers)
    (ctx : ExecutionContext) :
    (stringElement cleanup op width moved).toHandler ctx =
      cleaned cleanup (Seven.stringElement op width (movedPointers ctx.state moved)) ctx := by
  unfold stringElement
  rw [look_bind, ctx.withoutMemory_state]
  cases op with
  | movs => exact cleaned_load rfl fun value => cleaned_store rfl fun c => rfl
  | stos =>
    unfold cleaned
    rw [stringElement_stos]
    exact cleaned_store rfl fun c => rfl
  | lods => exact cleaned_load rfl fun value => rfl
  | cmps => exact cleaned_load rfl fun lhs => cleaned_load rfl fun rhs => rfl
  | scas =>
    unfold cleaned
    rw [stringElement_scas]
    exact cleaned_load rfl fun rhs => rfl

end cleaned

/-! ## The loop -/

/-- Moving the local pointers is moving how far they are. -/
theorem advancePointers_moved (op : StringOp) (df : Bool) (width : Nat) (s : CpuState)
    (moved : StringPointers) :
    advancePointers op df width (movedPointers s moved) =
      movedPointers s (advancePointers op df width moved) := by
  have hdown (a b c : U64) : a + b - c = a + (b - c) := by
    bv_omega
  have hup (a b c : U64) : a + b + c = a + (b + c) := BitVec.add_assoc a b c
  unfold advancePointers movedPointers
  cases df <;> cases op <;> simp only [StringOp.usesRsi, StringOp.usesRdi, if_true, if_false,
    Bool.false_eq_true, hdown, hup]

/-- The note of a breakpoint, as a change of the context. -/
theorem toHandler_noteDebugBreak (ctx : ExecutionContext) (hits : U64) (goOn : Bool) :
    (change fun ctx => (noteDebugBreak ctx hits goOn).1).toHandler ctx =
      .ok () (noteDebugBreak ctx hits goOn).1 := by
  show EStateM.Result.ok () { (noteDebugBreak ctx.withoutMemory hits goOn).1 with
    memory := ctx.memory } = _
  unfold noteDebugBreak
  by_cases hhits : hits = 0#64
  · rw [if_pos hhits, if_pos hhits]
    rfl
  · rw [if_neg hhits, if_neg hhits]
    rfl

/-- The program of the loop is the handler's, at the state the pointers moved belong to. -/
theorem toHandler_stringLoop (op : StringOp) {width : Nat} (hwidth : width ≤ 8)
    (rep repne df : Bool) (n : Nat) :
    ∀ (moved : StringPointers) (ctx : ExecutionContext),
      (stringLoop op width rep repne df n moved).toHandler ctx =
        Seven.stringLoop op width rep repne df n (movedPointers ctx.state moved) ctx := by
  induction n with
  | zero => exact fun _ _ => rfl
  | succ remaining ih =>
    intro moved ctx
    unfold stringLoop Seven.stringLoop
    rw [look_bind, ctx.withoutMemory_state, toHandler_bind]
    have helement := @toHandler_stringElement
      (savePointers op rep (movedPointers ctx.state moved) (remaining + 1)) op width moved ctx
    cases hrun : Seven.stringElement op width (movedPointers ctx.state moved) ctx with
    | error r c => exact bind_error (helement.trans (cleaned_error hrun))
    | ok hits c =>
      rw [bind_ok (helement.trans (cleaned_ok hrun)), look_bind, c.withoutMemory_state]
      dsimp only
      rw [toHandler_bind]
      generalize hgo : continueLoop op rep repne remaining c.state.rflags = goOn
      have hstops : (noteDebugBreak c.withoutMemory hits goOn).2 =
          (noteDebugBreak c hits goOn).2 := by
        rw [noteDebugBreak_snd, noteDebugBreak_snd]
      rw [bind_ok (toHandler_noteDebugBreak c hits goOn), hstops]
      -- the registers behind the pointers are what they were
      have hframe := stringElement_frame hwidth ctx hits c hrun
      have hpointers : movedPointers (noteDebugBreak c hits goOn).1.state
          (advancePointers op df width moved) =
          advancePointers op df width (movedPointers ctx.state moved) := by
        rw [(noteDebugBreak_frame c hits goOn).1, advancePointers_moved]
        unfold movedPointers
        rw [hframe.gpr 6 (Fin.ne_of_val_ne (Nat.succ_ne_zero 5)),
          hframe.gpr 7 (Fin.ne_of_val_ne (Nat.succ_ne_zero 6))]
      rw [toHandler_ite]
      split
      · rfl
      · rw [ih, hpointers]

/-- The program is the handler. -/
theorem toHandler_stringImpl (op : StringOp) {width : Nat} (hwidth : width ≤ 8) :
    (stringImpl op width).toHandler = Seven.stringImpl op width := by
  funext ctx
  unfold stringImpl Seven.stringImpl
  rw [look_bind, toHandler_stringLoop op hwidth]
  unfold movedPointers
  dsimp only
  rw [BitVec.add_zero, BitVec.add_zero]
  rfl

end AccessM

end Seven
