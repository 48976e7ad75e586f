import Seven.Cpu.Context

/-!
# String instructions

`MOVS`, `STOS`, `LODS`, `CMPS` and `SCAS`, alone or repeated. The five loops
of the source differ in what one element does and in which of the two
pointers they move; around that they are the same: advance the pointers,
count down, stop at a data breakpoint, at the end, or where the compare
says so. The pointers and the counter are local until the loop ends — at
every exit, a page fault included, they are written back.
-/

namespace Seven

namespace StringOp

/-- Does the instruction read through `RSI`? -/
def usesRsi : StringOp → Bool
  | .movs | .lods | .cmps => true
  | .stos | .scas => false

/-- Does the instruction access memory through `RDI`? -/
def usesRdi : StringOp → Bool
  | .movs | .stos | .cmps | .scas => true
  | .lods => false

/-- Does ZF decide whether a repeat goes on? -/
def compares : StringOp → Bool
  | .cmps | .scas => true
  | .movs | .stos | .lods => false

end StringOp

/-- The local variables of a string loop that are not memory or state. -/
structure StringPointers where
  rsi : U64
  rdi : U64

/-- `df ? p - width : p + width` on the pointers the instruction uses. -/
def advancePointers (op : StringOp) (df : Bool) (width : Nat) (p : StringPointers) :
    StringPointers :=
  let step := BitVec.ofNat 64 width
  let move := fun x : U64 => if df then x - step else x + step
  { rsi := if op.usesRsi then move p.rsi else p.rsi
    rdi := if op.usesRdi then move p.rdi else p.rdi }

/-- Write the pointers and, under a repeat, the counter back. -/
def savePointers (op : StringOp) (rep : Bool) (p : StringPointers) (remaining : Nat)
    (s : CpuState) : CpuState :=
  let s := if op.usesRsi then s.setGpr 6 p.rsi else s
  let s := if op.usesRdi then s.setGpr 7 p.rdi else s
  if rep then s.setGpr 1 (BitVec.ofNat 64 remaining) else s

/-- The flags of a compare of two elements. -/
def compareElements (width : Nat) (lhs rhs : U64) : Handler :=
  modifyState fun s =>
    let lhs := lhs &&& maskForWidth width
    let rhs := rhs &&& maskForWidth width
    setFlags s (setSubFlags s.rflags lhs rhs (truncate (lhs - rhs) width) width false)

/-- The data breakpoints a read of the element hits. -/
def readHits (address : U64) (width : Nat) : HandlerM U64 := do
  return debugDataBreakpointHits (← get).state address (BitVec.ofNat 64 width) true false

/-- The watched writes an element hits. -/
def writeHits (address : U64) (width : Nat) : HandlerM U64 := do
  return debugDataBreakpointHits (← get).state address (BitVec.ofNat 64 width) false true

/-- One element: the accesses, the effect on registers and flags, and the
breakpoints hit. -/
def stringElement (op : StringOp) (width : Nat) (p : StringPointers) : HandlerM U64 := do
  match op with
  | .movs =>
    -- The store is made before either pointer is looked at for a breakpoint.
    let value ← readMemoryChecked p.rsi width
    writeMemoryChecked p.rdi (truncate value width) width
    return (← readHits p.rsi width) ||| (← writeHits p.rdi width)
  | .stos =>
    let value := readRegister (← get).state .rax &&& maskForWidth width
    writeMemoryChecked p.rdi value width
    writeHits p.rdi width
  | .lods =>
    let value ← readMemoryChecked p.rsi width
    modifyState fun s => writeRegister s .rax value width
    readHits p.rsi width
  | .cmps =>
    let lhs ← readMemoryChecked p.rsi width
    let rhs ← readMemoryChecked p.rdi width
    compareElements width lhs rhs
    return (← readHits p.rsi width) ||| (← readHits p.rdi width)
  | .scas =>
    let lhs := readRegister (← get).state .rax
    let rhs ← readMemoryChecked p.rdi width
    compareElements width lhs rhs
    readHits p.rdi width

/-- Does the loop go on with `remaining` elements left? `REPNE` stops a
compare on equality, `REP` on inequality. -/
def continueLoop (op : StringOp) (rep repne : Bool) (remaining : Nat) (rflags : U64) : Bool :=
  rep && decide (0 < remaining) &&
    (!op.compares || (if repne then !flagSet rflags kFlagZF else flagSet rflags kFlagZF))

/-- The loop, `remaining` elements before its end. -/
def stringLoop (op : StringOp) (width : Nat) (rep repne df : Bool) :
    Nat → StringPointers → Handler
  | 0, _ => pure ()
  | remaining + 1, p => fun ctx =>
    match stringElement op width p ctx with
    | .error r ctx =>
      .error r { ctx with state := savePointers op rep p (remaining + 1) ctx.state }
    | .ok hits ctx =>
      let p' := advancePointers op df width p
      let goOn := continueLoop op rep repne remaining ctx.state.rflags
      let (ctx, stop) := noteDebugBreak ctx hits goOn
      if stop || !goOn then
        .ok () { ctx with state := savePointers op rep p' remaining ctx.state }
      else stringLoop op width rep repne df remaining p' ctx

/-- `movs_impl`, `stos_impl`, `lods_impl`, `cmps_impl`, `scas_impl`. -/
def stringImpl (op : StringOp) (width : Nat) : Handler := fun ctx =>
  let rep := ctx.instr.hasRepPrefix || ctx.instr.hasRepnePrefix
  let count := if rep then (ctx.state.gpr 1).toNat else 1
  let df := flagSet ctx.state.rflags kFlagDF
  stringLoop op width rep ctx.instr.hasRepnePrefix df count ⟨ctx.state.gpr 6, ctx.state.gpr 7⟩ ctx

end Seven
