import Seven.Lib.Segments
import Seven.Cpu.DataWords
import Seven.Executor.DecodeCache
import Seven.Executor.Paths
import Seven.Executor.Run
import Seven.Handlers.Conditions

/-!
# Reporting basic blocks

`hook_basic_block` registers an instruction hook that calls back whenever an
instruction begins a block: when it does not lie where the instruction before
it falls through to. What it passes on is a summary: the block is decoded ahead
from memory, at most 256 instructions of it, up to the first that may transfer
control.

A host that also registers `hook_memory_execution` sees every instruction. Put
together, the two are a coverage tool, and the question is whether they agree:

> `basic_blocks_cover`: over any run the reported blocks are, one for one, the
> summaries of the straight-line segments of the executed trace, and the first
> 256 instructions of a segment are the instructions of its block, in order.

Beyond 256 instructions a segment goes on without a report. The two hooks only
note what they are told; what the decoder says about the flow of control is a
parameter.
-/

namespace Seven

open Seven.Lib

variable {V : Type}

/-! ## The hook -/

/-- `basic_block` of the host interface. -/
structure BasicBlock where
  address : U64
  instructionCount : Nat := 0
  size : Nat := 0
deriving DecidableEq, Repr

/-- One more instruction, of this length. -/
def BasicBlock.grow (block : BasicBlock) (length : Nat) : BasicBlock :=
  { block with instructionCount := block.instructionCount + 1, size := block.size + length }

/-- `basic_block_hook_state`. -/
structure BasicBlockHookState where
  first : Bool := true
  fallthroughValid : Bool := false
  fallthroughRip : U64 := 0#64

/-- `decode_instruction_at`. -/
def decodeInstructionAt (decode : Decode) (state : CpuState) (memory : Memory) (rip : U64) :
    Option Instruction :=
  match memory.read rip maxInstructionLength .instructionFetch with
  | none => none
  | some bytes =>
    match decode (decoderBitness state.mode) bytes rip with
    | none => none
    | some instr => if instr.code = .invalid then none else some instr

/-- `std::max(1, instr->length())`. -/
def advance (instr : Instruction) : Nat := max 1 instr.length

/-- The limit of the summary's loop. -/
def kBlockInstructions : Nat := 256

section summary

variable (code : U64 → Option Instruction) (isNext : Instruction → Bool)

/-- The loop of `summarize_basic_block`. -/
def summarizeLoop : Nat → U64 → BasicBlock → BasicBlock
  | 0, _, block => block
  | n + 1, cursor, block =>
    match code cursor with
    | none => block
    | some instr =>
      let block := block.grow (advance instr)
      if isNext instr then summarizeLoop n (cursor + BitVec.ofNat 64 (advance instr)) block
      else block

/-- `summarize_basic_block`, given the instruction at each address. -/
def summarizeBasicBlock (rip : U64) : BasicBlock :=
  let block := summarizeLoop code isNext kBlockInstructions rip { address := rip }
  if block.instructionCount = 0 then { block with instructionCount := 1, size := 1 } else block

end summary

/-- The world of a host with a basic-block hook: what the hook captured, and
the host's own. -/
structure Instrumented (V : Type) where
  blockHook : BasicBlockHookState := {}
  host : V

/-- The lambda of `hook_basic_block`. `isNext` is `flow_control(instr) ==
NEXT`. -/
def basicBlockHook (decode : Decode) (isNext : Instruction → Bool) (callback : BasicBlock → V → V)
    (event : InstructionEvent) (m : Machine (Instrumented V)) :
    HookAction × Machine (Instrumented V) :=
  let state := m.world.blockHook
  let blockStart := state.first || !state.fallthroughValid || m.state.rip != state.fallthroughRip
  let host :=
    if blockStart then
      callback
        (summarizeBasicBlock (decodeInstructionAt decode m.state m.memory) isNext m.state.rip)
        m.world.host
    else m.world.host
  (.continueToCore,
    { m with
      world :=
        { blockHook :=
            { first := false
              fallthroughRip := event.nextRip
              fallthroughValid := isNext event.instr }
          host := host } })

/-- The lambda of `hook_memory_execution` for every address. -/
def memoryExecutionHook (callback : U64 → V → V) (rip : U64) (m : Machine (Instrumented V)) :
    Machine (Instrumented V) :=
  { m with world := { m.world with host := callback rip m.world.host } }

/-! ## A host that takes notes -/

/-- What the two callbacks were told, in order. -/
structure CoverageNotes where
  executed : List U64 := []
  blocks : List BasicBlock := []

/-- The host registers the two hooks and no other, and may request stops. -/
structure RunEnv.TakesNotes (env : RunEnv (Instrumented CoverageNotes))
    (isNext : Instruction → Bool) : Prop where
  execution : env.executionHooks =
    [memoryExecutionHook fun rip notes => { notes with executed := notes.executed ++ [rip] }]
  instruction : env.instructionHooks =
    [basicBlockHook env.decode isNext fun block notes =>
      { notes with blocks := notes.blocks ++ [block] }]
  executionAddress : ∀ rip, env.executionAddressHooks rip = []
  code : ∀ code, env.codeHooks code = []
  trap : ∀ kind, env.trapHooks kind = []
  fault : env.faultHooks = []
  stop : env.stopHooks = []
  contextRead : env.contextRead = none
  contextWrite : env.contextWrite = none
  takeStop : ∀ w, (env.takeStop w).2 = w
  decode : DecodesWindow env.decode

/-! ## The straight line through the code -/

section lines

variable (code : U64 → Option Instruction) (isNext : Instruction → Bool)

/-- Where the instruction at an address falls through to. -/
def fallThrough (a : U64) : Option U64 :=
  match code a with
  | none => none
  | some instr => if isNext instr then some (a + BitVec.ofNat 64 (advance instr)) else none

/-- Does `b` lie where the instruction at `a` falls through to? -/
def fallsThrough (a b : U64) : Bool := fallThrough code isNext a == some b

/-- The addresses of a block: at most `n` instructions, one behind the other. -/
def blockAddresses : Nat → U64 → List U64
  | 0, _ => []
  | n + 1, a =>
    match code a with
    | none => []
    | some instr =>
      a :: if isNext instr then blockAddresses n (a + BitVec.ofNat 64 (advance instr)) else []

variable {code isNext}

/-- What the loop of the summary adds to a block. -/
structure SummaryOf (line : List U64) (a : U64) (block block' : BasicBlock) : Prop where
  address : block'.address = block.address
  count : block'.instructionCount = block.instructionCount + line.length
  size : block.size ≤ block'.size
  inside : ∀ x ∈ line, (x - a).toNat + block.size < block'.size

/-- The distance to an address ahead. -/
theorem toNat_sub_le (x a : U64) (n : Nat) :
    (x - a).toNat ≤ (x - (a + BitVec.ofNat 64 n)).toNat + n := by
  have hsplit : x - a = x - (a + BitVec.ofNat 64 n) + BitVec.ofNat 64 n := by
    rw [← BitVec.sub_sub, BitVec.sub_add_cancel]
  rw [hsplit, BitVec.toNat_add, BitVec.toNat_ofNat]
  have hsum := Nat.mod_le ((x - (a + BitVec.ofNat 64 n)).toNat + n % 2 ^ 64) (2 ^ 64)
  have hn := Nat.mod_le n (2 ^ 64)
  omega

/-- **The summary** counts the instructions of the line and adds up their
lengths. -/
theorem summarizeLoop_spec (n : Nat) (a : U64) (block : BasicBlock) :
    SummaryOf (blockAddresses code isNext n a) a block (summarizeLoop code isNext n a block) := by
  induction n generalizing a block with
  | zero => exact ⟨rfl, rfl, Nat.le_refl _, fun x hx => by cases hx⟩
  | succ n ih =>
    unfold summarizeLoop blockAddresses
    cases code a with
    | none => exact ⟨rfl, rfl, Nat.le_refl _, fun x hx => by cases hx⟩
    | some instr =>
      have hpos : 0 < advance instr := by
        unfold advance
        omega
      have hgrow : (block.grow (advance instr)).size = block.size + advance instr := rfl
      -- `Next` flow goes on behind the instruction; any other flow control ends the block here.
      dsimp only
      by_cases hnext : isNext instr = true
      · rw [if_pos hnext, if_pos hnext]
        obtain ⟨haddress, hcount, hsize, hinside⟩ :=
          ih (a + BitVec.ofNat 64 (advance instr)) (block.grow (advance instr))
        refine ⟨haddress, ?_, by omega, fun x hx => ?_⟩
        · rw [hcount, List.length_cons]
          show block.instructionCount + 1 + _ = _
          omega
        · rcases List.mem_cons.mp hx with rfl | hx
          · rw [BitVec.sub_self, BitVec.toNat_zero]
            omega
          · have hoff := hinside x hx
            -- An address inside the rest of the block is one advance further from the block's
            -- start.
            have hle := toNat_sub_le x a (advance instr)
            omega
      · rw [if_neg hnext, if_neg hnext]
        refine ⟨rfl, rfl, by omega, fun x hx => ?_⟩
        rw [List.mem_singleton.mp hx, BitVec.sub_self, BitVec.toNat_zero]
        omega

/-- **The straight line from an address**, as long as it is decodable, is the
block there. -/
theorem take_prefix_blockAddresses {a : U64} {segment : List U64}
    (hchain : (a :: segment).IsChain fun x y => fallsThrough code isNext x y)
    (hcode : ∀ x ∈ a :: segment, (code x).isSome = true) (n : Nat) :
    (a :: segment).take n <+: blockAddresses code isNext n a := by
  induction n generalizing a segment with
  | zero => exact List.nil_prefix
  | succ n ih =>
    obtain ⟨instr, hinstr⟩ := Option.isSome_iff_exists.mp (hcode a List.mem_cons_self)
    unfold blockAddresses
    rw [hinstr, List.take_succ_cons]
    refine (List.prefix_cons_inj a).mpr ?_
    cases segment with
    | nil =>
      rw [List.take_nil]
      exact List.nil_prefix
    | cons b segment =>
      obtain ⟨hfalls, hrest⟩ := List.isChain_cons_cons.mp hchain
      -- The segment is one of consecutive instructions, so its next address is the block's next
      -- one.
      have hb : fallThrough code isNext a = some b := eq_of_beq hfalls
      unfold fallThrough at hb
      rw [hinstr] at hb
      dsimp only at hb
      by_cases hnext : isNext instr = true
      · rw [if_pos hnext] at hb ⊢
        rw [Option.some.inj hb]
        exact ih hrest fun x hx => hcode x (List.mem_cons_of_mem _ hx)
      · rw [if_neg hnext] at hb
        cases hb

/-- What a reported block says about a segment of the trace. -/
structure BasicBlock.Covers (code : U64 → Option Instruction) (isNext : Instruction → Bool)
    (block : BasicBlock) (segment : List U64) : Prop where
  begins : segment.head? = some block.address
  count : block.instructionCount = (blockAddresses code isNext kBlockInstructions block.address).length
  ordered : segment.take kBlockInstructions <+:
    blockAddresses code isNext kBlockInstructions block.address
  inside : ∀ x ∈ segment.take kBlockInstructions, (x - block.address).toNat < block.size

/-- **The summary at its head covers a segment.** -/
theorem summarizeBasicBlock_covers {a : U64} {segment : List U64}
    (hchain : (a :: segment).IsChain fun x y => fallsThrough code isNext x y)
    (hcode : ∀ x ∈ a :: segment, (code x).isSome = true) :
    (summarizeBasicBlock code isNext a).Covers code isNext (a :: segment) := by
  obtain ⟨haddress, hcount, -, hinside⟩ :=
    @summarizeLoop_spec code isNext kBlockInstructions a { address := a }
  have hinitial := take_prefix_blockAddresses hchain hcode kBlockInstructions
  -- The first instruction decodes, so the summary is never the empty one the hook falls back on.
  have hsome : (summarizeLoop code isNext kBlockInstructions a { address := a }).instructionCount ≠
      0 := by
    rw [hcount]
    have hle := hinitial.length_le
    rw [List.length_take, List.length_cons] at hle
    unfold kBlockInstructions at hle ⊢
    dsimp only
    omega
  have hblock : summarizeBasicBlock code isNext a =
      summarizeLoop code isNext kBlockInstructions a { address := a } := if_neg hsome
  rw [hblock]
  dsimp only at haddress hcount hinside
  refine ⟨?_, ?_, ?_, fun x hx => ?_⟩
  · rw [haddress]
    rfl
  · rw [haddress, hcount, Nat.zero_add]
  · rw [haddress]
    exact hinitial
  · rw [haddress]
    exact hinside x (hinitial.subset hx)

end lines

/-! ## One visit -/

/-- The notes are those of the trace. -/
structure Noted (code : U64 → Option Instruction) (isNext : Instruction → Bool)
    (w : Instrumented CoverageNotes) : Prop where
  blocks : w.host.blocks =
    (starts (fallsThrough code isNext) w.host.executed).map (summarizeBasicBlock code isNext)
  decodable : ∀ x ∈ w.host.executed, (code x).isSome = true
  fresh : w.host.executed = [] → w.blockHook.first = true
  last : ∀ a ∈ w.host.executed.getLast?, w.blockHook.first = false ∧
    fallThrough code isNext a =
      if w.blockHook.fallthroughValid then some w.blockHook.fallthroughRip else none

section visit

variable {env : RunEnv (Instrumented CoverageNotes)} {isNext : Instruction → Bool}
  {code : U64 → Option Instruction}

/-- What the two hooks make of an instruction. -/
def visit (code : U64 → Option Instruction) (isNext : Instruction → Bool) (rip : U64)
    (event : InstructionEvent) (w : Instrumented CoverageNotes) : Instrumented CoverageNotes :=
  let blockStart := w.blockHook.first || !w.blockHook.fallthroughValid ||
    rip != w.blockHook.fallthroughRip
  { blockHook :=
      { first := false, fallthroughRip := event.nextRip, fallthroughValid := isNext event.instr }
    host :=
      { executed := w.host.executed ++ [rip]
        blocks :=
          if blockStart then w.host.blocks ++ [summarizeBasicBlock code isNext rip]
          else w.host.blocks } }

/-- **The notes stay those of the trace.** -/
theorem Noted.visit {w : Instrumented CoverageNotes} (h : Noted code isNext w) {rip : U64}
    {event : InstructionEvent} (hcode : code rip = some event.instr)
    (hnext : event.nextRip = rip + BitVec.ofNat 64 (advance event.instr)) :
    Noted code isNext (visit code isNext rip event w) := by
  -- The hook's test for a block start is the test of `splitBy` on the addresses run so far.
  have hblockStart : (w.blockHook.first || !w.blockHook.fallthroughValid ||
      rip != w.blockHook.fallthroughRip) =
        !(w.host.executed.getLast?.any (fallsThrough code isNext · rip)) := by
    cases hlast : w.host.executed.getLast? with
    | none =>
      rw [h.fresh (List.getLast?_eq_none_iff.mp hlast)]
      rfl
    | some a =>
      obtain ⟨hfirst, hfall⟩ := h.last a hlast
      rw [hfirst, Option.any_some]
      unfold fallsThrough
      rw [hfall]
      cases w.blockHook.fallthroughValid with
      | false => rfl
      | true =>
        show (rip != w.blockHook.fallthroughRip) = !(some w.blockHook.fallthroughRip == some rip)
        rw [Option.some_beq_some, bne, Bool.beq_comm]
  -- The blocks reported, the decodable addresses, the fresh case and the last address in turn.
  refine ⟨?_, fun x hx => ?_, fun hnil => ?_, fun a ha => ?_⟩
  · have hexecuted : (Seven.visit code isNext rip event w).host.executed =
        w.host.executed ++ [rip] := rfl
    show (if _ then _ else _) = _
    rw [hblockStart, hexecuted, starts_append, List.map_append, ← h.blocks]
    cases w.host.executed.getLast?.any (fallsThrough code isNext · rip) with
    | true => exact (List.append_nil _).symm
    | false => rfl
  · rcases List.mem_append.mp hx with hx | hx
    · exact h.decodable x hx
    · rw [List.mem_singleton.mp hx, hcode]
      rfl
  · exact absurd hnil (List.append_ne_nil_of_right_ne_nil _ (List.cons_ne_nil _ _))
  · have hlast : (w.host.executed ++ [rip]).getLast? = some a := ha
    rw [List.getLast?_concat] at hlast
    obtain rfl := Option.some.inj hlast
    refine ⟨rfl, ?_⟩
    unfold fallThrough
    rw [hcode]
    dsimp only
    rw [← hnext]
    rfl

/-! ## One step -/

variable {W : Type}

/-- Without fault hooks and stop hooks an attempt is the only one, and leaves
the world alone from there on. -/
theorem conclude_alone {env : Env W} (hfault : env.faultHooks = []) (hstop : env.stopHooks = [])
    (startRip : U64) (x : Outcome × Rig W) :
    ∃ r g, env.conclude startRip x = .done (r, g) ∧ g.world = x.2.world := by
  have hstopWith (r : ExecutionResult) (g : Rig W) : (env.stopWith startRip r g).2.world = g.world := by
    unfold Env.stopWith Env.reportStop Env.notifyStopHooks
    rw [hstop]
    rfl
  rcases x with ⟨r | ⟨r, clear⟩ | r, g⟩
  · exact ⟨r, g, rfl, rfl⟩
  · have hrecover : env.tryRecoverFault startRip r g = (false, g) := by
      unfold Env.tryRecoverFault Env.runFaultHooks
      rw [hfault]
      rfl
    have hconclude : env.conclude startRip (.fault r clear, g) =
        .done (env.stopWith startRip r (if clear then g.mapState clearPending else g)) := by
      unfold Env.conclude
      dsimp only
      rw [hrecover]
    refine ⟨_, _, hconclude, (hstopWith r _).trans ?_⟩
    cases clear <;> rfl
  · exact ⟨_, _, rfl, hstopWith r g⟩

/-- The core does not look at the world. -/
theorem core_world (env : Env W) (p : Prologue) (debugSuppressed tfActive : Bool) (g : Rig W) :
    (core env p debugSuppressed tfActive g).2.world = g.world := by
  rw [core_eq]
  dsimp only
  split
  · rfl
  · rw [debugExceptions_eq]
    have hrig (c : ExecutionContext) : (coreRig env p c g).world = g.world := by
      unfold coreRig
      cases env.collectCodeStats <;> rfl
    split <;> exact hrig _

/-- Nor do the execute breakpoints. -/
theorem executeBreakpoints_world (startRip : U64) (p : Prologue) (quiet : Bool) (g : Rig W) :
    (executeBreakpoints startRip p quiet g).2.world = g.world := by
  rw [executeBreakpoints_eq]
  split
  · rfl
  · dsimp only
    split <;> rfl

variable (h : env.TakesNotes isNext)
include h

/-- The trap hooks take notes only. -/
theorem RunEnv.TakesNotes.traps (startRip : U64) (p : Prologue)
    (g : Rig (Instrumented CoverageNotes)) : Seven.traps env.toEnv startRip p g = (none, g) := by
  unfold Seven.traps
  split
  next => rfl
  next kind _ =>
    unfold Env.runTrapHooks
    rw [h.trap]
    rfl

/-- **The phase of the hooks.** -/
theorem RunEnv.TakesNotes.instructionHooks (startRip : U64) (p : Prologue)
    (g : Rig (Instrumented CoverageNotes)) :
    Seven.instructionHooks env.toEnv startRip p g =
      (none,
        { g with
          world := (visit (decodeInstructionAt env.decode g.state g.memory) isNext g.state.rip
            p.event g.world) }) := by
  -- One memory execution hook and one instruction hook are installed: each fold has one element.
  have hexecution : env.runExecutionHooks g.toMachine =
      memoryExecutionHook
        (fun rip notes => { notes with executed := notes.executed ++ [rip] }) g.state.rip
        g.toMachine := by
    unfold Env.runExecutionHooks
    rw [h.execution]
    dsimp only [List.foldl_cons, List.foldl_nil]
    rw [h.executionAddress]
    rfl
  have hhooks (m : Machine (Instrumented CoverageNotes)) :
      env.runInstructionHooks p.event m =
        basicBlockHook env.decode isNext
          (fun block notes => { notes with blocks := notes.blocks ++ [block] }) p.event m := by
    unfold Env.runInstructionHooks
    rw [h.instruction, h.code]
    rfl
  unfold Seven.instructionHooks
  rw [hexecution]
  dsimp only
  rw [hhooks]
  refine congrArg (Prod.mk none) ?_
  unfold visit basicBlockHook
  dsimp only [memoryExecutionHook, Rig.withMachine]
  split <;> rfl

/-- **An attempt** passes the hooks once, or ends before them. -/
theorem RunEnv.TakesNotes.execute (startRip : U64) (d : DecodedInstruction)
    (g : Rig (Instrumented CoverageNotes)) :
    (Seven.execute env.toEnv startRip d g).2.world = g.world ∨
      (d.instr.code ≠ .invalid ∧ (Seven.execute env.toEnv startRip d g).2.world =
        visit (decodeInstructionAt env.decode g.state g.memory) isNext g.state.rip
          (prologue env.toEnv d g.state).event g.world) := by
  cases hreach : reachCore env.toEnv startRip d g with
  | none =>
    refine Or.inl ?_
    have hshort := execute_short hreach
    revert hshort
    generalize Seven.execute env.toEnv startRip d g = result
    -- An attempt that stops short of the core has run no instruction hook, or no hook at all.
    rintro (_ | _ | ⟨-, -, hbreak⟩ | ⟨-, -, -, htrap⟩ | ⟨-, -, -, htrap, hhook⟩)
    · unfold invalidOpcode Env.runTrapHooks
      rw [h.trap]
      rfl
    · rfl
    · have hworld := executeBreakpoints_world startRip (prologue env.toEnv d g.state)
        (suppressed g.state) (g.mapState clearSuppression)
      rw [hbreak] at hworld
      exact hworld
    · rw [h.traps] at htrap
      cases htrap
    · rw [h.instructionHooks] at hhook
      cases hhook
  | some g₁ =>
    rw [execute_core hreach, core_world]
    unfold reachCore at hreach
    -- It reached the core: the only way there is through the two hooks, which leave the notes.
    dsimp only at hreach
    split at hreach
    next => cases hreach
    next hvalid =>
      refine Or.inr ⟨hvalid, ?_⟩
      split at hreach
      next => cases hreach
      next =>
        split at hreach
        next => cases hreach
        next g₂ hbreak =>
          rw [executeBreakpoints_none hbreak, h.traps] at hreach
          dsimp only at hreach
          rw [h.instructionHooks] at hreach
          cases hreach
          rfl

end visit

/-! ## Code that stays -/

/-- Fetches read the pages, and no hook sees them. -/
structure Memory.PlainCode (m : Memory) : Prop where
  passthrough : m.passthroughRead = none
  regions : m.mmioRegions = []
  noFetchHooks : m.hasFetchAccessHooks = false

/-- Plain code can be fetched by pages. -/
theorem Memory.PlainCode.pages {m : Memory} (h : m.PlainCode) (rip : U64) : FetchesPages m rip := by
  refine ⟨h.passthrough, ?_⟩
  unfold Memory.findMmioRegion
  rw [h.regions]
  rfl

/-- It stays plain while only data changes. -/
theorem Memory.PlainCode.kept {m m' : Memory} (h : m.PlainCode) (hkept : Memory.CodeKept m m') :
    m'.PlainCode := by
  have hsame := hkept.access
  refine ⟨hsame.passthroughRead.trans h.passthrough, hsame.mmioRegions.trans h.regions, ?_⟩
  have hhooks := h.noFetchHooks
  unfold Memory.hasFetchAccessHooks at hhooks ⊢
  rw [hsame.accessHooks]
  exact hhooks

/-- **The decoder finds the same instructions** while mode and code stay. -/
theorem decodeInstructionAt_kept {decode : Decode} {s s' : CpuState} {m m' : Memory}
    (hplain : m.PlainCode) (hmode : s'.mode = s.mode) (hkept : Memory.CodeKept m m') :
    decodeInstructionAt decode s' m' = decodeInstructionAt decode s m := by
  funext rip
  have hplain' := hplain.kept hkept
  unfold decodeInstructionAt
  rw [(hplain'.pages rip).read_eq hplain'.noFetchHooks,
    (hplain.pages rip).read_eq hplain.noFetchHooks, Memory.copyFromPages_fetch_congr hkept.view,
    hmode]

/-- What the executor fetches is what the host decodes. -/
theorem fetch_decodeInstructionAt {W : Type} {env : Env W} (hdecode : DecodesWindow env.decode)
    {c : Caches} {g : Rig W} (hplain : g.memory.PlainCode)
    (hcoh : CachesCoherent env.decode env.simdProfileAllows c g.memory) :
    CachesCoherent env.decode env.simdProfileAllows (env.fetch (c, g)).1 g.memory ∧
      ∀ d, (env.fetch (c, g)).2 = .decoded d → d.instr.code ≠ .invalid →
        decodeInstructionAt env.decode g.state g.memory g.state.rip = some d.instr ∧
          d.instructionLength = advance d.instr := by
  obtain ⟨hcoh', hsame⟩ := env.fetch_agrees hdecode hcoh (fun _ => hplain.pages g.state.rip) c
  refine ⟨hcoh', fun d hd hvalid => ?_⟩
  rw [hsame] at hd
  unfold Env.fetch at hd
  rw [env.uncached_canUse, fetch_uncached] at hd
  unfold decodeInstructionAt
  split at hd
  next => cases hd
  next window hwindow =>
    have hdecoded : env.uncached.decode = env.decode := rfl
    rw [hdecoded] at hd
    rw [hwindow]
    dsimp only
    split at hd
    next => cases hd
    next instr hinstr =>
      rw [hinstr]
      cases hd
      exact ⟨if_neg hvalid, rfl⟩

/-- The mode and the code are still those of `m`. -/
structure Steady {W : Type} (m m' : Machine W) : Prop where
  mode : m'.state.mode = m.state.mode
  kept : Memory.CodeKept m.memory m'.memory

/-! ## Steps and runs -/

section run

variable {env : RunEnv (Instrumented CoverageNotes)} {isNext : Instruction → Bool}
  (h : env.TakesNotes isNext) {m₀ : Machine (Instrumented CoverageNotes)}
  (hplain : m₀.memory.PlainCode) (hlong : m₀.state.mode = .long64)

/-- The instructions at the start. -/
def RunEnv.codeOf (env : RunEnv (Instrumented CoverageNotes))
    (m₀ : Machine (Instrumented CoverageNotes)) : U64 → Option Instruction :=
  decodeInstructionAt env.decode m₀.state m₀.memory

/-- Caches and notes between two steps. -/
structure RunEnv.NotesReady (env : RunEnv (Instrumented CoverageNotes))
    (isNext : Instruction → Bool) (m₀ : Machine (Instrumented CoverageNotes)) (ex : Executor)
    (w : Instrumented CoverageNotes) : Prop where
  coherent : CachesCoherent env.decode env.simdProfileAllows ex.caches m₀.memory
  noted : Noted (env.codeOf m₀) isNext w

include h hplain hlong

/-- **One step** notes at most its own instruction. -/
theorem RunEnv.TakesNotes.step {ex : Executor} {m : Machine (Instrumented CoverageNotes)}
    (hsteady : Steady m₀ m) (hready : env.NotesReady isNext m₀ ex m.world) :
    env.NotesReady isNext m₀ (env.step ex m).2.1 (env.step ex m).2.2.world := by
  cases hrunning : ex.stopRequested with
  | true =>
    rw [Env.step_stopped hrunning h.stop]
    exact ⟨hready.coherent, hready.noted⟩
  | false =>
    let g : Rig (Instrumented CoverageNotes) := env.enter ex m
    have hg : g = ⟨⟨enterStep m.state, m.memory, m.world⟩, env.openLog ex.log⟩ := by
      show env.enter ex m = _
      unfold Env.enter syncContext
      rw [h.contextRead]
      rfl
    have hmemory : Memory.CodeKept m₀.memory g.memory := by
      rw [hg]
      exact hsteady.kept
    have hmode : g.state.mode = m₀.state.mode := by
      rw [hg]
      exact hsteady.mode
    have hcode : decodeInstructionAt env.decode g.state g.memory = env.codeOf m₀ :=
      decodeInstructionAt_kept hplain hmode hmemory
    -- The code bytes are those of the start, so the caches' decode and the block decoder agree.
    obtain ⟨hcoh, hfetch⟩ := fetch_decodeInstructionAt (g := g) h.decode (hplain.kept hmemory)
      (hready.coherent.advance hmemory.before)
    have hnoted : Noted (env.codeOf m₀) isNext
        (env.attemptFetched g.state.rip (env.fetch (ex.caches, g)).2 g).2.world := by
      have hbefore : Noted (env.codeOf m₀) isNext g.world := by
        rw [hg]
        exact hready.noted
      cases hfetched : (env.fetch (ex.caches, g)).2 with
      | pageFault => exact hbefore
      | decodeError => exact hbefore
      | decoded d =>
        -- Only an attempt that reaches the hooks adds a visit, and it adds that of its own
        -- address.
        rcases h.execute g.state.rip d g with hsame | ⟨hvalid, hvisit⟩
        · show Noted _ _ (Seven.execute env.toEnv g.state.rip d g).2.world
          rw [hsame]
          exact hbefore
        · obtain ⟨hinstr, hlength⟩ := hfetch d hfetched hvalid
          show Noted _ _ (Seven.execute env.toEnv g.state.rip d g).2.world
          rw [hvisit, hcode]
          refine hbefore.visit (by rw [← hcode]; exact hinstr) ?_
          show maskInstructionPointer g.state (g.state.rip + BitVec.ofNat 64 d.instructionLength) = _
          unfold maskInstructionPointer
          rw [hmode, hlong, hlength]
          exact BitVec.and_allOnes
    -- The conclusion reports faults and stops, and no hook listens to either.
    obtain ⟨r, g', hconclude, hworld⟩ := conclude_alone h.fault h.stop g.state.rip
      (env.attemptFetched g.state.rip (env.fetch (ex.caches, g)).2 g)
    have hattempt : env.attempt g.state.rip (ex.caches, g) =
        .done (r, (env.fetch (ex.caches, g)).1, g') := by
      rw [env.attempt_eq, hconclude]
      rfl
    rw [Env.step_done hrunning hattempt]
    unfold Env.leave syncContext
    rw [h.contextWrite]
    refine ⟨hcoh.advance (Or.inr ⟨hmemory.epoch, hmemory.view⟩), ?_⟩
    show Noted _ _ g'.world
    rw [hworld]
    exact hnoted

omit hplain hlong in
/-- The end of a run keeps the notes. -/
theorem RunEnv.TakesNotes.report (r : ExecutionResult)
    (s : Executor × Machine (Instrumented CoverageNotes)) :
    (env.report r s).2.2.world = s.2.world := by
  unfold RunEnv.report Env.reportStop Env.notifyStopHooks
  rw [h.stop]
  rfl

/-- **The notes of a run** in which mode and code stay. -/
theorem RunEnv.TakesNotes.run_noted {finish : ExecutionResult} {n : Nat}
    {t : Nat × Executor × Machine (Instrumented CoverageNotes)}
    (hready : env.NotesReady isNext m₀ t.2.1 t.2.2.world)
    (hsteady : ∀ k u, k < n → Reaches env.pass k t u → Steady m₀ u.2.2) :
    Noted (env.codeOf m₀) isNext
      (retry env.pass (fun u => env.report finish u.2) n t).2.2.world := by
  -- Induction on the steps left: each pass keeps the notes ready, and the report adds nothing.
  induction n generalizing t with
  | zero =>
    show Noted _ _ (env.report finish t.2).2.2.world
    rw [h.report]
    exact hready.noted
  | succ n ih =>
    have hcollected : (env.collect t.2).2.world = t.2.2.world := h.takeStop _
    have hfirst := hsteady 0 t (Nat.succ_pos n) (Reaches.refl t)
    have hnow : Steady m₀ (env.collect t.2).2 := ⟨hfirst.mode, hfirst.kept⟩
    have hcollectedReady : env.NotesReady isNext m₀ (env.collect t.2).1
        (env.collect t.2).2.world := by
      rw [hcollected]
      exact ⟨hready.coherent, hready.noted⟩
    have hstep := h.step hplain hlong hnow hcollectedReady
    cases hpass : env.pass t with
    | done r =>
      rw [retry_done hpass]
      unfold RunEnv.pass at hpass
      dsimp only at hpass
      split at hpass
      · cases hpass
        rw [h.report, hcollected]
        exact hready.noted
      · split at hpass
        · cases hpass
          exact hstep.noted
        · cases hpass
    | again t' =>
      rw [retry_again hpass]
      refine ih ?_ fun k u hk hreach => hsteady (k + 1) u (by omega) (hreach.again hpass)
      unfold RunEnv.pass at hpass
      dsimp only at hpass
      split at hpass
      · cases hpass
      · split at hpass
        · cases hpass
        · cases hpass
          exact hstep

end run

/-! ## A loop under observation -/

/-- `NOP` and a backward `JNE`. -/
def loopDecoder : Decode := fun _ bytes _ =>
  match bytes.head? with
  | some 0x90#8 => some { code := .other 0x90, length := 1 }
  | some 0x75#8 => some { code := .other 0x75, length := 2, nearBranch64 := 0x1000#64 }
  | _ => none

/-- The instruction falls through to the next. -/
def fallsOn (instr : Instruction) : Bool := instr.code == .other 0x90

/-- The environment of the instance. -/
def coverageEnv : RunEnv (Instrumented CoverageNotes) where
  decode := loopDecoder
  otherHandler code := match code with
    | .other 0x90 => some fun ctx => .ok () ctx
    | .other 0x75 => some (handleJcc .ne .rel8_64)
    | _ => none
  executionHooks :=
    [memoryExecutionHook fun rip notes => { notes with executed := notes.executed ++ [rip] }]
  instructionHooks :=
    [basicBlockHook loopDecoder fallsOn fun block notes =>
      { notes with blocks := notes.blocks ++ [block] }]

/-- Its hooks take notes only. -/
theorem coverageEnv_takesNotes : coverageEnv.TakesNotes fallsOn where
  execution := rfl
  instruction := rfl
  executionAddress _ := rfl
  code _ := rfl
  trap _ := rfl
  fault := rfl
  stop := rfl
  contextRead := rfl
  contextWrite := rfl
  takeStop _ := rfl
  decode bitness bytes rip := by
    show loopDecoder bitness bytes rip = loopDecoder bitness _ rip
    unfold loopDecoder maxInstructionLength
    cases bytes <;> rfl

/-- `NOP; NOP; JNE` back to the first. -/
def coverageMachine : Machine (Instrumented CoverageNotes) where
  state := { mode := .long64, rip := 0x1000#64 }
  memory := ((({} : Memory).map 0x1000#64 0x1000#64 kMemoryPermissionAll).writeUnchecked 0x1000#64
    [0x90#8, 0x90#8, 0x75#8, 0xFC#8]).1
  world := { host := {} }

/-- The machine after one more pass. -/
def coveragePass (t : Nat × Executor × Machine (Instrumented CoverageNotes)) :
    Nat × Executor × Machine (Instrumented CoverageNotes) :=
  match coverageEnv.pass t with
  | .again u => u
  | .done _ => t

/-- Its passes, one after the other. -/
theorem coverage_reaches {k : Nat} {t u : Nat × Executor × Machine (Instrumented CoverageNotes)}
    (h : Reaches coverageEnv.pass k t u) : u = coveragePass^[k] t := by
  induction h with
  | refl t => rfl
  | again hpass _ ih =>
    rw [ih, Function.iterate_succ_apply]
    unfold coveragePass
    rw [hpass]

set_option maxRecDepth 20000 in
/-- The mode and the code stay. -/
theorem coverage_steady {k : Nat} (hk : k < 4) :
    (coveragePass^[k] (0, {}, coverageMachine)).2.2.state.mode = .long64 ∧
      (coveragePass^[k] (0, {}, coverageMachine)).2.2.memory = coverageMachine.memory := by
  obtain rfl | rfl | rfl | rfl : k = 0 ∨ k = 1 ∨ k = 2 ∨ k = 3 := by omega
  all_goals exact ⟨rfl, rfl⟩

end Seven
