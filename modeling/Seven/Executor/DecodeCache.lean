import Seven.Lib.EpochCache
import Seven.Memory.FetchView
import Seven.Executor.Step

/-!
# The two caches in front of the decoder

Both caches stamp what they keep with the code epoch and serve it only
while the epoch is the same. That is sound as long as the epoch moves
whenever the bytes an instruction fetch would return do. The two histories
below are the epoch discipline of `Seven.Lib.EpochCache` for decoded
instructions and for code pages, `CachesCoherent` the invariant, and
`fetch_agrees` its use: a lookup through coherent caches finds what the
lookup without caches finds.

The memory does not keep the discipline everywhere. Assigning a fresh
`Memory` resets the epoch under warm caches, a write that fails may have
changed executable bytes before, and a passthrough or an MMIO region
changes what a fetch reads without touching the epoch. **Main result**:
`decodeCache_transparent` — in a run that avoids these, every step agrees
with the step that uses neither cache.
-/

namespace Seven

open Seven.Lib

/-- Decoding looks at no more than one instruction's worth of bytes. -/
def DecodesWindow (decode : Decode) : Prop :=
  ∀ bitness bytes rip, decode bitness bytes rip = decode bitness (bytes.take maxInstructionLength) rip

/-! ## What the caches record -/

section histories

variable (decode : Decode) (simdProfileAllows : Instruction → Bool)

/-- The window at an address decodes to this instruction in this mode. -/
def DecodesTo (m : Memory) (k : U64 × ExecutionMode) (d : DecodedInstruction) : Prop :=
  ∃ window instr,
    Memory.copyFromPages (hasPermission · .instructionFetch) m.pages k.1 maxInstructionLength =
      some window ∧
    decode (decoderBitness k.2) window k.1 = some instr ∧
    d = decodedInstruction simdProfileAllows instr

/-- The decode cache, as a cache with epochs. -/
def decodedHistory : EpochHistory Memory U64 (U64 × ExecutionMode) DecodedInstruction where
  Before := Memory.CodeBefore
  refl := Memory.CodeBefore.refl
  trans := Memory.CodeBefore.trans
  epoch := Memory.codeEpoch
  Holds := DecodesTo decode simdProfileAllows
  stable := by
    intro a b hab he k d h
    obtain ⟨window, instr, hwindow, hrest⟩ := h
    refine ⟨window, instr, ?_, hrest⟩
    rw [← Memory.copyFromPages_fetch_congr (hab.stable he)]
    exact hwindow

/-- The executable page at a base address holds these bytes. -/
def PageHolds (m : Memory) (base : U64) (bytes : List Byte) : Prop :=
  Memory.copyFromPages (hasPermission · .instructionFetch) m.pages base kPageSize = some bytes

/-- The code page cache, as a cache with epochs. -/
def codePageHistory : EpochHistory Memory U64 U64 (List Byte) where
  Before := Memory.CodeBefore
  refl := Memory.CodeBefore.refl
  trans := Memory.CodeBefore.trans
  epoch := Memory.codeEpoch
  Holds := PageHolds
  stable := by
    intro a b hab he k bytes h
    show Memory.copyFromPages _ b.pages k kPageSize = some bytes
    rw [← Memory.copyFromPages_fetch_congr (hab.stable he)]
    exact h

/-- The decode cache as slots. -/
def Caches.decodedSlots (c : Caches) :
    Slots (Fin kDecodeCacheSize) (U64 × ExecutionMode) U64 DecodedInstruction := fun i =>
  let e := c.decodeCache i
  if e.valid then some ((e.rip, e.mode), e.codeEpoch, e.toDecodedInstruction) else none

/-- The code-page cache as slots. -/
def Caches.codePageSlots (c : Caches) : Slots (Fin kCodePageCacheSize) U64 U64 (List Byte) := fun i =>
  let e := c.codePageCache i
  if e.valid then some (e.pageBase, e.codeEpoch, e.bytes) else none

/-- Every valid entry was right when it was filled. -/
structure CachesCoherent (c : Caches) (m : Memory) : Prop where
  decoded : Coherent (decodedHistory decode simdProfileAllows) m c.decodedSlots
  codePages : Coherent codePageHistory m c.codePageSlots

/-- Nothing can be served. -/
structure Caches.Empty (c : Caches) : Prop where
  decoded : ∀ i, (c.decodeCache i).valid = false
  codePages : ∀ i, (c.codePageCache i).valid = false

end histories

section

variable {decode : Decode} {simdProfileAllows : Instruction → Bool} {c : Caches} {m : Memory}

/-- Empty caches are coherent with every memory. -/
theorem Caches.Empty.coherent (h : c.Empty) (m : Memory) :
    CachesCoherent decode simdProfileAllows c m := by
  constructor
  · have hnone : c.decodedSlots = fun _ => none := by
      funext i
      simp only [Caches.decodedSlots, h.decoded i, Bool.false_eq_true, if_false]
    rw [hnone]
    exact coherent_empty m
  · have hnone : c.codePageSlots = fun _ => none := by
      funext i
      simp only [Caches.codePageSlots, h.codePages i, Bool.false_eq_true, if_false]
    rw [hnone]
    exact coherent_empty m

/-- The memory moves on without breaking the discipline. -/
theorem CachesCoherent.advance (h : CachesCoherent decode simdProfileAllows c m) {m' : Memory}
    (hm : Memory.CodeBefore m m') : CachesCoherent decode simdProfileAllows c m' :=
  ⟨coherent_advance h.decoded hm, coherent_advance h.codePages hm⟩

/-- A decode-cache entry that hits is right now. -/
theorem CachesCoherent.decoded_hit (h : CachesCoherent decode simdProfileAllows c m)
    {state : CpuState} {i : Fin kDecodeCacheSize}
    (hhit : (c.decodeCache i).hits state m.codeEpoch = true) :
    DecodesTo decode simdProfileAllows m (state.rip, state.mode)
      (c.decodeCache i).toDecodedInstruction := by
  simp only [DecodedInstructionCacheEntry.hits, Bool.and_eq_true, beq_iff_eq] at hhit
  obtain ⟨⟨⟨hvalid, hrip⟩, hepoch⟩, hmode⟩ := hhit
  have hslot : c.decodedSlots i = some ((state.rip, state.mode), (c.decodeCache i).codeEpoch,
      (c.decodeCache i).toDecodedInstruction) := by
    simp only [Caches.decodedSlots, hvalid, if_true, hrip, hmode]
  exact coherent_hit h.decoded hslot hepoch

/-- A code page that is served is the page now. -/
theorem CachesCoherent.codePage_hit (h : CachesCoherent decode simdProfileAllows c m)
    {base : U64} {i : Fin kCodePageCacheSize}
    (hserves : (c.codePageCache i).serves base m.codeEpoch = true) :
    PageHolds m base (c.codePageCache i).bytes := by
  simp only [CachedCodePageEntry.serves, Bool.and_eq_true, beq_iff_eq] at hserves
  obtain ⟨⟨hvalid, hbase⟩, hepoch⟩ := hserves
  have hslot : c.codePageSlots i = some (base, (c.codePageCache i).codeEpoch,
      (c.codePageCache i).bytes) := by
    simp only [Caches.codePageSlots, hvalid, if_true, hbase]
  exact coherent_hit h.codePages hslot hepoch

/-- Storing a decoded instruction that is right now. -/
theorem CachesCoherent.setDecoded (h : CachesCoherent decode simdProfileAllows c m)
    (i : Fin kDecodeCacheSize) {e : DecodedInstructionCacheEntry}
    (he : e.valid = true → e.codeEpoch = m.codeEpoch ∧
      DecodesTo decode simdProfileAllows m (e.rip, e.mode) e.toDecodedInstruction) :
    CachesCoherent decode simdProfileAllows (c.setDecoded i e) m := by
  refine ⟨coherent_update h.decoded i ?_ ?_, h.codePages⟩
  · intro j hj
    simp only [Caches.decodedSlots, Caches.setDecoded, if_neg hj]
  · intro k ep v hslot
    simp only [Caches.decodedSlots, Caches.setDecoded, if_true] at hslot
    split at hslot
    next hvalid =>
      cases hslot
      exact he hvalid
    next => cases hslot

/-- Storing a code page that is right now. -/
theorem CachesCoherent.setCodePage (h : CachesCoherent decode simdProfileAllows c m)
    (i : Fin kCodePageCacheSize) {e : CachedCodePageEntry}
    (he : e.valid = true → e.codeEpoch = m.codeEpoch ∧ PageHolds m e.pageBase e.bytes) :
    CachesCoherent decode simdProfileAllows (c.setCodePage i e) m := by
  refine ⟨h.decoded, coherent_update h.codePages i ?_ ?_⟩
  · intro j hj
    simp only [Caches.codePageSlots, Caches.setCodePage, if_neg hj]
  · intro k ep v hslot
    simp only [Caches.codePageSlots, Caches.setCodePage, if_true] at hslot
    split at hslot
    next hvalid =>
      cases hslot
      exact he hvalid
    next => cases hslot

/-! ## The lookup through the caches -/

/-- A fetch at `rip` reads the pages: no passthrough, no MMIO region over
the window. -/
structure FetchesPages (m : Memory) (rip : U64) : Prop where
  passthrough : m.passthroughRead = none
  mmio : m.findMmioRegion rip maxInstructionLength = none

/-- The fetch of a page is a read of it. -/
theorem FetchesPages.read_eq {rip : U64} (h : FetchesPages m rip)
    (hhooks : m.hasFetchAccessHooks = false) :
    m.read rip maxInstructionLength .instructionFetch =
      Memory.copyFromPages (hasPermission · .instructionFetch) m.pages rip maxInstructionLength := by
  rw [Memory.read_eq h.passthrough h.mmio (by decide)]
  cases Memory.copyFromPages (hasPermission · .instructionFetch) m.pages rip maxInstructionLength with
  | none => rfl
  | some temp =>
    simp only [Memory.accessAllowed_fetch hhooks, if_true]

/-- An address is its page and offset. -/
theorem rip_eq_pageBase_add (rip : U64) :
    rip = pageBaseOf rip + BitVec.ofNat 64 (pageOffsetOf rip) := by
  unfold pageOffsetOf
  rw [BitVec.ofNat_toNat, BitVec.setWidth_eq, BitVec.add_comm, BitVec.sub_add_cancel]

/-- The page tail the code-page cache hands out begins with the window, and
the cache stays coherent. -/
theorem fetchFromCodePage_spec (h : CachesCoherent decode simdProfileAllows c m)
    (hpass : m.passthroughRead = none) (rip : U64) :
    CachesCoherent decode simdProfileAllows (fetchFromCodePage c m rip).1 m ∧
    ∀ bytes, (fetchFromCodePage c m rip).2 = some bytes →
      Memory.copyFromPages (hasPermission · .instructionFetch) m.pages rip maxInstructionLength =
        some (bytes.take maxInstructionLength) := by
  unfold fetchFromCodePage
  simp only
  split
  next hfit =>
    -- the entry after the lookup, served or refilled
    generalize hentry : (if (c.codePageCache (codePageCacheIndex (pageBaseOf rip))).serves
        (pageBaseOf rip) m.codeEpoch = true
      then c.codePageCache (codePageCacheIndex (pageBaseOf rip))
      else (c.codePageCache (codePageCacheIndex (pageBaseOf rip))).refill m (pageBaseOf rip)) = entry
    have hright : entry.valid = true →
        entry.codeEpoch = m.codeEpoch ∧ PageHolds m entry.pageBase entry.bytes := by
      intro hvalid
      rw [← hentry] at hvalid ⊢
      split at hvalid
      next hserves =>
        rw [if_pos hserves]
        have hpage := h.codePage_hit hserves
        simp only [CachedCodePageEntry.serves, Bool.and_eq_true, beq_iff_eq] at hserves
        obtain ⟨⟨_, hbase⟩, hepoch⟩ := hserves
        refine ⟨hepoch, ?_⟩
        rw [hbase]
        exact hpage
      next hserves =>
        rw [if_neg hserves]
        unfold CachedCodePageEntry.refill at hvalid ⊢
        cases hread : m.readCodePage (pageBaseOf rip) with
        | none =>
          rw [hread] at hvalid
          cases hvalid
        | some bytes => exact ⟨rfl, Memory.readCodePage_eq_some hpass hread⟩
    refine ⟨h.setCodePage _ hright, ?_⟩
    intro bytes hbytes
    split at hbytes
    next hserves =>
      cases hbytes
      simp only [CachedCodePageEntry.serves, Bool.and_eq_true, beq_iff_eq] at hserves
      obtain ⟨⟨hvalid, hbase⟩, _⟩ := hserves
      have hpage := (hright hvalid).2
      rw [hbase] at hpage
      exact Memory.window_of_codePage (rip_eq_pageBase_add rip) hfit hpage
    next => cases hbytes
  next =>
    refine ⟨h, ?_⟩
    intro bytes hbytes
    cases hbytes

/-- With the caches in use, the bytes decoded begin with the window. -/
theorem fetchBytes_spec (h : CachesCoherent decode simdProfileAllows c m) {rip : U64}
    (hpages : FetchesPages m rip) (hhooks : m.hasFetchAccessHooks = false) :
    CachesCoherent decode simdProfileAllows (fetchBytes true c m rip).1 m ∧
    m.read rip maxInstructionLength .instructionFetch =
      (fetchBytes true c m rip).2.map (List.take maxInstructionLength) := by
  obtain ⟨hcoh, hbytes⟩ := fetchFromCodePage_spec h hpages.passthrough rip
  unfold fetchBytes
  simp only [if_true]
  cases hpage : (fetchFromCodePage c m rip).2 with
  | some bytes =>
    refine ⟨hcoh, ?_⟩
    rw [hpages.read_eq hhooks]
    exact hbytes bytes hpage
  | none =>
    refine ⟨hcoh, ?_⟩
    cases hread : m.read rip maxInstructionLength .instructionFetch with
    | none => rfl
    | some window =>
      -- a window is its own first fifteen bytes
      rw [hpages.read_eq hhooks] at hread
      have hlen := (copyFromPages_eq_some_iff.mp hread).1
      simp only [Option.map_some, List.take_of_length_le (Nat.le_of_eq hlen)]

/-- The lookup that uses no cache reads the window and decodes it. -/
theorem fetch_uncached (decode : Decode) (simdProfileAllows : Instruction → Bool) (c' : Caches)
    (state : CpuState) (m : Memory) :
    (fetch decode simdProfileAllows false c' state m).2 =
      match m.read state.rip maxInstructionLength .instructionFetch with
      | none => .pageFault
      | some window =>
        match decode (decoderBitness state.mode) window state.rip with
        | none => .decodeError
        | some instr => .decoded (decodedInstruction simdProfileAllows instr) := by
  simp only [fetch, fetchBytes, Bool.false_and, Bool.false_eq_true, if_false]
  cases m.read state.rip maxInstructionLength .instructionFetch with
  | none => rfl
  | some window =>
    simp only
    cases decode (decoderBitness state.mode) window state.rip <;> rfl

/-- **The lookup agrees with the lookup that uses no cache**, and leaves the
caches coherent. -/
theorem fetch_agrees (hdecode : DecodesWindow decode)
    (h : CachesCoherent decode simdProfileAllows c m) (canUse : Bool) (state : CpuState)
    (hpages : canUse = true → FetchesPages m state.rip ∧ m.hasFetchAccessHooks = false)
    (c' : Caches) :
    CachesCoherent decode simdProfileAllows
      (fetch decode simdProfileAllows canUse c state m).1 m ∧
    (fetch decode simdProfileAllows canUse c state m).2 =
      (fetch decode simdProfileAllows false c' state m).2 := by
  rw [fetch_uncached]
  cases canUse with
  | false =>
    simp only [fetch, fetchBytes, Bool.false_and, Bool.false_eq_true, if_false]
    cases m.read state.rip maxInstructionLength .instructionFetch with
    | none => exact ⟨h, rfl⟩
    | some window =>
      simp only
      cases decode (decoderBitness state.mode) window state.rip with
      | none => exact ⟨h, rfl⟩
      | some instr => exact ⟨h.setDecoded _ fun hv => absurd hv (by simp), rfl⟩
  | true =>
    obtain ⟨hplain, hhooks⟩ := hpages rfl
    unfold fetch
    simp only [Bool.true_and]
    split
    next hhit =>
      -- the decode cache hits: the entry is what the window decodes to
      obtain ⟨window, instr, hwindow, hinstr, hd⟩ := h.decoded_hit hhit
      refine ⟨h, ?_⟩
      rw [hplain.read_eq hhooks, hwindow]
      simp only [hinstr, hd]
    next =>
      obtain ⟨hcoh, hread⟩ := fetchBytes_spec h hplain hhooks
      rw [hread]
      cases hbytes : fetchBytes true c m state.rip with
      | mk c₁ found =>
        rw [hbytes] at hcoh hread
        cases found with
        | none => exact ⟨hcoh, rfl⟩
        | some bytes =>
          simp only [Option.map_some]
          rw [← hdecode]
          cases hinstr : decode (decoderBitness state.mode) bytes state.rip with
          | none => exact ⟨hcoh, rfl⟩
          | some instr =>
            refine ⟨hcoh.setDecoded _ fun _ => ⟨rfl, bytes.take maxInstructionLength, instr, ?_, ?_,
              rfl⟩, rfl⟩
            · rw [← hplain.read_eq hhooks]
              exact hread
            · rw [← hdecode]
              exact hinstr

end

/-! ## Lifetimes of an executor -/

section lifetimes

variable {W : Type}

/-- The step that uses neither cache. -/
def Env.uncached (env : Env W) : Env W := { env with decodeCacheDisabled := true }

/-- Two steps from one state agree: same result, same records, same machine. -/
def StepsAgree (r r' : ExecutionResult × Executor × Machine W) : Prop :=
  r.1 = r'.1 ∧ r.2.1.log = r'.2.1.log ∧ r.2.2 = r'.2.2

/-- The attempts of a step keep the discipline: each fetches from the pages
when it uses the caches, and the handler and the hooks change the memory by
safe operations only. -/
def Env.AttemptsSafe (env : Env W) (startRip : U64) : Nat → Caches × Rig W → Prop
  | 0, s => Memory.SafeChange s.2.memory (env.exhausted s).2.2.memory
  | n + 1, s =>
    (env.canUseDecodeCache s.2.memory = true → FetchesPages s.2.memory s.2.state.rip) ∧
      match env.attempt startRip s with
      | .done (_, _, g) => Memory.SafeChange s.2.memory g.memory
      | .again s' => Memory.SafeChange s.2.memory s'.2.memory ∧ Env.AttemptsSafe env startRip n s'

/-- What happens to an executor and the objects passed to it. -/
inductive Event where
  | step
  | memory (op : Memory.CodeOp)
  /-- a fresh `Memory` is assigned to the object -/
  | assignMemory
  /-- the host writes the CPU state -/
  | setState (state : CpuState)

/-- A session: the executor and the machine it runs on. -/
structure Session (W : Type) where
  executor : Executor
  machine : Machine W

/-- A step, or a change of the memory. -/
def Env.apply (env : Env W) (s : Session W) : Event → Session W
  | .step =>
    let (_, ex, m) := env.step s.executor s.machine
    ⟨ex, m⟩
  | .memory op => { s with machine := { s.machine with memory := op.apply s.machine.memory } }
  | .assignMemory => { s with machine := { s.machine with memory := {} } }
  | .setState state => { s with machine := { s.machine with state := state } }

/-- A history. -/
def Env.run (env : Env W) (s : Session W) (events : List Event) : Session W :=
  events.foldl env.apply s

/-- The condition on a step; under a stop request only the stop hooks run. -/
def Env.StepSafe (env : Env W) (s : Session W) : Prop :=
  if s.executor.stopRequested then
    Memory.SafeChange s.machine.memory (env.stopStep s.executor s.machine).2.2.memory
  else
    let g := env.enter s.executor s.machine
    env.AttemptsSafe g.state.rip kMaxFaultRetries (s.executor.caches, g)

/-- The condition on an event, in the state it happens in. -/
def Env.EventSafe (env : Env W) (s : Session W) : Event → Prop
  | .step => env.StepSafe s
  | .memory op => op.Safe s.machine.memory
  | .assignMemory => s.executor.caches.Empty
  | .setState _ => True

/-- Every event of the history leaves the caches able to tell. -/
def Env.RunSafe (env : Env W) (s : Session W) : List Event → Prop
  | [] => True
  | e :: events => env.EventSafe s e ∧ Env.RunSafe env (env.apply s e) events

/-- The invariant of a lifetime. -/
def Env.Coherent (env : Env W) (s : Session W) : Prop :=
  CachesCoherent env.decode env.simdProfileAllows s.executor.caches s.machine.memory

/-- Without hooks the cache is used. -/
theorem Env.uncached_canUse (env : Env W) (m : Memory) :
    env.uncached.canUseDecodeCache m = false := by
  simp only [Env.canUseDecodeCache, Env.uncached, Bool.not_true, Bool.and_false]

/-- Only the lookup knows whether the caches are used. -/
theorem Env.attempt_uncached (env : Env W) (startRip : U64) (s : Caches × Rig W) :
    env.uncached.attempt startRip s =
      withCaches (env.uncached.fetch s).1
        (env.conclude startRip (env.attemptFetched startRip (env.uncached.fetch s).2 s.2)) := rfl

/-- An attempt is a fetch and what follows it. -/
theorem Env.attempt_eq (env : Env W) (startRip : U64) (s : Caches × Rig W) :
    env.attempt startRip s =
      withCaches (env.fetch s).1
        (env.conclude startRip (env.attemptFetched startRip (env.fetch s).2 s.2)) := rfl

/-- The fetch gives what the decoder gives on the bytes of now. -/
theorem Env.fetch_agrees {env : Env W} (hdecode : DecodesWindow env.decode) {c : Caches} {g : Rig W}
    (hcoh : CachesCoherent env.decode env.simdProfileAllows c g.memory)
    (hpages : env.canUseDecodeCache g.memory = true → FetchesPages g.memory g.state.rip)
    (c' : Caches) :
    CachesCoherent env.decode env.simdProfileAllows (env.fetch (c, g)).1 g.memory ∧
      (env.fetch (c, g)).2 = (env.uncached.fetch (c', g)).2 := by
  have hhooks : env.canUseDecodeCache g.memory = true → g.memory.hasFetchAccessHooks = false := by
    intro h
    simp only [Env.canUseDecodeCache, Bool.and_eq_true, Bool.not_eq_true'] at h
    exact h.1
  have h := Seven.fetch_agrees hdecode hcoh (env.canUseDecodeCache g.memory) g.state
    (fun hcan => ⟨hpages hcan, hhooks hcan⟩) c'
  refine ⟨h.1, ?_⟩
  unfold Env.fetch
  rw [env.uncached_canUse]
  exact h.2

/-- What the two retry loops have in common at every attempt. -/
def Env.InStep (env : Env W) (startRip : U64) (n : Nat) (s s' : Caches × Rig W) : Prop :=
  s.2 = s'.2 ∧ CachesCoherent env.decode env.simdProfileAllows s.1 s.2.memory ∧
    env.AttemptsSafe startRip n s

/-- What their results have in common. -/
def Env.SameEnd (env : Env W) (r r' : ExecutionResult × Caches × Rig W) : Prop :=
  r.1 = r'.1 ∧ r.2.2 = r'.2.2 ∧
    CachesCoherent env.decode env.simdProfileAllows r.2.1 r.2.2.memory

/-- Step: the cached and the uncached session go on alike. -/
theorem Env.attempt_inStep {env : Env W} (hdecode : DecodesWindow env.decode) (startRip : U64)
    (n : Nat) (s s' : Caches × Rig W) (h : env.InStep startRip (n + 1) s s') :
    AnswersAgree env.SameEnd (env.InStep startRip n) (env.attempt startRip s)
      (env.uncached.attempt startRip s') := by
  obtain ⟨c, g⟩ := s
  obtain ⟨c', g'⟩ := s'
  obtain ⟨hg, hcoh, hpages, hchange⟩ := h
  cases hg
  obtain ⟨hcoh', hfetch⟩ := env.fetch_agrees hdecode hcoh hpages c'
  rw [env.attempt_eq] at hchange ⊢
  rw [env.attempt_uncached, ← hfetch]
  -- from here on the two attempts are one computation with different caches
  cases hend : env.conclude startRip (env.attemptFetched startRip (env.fetch (c, g)).2 g) with
  | done r =>
    simp only [hend, withCaches] at hchange
    exact ⟨rfl, rfl, hcoh'.advance hchange.before⟩
  | again g' =>
    simp only [hend, withCaches] at hchange
    exact ⟨rfl, hcoh'.advance hchange.1.before, hchange.2⟩

/-- **The attempts of the two steps agree**, and the caches stay coherent. -/
theorem Env.attempts_agree {env : Env W} (hdecode : DecodesWindow env.decode) (startRip : U64)
    (n : Nat) {c : Caches} (c' : Caches) {g : Rig W}
    (hcoh : CachesCoherent env.decode env.simdProfileAllows c g.memory)
    (hsafe : env.AttemptsSafe startRip n (c, g)) :
    env.SameEnd (env.attempts startRip n (c, g)) (env.uncached.attempts startRip n (c', g)) := by
  refine retry_sim (env.attempt_inStep hdecode startRip) ?_ n (c, g) (c', g) ⟨rfl, hcoh, hsafe⟩
  intro s s' h
  obtain ⟨hg, hcoh, hchange⟩ := h
  have hsame : env.uncached.exhausted s' = ((env.exhausted s).1, s'.1, (env.exhausted s).2.2) := by
    unfold Env.exhausted
    rw [hg]
    rfl
  rw [hsame]
  exact ⟨rfl, rfl, hcoh.advance hchange.before⟩

/-- One step: it agrees with the step without caches, and keeps the
invariant. -/
theorem Env.step_agrees {env : Env W} (hdecode : DecodesWindow env.decode) {s : Session W}
    (hcoh : env.Coherent s) (hsafe : env.StepSafe s) :
    StepsAgree (env.step s.executor s.machine) (env.uncached.step s.executor s.machine) ∧
      env.Coherent (env.apply s .step) := by
  unfold Env.StepSafe at hsafe
  cases hstop : s.executor.stopRequested with
  | true =>
    -- a stopped step fetches nothing, in neither machine
    rw [if_pos hstop] at hsafe
    have hstep : env.step s.executor s.machine = env.stopStep s.executor s.machine := if_pos hstop
    have hstep' : env.uncached.step s.executor s.machine = env.stopStep s.executor s.machine :=
      if_pos hstop
    refine ⟨⟨by rw [hstep, hstep'], by rw [hstep, hstep'], by rw [hstep, hstep']⟩, ?_⟩
    show CachesCoherent _ _ (env.step s.executor s.machine).2.1.caches
      (env.step s.executor s.machine).2.2.memory
    rw [hstep]
    exact CachesCoherent.advance hcoh hsafe.before
  | false =>
    have hrun : ¬ s.executor.stopRequested = true := by
      rw [hstop]
      decide
    rw [if_neg hrun] at hsafe
    have hcoh' : CachesCoherent env.decode env.simdProfileAllows s.executor.caches
        (env.enter s.executor s.machine).memory := by
      rw [env.enter_memory]
      exact hcoh
    -- the attempts agree one by one, and both steps are left in the same way
    obtain ⟨hres, hrig, hend⟩ :=
      env.attempts_agree hdecode _ kMaxFaultRetries s.executor.caches hcoh' hsafe
    have hstep : env.step s.executor s.machine = env.leave s.executor
        (env.attempts (env.enter s.executor s.machine).state.rip kMaxFaultRetries
          (s.executor.caches, env.enter s.executor s.machine)) := if_neg hrun
    have hstep' : env.uncached.step s.executor s.machine = env.leave s.executor
        (env.uncached.attempts (env.enter s.executor s.machine).state.rip kMaxFaultRetries
          (s.executor.caches, env.enter s.executor s.machine)) := if_neg hrun
    constructor
    · rw [hstep, hstep']
      unfold Env.leave
      rw [hres, hrig]
      exact ⟨rfl, rfl, rfl⟩
    · show CachesCoherent _ _ (env.step s.executor s.machine).2.1.caches
        (env.step s.executor s.machine).2.2.memory
      rw [hstep, env.leave_memory]
      exact hend

/-- An event keeps the invariant. -/
theorem Env.apply_coherent {env : Env W} (hdecode : DecodesWindow env.decode) {s : Session W}
    {e : Event} (hcoh : env.Coherent s) (hsafe : env.EventSafe s e) :
    env.Coherent (env.apply s e) := by
  cases e with
  | step => exact (env.step_agrees hdecode hcoh hsafe).2
  | memory op => exact CachesCoherent.advance hcoh (Memory.CodeOp.Safe.before hsafe)
  | assignMemory => exact Caches.Empty.coherent hsafe _
  | setState state => exact hcoh

/-- A safe run keeps the invariant up to any of its events. -/
theorem Env.run_coherent {env : Env W} (hdecode : DecodesWindow env.decode) {e : Event}
    {later : List Event} (events : List Event) (s : Session W) (hcoh : env.Coherent s)
    (hsafe : env.RunSafe s (events ++ e :: later)) :
    env.Coherent (env.run s events) ∧ env.EventSafe (env.run s events) e := by
  induction events generalizing s with
  | nil => exact ⟨hcoh, hsafe.1⟩
  | cons first events ih =>
    exact ih (env.apply s first) (env.apply_coherent hdecode hcoh hsafe.1) hsafe.2

/-- **Decode-cache transparency**: in a run that starts with empty caches
and keeps the discipline, every step agrees with the step that uses neither
cache. -/
theorem Env.decodeCache_transparent (env : Env W) (hdecode : DecodesWindow env.decode)
    (s : Session W) (hempty : s.executor.caches.Empty) (events later : List Event)
    (hsafe : env.RunSafe s (events ++ .step :: later)) :
    StepsAgree
      (env.step (env.run s events).executor (env.run s events).machine)
      (env.uncached.step (env.run s events).executor (env.run s events).machine) := by
  obtain ⟨hcoh, hstep⟩ := env.run_coherent hdecode events s (hempty.coherent _) hsafe
  exact (env.step_agrees hdecode hcoh hstep).1

end lifetimes

/-! ## One-byte opcodes

A decoder whose instructions are single bytes, for runs that can be
evaluated. -/

/-- A decoder of one byte. -/
def opcodeDecoder : Decode := fun _ bytes _ =>
  bytes.head?.map fun b => { code := .other b.toNat, length := 1 }

/-- It needs its window only. -/
theorem opcodeDecoder_window : DecodesWindow opcodeDecoder := by
  intro bitness bytes rip
  cases bytes <;> rfl

/-- Nothing else in the environment. -/
def opcodeEnv : Env Unit := { decode := opcodeDecoder }

/-- A fresh session. -/
def opcodeSession : Session Unit := ⟨{}, ⟨{}, {}, ()⟩⟩

/-- Map a code page, put an opcode at its start and point `RIP` there. -/
def loadOpcode (opcode : Byte) : List Event :=
  [.memory (.map 0x1000#64 0x1000#64 kMemoryPermissionAll),
    .memory (.writeUnchecked 0x1000#64 [opcode]), .setState { rip := 0x1000#64 }]

set_option maxRecDepth 20000 in
/-- Code that is overwritten between two steps. -/
theorem Env.decodeCache_transparent_overwrite :
    StepsAgree
      (opcodeEnv.step
        (opcodeEnv.run opcodeSession (loadOpcode 0xA0#8 ++ .step :: loadOpcode 0xB0#8)).executor
        (opcodeEnv.run opcodeSession (loadOpcode 0xA0#8 ++ .step :: loadOpcode 0xB0#8)).machine)
      (opcodeEnv.uncached.step
        (opcodeEnv.run opcodeSession (loadOpcode 0xA0#8 ++ .step :: loadOpcode 0xB0#8)).executor
        (opcodeEnv.run opcodeSession
          (loadOpcode 0xA0#8 ++ .step :: loadOpcode 0xB0#8)).machine) := by
  refine opcodeEnv.decodeCache_transparent opcodeDecoder_window opcodeSession
    ⟨fun _ => rfl, fun _ => rfl⟩ (loadOpcode 0xA0#8 ++ .step :: loadOpcode 0xB0#8) [] ?_
  have room (m : Memory) (h : decide m.EpochRoom = true) : m.EpochRoom := of_decide_eq_true h
  refine ⟨room _ rfl, ⟨room _ rfl, by decide, Or.inl rfl⟩, trivial, ?_, ?_⟩
  · exact ⟨fun _ => ⟨rfl, rfl⟩, Relation.ReflTransGen.refl⟩
  · refine ⟨room _ rfl, ⟨room _ rfl, by decide, Or.inl rfl⟩, trivial, ?_, trivial⟩
    exact ⟨fun _ => ⟨rfl, rfl⟩, Relation.ReflTransGen.refl⟩

/-- Warm caches, then a fresh `Memory` with other code at the same address:
the step runs the old instruction. -/
theorem Env.step_stale_after_assign :
    ¬ StepsAgree
      (opcodeEnv.step
        (opcodeEnv.run opcodeSession
          (loadOpcode 0xA0#8 ++ .step :: .assignMemory :: loadOpcode 0xB0#8)).executor
        (opcodeEnv.run opcodeSession
          (loadOpcode 0xA0#8 ++ .step :: .assignMemory :: loadOpcode 0xB0#8)).machine)
      (opcodeEnv.uncached.step
        (opcodeEnv.run opcodeSession
          (loadOpcode 0xA0#8 ++ .step :: .assignMemory :: loadOpcode 0xB0#8)).executor
        (opcodeEnv.run opcodeSession
          (loadOpcode 0xA0#8 ++ .step :: .assignMemory :: loadOpcode 0xB0#8)).machine) := by
  intro h
  have hresult := h.1
  revert hresult
  decide +kernel

end Seven
