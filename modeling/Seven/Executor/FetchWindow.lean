import Seven.Executor.DecodeCache

/-!
# The fifteen-byte window

A step fetches a window of fifteen bytes, whatever the length of the
instruction. An instruction at the end of a page is then at the mercy of the
bytes behind it: when the next page is not executable, the window cannot be
read and the step reports a page fault at an address that is mapped and
executable.

**Main result**: `fetch_instruction_iff` — where the pages answer the window
(no device and no passthrough does) and the caches hold nothing stale, an
instruction whose own bytes are executable is fetched exactly when its whole
window is, and otherwise the attempt is a fetch page fault.
-/

namespace Seven

open Seven.Lib

/-- Bytes behind an instruction do not matter to its decoding. -/
def DecodesPrefix (decode : Decode) : Prop :=
  ∀ bitness bytes rest rip instr, decode bitness bytes rip = some instr →
    decode bitness (bytes ++ rest) rip = some instr

/-- The bytes from `a` on are executable, and these. -/
def ExecutableBytes (m : Memory) (a : U64) (bytes : List Byte) : Prop :=
  ∀ i < bytes.length, m.fetchView (a + BitVec.ofNat 64 i) = bytes[i]?

/-- The window at `rip` is executable and no access hook refuses it. -/
structure WindowFetchable (m : Memory) (rip : U64) : Prop where
  executable : ∀ i < maxInstructionLength,
    accessible (hasPermission · .instructionFetch) m.pages (rip + BitVec.ofNat 64 i) = true
  allowed : ∀ window, ExecutableBytes m rip window → window.length = maxInstructionLength →
    m.accessAllowed
      ⟨.instructionFetch, rip, maxInstructionLength, some window, maxInstructionLength⟩ = true

/-- A readable window starts with the instruction's bytes. -/
theorem window_eq_append {m : Memory} {rip : U64} {bytes window : List Byte}
    (hbytes : ExecutableBytes m rip bytes) (hlen : bytes.length ≤ maxInstructionLength)
    (hwindow : Memory.copyFromPages (hasPermission · .instructionFetch) m.pages rip
      maxInstructionLength = some window) :
    window = bytes ++ window.drop bytes.length := by
  obtain ⟨hsize, hview⟩ := copyFromPages_eq_some_iff.mp hwindow
  have htake : window.take bytes.length = bytes := by
    apply List.ext_getElem?
    intro i
    by_cases hi : i < bytes.length
    · rw [List.getElem?_take_of_lt hi, ← hview i (by omega)]
      exact hbytes i hi
    · rw [List.getElem?_eq_none (by simp; omega), List.getElem?_eq_none (by omega)]
  calc window = window.take bytes.length ++ window.drop bytes.length :=
        (List.take_append_drop _ _).symm
    _ = bytes ++ window.drop bytes.length := by rw [htake]

/-- The read of the window, as the hooks and the pages decide it. -/
theorem read_window_isSome_iff {m : Memory} (hpass : m.passthroughRead = none) {rip : U64}
    (hmmio : m.findMmioRegion rip maxInstructionLength = none) :
    (m.read rip maxInstructionLength .instructionFetch).isSome ↔ WindowFetchable m rip := by
  rw [Memory.read_eq hpass hmmio (by decide)]
  cases hwindow : Memory.copyFromPages (hasPermission · .instructionFetch) m.pages rip
      maxInstructionLength with
  | none =>
    constructor
    · intro h
      cases h
    · intro h
      have hsome := copyFromPages_isSome_iff.mpr h.executable
      rw [hwindow] at hsome
      cases hsome
  | some window =>
    obtain ⟨hsize, hview⟩ := copyFromPages_eq_some_iff.mp hwindow
    have hexec : ExecutableBytes m rip window := fun i hi => hview i (by omega)
    simp only
    constructor
    · intro h
      split at h
      next hallow =>
        refine ⟨copyFromPages_isSome_iff.mp (by rw [hwindow]; rfl), ?_⟩
        intro window' hexec' hsize'
        -- there is only one window
        have hsame : window' = window := by
          apply List.ext_getElem?
          intro i
          by_cases hi : i < maxInstructionLength
          · rw [← hexec i (by omega), ← hexec' i (by omega)]
          · rw [List.getElem?_eq_none (by omega), List.getElem?_eq_none (by omega)]
        rw [hsame]
        exact hallow
      next => cases h
    · intro h
      rw [if_pos (h.allowed window hexec hsize)]
      rfl

/-- What the lookup without caches finds, for an instruction whose own bytes
are executable. -/
theorem fetch_uncached_window {decode : Decode} {simdProfileAllows : Instruction → Bool}
    (hextend : DecodesPrefix decode) (c : Caches) {state : CpuState} {m : Memory}
    (hpass : m.passthroughRead = none)
    (hmmio : m.findMmioRegion state.rip maxInstructionLength = none) {bytes : List Byte}
    (hlen : bytes.length ≤ maxInstructionLength) (hbytes : ExecutableBytes m state.rip bytes)
    {instr : Instruction}
    (hinstr : decode (decoderBitness state.mode) bytes state.rip = some instr) :
    (WindowFetchable m state.rip → (fetch decode simdProfileAllows false c state m).2 =
      .decoded (decodedInstruction simdProfileAllows instr)) ∧
    (¬ WindowFetchable m state.rip →
      (fetch decode simdProfileAllows false c state m).2 = .pageFault) := by
  have hiff := read_window_isSome_iff hpass hmmio
  simp only [fetch, fetchBytes, Bool.false_and, Bool.false_eq_true, if_false]
  cases hread : m.read state.rip maxInstructionLength .instructionFetch with
  | none =>
    rw [hread] at hiff
    refine ⟨fun h => ?_, fun _ => rfl⟩
    have hsome := hiff.mpr h
    cases hsome
  | some window =>
    rw [hread] at hiff
    refine ⟨fun _ => ?_, fun h => absurd (hiff.mp rfl) h⟩
    have hcopy := Memory.copyFromPages_of_read hpass hmmio (by decide) hread
    -- the instruction's bytes are the front of the window
    have hdecoded : decode (decoderBitness state.mode) window state.rip = some instr := by
      rw [window_eq_append hbytes hlen hcopy]
      exact hextend _ _ _ _ _ hinstr
    simp only [hdecoded]

section

variable {W : Type}

/-- The first attempt of the step executes this instruction. -/
def Env.ExecutesInstruction (env : Env W) (ex : Executor) (m : Machine W) (instr : Instruction) :
    Prop :=
  (env.fetch (ex.caches, env.enter ex m)).2 =
    .decoded (decodedInstruction env.simdProfileAllows instr)

/-- The first attempt of the step is a fetch page fault. -/
def Env.FetchFaults (env : Env W) (ex : Executor) (m : Machine W) : Prop :=
  (env.fetch (ex.caches, env.enter ex m)).2 = .pageFault

/-- **The fetch window, exactly**: an instruction whose own bytes are
executable is executed if its whole window can be fetched, and otherwise the
attempt is a fetch page fault. Devices elsewhere in the memory do not matter;
one that lies over the window answers the fetch instead of the pages. -/
theorem Env.fetch_instruction_iff (env : Env W) (hdecode : DecodesWindow env.decode)
    (hextend : DecodesPrefix env.decode) (ex : Executor) (m : Machine W)
    (hpass : m.memory.passthroughRead = none)
    (hmmio : m.memory.findMmioRegion (env.enter ex m).state.rip maxInstructionLength = none)
    (hcoh : CachesCoherent env.decode env.simdProfileAllows ex.caches m.memory)
    (bytes : List Byte) (hlen : bytes.length ≤ maxInstructionLength) (instr : Instruction)
    (hbytes : ExecutableBytes m.memory (env.enter ex m).state.rip bytes)
    (hinstr : env.decode (decoderBitness (env.enter ex m).state.mode) bytes
      (env.enter ex m).state.rip = some instr) :
    (env.ExecutesInstruction ex m instr ↔
      WindowFetchable m.memory (env.enter ex m).state.rip) ∧
    (env.FetchFaults ex m ↔ ¬ WindowFetchable m.memory (env.enter ex m).state.rip) := by
  have hmem : (env.enter ex m).memory = m.memory := env.enter_memory ex m
  have hagree : (env.fetch (ex.caches, env.enter ex m)).2 =
      (Seven.fetch env.decode env.simdProfileAllows false ex.caches (env.enter ex m).state
        m.memory).2 := by
    have h := env.fetch_agrees hdecode (g := env.enter ex m) (by rw [hmem]; exact hcoh)
      (fun _ => by rw [hmem]; exact ⟨hpass, hmmio⟩) ex.caches
    rw [h.2]
    unfold Env.fetch
    rw [env.uncached_canUse, hmem]
    rfl
  obtain ⟨hyes, hno⟩ := @fetch_uncached_window env.decode env.simdProfileAllows hextend ex.caches
    _ _ hpass hmmio bytes hlen hbytes instr hinstr
  unfold Env.ExecutesInstruction Env.FetchFaults
  rw [hagree]
  by_cases hw : WindowFetchable m.memory (env.enter ex m).state.rip
  · rw [hyes hw]
    exact ⟨iff_of_true rfl hw, iff_of_false (by simp) (fun h => h hw)⟩
  · rw [hno hw]
    exact ⟨iff_of_false (by simp) hw, iff_of_true rfl hw⟩

end

/-- A one-byte instruction in the last byte of a page, `size` bytes mapped
from the page on. -/
def pageEndMachine (size : U64) : Machine Unit :=
  { state := { rip := 0x1FFF#64 }
    memory :=
      ((Memory.map {} 0x1000#64 size kMemoryPermissionAll).writeUnchecked 0x1FFF#64 [0x90#8]).1
    world := () }

/-- A decoder of one byte reads no further. -/
theorem opcodeDecoder_extends : DecodesPrefix opcodeDecoder := by
  intro bitness bytes rest rip instr h
  cases bytes with
  | nil => cases h
  | cons b bs => exact h

/-- With the next page mapped the instruction is executed. -/
theorem Env.fetch_instruction_iff_next_page_mapped :
    opcodeEnv.ExecutesInstruction {} (pageEndMachine 0x2000#64) { code := .other 0x90, length := 1 } ∧
      ¬ opcodeEnv.FetchFaults {} (pageEndMachine 0x2000#64) := by
  have h := opcodeEnv.fetch_instruction_iff opcodeDecoder_window opcodeDecoder_extends {}
    (pageEndMachine 0x2000#64) rfl rfl (Caches.Empty.coherent ⟨fun _ => rfl, fun _ => rfl⟩ _)
    [0x90#8] (by decide) { code := .other 0x90, length := 1 } (by unfold ExecutableBytes; decide) rfl
  have hwindow : WindowFetchable (pageEndMachine 0x2000#64).memory
      (opcodeEnv.enter {} (pageEndMachine 0x2000#64)).state.rip := by
    refine ⟨by decide, fun window _ _ => rfl⟩
  exact ⟨h.1.mpr hwindow, fun hfault => h.2.mp hfault hwindow⟩

/-- With the next page unmapped the same instruction, mapped and executable
itself, is a page fault at its own address. -/
theorem Env.step_faults_before_unmapped_page :
    ExecutableBytes (pageEndMachine 0x1000#64).memory 0x1FFF#64 [0x90#8] ∧
      opcodeEnv.decode 64 [0x90#8] 0x1FFF#64 = some { code := .other 0x90, length := 1 } ∧
      (opcodeEnv.step {} (pageEndMachine 0x1000#64)).1 = faultAt .pageFault 0x1FFF#64 none := by
  refine ⟨by unfold ExecutableBytes; decide, rfl, by decide +kernel⟩

end Seven
