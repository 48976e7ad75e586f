import Seven.Executor.GuestInstructions

/-!
# A guest program: addition of long numbers

The loop with which every library of long integers adds two numbers of any
size, run by `Executor::run` from memory:

    loop:  LODSQ
           ADC   [RDI], RAX
           LEA   RDI, [RDI + 8]
           DEC   RCX
           JNE   loop

The sum comes out right only because of what its instructions leave alone:
the carry has to get from one `ADC` to the next, through a string load, an
address computation and a decrement. So the result is about five handlers
together with the caches, the fetch and the loop above them.
-/

namespace Seven

open Seven.Lib

variable {W : Type}

/-- The program, at an address; `lea` and `jne` are the numbers of two codes
that the core does not look at. -/
structure LongAddition (env : RunEnv W) (m : Memory) (lea jne : Nat) (start : U64) : Prop where
  lodsq : env.Installed m start { code := .string .lods .rm64, length := 2 } (stringImpl .lods 8)
  adc : env.Installed m (start + 2#64) (Guest.regMem (.rmw (.alu .adc .rm64R64)) 3 0 0 7 0#64)
    (handleAlu .adc .rm64R64)
  lea : env.Installed m (start + 5#64) (Guest.regMem (.other lea) 4 1 7 7 8#64) handleLeaR64M
  dec : env.Installed m (start + 9#64) (Guest.regReg (.rmw (.unary .dec .rm64)) 3 1 1)
    (handleUnary .dec .rm64)
  jne : env.Installed m (start + 12#64) (Guest.branch (.other jne) 2 start)
    (handleJcc .ne .rel8_64)

/-- The code stays while only data changes. -/
theorem LongAddition.kept {env : RunEnv W} {m m' : Memory} {lea jne : Nat} {start : U64}
    (h : LongAddition env m lea jne start) (hkept : Memory.CodeKept m m') :
    LongAddition env m' lea jne start :=
  ⟨h.lodsq.kept hkept, h.adc.kept hkept, h.lea.kept hkept, h.dec.kept hkept, h.jne.kept hkept⟩

namespace Guest

/-- Two numbers of `n` words each, of which the second takes the sum. -/
structure TwoNumbers (m : Memory) (n : Nat) (a b : U64) : Prop where
  size : 8 * n ≤ 2 ^ 64
  source : ∀ i < n, m.DataWord (Memory.wordAt a i)
  target : ∀ i < n, m.DataWord (Memory.wordAt b i)
  apart : ∀ i < n, ∀ j < n, Memory.WordsApart (Memory.wordAt b i) (Memory.wordAt a j)

/-- What a round of the loop does to the registers; `sum` is what its `ADC`
computed. -/
structure Round (start : U64) (s s' : CpuState) (sum : U64 × U64) : Prop where
  rip : s'.rip = if unsignedAt 8 (s.gpr 1) = 1 then start + 14#64 else start
  counter : s'.gpr 1 = s.gpr 1 - 1#64
  source : s'.gpr 6 = s.gpr 6 + 8#64
  target : s'.gpr 7 = s.gpr 7 + 8#64
  direction : flagSet s'.rflags kFlagDF = flagSet s.rflags kFlagDF
  carry : flagSet s'.rflags kFlagCF = flagSet sum.2 kFlagCF

variable {env : RunEnv W} {m : Memory} {lea jne : Nat} {start : U64}

/-- `DEC` leaves CF, and ZF says that the counter was one. -/
theorem dec_flags (rflags v : U64) :
    flagSet (unaryCompute .dec 8 rflags v).2 kFlagCF = flagSet rflags kFlagCF ∧
      flagSet (unaryCompute .dec 8 rflags v).2 kFlagZF = decide (unsignedAt 8 v = 1) := by
  constructor
  · exact flagSet_setFlag_self (by decide) _ _
  · refine (flagSet_setFlag_of_disjoint (by decide) _ _).trans ?_
    exact setSubFlags_equal (by decide) rflags v 1#64 false

/-- One round of the loop. -/
theorem long_addition_round (henv : env.Undisturbed) (hcode : LongAddition env m lea jne start)
    {s : CpuState} (hrip : s.rip = start) (hdf : flagSet s.rflags kFlagDF = false)
    (hsource : m.DataWord (s.gpr 6)) (htarget : m.DataWord (s.gpr 7)) :
    ∃ s', Leads env (Exactly s m) (Exactly s' (m.stored (s.gpr 7)
        (aluCompute .adc 8 s.rflags (m.word (s.gpr 7)) (m.word (s.gpr 6))).1 8)) ∧
      Round start s s' (aluCompute .adc 8 s.rflags (m.word (s.gpr 7)) (m.word (s.gpr 6))) := by
  let sum := aluCompute .adc 8 s.rflags (m.word (s.gpr 7)) (m.word (s.gpr 6))
  let m' := m.stored (s.gpr 7) sum.1 8
  have hcode' : LongAddition env m' lea jne start := hcode.kept (htarget.store_kept sum.1)
  -- the states between the instructions
  let s₁ := behind s 2 ((s.setGpr 0 (m.word (s.gpr 6))).setGpr 6 (s.gpr 6 + 8#64))
  let s₂ := behind s₁ 3 (setFlags s₁ sum.2)
  let s₃ := behind s₂ 4 (s₂.setGpr 7 (s₂.gpr 7 + 8#64))
  let dec := unaryCompute .dec 8 s₃.rflags (s₃.gpr 1)
  let s₄ := behind s₃ 3 ((setFlags s₃ dec.2).setGpr 1 dec.1)
  have h₁ : s₁.rip = start + 2#64 := congrArg (· + 2#64) hrip
  have h₂ : s₂.rip = start + 5#64 := behind_rip h₁ rfl
  have h₃ : s₃.rip = start + 9#64 := behind_rip h₂ rfl
  have h₄ : s₄.rip = start + 12#64 := behind_rip h₃ rfl
  have h₅ : (behind s₄ 2 s₄).rip = start + 14#64 := behind_rip h₄ rfl
  -- the instructions
  have hlodsq : Leads env (Exactly s m) (Exactly s₁ m) :=
    lodsq_rule henv (hcode.lodsq.here hrip) hdf hsource
  have hadc : Leads env (Exactly s₁ m) (Exactly s₂ m') :=
    alu_store_rule henv (hcode.adc.here h₁) (BitVec.add_zero (s.gpr 7)) htarget
  have hlea : Leads env (Exactly s₂ m') (Exactly s₃ m') := lea_rule henv (hcode'.lea.here h₂)
  have hdec : Leads env (Exactly s₃ m') (Exactly s₄ m') := unary_rule henv (hcode'.dec.here h₃)
  have hjne := jcc_rule henv (hcode'.jne.here h₄)
  refine ⟨_, hlodsq.seq (hadc.seq (hlea.seq (hdec.seq hjne))), ?_⟩
  have hcf : flagSet s₄.rflags kFlagCF = flagSet sum.2 kFlagCF := (dec_flags _ _).1
  have hdir : flagSet s₄.rflags kFlagDF = flagSet s.rflags kFlagDF := by
    have hframe (i : Nat) (hi : notStatus i) : s₄.rflags.getLsbD i = s.rflags.getLsbD i :=
      (unaryCompute_frame _ _ _ i hi).trans (aluCompute_frame _ _ _ _ i hi)
    exact flagSet_frame hframe (by decide : 10 < 64) (by decide)
  have hzf : evalCond s₄ .ne = !decide (unsignedAt 8 (s.gpr 1) = 1) :=
    congrArg (!·) (dec_flags s₃.rflags (s.gpr 1)).2
  have hgpr (i : Fin 16) :
      (if evalCond s₄ .ne = true then s₄.at start else behind s₄ 2 s₄).gpr i = s₄.gpr i := by
    split <;> rfl
  have hflags :
      (if evalCond s₄ .ne = true then s₄.at start else behind s₄ 2 s₄).rflags = s₄.rflags := by
    split <;> rfl
  refine ⟨?_, (hgpr 1).trans rfl, (hgpr 6).trans rfl, (hgpr 7).trans rfl, ?_, ?_⟩
  · by_cases hlast : unsignedAt 8 (s.gpr 1) = 1
    · rw [hzf, decide_eq_true hlast, if_pos hlast]
      exact h₅
    · rw [hzf, decide_eq_false hlast, if_neg hlast]
      rfl
  · rw [hflags]
    exact hdir
  · rw [hflags]
    exact hcf

/-! ## The loop -/

/-- A limb more. -/
theorem limbValue_words_succ (m : Memory) (a : U64) (i : Nat) :
    limbValue 8 (m.words a (i + 1)) =
      limbValue 8 (m.words a i) + 2 ^ (64 * i) * unsignedAt 8 (m.word (Memory.wordAt a i)) := by
  unfold limbValue
  rw [Memory.words_succ, List.map_append, Nat.ofDigits_append, List.map_singleton,
    Nat.ofDigits_singleton, List.length_map, Memory.words_length, ← Nat.pow_mul]

/-- The loop with `i` words done and `k` to go: the words done are those of
the sum of the words done, with the carry out of it in CF. -/
structure Adding (m₀ : Memory) (start a b : U64) (carry : Bool) (i k : Nat) (s : CpuState)
    (m : Memory) : Prop where
  rip : s.rip = if k = 0 then start + 14#64 else start
  counter : s.gpr 1 = BitVec.ofNat 64 k
  source : s.gpr 6 = Memory.wordAt a i
  target : s.gpr 7 = Memory.wordAt b i
  direction : flagSet s.rflags kFlagDF = false
  kept : Memory.CodeKept m₀ m
  others : ∀ x, (∀ j < i, Memory.WordsApart (Memory.wordAt b j) x) → m.word x = m₀.word x
  sum : limbValue 8 (m.words b i) + 2 ^ (64 * i) * (flagSet s.rflags kFlagCF).toNat =
    limbValue 8 (m₀.words a i) + limbValue 8 (m₀.words b i) + carry.toNat

/-- A round keeps the invariant. -/
theorem Adding.round (henv : env.Undisturbed) {m₀ : Memory} (hcode : LongAddition env m₀ lea jne start)
    {n : Nat} {a b : U64} (hdata : TwoNumbers m₀ n a b) {carry : Bool} {i k : Nat}
    (hn : i + (k + 1) = n) {s : CpuState} (h : Adding m₀ start a b carry i (k + 1) s m) :
    ∃ s' m', Leads env (Exactly s m) (Exactly s' m') ∧ Adding m₀ start a b carry (i + 1) k s' m' := by
  have hi : i < n := by omega
  have hsize := hdata.size
  have hsource : m.DataWord (s.gpr 6) := by
    rw [h.source]
    exact (hdata.source i hi).kept h.kept
  have htarget : m.DataWord (s.gpr 7) := by
    rw [h.target]
    exact (hdata.target i hi).kept h.kept
  obtain ⟨s', hleads, hround⟩ := long_addition_round henv (hcode.kept h.kept) h.rip h.direction
    hsource htarget
  -- the words of this round are still those the loop started with
  have ha : m.word (s.gpr 6) = m₀.word (Memory.wordAt a i) := by
    rw [h.source]
    exact h.others _ fun j hj => hdata.apart j (by omega) i hi
  have hb : m.word (s.gpr 7) = m₀.word (Memory.wordAt b i) := by
    rw [h.target]
    exact h.others _ fun j hj =>
      Memory.wordsApart_wordAt b hsize (by omega) hi (Nat.ne_of_lt hj)
  rw [ha, hb] at hleads hround
  let sum := aluCompute .adc 8 s.rflags (m₀.word (Memory.wordAt b i)) (m₀.word (Memory.wordAt a i))
  let m' := m.stored (s.gpr 7) sum.1 8
  have hother (x : U64) (hx : Memory.WordsApart (Memory.wordAt b i) x) : m'.word x = m.word x := by
    refine Memory.DataWord.word_stored_ne m ?_ sum.1
    rw [h.target]
    exact hx
  refine ⟨s', m', hleads, ?_, ?_, ?_, ?_, ?_, h.kept.trans (htarget.store_kept _), ?_, ?_⟩
  · have hcount : unsignedAt 8 (BitVec.ofNat 64 (k + 1)) = k + 1 := by
      unfold unsignedAt
      rw [BitVec.toNat_ofNat]
      omega
    rw [hround.rip, h.counter, hcount]
    simp
  · rw [hround.counter, h.counter]
    bv_omega
  · rw [hround.source, h.source, Memory.wordAt_succ]
  · rw [hround.target, h.target, Memory.wordAt_succ]
  · exact hround.direction.trans h.direction
  · intro x hx
    rw [hother x (hx i (Nat.lt_succ_self i))]
    exact h.others x fun j hj => hx j (by omega)
  · have hold : m'.words b i = m.words b i := Memory.words_congr fun j hj => hother _
      (Memory.wordsApart_wordAt b hsize hi (by omega) (by omega))
    have hnew : m'.word (Memory.wordAt b i) = sum.1 := by
      rw [← h.target]
      exact htarget.word_stored sum.1
    have hlimb : unsignedAt 8 sum.1 + 2 ^ 64 * (flagSet sum.2 kFlagCF).toNat =
        unsignedAt 8 (m₀.word (Memory.wordAt b i)) + unsignedAt 8 (m₀.word (Memory.wordAt a i)) +
          (flagSet s.rflags kFlagCF).toNat :=
      aluCompute_add (by decide) (by decide) _ _ _ (Or.inr rfl)
    have hsum := h.sum
    rw [limbValue_words_succ, limbValue_words_succ, limbValue_words_succ, hold, hnew, hround.carry,
      show 64 * (i + 1) = 64 * i + 64 by omega, Nat.pow_add]
    calc
      _ = limbValue 8 (m.words b i) + 2 ^ (64 * i) *
            (unsignedAt 8 sum.1 + 2 ^ 64 * (flagSet sum.2 kFlagCF).toNat) := by ring
      _ = (limbValue 8 (m.words b i) + 2 ^ (64 * i) * (flagSet s.rflags kFlagCF).toNat) +
            2 ^ (64 * i) * (unsignedAt 8 (m₀.word (Memory.wordAt a i)) +
              unsignedAt 8 (m₀.word (Memory.wordAt b i))) := by rw [hlimb]; ring
      _ = _ := by rw [hsum]; ring

/-- **Addition of long numbers.** Run from memory, the loop ends behind its
last instruction with the sum of the two numbers and CF in the words of the
second and the carry out of it in CF; every word apart from these is what it
was. -/
theorem long_addition (henv : env.Undisturbed) {ex : Executor} {g : Machine W}
    (hready : Ready env (0, ex, g)) (hcode : LongAddition env g.memory lea jne start)
    (hrip : g.state.rip = start) (hdf : flagSet g.state.rflags kFlagDF = false) {n : Nat}
    (hn : 0 < n) (hcount : g.state.gpr 1 = BitVec.ofNat 64 n)
    (hdata : TwoNumbers g.memory n (g.state.gpr 6) (g.state.gpr 7)) :
    ∃ steps, ∃ g' : Machine W, (env.run steps (ex, g)).2.2 = g' ∧
      (env.run steps (ex, g)).1 = { reason := .executionLimit, retired := steps } ∧
      g'.state.rip = start + 14#64 ∧
      limbValue 8 (g'.memory.words (g.state.gpr 7) n) +
          2 ^ (64 * n) * (flagSet g'.state.rflags kFlagCF).toNat =
        limbValue 8 (g.memory.words (g.state.gpr 6) n) +
          limbValue 8 (g.memory.words (g.state.gpr 7) n) +
          (flagSet g.state.rflags kFlagCF).toNat ∧
      ∀ x, (∀ i < n, Memory.WordsApart (Memory.wordAt (g.state.gpr 7) i) x) →
        g'.memory.word x = g.memory.word x := by
  -- After `i` rounds the sum of the first `i` limbs is in place, with the carry in CF.
  let invariant (k : Nat) (s : CpuState) (m : Memory) : Prop :=
    ∃ i, i + k = n ∧ Adding g.memory start (g.state.gpr 6) (g.state.gpr 7)
      (flagSet g.state.rflags kFlagCF) i k s m
  have hloop (k : Nat) : Leads env (invariant (k + 1)) (invariant k) := by
    refine of_exactly ?_
    rintro s m _ ⟨i, hi, hadding⟩
    obtain ⟨s', m', hleads, hadding'⟩ := hadding.round henv hcode hdata hi
    exact ⟨s', m', hleads, i + 1, by omega, hadding'⟩
  have hstart : invariant n g.state g.memory := by
    refine ⟨0, Nat.zero_add n, ?_, hcount, (BitVec.add_zero _).symm, (BitVec.add_zero _).symm, hdf,
      -- Before the first round nothing is added, and the carry is the one CF came with.
      Memory.CodeKept.refl _, fun _ _ => rfl, ?_⟩
    · rw [if_neg (Nat.ne_of_gt hn)]
      exact hrip
    · simp [limbValue]
  have hprogram : Leads env (invariant n) (invariant 0) := Leads.count hloop n
  obtain ⟨steps, hresult, i, hi, hdone⟩ := run henv hprogram hready hstart
  obtain rfl : i = n := hi
  exact ⟨steps, _, rfl, hresult, hdone.rip, hdone.sum, hdone.others⟩

/-! ## Two words -/

/-- `2 ^ 128 - 1` at `0x2000` and 1 at `0x2010`. -/
def additionMachine : Machine Unit where
  state := { mode := .long64, rip := 0x1000#64
             gpr := fun i => if i = 1 then 2#64 else if i = 6 then 0x2000#64 else
               if i = 7 then 0x2010#64 else 0#64 }
  memory := guestMemory
    [0x48#8, 0xAD#8, 0x48#8, 0x11#8, 0x07#8, 0x48#8, 0x8D#8, 0x7F#8, 0x08#8, 0x48#8, 0xFF#8, 0xC9#8,
      0x75#8, 0xF2#8] 0x2000#64 (List.replicate 16 0xFF#8 ++ [1#8])
  world := ()

/-- The code of the instance. -/
theorem additionMachine_code : LongAddition guestEnv additionMachine.memory 0x8D 0x75 0x1000#64 := by
  constructor <;> exact .of_decode rfl rfl rfl rfl (by decide) rfl rfl

/-- Its numbers. -/
theorem additionMachine_numbers :
    TwoNumbers additionMachine.memory 2 (additionMachine.state.gpr 6) (additionMachine.state.gpr 7) := by
  refine ⟨by decide, fun i hi => .of_pages ⟨rfl, rfl⟩ rfl rfl ?_,
    fun i hi => .of_pages ⟨rfl, rfl⟩ rfl rfl ?_, ?_⟩
  · revert i
    decide +kernel
  · revert i
    decide +kernel
  · unfold Memory.WordsApart
    decide +kernel

/-- `2 ^ 128 - 1` and 1 give 0 and a carry. -/
theorem long_addition_carry : ∃ steps, ∃ g' : Machine Unit,
    (guestEnv.run steps ({}, additionMachine)).2.2 = g' ∧
      limbValue 8 (g'.memory.words 0x2010#64 2) +
        2 ^ 128 * (flagSet g'.state.rflags kFlagCF).toNat = 2 ^ 128 := by
  have hready := @ready_fresh additionMachine ⟨rfl, rfl, rfl, rfl, rfl, rfl, rfl⟩
  obtain ⟨steps, g', hrun, -, -, hsum, -⟩ := @long_addition Unit guestEnv 0x8D 0x75 0x1000#64
    guestEnv_undisturbed {} additionMachine hready additionMachine_code rfl rfl 2 (by decide) rfl
    additionMachine_numbers
  refine ⟨steps, g', hrun, hsum.trans ?_⟩
  decide +kernel

end Guest

end Seven
