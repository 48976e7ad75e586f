import Seven.Executor.GuestInstructions

/-!
# A guest program: the positions of the set bits

    loop:  TZCNT RAX, RBX
           STOSQ
           BLSR  RBX, RBX
           JNE   loop

The loop stores the positions of the bits that are set in `RBX`, from the
lowest to the highest, and ends when no bit is left. It rests on an agreement
of two handlers: the bit whose position `TZCNT` finds is the one that `BLSR`
clears (`setBits_cons`).
-/

namespace Seven

open Seven.Lib

variable {W : Type}

/-- The program, at an address; the numbers are those of codes that the core
does not look at. -/
structure BitListCode (env : RunEnv W) (m : Memory) (tzcnt blsr jne : Nat) (start : U64) : Prop where
  tzcnt : env.Installed m start (Guest.regReg (.other tzcnt) 5 0 3) (handleTzcnt .rm64)
  stosq : env.Installed m (start + 5#64) { code := .string .stos .rm64, length := 2 }
    (stringImpl .stos 8)
  blsr : env.Installed m (start + 7#64) (Guest.regReg (.other blsr) 5 3 3)
    (handleLowestBit .blsr .r64)
  jne : env.Installed m (start + 12#64) (Guest.branch (.other jne) 2 start)
    (handleJcc .ne .rel8_64)

/-- The code stays while only data changes. -/
theorem BitListCode.kept {env : RunEnv W} {m m' : Memory} {tzcnt blsr jne : Nat} {start : U64}
    (h : BitListCode env m tzcnt blsr jne start) (hkept : Memory.CodeKept m m') :
    BitListCode env m' tzcnt blsr jne start :=
  ⟨h.tzcnt.kept hkept, h.stosq.kept hkept, h.blsr.kept hkept, h.jne.kept hkept⟩

namespace Guest

variable {env : RunEnv W} {m : Memory} {tzcnt blsr jne : Nat} {start : U64}

/-- ZF of `BLSR`. -/
theorem lowestBitFlags_zero (rflags : U64) (out : U64 × Bool × Bool) (w : Nat) :
    flagSet (lowestBitFlags rflags out w) kFlagZF = out.2.1 := by
  unfold lowestBitFlags
  simp only [flagSet_setFlag_of_disjoint (show kFlagPF &&& kFlagZF = 0#64 from rfl),
    flagSet_setFlag_of_disjoint (show kFlagAF &&& kFlagZF = 0#64 from rfl),
    flagSet_setFlag_of_disjoint (show kFlagOF &&& kFlagZF = 0#64 from rfl),
    flagSet_setFlag_of_disjoint (show kFlagCF &&& kFlagZF = 0#64 from rfl)]
  exact flagSet_setFlag_self (by decide) _ _

/-- One round of the loop. -/
theorem bit_list_round (henv : env.Undisturbed) (hcode : BitListCode env m tzcnt blsr jne start)
    {s : CpuState} (hrip : s.rip = start) (hdf : flagSet s.rflags kFlagDF = false)
    (htarget : m.DataWord (s.gpr 7)) :
    ∃ s', Leads env (Exactly s m) (Exactly s' (m.stored (s.gpr 7) (countrZero (s.gpr 3)) 8)) ∧
      s'.rip = (if s'.gpr 3 = 0#64 then start + 14#64 else start) ∧
      s'.gpr 3 = s.gpr 3 &&& (s.gpr 3 - 1#64) ∧ s'.gpr 7 = s.gpr 7 + 8#64 ∧
      flagSet s'.rflags kFlagDF = false := by
  let m' := m.stored (s.gpr 7) (countrZero (s.gpr 3)) 8
  have hcode' : BitListCode env m' tzcnt blsr jne start := hcode.kept (htarget.store_kept _)
  let s₁ := behind s 5 (setFlags (s.setGpr 0 (countrZero (s.gpr 3)))
    (setFlag (setFlag (clearCountFlags s.rflags) kFlagCF (s.gpr 3 == 0#64)) kFlagZF
      (countrZero (s.gpr 3) == 0#64)))
  let s₂ := behind s₁ 2 (s₁.setGpr 7 (s₁.gpr 7 + 8#64))
  let flags := lowestBitFlags s₂.rflags (LowestBitOp.blsr.compute (s₂.gpr 3)) 8
  let s₃ := behind s₂ 5 ((setFlags s₂ flags).setGpr 3 (s₂.gpr 3 &&& (s₂.gpr 3 - 1#64)))
  have h₁ : s₁.rip = start + 5#64 := congrArg (· + 5#64) hrip
  have h₂ : s₂.rip = start + 7#64 := behind_rip h₁ rfl
  have h₃ : s₃.rip = start + 12#64 := behind_rip h₂ rfl
  have h₄ : (behind s₃ 2 s₃).rip = start + 14#64 := behind_rip h₃ rfl
  -- TZCNT and BLSR write status flags only, so DF stays clear for the STOSQ.
  have hframe₁ (i : Nat) (hi : notStatus i) : s₁.rflags.getLsbD i = s.rflags.getLsbD i :=
    countFlags_frame hi ..
  have hframe₃ (i : Nat) (hi : notStatus i) : s₃.rflags.getLsbD i = s.rflags.getLsbD i :=
    (lowestBitFlags_frame hi ..).trans (hframe₁ i hi)
  have hdf₁ : flagSet s₁.rflags kFlagDF = false :=
    (flagSet_frame hframe₁ (by decide : 10 < 64) (by decide)).trans hdf
  have hdf₃ : flagSet s₃.rflags kFlagDF = false :=
    (flagSet_frame hframe₃ (by decide : 10 < 64) (by decide)).trans hdf
  -- The rules of the four instructions, one after the other.
  have htzcnt : Leads env (Exactly s m) (Exactly s₁ m) := tzcnt_rule henv (hcode.tzcnt.here hrip)
  have hstosq : Leads env (Exactly s₁ m) (Exactly s₂ m') :=
    stosq_rule henv (hcode.stosq.here h₁) hdf₁ htarget
  have hblsr : Leads env (Exactly s₂ m') (Exactly s₃ m') := blsr_rule henv (hcode'.blsr.here h₂)
  have hjne := jcc_rule henv (hcode'.jne.here h₃)
  refine ⟨_, htzcnt.seq (hstosq.seq (hblsr.seq hjne)), ?_⟩
  -- JNE looks at the zero flag that BLSR left.
  have hzf : evalCond s₃ .ne = !(s₃.gpr 3 == 0#64) := by
    refine congrArg (!·) ?_
    exact lowestBitFlags_zero ..
  by_cases hdone : s₃.gpr 3 = 0#64
  · rw [hzf, hdone, if_neg (by decide)]
    exact ⟨h₄.trans (if_pos hdone).symm, rfl, rfl, hdf₃⟩
  · rw [hzf, beq_eq_false_iff_ne.mpr hdone, if_pos (by decide)]
    exact ⟨(if_neg hdone).symm, rfl, rfl, hdf₃⟩

/-- The loop with the positions `done` stored and `k` bits left. -/
structure Listing (m₀ : Memory) (start a v : U64) (done : List Nat) (k : Nat) (s : CpuState)
    (m : Memory) : Prop where
  rip : s.rip = if k = 0 then start + 14#64 else start
  split : done ++ setBits (s.gpr 3) = setBits v
  left : (setBits (s.gpr 3)).length = k
  target : s.gpr 7 = Memory.wordAt a done.length
  direction : flagSet s.rflags kFlagDF = false
  kept : Memory.CodeKept m₀ m
  stored : m.words a done.length = done.map (BitVec.ofNat 64)
  others : ∀ x, (∀ j < done.length, Memory.WordsApart (Memory.wordAt a j) x) →
    m.word x = m₀.word x

/-- A round stores the first position that is left. -/
theorem Listing.round (henv : env.Undisturbed) {m₀ : Memory}
    (hcode : BitListCode env m₀ tzcnt blsr jne start) {a v : U64}
    (hroom : ∀ i < (setBits v).length, m₀.DataWord (Memory.wordAt a i)) {done : List Nat} {k : Nat}
    {s : CpuState} (h : Listing m₀ start a v done (k + 1) s m) :
    ∃ s' m', Leads env (Exactly s m) (Exactly s' m') ∧
      ∃ done', Listing m₀ start a v done' k s' m' := by
  have hlength : done.length + (k + 1) = (setBits v).length := by
    rw [← h.split, List.length_append, h.left]
  have hbound : (setBits v).length ≤ 64 :=
    (List.length_filter_le _ _).trans (by rw [List.length_range])
  have htarget : m.DataWord (s.gpr 7) := by
    rw [h.target]
    exact (hroom _ (by omega)).kept h.kept
  obtain ⟨s', hleads, hrip, hvalue, hpointer, hdf⟩ :=
    bit_list_round henv (hcode.kept h.kept) h.rip h.direction htarget
  -- A bit is left, so the word is not zero and TZCNT finds its lowest one.
  have hne : s.gpr 3 ≠ 0#64 := by
    intro hzero
    have hleft := h.left
    rw [setBits_eq_nil_iff.mpr hzero] at hleft
    cases hleft
  obtain ⟨-, hlowest⟩ := lowestBit_countrZero (Nat.le_refl 64) (s.gpr 3).isLt hne
  rw [BitVec.setWidth_eq] at hlowest
  have hcons := setBits_cons hlowest
  rw [← hvalue] at hcons
  -- BLSR clears that bit, and one fewer is left.
  have hleft : (setBits (s'.gpr 3)).length = k := by
    have hcount := h.left
    rw [hcons, List.length_cons] at hcount
    omega
  let position := (countrZero (s.gpr 3)).toNat
  let m' := m.stored (s.gpr 7) (countrZero (s.gpr 3)) 8
  have hother (x : U64) (hx : Memory.WordsApart (Memory.wordAt a done.length) x) :
      m'.word x = m.word x := by
    refine Memory.DataWord.word_stored_ne m ?_ _
    rw [h.target]
    exact hx
  refine ⟨s', m', hleads, done ++ [position], ?_, ?_, hleft, ?_, hdf, h.kept.trans (htarget.store_kept _),
    ?_, ?_⟩
  -- RIP, the split of the positions, the pointer, the words stored and the other words in turn.
  · rw [hrip]
    refine if_congr ?_ rfl rfl
    rw [← setBits_eq_nil_iff, ← hleft, List.length_eq_zero_iff]
  · rw [List.append_assoc, List.singleton_append, ← hcons]
    exact h.split
  · rw [hpointer, h.target, List.length_append, List.length_singleton, Memory.wordAt_succ]
  · have hold : m'.words a done.length = m.words a done.length := by
      refine Memory.words_congr fun j hj => hother _ ?_
      exact Memory.wordsApart_wordAt a (by omega : 8 * 64 ≤ 2 ^ 64) (by omega) (by omega) (by omega)
    have hnew : m'.word (Memory.wordAt a done.length) = countrZero (s.gpr 3) := by
      rw [← h.target]
      exact htarget.word_stored _
    rw [List.length_append, List.length_singleton, Memory.words_succ, hold, hnew, h.stored,
      List.map_append, List.map_singleton, BitVec.ofNat_toNat, BitVec.setWidth_eq]
  · intro x hx
    rw [List.length_append, List.length_singleton] at hx
    rw [hother x (hx _ (Nat.lt_succ_self _))]
    exact h.others x fun j hj => hx j (by omega)

/-- **The positions of the set bits.** From any number but zero the loop ends
behind its last instruction, with nothing left in `RBX` and exactly the
positions of the set bits in memory, in ascending order; every word apart from
these is what it was. -/
theorem bit_list (henv : env.Undisturbed) {ex : Executor} {g : Machine W}
    (hready : Ready env (0, ex, g)) (hcode : BitListCode env g.memory tzcnt blsr jne start)
    (hrip : g.state.rip = start) (hdf : flagSet g.state.rflags kFlagDF = false)
    (hne : g.state.gpr 3 ≠ 0#64)
    (hroom : ∀ i < (setBits (g.state.gpr 3)).length,
      g.memory.DataWord (Memory.wordAt (g.state.gpr 7) i)) :
    ∃ steps, ∃ g' : Machine W, (env.run steps (ex, g)).2.2 = g' ∧
      (env.run steps (ex, g)).1 = { reason := .executionLimit, retired := steps } ∧
      g'.state.rip = start + 14#64 ∧ g'.state.gpr 3 = 0#64 ∧
      g'.memory.words (g.state.gpr 7) (setBits (g.state.gpr 3)).length =
        (setBits (g.state.gpr 3)).map (BitVec.ofNat 64) ∧
      ∀ x, (∀ i < (setBits (g.state.gpr 3)).length,
          Memory.WordsApart (Memory.wordAt (g.state.gpr 7) i) x) →
        g'.memory.word x = g.memory.word x := by
  -- The loop's measure is the number of bits still to be listed.
  let invariant (k : Nat) (s : CpuState) (m : Memory) : Prop :=
    ∃ done, Listing g.memory start (g.state.gpr 7) (g.state.gpr 3) done k s m
  have hloop (k : Nat) : Leads env (invariant (k + 1)) (invariant k) := by
    refine of_exactly ?_
    rintro s m _ ⟨done, hlisting⟩
    exact hlisting.round henv hcode hroom
  have hstart : invariant (setBits (g.state.gpr 3)).length g.state g.memory := by
    refine ⟨[], ?_, rfl, rfl, (BitVec.add_zero _).symm, hdf, Memory.CodeKept.refl _, rfl,
      fun _ _ => rfl⟩
    rw [if_neg fun h => hne (setBits_eq_nil (List.length_eq_zero_iff.mp h))]
    exact hrip
  obtain ⟨steps, hresult, done, hdone⟩ := run henv (Leads.count hloop _) hready hstart
  -- With none left the positions listed are all of them.
  have hnil := List.length_eq_zero_iff.mp hdone.left
  have hall := hdone.split
  rw [hnil, List.append_nil] at hall
  rw [← hall]
  exact ⟨steps, _, rfl, hresult, hdone.rip, setBits_eq_nil hnil, hdone.stored, hdone.others⟩

/-! ## Three bits -/

/-- The mask `0x29`. -/
def bitListMachine : Machine Unit where
  state := { mode := .long64, rip := 0x1000#64
             gpr := fun i => if i = 3 then 0x29#64 else if i = 7 then 0x2000#64 else 0#64 }
  memory := guestMemory
    [0xF3#8, 0x48#8, 0x0F#8, 0xBC#8, 0xC3#8, 0x48#8, 0xAB#8, 0xC4#8, 0xE2#8, 0xE0#8, 0xF3#8, 0xCB#8,
      0x75#8, 0xF2#8] 0x2000#64 []
  world := ()

/-- Its code. -/
theorem bitListMachine_code :
    BitListCode guestEnv bitListMachine.memory 0xBC 0xF3 0x75 0x1000#64 := by
  constructor <;> exact .of_decode rfl rfl rfl rfl (by decide) rfl rfl

/-- It has the bits 0, 3 and 5. -/
theorem bit_list_three : ∃ steps, ∃ g' : Machine Unit,
    (guestEnv.run steps ({}, bitListMachine)).2.2 = g' ∧
      g'.memory.words 0x2000#64 3 = [0#64, 3#64, 5#64] := by
  have hready := @ready_fresh bitListMachine ⟨rfl, rfl, rfl, rfl, rfl, rfl, rfl⟩
  have hbits : setBits 0x29#64 = [0, 3, 5] := by decide
  have hroom : ∀ i < 3, bitListMachine.memory.DataWord (Memory.wordAt 0x2000#64 i) := by
    refine fun i hi => .of_pages ⟨rfl, rfl⟩ rfl rfl ?_
    revert i
    decide +kernel
  have hlength : (setBits (bitListMachine.state.gpr 3)).length = 3 := congrArg List.length hbits
  obtain ⟨steps, g', hrun, -, -, -, hstored, -⟩ := @bit_list Unit guestEnv 0xBC 0xF3 0x75 0x1000#64
    guestEnv_undisturbed {} bitListMachine hready bitListMachine_code rfl rfl (by decide)
    (hlength ▸ hroom)
  rw [hlength] at hstored
  exact ⟨steps, g', hrun, hstored.trans (congrArg (List.map (BitVec.ofNat 64)) hbits)⟩

end Guest

end Seven
