import Seven.Executor.GuestInstructions

/-!
# A guest program: Euclid's algorithm

    loop:  XOR   EDX, EDX
           DIV   RBX
           MOV   RAX, RBX
           MOV   RBX, RDX
           TEST  RBX, RBX
           JNE   loop

How often the loop runs depends on the two numbers. It ends because the
remainder that `DIV` leaves gets smaller each time, and the quotient always
fits because the high half of the dividend has been cleared.
-/

namespace Seven

open Seven.Lib

variable {W : Type}

/-- The program, at an address; the numbers are those of codes that the core
does not look at. -/
structure EuclidCode (env : RunEnv W) (m : Memory) (div mov test jne : Nat) (start : U64) : Prop where
  xor : env.Installed m start
    { code := .rmw (.alu .xor .rm32R32), length := 2, opRegister := fun _ => .r32 2 }
    (handleAlu .xor .rm32R32)
  div : env.Installed m (start + 2#64) (Guest.regReg (.other div) 3 3 3) handleDivRm64
  movRax : env.Installed m (start + 5#64) (Guest.regReg (.other mov) 3 0 3) (handleMovRRm .rm64)
  movRbx : env.Installed m (start + 8#64) (Guest.regReg (.other mov) 3 3 2) (handleMovRRm .rm64)
  test : env.Installed m (start + 11#64) (Guest.regReg (.other test) 3 3 3) (handleTest .rm64R64)
  jne : env.Installed m (start + 14#64) (Guest.branch (.other jne) 2 start) (handleJcc .ne .rel8_64)

namespace Guest

variable {env : RunEnv W} {m : Memory} {div mov test jne : Nat} {start : U64}

/-- One round: the pair `(a, b)` becomes `(b, a mod b)`. -/
theorem euclid_round (henv : env.Undisturbed) (hcode : EuclidCode env m div mov test jne start)
    {s : CpuState} (hrip : s.rip = start) (hne : s.gpr 3 ≠ 0#64) :
    ∃ s', Leads env (Exactly s m) (Exactly s' m) ∧
      s'.rip = (if s'.gpr 3 = 0#64 then start + 16#64 else start) ∧
      s'.gpr 0 = s.gpr 3 ∧ s'.gpr 3 = s.gpr 0 % s.gpr 3 := by
  obtain ⟨rflags, -, hxor⟩ := xor_self_rule henv (hcode.xor.here hrip)
  let s₁ := behind s 2 ((setFlags s rflags).setGpr 2 0#64)
  let s₂ := behind s₁ 3 ((s₁.setGpr 0 (s₁.gpr 0 / s₁.gpr 3)).setGpr 2 (s₁.gpr 0 % s₁.gpr 3))
  let s₃ := behind s₂ 3 (s₂.setGpr 0 (s₂.gpr 3))
  let s₄ := behind s₃ 3 (s₃.setGpr 3 (s₃.gpr 2))
  let s₅ := behind s₄ 3 (setFlags s₄ (setLogicFlags s₄.rflags (s₄.gpr 3 &&& s₄.gpr 3) 8))
  have h₁ : s₁.rip = start + 2#64 := congrArg (· + 2#64) hrip
  have h₂ : s₂.rip = start + 5#64 := behind_rip h₁ rfl
  have h₃ : s₃.rip = start + 8#64 := behind_rip h₂ rfl
  have h₄ : s₄.rip = start + 11#64 := behind_rip h₃ rfl
  have h₅ : s₅.rip = start + 14#64 := behind_rip h₄ rfl
  -- Each rule leaves RIP behind its own instruction.
  have h₆ : (behind s₅ 2 s₅).rip = start + 16#64 := behind_rip h₅ rfl
  have hdiv : Leads env (Exactly s₁ m) (Exactly s₂ m) := div_rule henv (hcode.div.here h₁) hne rfl
  have hmovRax : Leads env (Exactly s₂ m) (Exactly s₃ m) := mov_rule henv (hcode.movRax.here h₂)
  have hmovRbx : Leads env (Exactly s₃ m) (Exactly s₄ m) := mov_rule henv (hcode.movRbx.here h₃)
  have htest : Leads env (Exactly s₄ m) (Exactly s₅ m) := test_rule henv (hcode.test.here h₄)
  have hjne := jcc_rule henv (hcode.jne.here h₅)
  refine ⟨_, hxor.seq (hdiv.seq (hmovRax.seq (hmovRbx.seq (htest.seq hjne)))), ?_⟩
  have hzf : evalCond s₅ .ne = !(s₅.gpr 3 == 0#64) := congrArg (!·) (test_zero _ _)
  -- JNE goes back to the start while a remainder is left.
  by_cases hdone : s₅.gpr 3 = 0#64
  · rw [hzf, hdone, if_neg (by decide)]
    exact ⟨h₆.trans (if_pos hdone).symm, rfl, rfl⟩
  · rw [hzf, beq_eq_false_iff_ne.mpr hdone, if_pos (by decide)]
    exact ⟨(if_neg hdone).symm, rfl, rfl⟩

/-- **Euclid's algorithm.** For all numbers in `RAX` and `RBX`, the second not
zero, the loop ends behind its last instruction with their greatest common
divisor in `RAX` and zero in `RBX`. Memory is not written. -/
theorem euclid (henv : env.Undisturbed) {ex : Executor} {g : Machine W}
    (hready : Ready env (0, ex, g)) (hcode : EuclidCode env g.memory div mov test jne start)
    (hrip : g.state.rip = start) (hne : g.state.gpr 3 ≠ 0#64) :
    ∃ steps, ∃ g' : Machine W, (env.run steps (ex, g)).2.2 = g' ∧
      (env.run steps (ex, g)).1 = { reason := .executionLimit, retired := steps } ∧
      g'.state.rip = start + 16#64 ∧
      (g'.state.gpr 0).toNat = Nat.gcd (g.state.gpr 0).toNat (g.state.gpr 3).toNat ∧
      g'.state.gpr 3 = 0#64 ∧ g'.memory = g.memory := by
  let divisor := Nat.gcd (g.state.gpr 0).toNat (g.state.gpr 3).toNat
  let invariant (b : Nat) (s : CpuState) (m : Memory) : Prop :=
    (s.rip = start ∧ s.gpr 3 ≠ 0#64) ∧ m = g.memory ∧ (s.gpr 3).toNat = b ∧
      Nat.gcd (s.gpr 0).toNat (s.gpr 3).toNat = divisor
  let post (s : CpuState) (m : Memory) : Prop :=
    s.rip = start + 16#64 ∧ (s.gpr 0).toNat = divisor ∧ s.gpr 3 = 0#64 ∧ m = g.memory
  -- The divisor is the measure of the loop: the remainder that replaces it is smaller.
  have hround (b : Nat) :
      Leads env (invariant b) fun s m => post s m ∨ ∃ b', b' < b ∧ invariant b' s m := by
    refine of_exactly ?_
    rintro s m _ ⟨⟨hhere, hsome⟩, rfl, hb, hgcd⟩
    obtain ⟨s', hleads, hnext, ha', hb'⟩ := euclid_round henv hcode hhere hsome
    have hpos : 0 < (s.gpr 3).toNat := by
      rcases Nat.eq_zero_or_pos (s.gpr 3).toNat with hzero | hpos
      · exact absurd (BitVec.eq_of_toNat_eq hzero) hsome
      · exact hpos
    have hmod : (s'.gpr 3).toNat = (s.gpr 0).toNat % (s.gpr 3).toNat := by
      rw [hb', BitVec.toNat_umod]
    have hgcd' : Nat.gcd (s'.gpr 0).toNat (s'.gpr 3).toNat = divisor := by
      rw [ha', hmod, Nat.gcd_comm, ← Nat.gcd_rec, Nat.gcd_comm]
      exact hgcd
    refine ⟨s', g.memory, hleads, ?_⟩
    -- Out of the loop the remainder is zero, and the greatest divisor is the last one.
    by_cases hdone : s'.gpr 3 = 0#64
    · refine Or.inl ⟨hnext.trans (if_pos hdone), ?_, hdone, rfl⟩
      rw [hdone, BitVec.toNat_ofNat, Nat.zero_mod, Nat.gcd_zero_right] at hgcd'
      exact hgcd'
    · refine Or.inr ⟨_, ?_, ⟨hnext.trans (if_neg hdone), hdone⟩, rfl, rfl, hgcd'⟩
      rw [hmod, ← hb]
      exact Nat.mod_lt _ hpos
  have hstart : invariant (g.state.gpr 3).toNat g.state g.memory := ⟨⟨hrip, hne⟩, rfl, rfl, rfl⟩
  obtain ⟨steps, hresult, hdone⟩ := run henv (Leads.loop Nat.lt_wfRel.wf hround _) hready hstart
  exact ⟨steps, _, rfl, hresult, hdone⟩

/-! ## Two numbers -/

/-- `EAX` 48 and `EBX` 18. -/
def euclidMachine : Machine Unit where
  state := { mode := .long64, rip := 0x1000#64
             gpr := fun i => if i = 0 then 48#64 else if i = 3 then 18#64 else 0#64 }
  memory := guestMemory
    [0x31#8, 0xD2#8, 0x48#8, 0xF7#8, 0xF3#8, 0x48#8, 0x8B#8, 0xC3#8, 0x48#8, 0x8B#8, 0xDA#8, 0x48#8,
      0x85#8, 0xDB#8, 0x75#8, 0xF0#8] 0x2000#64 []
  world := ()

/-- Its code. -/
theorem euclidMachine_code :
    EuclidCode guestEnv euclidMachine.memory 0xF7 0x8B 0x85 0x75 0x1000#64 := by
  constructor <;> exact .of_decode rfl rfl rfl rfl (by decide) rfl rfl

/-- Their greatest common divisor. -/
theorem euclid_six : ∃ steps, ∃ g' : Machine Unit,
    (guestEnv.run steps ({}, euclidMachine)).2.2 = g' ∧ (g'.state.gpr 0).toNat = 6 := by
  have hready := @ready_fresh euclidMachine ⟨rfl, rfl, rfl, rfl, rfl, rfl, rfl⟩
  obtain ⟨steps, g', hrun, -, -, hgcd, -⟩ := @euclid Unit guestEnv 0xF7 0x8B 0x85 0x75 0x1000#64
    guestEnv_undisturbed {} euclidMachine hready euclidMachine_code rfl (by decide)
  exact ⟨steps, g', hrun, hgcd.trans (by decide)⟩

end Guest

end Seven
