import Mathlib.Data.Nat.Factorial.Basic
import Seven.Executor.GuestInstructions

/-!
# A guest program: a procedure that calls itself

    factorial:  TEST  RDI, RDI
                JNE   again
                MOV   EAX, 1
                RET
    again:      PUSH  RDI
                DEC   RDI
                CALL  factorial
                POP   RDI
                IMUL  RAX, RDI
                RET

Every level finds its return address and its argument on the stack again,
below which the levels it calls have come and gone. What a call may rely on is
`Returned`: the result, the registers that are kept, and the words above the
part of the stack that it uses.
-/

namespace Seven

open Seven.Lib

variable {W : Type}

/-- The program, at an address; the numbers are those of codes that the core
does not look at. -/
structure FactorialCode (env : RunEnv W) (m : Memory) (test jne mov imul : Nat) (start : U64) :
    Prop where
  test : env.Installed m start (Guest.regReg (.other test) 3 7 7) (handleTest .rm64R64)
  jne : env.Installed m (start + 3#64) (Guest.branch (.other jne) 2 (start + 11#64))
    (handleJcc .ne .rel8_64)
  mov : env.Installed m (start + 5#64)
    { code := .other mov, length := 5, opRegister := fun _ => .r32 0, immediate32 := 1#64 }
    (handleMovRImm .rm32)
  done : env.Installed m (start + 10#64) { code := .stack .retnq, length := 1 } (retWidth 8 false)
  push : env.Installed m (start + 11#64) (Guest.regReg (.stack .pushR64) 1 7 7) (pushOperandWidth 8)
  dec : env.Installed m (start + 12#64) (Guest.regReg (.rmw (.unary .dec .rm64)) 3 7 7)
    (handleUnary .dec .rm64)
  call : env.Installed m (start + 15#64) (Guest.branch (.stack .callRel32_64) 5 start)
    (callRelWidth 8)
  pop : env.Installed m (start + 20#64) (Guest.regReg (.stack .popR64) 1 7 7) (popOperandWidth 8)
  imul : env.Installed m (start + 21#64) (Guest.regReg (.other imul) 4 0 7) (imulRegRm 128 8)
  ret : env.Installed m (start + 25#64) { code := .stack .retnq, length := 1 } (retWidth 8 false)

/-- The code stays while only data changes. -/
theorem FactorialCode.kept {env : RunEnv W} {m m' : Memory} {test jne mov imul : Nat} {start : U64}
    (h : FactorialCode env m test jne mov imul start) (hkept : Memory.CodeKept m m') :
    FactorialCode env m' test jne mov imul start :=
  ⟨h.test.kept hkept, h.jne.kept hkept, h.mov.kept hkept, h.done.kept hkept, h.push.kept hkept,
    h.dec.kept hkept, h.call.kept hkept, h.pop.kept hkept, h.imul.kept hkept, h.ret.kept hkept⟩

namespace Guest

/-- A stack of `k` words and, above them, the word with the return address. -/
structure StackRoom (m : Memory) (bottom : U64) (k : Nat) : Prop where
  size : 8 * (k + 1) ≤ 2 ^ 64
  slots : ∀ i ≤ k, m.DataWord (Memory.wordAt bottom i)

/-- Less room is needed. -/
theorem StackRoom.shrink {m m' : Memory} {bottom : U64} {k k' : Nat} (h : StackRoom m bottom k)
    (hkept : Memory.CodeKept m m') (hle : k' ≤ k) : StackRoom m' bottom k' := by
  have hsize := h.size
  exact ⟨by omega, fun i hi => (h.slots i (by omega)).kept hkept⟩

/-- The procedure has been entered with an argument, and with room on the
stack for the levels below. -/
structure Called (start bottom : U64) (n : Nat) (s : CpuState) (m : Memory) : Prop where
  rip : s.rip = start
  argument : s.gpr 7 = BitVec.ofNat 64 n
  top : s.rsp = Memory.wordAt bottom (2 * n)
  room : StackRoom m bottom (2 * n)

/-- The procedure has returned. -/
structure Returned (bottom : U64) (n : Nat) (s : CpuState) (m : Memory) (s' : CpuState)
    (m' : Memory) : Prop where
  rip : s'.rip = m.word s.rsp
  result : s'.gpr 0 = BitVec.ofNat 64 n.factorial
  top : s'.rsp = s.rsp + 8#64
  registers : ∀ i, i ≠ 0 → i ≠ 4 → s'.gpr i = s.gpr i
  kept : Memory.CodeKept m m'
  words : ∀ x, (∀ i < 2 * n, Memory.WordsApart (Memory.wordAt bottom i) x) → m'.word x = m.word x

variable {env : RunEnv W} {m : Memory} {test jne mov imul : Nat} {start bottom : U64}

/-- The way out at zero. -/
theorem factorial_zero (henv : env.Undisturbed) (hcode : FactorialCode env m test jne mov imul start)
    {s : CpuState} (h : Called start bottom 0 s m) :
    ∃ s', Leads env (Exactly s m) (Exactly s' m) ∧ Returned bottom 0 s m s' m := by
  let s₁ := behind s 3 (setFlags s (setLogicFlags s.rflags (s.gpr 7 &&& s.gpr 7) 8))
  let s₂ := behind s₁ 2 s₁
  let s₃ := behind s₂ 5 (s₂.setGpr 0 (1#64 &&& 0xFFFFFFFF#64))
  have h₁ : s₁.rip = start + 3#64 := congrArg (· + 3#64) h.rip
  have h₂ : s₂.rip = start + 5#64 := behind_rip h₁ rfl
  have h₃ : s₃.rip = start + 10#64 := behind_rip h₂ rfl
  -- The argument is zero, so TEST sets the zero flag and JNE falls through.
  have hzf : evalCond s₁ .ne = false := by
    show (!flagSet s₁.rflags kFlagZF) = false
    rw [show flagSet s₁.rflags kFlagZF = (s.gpr 7 == 0#64) from test_zero _ _, h.argument]
    rfl
  have htest : Leads env (Exactly s m) (Exactly s₁ m) := test_rule henv (hcode.test.here h.rip)
  have hjne : Leads env (Exactly s₁ m) (Exactly s₂ m) := by
    have hrule := jcc_rule henv (hcode.jne.here h₁)
    rw [hzf] at hrule
    exact hrule
  have hmov : Leads env (Exactly s₂ m) (Exactly s₃ m) := mov_imm_rule henv (hcode.mov.here h₂)
  have htop : m.DataWord s₃.rsp := by
    show m.DataWord s.rsp
    rw [h.top]
    exact h.room.slots 0 (Nat.le_refl 0)
  refine ⟨_, htest.seq (hjne.seq (hmov.seq (ret_rule henv (hcode.done.here h₃) htop))), rfl, rfl, rfl,
    ?_, Memory.CodeKept.refl m, fun _ _ => rfl⟩
  intro i h0 h4
  show (if i = 4 then _ else if i = 0 then _ else s.gpr i) = _
  rw [if_neg h4, if_neg h0]

/-- The word before. -/
theorem wordAt_pred (a : U64) (i : Nat) : Memory.wordAt a (i + 1) - 8#64 = Memory.wordAt a i := by
  rw [Memory.wordAt_succ, BitVec.add_sub_cancel]

/-- The way into the call: the argument and the return address are on the
stack, and the level below is entered. -/
theorem factorial_enter (henv : env.Undisturbed)
    (hcode : FactorialCode env m test jne mov imul start) {n : Nat} {s : CpuState}
    (h : Called start bottom (n + 1) s m) :
    ∃ s' m', Leads env (Exactly s m) (Exactly s' m') ∧ Called start bottom n s' m' ∧
      (∀ i, i ≠ 4 → i ≠ 7 → s'.gpr i = s.gpr i) ∧
      m'.word s'.rsp = start + 20#64 ∧
      m'.word (Memory.wordAt bottom (2 * n + 1)) = BitVec.ofNat 64 (n + 1) ∧
      Memory.CodeKept m m' ∧
      ∀ x, (∀ i < 2 * (n + 1), Memory.WordsApart (Memory.wordAt bottom i) x) →
        m'.word x = m.word x := by
  have hsize := h.room.size
  have hlt : n + 1 < 2 ^ 64 := by omega
  let upper := Memory.wordAt bottom (2 * n + 1)
  let lower := Memory.wordAt bottom (2 * n)
  have hupper : m.DataWord upper := h.room.slots _ (by omega)
  let m₁ := m.stored upper (s.gpr 7) 8
  have hkept : Memory.CodeKept m m₁ := hupper.store_kept _
  have hlower : m₁.DataWord lower := (h.room.slots _ (by omega)).kept hkept
  have hcode' := hcode.kept hkept
  let s₁ := behind s 3 (setFlags s (setLogicFlags s.rflags (s.gpr 7 &&& s.gpr 7) 8))
  let s₂ := s₁.at (start + 11#64)
  let s₃ := behind s₂ 1 (s₂.setRsp (s₂.rsp - 8#64))
  let dec := unaryCompute .dec 8 s₃.rflags (s₃.gpr 7)
  let s₄ := behind s₃ 3 ((setFlags s₃ dec.2).setGpr 7 dec.1)
  let s₅ := (s₄.setRsp (s₄.rsp - 8#64)).at start
  have h₁ : s₁.rip = start + 3#64 := congrArg (· + 3#64) h.rip
  have h₂ : s₂.rip = start + 11#64 := rfl
  have h₃ : s₃.rip = start + 12#64 := behind_rip h₂ rfl
  have h₄ : s₄.rip = start + 15#64 := behind_rip h₃ rfl
  have h₅ : s₄.rip + BitVec.ofNat 64 (max 1 5) = start + 20#64 := by
    rw [h₄, BitVec.add_assoc]
    rfl
  let m₂ := m₁.stored lower (s₄.rip + BitVec.ofNat 64 (max 1 5)) 8
  have hsp₂ : s₂.rsp - 8#64 = upper := by
    rw [show s₂.rsp = _ from h.top]
    exact wordAt_pred bottom (2 * n + 1)
  have hsp₄ : s₄.rsp - 8#64 = lower := by
    rw [show s₄.rsp = _ from hsp₂]
    exact wordAt_pred bottom (2 * n)
  have hzf : evalCond s₁ .ne = true := by
    have hne : BitVec.ofNat 64 (n + 1) ≠ 0#64 := by
      intro heq
      have hnat := congrArg BitVec.toNat heq
      rw [BitVec.toNat_ofNat, Nat.mod_eq_of_lt hlt] at hnat
      cases hnat
    show (!flagSet s₁.rflags kFlagZF) = true
    rw [show flagSet s₁.rflags kFlagZF = (s.gpr 7 == 0#64) from test_zero _ _, h.argument,
      beq_eq_false_iff_ne.mpr hne]
    rfl
  -- the instructions
  have htest : Leads env (Exactly s m) (Exactly s₁ m) := test_rule henv (hcode.test.here h.rip)
  have hjne : Leads env (Exactly s₁ m) (Exactly s₂ m) := by
    have hrule := jcc_rule henv (hcode.jne.here h₁)
    rw [hzf] at hrule
    exact hrule
  have hpush : Leads env (Exactly s₂ m) (Exactly s₃ m₁) :=
    push_rule henv (hcode.push.here h₂) hsp₂ hupper
  have hdec : Leads env (Exactly s₃ m₁) (Exactly s₄ m₁) := unary_rule henv (hcode'.dec.here h₃)
  have hcall : Leads env (Exactly s₄ m₁) (Exactly s₅ m₂) :=
    call_rule henv (hcode'.call.here h₄) hsp₄ hlower
  have hkept' : Memory.CodeKept m m₂ := hkept.trans (hlower.store_kept _)
  have happart : Memory.WordsApart lower upper :=
    Memory.wordsApart_wordAt bottom hsize (by omega) (by omega) (by omega)
  refine ⟨s₅, m₂, htest.seq (hjne.seq (hpush.seq (hdec.seq hcall))),
    ⟨rfl, ?_, hsp₄, h.room.shrink hkept' (by omega)⟩, ?_, ?_, ?_, hkept', ?_⟩
  · show s.gpr 7 - 1#64 = _
    rw [h.argument]
    bv_omega
  · intro i h4 h7
    show (if i = 4 then _ else if i = 7 then _ else if i = 4 then _ else s.gpr i) = _
    rw [if_neg h4, if_neg h7, if_neg h4]
  · rw [show s₅.rsp = lower from hsp₄, ← h₅]
    exact hlower.word_stored _
  · rw [Memory.DataWord.word_stored_ne m₁ happart, ← h.argument]
    exact hupper.word_stored _
  · intro x hx
    rw [Memory.DataWord.word_stored_ne m₁ (hx _ (by omega)),
      Memory.DataWord.word_stored_ne m (hx _ (by omega))]

/-- The way back: the argument is popped and multiplied with the result of the
level below. -/
theorem factorial_leave (henv : env.Undisturbed)
    (hcode : FactorialCode env m test jne mov imul start) {s : CpuState} (hrip : s.rip = start + 20#64)
    (hargument : m.DataWord s.rsp) (hreturn : m.DataWord (s.rsp + 8#64)) :
    ∃ s', Leads env (Exactly s m) (Exactly s' m) ∧ s'.rip = m.word (s.rsp + 8#64) ∧
      s'.gpr 0 = s.gpr 0 * m.word s.rsp ∧ s'.gpr 7 = m.word s.rsp ∧ s'.rsp = s.rsp + 16#64 ∧
      ∀ i, i ≠ 0 → i ≠ 4 → i ≠ 7 → s'.gpr i = s.gpr i := by
  let s₁ := behind s 1 ((s.setRsp (s.rsp + 8#64)).setGpr 7 (m.word s.rsp))
  let flags := setMultiplyFlags s₁.rflags (s₁.gpr 0 * s₁.gpr 7) 8
    (imulOverflow 8 (imulProduct 128 8 (s₁.gpr 0) (s₁.gpr 7)))
  let s₂ := behind s₁ 4 (setFlags (s₁.setGpr 0 (s₁.gpr 0 * s₁.gpr 7)) flags)
  have h₁ : s₁.rip = start + 21#64 := behind_rip hrip rfl
  have h₂ : s₂.rip = start + 25#64 := behind_rip h₁ rfl
  have hpop : Leads env (Exactly s m) (Exactly s₁ m) := pop_rule henv (hcode.pop.here hrip) hargument
  have himul : Leads env (Exactly s₁ m) (Exactly s₂ m) := imul_rule henv (hcode.imul.here h₁)
  have hret := ret_rule henv (hcode.ret.here h₂) hreturn
  refine ⟨_, hpop.seq (himul.seq hret), rfl, rfl, rfl, ?_, ?_⟩
  · show s.rsp + 8#64 + 8#64 = _
    rw [BitVec.add_assoc]
    rfl
  · intro i h0 h4 h7
    show (if i = 4 then _ else if i = 0 then _ else if i = 7 then _ else if i = 4 then _
      else s.gpr i) = _
    rw [if_neg h4, if_neg h0, if_neg h7, if_neg h4]

/-- **The procedure keeps its promise** at every level. -/
theorem factorial_returns (henv : env.Undisturbed) (n : Nat) {s : CpuState}
    (hcode : FactorialCode env m test jne mov imul start) (h : Called start bottom n s m) :
    ∃ s' m', Leads env (Exactly s m) (Exactly s' m') ∧ Returned bottom n s m s' m' := by
  induction n generalizing s m with
  | zero =>
    obtain ⟨s', hleads, hreturned⟩ := factorial_zero henv hcode h
    exact ⟨s', m, hleads, hreturned⟩
  | succ n ih =>
    have hsize := h.room.size
    obtain ⟨s₁, m₁, henter, hcalled, hregs, hreturn, hargument, hkept, hwords⟩ :=
      factorial_enter henv hcode h
    obtain ⟨s₂, m₂, hinner, hback⟩ := ih (hcode.kept hkept) hcalled
    have hkept₂ := hkept.trans hback.kept
    -- the level below has left the two words alone
    have hapart {i : Nat} (hi : i < 2 * n) {j : Nat} (hj : 2 * n ≤ j) (hj' : j ≤ 2 * n + 2) :
        Memory.WordsApart (Memory.wordAt bottom i) (Memory.wordAt bottom j) :=
      Memory.wordsApart_wordAt bottom hsize (by omega) (by omega) (by omega)
    have hword {j : Nat} (hj : 2 * n ≤ j) (hj' : j ≤ 2 * n + 2) :
        m₂.word (Memory.wordAt bottom j) = m₁.word (Memory.wordAt bottom j) :=
      hback.words _ fun i hi => hapart hi hj hj'
    have hdata {j : Nat} (hj : j ≤ 2 * n + 2) : m₂.DataWord (Memory.wordAt bottom j) :=
      (h.room.slots j (by omega)).kept hkept₂
    have hsp : s₂.rsp = Memory.wordAt bottom (2 * n + 1) := by
      rw [hback.top, hcalled.top, Memory.wordAt_succ]
    have hsp' : s₂.rsp + 8#64 = Memory.wordAt bottom (2 * n + 2) := by
      rw [hsp, ← Memory.wordAt_succ]
    have hrip : s₂.rip = start + 20#64 := hback.rip.trans hreturn
    obtain ⟨s₃, hleave, hrip₃, hresult, hargument₃, hsp₃, hregs₃⟩ := factorial_leave henv
      ((hcode.kept hkept).kept hback.kept) hrip (hsp ▸ hdata (by omega)) (hsp' ▸ hdata (by omega))
    refine ⟨s₃, m₂, henter.seq (hinner.seq hleave), ?_, ?_, ?_, ?_, hkept₂, ?_⟩
    · rw [hrip₃, hsp', hword (by omega) (by omega), h.top]
      refine hwords _ fun i hi => ?_
      exact Memory.wordsApart_wordAt bottom hsize (by omega) (by omega) (by omega)
    · rw [hresult, hback.result, hsp, hword (by omega) (by omega), hargument, ← BitVec.ofNat_mul,
        Nat.factorial_succ, Nat.mul_comm]
    · rw [hsp₃, h.top, show 2 * (n + 1) = 2 * n + 2 by omega, ← hsp', BitVec.add_assoc]
      rfl
    · intro i h0 h4
      by_cases h7 : i = 7
      · rw [h7, hargument₃, hsp, hword (by omega) (by omega), hargument, h.argument]
      · rw [hregs₃ i h0 h4 h7, hback.registers i h0 h4, hregs i h4 h7]
    · intro x hx
      rw [hback.words x fun i hi => hx i (by omega), hwords x hx]

/-- **The factorial.** Called with any argument that the stack has room for,
the procedure returns to where it was called from with the factorial modulo
`2 ^ 64` in `RAX`; the other registers and every word outside its stack are
what they were. -/
theorem factorial_computes (henv : env.Undisturbed) {ex : Executor} {g : Machine W}
    (hready : Ready env (0, ex, g)) (hcode : FactorialCode env g.memory test jne mov imul start)
    {n : Nat} (hcalled : Called start bottom n g.state g.memory) :
    ∃ steps, ∃ g' : Machine W, (env.run steps (ex, g)).2.2 = g' ∧
      (env.run steps (ex, g)).1 = { reason := .executionLimit, retired := steps } ∧
      Returned bottom n g.state g.memory g'.state g'.memory := by
  obtain ⟨s', m', hleads, hreturned⟩ := factorial_returns henv n hcode hcalled
  obtain ⟨steps, hresult, hs, hm⟩ := run henv hleads hready ⟨rfl, rfl⟩
  refine ⟨steps, _, rfl, hresult, ?_⟩
  rw [hs, hm]
  exact hreturned

/-! ## The factorial of three -/

/-- Called from `0x5000` with seven words of stack. -/
def factorialMachine : Machine Unit where
  state := { mode := .long64, rip := 0x1000#64
             gpr := fun i => if i = 7 then 3#64 else if i = 4 then 0x2030#64 else 0#64 }
  memory := guestMemory
    [0x48#8, 0x85#8, 0xFF#8, 0x75#8, 0x06#8, 0xB8#8, 1#8, 0#8, 0#8, 0#8, 0xC3#8, 0x57#8, 0x48#8,
      0xFF#8, 0xCF#8, 0xE8#8, 0xEC#8, 0xFF#8, 0xFF#8, 0xFF#8, 0x5F#8, 0x48#8, 0x0F#8, 0xAF#8,
      0xC7#8, 0xC3#8] 0x2030#64 [0x00#8, 0x50#8]
  world := ()

/-- The code of the instance. -/
theorem factorialMachine_code :
    FactorialCode guestEnv factorialMachine.memory 0x85 0x75 0xB8 0xAF 0x1000#64 := by
  constructor <;> exact .of_decode rfl rfl rfl rfl (by decide) rfl rfl

/-- `3!` is back at the caller. -/
theorem factorial_three : ∃ steps, ∃ g' : Machine Unit,
    (guestEnv.run steps ({}, factorialMachine)).2.2 = g' ∧ g'.state.rip = 0x5000#64 ∧
      g'.state.gpr 0 = 6#64 := by
  have hready := @ready_fresh factorialMachine ⟨rfl, rfl, rfl, rfl, rfl, rfl, rfl⟩
  have hroom : StackRoom factorialMachine.memory 0x2000#64 (2 * 3) := by
    refine ⟨by decide, fun i hi => .of_pages ⟨rfl, rfl⟩ rfl rfl ?_⟩
    revert i
    decide +kernel
  have hcalled : Called 0x1000#64 0x2000#64 3 factorialMachine.state factorialMachine.memory :=
    ⟨rfl, rfl, rfl, hroom⟩
  obtain ⟨steps, g', hrun, -, hreturned⟩ := @factorial_computes Unit guestEnv 0x85 0x75 0xB8 0xAF
    0x1000#64 0x2000#64 guestEnv_undisturbed {} factorialMachine hready factorialMachine_code 3 hcalled
  refine ⟨steps, g', hrun, ?_, hreturned.result⟩
  rw [hreturned.rip]
  decide +kernel

end Guest

end Seven
