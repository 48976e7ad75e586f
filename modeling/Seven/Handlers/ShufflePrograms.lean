import Mathlib.Data.Fintype.Prod
import Seven.Handlers.Shuffles
import Seven.Handlers.UpperBits
import Seven.Lib.Rearrange

/-!
# Programs of shuffles

A shuffle fills every byte of its destination with a byte of a register or
with zero, and which one does not depend on what the registers hold. So a
program of shuffles is a rearrangement of the bytes of the 32 registers.

> `shuffles_agree_iff`: two programs leave the same registers from every state
> exactly when they are the same rearrangement, which is decided by following
> 2048 places through them.
-/

namespace Seven

open Seven.Lib

/-! ## Bytes -/

/-- Byte `k` of a vector register. -/
abbrev VectorCell : Type := Fin 32 × Fin 64

/-- The bytes of the vector file. -/
def vectorCells (s : CpuState) (c : VectorCell) : BitVec 8 := lane 8 (s.vectors c.1) c.2

/-- A register of given bytes. -/
def ofCells (bytes : Fin 64 → BitVec 8) : BitVec 512 :=
  updateLanes 1 64 (fun k => some (bytes (Fin.ofNat 64 k))) 0#512

/-- A byte of the vector built of bytes. -/
theorem lane_ofCells (bytes : Fin 64 → BitVec 8) (k : Fin 64) : lane 8 (ofCells bytes) k = bytes k := by
  have hlane := @lane_updateLanes 512 1 (fun j => some (bytes (Fin.ofNat 64 j))) 0#512 k (by omega) 64
  rw [if_pos k.isLt, Option.getD_some] at hlane
  unfold ofCells
  rw [hlane]
  congr 1
  exact Fin.ext (Nat.mod_eq_of_lt k.isLt)

/-- A vector is its bytes. -/
theorem eq_of_cells {v w : BitVec 512} (h : ∀ k : Fin 64, lane 8 v k = lane 8 w k) : v = w := by
  apply BitVec.eq_of_getLsbD_eq
  intro j hj
  have hbyte := congrArg (·.getLsbD (j % 8)) (h ⟨j / 8, by omega⟩)
  dsimp only at hbyte
  rw [lane_getLsbD _ _ _ (by omega), lane_getLsbD _ _ _ (by omega), Nat.div_add_mod] at hbyte
  exact hbyte

/-- A state of given bytes. -/
def stateOfCells (cells : VectorCell → BitVec 8) : CpuState :=
  { vectors := fun r => ofCells fun k => cells (r, k) }

/-- The state built of bytes has them. -/
theorem vectorCells_stateOfCells (cells : VectorCell → BitVec 8) :
    vectorCells (stateOfCells cells) = cells := by
  funext c
  exact lane_ofCells (fun k => cells (c.1, k)) c.2

/-- A vector file is its bytes. -/
theorem vectors_eq_of_cells {s t : CpuState} (h : vectorCells s = vectorCells t) :
    s.vectors = t.vectors := by
  funext r
  apply eq_of_cells
  intro k
  exact congrFun h (r, k)

namespace ShuffleForm

/-- The byte that byte `j` of the result comes from. -/
def sourceByte (f : ShuffleForm) (imm : U64) (j : Nat) : Bool × Nat :=
  ((f.pick imm (j / f.size % (16 / f.size))).1, f.place imm (j / f.size) * f.size + j % f.size)

/-- The elements fill the vector. -/
theorem size_dvd_length (f : ShuffleForm) : f.length.bytes / f.size * f.size = f.length.bytes := by
  have hrows := f.length.rows
  rcases f.size_cases with h | h | h | h <;> rw [h] <;> omega

/-- A source byte lies in the vector. -/
theorem sourceByte_lt (f : ShuffleForm) (imm : U64) {j : Nat} (hj : j < f.length.bytes) :
    (f.sourceByte imm j).2 < f.length.bytes := by
  have hdvd := f.size_dvd_length
  have hi : j / f.size < f.length.bytes / f.size := by
    apply Nat.div_lt_of_lt_mul
    rw [Nat.mul_comm, hdvd]
    exact hj
  have hend := Nat.mul_le_mul_right f.size (f.place_lt imm hi)
  rw [hdvd, Nat.succ_mul] at hend
  have hrest := Nat.mod_lt j f.size_pos
  unfold sourceByte
  dsimp only
  omega

/-- A shuffle, byte by byte. -/
theorem byte_shuffled {f : ShuffleForm} {imm : U64} {lhs rhs out : BitVec 512}
    (h : Shuffled f imm lhs rhs out) {j : Nat} (hj : j < f.length.bytes) :
    lane 8 out j =
      lane 8 (if (f.sourceByte imm j).1 then rhs else lhs) (f.sourceByte imm j).2 := by
  have hdvd := f.size_dvd_length
  have hi : j / f.size < f.length.bytes / f.size := by
    apply Nat.div_lt_of_lt_mul
    rw [Nat.mul_comm, hdvd]
    exact hj
  have hrest := Nat.mod_lt j f.size_pos
  have hout := lane_lane f.size out (j / f.size) hrest
  have hsplit : j / f.size * f.size + j % f.size = j := by
    rw [Nat.mul_comm]
    exact Nat.div_add_mod j f.size
  rw [hsplit] at hout
  rw [← hout, h _ hi]
  exact lane_lane f.size _ _ hrest

end ShuffleForm

/-! ## Programs -/

/-- A shuffle and its operands. -/
structure ShuffleStep where
  form : ShuffleForm
  instr : Instruction

/-- The step's handler, on its instruction. -/
def ShuffleStep.handler (H : X87Host) (step : ShuffleStep) : Handler := do
  modify fun ctx => { ctx with instr := step.instr }
  step.form.handler H

/-- The steps one after the other. -/
def runShuffles (H : X87Host) (program : List ShuffleStep) : Handler :=
  program.forM fun step => step.handler H

/-- A program whose operands are registers. -/
def ShufflesRegisters (H : X87Host) (program : List ShuffleStep) : Prop :=
  ∀ step ∈ program, step.form.OnRegisters H step.instr

/-- Where a step fills the bytes of its destination from. -/
def ShuffleStep.rearrangement (H : X87Host) (step : ShuffleStep) : Rearrangement VectorCell :=
  fun c =>
    if c.1 = H.vectorIndex (step.instr.opRegister 0) then
      if c.2.val < step.form.length.bytes then
        let source := step.form.sourceByte step.instr.immediate8 c.2
        let operand := if source.1 then step.form.sources.2 else step.form.sources.1
        some (H.vectorIndex (step.instr.opRegister operand), Fin.ofNat 64 source.2)
      else if step.form.zeroUpper then none else some c
    else some c

/-- A destination byte comes from where the step's table says. -/
theorem ShuffleStep.rearrangement_fills (H : X87Host) (step : ShuffleStep) {k : Fin 64}
    (hk : k.val < step.form.length.bytes) {source : Bool × Nat}
    (hsource : step.form.sourceByte step.instr.immediate8 k = source) :
    step.rearrangement H (H.vectorIndex (step.instr.opRegister 0), k) =
      some (H.vectorIndex (step.instr.opRegister
        (if source.1 then step.form.sources.2 else step.form.sources.1)), Fin.ofNat 64 source.2) := by
  subst hsource
  unfold ShuffleStep.rearrangement
  exact (if_pos rfl).trans (if_pos hk)

/-- The other registers stay. -/
theorem ShuffleStep.rearrangement_keeps (H : X87Host) (step : ShuffleStep) {c : VectorCell}
    (hc : c.1 ≠ H.vectorIndex (step.instr.opRegister 0)) : step.rearrangement H c = some c :=
  if_neg hc

section runs

variable {H : X87Host}

/-- A byte above the width is kept or cleared. -/
theorem lane_mergeVec_high (old value : BitVec 512) {width j : Nat} (zeroUpper : Bool)
    (hwidth : width ≤ j) (hj : j < 64) :
    lane 8 (mergeVec old value width zeroUpper) j = if zeroUpper then 0#8 else lane 8 old j := by
  rw [lane_eq_iff]
  intro i hi
  rw [X87Host.mergeVec_high _ _ _ (by omega) (by omega)]
  cases zeroUpper with
  | true =>
    rw [if_pos rfl, BitVec.getLsbD_zero]
    rfl
  | false =>
    rw [if_neg Bool.false_ne_true, lane_getLsbD _ _ _ hi]
    rfl

/-- The bytes behind a step. -/
theorem vectorCells_written {step : ShuffleStep} {s : CpuState} {out : BitVec 512}
    (h : Shuffled step.form step.instr.immediate8 (H.slotOf s step.instr step.form.sources.1)
      (H.slotOf s step.instr step.form.sources.2) out) :
    vectorCells (setVector s (H.vectorIndex (step.instr.opRegister 0))
        (mergeVec (H.slotOf s step.instr 0) out step.form.length.bytes step.form.zeroUpper)) =
      (step.rearrangement H).apply 0#8 (vectorCells s) := by
  have hbounds := step.form.length.bytes_bounds
  funext c
  obtain ⟨r, k⟩ := c
  unfold Rearrangement.apply ShuffleStep.rearrangement vectorCells setVector
  dsimp only
  by_cases hr : r = H.vectorIndex (step.instr.opRegister 0)
  · subst hr
    rw [if_pos rfl, if_pos rfl]
    by_cases hk : k.val < step.form.length.bytes
    · have hlow := @lane_mergeVec 1 step.form.length.bytes k (H.slotOf s step.instr 0) out
        step.form.zeroUpper (by omega) hbounds.2
      have hsource := step.form.sourceByte_lt step.instr.immediate8 hk
      have hplace : (Fin.ofNat 64 (step.form.sourceByte step.instr.immediate8 k).2).val =
          (step.form.sourceByte step.instr.immediate8 k).2 := Nat.mod_eq_of_lt (by omega)
      rw [if_pos hk, hlow, ShuffleForm.byte_shuffled h hk, Option.elim_some, hplace]
      split <;> rfl
    · rw [if_neg hk, lane_mergeVec_high _ _ _ (by omega) k.isLt]
      split <;> rfl
  · rw [if_neg hr, if_neg hr, Option.elim_some]

/-- **One step** rearranges the bytes and leaves the rest. -/
theorem ShuffleStep.run {step : ShuffleStep} (h : step.form.OnRegisters H step.instr)
    (ctx : ExecutionContext) :
    ∃ after, step.handler H ctx = .ok () after ∧
      vectorCells after.state = (step.rearrangement H).apply 0#8 (vectorCells ctx.state) ∧
      after.state = { ctx.state with vectors := after.state.vectors } ∧
      after.memory = ctx.memory := by
  obtain ⟨out, hout, hrun⟩ :=
    @ShuffleForm.handler_run H step.form { ctx with instr := step.instr } h
  exact ⟨_, hrun, vectorCells_written hout, rfl, rfl⟩

/-- **A run** rearranges them along the program. -/
theorem runShuffles_run : ∀ {program : List ShuffleStep}, ShufflesRegisters H program →
    ∀ ctx : ExecutionContext, ∃ after, runShuffles H program ctx = .ok () after ∧
      vectorCells after.state =
        (Rearrangement.along (ShuffleStep.rearrangement H) program).apply 0#8
          (vectorCells ctx.state) ∧
      after.state = { ctx.state with vectors := after.state.vectors } ∧
      after.memory = ctx.memory
  | [], _, ctx => ⟨ctx, rfl, rfl, rfl, rfl⟩
  | step :: program, h, ctx => by
    obtain ⟨mid, hstep, hcells, hrest, hmemory⟩ :=
      ShuffleStep.run (h step List.mem_cons_self) ctx
    obtain ⟨after, hrun, hcells', hrest', hmemory'⟩ :=
      runShuffles_run (fun step hmem => h step (List.mem_cons_of_mem _ hmem)) mid
    refine ⟨after, ?_, ?_, ?_, hmemory'.trans hmemory⟩
    · show (step.handler H >>= fun _ => runShuffles H program) ctx = _
      rw [bind_ok hstep]
      exact hrun
    · rw [hcells', hcells]
      exact (Rearrangement.apply_followedBy _ _ _ _).symm
    · rw [hrest', hrest]

end runs

/-- From every state both programs end, in the same state and memory. -/
def ShufflesAgree (H : X87Host) (p q : List ShuffleStep) : Prop :=
  ∀ ctx, ∃ u v, runShuffles H p ctx = .ok () u ∧ runShuffles H q ctx = .ok () v ∧
    u.state = v.state ∧ u.memory = v.memory

/-- **Programs of shuffles are compared by where their bytes come from.** -/
theorem shuffles_agree_iff {H : X87Host} {p q : List ShuffleStep} (hp : ShufflesRegisters H p)
    (hq : ShufflesRegisters H q) :
    ShufflesAgree H p q ↔
    Rearrangement.along (ShuffleStep.rearrangement H) p =
      Rearrangement.along (ShuffleStep.rearrangement H) q := by
  constructor
  · intro h
    refine (Rearrangement.eq_iff_apply (by decide : 1#8 ≠ 0#8)).mpr fun cells => ?_
    -- Any cells can be the starting ones, so agreeing programs rearrange alike.
    let start : ExecutionContext :=
      { state := stateOfCells cells
        memory := {}
        instr := { code := .other 0, length := 1 }
        nextRip := 0#64 }
    have hstart : vectorCells start.state = cells := vectorCells_stateOfCells cells
    obtain ⟨u, v, hu, hv, hstate, -⟩ := h start
    obtain ⟨u', hu', hcells, -, -⟩ := runShuffles_run hp start
    obtain ⟨v', hv', hcells', -, -⟩ := runShuffles_run hq start
    rw [hu] at hu'
    rw [hv] at hv'
    cases hu'
    cases hv'
    rw [← hstart, ← hcells, ← hcells', hstate]
  · intro h ctx
    obtain ⟨u, hu, hcells, hrest, hmemory⟩ := runShuffles_run hp ctx
    obtain ⟨v, hv, hcells', hrest', hmemory'⟩ := runShuffles_run hq ctx
    refine ⟨u, v, hu, hv, ?_, hmemory.trans hmemory'.symm⟩
    rw [h, ← hcells'] at hcells
    rw [hrest, hrest', vectors_eq_of_cells hcells]

/-- A legacy shuffle of XMM registers. -/
def xmmShuffle (form : ShuffleForm) (dst src imm : Nat) : ShuffleStep where
  form := form
  instr :=
    { code := .other 0
      length := 4
      immediate8 := BitVec.ofNat 64 imm
      opRegister := fun i => .other (77 + if i = 0 then dst else src) }

/-- `PSHUFD XMM0, XMM0, 1BH` reverses the doublewords. -/
def reversePshufd : List ShuffleStep := [xmmShuffle (.permute .pshufd) 0 0 0x1B]

/-- The halves exchanged, and the doublewords of each half. -/
def reverseShufpd : List ShuffleStep :=
  [xmmShuffle (.shuffle .shufpd) 0 0 1, xmmShuffle (.permute .pshufd) 0 0 0xB1]

/-- `PSHUFD` and `SHUFPD`, each the reverse of the two halves. -/
theorem shuffles_agree_reverse :
    ShufflesAgree vectorHost.toX87Host reversePshufd reverseShufpd := by
  refine (shuffles_agree_iff ?_ ?_).mpr ?_
  · intro step hstep
    obtain rfl := List.mem_singleton.mp hstep
    exact ⟨⟨rfl, by decide⟩, ⟨rfl, by decide⟩, ⟨rfl, by decide⟩, by decide, by decide, by decide⟩
  · intro step hstep
    rcases List.mem_pair.mp hstep with rfl | rfl
    · exact ⟨⟨rfl, by decide⟩, ⟨rfl, by decide⟩, ⟨rfl, by decide⟩, by decide, by decide, by decide⟩
    · exact ⟨⟨rfl, by decide⟩, ⟨rfl, by decide⟩, ⟨rfl, by decide⟩, by decide, by decide, by decide⟩
  · decide +kernel

end Seven
