import Seven.Handlers.ShufflePrograms

/-!
# Transposition by unpacks

The usual code for a matrix of single precision numbers with its rows in four
registers: two unpacks of single elements for each pair of rows, then four of
doubles. Registers of 32 and 64 bytes hold two and four matrices side by side.

> `transpose_rows`: element `j` of row `i` is element `i` of row `j` before, in
> every block and at every length.

The four steps of a half keep out of each other's way, so each byte is followed
through one step of each half (`Rearrangement.along_parallel`).
-/

namespace Seven

open Seven.Lib

/-- `VUNPCKLPS`, `VUNPCKHPS`, `VUNPCKLPD` or `VUNPCKHPD` of three registers. -/
def vunpck (high double : Bool) (len : VectorLength) (dst lhs rhs : Register) : ShuffleStep where
  form := .vexShuffle (PackCode.unpckOp high double) len
  instr :=
    { code := .other 0
      length := 4
      opRegister := fun i => if i = 0 then dst else if i = 1 then lhs else rhs }

/-- A column of four. -/
theorem mod_four_lt (k : Nat) : k % 4 < 4 := Nat.mod_lt k (by decide)

/-- One of four registers. -/
def ofFour (k : Nat) : Fin 4 := ⟨k % 4, mod_four_lt k⟩

/-- Step `i` of the first half: single elements of rows 0 and 1, or 2 and 3. -/
def unpackSingles (len : VectorLength) (row temp : Fin 4 → Register) (i : Fin 4) : ShuffleStep :=
  vunpck (i.val % 2 == 1) false len (temp i) (row (ofFour (i / 2 * 2)))
    (row (ofFour (i / 2 * 2 + 1)))

/-- The second pass: doubles of a row and the temporary two away. -/
def unpackDoubles (len : VectorLength) (row temp : Fin 4 → Register) (i : Fin 4) : ShuffleStep :=
  vunpck (i.val % 2 == 1) true len (row i) (temp (ofFour (i / 2)))
    (temp (ofFour (2 + i / 2)))

/-- The transposition: four unpacks of singles, four of doubles. -/
def transposeRows (len : VectorLength) (row temp : Fin 4 → Register) : List ShuffleStep :=
  (List.finRange 4).map (unpackSingles len row temp) ++
    (List.finRange 4).map (unpackDoubles len row temp)

/-- Eight registers of the length. -/
structure TransposeRegisters (H : X87Host) (len : VectorLength) (row temp : Fin 4 → Register) :
    Prop where
  vector : ∀ i, H.isVectorRegister (row i) = true ∧ H.isVectorRegister (temp i) = true
  width : ∀ i, H.vectorWidth (row i) = len.bytes ∧ H.vectorWidth (temp i) = len.bytes
  rows : Function.Injective fun i => H.vectorIndex (row i)
  temps : Function.Injective fun i => H.vectorIndex (temp i)
  apart : ∀ i j, H.vectorIndex (row i) ≠ H.vectorIndex (temp j)

section bytes

variable {H : X87Host} {len : VectorLength}

/-- The byte that an unpack takes. -/
theorem vunpck_sourceByte (high double : Bool) (imm : U64) (j : Nat) :
    (ShuffleForm.vexShuffle (PackCode.unpckOp high double) len).sourceByte imm j =
      if double then (j / 8 % 2 == 1, j / 16 * 16 + (if high then 8 else 0) + j % 8)
      else (j / 4 % 2 == 1, j / 16 * 16 + (if high then 8 else 0) + j % 16 / 8 * 4 + j % 4) := by
  unfold ShuffleForm.sourceByte ShuffleForm.place
  cases high <;> cases double <;>
    simp only [PackCode.unpckOp, ShuffleForm.pick, ShuffleForm.size, ShuffleOp.pick, ShuffleOp.bytes,
      if_true, if_false, Bool.false_eq_true, Prod.mk.injEq, beq_eq_beq] <;>
    constructor <;> omega

/-- An unpack takes its odd elements from the right-hand source. -/
theorem vunpck_takes (high double : Bool) (dst lhs rhs : Register) {k : Fin 64}
    (hk : k.val < len.bytes) {element place : Nat}
    (hsource : (ShuffleForm.vexShuffle (PackCode.unpckOp high double) len).sourceByte
      (vunpck high double len dst lhs rhs).instr.immediate8 k = (element == 1, place)) :
    (vunpck high double len dst lhs rhs).rearrangement H (H.vectorIndex dst, k) =
      some (H.vectorIndex (if element = 1 then rhs else lhs), Fin.ofNat 64 place) := by
  have hfills := (vunpck high double len dst lhs rhs).rearrangement_fills H hk hsource
  by_cases hodd : element = 1
  · rw [if_pos hodd]
    rw [if_pos (beq_iff_eq.mpr hodd)] at hfills
    exact hfills
  · rw [if_neg hodd]
    rw [if_neg fun h => hodd (beq_iff_eq.mp h)] at hfills
    exact hfills

/-- A byte of an unpack of singles. -/
theorem vunpck_single (high : Bool) (dst lhs rhs : Register) {k : Fin 64} (hk : k.val < len.bytes) :
    (vunpck high false len dst lhs rhs).rearrangement H (H.vectorIndex dst, k) =
      some (H.vectorIndex (if k.val / 4 % 2 = 1 then rhs else lhs),
        Fin.ofNat 64 (k.val / 16 * 16 + (if high then 8 else 0) + k.val % 16 / 8 * 4 +
          k.val % 4)) :=
  vunpck_takes high false dst lhs rhs hk
    ((vunpck_sourceByte high false _ _).trans (if_neg Bool.false_ne_true))

/-- A byte of an unpack of doubles. -/
theorem vunpck_double (high : Bool) (dst lhs rhs : Register) {k : Fin 64} (hk : k.val < len.bytes) :
    (vunpck high true len dst lhs rhs).rearrangement H (H.vectorIndex dst, k) =
      some (H.vectorIndex (if k.val / 8 % 2 = 1 then rhs else lhs),
        Fin.ofNat 64 (k.val / 16 * 16 + (if high then 8 else 0) + k.val % 8)) :=
  vunpck_takes high true dst lhs rhs hk ((vunpck_sourceByte high true _ _).trans (if_pos rfl))

variable {row temp : Fin 4 → Register}

/-- Where the first pass takes a byte from. -/
theorem TransposeRegisters.singles (h : TransposeRegisters H len row temp) (i : Fin 4) {k : Fin 64}
    (hk : k.val < len.bytes) :
    Rearrangement.along (ShuffleStep.rearrangement H)
        ((List.finRange 4).map (unpackSingles len row temp)) (H.vectorIndex (temp i), k) =
      some (H.vectorIndex (row (ofFour (i / 2 * 2 + k.val / 4 % 2))),
        Fin.ofNat 64 (k.val / 16 * 16 + i % 2 * 8 + k.val % 16 / 8 * 4 + k.val % 4)) := by
  rw [Rearrangement.along_map]
  refine Rearrangement.along_parallel (List.nodup_finRange 4) (List.mem_finRange i) ?_ ?_ ?_
  · intro x _ hx
    apply ShuffleStep.rearrangement_keeps
    exact fun heq => hx (h.temps heq).symm
  · refine (vunpck_single _ _ _ _ hk).trans ?_
    rcases Nat.mod_two_eq_zero_or_one (k.val / 4) with hside | hside <;>
      rcases Nat.mod_two_eq_zero_or_one i.val with hhalf | hhalf <;> rw [hside, hhalf] <;> rfl
  · intro x _
    apply ShuffleStep.rearrangement_keeps
    exact h.apart _ _

/-- Where the second pass takes it from. -/
theorem TransposeRegisters.doubles (h : TransposeRegisters H len row temp) (i : Fin 4) {k : Fin 64}
    (hk : k.val < len.bytes) :
    Rearrangement.along (ShuffleStep.rearrangement H)
        ((List.finRange 4).map (unpackDoubles len row temp)) (H.vectorIndex (row i), k) =
      some (H.vectorIndex (temp (ofFour (k.val / 8 % 2 * 2 + i / 2))),
        Fin.ofNat 64 (k.val / 16 * 16 + i % 2 * 8 + k.val % 8)) := by
  rw [Rearrangement.along_map]
  refine Rearrangement.along_parallel (List.nodup_finRange 4) (List.mem_finRange i) ?_ ?_ ?_
  · intro x _ hx
    apply ShuffleStep.rearrangement_keeps
    exact fun heq => hx (h.rows heq).symm
  · refine (vunpck_double _ _ _ _ hk).trans ?_
    rcases Nat.mod_two_eq_zero_or_one (k.val / 8) with hside | hside <;>
      rcases Nat.mod_two_eq_zero_or_one i.val with hhalf | hhalf <;> rw [hside, hhalf] <;>
      first | rfl | (rw [Nat.zero_mul, Nat.zero_add]; rfl)
  · intro x _
    apply ShuffleStep.rearrangement_keeps
    exact fun heq => h.apart _ _ heq.symm

/-- Both halves: byte `k` of row `i` is of element `i` of the row that its
element counts. -/
theorem TransposeRegisters.source (h : TransposeRegisters H len row temp) (i : Fin 4) {k : Fin 64}
    (hk : k.val < len.bytes) :
    Rearrangement.along (ShuffleStep.rearrangement H) (transposeRows len row temp)
        (H.vectorIndex (row i), k) =
      some (H.vectorIndex (row (ofFour (k.val / 4))),
        Fin.ofNat 64 (k.val / 16 * 16 + i * 4 + k.val % 4)) := by
  have hlen := len.rows
  have hsize := len.bytes_bounds
  -- the byte of the second half
  have hmid : (Fin.ofNat 64 (k.val / 16 * 16 + i % 2 * 8 + k.val % 8)).val =
      k.val / 16 * 16 + i % 2 * 8 + k.val % 8 := Nat.mod_eq_of_lt (by omega)
  have htemp : (ofFour (k.val / 8 % 2 * 2 + i / 2)).val = k.val / 8 % 2 * 2 + i / 2 :=
    Nat.mod_eq_of_lt (by omega)
  -- the register of the first half, as the second half asks for it
  have hrow : ofFour ((k.val / 8 % 2 * 2 + i / 2) / 2 * 2 +
      (k.val / 16 * 16 + i % 2 * 8 + k.val % 8) / 4 % 2) = ofFour (k.val / 4) := by
    have hpair : (k.val / 8 % 2 * 2 + i / 2) / 2 = k.val / 8 % 2 := by omega
    have helement : (k.val / 16 * 16 + i % 2 * 8 + k.val % 8) / 4 % 2 = k.val / 4 % 2 := by omega
    apply Fin.ext
    show (_ % 4 : Nat) = _ % 4
    rw [hpair, helement]
    omega
  have hbyte : (k.val / 16 * 16 + i % 2 * 8 + k.val % 8) / 16 * 16 +
      (k.val / 8 % 2 * 2 + i / 2) % 2 * 8 +
      (k.val / 16 * 16 + i % 2 * 8 + k.val % 8) % 16 / 8 * 4 +
      (k.val / 16 * 16 + i % 2 * 8 + k.val % 8) % 4 = k.val / 16 * 16 + i * 4 + k.val % 4 := by
    omega
  unfold transposeRows
  rw [Rearrangement.along_append]
  show (Rearrangement.along (ShuffleStep.rearrangement H)
    ((List.finRange 4).map (unpackDoubles len row temp)) (H.vectorIndex (row i), k)).bind _ = _
  rw [h.doubles i hk, Option.bind_some, h.singles _ (by rw [hmid]; omega), hmid, htemp, hrow, hbyte]

end bytes

/-- **Transposition.** From registers that do not overlap, at every length and
in every block of 16 bytes: row `i` ends with the elements `i` of the rows. -/
theorem transpose_rows {H : X87Host} {len : VectorLength} {row temp : Fin 4 → Register}
    (h : TransposeRegisters H len row temp) (ctx : ExecutionContext) :
    ∃ after, runShuffles H (transposeRows len row temp) ctx = .ok () after ∧
      ∀ i j : Fin 4, ∀ block < len.bytes / 16,
        lane (8 * 4) (after.state.vectors (H.vectorIndex (row i))) (block * 4 + j) =
          lane (8 * 4) (ctx.state.vectors (H.vectorIndex (row j))) (block * 4 + i) := by
  have hrow (i : Fin 4) := (h.vector i).1
  have htemp (i : Fin 4) := (h.vector i).2
  have hregisters : ShufflesRegisters H (transposeRows len row temp) := by
    intro step hstep
    rcases List.mem_append.mp hstep with hsingle | hdouble
    · obtain ⟨i, -, rfl⟩ := List.mem_map.mp hsingle
      exact ⟨⟨rfl, htemp _⟩, ⟨rfl, hrow _⟩, ⟨rfl, hrow _⟩, (h.width _).2, (h.width _).1,
        (h.width _).1⟩
    · obtain ⟨i, -, rfl⟩ := List.mem_map.mp hdouble
      exact ⟨⟨rfl, hrow _⟩, ⟨rfl, htemp _⟩, ⟨rfl, htemp _⟩, (h.width _).1, (h.width _).2,
        (h.width _).2⟩
  have hlen := len.rows
  have hsize := len.bytes_bounds
  obtain ⟨after, hrun, hcells, -, -⟩ := runShuffles_run hregisters ctx
  refine ⟨after, hrun, fun i j block hblock => lane_eq_of_bytes fun y hy => ?_⟩
  have hk : (Fin.ofNat 64 ((block * 4 + j) * 4 + y)).val = (block * 4 + j) * 4 + y :=
    Nat.mod_eq_of_lt (by omega)
  have hsource := h.source i (k := Fin.ofNat 64 ((block * 4 + j) * 4 + y)) (by omega)
  have hbyte := congrFun hcells (H.vectorIndex (row i), Fin.ofNat 64 ((block * 4 + j) * 4 + y))
  -- byte `y` of element `j` comes from byte `y` of element `i`
  have hplace : ((block * 4 + j) * 4 + y) / 16 * 16 + i * 4 + ((block * 4 + j) * 4 + y) % 4 =
      (block * 4 + i) * 4 + y := by omega
  have hrowj : ofFour (((block * 4 + j) * 4 + y) / 4) = j := by
    apply Fin.ext
    show (_ % 4 : Nat) = j
    omega
  rw [hk, hplace, hrowj] at hsource
  unfold Rearrangement.apply at hbyte
  rw [hsource, Option.elim_some] at hbyte
  unfold vectorCells at hbyte
  dsimp only at hbyte
  have hk' : (Fin.ofNat 64 ((block * 4 + i) * 4 + y)).val = (block * 4 + i) * 4 + y :=
    Nat.mod_eq_of_lt (by omega)
  rw [hk, hk'] at hbyte
  exact hbyte

/-- The rows in YMM0 to YMM3. -/
def ymmRow (i : Fin 4) : Register := .other (109 + i)

/-- The temporaries of the instance. -/
def ymmTemp (i : Fin 4) : Register := .other (113 + i)

/-- Its registers are distinct. -/
theorem transposeRegisters_ymm : TransposeRegisters vectorHost.toX87Host .ymm ymmRow ymmTemp where
  vector := by decide
  width := by decide
  rows := by decide
  temps := by decide
  apart := by decide

/-- Register `r` counts `r`, `r + 1`, … in its doublewords. -/
def countingVectors : ExecutionContext where
  state :=
    { vectors := fun r => stackLanes 32 16 fun k => BitVec.ofNat 512 (r + k) }
  memory := {}
  instr := { code := .other 0, length := 4 }
  nextRip := 4#64

/-- Element 2 of row 1 in the second matrix. -/
theorem transpose_rows_ymm : ∃ after,
    runShuffles vectorHost.toX87Host (transposeRows .ymm ymmRow ymmTemp) countingVectors =
      .ok () after ∧
    lane 32 (after.state.vectors 1) 6 = 7#32 := by
  obtain ⟨after, hrun, helements⟩ := transpose_rows transposeRegisters_ymm countingVectors
  refine ⟨after, hrun, (helements 1 2 1 (by decide)).trans ?_⟩
  decide +kernel

end Seven
