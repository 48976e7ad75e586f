import Seven.Handlers.BitString
import Seven.Handlers.FlagWriters
import Seven.Handlers.StringResume
import Seven.Lib.Worklist

/-!
# `RDMSRLIST` and `WRMSRLIST`

RCX says which of 64 entries are to be done. The loop clears the bit of an
entry when its value has been stored or written, so RCX is the list of what
is left at every fault, and the instruction is a resumable list of single
reads or writes: each of them `RDMSR` or `WRMSR`, with the index and the value
in tables that RSI and RDI point to.

The tables are aligned, or the instruction raises a general protection fault
before it does anything. An entry therefore lies in one page, and a store that
is refused has stored nothing.

Main result: `msr_list_resumable`.
-/

namespace Seven

open Seven.Lib

/-! ## The handlers -/

/-- `write_msr`. -/
def CpuState.writeMsr (s : CpuState) (index : Nat) (value : U64) : CpuState :=
  { s with msr := s.msr.insert index value }

/-- EAX and EDX as `handle_code_RDMSR` leaves them. -/
def rdmsrState (s : CpuState) : CpuState :=
  let value := s.readMsr (readRegister s (.r32 1)).toNat
  let s := writeRegister s .eax (truncate value 4) 4
  writeRegister s .edx (truncate (value >>> 32) 4) 4

/-- The state behind `handle_code_WRMSR`. -/
def wrmsrState (s : CpuState) : CpuState :=
  s.writeMsr (readRegister s (.r32 1)).toNat
    ((readRegister s .edx <<< 32) ||| (readRegister s .eax &&& 0xFFFFFFFF#64))

/-- `RDMSR`. -/
def handleRdmsr : Handler := modifyState rdmsrState

/-- `WRMSR`. -/
def handleWrmsr : Handler := modifyState wrmsrState

/-- The two list instructions. -/
inductive MsrList where
  | rdmsrlist | wrmsrlist
deriving DecidableEq, Repr

/-- `rsi + bit * 8`, `rdi + bit * 8`. -/
def msrTableEntry (table : U64) (bit : Nat) : U64 := table + BitVec.ofNat 64 (bit * 8)

/-- What the loop does for a bit that is set. -/
def msrAccess (op : MsrList) (rsi rdi : U64) (bit : Nat) : Handler :=
  readMemoryChecked (msrTableEntry rsi bit) 8 >>= fun msrIndex =>
    match op with
    | .rdmsrlist => fun ctx =>
      writeMemoryChecked (msrTableEntry rdi bit) (ctx.state.readMsr (truncate msrIndex 4).toNat) 8 ctx
    | .wrmsrlist =>
      readMemoryChecked (msrTableEntry rdi bit) 8 >>= fun value =>
        modifyState fun s => s.writeMsr (truncate msrIndex 4).toNat value

/-- The loop, with `n` of the 64 bits to come and its own copy of RCX. -/
def msrListLoop (op : MsrList) (rsi rdi : U64) : Nat → U64 → Handler
  | 0, _ => pure ()
  | n + 1, rcx =>
    let bit := 64 - (n + 1)
    let mask := 1#64 <<< bit
    if rcx &&& mask = 0#64 then msrListLoop op rsi rdi n rcx
    else
      msrAccess op rsi rdi bit >>= fun _ =>
        let rcx := rcx &&& ~~~mask
        (modifyState fun s => writeRegister s (.r64 1) rcx 0) >>= fun _ =>
          msrListLoop op rsi rdi n rcx

/-- `general_protection`, at `memory_address`. -/
def misalignedTable (ctx : ExecutionContext) : ExecutionResult :=
  { reason := .generalProtection
    exception := some ⟨.generalProtection, memoryAddress ctx.state ctx.instr, 0#32⟩
    code := some ctx.instr.code }

/-- `handle_code_RDMSRLIST`, `handle_code_WRMSRLIST`. -/
def handleMsrList (op : MsrList) : Handler := fun ctx =>
  let rdi := readRegister ctx.state (.r64 7)
  let rsi := readRegister ctx.state (.r64 6)
  if (rdi ||| rsi) &&& 7#64 ≠ 0#64 then .error (misalignedTable ctx) ctx
  else msrListLoop op rsi rdi 64 (readRegister ctx.state (.r64 1)) ctx

/-! ## The specification -/

/-- What `RDMSR` returns for an index, in EDX and EAX. -/
def rdmsrValue (s : CpuState) (index : U64) : U64 :=
  let s := rdmsrState (writeRegister s (.r32 1) index 4)
  (readRegister s .edx <<< 32) ||| readRegister s .eax

/-- The model-specific registers when `WRMSR` has written a value, from EDX
and EAX, to an index. -/
def wrmsrMsr (s : CpuState) (index value : U64) : Std.ExtTreeMap Nat U64 :=
  let s := writeRegister s (.r32 1) index 4
  let s := writeRegister s .eax value 4
  let s := writeRegister s .edx (value >>> 32) 4
  (wrmsrState s).msr

/-- One entry of the tables, by a single access. -/
def msrSingle (op : MsrList) (bit : Nat) : Handler := fun ctx =>
  let indexAt := msrTableEntry (ctx.state.gpr 6) bit
  let valueAt := msrTableEntry (ctx.state.gpr 7) bit
  (readMemoryChecked indexAt 8 >>= fun index =>
    match op with
    | .rdmsrlist => writeMemoryChecked valueAt (rdmsrValue ctx.state index) 8
    | .wrmsrlist => readMemoryChecked valueAt 8 >>= fun value =>
      modifyState fun s => { s with msr := wrmsrMsr s index value }) ctx

/-- The same, and its bit cleared in RCX. -/
def msrEntry (op : MsrList) (bit : Nat) : Handler :=
  msrSingle op bit >>= fun _ => modifyState fun s => s.setGpr 1 (s.gpr 1 &&& ~~~(1#64 <<< bit))

/-- The bits that are set, in ascending order. -/
def setBits (mask : U64) : List Nat := (List.range 64).filter mask.getLsbD

/-- The tables are aligned. -/
def TablesAligned (ctx : ExecutionContext) : Prop :=
  (ctx.state.gpr 7 ||| ctx.state.gpr 6) &&& 7#64 = 0#64

instance (ctx : ExecutionContext) : Decidable (TablesAligned ctx) :=
  inferInstanceAs (Decidable (_ = _))

/-- RCX lists what is left of it. -/
def EntriesLeft (ctx : ExecutionContext) (bits : List Nat) : Prop :=
  TablesAligned ctx ∧ setBits (ctx.state.gpr 1) = bits

/-! ## Single accesses -/

section

variable (s : CpuState) (index value : U64)

/-- A register reads back. -/
theorem readRegister_r32_self (i : Fin 16) :
    readRegister (writeRegister s (.r32 i) value 4) (.r32 i) = truncate value 4 :=
  @readRegister_writeRegister s (.r32 i) trivial value 4 (Or.inr rfl)

/-- Another register is left. -/
theorem readRegister_r32_ne {i j : Fin 16} (h : i ≠ j) :
    readRegister (writeRegister s (.r32 i) value 4) (.r32 j) = readRegister s (.r32 j) := by
  refine @readRegister_writeRegister_ne s (.r32 i) (.r32 j) trivial trivial rfl ?_ value 4 (Or.inr rfl)
  rintro ⟨⟩
  exact h rfl

/-- The two halves of a value, joined. -/
theorem joined_halves (v : U64) :
    (truncate (v >>> 32) 4 <<< 32) ||| truncate v 4 = v := by
  have hv := v.isLt
  have hhigh : (truncate (v >>> 32) 4).toNat = v.toNat / 2 ^ 32 := by
    rw [truncate_toNat _ (by decide : 4 ≤ 8), BitVec.toNat_ushiftRight, Nat.shiftRight_eq_div_pow]
    show _ % 2 ^ 32 = _
    omega
  have hlow : (truncate v 4).toNat = v.toNat % 2 ^ 32 := truncate_toNat _ (by decide : 4 ≤ 8)
  apply BitVec.eq_of_toNat_eq
  rw [toNat_shiftLeft_or (by omega) (by omega), hhigh, hlow]
  omega

/-- The value read, by the low half of the index. -/
theorem rdmsrValue_eq : rdmsrValue s index = s.readMsr (truncate index 4).toNat := by
  have hmsr : (writeRegister s (.r32 1) index 4).readMsr = s.readMsr := rfl
  unfold rdmsrValue rdmsrState
  dsimp only
  rw [readRegister_r32_self, hmsr]
  generalize s.readMsr (truncate index 4).toNat = v
  have hedx := readRegister_r32_self
    (writeRegister (writeRegister s (.r32 1) index 4) .eax (truncate v 4) 4) (truncate (v >>> 32) 4) 2
  have heax := readRegister_r32_ne
    (writeRegister (writeRegister s (.r32 1) index 4) .eax (truncate v 4) 4) (truncate (v >>> 32) 4)
    (by decide : (2 : Fin 16) ≠ 0)
  have hkept := readRegister_r32_self (writeRegister s (.r32 1) index 4) (truncate v 4) 0
  rw [truncate_truncate] at hedx hkept
  show (readRegister _ (.r32 2) <<< 32) ||| readRegister _ (.r32 0) = v
  rw [Register.edx, hedx, heax, Register.eax, hkept, joined_halves]

/-- The table written, by the low half of the index. -/
theorem wrmsrMsr_eq : wrmsrMsr s index value = (s.writeMsr (truncate index 4).toNat value).msr := by
  let eax := writeRegister (writeRegister s (.r32 1) index 4) (.r32 0) value 4
  let edx := writeRegister eax (.r32 2) (value >>> 32) 4
  have hecx : readRegister edx (.r32 1) = truncate index 4 := by
    rw [readRegister_r32_ne _ _ (by decide), readRegister_r32_ne _ _ (by decide),
      readRegister_r32_self]
  have heax : readRegister edx (.r32 0) = truncate value 4 := by
    rw [readRegister_r32_ne _ _ (by decide), readRegister_r32_self]
  have hedx : readRegister edx (.r32 2) = truncate (value >>> 32) 4 := readRegister_r32_self _ _ 2
  have hmask : truncate value 4 &&& 0xFFFFFFFF#64 = truncate value 4 := truncate_truncate value 4
  show s.msr.insert (readRegister edx (.r32 1)).toNat
    ((readRegister edx (.r32 2) <<< 32) ||| (readRegister edx (.r32 0) &&& 0xFFFFFFFF#64)) = _
  rw [hecx, hedx, heax, hmask, joined_halves]
  rfl

end

/-- The loop's access is the single one. -/
theorem msrSingle_eq (op : MsrList) (bit : Nat) (ctx : ExecutionContext) :
    msrSingle op bit ctx = msrAccess op (ctx.state.gpr 6) (ctx.state.gpr 7) bit ctx := by
  unfold msrSingle msrAccess
  dsimp only
  cases hread : readMemoryChecked (msrTableEntry (ctx.state.gpr 6) bit) 8 ctx with
  | error r c => rw [bind_error hread, bind_error hread]
  | ok index c =>
    have hc := readMemoryChecked_ok hread
    subst hc
    rw [bind_ok hread, bind_ok hread]
    cases op with
    | rdmsrlist => exact congrArg (writeMemoryChecked _ · 8 _) (rdmsrValue_eq _ index)
    | wrmsrlist =>
      simp only [wrmsrMsr_eq]
      rfl

/-! ## The bits of RCX -/

section

variable {mask : U64} {bit : Nat}

/-- The listed bits. -/
theorem mem_setBits : bit ∈ setBits mask ↔ bit < 64 ∧ mask.getLsbD bit = true := by
  unfold setBits
  rw [List.mem_filter, List.mem_range]

/-- Each once. -/
theorem setBits_nodup (mask : U64) : (setBits mask).Nodup := List.nodup_range.filter _

/-- A bit cleared. -/
theorem getLsbD_clear (hbit : bit < 64) (j : Nat) :
    (mask &&& ~~~(1#64 <<< bit)).getLsbD j = (mask.getLsbD j && decide (j ≠ bit)) := by
  have hone := getLsbD_shiftOne hbit j
  rw [BitVec.getLsbD_and, BitVec.getLsbD_not, hone]
  by_cases hj : j < 64
  · rw [decide_eq_true hj, Bool.true_and, decide_not]
  · rw [BitVec.getLsbD_of_ge _ _ (by omega), Bool.false_and, Bool.false_and]

/-- Clearing the first bit leaves the others. -/
theorem setBits_clear {bits : List Nat} (h : setBits mask = bit :: bits) :
    setBits (mask &&& ~~~(1#64 <<< bit)) = bits := by
  have hbit : bit < 64 := (mem_setBits.mp (h ▸ List.mem_cons_self)).1
  have hnodup := setBits_nodup mask
  have hfilter : setBits (mask &&& ~~~(1#64 <<< bit)) = (setBits mask).filter (· ≠ bit) := by
    unfold setBits
    rw [List.filter_filter]
    refine List.filter_congr fun j _ => ?_
    rw [getLsbD_clear hbit, Bool.and_comm]
  rw [hfilter, h] at *
  rw [List.filter_cons_of_neg (by simp)]
  refine List.filter_eq_self.mpr fun j hj => ?_
  obtain ⟨hnot, -⟩ := List.nodup_cons.mp hnodup
  exact decide_eq_true fun heq => hnot (heq ▸ hj)

/-- A mask without bits. -/
theorem setBits_eq_nil (h : setBits mask = []) : mask = 0#64 := by
  apply BitVec.eq_of_getLsbD_eq
  intro j hj
  cases hbit : mask.getLsbD j with
  | false => exact (BitVec.getLsbD_zero).symm
  | true =>
    have hmem := mem_setBits.mpr ⟨hj, hbit⟩
    rw [h] at hmem
    cases hmem

/-- The source's test of a bit. -/
theorem test_eq_zero_iff (hbit : bit < 64) :
    mask &&& (1#64 <<< bit) = 0#64 ↔ mask.getLsbD bit = false := by
  have hone := getLsbD_shiftOne hbit
  constructor
  · intro h
    have hbits := congrArg (BitVec.getLsbD · bit) h
    rw [BitVec.getLsbD_and, hone, decide_eq_true rfl, Bool.and_true] at hbits
    rw [hbits, BitVec.getLsbD_zero]
  · intro h
    apply BitVec.eq_of_getLsbD_eq
    intro j _
    rw [BitVec.getLsbD_and, hone, BitVec.getLsbD_zero]
    by_cases hj : j = bit
    · rw [hj, h, Bool.false_and]
    · rw [decide_eq_false hj, Bool.and_false]

end

/-! ## An entry -/

section

variable {op : MsrList} {rsi rdi : U64} {bit : Nat} {ctx c : ExecutionContext} {r : ExecutionResult}

/-- An aligned entry lies in one page. -/
theorem msrTableEntry_withinPage {table : U64} (h : table &&& 7#64 = 0#64) (bit : Nat) :
    WithinPage (msrTableEntry table bit) 8 := by
  have haligned : table.toNat % 8 = 0 := by
    have hnat := congrArg BitVec.toNat h
    rwa [BitVec.toNat_and, show (7#64).toNat = 2 ^ 3 - 1 from rfl, Nat.and_two_pow_sub_one_eq_mod]
      at hnat
  show (table + BitVec.ofNat 64 (bit * 8)).toNat % 4096 + 8 ≤ 4096
  rw [BitVec.toNat_add, BitVec.toNat_ofNat]
  omega

/-- Aligned tables have aligned entries. -/
theorem TablesAligned.entries (h : TablesAligned ctx) (bit : Nat) :
    WithinPage (msrTableEntry (ctx.state.gpr 6) bit) 8 ∧
      WithinPage (msrTableEntry (ctx.state.gpr 7) bit) 8 := by
  have hpart : ∀ a b : U64, (a ||| b) &&& 7#64 = 0#64 → a &&& 7#64 = 0#64 := by
    intro a b hor
    apply BitVec.eq_of_getLsbD_eq
    intro j hj
    have hbit := congrArg (BitVec.getLsbD · j) hor
    simp only [BitVec.getLsbD_and, BitVec.getLsbD_or, BitVec.getLsbD_zero, Bool.and_eq_false_iff,
      Bool.or_eq_false_iff] at hbit ⊢
    exact hbit.imp (·.1) id
  constructor
  · refine msrTableEntry_withinPage (hpart _ (ctx.state.gpr 7) ?_) bit
    rw [BitVec.or_comm]
    exact h
  · exact msrTableEntry_withinPage (hpart _ _ h) bit

/-- An access that succeeds leaves the registers. -/
theorem msrAccess_gpr (h : msrAccess op rsi rdi bit ctx = .ok () c) :
    c.state.gpr = ctx.state.gpr := by
  obtain ⟨index, s, hread, hrest⟩ := of_bind_ok h
  obtain rfl := readMemoryChecked_ok hread
  cases op with
  | rdmsrlist =>
    obtain ⟨-, rfl⟩ := of_writeMemoryChecked_ok hrest
    rfl
  | wrmsrlist =>
    obtain ⟨value, t, hvalue, hwrite⟩ := of_bind_ok hrest
    obtain rfl := readMemoryChecked_ok hvalue
    cases hwrite
    rfl

/-- One that is refused changes nothing. -/
theorem msrAccess_refused (hfit : WithinPage (msrTableEntry rdi bit) 8)
    (h : msrAccess op rsi rdi bit ctx = .error r c) :
    RefusedAt [msrTableEntry rsi bit, msrTableEntry rdi bit] ctx r c := by
  have hindex : msrTableEntry rsi bit ∈ [msrTableEntry rsi bit, msrTableEntry rdi bit] :=
    List.mem_cons_self
  have hvalue : msrTableEntry rdi bit ∈ [msrTableEntry rsi bit, msrTableEntry rdi bit] :=
    List.mem_cons_of_mem _ List.mem_cons_self
  rcases of_bind_error h with hread | ⟨index, s, hread, hrest⟩
  · exact readMemoryChecked_refused hindex hread
  · obtain rfl := readMemoryChecked_ok hread
    cases op with
    | rdmsrlist => exact writeMemoryChecked_refused hvalue (by decide) hfit hrest
    | wrmsrlist =>
      rcases of_bind_error hrest with hread' | ⟨value, t, -, hwrite⟩
      · exact readMemoryChecked_refused hvalue hread'
      · cases hwrite

/-- An entry done. -/
theorem msrEntry_ok (h : msrEntry op bit ctx = .ok () c) :
    ∃ d, msrAccess op (ctx.state.gpr 6) (ctx.state.gpr 7) bit ctx = .ok () d ∧
      c = { d with state := d.state.setGpr 1 (ctx.state.gpr 1 &&& ~~~(1#64 <<< bit)) } := by
  obtain ⟨_, d, haccess, hclear⟩ := of_bind_ok h
  rw [msrSingle_eq] at haccess
  cases hclear
  refine ⟨d, haccess, ?_⟩
  rw [← msrAccess_gpr haccess]

/-- An entry that faults leaves the mask. -/
theorem msrEntry_error (h : msrEntry op bit ctx = .error r c) :
    msrAccess op (ctx.state.gpr 6) (ctx.state.gpr 7) bit ctx = .error r c := by
  rcases of_bind_error h with haccess | ⟨_, d, -, hclear⟩
  · rwa [msrSingle_eq] at haccess
  · cases hclear

end

/-! ## The loop -/

/-- The set bits that are still to come. -/
def bitsFrom (n : Nat) (mask : U64) : List Nat := (List.range' (64 - n) n).filter mask.getLsbD

/-- The bits from 0 on are all. -/
theorem bitsFrom_all (mask : U64) : bitsFrom 64 mask = setBits mask := by
  unfold bitsFrom setBits
  rw [List.range_eq_range']

/-- The first bit of the rest. -/
theorem bitsFrom_succ {n : Nat} (hn : n + 1 ≤ 64) (mask : U64) :
    bitsFrom (n + 1) mask =
      if mask.getLsbD (64 - (n + 1)) then (64 - (n + 1)) :: bitsFrom n mask else bitsFrom n mask := by
  unfold bitsFrom
  rw [List.range'_succ, show 64 - (n + 1) + 1 = 64 - n by omega, List.filter_cons]

/-- Clearing a bit behind does not show. -/
theorem bitsFrom_clear {n : Nat} (hn : n + 1 ≤ 64) (mask : U64) :
    bitsFrom n (mask &&& ~~~(1#64 <<< (64 - (n + 1)))) = bitsFrom n mask := by
  unfold bitsFrom
  refine List.filter_congr fun j hj => ?_
  obtain ⟨hlow, -⟩ := List.mem_range'_1.mp hj
  rw [getLsbD_clear (by omega), decide_eq_true (by omega : j ≠ 64 - (n + 1)), Bool.and_true]

/-- **The loop runs the entries of the bits that are set.** Its copy of RCX
is RCX, and the pointers are not moved. -/
theorem msrListLoop_eq (op : MsrList) (n : Nat) (hn : n ≤ 64) (ctx : ExecutionContext) :
    msrListLoop op (ctx.state.gpr 6) (ctx.state.gpr 7) n (ctx.state.gpr 1) ctx =
      each (msrEntry op) (bitsFrom n (ctx.state.gpr 1)) ctx := by
  induction n generalizing ctx with
  | zero => rfl
  | succ n ih =>
    unfold msrListLoop
    dsimp only
    rw [bitsFrom_succ hn]
    -- A clear bit is skipped; a set one is an access whose bit of RCX is then cleared.
    by_cases hbit : (ctx.state.gpr 1).getLsbD (64 - (n + 1)) = true
    · rw [if_neg (fun h => by rw [(test_eq_zero_iff (by omega)).mp h] at hbit; cases hbit), if_pos hbit]
      cases haccess : msrAccess op (ctx.state.gpr 6) (ctx.state.gpr 7) (64 - (n + 1)) ctx with
      | error r c =>
        rw [bind_error haccess]
        refine (bind_error ?_).symm
        unfold msrEntry
        exact bind_error ((msrSingle_eq op _ ctx).trans haccess)
      | ok _ d =>
        have hgpr := msrAccess_gpr haccess
        -- The loop goes on with the RCX the access left, whose higher bits are those still to do.
        let cleared := ctx.state.gpr 1 &&& ~~~(1#64 <<< (64 - (n + 1)))
        have hentry : msrEntry op (64 - (n + 1)) ctx =
            .ok () { d with state := d.state.setGpr 1 cleared } := by
          unfold msrEntry
          rw [bind_ok ((msrSingle_eq op _ ctx).trans haccess)]
          show EStateM.Result.ok () { d with state := d.state.setGpr 1 (d.state.gpr 1 &&& _) } = _
          rw [hgpr]
        rw [bind_ok haccess, each_cons_ok hentry]
        have hnext := ih (by omega) { d with state := d.state.setGpr 1 cleared }
        have hrcx : (d.state.setGpr 1 cleared).gpr 1 = cleared := CpuState.setGpr_self _ 1 cleared
        have hrsi : (d.state.setGpr 1 cleared).gpr 6 = ctx.state.gpr 6 := by
          rw [setGpr_ne _ (by decide), hgpr]
        have hrdi : (d.state.setGpr 1 cleared).gpr 7 = ctx.state.gpr 7 := by
          rw [setGpr_ne _ (by decide), hgpr]
        dsimp only at hnext
        rw [hrcx, hrsi, hrdi, bitsFrom_clear hn] at hnext
        exact hnext
    · have hclear : (ctx.state.gpr 1).getLsbD (64 - (n + 1)) = false := Bool.eq_false_iff.mpr hbit
      rw [if_pos ((test_eq_zero_iff (by omega)).mpr hclear), if_neg hbit]
      exact ih (by omega) ctx

/-! ## Resuming -/

/-- The loop is the worklist of the mask's bits. -/
theorem handleMsrList_eq (op : MsrList) {ctx : ExecutionContext} (haligned : TablesAligned ctx) :
    handleMsrList op ctx = each (msrEntry op) (setBits (ctx.state.gpr 1)) ctx := by
  have hloop := msrListLoop_eq op 64 (Nat.le_refl 64) ctx
  rw [bitsFrom_all] at hloop
  exact (if_neg (not_not.mpr haligned)).trans hloop

/-- **RCX is the list of the entries that are left.** -/
theorem msrList_resumable (op : MsrList) :
    Resumable (handleMsrList op) (msrEntry op) EntriesLeft where
  runs := by
    rintro ctx bits ⟨haligned, rfl⟩
    exact handleMsrList_eq op haligned
  advances := by
    rintro bit bits ctx c ⟨haligned, hleft⟩ hentry
    obtain ⟨d, haccess, rfl⟩ := msrEntry_ok hentry
    have hgpr := msrAccess_gpr haccess
    refine ⟨?_, ?_⟩
    · show ((d.state.setGpr 1 _).gpr 7 ||| (d.state.setGpr 1 _).gpr 6) &&& 7#64 = 0#64
      rw [setGpr_ne _ (by decide), setGpr_ne _ (by decide), hgpr]
      exact haligned
    · show setBits ((d.state.setGpr 1 _).gpr 1) = bits
      rw [CpuState.setGpr_self]
      exact setBits_clear hleft
  refuses := by
    rintro bit bits ctx c r ⟨haligned, -⟩ hentry
    exact (msrAccess_refused (haligned.entries bit).2 (msrEntry_error hentry)).1

section

variable {I : Memory → Prop} {repair : Memory → Memory} {op : MsrList} {bit : Nat}
  {ctx c : ExecutionContext}

/-- An access carries the repair along. -/
theorem msrAccess_carries (hrepair : MemoryRepair I 8 repair) {rsi rdi : U64}
    (hindex : WithinPage (msrTableEntry rsi bit) 8) (hvalue : WithinPage (msrTableEntry rdi bit) 8) :
    Carries (fun ctx => I ctx.memory) (repaired repair) (msrAccess op rsi rdi bit) := by
  refine (hrepair.readMemoryChecked hindex).bind fun index => ?_
  cases op with
  | rdmsrlist =>
    intro ctx
    exact hrepair.writeMemoryChecked hvalue (ctx.state.readMsr (truncate index 4).toNat) ctx
  | wrmsrlist => exact (hrepair.readMemoryChecked hvalue).bind fun value => modifyState_carries _

/-- An entry that is done is done in the repaired memory as well. -/
theorem msrEntry_carries (hrepair : MemoryRepair I 8 repair) (haligned : TablesAligned ctx)
    (hI : I ctx.memory) (h : msrEntry op bit ctx = .ok () c) :
    msrEntry op bit (repaired repair ctx) = .ok () (repaired repair c) ∧ I c.memory := by
  obtain ⟨d, haccess, rfl⟩ := msrEntry_ok h
  obtain ⟨hindex, hvalue⟩ := haligned.entries bit
  obtain ⟨haccess', hI'⟩ := msrAccess_carries hrepair hindex hvalue ctx hI () d haccess
  refine ⟨?_, hI'⟩
  unfold msrEntry
  rw [bind_ok ((msrSingle_eq op bit (repaired repair ctx)).trans haccess')]
  show EStateM.Result.ok () { repaired repair d with
    state := d.state.setGpr 1 (d.state.gpr 1 &&& ~~~(1#64 <<< bit)) } = _
  rw [msrAccess_gpr haccess]
  rfl

end

/-- **Main result**: with aligned tables the instruction does the entries of
the bits of RCX in ascending order, each a single access, and ends with RCX
zero. When an access is refused, the entries before it are done and nothing of
it is, RCX has the bits of it and of those behind, and the instruction, run
again in a memory without the cause, ends as it would have with the cause gone
from the start. -/
theorem msr_list_resumable (op : MsrList) (ctx : ExecutionContext) (haligned : TablesAligned ctx) :
    handleMsrList op ctx = each (msrEntry op) (setBits (ctx.state.gpr 1)) ctx ∧
      (∀ c, handleMsrList op ctx = .ok () c → c.state.gpr 1 = 0#64) ∧
      ∀ r e, handleMsrList op ctx = .error r e →
        (∃ before bit after, setBits (ctx.state.gpr 1) = before ++ bit :: after ∧
          each (msrEntry op) before ctx = .ok () e ∧ setBits (e.state.gpr 1) = bit :: after ∧
          RefusedAt [msrTableEntry (e.state.gpr 6) bit, msrTableEntry (e.state.gpr 7) bit] e r e) ∧
        ∀ I repair, MemoryRepair I 8 repair → I ctx.memory →
          handleMsrList op (repaired repair e) = handleMsrList op (repaired repair ctx) := by
  have hwork := msrList_resumable op
  have hleft : EntriesLeft ctx (setBits (ctx.state.gpr 1)) := ⟨haligned, rfl⟩
  refine ⟨handleMsrList_eq op haligned, fun c hok => ?_, fun r e hrun => ⟨?_, ?_⟩⟩
  · exact setBits_eq_nil (hwork.done hleft hok).2
  · obtain ⟨before, bit, after, hsplit, hbefore, ⟨haligned', hremain⟩, hfails⟩ :=
      hwork.stops hleft hrun
    exact ⟨before, bit, after, hsplit, hbefore, hremain,
      msrAccess_refused (haligned'.entries bit).2 (msrEntry_error hfails)⟩
  · intro I repair hrepair hI
    refine hwork.resumes (P := fun ctx => I ctx.memory) ?_ ?_ hleft hI hrun
    · rintro u bits ⟨hu, rfl⟩
      exact ⟨hu, rfl⟩
    · rintro bit bits u v ⟨hu, -⟩ hIu hentry
      exact msrEntry_carries hrepair hu hIu hentry

/-- Two entries to read, the second index on a page that is missing. -/
def msrTables : ExecutionContext where
  state := ((({} : CpuState).setGpr 1 3#64).setGpr 6 0x1FF8#64).setGpr 7 0x1800#64
  memory := Memory.map {} 0x1000#64 0x1000#64 kMemoryPermissionReadWrite
  instr := { code := .other 0, length := 4 }
  nextRip := 4#64

set_option maxRecDepth 20000 in
/-- The first is done and the second left; with the page supplied the
instruction goes on as if it had been there. -/
theorem msr_list_resumable_boundary : ∃ r e, handleMsrList .rdmsrlist msrTables = .error r e ∧
    e.state.gpr 1 = 2#64 ∧
    handleMsrList .rdmsrlist (repaired (Memory.supply secondPage · 2) e) =
      handleMsrList .rdmsrlist (repaired (Memory.supply secondPage · 2) msrTables) := by
  refine ⟨_, _, rfl, rfl, ?_⟩
  exact ((msr_list_resumable .rdmsrlist msrTables (by decide)).2.2 _ _ rfl).2 _ _
    (supply_memoryRepair secondPage 2 (by decide) (by decide)) ⟨⟨rfl, rfl, rfl⟩, rfl⟩

end Seven
