import Seven.Cpu.Plain
import Seven.Handlers.AccessBounds
import Seven.Handlers.Multiply

/-!
# Bit strings in memory

`BT`, `BTS`, `BTR` and `BTC` on memory address a string of bits: the index in
a register is signed and reaches over the whole address space. The code
reads the element of the operand's width that the index falls in, by a floor
division of the index, and works on one bit of it. Little-endian elements
make that the bit `k mod 8` of the byte at `base + floor (k / 8)`, which is
how the string is described without any elements.

Main result: `bit_string`.
-/

namespace Seven

open Seven.Lib

/-! ## The handlers -/

/-- `read_bt_base_value`. -/
def readBtBaseValue (width : RmWideWidth) (index : U64) : HandlerM U64 := do
  let ctx ← get
  if ctx.instr.opKind 0 = .memory then
    readMemoryChecked (bitAddress ctx width.bytes index) width.bytes
  else readOperandChecked 0 width.bytes

/-- `handle_code_BT_RM16_IMM8` and the others. -/
def handleBt (width : RmWideWidth) (source : BitIndexSource) : Handler := do
  let w := width.bytes
  let ctx ← get
  let index := bitIndex source w ctx
  let value ← readBtBaseValue width index
  let bit := (index &&& BitVec.ofNat 64 (8 * w - 1)).toNat
  modifyState fun s => setFlags s (setFlag s.rflags kFlagCF (flagSet (value >>> bit) 1#64))

/-- The program is the handler, base and index. -/
theorem toHandler_readBtBaseValue (width : RmWideWidth) (index : U64) (ctx : ExecutionContext) :
    (AccessM.readBtBaseValue width index).toHandler ctx = readBtBaseValue width index ctx := by
  have hget : (get : HandlerM ExecutionContext) ctx = .ok ctx ctx := rfl
  unfold AccessM.readBtBaseValue readBtBaseValue
  rw [AccessM.look_bind, bind_ok hget, AccessM.toHandler_ite, ctx.withoutMemory_instr]
  by_cases hmemory : ctx.instr.opKind 0 = .memory
  · rw [if_pos hmemory, if_pos hmemory]
    exact AccessM.toHandler_readMemoryChecked (.bitElement width index) width.bytes ctx
  · rw [if_neg hmemory, if_neg hmemory, AccessM.toHandler_readOperandChecked]

/-- The access program of `BT` is this handler. -/
theorem toHandler_handleBt (width : RmWideWidth) (source : BitIndexSource) :
    (AccessM.handleBt width source).toHandler = handleBt width source := by
  funext ctx
  have hget : (get : HandlerM ExecutionContext) ctx = .ok ctx ctx := rfl
  unfold AccessM.handleBt handleBt
  dsimp only
  rw [AccessM.look_bind, AccessM.bitIndex_withoutMemory, bind_ok hget]
  exact AccessM.request_bind (toHandler_readBtBaseValue width _ ctx) fun value c _ => rfl

/-- The four instructions. -/
inductive BitTest where
  | bt
  | rmw (op : BitOp)
deriving DecidableEq, Repr

/-- `BT`, `BTS`, `BTR`, `BTC`. -/
def handleBitTest : BitTest → RmWideWidth → BitIndexSource → Handler
  | .bt => handleBt
  | .rmw op => handleBit op

/-! ## Bits and bytes -/

/-- What becomes of the tested bit. -/
def BitTest.newBit : BitTest → Bool → Bool
  | .bt, b => b
  | .rmw .bts, _ => true
  | .rmw .btr, _ => false
  | .rmw .btc, b => !b

/-- A byte with its bit `j` treated so. -/
def BitTest.onByte (test : BitTest) (b : Byte) (j : Nat) : Byte :=
  if test.newBit (b.getLsbD j) then b ||| (1#8 <<< j) else b &&& ~~~(1#8 <<< j)

/-- The value the element takes. -/
def BitTest.compute : BitTest → U64 → Nat → U64
  | .bt, value, _ => value
  | .rmw op, value, bit => bitCompute op value bit

/-- One bit. -/
theorem getLsbD_shiftOne {n : Nat} {k : Nat} (hk : k < n) (j : Nat) :
    (1#n <<< k).getLsbD j = decide (j = k) := by
  rw [BitVec.getLsbD_shiftLeft, BitVec.getLsbD_one]
  by_cases hjk : j = k
  · subst hjk
    simp [hk]
    omega
  · rw [decide_eq_false hjk]
    by_cases hlt : j < k
    · rw [decide_eq_true hlt]
      simp
    · rw [decide_eq_false (by omega : ¬ j - k = 0)]
      simp

section

variable (test : BitTest)

/-- The bit is set, reset, complemented or left; the others are left. -/
theorem BitTest.getLsbD_compute (value : U64) {k j : Nat} (hk : k < 64) (hj : j < 64) :
    (test.compute value k).getLsbD j =
      if j = k then test.newBit (value.getLsbD k) else value.getLsbD j := by
  have hone := getLsbD_shiftOne hk j
  -- Every bit but the tested one is kept by all four tests.
  cases test with
  | bt =>
    show value.getLsbD j = if j = k then value.getLsbD k else value.getLsbD j
    split
    next h => rw [h]
    next => rfl
  | rmw op =>
    cases op with
    | bts =>
      show (value ||| (1#64 <<< k)).getLsbD j = if j = k then true else value.getLsbD j
      rw [BitVec.getLsbD_or, hone]
      split <;> simp [*]
    | btr =>
      show (value &&& ~~~(1#64 <<< k)).getLsbD j = if j = k then false else value.getLsbD j
      rw [BitVec.getLsbD_and, BitVec.getLsbD_not, hone]
      split <;> simp [*]
    | btc =>
      show (value ^^^ (1#64 <<< k)).getLsbD j = if j = k then !value.getLsbD k else value.getLsbD j
      rw [BitVec.getLsbD_xor, hone]
      split <;> simp [*]

/-- The same, on the byte that holds it. -/
theorem BitTest.getLsbD_onByte (b : Byte) {k j : Nat} (hk : k < 8) (hj : j < 8) :
    (test.onByte b k).getLsbD j = if j = k then test.newBit (b.getLsbD k) else b.getLsbD j := by
  have hone := getLsbD_shiftOne hk j
  unfold BitTest.onByte
  cases test.newBit (b.getLsbD k) with
  | true =>
    rw [if_pos rfl, BitVec.getLsbD_or, hone]
    split <;> simp [*]
  | false =>
    rw [if_neg Bool.false_ne_true, BitVec.getLsbD_and, BitVec.getLsbD_not, hone]
    split <;> simp [*]

/-- The bytes of the value: one has a bit treated, the others are as before. -/
theorem BitTest.byte_compute (value : U64) {k i : Nat} (hk : k < 64) (hi : i < 8) :
    ((test.compute value k) >>> (8 * i)).setWidth 8 =
      if i = k / 8 then test.onByte ((value >>> (8 * i)).setWidth 8) (k % 8)
      else (value >>> (8 * i)).setWidth 8 := by
  have hbyte : ∀ (v : U64) (j : Nat), j < 8 →
      ((v >>> (8 * i)).setWidth 8 : Byte).getLsbD j = v.getLsbD (8 * i + j) := by
    intro v j hj
    rw [BitVec.getLsbD_setWidth, BitVec.getLsbD_ushiftRight, decide_eq_true hj, Bool.true_and]
  apply BitVec.eq_of_getLsbD_eq
  intro j hj
  rw [hbyte _ j hj, test.getLsbD_compute value hk (by omega)]
  by_cases hik : i = k / 8
  · rw [if_pos hik, test.getLsbD_onByte _ (Nat.mod_lt _ (by decide)) hj, hbyte _ _ hj,
      hbyte _ _ (Nat.mod_lt _ (by decide))]
    have hpos : 8 * i + k % 8 = k := by omega
    rw [hpos]
    by_cases hjk : j = k % 8
    · rw [if_pos (by omega), if_pos hjk]
    · rw [if_neg (by omega), if_neg hjk]
  · rw [if_neg hik, if_neg (by omega), hbyte _ j hj]

end

/-! ## The element of an index -/

/-- The index: a signed number in a register, or an immediate modulo the
operand's bits. -/
def bitNumber (source : BitIndexSource) (width : RmWideWidth) (ctx : ExecutionContext) : Int :=
  match source with
  | .reg => signedAt width.bytes (readRegister ctx.state (ctx.instr.opRegister 1))
  | .imm8 => (ctx.instr.immediate8.toNat % (8 * width.bytes) : Nat)

/-- The address of the byte of bit `k`. -/
def bitByte (ctx : ExecutionContext) (k : Int) : U64 :=
  memoryAddress ctx.state ctx.instr + BitVec.ofInt 64 (k / 8)

/-- The mask of the operand's bits is a remainder. -/
theorem and_bits_toNat (v : U64) (width : RmWideWidth) :
    (v &&& BitVec.ofNat 64 (8 * width.bytes - 1)).toNat = v.toNat % (8 * width.bytes) := by
  rw [BitVec.toNat_and]
  cases width with
  | rm16 => exact Nat.and_two_pow_sub_one_eq_mod v.toNat 4
  | rm32 => exact Nat.and_two_pow_sub_one_eq_mod v.toNat 5
  | rm64 => exact Nat.and_two_pow_sub_one_eq_mod v.toNat 6

/-- The index as the signed number of the bit. -/
theorem bitIndex_toInt (source : BitIndexSource) (width : RmWideWidth) (ctx : ExecutionContext) :
    (bitIndex source width.bytes ctx).toInt = bitNumber source width ctx := by
  cases source with
  | reg =>
    show (if width.bytes = 8 then _ else signExtend _ width.bytes : U64).toInt = signedAt width.bytes _
    generalize readRegister ctx.state (ctx.instr.opRegister 1) = value
    cases width with
    | rm16 => exact signExtend_toInt (by decide) (by decide) value
    | rm32 => exact signExtend_toInt (by decide) (by decide) value
    | rm64 =>
      show value.toInt = signedAt 8 value
      rw [signedAt_eq_bmod (by decide), BitVec.toInt_eq_toNat_bmod]
  | imm8 =>
    show (ctx.instr.immediate8 &&& BitVec.ofNat 64 (8 * width.bytes - 1)).toInt =
      ((ctx.instr.immediate8.toNat % (8 * width.bytes) : Nat) : Int)
    have hmask : (ctx.instr.immediate8 &&& BitVec.ofNat 64 (8 * width.bytes - 1)).toNat =
        ctx.instr.immediate8.toNat % (8 * width.bytes) := and_bits_toNat _ width
    rw [BitVec.toInt_eq_toNat_of_lt, hmask]
    rw [hmask]
    cases width <;> simp only [RmWideWidth.bytes] <;> omega

/-- The bit within the element. -/
theorem elementBit_eq {index : U64} {k : Int} (hk : index.toInt = k) (width : RmWideWidth) :
    (index &&& BitVec.ofNat 64 (8 * width.bytes - 1)).toNat = (k % (8 * width.bytes : Nat)).toNat := by
  rw [and_bits_toNat, ← hk, BitVec.toInt_eq_toNat_cond]
  have hlt := index.isLt
  cases width <;> simp only [RmWideWidth.bytes] <;> split <;> omega

/-- The byte of the bit within the element is the byte of the bit. -/
theorem elementByte_eq {index : U64} {k : Int} (ctx : ExecutionContext) (hk : index.toInt = k)
    (width : RmWideWidth) :
    bitAddress ctx width.bytes index +
      BitVec.ofNat 64 ((k % (8 * width.bytes : Nat)).toNat / 8) = bitByte ctx k := by
  have hshift : index.sshiftRight (bitSpanShift width.bytes) =
      BitVec.ofInt 64 (k / (8 * width.bytes : Nat)) := by
    have hint : (index.sshiftRight (bitSpanShift width.bytes)).toInt =
        k / (8 * width.bytes : Nat) := by
      rw [BitVec.toInt_sshiftRight, hk, Int.shiftRight_eq_div_pow]
      cases width <;> rfl
    rw [← hint, BitVec.ofInt_toInt]
  have hbyte : BitVec.ofNat 64 ((k % (8 * width.bytes : Nat)).toNat / 8) =
      BitVec.ofInt 64 (k % (8 * width.bytes : Nat) / 8) := by
    have hnonneg : 0 ≤ k % (8 * width.bytes : Nat) :=
      Int.emod_nonneg k (by cases width <;> decide)
    rw [← BitVec.ofInt_natCast]
    congr 1
    omega
  unfold bitAddress bitByte
  rw [hshift, hbyte, ← BitVec.ofInt_natCast, ← BitVec.ofInt_mul, BitVec.add_assoc,
    ← BitVec.ofInt_add]
  congr 2
  cases width <;> simp only [RmWideWidth.bytes] <;> omega

/-- The bit's place in its byte is its place in the element's byte. -/
theorem elementBit_mod (k : Int) (width : RmWideWidth) :
    (k % (8 * width.bytes : Nat)).toNat % 8 = (k % 8).toNat := by
  cases width <;> simp only [RmWideWidth.bytes] <;> omega

/-- The bit lies in the element. -/
theorem elementBit_lt (k : Int) (width : RmWideWidth) :
    (k % (8 * width.bytes : Nat)).toNat < 8 * width.bytes := by
  cases width <;> simp only [RmWideWidth.bytes] <;> omega

/-! ## The outcomes -/

/-- The store of a test, `BT` having none. -/
def storeTested (test : BitTest) (address value : U64) (width : Nat) : Handler :=
  match test with
  | .bt => pure ()
  | .rmw _ => writeMemoryChecked address value width

section

variable {test : BitTest} {width : RmWideWidth} {source : BitIndexSource} {ctx ctx' : ExecutionContext}

/-- An element has bytes. -/
theorem RmWideWidth.bytes_pos (width : RmWideWidth) : 0 < width.bytes := by
  cases width <;> decide

/-- On memory the four instructions read the element, store the new one and
set the flag last. -/
theorem handleBitTest_memory (hkind : ctx.instr.opKind 0 = .memory) :
    handleBitTest test width source ctx =
      (readMemoryChecked (bitAddress ctx width.bytes (bitIndex source width.bytes ctx))
        width.bytes >>= fun value =>
        storeTested test (bitAddress ctx width.bytes (bitIndex source width.bytes ctx))
          (test.compute value (bitNumber source width ctx % (8 * width.bytes : Nat)).toNat)
          width.bytes >>= fun _ =>
        modifyState fun s => setFlags s (setFlag s.rflags kFlagCF
          (value.getLsbD (bitNumber source width ctx % (8 * width.bytes : Nat)).toNat))) ctx := by
  have hget : (get : HandlerM ExecutionContext) ctx = .ok ctx ctx := rfl
  have hflag : ∀ (v : U64) (k : Nat), flagSet (v >>> k) 1#64 = v.getLsbD k := by
    intro v k
    rw [flagSet_low, BitVec.getLsbD_ushiftRight, Nat.add_zero]
  rw [← elementBit_eq (bitIndex_toInt source width ctx) width]
  -- BT reads through a helper of its own; the others read, store and then set CF.
  cases test with
  | bt =>
    have hload : readBtBaseValue width (bitIndex source width.bytes ctx) ctx =
        readMemoryChecked (bitAddress ctx width.bytes (bitIndex source width.bytes ctx))
          width.bytes ctx := by
      unfold readBtBaseValue
      rw [bind_ok hget, if_pos hkind]
    unfold handleBitTest handleBt
    dsimp only
    rw [bind_ok hget]
    show EStateM.bind _ _ ctx = EStateM.bind _ _ ctx
    unfold EStateM.bind
    rw [hload]
    simp only [hflag]
    rfl
  | rmw op =>
    unfold handleBitTest handleBit
    dsimp only
    rw [bind_ok hget, if_pos hkind]
    simp only [hflag]
    rfl

/-- A page fault leaves every register and every flag. -/
theorem handleBitTest_error {r : ExecutionResult} (hkind : ctx.instr.opKind 0 = .memory)
    (h : handleBitTest test width source ctx = .error r ctx') :
    PageFault r ∧ ctx'.state = ctx.state := by
  rw [handleBitTest_memory hkind] at h
  -- The read or the store faults, and both leave the state as it was.
  rcases readMemoryChecked_quiet (bitAddress ctx width.bytes (bitIndex source width.bytes ctx))
    width.bytes ctx with ⟨value, hread⟩ | ⟨e, hread⟩
  · rw [bind_ok hread] at h
    cases test with
    | bt => cases h
    | rmw op =>
      cases haccepts : ctx.memory.accepts
          (bitAddress ctx width.bytes (bitIndex source width.bytes ctx))
          ((BitTest.rmw op).compute value
            (bitNumber source width ctx % (8 * width.bytes : Nat)).toNat) width.bytes with
      | true =>
        rw [bind_ok (show storeTested (.rmw op) _ _ _ ctx = _ from writeMemoryChecked_ok haccepts)] at h
        cases h
      | false =>
        rw [bind_error (show storeTested (.rmw op) _ _ _ ctx = _ from
          writeMemoryChecked_error haccepts)] at h
        cases h
        exact ⟨rfl, rfl⟩
  · rw [bind_error hread] at h
    cases h
    unfold readMemoryChecked at hread
    split at hread
    · cases hread
    · cases hread
      exact ⟨rfl, rfl⟩

/-- A test that succeeds has read the element, and stored the new one when it
is not `BT`. -/
theorem of_handleBitTest_ok (hkind : ctx.instr.opKind 0 = .memory)
    (h : handleBitTest test width source ctx = .ok () ctx') :
    ∃ bytes, ctx.memory.read (bitAddress ctx width.bytes (bitIndex source width.bytes ctx))
        width.bytes .dataRead = some bytes ∧
      ctx'.state = setFlags ctx.state (setFlag ctx.state.rflags kFlagCF
        ((fromBytes bytes).getLsbD (bitNumber source width ctx % (8 * width.bytes : Nat)).toNat)) ∧
      (test = .bt ∧ ctx'.memory = ctx.memory ∨
        ctx.memory.accepts (bitAddress ctx width.bytes (bitIndex source width.bytes ctx))
            (test.compute (fromBytes bytes)
              (bitNumber source width ctx % (8 * width.bytes : Nat)).toNat) width.bytes = true ∧
          ctx'.memory = ctx.memory.stored
            (bitAddress ctx width.bytes (bitIndex source width.bytes ctx))
            (test.compute (fromBytes bytes)
              (bitNumber source width ctx % (8 * width.bytes : Nat)).toNat) width.bytes) := by
  rw [handleBitTest_memory hkind] at h
  cases hread : ctx.memory.read (bitAddress ctx width.bytes (bitIndex source width.bytes ctx))
    width.bytes .dataRead with
  | none =>
    rw [bind_error (readMemoryChecked_none hread)] at h
    cases h
  | some bytes =>
    refine ⟨bytes, rfl, ?_⟩
    rw [bind_ok (readMemoryChecked_some hread)] at h
    -- BT has nothing to store.
    cases test with
    | bt =>
      cases h
      exact ⟨rfl, Or.inl ⟨rfl, rfl⟩⟩
    | rmw op =>
      cases haccepts : ctx.memory.accepts
          (bitAddress ctx width.bytes (bitIndex source width.bytes ctx))
          ((BitTest.rmw op).compute (fromBytes bytes)
            (bitNumber source width ctx % (8 * width.bytes : Nat)).toNat) width.bytes with
      | true =>
        rw [bind_ok (show storeTested (.rmw op) _ _ _ ctx = _ from writeMemoryChecked_ok haccepts)] at h
        cases h
        exact ⟨rfl, Or.inr ⟨rfl, rfl⟩⟩
      | false =>
        rw [bind_error (show storeTested (.rmw op) _ _ _ ctx = _ from
          writeMemoryChecked_error haccepts)] at h
        cases h

/-- The bytes of an element that was read. -/
theorem read_element {m : Memory} {a : U64} {w : Nat} {bytes : List Byte} (hw : w ≤ 8) (hpos : 0 < w)
    (hbacked : m.PageBacked a w) (hread : m.read a w .dataRead = some bytes) {i : Nat} (hi : i < w) :
    byteAt m.pages (a + BitVec.ofNat 64 i) = some ((fromBytes bytes >>> (8 * i)).setWidth 8) := by
  obtain ⟨hlen, hbytes⟩ := hbacked.read hpos hread
  obtain ⟨heq, -⟩ := (fromBytes_eq_iff hlen hw _).mp rfl
  rw [hbytes i hi]
  have hbyte : (toBytes (fromBytes bytes) w)[i]? = some ((fromBytes bytes >>> (8 * i)).setWidth 8) := by
    unfold toBytes
    rw [List.getElem?_map, List.getElem?_range hi]
    rfl
  rw [← hbyte, ← heq]

/-- The bytes after the test: the element's are those of the new value, the
others are as before. -/
theorem handleBitTest_byte (hkind : ctx.instr.opKind 0 = .memory)
    (hbacked : ctx.memory.PageBacked (bitAddress ctx width.bytes (bitIndex source width.bytes ctx))
      width.bytes) {bytes : List Byte}
    (hread : ctx.memory.read (bitAddress ctx width.bytes (bitIndex source width.bytes ctx))
      width.bytes .dataRead = some bytes)
    (h : handleBitTest test width source ctx = .ok () ctx') (x : U64) :
    byteAt ctx'.memory.pages x =
      if (x - bitAddress ctx width.bytes (bitIndex source width.bytes ctx)).toNat < width.bytes then
        some ((test.compute (fromBytes bytes)
          (bitNumber source width ctx % (8 * width.bytes : Nat)).toNat >>>
          (8 * (x - bitAddress ctx width.bytes (bitIndex source width.bytes ctx)).toNat)).setWidth 8)
      else byteAt ctx.memory.pages x := by
  obtain ⟨bytes', hread', -, hmemory⟩ := of_handleBitTest_ok hkind h
  obtain rfl := Option.some.inj (hread.symm.trans hread')
  generalize bitAddress ctx width.bytes (bitIndex source width.bytes ctx) = a at *
  have hx := add_sub_span a x
  -- The bytes of the tested element are rewritten; every other byte is as before.
  rcases hmemory with ⟨rfl, hsame⟩ | ⟨haccepts, hstored⟩
  · rw [hsame]
    split
    next hin =>
      have hold := read_element width.bytes_le width.bytes_pos hbacked hread hin
      rw [hx] at hold
      exact hold
    next => rfl
  · rw [hstored, hbacked.stored_byte width.bytes_pos width.bytes_le haccepts x]
    unfold toBytes
    split
    next hin =>
      rw [List.getElem?_map, List.getElem?_range hin]
      rfl
    next hout =>
      rw [List.getElem?_eq_none (by rw [List.length_map, List.length_range]; omega)]
      rfl

/-- On plain memory the test goes through. -/
theorem handleBitTest_plain (hkind : ctx.instr.opKind 0 = .memory)
    (hplain : ctx.memory.PlainSpan (bitAddress ctx width.bytes (bitIndex source width.bytes ctx))
      width.bytes) : ∃ ctx', handleBitTest test width source ctx = .ok () ctx' := by
  obtain ⟨bytes, hread, -⟩ := hplain.read_bytes width.bytes_pos
  rw [handleBitTest_memory hkind, bind_ok (readMemoryChecked_some hread)]
  cases test with
  | bt => exact ⟨_, rfl⟩
  | rmw op =>
    have haccepts := hplain.accepts width.bytes_pos width.bytes_le
      ((BitTest.rmw op).compute (fromBytes bytes)
        (bitNumber source width ctx % (8 * width.bytes : Nat)).toNat)
    rw [bind_ok (show storeTested (.rmw op) _ _ _ ctx = _ from writeMemoryChecked_ok haccepts)]
    exact ⟨_, rfl⟩

end

/-- **Bit strings.** On memory the index `k` names bit `k mod 8` of the byte at
`base + floor (k / 8)`. CF takes that bit; `BTS`, `BTR` and `BTC` set, clear
and flip it and change no other bit of memory; and a page fault leaves every
register and every flag. -/
theorem bit_string (test : BitTest) (width : RmWideWidth) (source : BitIndexSource)
    (ctx : ExecutionContext) (hkind : ctx.instr.opKind 0 = .memory) :
    (∀ r ctx', handleBitTest test width source ctx = .error r ctx' →
      PageFault r ∧ ctx'.state = ctx.state) ∧
    (ctx.memory.PageBacked (bitAddress ctx width.bytes (bitIndex source width.bytes ctx))
        width.bytes →
      ∀ ctx', handleBitTest test width source ctx = .ok () ctx' →
        ∃ b, byteAt ctx.memory.pages (bitByte ctx (bitNumber source width ctx)) = some b ∧
          flagSet ctx'.state.rflags kFlagCF = b.getLsbD (bitNumber source width ctx % 8).toNat ∧
          ctx'.state = setFlags ctx.state ctx'.state.rflags ∧
          ∀ x, byteAt ctx'.memory.pages x = (byteAt ctx.memory.pages x).map fun b =>
            if x = bitByte ctx (bitNumber source width ctx) then
              test.onByte b (bitNumber source width ctx % 8).toNat
            else b) ∧
    (ctx.memory.PlainSpan (bitAddress ctx width.bytes (bitIndex source width.bytes ctx))
        width.bytes →
      ∃ ctx', handleBitTest test width source ctx = .ok () ctx') := by
  refine ⟨fun r ctx' h => handleBitTest_error hkind h, fun hbacked ctx' h => ?_, fun hplain => ?_⟩
  -- The tested byte is byte `bit / 8` of the element, and the tested bit its bit `bit % 8`.
  · obtain ⟨bytes, hread, hstate, -⟩ := of_handleBitTest_ok hkind h
    have hbytes := handleBitTest_byte hkind hbacked hread h
    have htarget := elementByte_eq ctx (bitIndex_toInt source width ctx) width
    have hmod := elementBit_mod (bitNumber source width ctx) width
    have hlt := elementBit_lt (bitNumber source width ctx) width
    have hw := width.bytes_le
    generalize bitAddress ctx width.bytes (bitIndex source width.bytes ctx) = a at *
    generalize (bitNumber source width ctx % (8 * width.bytes : Nat)).toNat = bit at *
    have hbefore := fun i => @read_element ctx.memory a width.bytes bytes hw width.bytes_pos hbacked
      hread i
    refine ⟨_, htarget ▸ hbefore (bit / 8) (by omega), ?_, ?_, fun x => ?_⟩
    · rw [hstate]
      show flagSet (setFlag _ kFlagCF _) kFlagCF = _
      rw [flagSet_setFlag_self (by decide), BitVec.getLsbD_setWidth, BitVec.getLsbD_ushiftRight,
        ← hmod, decide_eq_true (Nat.mod_lt _ (by decide)), Bool.true_and, Nat.div_add_mod]
    · rw [hstate]
      rfl
    · have hsame : x = bitByte ctx (bitNumber source width ctx) ↔ (x - a).toNat = bit / 8 := by
        rw [← htarget]
        exact eq_add_span_iff (by omega)
      rw [hbytes x]
      -- Inside the element the byte comes from the stored value, outside it nothing was written.
      by_cases hin : (x - a).toNat < width.bytes
      · have hold := hbefore (x - a).toNat hin
        rw [add_sub_span] at hold
        rw [if_pos hin, hold, test.byte_compute _ (by omega) (by omega), Option.map_some, hmod]
        simp only [hsame]
      · rw [if_neg hin]
        have hne : ¬ x = bitByte ctx (bitNumber source width ctx) := by
          rw [hsame]
          omega
        simp only [if_neg hne, Option.map_id']
  · exact handleBitTest_plain hkind hplain

/-- `BTS word ptr [RAX], CX` on a fresh page, the index minus one. -/
def bitContext : ExecutionContext where
  state := { mode := .long64
             gpr := fun i => if i = 0 then 0x1004#64 else if i = 1 then 0xFFFF#64 else 0#64 }
  memory := ({} : Memory).map 0x1000#64 0x1000#64 kMemoryPermissionReadWrite
  instr := { code := .other 0, length := 4
             opKind := fun i => if i = 0 then .memory else .register
             opRegister := fun _ => .cx, memoryBase := .rax }
  nextRip := 4#64

/-- The last bit of the byte below the operand is set. -/
theorem bit_string_below : ∃ ctx', handleBitTest (.rmw .bts) .rm16 .reg bitContext = .ok () ctx' ∧
    byteAt ctx'.memory.pages 0x1003#64 = some 0x80#8 := by
  have helement : bitAddress bitContext 2 (bitIndex .reg 2 bitContext) = 0x1002#64 := by
    decide +kernel
  have hbyte : bitByte bitContext (bitNumber .reg .rm16 bitContext) = 0x1003#64 := by decide +kernel
  have hnumber : bitNumber .reg .rm16 bitContext = -1 := by decide +kernel
  have hplain : bitContext.memory.PlainSpan 0x1002#64 2 :=
    ⟨⟨rfl, rfl⟩, rfl, fun _ _ _ => rfl, by decide +kernel⟩
  obtain ⟨-, hresult, hruns⟩ := bit_string (.rmw .bts) .rm16 .reg bitContext rfl
  obtain ⟨ctx', hrun⟩ := hruns (helement ▸ hplain)
  obtain ⟨b, -, -, -, hmemory⟩ := hresult (helement ▸ hplain.pageBacked) ctx' hrun
  refine ⟨ctx', hrun, ?_⟩
  have hold : byteAt bitContext.memory.pages 0x1003#64 = some 0#8 := by decide +kernel
  rw [hmemory, hbyte, hold, hnumber, Option.map_some, if_pos rfl]
  decide

end Seven
