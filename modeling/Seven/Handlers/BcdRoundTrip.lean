import Seven.Handlers.X87Faults
import Seven.Handlers.X87Spans
import Seven.Handlers.WidePair
import Seven.Lib.PackedDecimal

/-!
# Packed decimals on the x87 stack

`FBLD` reads nine bytes of two digits and a sign byte and pushes the number;
`FBSTP` takes the number's digits off again, by divisions, stores the ten bytes
and pops. The two loops are inverse on valid digits (`readBcdDigits_ok`,
`bcdDigits_eq`), and a push followed by a pop leaves TOP and the tags as they
were (`x87Pop_pushed`).

The sign is where the two differ. `FBLD` negates the number, which of zero
makes the negative zero, and `FBSTP` asks whether the number is less than
zero, which the negative zero is not. So every valid operand comes back but
that one (`bcd_round_trip_iff`).
-/

namespace Seven

open Seven.Lib

/-! ## Operands -/

/-- A valid operand: eighteen decimal digits and a sign. -/
structure BcdOperand where
  digits : List Byte
  negative : Bool
  length_digits : digits.length = 9
  decimal : ∀ b ∈ digits, DecimalPair b

namespace BcdOperand

/-- The ten bytes; the last one is `0x80` or `0x00`. -/
def bytes (p : BcdOperand) : List Byte := p.digits ++ [if p.negative then 0x80#8 else 0x00#8]

/-- Ten bytes. -/
theorem length_bytes (p : BcdOperand) : p.bytes.length = 10 := by
  unfold bytes
  rw [List.length_append, p.length_digits]
  rfl

/-- The number the digits stand for. -/
def magnitude (p : BcdOperand) : Nat := decimalValue p.digits

/-- Eighteen digits fit 64 bits. -/
theorem magnitude_lt (p : BcdOperand) : p.magnitude < 2 ^ 64 := by
  have hlt := decimalValue_lt p.decimal
  rw [p.length_digits] at hlt
  exact Nat.lt_trans hlt (by decide)

/-- The sign with no digit but zero. -/
def NegativeZero (p : BcdOperand) : Prop := p.negative = true ∧ ∀ b ∈ p.digits, b = 0#8

end BcdOperand

/-- Bytes in memory, each readable. -/
def Memory.Holds (m : Memory) (base : U64) (bytes : List Byte) : Prop :=
  ∀ i (h : i < bytes.length), m.read (base + BitVec.ofNat 64 i) 1 .dataRead = some [bytes[i]]

/-! ## The digits -/

/-- The low digit of a byte. -/
theorem low_digit (b : Byte) : b.setWidth 64 &&& 0x0F#64 = BitVec.ofNat 64 (b.toNat % 16) := by
  have hand : b.toNat &&& 15 = b.toNat % 16 := Nat.and_two_pow_sub_one_eq_mod b.toNat 4
  have hlt := b.isLt
  apply BitVec.eq_of_toNat_eq
  rw [BitVec.toNat_and, BitVec.toNat_setWidth, BitVec.toNat_ofNat, BitVec.toNat_ofNat,
    Nat.mod_eq_of_lt (by omega : b.toNat < 2 ^ 64)]
  show b.toNat &&& 15 = _
  omega

/-- The high digit of a byte. -/
theorem high_digit (b : Byte) :
    (b.setWidth 64 >>> 4) &&& 0x0F#64 = BitVec.ofNat 64 (b.toNat / 16) := by
  have hand : (b.toNat / 16) &&& 15 = b.toNat / 16 % 16 :=
    Nat.and_two_pow_sub_one_eq_mod (b.toNat / 16) 4
  have hlt := b.isLt
  apply BitVec.eq_of_toNat_eq
  rw [BitVec.toNat_and, BitVec.toNat_ushiftRight, BitVec.toNat_setWidth, BitVec.toNat_ofNat,
    BitVec.toNat_ofNat, Nat.mod_eq_of_lt (by omega : b.toNat < 2 ^ 64), Nat.shiftRight_eq_div_pow]
  show (b.toNat / 16) &&& 15 = _
  omega

/-- **The loop of `FBLD`** adds the value of the bytes it has not read yet,
times the weight it has reached. -/
theorem readBcdDigits_ok {ctx : ExecutionContext} {base : U64} :
    ∀ (digits : List Byte) (i m k : Nat),
      (∀ j (h : j < digits.length), ctx.memory.read (base + BitVec.ofNat 64 (i + j)) 1 .dataRead =
        some [digits[j]]) →
      readBcdDigits base i digits.length (BitVec.ofNat 64 m) (BitVec.ofNat 64 k) ctx =
        .ok (BitVec.ofNat 64 (m + k * decimalValue digits)) ctx := by
  intro digits
  -- Two digits a byte, the low one first, with the multiplier a hundred times larger each turn.
  induction digits with
  | nil =>
    intro i m k _
    rw [decimalValue_nil, Nat.mul_zero, Nat.add_zero]
    rfl
  | cons b digits ih =>
    intro i m k hread
    have hfirst := readMemoryChecked_some (hread 0 (Nat.zero_lt_succ _))
    have hrest := ih (i + 1) (m + pairValue b * k) (k * 100) fun j hj => by
      have hnext := hread (j + 1) (Nat.succ_lt_succ hj)
      rw [show i + (j + 1) = i + 1 + j by omega] at hnext
      exact hnext
    rw [Nat.add_zero, List.getElem_cons_zero, fromBytes_one] at hfirst
    rw [List.length_cons]
    unfold readBcdDigits
    rw [bind_ok hfirst, low_digit, high_digit]
    have hmul : BitVec.ofNat 64 k * 10#64 * 10#64 = BitVec.ofNat 64 (k * 100) := by
      rw [← BitVec.ofNat_mul, ← BitVec.ofNat_mul, Nat.mul_assoc]
    have hsum : BitVec.ofNat 64 m + BitVec.ofNat 64 (b.toNat % 16) * BitVec.ofNat 64 k +
        BitVec.ofNat 64 (b.toNat / 16) * (BitVec.ofNat 64 k * 10#64) =
        BitVec.ofNat 64 (m + pairValue b * k) := by
      rw [← BitVec.ofNat_mul, ← BitVec.ofNat_mul, ← BitVec.ofNat_mul, ← BitVec.ofNat_add,
        ← BitVec.ofNat_add]
      congr 1
      unfold pairValue
      ring
    rw [hmul, hsum, hrest, decimalValue_cons]
    congr 2
    ring

/-- The byte that a round of `FBSTP` makes. -/
theorem packPair_toNat (v : U64) :
    (((v / 10#64 % 10#64) <<< 4) ||| (v % 10#64)).setWidth 8 = packPair v.toNat := by
  have hlow : (v % 10#64).toNat = v.toNat % 10 := BitVec.toNat_umod
  have hhigh : (v / 10#64 % 10#64).toNat = v.toNat / 10 % 10 := by
    rw [BitVec.toNat_umod, BitVec.toNat_udiv]
    rfl
  apply BitVec.eq_of_toNat_eq
  unfold packPair
  rw [BitVec.toNat_setWidth, toNat_shiftLeft_or (by omega) (by omega), hlow, hhigh,
    BitVec.toNat_ofNat]
  rfl

/-- **The loop of `FBSTP`** packs the number. -/
theorem bcdDigits_eq : ∀ (n : Nat) (v : U64), bcdDigits n v = packDecimal n v.toNat := by
  intro n
  induction n with
  | zero => exact fun _ => rfl
  | succ n ih =>
    intro v
    have hdiv : (v / 10#64 / 10#64).toNat = v.toNat / 100 := by
      rw [BitVec.toNat_udiv, BitVec.toNat_udiv, Nat.div_div_eq_div_mul]
      rfl
    unfold bcdDigits packDecimal
    rw [packPair_toNat, ih, hdiv]

/-- The digits of the number are the operand's. -/
theorem BcdOperand.bcdDigits_magnitude (p : BcdOperand) :
    bcdDigits 9 (BitVec.ofNat 64 p.magnitude) = p.digits := by
  have hpacked := packDecimal_decimalValue p.decimal
  rw [p.length_digits] at hpacked
  rw [bcdDigits_eq, BitVec.toNat_ofNat, Nat.mod_eq_of_lt p.magnitude_lt]
  exact hpacked

/-! ## The number -/

/-- What is used of softfloat: 64-bit integers convert exactly, both ways, and
compare with zero as they do. -/
structure SoftFloat.IntegersExact (F : SoftFloat) : Prop where
  toUi64 : ∀ v, F.extF80ToUi64 (F.ui64ToExtF80 v) = v
  not_lt : ∀ v, F.extF80Lt (F.ui64ToExtF80 v) F.zero = false
  neg_lt : ∀ v, F.extF80Lt (F.ui64ToExtF80 v).neg F.zero = decide (v ≠ 0#64)

/-! ## Bytes in memory -/

/-- The stores of a byte list, one by one. -/
theorem mem_byteStores : ∀ (bytes : List Byte) (i j : Nat) (h : j < bytes.length),
    (i + j, bytes[j].setWidth 64, 1) ∈ byteStores i bytes := by
  intro bytes
  induction bytes with
  | nil => exact fun _ _ h => absurd h (Nat.not_lt_zero _)
  | cons b bytes ih =>
    intro i j h
    unfold byteStores
    cases j with
    | zero => exact List.mem_cons_self
    | succ j =>
      have hrest := ih (i + 1) j (Nat.lt_of_succ_lt_succ h)
      rw [show i + 1 + j = i + (j + 1) by omega] at hrest
      exact List.mem_cons_of_mem _ hrest

/-- Bytes that are stored one by one are held. -/
theorem Memory.PlainArea.holds_putAll {m : Memory} {base : U64} {bytes : List Byte}
    (h : m.PlainArea base bytes.length) (hle : bytes.length ≤ 2 ^ 64) :
    (m.putAll base (byteStores 0 bytes)).Holds base bytes := by
  intro i hi
  have hmem := mem_byteStores bytes 0 i hi
  rw [Nat.zero_add] at hmem
  rw [h.read_putAll hle (covers_byteStores rfl).inOrder hmem, toBytes_one]

/-- A memory holds one list of bytes at a place. -/
theorem Memory.Holds.eq {m : Memory} {base : U64} {bytes bytes' : List Byte}
    (h : m.Holds base bytes) (h' : m.Holds base bytes') (hlen : bytes.length = bytes'.length) :
    bytes = bytes' := by
  apply List.ext_getElem hlen
  intro i hi hi'
  have hread := Option.some.inj ((h i hi).symm.trans (h' i hi'))
  exact List.head_eq_of_cons_eq hread

/-! ## The two instructions -/

section

variable {F : SoftFloat} {p : BcdOperand} {ctx : ExecutionContext}

/-- What `FBLD` pushes. -/
def BcdOperand.value (F : SoftFloat) (p : BcdOperand) : Float80 :=
  let value := F.ui64ToExtF80 (BitVec.ofNat 64 p.magnitude)
  if p.negative then value.neg else value

/-- The sign byte, read. -/
theorem readSign_ok (hsource : ctx.memory.Holds (memoryAddress ctx.state ctx.instr) p.bytes) :
    readMemoryChecked (memoryAddress ctx.state ctx.instr + 9#64) 1 ctx =
      .ok ((if p.negative then 0x80#8 else 0x00#8).setWidth 64) ctx := by
  have hnine : 9 < p.bytes.length := by rw [p.length_bytes]; decide
  have hlast : p.bytes[9] = if p.negative then 0x80#8 else 0x00#8 :=
    List.getElem_concat_length p.length_digits.symm hnine
  have hbyte := readMemoryChecked_some (hsource 9 hnine)
  rw [hlast, fromBytes_one] at hbyte
  exact hbyte

/-- The load, where there is room and the source is there. -/
theorem x87LoadBcd_ok (hroom : ctx.state.x87IsEmpty 7 = true)
    (hsource : ctx.memory.Holds (memoryAddress ctx.state ctx.instr) p.bytes) :
    x87LoadBcd F ctx = .ok () { ctx with state := ctx.state.x87Pushed F (p.value F) } := by
  have hget : (get : HandlerM ExecutionContext) ctx = .ok ctx ctx := rfl
  have hdigits := @readBcdDigits_ok ctx (memoryAddress ctx.state ctx.instr) p.digits 0 0 1 (by
    intro j hj
    have hbyte := hsource j (by rw [p.length_bytes]; rw [p.length_digits] at hj; omega)
    -- The operand's last byte holds the sign and no digits.
    rw [Nat.zero_add, hbyte]
    congr 2
    exact List.getElem_append_left hj)
  rw [p.length_digits, Nat.zero_add, Nat.one_mul] at hdigits
  have hvalue : (if (if p.negative then 0x80#8 else 0x00#8).setWidth 64 &&& 0x80#64 ≠ 0#64
      then (F.ui64ToExtF80 (BitVec.ofNat 64 (decimalValue p.digits))).neg
      else F.ui64ToExtF80 (BitVec.ofNat 64 (decimalValue p.digits))) = p.value F := by
    unfold BcdOperand.value
    cases p.negative with
    | true => rfl
    | false => rfl
  unfold x87LoadBcd
  rw [bind_ok hget]
  dsimp only
  rw [bind_ok hdigits, bind_ok (readSign_ok hsource), hvalue]
  unfold pushOr
  rw [x87Push_room F hroom]
  rfl

/-- `FBSTP` of a register in use, into plain memory. -/
theorem handleFbstp_ok {u : CpuState} (hused : ctx.state.x87IsEmpty 0 = false)
    (hplain : ctx.memory.PlainArea (memoryAddress ctx.state ctx.instr) 10)
    (hpop : ctx.state.x87Pop = (true, u)) :
    handleFbstp F ctx = .ok () { ctx with
      state := u
      memory := ctx.memory.putAll (memoryAddress ctx.state ctx.instr)
        (byteStores 0 (X87NumberStore.bcdImage F (ctx.state.x87Get 0))) } := by
  have hget : (get : HandlerM ExecutionContext) ctx = .ok ctx ctx := rfl
  have hstores : storeBytesChecked (memoryAddress ctx.state ctx.instr) 0
      (X87NumberStore.bcdImage F (ctx.state.x87Get 0)) ctx = .ok () { ctx with
        memory := ctx.memory.putAll (memoryAddress ctx.state ctx.instr)
          (byteStores 0 (X87NumberStore.bcdImage F (ctx.state.x87Get 0))) } := by
    rw [storeBytesChecked_eq]
    apply storeWordsChecked_ok hplain
    intro q hq
    exact (X87NumberStore.covers F .fbstp ctx.state).inOrder.fits _ (List.mem_map_of_mem hq)
  unfold handleFbstp
  rw [bind_ok hget, if_neg (by rw [hused]; exact Bool.false_ne_true)]
  refine (bind_ok hstores).trans ?_
  unfold popOrUnderflow
  dsimp only
  rw [hpop]
  rfl

end

/-! ## The sign -/

namespace BcdOperand

variable {F : SoftFloat} (p : BcdOperand)

/-- The number is zero when all digits are. -/
theorem magnitude_eq_zero : BitVec.ofNat 64 p.magnitude = 0#64 ↔ ∀ b ∈ p.digits, b = 0#8 := by
  rw [← decimalValue_eq_zero]
  constructor
  · intro h
    have hnat := congrArg BitVec.toNat h
    rw [BitVec.toNat_ofNat, Nat.mod_eq_of_lt p.magnitude_lt] at hnat
    exact hnat
  · intro h
    unfold magnitude
    rw [h]

variable (hF : F.IntegersExact)
include hF

/-- The sign that `FBSTP` sees. -/
theorem value_lt_zero : F.extF80Lt (p.value F) F.zero =
    (p.negative && decide (BitVec.ofNat 64 p.magnitude ≠ 0#64)) := by
  unfold value
  cases p.negative with
  | false => exact hF.not_lt _
  | true => exact hF.neg_lt _

/-- `FBSTP` makes the bytes that `FBLD` was given, but of the negative zero. -/
theorem bcdImage_value (h : ¬p.NegativeZero) :
    X87NumberStore.bcdImage F (p.value F) = p.bytes := by
  have hlt := p.value_lt_zero hF
  have hdigits : bcdDigits 9 (F.extF80ToUi64 (F.ui64ToExtF80 (BitVec.ofNat 64 p.magnitude))) =
      p.digits := by
    rw [hF.toUi64]
    exact p.bcdDigits_magnitude
  unfold X87NumberStore.bcdImage bytes
  dsimp only
  cases hsign : p.negative with
  | false =>
    have hvalue : p.value F = F.ui64ToExtF80 (BitVec.ofNat 64 p.magnitude) := by
      unfold value
      rw [hsign]
      rfl
    rw [hsign, Bool.false_and] at hlt
    rw [hlt, if_neg Bool.false_ne_true, if_neg Bool.false_ne_true, hvalue, hdigits]
  | true =>
    -- the number is not zero, so its negation is less
    have hvalue : p.value F = (F.ui64ToExtF80 (BitVec.ofNat 64 p.magnitude)).neg := by
      unfold value
      rw [hsign]
      rfl
    have hnonzero : BitVec.ofNat 64 p.magnitude ≠ 0#64 :=
      fun hzero => h ⟨hsign, p.magnitude_eq_zero.mp hzero⟩
    rw [hsign, decide_eq_true hnonzero, Bool.and_true] at hlt
    rw [hlt, if_pos rfl, if_pos rfl, hvalue, Float80.neg_neg, hdigits]

/-- The negative zero is not less than zero, so its sign byte is `0x00`. -/
theorem bcdImage_negativeZero (h : p.NegativeZero) :
    X87NumberStore.bcdImage F (p.value F) ≠ p.bytes := by
  obtain ⟨hsign, hzero⟩ := h
  have hlt := p.value_lt_zero hF
  rw [hsign, p.magnitude_eq_zero.mpr hzero, Bool.true_and, decide_eq_false (not_not_intro rfl)]
    at hlt
  intro heq
  unfold X87NumberStore.bcdImage bytes at heq
  dsimp only at heq
  rw [hlt, hsign] at heq
  have hlast := (List.append_inj' heq rfl).2
  exact absurd hlast (by decide)

end BcdOperand

/-! ## The round trip -/

/-- The operand's bytes are back, at `base`, and TOP and the tags are as they
were in `s`. -/
structure BcdReturned (p : BcdOperand) (s : CpuState) (base : U64) (c : ExecutionContext) : Prop where
  bytes : c.memory.Holds base p.bytes
  tags : c.state.x87Tags = s.x87Tags
  top : c.state.x87Top = s.x87Top
  statusTop : topBits c.state.x87StatusWord = topBits s.x87StatusWord

section

variable {F : SoftFloat} {p : BcdOperand} {ctx c : ExecutionContext}

/-- `FBSTP` after `FBLD`, in one run: what it stores are the bytes of the
pushed value, and the stack is back. -/
theorem handleFbstp_pushed (hs : X87WellFormed ctx.state) (hroom : ctx.state.x87IsEmpty 7 = true)
    (hsame : SameX87Registers (ctx.state.x87Pushed F (p.value F)) c.state)
    (hplain : c.memory.PlainArea (memoryAddress c.state c.instr) 10) :
    ∃ stored, handleFbstp F c = .ok () stored ∧
      stored.memory.Holds (memoryAddress c.state c.instr)
        (X87NumberStore.bcdImage F (p.value F)) ∧
      (BcdReturned p ctx.state (memoryAddress c.state c.instr) stored ↔
        X87NumberStore.bcdImage F (p.value F) = p.bytes) := by
  obtain ⟨u, hpop, htags, htop, hstatus⟩ := x87Pop_pushed hsame hs hroom
  refine ⟨_, handleFbstp_ok (pushed_used hsame) hplain hpop, ?_⟩
  have hlen := X87NumberStore.length_bcdImage F (p.value F)
  rw [pushed_get hsame]
  have hheld := @Memory.PlainArea.holds_putAll _ _ (X87NumberStore.bcdImage F (p.value F))
    (hlen.symm ▸ hplain) (by rw [hlen]; decide)
  refine ⟨hheld, ?_⟩
  constructor
  · intro h
    exact hheld.eq h.bytes (hlen.trans p.length_bytes.symm)
  · intro heq
    exact ⟨heq ▸ hheld, htags, htop, hstatus⟩

/-- **Main result**: with a register free, `FBLD` of a valid operand goes
through, and so does a later `FBSTP` to plain memory, wherever that is and
whatever came between, as long as the stack is as `FBLD` left it. The ten bytes,
TOP and the tags are then back exactly when the operand was not the negative
zero. -/
theorem bcd_round_trip_iff (hF : F.IntegersExact) (p : BcdOperand) {ctx : ExecutionContext}
    (hs : X87WellFormed ctx.state) (hroom : ctx.state.x87IsEmpty 7 = true)
    (hsource : ctx.memory.Holds (memoryAddress ctx.state ctx.instr) p.bytes) :
    ∃ loaded, x87LoadBcd F ctx = .ok () loaded ∧
      ∀ c : ExecutionContext, SameX87Registers loaded.state c.state →
        c.memory.PlainArea (memoryAddress c.state c.instr) 10 →
        ∃ stored, handleFbstp F c = .ok () stored ∧
          (BcdReturned p ctx.state (memoryAddress c.state c.instr) stored ↔ ¬p.NegativeZero) := by
  refine ⟨_, x87LoadBcd_ok hroom hsource, fun c hsame hplain => ?_⟩
  obtain ⟨stored, hok, -, hiff⟩ := handleFbstp_pushed hs hroom hsame hplain
  refine ⟨stored, hok, hiff.trans ⟨fun heq hzero => ?_, fun h => p.bcdImage_value hF h⟩⟩
  exact p.bcdImage_negativeZero hF hzero heq

end

/-! ## Integers in eighty bits -/

/-- The leading one of the significand is its top bit; zero has none. -/
def normalized (v : U64) : Float80 :=
  if v = 0#64 then 0#80
  else Float80.make (BitVec.ofNat 16 (0x403E - (63 - v.toNat.log2))) (v <<< (63 - v.toNat.log2))

/-- The order by sign and magnitude. -/
def signedLt (x y : Float80) : Bool :=
  if x.isnan || y.isnan then false
  else if x.signbit = y.signbit then x != y && (x.signbit ^^ x.ult y)
  else x.signbit && !(x.abs == 0#80 && y.abs == 0#80)

/-- Softfloat where it converts and compares integers. -/
def integerFloat : SoftFloat :=
  { (default : SoftFloat) with
    extF80Eq := fun x y => x == y || (x.abs == 0#80 && y.abs == 0#80)
    extF80Lt := signedLt
    ui64ToExtF80 := normalized
    extF80ToUi64 := fun x => x.signif >>> (0x403E - (x.signExp &&& 0x7FFF#16).toNat) }

/-- A number that is not zero: its exponent is below that of the NaNs, and its
significand shifts back to it. -/
theorem normalized_make {v : U64} (h : v ≠ 0#64) : ∃ e k, e + k = 0x403E ∧ k < 64 ∧
    normalized v = Float80.make (BitVec.ofNat 16 e) (v <<< k) ∧ (v <<< k) >>> k = v := by
  have hnat : v.toNat ≠ 0 := fun hzero => h (BitVec.eq_of_toNat_eq hzero)
  have hlog : v.toNat.log2 < 64 := (Nat.log2_lt hnat).mpr v.isLt
  refine ⟨0x403E - (63 - v.toNat.log2), 63 - v.toNat.log2, by omega, by omega, if_neg h, ?_⟩
  have hfits : v.toNat * 2 ^ (63 - v.toNat.log2) < 2 ^ 64 := by
    have hbelow : v.toNat < 2 ^ (v.toNat.log2 + 1) := Nat.lt_log2_self
    calc v.toNat * 2 ^ (63 - v.toNat.log2)
        < 2 ^ (v.toNat.log2 + 1) * 2 ^ (63 - v.toNat.log2) :=
          Nat.mul_lt_mul_of_pos_right hbelow (Nat.two_pow_pos _)
      _ = 2 ^ 64 := by
          rw [← Nat.pow_add]
          congr 1
          omega
  apply BitVec.eq_of_toNat_eq
  rw [BitVec.toNat_ushiftRight, BitVec.toNat_shiftLeft, Nat.shiftLeft_eq, Nat.mod_eq_of_lt hfits,
    Nat.shiftRight_eq_div_pow, Nat.mul_div_cancel _ (Nat.two_pow_pos _)]

/-- The exponent back from its field. -/
theorem toNat_exponent {e : Nat} (h : e < 0x8000) :
    (BitVec.ofNat 16 e &&& 0x7FFF#16).toNat = e := by
  have hand : e &&& 0x7FFF = e % 2 ^ 15 := Nat.and_two_pow_sub_one_eq_mod e 15
  rw [BitVec.toNat_and, BitVec.toNat_ofNat, Nat.mod_eq_of_lt (by omega)]
  show e &&& 0x7FFF = e
  omega

section

variable (v : U64)

/-- A normalized integer is no NaN. -/
theorem normalized_isnan : (normalized v).isnan = false := by
  by_cases h : v = 0#64
  · rw [h]
    decide
  · obtain ⟨e, k, hsum, hk, hmake, _⟩ := normalized_make h
    have hexponent : BitVec.ofNat 16 e &&& 0x7FFF#16 ≠ 0x7FFF#16 := by
      intro heq
      have hnat := congrArg BitVec.toNat heq
      rw [toNat_exponent (by omega)] at hnat
      have hmax : (0x7FFF#16).toNat = 0x7FFF := rfl
      omega
    unfold Float80.isnan
    rw [hmake, Float80.signExp_make, beq_eq_false_iff_ne.mpr hexponent, Bool.false_and]

/-- It has no sign. -/
theorem normalized_sign : (normalized v).signExp &&& 0x8000#16 = 0#16 := by
  by_cases h : v = 0#64
  · rw [h]
    decide
  · obtain ⟨e, k, hsum, hk, hmake, _⟩ := normalized_make h
    have hexponent : BitVec.ofNat 16 e &&& 0x7FFF#16 = BitVec.ofNat 16 e := by
      apply BitVec.eq_of_toNat_eq
      rw [toNat_exponent (by omega), BitVec.toNat_ofNat, Nat.mod_eq_of_lt (by omega)]
    rw [hmake, Float80.signExp_make, ← hexponent, BitVec.and_assoc,
      show 0x7FFF#16 &&& 0x8000#16 = 0#16 by decide, BitVec.and_zero]

/-- It is zero for zero only. -/
theorem normalized_abs : (normalized v).abs = 0#80 ↔ v = 0#64 := by
  constructor
  · intro habs
    by_contra h
    obtain ⟨e, k, _, _, hmake, hback⟩ := normalized_make h
    have hsignif := congrArg Float80.signif habs
    unfold Float80.abs at hsignif
    rw [hmake, Float80.signif_make, Float80.signif_make] at hsignif
    rw [hsignif] at hback
    exact h (hback.symm.trans BitVec.zero_ushiftRight)
  · rintro rfl
    decide

/-- The concrete library converts integers exactly. -/
theorem integerFloat_exact : integerFloat.IntegersExact where
  toUi64 := by
    intro v
    show (normalized v).signif >>> (0x403E - ((normalized v).signExp &&& 0x7FFF#16).toNat) = v
    by_cases h : v = 0#64
    · rw [h]
      decide
    · obtain ⟨e, k, hsum, hk, hmake, hback⟩ := normalized_make h
      rw [hmake, Float80.signif_make, Float80.signExp_make, toNat_exponent (by omega),
        show 0x403E - e = k by omega]
      exact hback
  not_lt := by
    intro v
    show signedLt (normalized v) 0#80 = false
    have hsign : (normalized v).signbit = false := by
      unfold Float80.signbit
      rw [normalized_sign]
      decide
    have hleast : (normalized v).ult 0#80 = false := decide_eq_false (Nat.not_lt_zero _)
    unfold signedLt
    rw [normalized_isnan, hsign, hleast]
    exact Bool.and_false _
  neg_lt := by
    intro v
    show signedLt (normalized v).neg 0#80 = decide (v ≠ 0#64)
    have hsign : (normalized v).neg.signbit = true := by
      unfold Float80.signbit
      rw [Float80.signExp_neg, Float80.xor_and_distrib, normalized_sign]
      decide
    unfold signedLt
    rw [Float80.isnan_neg, normalized_isnan, hsign, Float80.abs_neg]
    show (!((normalized v).abs == 0#80 && true)) = decide (v ≠ 0#64)
    by_cases h : v = 0#64
    · rw [(normalized_abs v).mpr h, decide_eq_false (not_not_intro h)]
      rfl
    · rw [beq_eq_false_iff_ne.mpr (mt (normalized_abs v).mp h), decide_eq_true h]
      rfl

end

/-! ## Two operands -/

/-- An empty stack, and the operand at the start of a page. -/
def bcdContext (p : BcdOperand) : ExecutionContext :=
  { imageContext emptyStack with
    memory := (imageContext emptyStack).memory.putAll 0x1000#64 (byteStores 0 p.bytes) }

/-- The next instruction's operand is elsewhere on the page. -/
def elsewhere (ctx : ExecutionContext) : ExecutionContext :=
  { ctx with instr := { ctx.instr with memoryDisplacement64 := 0x1100#64 } }

/-- The source is in memory. -/
theorem bcdContext_holds (p : BcdOperand) : (bcdContext p).memory.Holds
    (memoryAddress (bcdContext p).state (bcdContext p).instr) p.bytes := by
  have haddr : memoryAddress (bcdContext p).state (bcdContext p).instr = 0x1000#64 :=
    @imageContext_address emptyStack rfl
  have hlen := p.length_bytes
  rw [haddr]
  exact ((imageContext_page emptyStack).mono (by omega)).holds_putAll (by omega)

/-- The context after `FBLD`. -/
def bcdLoaded (p : BcdOperand) : ExecutionContext :=
  { bcdContext p with state := emptyStack.x87Pushed integerFloat (p.value integerFloat) }

/-- The destination's address. -/
theorem elsewhere_address (p : BcdOperand) :
    memoryAddress (elsewhere (bcdLoaded p)).state (elsewhere (bcdLoaded p)).instr = 0x1100#64 := by
  have hfs : Register.none ≠ .fs := by decide
  have hgs : Register.none ≠ .gs := by decide
  have hdisplacement : memoryAddress (elsewhere (bcdLoaded p)).state (elsewhere (bcdLoaded p)).instr =
      maskLinearAddress (bcdLoaded p).state 0x1100#64 := by
    simp [memoryAddress, elsewhere, bcdLoaded, bcdContext, imageContext, hfs, hgs]
  rw [hdisplacement]
  unfold maskLinearAddress
  rw [show (bcdLoaded p).state.mode = .long64 from rfl]
  decide

/-- The destination is plain. -/
theorem elsewhere_plain (p : BcdOperand) : (elsewhere (bcdLoaded p)).memory.PlainArea
    (memoryAddress (elsewhere (bcdLoaded p)).state (elsewhere (bcdLoaded p)).instr) 10 := by
  have harea : (bcdContext p).memory.PlainArea 0x1000#64 512 := by
    apply (imageContext_page emptyStack).putAll_area
    intro q hq
    have hfits := (covers_byteStores p.length_bytes).inOrder.fits _ (List.mem_map_of_mem hq)
    exact hfits.2.1
  rw [elsewhere_address]
  intro o w hpos hle hfits
  have hspan := harea (256 + o) w hpos hle (by omega)
  rw [BitVec.ofNat_add, ← BitVec.add_assoc] at hspan
  exact hspan

/-- An operand of one digit pair. -/
def operandOf (first : Byte) (h : DecimalPair first) (negative : Bool) : BcdOperand where
  digits := first :: List.replicate 8 0#8
  negative := negative
  length_digits := rfl
  decimal := by
    intro b hb
    rcases List.mem_cons.mp hb with rfl | hb
    · exact h
    · rw [List.eq_of_mem_replicate hb]
      decide

/-- `-21`. -/
def minusTwentyOne : BcdOperand := operandOf 0x21#8 (by decide) true

/-- `+0`. -/
def plainZero : BcdOperand := operandOf 0x00#8 (by decide) false

/-- `-0`. -/
def negativeZero : BcdOperand := operandOf 0x00#8 (by decide) true

/-- The reset stack. -/
theorem emptyStack_wellFormed : X87WellFormed emptyStack := X87WellFormed.x87Reset bitwiseFloat

/-- The load of the context. -/
theorem bcdContext_load (p : BcdOperand) :
    x87LoadBcd integerFloat (bcdContext p) = .ok () (bcdLoaded p) :=
  @x87LoadBcd_ok integerFloat p (bcdContext p) rfl (bcdContext_holds p)

/-- The round trip of a negative number. -/
theorem bcd_round_trip_minus : ∃ loaded stored,
    x87LoadBcd integerFloat (bcdContext minusTwentyOne) = .ok () loaded ∧
      handleFbstp integerFloat (elsewhere loaded) = .ok () stored ∧
      BcdReturned minusTwentyOne emptyStack 0x1100#64 stored := by
  obtain ⟨loaded, hload, hstore⟩ := @bcd_round_trip_iff integerFloat integerFloat_exact
    minusTwentyOne (bcdContext minusTwentyOne) emptyStack_wellFormed rfl (bcdContext_holds _)
  have hloaded : loaded = bcdLoaded minusTwentyOne := by
    rw [bcdContext_load] at hload
    cases hload
    rfl
  subst hloaded
  obtain ⟨stored, hok, hiff⟩ := hstore (elsewhere (bcdLoaded minusTwentyOne)) ⟨rfl, rfl, rfl⟩
    (elsewhere_plain _)
  rw [elsewhere_address] at hiff
  refine ⟨_, stored, hload, hok, hiff.mpr fun hzero => ?_⟩
  exact absurd (hzero.2 0x21#8 List.mem_cons_self) (by decide)

/-- A zero is stored without its sign. -/
theorem bcdImage_plainZero : X87NumberStore.bcdImage integerFloat
    (negativeZero.value integerFloat) = plainZero.bytes := by
  decide +kernel

/-- The negative zero comes back as zero, without its sign. -/
theorem bcd_round_trip_negativeZero :
    (bcdContext negativeZero).memory.Holds
      (memoryAddress (bcdContext negativeZero).state (bcdContext negativeZero).instr)
      negativeZero.bytes ∧
    ∃ loaded stored, x87LoadBcd integerFloat (bcdContext negativeZero) = .ok () loaded ∧
      handleFbstp integerFloat (elsewhere loaded) = .ok () stored ∧
      stored.memory.Holds 0x1100#64 plainZero.bytes ∧
      ¬BcdReturned negativeZero emptyStack 0x1100#64 stored := by
  have hroom : (bcdContext negativeZero).state.x87IsEmpty 7 = true := rfl
  have hsame : SameX87Registers ((bcdContext negativeZero).state.x87Pushed integerFloat
      (negativeZero.value integerFloat)) (elsewhere (bcdLoaded negativeZero)).state :=
    ⟨rfl, rfl, rfl⟩
  obtain ⟨stored, hok, hheld, hiff⟩ := @handleFbstp_pushed integerFloat negativeZero
    (bcdContext negativeZero) (elsewhere (bcdLoaded negativeZero)) emptyStack_wellFormed hroom hsame
    (elsewhere_plain _)
  rw [elsewhere_address, bcdImage_plainZero] at hheld
  rw [elsewhere_address, bcdImage_plainZero] at hiff
  have hdiffers : plainZero.bytes ≠ negativeZero.bytes := by decide
  exact ⟨bcdContext_holds _, _, stored, bcdContext_load _, hok, hheld,
    fun h => hdiffers (hiff.mp h)⟩

end Seven
