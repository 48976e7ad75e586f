import Seven.Cpu.Context

/-!
# Read-modify-write instructions

The ALU instructions with a memory destination: read the operand, compute
the result and the new flags, store. The handlers do it in one of two
orders. Almost all of them set the flags and then write the result back
(`flagsThenWrite`); `CMPXCHG` and the bit operations write first. What is
computed is a pure function of the flags and the operands, one for each
function of the source; the order is in the handler around it.
-/

namespace Seven

/-! ## The two orders -/

/-- Set the flags, then store the result in operand 0. -/
def flagsThenWrite (width : Nat) (out : U64 × U64) : Handler := do
  modifyState fun s => setFlags s out.2
  writeOperandChecked 0 out.1 width

/-- Read operand 0, then compute the result and the flags from the state. -/
def rmwOperand (width : Nat) (compute : ExecutionContext → U64 → U64 × U64) : Handler := do
  let lhs ← readOperandChecked 0 width
  let ctx ← get
  flagsThenWrite width (compute ctx lhs)

/-! ## Two-operand forms -/

/-- The operands' bytes. -/
def AluForm.width : AluForm → Nat
  | .rm8R8 | .rm8Imm8 | .rm8Imm8_82 => 1
  | .rm16R16 | .rm16Imm16 | .rm16Imm8 => 2
  | .rm32R32 | .rm32Imm32 | .rm32Imm8 => 4
  | .rm64R64 | .rm64Imm32 | .rm64Imm8 => 8

/-- The right-hand side: operand 1 of an `R` form, else the immediate with
the extension the form asks for. -/
def aluSource (form : AluForm) : HandlerM U64 := do
  let instr := (← get).instr
  match form with
  | .rm8R8 | .rm16R16 | .rm32R32 | .rm64R64 => readOperandChecked 1 form.width
  | .rm8Imm8 => return instr.immediate8
  | .rm8Imm8_82 | .rm16Imm8 | .rm32Imm8 | .rm64Imm8 => return signExtend instr.immediate8 1
  | .rm16Imm16 => return instr.immediate16
  | .rm32Imm32 => return instr.immediate32
  | .rm64Imm32 => return signExtend instr.immediate32 4

/-- Result and flags of the seven operations. -/
def aluCompute (op : AluOp) (width : Nat) (rflags lhs rhs : U64) : U64 × U64 :=
  let carryIn := flagSet rflags kFlagCF
  let carry := if carryIn then 1#64 else 0#64
  match op with
  | .add => (lhs + rhs, setAddFlags rflags lhs rhs (lhs + rhs) width false)
  | .adc => (lhs + rhs + carry, setAddFlags rflags lhs rhs (lhs + rhs + carry) width carryIn)
  | .sub => (lhs - rhs, setSubFlags rflags lhs rhs (lhs - rhs) width false)
  | .sbb => (lhs - rhs - carry, setSubFlags rflags lhs rhs (lhs - rhs - carry) width carryIn)
  | .and => (lhs &&& rhs, setLogicFlags rflags (lhs &&& rhs) width)
  | .or => (lhs ||| rhs, setLogicFlags rflags (lhs ||| rhs) width)
  | .xor => (lhs ^^^ rhs, setLogicFlags rflags (lhs ^^^ rhs) width)

/-- `handle_code_ADD_RM8_R8` and the others: one body for seven operations. -/
def handleAlu (op : AluOp) (form : AluForm) : Handler := do
  let lhs ← readOperandChecked 0 form.width
  let rhs ← aluSource form
  let ctx ← get
  flagsThenWrite form.width (aluCompute op form.width ctx.state.rflags lhs rhs)

/-! ## One-operand forms -/

/-- `INC` and `DEC` keep CF; `NOT` keeps all flags. -/
def unaryCompute (op : UnaryOp) (width : Nat) (rflags lhs : U64) : U64 × U64 :=
  let oldCf := flagSet rflags kFlagCF
  match op with
  | .inc => (lhs + 1#64, setFlag (setAddFlags rflags lhs 1#64 (lhs + 1#64) width false) kFlagCF oldCf)
  | .dec => (lhs - 1#64, setFlag (setSubFlags rflags lhs 1#64 (lhs - 1#64) width false) kFlagCF oldCf)
  | .neg => (truncate (-lhs) width, setSubFlags rflags 0#64 lhs (truncate (-lhs) width) width false)
  | .not => (~~~lhs, rflags)

/-- `INC`, `DEC`, `NEG`, `NOT`. -/
def handleUnary (op : UnaryOp) (width : RmWidth) : Handler :=
  rmwOperand width.bytes fun ctx lhs => unaryCompute op width.bytes ctx.state.rflags lhs

/-! ## Shifts and rotates -/

/-- `ShiftKind`. -/
inductive ShiftKind where
  | left
  | logicalRight
  | arithmeticRight
deriving DecidableEq, Repr

/-- `shift_count_mask`. -/
def shiftCountMask (width : Nat) : U64 := if width = 8 then 63#64 else 31#64

/-- The count of a shift or rotate before any masking. -/
def rawShiftCount (source : ShiftCountSource) (ctx : ExecutionContext) : U64 :=
  match source with
  | .one => 1#64
  | .cl => readRegister ctx.state .cl
  | .imm8 => ctx.instr.immediate8

/-- `read_shift_count`. -/
def readShiftCount (source : ShiftCountSource) (ctx : ExecutionContext) (width : Nat) : Nat :=
  match source with
  | .one => 1
  | source => (rawShiftCount source ctx &&& shiftCountMask width).toNat

/-- Result and last bit shifted out. -/
def shiftResult (kind : ShiftKind) (original : U64) (count width : Nat) : U64 × Bool :=
  let bits := width * 8
  let mask := maskForWidth width
  let oldMsb := flagSet original (signBitForWidth width)
  match kind with
  | .left =>
    if count < bits then
      ((original <<< count) &&& mask, flagSet (original >>> (bits - count)) 1#64)
    else if count = bits then (0#64, flagSet original 1#64)
    else (0#64, false)
  | .logicalRight =>
    if count < bits then (original >>> count, flagSet (original >>> (count - 1)) 1#64)
    else if count = bits then (0#64, oldMsb)
    else (0#64, false)
  | .arithmeticRight =>
    if count < bits then
      ((signExtend original width).sshiftRight count &&& mask,
        flagSet (original >>> (count - 1)) 1#64)
    else (if oldMsb then mask else 0#64, oldMsb)

/-- The value and the flags of a shift; a count of zero leaves both. -/
def shiftCompute (kind : ShiftKind) (width count : Nat) (rflags value : U64) : U64 × U64 :=
  let mask := maskForWidth width
  let sign := signBitForWidth width
  let original := value &&& mask
  if count = 0 then (original, rflags)
  else
    let oldMsb := flagSet original sign
    let oldNextMsb := flagSet original (sign >>> 1)
    let (result, cf) := shiftResult kind original count width
    let r := setFlag rflags kFlagCF cf
    let r := setFlag r kFlagAF false
    let r := setResultFlags r result width
    let overflow := match kind with
      | .left => oldMsb ^^ oldNextMsb
      | .logicalRight => oldMsb
      | .arithmeticRight => false
    (result, setFlag r kFlagOF overflow)

/-- `shift_rm`. -/
def shiftRm (width : Nat) (kind : ShiftKind) (source : ShiftCountSource) : Handler :=
  rmwOperand width fun ctx value =>
    shiftCompute kind width (readShiftCount source ctx width) ctx.state.rflags value

/-- The masked count of a rotate or double shift. -/
def maskedCount (width : Nat) (count : U64) : Nat :=
  (count &&& (if width * 8 = 64 then 0x3F#64 else 0x1F#64)).toNat

/-- `rotate_left` and `rotate_right`; OF is written for a count of one, a
count in `CL` and a memory destination. -/
def rotateCompute (left : Bool) (width masked : Nat) (writesOf : Bool) (rflags value : U64) :
    U64 × U64 :=
  let bits := width * 8
  let mask := maskForWidth width
  let msb := signBitForWidth width
  if masked = 0 then (value &&& mask, rflags)
  else
    let shift := masked % bits
    let result :=
      if shift = 0 then value &&& mask
      else if left then ((value <<< shift) ||| (value >>> (bits - shift))) &&& mask
      else ((value >>> shift) ||| (value <<< (bits - shift))) &&& mask
    let cf := if left then flagSet result 1#64 else flagSet result msb
    let overflow :=
      if left then flagSet value msb ^^ flagSet value (msb >>> 1)
      else flagSet value 1#64 ^^ flagSet value msb
    let r := setFlag rflags kFlagCF cf
    (result, if writesOf then setFlag r kFlagOF overflow else r)

/-- `rotate_rm`: the carry is the bit that went round. -/
def rotate (left : Bool) (width : Nat) (source : ShiftCountSource) : Handler :=
  rmwOperand width fun ctx value =>
    let masked := maskedCount width (rawShiftCount source ctx)
    let writesOf := masked == 1 || source == .cl || ctx.instr.opKind 0 != .register
    rotateCompute left width masked writesOf ctx.state.rflags value

/-- One step of a rotate through carry. -/
def rotateCarryStep (left : Bool) (width : Nat) (p : U64 × Bool) : U64 × Bool :=
  let mask := maskForWidth width
  let msb := signBitForWidth width
  if left then (((p.1 <<< 1) &&& mask) ||| (if p.2 then 1#64 else 0#64), flagSet p.1 msb)
  else (((p.1 >>> 1) ||| (if p.2 then msb else 0#64)) &&& mask, flagSet p.1 1#64)

/-- `rotate_carry_left` and `rotate_carry_right`. -/
def rotateCarryCompute (left : Bool) (width raw : Nat) (rflags value : U64) : U64 × U64 :=
  let mask := maskForWidth width
  let msb := signBitForWidth width
  let original := value &&& mask
  let shift := raw % (width * 8 + 1)
  if shift = 0 then (original, rflags)
  else
    let oldCf := flagSet rflags kFlagCF
    let (result, cf) := (rotateCarryStep left width)^[shift] (original, oldCf)
    let overflow :=
      if left then flagSet original msb ^^ flagSet original (msb >>> 1)
      else flagSet original msb ^^ oldCf
    (result, setFlag (setFlag rflags kFlagCF cf) kFlagOF overflow)

/-- `rotate_carry_rm`: the carry is one more bit of the ring. -/
def rotateCarry (left : Bool) (width : Nat) (source : ShiftCountSource) : Handler :=
  rmwOperand width fun ctx value =>
    rotateCarryCompute left width (maskedCount width (rawShiftCount source ctx))
      ctx.state.rflags value

/-- What each shift and rotate name calls. -/
def handleShift (op : ShiftOp) (width : RmWidth) (source : ShiftCountSource) : Handler :=
  match op with
  | .shl | .sal => shiftRm width.bytes .left source
  | .shr => shiftRm width.bytes .logicalRight source
  | .sar => shiftRm width.bytes .arithmeticRight source
  | .rol => rotate true width.bytes source
  | .ror => rotate false width.bytes source
  | .rcl => rotateCarry true width.bytes source
  | .rcr => rotateCarry false width.bytes source

/-- `shld` and `shrd`. -/
def doubleShiftCompute (op : DoubleShiftOp) (width raw : Nat) (rflags dst src : U64) : U64 × U64 :=
  let bits := width * 8
  let mask := maskForWidth width
  let msb := signBitForWidth width
  -- The code takes the count modulo the operand's bits.
  let shift := raw % bits
  if shift = 0 then (dst &&& mask, rflags)
  else
    let src := src &&& mask
    let (result, cf) := match op with
      | .shld =>
        (((dst <<< shift) ||| (src >>> (bits - shift))) &&& mask,
          flagSet (dst >>> (bits - shift)) 1#64)
      | .shrd =>
        (((dst >>> shift) ||| (src <<< (bits - shift))) &&& mask,
          flagSet (dst >>> (shift - 1)) 1#64)
    -- OF is left clear for every count but one.
    let overflow := shift == 1 && match op with
      | .shld => flagSet result msb ^^ cf
      | .shrd => flagSet dst msb ^^ flagSet result msb
    let r := setFlag rflags kFlagCF cf
    let r := setFlag r kFlagAF false
    let r := setFlag r kFlagOF overflow
    (result, setResultFlags r result width)

/-- `SHLD` and `SHRD` take their count like the shifts. -/
def doubleShiftSource : DoubleShiftCount → ShiftCountSource
  | .cl => .cl
  | .imm8 => .imm8

/-- `handle_code_SHLD` and `handle_code_SHRD`. -/
def handleDoubleShift (op : DoubleShiftOp) (width : RmWideWidth) (source : DoubleShiftCount) :
    Handler :=
  rmwOperand width.bytes fun ctx dst =>
    doubleShiftCompute op width.bytes
      (maskedCount width.bytes (rawShiftCount (doubleShiftSource source) ctx))
      ctx.state.rflags dst (readRegister ctx.state (ctx.instr.opRegister 1))

/-! ## Exchanges -/

/-- `XADD`: the sum to the destination, the old value to the source. -/
def handleXadd (width : RmWidth) : Handler := do
  let w := width.bytes
  let lhs ← readOperandChecked 0 w
  let ctx ← get
  let rhs := readRegister ctx.state (ctx.instr.opRegister 1)
  flagsThenWrite w (lhs + rhs, setAddFlags ctx.state.rflags lhs rhs (lhs + rhs) w false)
  writeOperandChecked 1 lhs w

/-- AL, AX, EAX or RAX. -/
def accumulator : RmWidth → Register
  | .rm8 => .al
  | .rm16 => .ax
  | .rm32 => .eax
  | .rm64 => .rax

/-- `set_cmpxchg_flags`. -/
def setCmpxchgFlags (rflags acc dst : U64) (width : Nat) (success : Bool) : U64 :=
  let mask := maskForWidth width
  let ua := acc &&& mask
  let ub := dst &&& mask
  let res := (ua - ub) &&& mask
  let sa := (signExtend ua width).msb
  let sb := (signExtend ub width).msb
  let sres := (signExtend res width).msb
  let r := setFlag rflags kFlagCF (ua < ub)
  let r := setFlag r kFlagZF success
  let r := setFlag r kFlagPF (evenParity res)
  let r := setFlag r kFlagAF (flagSet (ua ^^^ ub ^^^ res) 0x10#64)
  let r := setFlag r kFlagSF sres
  setFlag r kFlagOF ((!sa && sb && sres) || (sa && !sb && !sres))

/-- Store on success before the flags, load the accumulator otherwise. -/
def compareExchange (width : RmWidth) (flags : U64 → U64 → U64 → Bool → U64) : Handler := do
  let w := width.bytes
  let lhs ← readOperandChecked 0 w
  let ctx ← get
  let rhs := readRegister ctx.state (ctx.instr.opRegister 1)
  let acc := readRegister ctx.state (accumulator width)
  if lhs = acc then
    writeOperandChecked 0 rhs w
    modifyState fun s => setFlags s (flags s.rflags acc lhs true)
  else
    modifyState fun s =>
      let s := writeRegister s (accumulator width) lhs w
      setFlags s (flags s.rflags acc lhs false)

/-- `CMPXCHG`. -/
def handleCmpxchg (width : RmWidth) : Handler :=
  compareExchange width fun rflags acc lhs success =>
    setCmpxchgFlags rflags acc lhs width.bytes success

/-- The 486 forms have no 64-bit operand. -/
def narrowRm : RmNarrowWidth → RmWidth
  | .rm8 => .rm8
  | .rm16 => .rm16
  | .rm32 => .rm32

/-- `CMPXCHG486` touches ZF only. -/
def handleCmpxchg486 (width : RmNarrowWidth) : Handler :=
  compareExchange (narrowRm width) fun rflags _ _ success => setFlag rflags kFlagZF success

/-! ## Bit operations -/

/-- `read_bit_index`. -/
def readBitIndex (value : U64) (width : Nat) : U64 := value &&& BitVec.ofNat 64 (8 * width - 1)

/-- The bit index: an immediate is reduced to the operand, a register is
sign-extended and reaches outside it. -/
def bitIndex (source : BitIndexSource) (width : Nat) (ctx : ExecutionContext) : U64 :=
  match source with
  | .imm8 => readBitIndex ctx.instr.immediate8 width
  | .reg =>
    let value := readRegister ctx.state (ctx.instr.opRegister 1)
    if width = 8 then value else signExtend value width

/-- `countr_zero` of the operand's bit count. -/
def bitSpanShift (width : Nat) : Nat := if width = 2 then 4 else if width = 4 then 5 else 6

/-- The address of the element a bit index falls in. -/
def bitAddress (ctx : ExecutionContext) (width : Nat) (index : U64) : U64 :=
  memoryAddress ctx.state ctx.instr + index.sshiftRight (bitSpanShift width) * BitVec.ofNat 64 width

/-- The bit set, reset or complemented. -/
def bitCompute (op : BitOp) (value : U64) (bit : Nat) : U64 :=
  match op with
  | .bts => value ||| (1#64 <<< bit)
  | .btr => value &&& ~~~(1#64 <<< bit)
  | .btc => value ^^^ (1#64 <<< bit)

/-- `BTS`, `BTR`, `BTC`: CF is the bit before. -/
def handleBit (op : BitOp) (width : RmWideWidth) (source : BitIndexSource) : Handler := do
  let w := width.bytes
  let ctx ← get
  let index := bitIndex source w ctx
  let bit := (index &&& BitVec.ofNat 64 (8 * w - 1)).toNat
  if ctx.instr.opKind 0 = .memory then
    let address := bitAddress ctx w index
    let value ← readMemoryChecked address w
    writeMemoryChecked address (bitCompute op value bit) w
    modifyState fun s => setFlags s (setFlag s.rflags kFlagCF (flagSet (value >>> bit) 1#64))
  else
    let value ← readOperandChecked 0 w
    writeOperandChecked 0 (bitCompute op value bit) w
    modifyState fun s => setFlags s (setFlag s.rflags kFlagCF (flagSet (value >>> bit) 1#64))

/-! ## The table -/

/-- The handler of a read-modify-write code. -/
def RmwCode.handler : RmwCode → Handler
  | .alu op form => handleAlu op form
  | .unary op width => handleUnary op width
  | .shift op width source => handleShift op width source
  | .doubleShift op width source => handleDoubleShift op width source
  | .xadd width => handleXadd width
  | .cmpxchg width => handleCmpxchg width
  | .cmpxchg486 width => handleCmpxchg486 width
  | .bit op width source => handleBit op width source

end Seven
