import Seven.Cpu.X87
import Seven.Cpu.Checked

/-!
# The x87 and MMX instructions

The helpers that the x87 handlers are written with, then the handlers, each
as a row of `X87Code.handler`. Exceptions go through `x87Exception`, which
sets flags in the status word and stops the instruction when one of them is
not masked. A masked stack fault is reported and the instruction goes on, or
ends, without an error.

What these handlers use of other packages is a parameter (`X87Host`): the
arithmetic of `SoftFloat`, the conversion of doubles to integers and the
decoder's numbering of the registers.
-/

namespace Seven

/-- What the x87 handlers take from elsewhere: the SoftFloat library, the conversions to integers
and the numbering of the decoder's registers. -/
structure X87Host where
  soft : SoftFloat
  /-- `convert_fp_to_int_bits` to 32 bits: MXCSR, the double, truncation; the
  bits and the exceptions. -/
  convertFpToInt32 : BitVec 32 → BitVec 64 → Bool → BitVec 64 × BitVec 32
  /-- A signed integer as a double. -/
  i32ToF64 : BitVec 32 → BitVec 64
  /-- The enumerators of the registers. -/
  number : Register → BitVec 32
  st0 : BitVec 32
  mm0 : BitVec 32
  xmm0 : BitVec 32
  ymm0 : BitVec 32
  zmm0 : BitVec 32

/-! ## Exceptions -/

/-- Invalid operation. -/
def kX87ExceptionInvalid : BitVec 16 := 0x0001#16
/-- Denormal operand. -/
def kX87ExceptionDenormal : BitVec 16 := 0x0002#16
/-- Division by zero. -/
def kX87ExceptionZeroDiv : BitVec 16 := 0x0004#16
/-- Overflow. -/
def kX87ExceptionOverflow : BitVec 16 := 0x0008#16
/-- Underflow. -/
def kX87ExceptionUnderflow : BitVec 16 := 0x0010#16
/-- Inexact. -/
def kX87ExceptionPrecision : BitVec 16 := 0x0020#16
/-- Stack fault. -/
def kX87ExceptionStackFault : BitVec 16 := 0x0040#16
/-- The six that can be masked. -/
def kX87ExceptionMask : BitVec 16 := 0x003F#16

/-- `x87_exceptions_masked`. -/
def x87ExceptionsMasked (s : CpuState) (exceptions : BitVec 16) : Bool :=
  exceptions &&& ~~~s.x87ControlWord &&& kX87ExceptionMask == 0#16

/-- The status word with the exceptions in it, and the summary bit when one
is not masked. -/
def x87ExceptionStatus (s : CpuState) (exceptions : BitVec 16) : BitVec 16 :=
  let sw := s.x87StatusWord ||| (exceptions &&& kX87ExceptionMask)
  let sw := sw ||| (exceptions &&& kX87ExceptionStackFault)
  if x87ExceptionsMasked s exceptions then sw else sw ||| 0x0080#16

/-- `x87_exception`: the bits stick, and an unmasked one is delivered. -/
def x87Exception (exceptions : BitVec 16) : Handler := do
  let masked := x87ExceptionsMasked (← get).state exceptions
  modifyState fun s => s.setX87StatusWord (x87ExceptionStatus s exceptions)
  if masked then pure () else faultHere .floatingPointException (exceptions.setWidth 32)

/-- `if (exceptions != 0) …`. -/
def x87ExceptionIfAny (exceptions : BitVec 16) : Handler :=
  if exceptions ≠ 0#16 then x87Exception exceptions else pure ()

/-- `x87_stack_underflow`. -/
def x87StackUnderflow : Handler := do
  modifyState fun s => s.setX87StatusWord (s.x87StatusWord &&& ~~~0x0200#16)
  x87Exception (kX87ExceptionInvalid ||| kX87ExceptionStackFault)

/-- `x87_stack_overflow`. -/
def x87StackOverflow : Handler := do
  modifyState fun s => s.setX87StatusWord (s.x87StatusWord ||| 0x0200#16)
  x87Exception (kX87ExceptionInvalid ||| kX87ExceptionStackFault)

/-- `if (!x87_push(value)) return …`. -/
def pushOr (F : SoftFloat) (refuse : Handler) (value : Float80) : Handler := fun ctx =>
  let (pushed, s) := ctx.state.x87Push F value
  if pushed then .ok () { ctx with state := s } else refuse { ctx with state := s }

/-- `if (!x87_pop()) return x87_stack_underflow(ctx)`. -/
def popOrUnderflow : Handler := fun ctx =>
  let (popped, s) := ctx.state.x87Pop
  if popped then .ok () { ctx with state := s } else x87StackUnderflow { ctx with state := s }

/-- A pop, where the instruction pops. -/
def popIf (pop : Bool) : Handler := if pop then popOrUnderflow else pure ()

/-! ## Operands -/

/-- `memory_fault(ctx, memory_address(ctx))`. -/
def operandFault {α : Type} : HandlerM α := do
  let ctx ← get
  memoryFault (memoryAddress ctx.state ctx.instr)

/-- The memory operand. -/
def readOperandMemory (width : Nat) : HandlerM U64 := do
  let ctx ← get
  readMemoryChecked (memoryAddress ctx.state ctx.instr) width

/-- `x87_st_index`. -/
def X87Host.stIndex (H : X87Host) (reg : Register) : Nat := (H.number reg - H.st0).toNat

/-- Between `ST0` and `ST7`. -/
def X87Host.isSt (H : X87Host) (reg : Register) : Bool :=
  !(decide (H.number reg < H.st0) || decide (H.st0 + 7#32 < H.number reg))

/-- The number of an `MM` register. -/
def X87Host.mmIndex (H : X87Host) (reg : Register) : Nat := (H.number reg - H.mm0).toNat

/-- `vector_index`. -/
def X87Host.vectorIndex (H : X87Host) (reg : Register) : Fin 32 :=
  let value := H.number reg
  let inFile (base : BitVec 32) := decide (base ≤ value) && decide (value < base + 32#32)
  if inFile H.xmm0 then Fin.ofNat 32 (value - H.xmm0).toNat
  else if inFile H.ymm0 then Fin.ofNat 32 (value - H.ymm0).toNat
  else if inFile H.zmm0 then Fin.ofNat 32 (value - H.zmm0).toNat
  else 0

/-- `vectors[i]`. -/
def vectorSlot (i : Nat) : Fin 32 := Fin.ofNat 32 i

/-- A slot is its number. -/
theorem vectorSlot_val {i : Nat} (hi : i < 32) : (vectorSlot i).val = i := by
  unfold vectorSlot
  rw [Fin.val_ofNat]
  exact Nat.mod_eq_of_lt hi

section

variable (F : SoftFloat)

/-- A `float` or a `double` of memory. -/
def readReal (width : Nat) : HandlerM Float80 := do
  if width = 4 then return F.ofFloat ((← readOperandMemory 4).setWidth 32)
  else if width = 8 then return F.ofDouble (← readOperandMemory 8)
  else operandFault

/-- An integer of memory. -/
def readInteger (width : Nat) : HandlerM Float80 := do
  if width = 2 then return F.ofInt (((← readOperandMemory 2).setWidth 16).signExtend 32)
  else if width = 4 then return F.ofInt ((← readOperandMemory 4).setWidth 32)
  else if width = 8 then return F.i64ToExtF80 (← readOperandMemory 8)
  else operandFault

/-- The ten bytes at the address. -/
def readExt80 : HandlerM Float80 := fun ctx =>
  let address := memoryAddress ctx.state ctx.instr
  match ctx.memory.read address 10 .dataRead with
  | some raw => .ok (Float80.decodeExt80 raw) ctx
  | none => memoryFault address ctx

/-- The bytes, one store each, up to the first that is refused. -/
def storeBytesChecked (base : U64) : Nat → List Byte → Handler
  | _, [] => pure ()
  | i, b :: bs => do
    writeMemoryChecked (base + BitVec.ofNat 64 i) (b.setWidth 64) 1
    storeBytesChecked base (i + 1) bs

/-! ## Arithmetic -/

/-- `x87_classify_result`: what the result itself shows. -/
def x87ClassifyResult (result lhs rhs : Float80) : BitVec 16 :=
  let subnormal (x : Float80) : Bool := !F.isZero x && F.extF80Lt x.abs Float80.minNormal
  (if result.isnan then kX87ExceptionInvalid else 0#16) |||
    (if result.isinf then kX87ExceptionOverflow else 0#16) |||
    (if subnormal result then kX87ExceptionUnderflow else 0#16) |||
    (if subnormal lhs || subnormal rhs || subnormal result then kX87ExceptionDenormal else 0#16)

/-- `x87_precision_from_binary`: the operations that undo the rounding. -/
def x87PrecisionFromBinary (lhs rhs result : Float80) : BitVec 16 :=
  let eq := F.extF80Eq
  if result.isnan || result.isinf then 0#16
  else
    let addExact := eq (F.extF80Sub result lhs) rhs || eq (F.extF80Sub result rhs) lhs
    let subExact := eq (F.extF80Sub lhs result) rhs || eq (F.extF80Add result rhs) lhs
    let mulExact := (F.isZero lhs || F.isZero rhs) || eq (F.extF80Div result lhs) rhs ||
      eq (F.extF80Div result rhs) lhs
    let divExact := (!F.isZero rhs && eq (F.extF80Mul result rhs) lhs) ||
      (!F.isZero lhs && eq (F.extF80Mul result lhs) rhs)
    if addExact || subExact || mulExact || divExact then 0#16
    else if F.isZero result && !F.isZero lhs && !F.isZero rhs then
      kX87ExceptionUnderflow ||| kX87ExceptionPrecision
    else kX87ExceptionPrecision

/-- `x87_div_pair`. -/
def x87DivPair (lhs rhs : Float80) (reverse : Bool) : Float80 × BitVec 16 :=
  let dividend := if reverse then rhs else lhs
  let divisor := if reverse then lhs else rhs
  if F.isZero divisor then
    if F.isZero dividend then (Float80.quietNaN, kX87ExceptionInvalid)
    else
      let negative := dividend.signbit ^^ divisor.signbit
      (if negative then Float80.infinity.neg else Float80.infinity, kX87ExceptionZeroDiv)
  else
    let value := if reverse then F.extF80Div rhs lhs else F.extF80Div lhs rhs
    let exceptions :=
      if F.isZero value && !F.isZero dividend then kX87ExceptionUnderflow ||| kX87ExceptionPrecision
      else 0#16
    let exceptions :=
      if !F.extF80Eq (F.extF80Mul value divisor) dividend then exceptions ||| kX87ExceptionPrecision
      else exceptions
    (value, exceptions)

/-- A binary operation and the exceptions it finds itself. -/
abbrev X87Binary := Float80 → Float80 → Float80 × BitVec 16

/-- The arithmetic of two operands. -/
inductive X87Op where
  | fadd | fmul | fsub | fsubr | fdiv | fdivr
deriving DecidableEq

/-- The result and its exceptions. -/
def X87Op.compute : X87Op → X87Binary
  | .fadd, a, b => (F.extF80Add a b, 0#16)
  | .fmul, a, b => (F.extF80Mul a b, 0#16)
  | .fsub, a, b => (F.extF80Sub a b, 0#16)
  | .fsubr, a, b => (F.extF80Sub b a, 0#16)
  | .fdiv, a, b => x87DivPair F a b false
  | .fdivr, a, b => x87DivPair F a b true

/-- What the binary templates do with their operands. -/
def x87BinaryAt (stIndex : Nat) (lhs rhs : Float80) (fn : X87Binary) : Handler := do
  let (value, exceptions) := fn lhs rhs
  let classified := x87ClassifyResult F value lhs rhs ||| x87PrecisionFromBinary F lhs rhs value
  x87ExceptionIfAny (exceptions ||| classified)
  modifyState fun s => s.x87Set F stIndex value

/-- The template for an operand in memory. -/
def x87BinarySt0 (rhs : HandlerM Float80) (fn : X87Binary) : Handler := do
  let rhs ← rhs
  let s := (← get).state
  if s.x87IsEmpty 0 then x87StackUnderflow else x87BinaryAt F 0 (s.x87Get 0) rhs fn

/-- `x87_binary_mem_st0`. -/
def x87BinaryMemSt0 (width : Nat) (fn : X87Binary) : Handler := x87BinarySt0 F (readReal F width) fn

/-- `x87_binary_mem_int_st0`. -/
def x87BinaryMemIntSt0 (width : Nat) (fn : X87Binary) : Handler :=
  x87BinarySt0 F (readInteger F width) fn

/-- `x87_unary_st0`. -/
def x87UnarySt0 (fn : Float80 → Float80) : Handler := do
  let s := (← get).state
  if s.x87IsEmpty 0 then x87StackUnderflow
  else
    let input := s.x87Get 0
    let value := fn input
    x87ExceptionIfAny (x87ClassifyResult F value input F.zero)
    modifyState fun s => s.x87Set F 0 value

/-- The exceptions of a function whose result is zero where its argument is
not, and of the result. -/
def x87FunctionExceptions (argument : Float80) (results : List Float80) (lhs rhs : Float80) :
    Handler := do
  if !F.isZero argument && results.any F.isZero then
    x87Exception (kX87ExceptionUnderflow ||| kX87ExceptionPrecision)
  x87ExceptionIfAny (results.foldl (fun e r => e ||| x87ClassifyResult F r lhs rhs) 0#16)

/-- `FSIN`, `FCOS`. -/
def x87FunctionSt0 (fn : Float80 → Float80) : Handler := do
  let s := (← get).state
  if s.x87IsEmpty 0 then x87StackUnderflow
  else
    let value := s.x87Get 0
    let result := fn value
    x87FunctionExceptions F value [result] value F.zero
    modifyState fun s => s.x87Set F 0 result

/-- `FSQRT`. -/
def handleFsqrt : Handler := do
  let s := (← get).state
  if s.x87IsEmpty 0 then x87StackUnderflow
  else
    let value := s.x87Get 0
    if F.extF80Lt value F.zero then x87Exception kX87ExceptionInvalid
    else
      let result := F.extF80Sqrt value
      x87FunctionExceptions F value [result] value F.zero
      if !F.extF80Eq value result then x87Exception kX87ExceptionPrecision
      modifyState fun s => s.x87Set F 0 result

/-- `FSINCOS`. -/
def handleFsincos : Handler := do
  let s := (← get).state
  if s.x87IsEmpty 0 then x87StackUnderflow
  else
    let x := s.x87Get 0
    let cosine := F.viaDouble F.cos x
    let sine := F.viaDouble F.sin x
    x87FunctionExceptions F x [cosine, sine] x F.zero
    modifyState fun s => s.x87Set F 0 cosine
    pushOr F x87StackOverflow sine

/-- `FPTAN`. -/
def handleFptan : Handler := do
  let s := (← get).state
  if s.x87IsEmpty 0 then x87StackUnderflow
  else
    let value := s.x87Get 0
    let result := F.viaDouble F.tan value
    x87FunctionExceptions F value [result] value F.zero
    modifyState fun s => s.x87Set F 0 result
    pushOr F x87StackOverflow (F.ofInt 1#32)

/-- `FPATAN`. -/
def handleFpatan : Handler := do
  let s := (← get).state
  if s.x87IsEmpty 0 || s.x87IsEmpty 1 then x87StackUnderflow
  else
    modifyState fun s => s.x87Set F 1 (F.atan2OfDoubles (s.x87Get 1) (s.x87Get 0))
    popOrUnderflow

/-- `F2XM1`. -/
def handleF2xm1 : Handler := do
  let s := (← get).state
  if s.x87IsEmpty 0 then x87StackUnderflow
  else
    let value := s.x87Get 0
    if F.extF80Lt value (F.ofInt (-1#32)) || F.extF80Lt (F.ofInt 1#32) value then
      x87Exception kX87ExceptionInvalid
    else
      let result := F.extF80Sub (F.powOfDoubles (F.ofInt 2#32) value) (F.ofInt 1#32)
      x87FunctionExceptions F value [result] value F.zero
      modifyState fun s => s.x87Set F 0 result

/-- `FYL2X` and `FYL2XP1`, which takes the logarithm of `x + 1`. -/
def x87Yl2x (lowest : BitVec 32) (argument : Float80 → Float80) : Handler := do
  let s := (← get).state
  if s.x87IsEmpty 0 || s.x87IsEmpty 1 then x87StackUnderflow
  else
    let y := s.x87Get 1
    let x := s.x87Get 0
    if F.extF80Le x (F.ofInt lowest) then x87Exception kX87ExceptionInvalid
    else
      let result := F.extF80Mul y (F.viaDouble F.log2 (argument x))
      x87FunctionExceptions F y [result] y (argument x)
      modifyState fun s => s.x87Set F 1 result
      popOrUnderflow

/-- `FYL2X`. -/
def handleFyl2x : Handler := x87Yl2x F 0#32 id

/-- `FYL2XP1`. -/
def handleFyl2xp1 : Handler := x87Yl2x F (-1#32) fun x => F.extF80Add x (F.ofInt 1#32)

/-- `FSCALE`. -/
def handleFscale : Handler := do
  let s := (← get).state
  if s.x87IsEmpty 0 || s.x87IsEmpty 1 then x87StackUnderflow
  else
    let a := s.x87Get 0
    let b := s.x87Get 1
    let result := F.ldexp80 a ((F.extF80ToI64 (F.trunc b)).setWidth 32)
    x87FunctionExceptions F a [result] a b
    modifyState fun s => s.x87Set F 0 result

/-- `x87_round_half_even`: by the fraction behind the floor. -/
def x87RoundHalfEven (value : Float80) : Float80 :=
  let flo := F.floor value
  let frac := F.extF80Sub value flo
  let half := F.ofDouble 0x3FE0000000000000#64
  let up := F.extF80Add flo (F.ofInt 1#32)
  if F.extF80Lt frac half then flo
  else if F.extF80Lt half frac then up
  else if F.isZero (F.fmod flo.abs (F.ofInt 2#32)) then flo else up

/-- `x87_round_to_control`. -/
def x87RoundToControl (s : CpuState) (value : Float80) : Float80 :=
  let mode := (s.x87ControlWord >>> 10) &&& 0x3#16
  if mode = 0#16 then x87RoundHalfEven F value
  else if mode = 1#16 then F.floor value
  else if mode = 2#16 then F.ceil value
  else F.trunc value

/-- `FRNDINT`. -/
def handleFrndint : Handler := do
  let s := (← get).state
  if s.x87IsEmpty 0 then x87StackUnderflow
  else
    let value := s.x87Get 0
    let rounded := x87RoundToControl F s value
    if !F.extF80Eq rounded value then x87Exception kX87ExceptionPrecision
    modifyState fun s => s.x87Set F 0 rounded

/-! ## Loads and stores -/

/-- `x87_push_from_memory`. -/
def x87PushFromMemory (width : Nat) : Handler := do
  let value ← if width = 10 then readExt80 else readReal F width
  pushOr F (x87Exception kX87ExceptionInvalid) value

/-- `FILD`. -/
def x87LoadInteger (width : Nat) : Handler := do
  let value ← readInteger F width
  pushOr F x87StackOverflow value

/-- `x87_store_mem`. -/
def x87StoreMem (width : Nat) (pop : Bool) : Handler := do
  let ctx ← get
  if ctx.state.x87IsEmpty 0 then x87StackUnderflow
  else
    let value := ctx.state.x87Get 0
    let address := memoryAddress ctx.state ctx.instr
    if width = 4 then writeMemoryChecked address ((F.toFloat value).setWidth 64) 4
    else if width = 8 then writeMemoryChecked address (F.extF80ToF64 value) 8
    else if width = 10 then storeBytesChecked address 0 ((Float80.encodeExt80 value).take 10)
    else operandFault
    popIf pop

/-- The range of the integers of a width. -/
def integerBounds (width : Nat) : Option (Float80 × Float80) :=
  if width = 2 then some (F.ofInt (-0x8000#32), F.ofInt 0x7FFF#32)
  else if width = 4 then some (F.ofInt 0x80000000#32, F.ofInt 0x7FFFFFFF#32)
  else if width = 8 then
    some (F.i64ToExtF80 0x8000000000000000#64, F.i64ToExtF80 0x7FFFFFFFFFFFFFFF#64)
  else none

/-- `x87_store_integer`. -/
def x87StoreInteger (width : Nat) (pop truncateOnly : Bool) : Handler := do
  let ctx ← get
  if ctx.state.x87IsEmpty 0 then x87StackUnderflow
  else
    let value := ctx.state.x87Get 0
    let rounded := if truncateOnly then F.trunc value else x87RoundToControl F ctx.state value
    let exceptions := if !F.extF80Eq rounded value then kX87ExceptionPrecision else 0#16
    match integerBounds F width with
    | none => operandFault
    | some (lower, upper) =>
      let refused := rounded.isnan || rounded.isinf || F.extF80Lt rounded lower ||
        F.extF80Lt upper rounded
      let exceptions := if refused then exceptions ||| kX87ExceptionInvalid else exceptions
      let stored := if refused then lower else rounded
      writeMemoryChecked (memoryAddress ctx.state ctx.instr) (F.extF80ToI64 stored) width
      x87ExceptionIfAny exceptions
      popIf pop

/-- The nine digit bytes from the `i`-th on. -/
def readBcdDigits (base : U64) : Nat → Nat → U64 → U64 → HandlerM U64
  | _, 0, magnitude, _ => pure magnitude
  | i, n + 1, magnitude, mul => do
    let b ← readMemoryChecked (base + BitVec.ofNat 64 i) 1
    let magnitude := magnitude + (b &&& 0x0F#64) * mul
    let mul := mul * 10#64
    let magnitude := magnitude + ((b >>> 4) &&& 0x0F#64) * mul
    readBcdDigits base (i + 1) n magnitude (mul * 10#64)

/-- `FBLD`. -/
def x87LoadBcd : Handler := do
  let ctx ← get
  let base := memoryAddress ctx.state ctx.instr
  let magnitude ← readBcdDigits base 0 9 0#64 1#64
  let sign ← readMemoryChecked (base + 9#64) 1
  let value := F.ui64ToExtF80 magnitude
  pushOr F x87StackOverflow (if sign &&& 0x80#64 ≠ 0#64 then value.neg else value)

/-- The packed digits of a number, `n` bytes of them. -/
def bcdDigits : Nat → U64 → List Byte
  | 0, _ => []
  | n + 1, v => (((v / 10#64 % 10#64) <<< 4) ||| (v % 10#64)).setWidth 8 ::
      bcdDigits n (v / 10#64 / 10#64)

/-- `FBSTP`. -/
def handleFbstp : Handler := do
  let ctx ← get
  if ctx.state.x87IsEmpty 0 then x87StackUnderflow
  else
    let value := ctx.state.x87Get 0
    let neg := F.extF80Lt value F.zero
    let value := if neg then value.neg else value
    let digits := bcdDigits 9 (F.extF80ToUi64 value)
    storeBytesChecked (memoryAddress ctx.state ctx.instr) 0
      (digits ++ [if neg then 0x80#8 else 0x00#8])
  popOrUnderflow

/-- `FSTP m80`. -/
def x87FstpM80fp : Handler := do
  let ctx ← get
  if ctx.state.x87IsEmpty 0 then x87StackUnderflow
  else
    storeBytesChecked (memoryAddress ctx.state ctx.instr) 0
      ((Float80.encodeExt80 (ctx.state.x87Get 0)).take 10)
    popOrUnderflow

/-! ## Comparisons -/

/-- `-2` is unordered; the exceptions come with it. -/
def x87Cmp (a b : Float80) (quiet : Bool) : Int × BitVec 16 :=
  if a.isnan || b.isnan then (-2, if quiet then 0#16 else kX87ExceptionInvalid)
  else if F.extF80Lt a b then (-1, 0#16)
  else if F.extF80Lt b a then (1, 0#16)
  else (0, 0#16)

/-- `x87_set_cmp_flags`: C0, C2, C3. -/
def x87SetCmpFlags (relation : Int) : Handler := modifyState fun s =>
  let sw := s.x87StatusWord &&& ~~~0x4700#16
  s.setX87StatusWord
    (if relation = -2 then sw ||| 0x4500#16
    else if relation < 0 then sw ||| 0x0100#16
    else if relation = 0 then sw ||| 0x4000#16
    else sw)

/-- `x87_set_eflags_cmp`: CF, PF, ZF. -/
def x87SetEflagsCmp (relation : Int) : Handler := modifyState fun s =>
  let s := s.setX87StatusWord (s.x87StatusWord &&& ~~~0x0200#16)
  let r := setFlag s.rflags kFlagCF (decide (relation = -2) || decide (relation < 0))
  let r := setFlag r kFlagPF (decide (relation = -2))
  setFlags s (setFlag r kFlagZF (decide (relation = -2) || decide (relation = 0)))

/-- The one or the other. -/
def x87SetRelation (eflags : Bool) (relation : Int) : Handler :=
  if eflags then x87SetEflagsCmp relation else x87SetCmpFlags relation

/-- What the comparisons share: a masked fault of an empty operand is
followed by the comparison itself. -/
def x87Compare (empty : Bool) (operands : CpuState → Float80 × Float80) (eflags quiet : Bool) :
    Handler := do
  let before := if empty then kX87ExceptionInvalid else 0#16
  if empty then
    x87SetRelation eflags (-2)
    x87Exception before
  let (lhs, rhs) := operands (← get).state
  let (relation, exceptions) := x87Cmp F lhs rhs quiet
  x87SetRelation eflags relation
  x87ExceptionIfAny (before ||| exceptions)

/-- `x87_compare_mem`. -/
def x87CompareMem (width : Nat) (pop eflags : Bool) (quiet : Bool := false) : Handler := do
  let rhs ← readReal F width
  let s := (← get).state
  x87Compare F (s.x87IsEmpty 0) (fun s => (s.x87Get 0, rhs)) eflags quiet
  popIf pop

end

section

variable (H : X87Host)

/-- `x87_compare_regs`. -/
def x87CompareRegs (lhsOp rhsOp : Nat) (popLhs popRhs eflags : Bool) (quiet : Bool := false) :
    Handler := do
  let ctx ← get
  if ctx.instr.opKind lhsOp ≠ .register ∨ ctx.instr.opKind rhsOp ≠ .register then operandFault
  else
    let lhs := H.stIndex (ctx.instr.opRegister lhsOp)
    let rhs := H.stIndex (ctx.instr.opRegister rhsOp)
    let empty := ctx.state.x87IsEmpty lhs || ctx.state.x87IsEmpty rhs
    x87Compare H.soft empty (fun s => (s.x87Get lhs, s.x87Get rhs)) eflags quiet
    popIf popRhs
    popIf popLhs

/-- `x87_compare_st0_sti`. -/
def x87CompareSt0Sti (srcOp : Nat) (eflags popSt0 : Bool) (quiet : Bool := false) : Handler := do
  let ctx ← get
  if ctx.instr.opKind srcOp ≠ .register then operandFault
  else
    let src := H.stIndex (ctx.instr.opRegister srcOp)
    let empty := ctx.state.x87IsEmpty 0 || ctx.state.x87IsEmpty src
    x87Compare H.soft empty (fun s => (s.x87Get 0, s.x87Get src)) eflags quiet
    popIf popSt0

/-- `FTST`. -/
def handleFtst : Handler := do
  let s := (← get).state
  if s.x87IsEmpty 0 then
    x87SetCmpFlags (-2)
    x87StackUnderflow
  else
    let (relation, exceptions) := x87Cmp H.soft (s.x87Get 0) H.soft.zero false
    x87SetCmpFlags relation
    x87ExceptionIfAny exceptions

/-- The class of a value, as C0, C2, C3. -/
def x87FxamClassBits (value : Float80) (empty : Bool) : BitVec 16 :=
  if empty then 0x4100#16
  else if value.isnan then 0x0100#16
  else if value.isinf then 0x0500#16
  else if H.soft.isZero value then 0x4000#16
  else if H.soft.extF80Lt value.abs Float80.minNormal then 0x4400#16
  else 0x0400#16

/-- `x87_set_fxam_flags`. -/
def x87SetFxamFlags (value : Float80) (empty : Bool) : Handler := modifyState fun s =>
  let sw := (s.x87StatusWord &&& ~~~0x4700#16) ||| x87FxamClassBits H value empty
  s.setX87StatusWord (if value.signbit then sw ||| 0x0200#16 else sw)

/-- `FXAM`. -/
def handleFxam : Handler := do
  let s := (← get).state
  if s.x87IsEmpty 0 then x87SetFxamFlags H H.soft.zero true
  else x87SetFxamFlags H (s.x87Get 0) false

/-! ## Register operands -/

/-- `x87_binary_st_regs`. -/
def x87BinaryStRegs (dstOp srcOp : Nat) (fn : X87Binary) : Handler := do
  let ctx ← get
  if ctx.instr.opKind dstOp ≠ .register ∨ ctx.instr.opKind srcOp ≠ .register then operandFault
  else
    let dst := ctx.instr.opRegister dstOp
    let src := ctx.instr.opRegister srcOp
    if !H.isSt dst || !H.isSt src then operandFault
    else
      let dst := H.stIndex dst
      let src := H.stIndex src
      let s := ctx.state
      if s.x87IsEmpty dst || s.x87IsEmpty src then x87StackUnderflow
      else x87BinaryAt H.soft dst (s.x87Get dst) (s.x87Get src) fn

/-- `x87_fxch`. -/
def x87Fxch : Handler := do
  let ctx ← get
  if ctx.instr.opKind 1 ≠ .register then operandFault
  else
    let reg := ctx.instr.opRegister 1
    if !H.isSt reg then operandFault
    else
      let i := H.stIndex reg
      if ctx.state.x87IsEmpty 0 || ctx.state.x87IsEmpty i then x87StackUnderflow
      else modifyState fun s => s.x87Swap i

/-- `x87_reg_move`. -/
def x87RegMove (dst src : Nat) (pop : Bool) : Handler := do
  let ctx ← get
  if ctx.instr.opKind dst ≠ .register ∨ ctx.instr.opKind src ≠ .register then operandFault
  else
    let dst := H.stIndex (ctx.instr.opRegister dst)
    let src := H.stIndex (ctx.instr.opRegister src)
    if ctx.state.x87IsEmpty src then x87StackUnderflow
    else
      modifyState fun s => s.x87Set H.soft dst (s.x87Get src)
      if pop then modifyState fun s => s.x87MarkEmpty src

/-- A conditional move. -/
def x87MoveIf (take : Bool) : Handler := do
  let ctx ← get
  if !take then pure ()
  else if ctx.instr.opKind 1 ≠ .register then operandFault
  else
    let src := ctx.instr.opRegister 1
    if !H.isSt src then operandFault
    else
      let src := H.stIndex src
      if ctx.state.x87IsEmpty 0 || ctx.state.x87IsEmpty src then x87StackUnderflow
      else modifyState fun s => s.x87Set H.soft 0 (s.x87Get src)

/-- `FST ST(i)` and `FSTP ST(i)`. -/
def x87StoreSt0ToSti (pop : Bool) : Handler := do
  let ctx ← get
  if ctx.instr.opKind 1 ≠ .register then operandFault
  else
    let i := H.stIndex (ctx.instr.opRegister 1)
    if ctx.state.x87IsEmpty 0 then x87StackUnderflow
    else
      modifyState fun s => s.x87Set H.soft i (s.x87Get 0)
      popIf pop

/-- `FFREE` and `FFREEP`. -/
def x87FreeSti (pop : Bool) : Handler := do
  let ctx ← get
  if ctx.instr.opKind 0 ≠ .register then operandFault
  else
    modifyState fun s => s.x87MarkEmpty (H.stIndex (ctx.instr.opRegister 0))
    popIf pop

/-- `FLD ST(i)`. -/
def handleFldSti : Handler := do
  let ctx ← get
  if ctx.instr.opKind 0 ≠ .register ∨ ctx.instr.opKind 1 ≠ .register then operandFault
  else
    pushOr H.soft operandFault (ctx.state.x87Get (H.stIndex (ctx.instr.opRegister 0)))

end

end Seven
