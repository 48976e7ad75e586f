import Seven.Handlers.X87Image

/-!
# The x87 and MMX codes

The environment and `FXSAVE` images, the MMX moves and conversions, and the
list of the instruction forms: `X87Code.handler` is what the dispatch table
has for each. Forms with the same handler are one constructor.
-/

namespace Seven

open Seven.Lib

/-! ## Environments -/

/-- `store_x87_env`: unchecked stores, whose results nobody looks at. -/
def storeX87Env (base : U64) : Handler := modify fun ctx =>
  let s := ctx.state
  { ctx with
    memory := ctx.memory.putAll base
      [(0, s.x87ControlWord.setWidth 64, 2), (2, s.x87StatusWord.setWidth 64, 2),
        (4, (x87Ftw s).setWidth 64, 2), (6, 0#64, 2), (8, 0#64, 8), (16, 0#64, 8), (24, 0#64, 2)] }

/-- The tags of `load_x87_env`, by stack index. -/
def loadTags (ftw : BitVec 16) (s : CpuState) : CpuState :=
  (List.range 8).foldl (fun s i =>
    s.setX87Tag (s.x87PhysIndex i) (if ftw.getLsbD i then 0x0#8 else kX87TagEmpty)) s

/-- `load_x87_env`. -/
def loadX87Env (base : U64) : Handler := do
  let fcw ← readMemoryChecked (base + 0#64) 2
  let fsw ← readMemoryChecked (base + 2#64) 2
  let ftw ← readMemoryChecked (base + 4#64) 2
  if fcw &&& 0xE0C0#64 ≠ 0#64 then memoryFault base
  else
    modifyState fun s =>
      let s := s.setX87ControlWord (fcw.setWidth 16)
      let s := s.setX87StatusWord (fsw.setWidth 16)
      loadTags (ftw.setWidth 16) s

/-- `FLDENV`. -/
def handleFldenv : Handler := do
  let ctx ← get
  loadX87Env (memoryAddress ctx.state ctx.instr)

/-- `FNSTENV`. -/
def handleFnstenv : Handler := do
  let ctx ← get
  storeX87Env (memoryAddress ctx.state ctx.instr)

/-- `FLDCW`: reserved bits fault. -/
def handleFldcw : Handler := do
  let value ← readOperandChecked 0 2
  if value &&& 0xE0C0#64 ≠ 0#64 then operandFault
  else modifyState fun s => s.setX87ControlWord (value.setWidth 16)

/-- `FNSTCW`. -/
def handleFnstcw : Handler := do
  let ctx ← get
  writeOperandChecked 0 (ctx.state.x87ControlWord.setWidth 64) 2

/-- `FNSTSW m16`. -/
def handleFnstswM2byte : Handler := do
  let ctx ← get
  writeOperandChecked 0 (ctx.state.x87StatusWord.setWidth 64) 2

/-- `FNSTSW AX`. -/
def handleFnstswAx : Handler :=
  modifyState fun s => writeRegister s .ax (s.x87StatusWord.setWidth 64) 2

/-! ## `FXSAVE` and `FXRSTOR` -/

/-- `validate_memory_span`, page by page; the span is at most as long as the
fuel. -/
def validateMemorySpan (allowed : Memory → U64 → Nat → Bool) (base : U64) (size : Nat) :
    Nat → Nat → Handler
  | 0, _ => pure ()
  | fuel + 1, offset => do
    if offset < size then
      let address := base + BitVec.ofNat 64 offset
      let chunk := min (size - offset) (kPageSize - address.toNat % kPageSize)
      let m := (← get).memory
      if !m.isMapped address chunk || !allowed m address chunk then memoryFault address
      else validateMemorySpan allowed base size fuel (offset + chunk)
    else pure ()

/-- Every byte of the span may be written. -/
def spanWritable (m : Memory) (address : U64) (size : Nat) : Bool :=
  m.hasPermissions address size MemoryPermission.write

/-- Every byte may be read. -/
def spanReadable (m : Memory) (address : U64) (size : Nat) : Bool :=
  m.hasPermissions address size MemoryPermission.read ||
    m.hasPermissions address size MemoryPermission.write ||
    m.hasPermissions address size MemoryPermission.execute

/-- Stores up to the first that is refused. -/
def storeWordsChecked (base : U64) : List (Nat × U64 × Nat) → Handler
  | [] => pure ()
  | (offset, value, width) :: rest => do
    writeMemoryChecked (base + BitVec.ofNat 64 offset) value width
    storeWordsChecked base rest

/-- The first `n` bytes of a vector register, one store each. -/
def vectorStores (offset n : Nat) (value : BitVec 512) : List (Nat × U64 × Nat) :=
  (List.range n).map fun b => (offset + b, (value >>> (8 * b)).setWidth 64 &&& 0xFF#64, 1)

/-- `fxsave_impl`. -/
def fxsave : Handler := do
  let ctx ← get
  let s := ctx.state
  let base := memoryAddress s ctx.instr
  if base &&& 0xF#64 ≠ 0#64 then memoryFault base
  else
    validateMemorySpan spanWritable base 0x200 0x200 0
    storeWordsChecked base
      (fpuStateStores s ++ [(24, s.mxcsr.setWidth 64, 4), (28, 0xFFFF#64, 4)])
    modify fun ctx => { ctx with
      memory := ctx.memory.putAll base
        ((List.finRange 8).flatMap fun phys => fxsaveStStores phys.val (s.x87Stack phys)) }
    storeWordsChecked base
      ((List.range 16).flatMap fun i =>
        vectorStores (160 + i * 16) 16 (s.vectors (vectorSlot i)))
    storeWordsChecked base ((List.range 96).map fun i => (416 + i, 0#64, 1))

/-- `n` bytes, one read each. -/
def readBytesChecked (address : U64) : Nat → HandlerM (List Byte)
  | 0 => pure []
  | n + 1 => do
    let b ← readMemoryChecked address 1
    let bytes ← readBytesChecked (address + 1#64) n
    pure (b.setWidth 8 :: bytes)

/-- A vector register replaced. -/
def setVector (s : CpuState) (i : Fin 32) (value : BitVec 512) : CpuState :=
  { s with vectors := fun j => if j = i then value else s.vectors j }

/-- The vector registers of an image from the `i`-th on. -/
def restoreVectors (base : U64) : Nat → Nat → Handler
  | _, 0 => pure ()
  | i, n + 1 => do
    let raw ← readBytesChecked (base + BitVec.ofNat 64 (160 + i * 16)) 16
    modifyState fun s => setVector s (vectorSlot i) (BitVec.ofNat 512 (ofLE raw))
    restoreVectors base (i + 1) n

section

variable (F : SoftFloat)

/-- The registers of an image, by physical index. -/
def restorePhysical (m : Memory) (base : U64) (ftw : BitVec 8) (s : CpuState) : CpuState :=
  (List.finRange 8).foldl (fun s phys =>
    if ftw.getLsbD phys.val then
      let value := readFxsaveSt m base phys.val
      s.setX87Register phys value (CpuState.x87TagOf F value)
    else s.setX87Tag phys kX87TagEmpty) s

/-- `fxrstor_impl`. -/
def fxrstor : Handler := do
  let ctx ← get
  let base := memoryAddress ctx.state ctx.instr
  if base &&& 0xF#64 ≠ 0#64 then memoryFault base
  else
    validateMemorySpan spanReadable base 0x200 0x200 0
    let fcw ← readMemoryChecked (base + 0#64) 2
    let fsw ← readMemoryChecked (base + 2#64) 2
    let ftw ← readMemoryChecked (base + 4#64) 1
    let mxcsr ← readMemoryChecked (base + 24#64) 4
    modifyState fun s =>
      let s := s.setX87ControlWord (fcw.setWidth 16 &&& ~~~0xE0C0#16)
      let s := s.setX87StatusWord (fsw.setWidth 16)
      let s := { s with mxcsr := mxcsr.setWidth 32 &&& 0xFFFF#32 }
      restorePhysical F ctx.memory base (ftw.setWidth 8) s
    restoreVectors base 0 16

end

/-! ## MMX -/

/-- A move between an `MM` register and an operand. -/
def mmxMove (dst src width : Nat) : Handler := do
  let value ← readOperandChecked src width
  writeOperandChecked dst value width

/-- `sse_exceptions_masked`. -/
def sseExceptionsMasked (s : CpuState) (exceptions : BitVec 32) : Bool :=
  exceptions &&& ~~~((s.mxcsr >>> 7) &&& 0x3F#32) == 0#32

/-- `sse_exception`: the bits stick, and an unmasked one is delivered. -/
def sseException (exceptions : BitVec 32) : Handler := do
  modifyState fun s => { s with mxcsr := s.mxcsr ||| (exceptions &&& 0x3F#32) }
  let s := (← get).state
  if sseExceptionsMasked s exceptions then pure ()
  else faultHere .floatingPointException exceptions

namespace X87Host

variable (H : X87Host)

/-- `is_vector_register`. -/
def isVectorRegister (reg : Register) : Bool :=
  let value := H.number reg
  let inFile (base : BitVec 32) := decide (base ≤ value) && decide (value < base + 32#32)
  inFile H.xmm0 || inFile H.ymm0 || inFile H.zmm0

/-- `is_mmx_register`. -/
def isMmxRegister (reg : Register) : Bool :=
  decide (H.mm0 ≤ H.number reg) && decide (H.number reg < H.mm0 + 8#32)

/-- `vector_width`. -/
def vectorWidth (reg : Register) : Nat :=
  let value := H.number reg
  let inFile (base : BitVec 32) := decide (base ≤ value) && decide (value < base + 32#32)
  if inFile H.zmm0 then 64 else if inFile H.ymm0 then 32 else 16

/-- The low bytes of a vector. -/
def vectorMask (bytes : Nat) : BitVec 512 :=
  if bytes ≥ 64 then BitVec.allOnes 512 else (1#512 <<< (bytes * 8)) - 1#512

/-- `read_operand` of the vector handlers: a vector register or memory. -/
def readVectorOperand (operandIndex width : Nat) : HandlerM (BitVec 512) := do
  let ctx ← get
  if ctx.instr.opKind operandIndex = .register then
    let reg := ctx.instr.opRegister operandIndex
    if !H.isVectorRegister reg then operandFault
    else pure (ctx.state.vectors (H.vectorIndex reg) &&& vectorMask (H.vectorWidth reg) &&&
      vectorMask width)
  else if ctx.instr.opKind operandIndex = .memory then
    let address := memoryAddress ctx.state ctx.instr
    match ctx.memory.read address width .dataRead with
    | some bytes => pure (BitVec.ofNat 512 (ofLE bytes))
    | none => memoryFault address
  else operandFault

/-- `read_mmx`. -/
def readMmx (s : CpuState) (reg : Register) : U64 := s.mmxGet (H.mmIndex reg)

/-- `MASKMOVQ`: the bytes whose mask has its top bit. -/
def handleMaskmovq : Handler := do
  let ctx ← get
  let dest := readRegister ctx.state .rdi
  let data := H.readMmx ctx.state (ctx.instr.opRegister 1)
  let mask := H.readMmx ctx.state (ctx.instr.opRegister 2)
  storeWordsChecked dest ((List.range 8).filterMap fun i =>
    if (mask >>> (8 * i)) &&& 0x80#64 ≠ 0#64 then some (i, (data >>> (8 * i)) &&& 0xFF#64, 1)
    else none)

/-- `PMOVMSKB`. -/
def pmovmskb (dstBytes : Nat) : Handler := do
  let ctx ← get
  let src := H.readMmx ctx.state (ctx.instr.opRegister 1)
  let mask := (List.range 8).foldl
    (fun mask i => mask ||| (((src >>> (i * 8 + 7)) &&& 1#64) <<< i)) 0#64
  writeOperandChecked 0 mask dstBytes

/-- `MOVQ2DQ`. -/
def handleMovq2dq : Handler := do
  let ctx ← get
  let i := H.vectorIndex (ctx.instr.opRegister 0)
  let src := H.readMmx ctx.state (ctx.instr.opRegister 1)
  modifyState fun s => setVector s i ((s.vectors i &&& ~~~vectorMask 16) ||| src.setWidth 512)

/-- `MOVDQ2Q`. -/
def handleMovdq2q : Handler := do
  let ctx ← get
  let value := (ctx.state.vectors (H.vectorIndex (ctx.instr.opRegister 1))).setWidth 64
  modifyState fun s => s.mmxSet (H.mmIndex (ctx.instr.opRegister 0)) value

/-- `CVTPI2PD`. -/
def handleCvtpi2pd : Handler := do
  let ctx ← get
  let dst := ctx.instr.opRegister 0
  if ctx.instr.opKind 0 ≠ .register ∨ !H.isVectorRegister dst then operandFault
  else
    let reg := ctx.instr.opRegister 1
    let src ←
      if ctx.instr.opKind 1 = .register ∧ H.isMmxRegister reg then pure (H.readMmx ctx.state reg)
      else readOperandChecked 1 8
    let low := H.i32ToF64 (src.setWidth 32)
    let high := H.i32ToF64 ((src >>> 32).setWidth 32)
    let out := (high ++ low).setWidth 512
    let m := vectorMask (H.vectorWidth dst)
    let i := H.vectorIndex dst
    modifyState fun s => setVector s i ((s.vectors i &&& ~~~m) ||| (out &&& m))

/-- `CVTPD2PI` and, truncating, `CVTTPD2PI`. -/
def cvtpd2pi (truncateOnly : Bool) : Handler := do
  let src ← H.readVectorOperand 1 16
  let ctx ← get
  let low := H.convertFpToInt32 ctx.state.mxcsr (src.setWidth 64) truncateOnly
  let high := H.convertFpToInt32 ctx.state.mxcsr ((src >>> 64).setWidth 64) truncateOnly
  let packed := (low.1 &&& 0xFFFFFFFF#64) ||| ((high.1 &&& 0xFFFFFFFF#64) <<< 32)
  let exceptions := low.2 ||| high.2
  if exceptions ≠ 0#32 then sseException exceptions
  modifyState fun s => s.mmxSet (H.mmIndex (ctx.instr.opRegister 0)) packed

end X87Host

/-! ## The codes -/

/-- The operands of an arithmetic form; `pStiSt0` are the forms that pop. -/
inductive X87Form where
  | m32fp | m64fp | st0Sti | stiSt0 | pStiSt0 | m16int | m32int
deriving DecidableEq

/-- `FADD`, `FADDP`, `FIADD` and so on. -/
def X87Op.handler (H : X87Host) (op : X87Op) : X87Form → Handler
  | .m32fp => x87BinaryMemSt0 H.soft 4 (op.compute H.soft)
  | .m64fp => x87BinaryMemSt0 H.soft 8 (op.compute H.soft)
  | .st0Sti | .stiSt0 => x87BinaryStRegs H 0 1 (op.compute H.soft)
  | .pStiSt0 => do
    x87BinaryStRegs H 0 1 (op.compute H.soft)
    popOrUnderflow
  | .m16int => x87BinaryMemIntSt0 H.soft 2 (op.compute H.soft)
  | .m32int => x87BinaryMemIntSt0 H.soft 4 (op.compute H.soft)

/-- The constants `FLD` can load. -/
inductive X87Const where
  | fld1 | fldl2t | fldl2e | fldpi | fldlg2 | fldln2 | fldz
deriving DecidableEq

/-- Their values; pi and the logarithms come from `double`. -/
def X87Const.value (F : SoftFloat) : X87Const → Float80
  | .fld1 => F.ofInt 1#32
  | .fldl2t => F.ofDouble 0x400A934F0979A371#64
  | .fldl2e => F.ofDouble 0x3FF71547652B82FE#64
  | .fldpi => F.ofDouble 0x400921FB54442D18#64
  | .fldlg2 => F.ofDouble 0x3FD34413509F79FF#64
  | .fldln2 => F.ofDouble 0x3FE62E42FEFA39EF#64
  | .fldz => F.ofInt 0#32

/-- The forms with `ST0, STi` operands; `DC D0`, `DC D8` and `DE D0` are like
`fcom` and `fcomp`. -/
inductive FcomSti where
  | fcom | fcomp | fucom | fucomp | fcomi | fucomi | fcomip | fucomip
deriving DecidableEq

/-- The handler of a comparison with a register. -/
def FcomSti.handler (H : X87Host) : FcomSti → Handler
  | .fcom => x87CompareSt0Sti H 1 false false
  | .fcomp => x87CompareSt0Sti H 1 false true
  | .fucom => x87CompareSt0Sti H 1 false false true
  | .fucomp => x87CompareSt0Sti H 1 false true true
  | .fcomi => x87CompareSt0Sti H 1 true false
  | .fucomi => x87CompareSt0Sti H 1 true false true
  | .fcomip => x87CompareSt0Sti H 1 true true
  | .fucomip => x87CompareSt0Sti H 1 true true true

/-- The conditions of `FCMOV`. -/
inductive Fcmov where
  | b | be | e | nb | nbe | ne | nu | u
deriving DecidableEq

/-- The condition in `RFLAGS`. -/
def Fcmov.holds (rflags : U64) : Fcmov → Bool
  | .b => flagSet rflags kFlagCF
  | .be => flagSet rflags kFlagCF || flagSet rflags kFlagZF
  | .e => flagSet rflags kFlagZF
  | .nb => !flagSet rflags kFlagCF
  | .nbe => !flagSet rflags kFlagCF && !flagSet rflags kFlagZF
  | .ne => !flagSet rflags kFlagZF
  | .nu => !flagSet rflags kFlagPF
  | .u => flagSet rflags kFlagPF

/-- The functions of ST0. -/
inductive X87Function where
  | fchs | fabs | fsqrt | frndint | fsin | fcos | fsincos | fptan | fpatan | f2xm1 | fyl2x
  | fyl2xp1 | fscale
deriving DecidableEq

/-- The handler of a function. -/
def X87Function.handler (F : SoftFloat) : X87Function → Handler
  | .fchs => x87UnarySt0 F Float80.neg
  | .fabs => x87UnarySt0 F Float80.abs
  | .fsqrt => handleFsqrt F
  | .frndint => handleFrndint F
  | .fsin => x87FunctionSt0 F (F.viaDouble F.sin)
  | .fcos => x87FunctionSt0 F (F.viaDouble F.cos)
  | .fsincos => handleFsincos F
  | .fptan => handleFptan F
  | .fpatan => handleFpatan F
  | .f2xm1 => handleF2xm1 F
  | .fyl2x => handleFyl2x F
  | .fyl2xp1 => handleFyl2xp1 F
  | .fscale => handleFscale F

/-- What moves numbers between the stack and memory or another register. -/
inductive X87Transfer where
  | fldM32fp | fldM64fp | fldM80fp | fldSti
  | fstM32fp | fstM64fp | fstSti | fstpM32fp | fstpM64fp | fstpM80fp
  /-- `FSTP STi`, `DF D0`, `DF D8` and `FSTPNCE`. -/
  | fstpSti
  | fildM16int | fildM32int | fildM64int
  | fistM16int | fistM32int | fistM64int
  | fistpM16int | fistpM32int | fistpM64int
  | fisttpM16int | fisttpM32int | fisttpM64int
  | fbld | fbstp
  /-- Also `DD C8` and `DF C8`. -/
  | fxch
  | ffree | ffreep
  | fcmov (condition : Fcmov)
deriving DecidableEq

/-- The handler of a transfer. -/
def X87Transfer.handler (H : X87Host) : X87Transfer → Handler
  | .fldM32fp => x87PushFromMemory H.soft 4
  | .fldM64fp => x87PushFromMemory H.soft 8
  | .fldM80fp => x87PushFromMemory H.soft 10
  | .fldSti => handleFldSti H
  | .fstM32fp => x87StoreMem H.soft 4 false
  | .fstM64fp => x87StoreMem H.soft 8 false
  | .fstSti => x87RegMove H 0 1 false
  | .fstpM32fp => x87StoreMem H.soft 4 true
  | .fstpM64fp => x87StoreMem H.soft 8 true
  | .fstpM80fp => x87FstpM80fp
  | .fstpSti => x87StoreSt0ToSti H true
  | .fildM16int => x87LoadInteger H.soft 2
  | .fildM32int => x87LoadInteger H.soft 4
  | .fildM64int => x87LoadInteger H.soft 8
  | .fistM16int => x87StoreInteger H.soft 2 false false
  | .fistM32int => x87StoreInteger H.soft 4 false false
  | .fistM64int => x87StoreInteger H.soft 8 false false
  | .fistpM16int => x87StoreInteger H.soft 2 true false
  | .fistpM32int => x87StoreInteger H.soft 4 true false
  | .fistpM64int => x87StoreInteger H.soft 8 true false
  | .fisttpM16int => x87StoreInteger H.soft 2 true true
  | .fisttpM32int => x87StoreInteger H.soft 4 true true
  | .fisttpM64int => x87StoreInteger H.soft 8 true true
  | .fbld => x87LoadBcd H.soft
  | .fbstp => handleFbstp H.soft
  | .fxch => x87Fxch H
  | .ffree => x87FreeSti H false
  | .ffreep => x87FreeSti H true
  | .fcmov condition => do
    let s := (← get).state
    x87MoveIf H (condition.holds s.rflags)

/-- The unit itself; the waiting forms have the handlers of the others. -/
inductive X87Control where
  | fninit | finit | emms | femms | fnclex | fnop | fdecstp | fincstp
  | fldenv | fnstenv | fldcw | fnstcw | fnstswM2byte | fnstswAx
  | fxsave | fxrstor | fsave | frstor
deriving DecidableEq

/-- The handler of a control instruction. -/
def X87Control.handler (F : SoftFloat) : X87Control → Handler
  | .fninit | .finit => modifyState fun s => s.x87Reset F
  | .emms | .femms => modifyState fun s => s.emms
  | .fnclex => modifyState fun s => { s with x87StatusWord := s.x87StatusWord &&& ~~~0xBF#16 }
  | .fnop => pure ()
  | .fdecstp => modifyState fun s => s.setX87Top ((s.x87Top + 7#8) &&& 0x7#8)
  | .fincstp => modifyState fun s => s.setX87Top ((s.x87Top + 1#8) &&& 0x7#8)
  | .fldenv => handleFldenv
  | .fnstenv => handleFnstenv
  | .fldcw => handleFldcw
  | .fnstcw => handleFnstcw
  | .fnstswM2byte => handleFnstswM2byte
  | .fnstswAx => handleFnstswAx
  | .fxsave => Seven.fxsave
  | .fxrstor => Seven.fxrstor F
  | .fsave => Seven.fsave F
  | .frstor => Seven.frstor F

/-- The MMX codes. -/
inductive MmxCode where
  | movdMmRm32 | movqMmRm64 | movdRm32Mm | movqRm64Mm | movqMmMmm64 | movqMmm64Mm
  | maskmovq | pmovmskbR32 | pmovmskbR64 | movq2dq | movdq2q
  | cvtpi2pd | cvtpd2pi | cvttpd2pi
deriving DecidableEq

/-- The handler of an MMX code. -/
def MmxCode.handler (H : X87Host) : MmxCode → Handler
  | .movdMmRm32 | .movdRm32Mm => mmxMove 0 1 4
  | .movqMmRm64 | .movqRm64Mm | .movqMmMmm64 | .movqMmm64Mm => mmxMove 0 1 8
  | .maskmovq => H.handleMaskmovq
  | .pmovmskbR32 => H.pmovmskb 4
  | .pmovmskbR64 => H.pmovmskb 8
  | .movq2dq => H.handleMovq2dq
  | .movdq2q => H.handleMovdq2q
  | .cvtpi2pd => H.handleCvtpi2pd
  | .cvtpd2pi => H.cvtpd2pi false
  | .cvttpd2pi => H.cvtpd2pi true

/-- The codes that touch the x87 state. -/
inductive X87Code where
  | arithmetic (op : X87Op) (form : X87Form)
  | fprem | fprem1
  | fldConst (c : X87Const)
  | function (f : X87Function)
  | transfer (t : X87Transfer)
  /-- `FCOM` and `FCOMP` of a `float` or a `double`. -/
  | fcomM32fp | fcompM32fp | fcomM64fp | fcompM64fp
  | fcomSti (c : FcomSti)
  | fcompp | fucompp | ftst | fxam
  | control (c : X87Control)
  | mmx (c : MmxCode)
deriving DecidableEq

/-- The handler of a code. -/
def X87Code.handler (H : X87Host) : X87Code → Handler
  | .arithmetic op form => op.handler H form
  | .fprem => x87BinaryStRegs H 0 1 fun a b => (H.soft.fmod a b, 0#16)
  | .fprem1 => x87BinaryStRegs H 0 1 fun a b => (H.soft.extF80Rem a b, 0#16)
  | .fldConst c => pushOr H.soft x87StackOverflow (c.value H.soft)
  | .function f => f.handler H.soft
  | .transfer t => t.handler H
  | .fcomM32fp => x87CompareMem H.soft 4 false false
  | .fcompM32fp => x87CompareMem H.soft 4 true false
  | .fcomM64fp => x87CompareMem H.soft 8 false false
  | .fcompM64fp => x87CompareMem H.soft 8 true false
  | .fcomSti c => c.handler H
  | .fcompp => x87CompareRegs H 0 1 true true false
  | .fucompp => x87CompareRegs H 0 1 true true false true
  | .ftst => handleFtst H
  | .fxam => handleFxam H
  | .control c => c.handler H.soft
  | .mmx c => c.handler H

end Seven
