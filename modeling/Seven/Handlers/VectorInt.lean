import Seven.Handlers.VectorMoves

/-!
# Packed integer arithmetic

The handlers of `simd_int.cpp`: element-wise arithmetic, comparisons, shifts,
bitwise operations and the string comparisons. Legacy forms keep the bits
above the register they name, VEX and EVEX forms clear them; the EVEX forms
are the only ones of the whole vector code that look at a mask register.

> `IntCode.leaves`: what a form leaves in its destination.
-/

namespace Seven

open Seven.Lib

/-! ## Operations on elements -/

section

variable {w : Nat}

/-- Addition that stops at the top. -/
def satAddUnsigned (lhs rhs : BitVec w) : BitVec w :=
  if BitVec.allOnes w - lhs < rhs then BitVec.allOnes w else lhs + rhs

/-- Signed addition that stops at either end. -/
def satAddSigned (lhs rhs : BitVec w) : BitVec w :=
  if (0#w).slt rhs ∧ (BitVec.intMax w - rhs).slt lhs then BitVec.intMax w
  else if rhs.slt 0#w ∧ lhs.slt (BitVec.intMin w - rhs) then BitVec.intMin w
  else lhs + rhs

/-- Subtraction that stops at zero. -/
def satSubUnsigned (lhs rhs : BitVec w) : BitVec w := if lhs < rhs then 0#w else lhs - rhs

/-- Signed subtraction that stops at either end. -/
def satSubSigned (lhs rhs : BitVec w) : BitVec w :=
  if (0#w).slt rhs ∧ lhs.slt (BitVec.intMin w + rhs) then BitVec.intMin w
  else if rhs.slt 0#w ∧ (BitVec.intMax w + rhs).slt lhs then BitVec.intMax w
  else lhs - rhs

/-- In 32 bits, where the sum does not wrap. -/
def avgUnsigned (lhs rhs : BitVec w) : BitVec w :=
  ((lhs.setWidth 32 + rhs.setWidth 32 + 1#32) >>> 1).setWidth w

/-- A left shift; a count past the width leaves zero. -/
def shiftLeftLane (value : BitVec w) (count : U64) : BitVec w :=
  if w ≤ count.toNat then 0#w else value <<< count.toNat

/-- A logical right shift. -/
def shiftRightLogicalLane (value : BitVec w) (count : U64) : BitVec w :=
  if w ≤ count.toNat then 0#w else value >>> count.toNat

/-- An arithmetic right shift; a count past the width leaves the sign. -/
def shiftRightArithmeticLane (value : BitVec w) (count : U64) : BitVec w :=
  if w ≤ count.toNat then (if value.slt 0#w then BitVec.allOnes w else 0#w)
  else value.sshiftRight count.toNat

end

/-- The arithmetic that has legacy, VEX and EVEX forms. -/
inductive PackedOp where
  | paddb | paddw | paddd | paddq | psubb | psubw | psubd | psubq
  | paddsb | paddsw | psubsb | psubsw | paddusb | paddusw | psubusb | psubusw
  | pavgb | pavgw | pmullw
deriving DecidableEq, Repr

/-- The lane's bytes. -/
def PackedOp.bytes : PackedOp → Nat
  | .paddb | .psubb | .paddsb | .psubsb | .paddusb | .psubusb | .pavgb => 1
  | .paddw | .psubw | .paddsw | .psubsw | .paddusw | .psubusw | .pavgw | .pmullw => 2
  | .paddd | .psubd => 4
  | .paddq | .psubq => 8

/-- One lane. -/
def PackedOp.compute {w : Nat} (op : PackedOp) (a b : BitVec w) : BitVec w :=
  match op with
  | .paddb | .paddw | .paddd | .paddq => a + b
  | .psubb | .psubw | .psubd | .psubq => a - b
  | .paddsb | .paddsw => satAddSigned a b
  | .psubsb | .psubsw => satSubSigned a b
  | .paddusb | .paddusw => satAddUnsigned a b
  | .psubusb | .psubusw => satSubUnsigned a b
  | .pavgb | .pavgw => avgUnsigned a b
  | .pmullw => a * b

/-- Arithmetic with a legacy form only. -/
inductive LegacyPackedOp where
  | pmulhw | pmulhuw | pminsw | pmaxub
deriving DecidableEq, Repr

/-- The lane's bytes. -/
def LegacyPackedOp.bytes : LegacyPackedOp → Nat
  | .pmaxub => 1
  | _ => 2

/-- One lane. -/
def LegacyPackedOp.compute {w : Nat} (op : LegacyPackedOp) (a b : BitVec w) : BitVec w :=
  match op with
  | .pmulhw => ((a.signExtend 32 * b.signExtend 32).sshiftRight 16).setWidth w
  | .pmulhuw => ((a.setWidth 32 * b.setWidth 32) >>> 16).setWidth w
  | .pminsw => if b.slt a then b else a
  | .pmaxub => if a < b then b else a

/-- The comparisons. -/
inductive CompareOp where
  | pcmpeqb | pcmpeqw | pcmpeqd | pcmpeqq | pcmpgtb | pcmpgtw | pcmpgtd | pcmpgtq
deriving DecidableEq, Repr

/-- The lane's bytes. -/
def CompareOp.bytes : CompareOp → Nat
  | .pcmpeqb | .pcmpgtb => 1
  | .pcmpeqw | .pcmpgtw => 2
  | .pcmpeqd | .pcmpgtd => 4
  | .pcmpeqq | .pcmpgtq => 8

/-- One lane: all ones, or zero. -/
def CompareOp.compute {w : Nat} (op : CompareOp) (a b : BitVec w) : BitVec w :=
  match op with
  | .pcmpeqb | .pcmpeqw | .pcmpeqd | .pcmpeqq => if a = b then BitVec.allOnes w else 0#w
  | .pcmpgtb | .pcmpgtw | .pcmpgtd | .pcmpgtq => if b.slt a then BitVec.allOnes w else 0#w

/-- The shifts by one count for all lanes. -/
inductive PackedShift where
  | psllw | pslld | psllq | psrlw | psrld | psrlq | psraw | psrad
deriving DecidableEq, Repr

/-- The lane's bytes. -/
def PackedShift.bytes : PackedShift → Nat
  | .psllw | .psrlw | .psraw => 2
  | .pslld | .psrld | .psrad => 4
  | .psllq | .psrlq => 8

/-- One lane. -/
def PackedShift.compute {w : Nat} (op : PackedShift) (value : BitVec w) (count : U64) : BitVec w :=
  match op with
  | .psllw | .pslld | .psllq => shiftLeftLane value count
  | .psrlw | .psrld | .psrlq => shiftRightLogicalLane value count
  | .psraw | .psrad => shiftRightArithmeticLane value count

/-- The bitwise operations. -/
inductive BitwiseOp where
  | pand | pandn | por | pxor
deriving DecidableEq, Repr

/-- The whole vector. -/
def BitwiseOp.compute (op : BitwiseOp) (a b : BitVec 512) : BitVec 512 :=
  match op with
  | .pand => a &&& b
  | .pandn => ~~~a &&& b
  | .por => a ||| b
  | .pxor => a ^^^ b

/-- The loops over the elements, from `out` on. -/
def zipLanes (size width : Nat) (fn : BitVec (8 * size) → BitVec (8 * size) → BitVec (8 * size))
    (lhs rhs out : BitVec 512) : BitVec 512 :=
  updateLanes size (width / size)
    (fun k => some (fn (loadLane size lhs (k * size)) (loadLane size rhs (k * size)))) out

/-- A function of one lane, on all lanes. -/
def mapLanes (size width : Nat) (fn : BitVec (8 * size) → BitVec (8 * size)) (src : BitVec 512) :
    BitVec 512 :=
  updateLanes size (width / size) (fun k => some (fn (loadLane size src (k * size)))) 0#512

/-- `PMULUDQ`, `PMADDWD` and `PSADBW` of one element. -/
def mulUnsignedDq (lhs rhs : BitVec 512) (o : Nat) : BitVec 64 :=
  (loadLane 4 lhs o).setWidth 64 * (loadLane 4 rhs o).setWidth 64

/-- `PMADDWD`, one lane. -/
def mulAddWd (lhs rhs : BitVec 512) (o : Nat) : BitVec 32 :=
  let product (o : Nat) := (loadLane 2 lhs o).signExtend 64 * (loadLane 2 rhs o).signExtend 64
  (product o + product (o + 2)).setWidth 32

/-- `PSADBW`, one half. -/
def sumAbsDiff (lhs rhs : BitVec 512) (o : Nat) : BitVec 64 :=
  (List.range 8).foldl (fun sum i =>
    let a := loadLane 1 lhs (o + i)
    let b := loadLane 1 rhs (o + i)
    sum + (if b < a then a - b else b - a).setWidth 64) 0#64

/-- The halves of 128 bits, each shifted by bytes. -/
def shiftDq (right : Bool) (width : Nat) (src : BitVec 512) (count : Nat) : BitVec 512 :=
  stackLanes 128 (width / 16) fun k =>
    let laneBits := (src >>> (128 * k)) &&& X87Host.vectorMask 16
    let shifted :=
      if count < 16 then
        if right then laneBits >>> (count * 8)
        else (laneBits <<< (count * 8)) &&& X87Host.vectorMask 16
      else 0#512
    shifted &&& X87Host.vectorMask 16

/-! ## String comparisons -/

/-- The elements of `PCMPxSTRx`, extended as the immediate says and as they are. -/
structure PcmpSource where
  values : Nat → BitVec 32
  raw : Nat → BitVec 32

/-- `pcmp_element_count`: eight words or sixteen bytes. -/
def pcmpElementCount (imm : U64) : Nat := if imm.getLsbD 0 then 8 else 16

/-- `pcmp_extract_source`. -/
def pcmpExtractSource (bits : BitVec 512) (imm : U64) : PcmpSource :=
  let element (extend : {w : Nat} → BitVec w → BitVec 32) (i : Nat) : BitVec 32 :=
    if pcmpElementCount imm ≤ i then 0#32
    else if imm.getLsbD 0 then extend (loadLane 2 bits (i * 2))
    else extend (loadLane 1 bits i)
  { values := element fun v => if imm.getLsbD 1 then v.signExtend 32 else v.setWidth 32
    raw := element fun v => v.setWidth 32 }

/-- `pcmp_explicit_length`: the magnitude of a signed length. -/
def pcmpExplicitLength (raw : U64) (count : Nat) : Nat :=
  min (raw.setWidth 32).toInt.natAbs count

/-- `pcmp_implicit_length`: up to the first zero. -/
def pcmpImplicitLength (src : PcmpSource) (count : Nat) : Nat :=
  ((List.range count).takeWhile fun i => src.raw i != 0#32).length

/-- Bit `j` of the result is `p j`, for `j < n`. -/
def bitsWhere (n : Nat) (p : Nat → Bool) : BitVec 32 :=
  (List.range n).foldl (fun res j => if p j then res ||| (1#32 <<< j) else res) 0#32

/-- The four aggregations, by bits 2 and 3 of the immediate. -/
def pcmpAggregate (imm : U64) (lhs rhs : PcmpSource) (len1 len2 count : Nat) : BitVec 32 :=
  match ((imm >>> 2) &&& 3#64).toNat with
  | 0 => bitsWhere len2 fun j => (List.range len1).any fun i => lhs.values i == rhs.values j
  | 1 => bitsWhere len2 fun j => (List.range (len1 / 2)).any fun k =>
      (lhs.values (2 * k)).sle (rhs.values j) && (rhs.values j).sle (lhs.values (2 * k + 1))
  | 2 => bitsWhere count fun i =>
      if i < len1 ∧ i < len2 then lhs.values i == rhs.values i
      else decide (len1 ≤ i ∧ len2 ≤ i)
  | _ => bitsWhere count fun j => (List.range (min len1 count)).all fun i =>
      decide (j + i < len2 ∧ j + i < count) && lhs.values i == rhs.values (j + i)

/-- `pcmp_apply_polarity`. -/
def pcmpApplyPolarity (imm : U64) (intres1 : BitVec 32) (len2 count : Nat) : BitVec 32 :=
  let fullMask := (1#32 <<< count) - 1#32
  match ((imm >>> 4) &&& 3#64).toNat with
  | 0 | 2 => intres1 &&& fullMask
  | 1 => ~~~intres1 &&& fullMask
  | _ =>
    let validMask := if count ≤ len2 then fullMask else (1#32 <<< len2) - 1#32
    ((~~~intres1 &&& validMask) ||| (intres1 &&& ~~~validMask)) &&& fullMask

/-- `set_pcmpstr_flags`. -/
def setPcmpstrFlags (s : CpuState) (intres2 : BitVec 32) (len1 len2 count : Nat) : CpuState :=
  let rf := s.rflags &&&
    ~~~(kFlagCF ||| kFlagPF ||| kFlagAF ||| kFlagZF ||| kFlagSF ||| kFlagOF)
  let rf := if intres2 ≠ 0#32 then rf ||| kFlagCF else rf
  let rf := if len2 < count then rf ||| kFlagZF else rf
  let rf := if len1 < count then rf ||| kFlagSF else rf
  let rf := if intres2.getLsbD 0 then rf ||| kFlagOF else rf
  setFlags s rf

/-- The bits themselves, or an element of ones for each. -/
def pcmpMask (imm : U64) (intres2 : BitVec 32) : BitVec 512 :=
  if imm.getLsbD 6 then
    if imm.getLsbD 0 then
      updateLanes 2 8 (fun i => if intres2.getLsbD i then some (BitVec.allOnes 16) else none) 0#512
    else
      updateLanes 1 16 (fun i => if intres2.getLsbD i then some (BitVec.allOnes 8) else none) 0#512
  else intres2.setWidth 512

/-- The lowest set bit, or the highest; the number of elements when there is
none. -/
def pcmpIndex (imm : U64) (intres2 : BitVec 32) (count : Nat) : Nat :=
  let order := if imm.getLsbD 6 then (List.range count).reverse else List.range count
  (order.find? fun i => intres2.getLsbD i).getD count

namespace X87Host

variable (H : X87Host)

/-- `pcmpstr`. `XMM0` is slot 0, at 16 bytes. -/
def pcmpstr (explicitLengths returnMask : Bool) : Handler := do
  let ctx ← get
  if H.IsVectorOperand ctx.instr 0 then
    let imm := ctx.instr.immediate8
    let count := pcmpElementCount imm
    let lhsBits := H.readVec ctx.state (ctx.instr.opRegister 0)
    let rhsBits ← H.readVectorOperand 1 16
    let lhs := pcmpExtractSource lhsBits imm
    let rhs := pcmpExtractSource rhsBits imm
    -- The explicit lengths are in EAX and EDX, the implicit ones end at the first zero element.
    let len1 := if explicitLengths then pcmpExplicitLength (ctx.state.gpr 0) count
      else pcmpImplicitLength lhs count
    let len2 := if explicitLengths then pcmpExplicitLength (ctx.state.gpr 2) count
      else pcmpImplicitLength rhs count
    let intres1 := pcmpAggregate imm lhs rhs len1 len2 count
    let intres2 := pcmpApplyPolarity imm intres1 len2 count
    modifyState fun s => setPcmpstrFlags s intres2 len1 len2 count
    if returnMask then
      let xmm0 := vectorSlot 0
      modifyState fun s => setVector s xmm0 (mergeVec (s.vectors xmm0) (pcmpMask imm intres2) 16 false)
    else
      modifyState fun s =>
        writeRegister s .ecx (BitVec.ofNat 64 (pcmpIndex imm intres2 count)) 4
  else operandFault

/-! ## The families -/

/-- Legacy forms: the destination is the left operand. -/
def legacyCustomBinary (x : EvexFields) (fn : BitVec 512 → BitVec 512 → Nat → BitVec 512) :
    Handler :=
  H.toVector false fun dst => do
    let lhs := H.readVec (← get).state dst
    let rhs ← H.readBroadcastOperand x 1 (H.vectorWidth dst)
    return fn lhs rhs (H.vectorWidth dst)

/-- The packed operations. -/
def legacyBinary (x : EvexFields) (size : Nat)
    (fn : BitVec (8 * size) → BitVec (8 * size) → BitVec (8 * size)) : Handler :=
  H.legacyCustomBinary x fun lhs rhs width => zipLanes size width fn lhs rhs lhs

/-- The comparisons. -/
def legacyCompare (x : EvexFields) (size : Nat)
    (fn : BitVec (8 * size) → BitVec (8 * size) → BitVec (8 * size)) : Handler :=
  H.legacyCustomBinary x fun lhs rhs width => zipLanes size width fn lhs rhs 0#512

/-- The bitwise operations. -/
def legacyBitwise (x : EvexFields) (fn : BitVec 512 → BitVec 512 → BitVec 512) : Handler :=
  H.legacyCustomBinary x fun lhs rhs _ => fn lhs rhs

/-- The count is the low 64 bits of operand 1. -/
def legacyShiftReg (x : EvexFields) (size : Nat)
    (fn : BitVec (8 * size) → U64 → BitVec (8 * size)) : Handler :=
  H.toVector false fun dst => do
    let countBits ← H.readBroadcastOperand x 1 (H.vectorWidth dst)
    let count := loadLane 8 countBits 0
    let src := H.readVec (← get).state dst
    return mapLanes size (H.vectorWidth dst) (fun v => fn v count) src

/-- The shifts by an immediate. -/
def legacyShiftImm (size : Nat) (fn : BitVec (8 * size) → U64 → BitVec (8 * size)) : Handler :=
  H.toVector false fun dst => do
    let ctx ← get
    let count := ctx.instr.immediate8 &&& 0xFF#64
    let src := H.readVec ctx.state dst
    return mapLanes size (H.vectorWidth dst) (fun v => fn v count) src

/-- `PSLLDQ` and `PSRLDQ`: whole bytes. -/
def legacyShiftDqImm (right : Bool) : Handler :=
  H.toVector false fun dst => do
    let ctx ← get
    let count := (ctx.instr.immediate8 &&& 0xFF#64).toNat
    let src := H.readVec ctx.state dst
    return shiftDq right (H.vectorWidth dst) src count

/-- The two sources of a VEX or EVEX form. -/
def vexSources (x : EvexFields) (fn : BitVec 512 → BitVec 512 → Nat → BitVec 512) (dst : Register) :
    HandlerM (BitVec 512) := do
  let lhs ← H.readBroadcastOperand x 1 (H.vectorWidth dst)
  let rhs ← H.readBroadcastOperand x 2 (H.vectorWidth dst)
  return fn lhs rhs (H.vectorWidth dst)

/-- `vex_binary` and `vex_compare`. -/
def vexBinary (x : EvexFields) (size : Nat)
    (fn : BitVec (8 * size) → BitVec (8 * size) → BitVec (8 * size)) : Handler :=
  H.toVector true (H.masked x size
    (H.vexSources x fun lhs rhs width => zipLanes size width fn lhs rhs 0#512))

/-- `vex_bitwise<void>`: no elements, no mask. -/
def vexBitwise (x : EvexFields) (fn : BitVec 512 → BitVec 512 → BitVec 512) : Handler :=
  H.toVector true (H.vexSources x fun lhs rhs _ => fn lhs rhs)

/-- `vex_bitwise` with an element type. -/
def evexBitwise (x : EvexFields) (size : Nat) (fn : BitVec 512 → BitVec 512 → BitVec 512) :
    Handler :=
  H.toVector true (H.masked x size (H.vexSources x fun lhs rhs _ => fn lhs rhs))

/-- The value of a shift by an immediate. -/
def shiftImmSource (x : EvexFields) (size : Nat) (fn : BitVec (8 * size) → U64 → BitVec (8 * size))
    (dst : Register) : HandlerM (BitVec 512) := do
  let src ← H.readBroadcastOperand x 1 (H.vectorWidth dst)
  let count := (← get).instr.immediate8 &&& 0xFF#64
  return mapLanes size (H.vectorWidth dst) (fun v => fn v count) src

/-- The VEX shifts by an immediate. -/
def vexShiftImm (x : EvexFields) (size : Nat)
    (fn : BitVec (8 * size) → U64 → BitVec (8 * size)) : Handler :=
  H.toVector true (H.masked x size (H.shiftImmSource x size fn))

/-- Operand 1 is shifted by the low 64 bits of operand 2. -/
def shiftRegSource (x : EvexFields) (size : Nat) (fn : BitVec (8 * size) → U64 → BitVec (8 * size))
    (dst : Register) : HandlerM (BitVec 512) := do
  let ctx ← get
  if H.IsVectorOperand ctx.instr 1 then
    let countBits ← H.readBroadcastOperand x 2 8
    let count := loadLane 8 countBits 0
    let src := H.readVec ctx.state (ctx.instr.opRegister 1)
    return mapLanes size (H.vectorWidth dst) (fun v => fn v count) src
  else operandFault

/-- The VEX shifts by a register. -/
def vexShiftReg (x : EvexFields) (size : Nat)
    (fn : BitVec (8 * size) → U64 → BitVec (8 * size)) : Handler :=
  H.toVector true (H.masked x size (H.shiftRegSource x size fn))

/-- `VPSLLDQ` and `VPSRLDQ`. -/
def vexShiftDqImm (x : EvexFields) (right : Bool) : Handler :=
  H.toVector true fun dst => do
    let src ← H.readBroadcastOperand x 1 (H.vectorWidth dst)
    let count := ((← get).instr.immediate8 &&& 0xFF#64).toNat
    return shiftDq right (H.vectorWidth dst) src count

end X87Host

/-! ## The codes -/

/-- The handlers of `simd_int.cpp`, without the two string comparisons that
return an index. -/
inductive IntCode where
  | packed (op : PackedOp)
  | legacyPacked (op : LegacyPackedOp)
  | compare (op : CompareOp)
  | bitwise (op : BitwiseOp)
  | pmuludq | pmaddwd | psadbw
  | shiftImm (op : PackedShift)
  | shiftReg (op : PackedShift)
  /-- `PSLLDQ_XMM_IMM8`, `PSRLDQ_XMM_IMM8`. -/
  | shiftDq (right : Bool)
  /-- `PCMPISTRM`, `PCMPESTRM`. -/
  | pcmpstrm (explicitLengths : Bool)
  | vexPacked (op : PackedOp) (len : VexLength)
  | vexCompare (op : CompareOp) (len : VexLength)
  | vexBitwise (op : BitwiseOp) (len : VexLength)
  | vexShiftImm (op : PackedShift) (len : VexLength)
  /-- Of XMM registers. -/
  | vexShiftReg (op : PackedShift)
  | vexShiftDq (right : Bool) (len : VexLength)
  /-- `EVEX_VPADDB_XMM_K1Z_XMM_XMMM128` and its like. -/
  | evexPacked (op : PackedOp) (len : VectorLength)
  /-- `VPANDD` and, with quadwords, `VPANDQ`. -/
  | evexBitwise (op : BitwiseOp) (quad : Bool) (len : VectorLength)
  | evexShiftImm (op : PackedShift) (len : VectorLength)
  | evexShiftReg (op : PackedShift) (len : VectorLength)
deriving DecidableEq, Repr

namespace IntCode

/-- The encodings without VEX. -/
def legacy : IntCode → Bool
  | .packed _ | .legacyPacked _ | .compare _ | .bitwise _ | .pmuludq | .pmaddwd | .psadbw
  | .shiftImm _ | .shiftReg _ | .shiftDq _ | .pcmpstrm _ => true
  | _ => false

/-- The vector length. -/
def length : IntCode → VectorLength
  | .vexPacked _ len | .vexCompare _ len | .vexBitwise _ len | .vexShiftImm _ len
  | .vexShiftDq _ len => len.length
  | .evexPacked _ len | .evexBitwise _ _ len | .evexShiftImm _ len | .evexShiftReg _ len => len
  | _ => .xmm

/-- The handler of a code. -/
def handler (H : X87Host) (x : EvexFields) : IntCode → Handler
  | .packed op => H.legacyBinary x op.bytes op.compute
  | .legacyPacked op => H.legacyBinary x op.bytes op.compute
  | .compare op => H.legacyCompare x op.bytes op.compute
  | .bitwise op => H.legacyBitwise x op.compute
  | .pmuludq => H.legacyCustomBinary x fun lhs rhs width =>
      updateLanes 8 (width / 8) (fun k => some (mulUnsignedDq lhs rhs (k * 8))) 0#512
  | .pmaddwd => H.legacyCustomBinary x fun lhs rhs width =>
      updateLanes 4 (width / 4) (fun k => some (mulAddWd lhs rhs (k * 4))) 0#512
  | .psadbw => H.legacyCustomBinary x fun lhs rhs width =>
      updateLanes 8 (width / 8) (fun k => some (sumAbsDiff lhs rhs (k * 8))) 0#512
  | .shiftImm op => H.legacyShiftImm op.bytes op.compute
  | .shiftReg op => H.legacyShiftReg x op.bytes op.compute
  | .shiftDq right => H.legacyShiftDqImm right
  | .pcmpstrm explicitLengths => H.pcmpstr explicitLengths true
  | .vexPacked op _ | .evexPacked op _ => H.vexBinary x op.bytes op.compute
  | .vexCompare op _ => H.vexBinary x op.bytes op.compute
  | .vexBitwise op _ => H.vexBitwise x op.compute
  | .vexShiftImm op _ | .evexShiftImm op _ => H.vexShiftImm x op.bytes op.compute
  | .vexShiftReg op | .evexShiftReg op _ => H.vexShiftReg x op.bytes op.compute
  | .vexShiftDq right _ => H.vexShiftDqImm x right
  | .evexBitwise op quad _ => H.evexBitwise x (if quad then 8 else 4) op.compute

end IntCode

/-! ## What the forms leave -/

namespace X87Host

variable (H : X87Host)

/-- A handler that writes its result keeps or clears the bits above. -/
theorem toVector_merged {zeroUpper : Bool} {compute : Register → HandlerM (BitVec 512)}
    (hkeeps : ∀ dst, KeepsVectors (compute dst)) {ctx ctx' : ExecutionContext}
    (hrun : H.toVector zeroUpper compute ctx = .ok () ctx') :
    H.LeavesMerged ctx ctx' 0 zeroUpper := by
  obtain ⟨_, out, _, hleft⟩ := H.toVector_leaves hkeeps hrun
  exact ⟨out, _, Nat.le_refl _, hleft⟩

/-- The legacy forms keep them. -/
theorem legacyCustomBinary_merged {x : EvexFields} {fn : BitVec 512 → BitVec 512 → Nat → BitVec 512}
    {ctx ctx' : ExecutionContext} (hrun : H.legacyCustomBinary x fn ctx = .ok () ctx') :
    H.LeavesMerged ctx ctx' 0 false := by
  unfold legacyCustomBinary at hrun
  refine H.toVector_merged (fun dst => .of_quiet ?_) hrun
  exact Quiet.bind Quiet.get fun _ =>
    Quiet.bind (H.readBroadcastOperand_quiet _ _ _) fun _ => Quiet.pure _

theorem legacyBinary_merged {x : EvexFields} {size : Nat}
    {fn : BitVec (8 * size) → BitVec (8 * size) → BitVec (8 * size)} {ctx ctx' : ExecutionContext}
    (hrun : H.legacyBinary x size fn ctx = .ok () ctx') : H.LeavesMerged ctx ctx' 0 false := by
  unfold legacyBinary at hrun
  exact H.legacyCustomBinary_merged hrun

theorem legacyCompare_merged {x : EvexFields} {size : Nat}
    {fn : BitVec (8 * size) → BitVec (8 * size) → BitVec (8 * size)} {ctx ctx' : ExecutionContext}
    (hrun : H.legacyCompare x size fn ctx = .ok () ctx') : H.LeavesMerged ctx ctx' 0 false := by
  unfold legacyCompare at hrun
  exact H.legacyCustomBinary_merged hrun

theorem legacyBitwise_merged {x : EvexFields} {fn : BitVec 512 → BitVec 512 → BitVec 512}
    {ctx ctx' : ExecutionContext} (hrun : H.legacyBitwise x fn ctx = .ok () ctx') :
    H.LeavesMerged ctx ctx' 0 false := by
  unfold legacyBitwise at hrun
  exact H.legacyCustomBinary_merged hrun

/-- The sources are read without a change. -/
theorem vexSources_quiet (x : EvexFields) (fn : BitVec 512 → BitVec 512 → Nat → BitVec 512)
    (dst : Register) : Quiet (H.vexSources x fn dst) :=
  Quiet.bind (H.readBroadcastOperand_quiet _ _ _) fun _ =>
    Quiet.bind (H.readBroadcastOperand_quiet _ _ _) fun _ => Quiet.pure _

/-- So is the source of a shift by an immediate. -/
theorem shiftImmSource_quiet (x : EvexFields) (size : Nat)
    (fn : BitVec (8 * size) → U64 → BitVec (8 * size)) (dst : Register) :
    Quiet (H.shiftImmSource x size fn dst) :=
  Quiet.bind (H.readBroadcastOperand_quiet _ _ _) fun _ =>
    Quiet.bind Quiet.get fun _ => Quiet.pure _

/-- So are those of a shift by a register. -/
theorem shiftRegSource_quiet (x : EvexFields) (size : Nat)
    (fn : BitVec (8 * size) → U64 → BitVec (8 * size)) (dst : Register) :
    Quiet (H.shiftRegSource x size fn dst) := by
  refine Quiet.bind Quiet.get fun ctx => ?_
  split
  next => exact Quiet.bind (H.readBroadcastOperand_quiet _ _ _) fun _ => Quiet.pure _
  next => exact operandFault_quiet

/-- The masked forms clear them. -/
theorem masked_merged {x : EvexFields} {size : Nat} {compute : Register → HandlerM (BitVec 512)}
    (hquiet : ∀ dst, Quiet (compute dst)) {ctx ctx' : ExecutionContext}
    (hrun : H.toVector true (H.masked x size compute) ctx = .ok () ctx') :
    H.LeavesMerged ctx ctx' 0 true :=
  H.toVector_merged (fun dst => .of_quiet (H.masked_quiet (hquiet dst))) hrun

/-- The legacy shifts by a register keep them. -/
theorem legacyShiftReg_merged {x : EvexFields} {size : Nat}
    {fn : BitVec (8 * size) → U64 → BitVec (8 * size)} {ctx ctx' : ExecutionContext}
    (hrun : H.legacyShiftReg x size fn ctx = .ok () ctx') : H.LeavesMerged ctx ctx' 0 false := by
  unfold legacyShiftReg at hrun
  refine H.toVector_merged (fun dst => .of_quiet ?_) hrun
  exact Quiet.bind (H.readBroadcastOperand_quiet _ _ _) fun _ =>
    Quiet.bind Quiet.get fun _ => Quiet.pure _

/-- The legacy shifts by an immediate keep them. -/
theorem legacyShiftImm_merged {size : Nat} {fn : BitVec (8 * size) → U64 → BitVec (8 * size)}
    {ctx ctx' : ExecutionContext} (hrun : H.legacyShiftImm size fn ctx = .ok () ctx') :
    H.LeavesMerged ctx ctx' 0 false := by
  unfold legacyShiftImm at hrun
  exact H.toVector_merged (fun dst => .of_quiet (Quiet.bind Quiet.get fun _ => Quiet.pure _)) hrun

/-- `PSLLDQ` and `PSRLDQ` keep them. -/
theorem legacyShiftDqImm_merged {right : Bool} {ctx ctx' : ExecutionContext}
    (hrun : H.legacyShiftDqImm right ctx = .ok () ctx') : H.LeavesMerged ctx ctx' 0 false := by
  unfold legacyShiftDqImm at hrun
  exact H.toVector_merged (fun dst => .of_quiet (Quiet.bind Quiet.get fun _ => Quiet.pure _)) hrun

/-- `VPSLLDQ` and `VPSRLDQ` clear them. -/
theorem vexShiftDqImm_merged {x : EvexFields} {right : Bool} {ctx ctx' : ExecutionContext}
    (hrun : H.vexShiftDqImm x right ctx = .ok () ctx') : H.LeavesMerged ctx ctx' 0 true := by
  unfold vexShiftDqImm at hrun
  refine H.toVector_merged (fun dst => .of_quiet ?_) hrun
  exact Quiet.bind (H.readBroadcastOperand_quiet _ _ _) fun _ =>
    Quiet.bind Quiet.get fun _ => Quiet.pure _

/-- A string comparison writes the low half of `XMM0`. -/
theorem pcmpstr_leaves {explicitLengths : Bool} {ctx ctx' : ExecutionContext}
    (hrun : H.pcmpstr explicitLengths true ctx = .ok () ctx') :
    ∃ value, ctx'.state.vectors (vectorSlot 0) =
      mergeVec (ctx.state.vectors (vectorSlot 0)) value 16 false := by
  have hget : (get : HandlerM ExecutionContext) ctx = .ok ctx ctx := rfl
  unfold pcmpstr at hrun
  rw [bind_ok hget] at hrun
  by_cases hdst : H.IsVectorOperand ctx.instr 0
  · rw [if_pos hdst] at hrun
    obtain ⟨rhs, mid, hread, hrest⟩ := of_bind_ok hrun
    obtain rfl := (H.readVectorOperand_quiet 1 16).ok_eq hread
    cases hrest
    exact ⟨_, setVector_self _ _ _⟩
  · rw [if_neg hdst] at hrun
    cases hrun

end X87Host

namespace IntCode

variable (H : X87Host)

/-- **What an integer form leaves.** -/
theorem leaves (x : EvexFields) (c : IntCode) {ctx ctx' : ExecutionContext}
    (hdst : ∀ explicitLengths, c ≠ .pcmpstrm explicitLengths)
    (hrun : c.handler H x ctx = .ok () ctx') : H.LeavesMerged ctx ctx' 0 (!c.legacy) := by
  unfold handler at hrun
  -- The legacy forms keep the bits above the destination; the others clear them.
  cases c with
  | packed op => exact H.legacyBinary_merged hrun
  | legacyPacked op => exact H.legacyBinary_merged hrun
  | compare op => exact H.legacyCompare_merged hrun
  | bitwise op => exact H.legacyBitwise_merged hrun
  | pmuludq => exact H.legacyCustomBinary_merged hrun
  | pmaddwd => exact H.legacyCustomBinary_merged hrun
  | psadbw => exact H.legacyCustomBinary_merged hrun
  | shiftImm op => exact H.legacyShiftImm_merged hrun
  | shiftReg op => exact H.legacyShiftReg_merged hrun
  | shiftDq right => exact H.legacyShiftDqImm_merged hrun
  | pcmpstrm explicitLengths => exact absurd rfl (hdst explicitLengths)
  | vexPacked op len => exact H.masked_merged (H.vexSources_quiet _ _) hrun
  | vexCompare op len => exact H.masked_merged (H.vexSources_quiet _ _) hrun
  | vexBitwise op len =>
    exact H.toVector_merged (fun dst => .of_quiet (H.vexSources_quiet _ _ dst)) hrun
  | vexShiftImm op len => exact H.masked_merged (H.shiftImmSource_quiet _ _ _) hrun
  | vexShiftReg op => exact H.masked_merged (H.shiftRegSource_quiet _ _ _) hrun
  | vexShiftDq right len => exact H.vexShiftDqImm_merged hrun
  | evexPacked op len => exact H.masked_merged (H.vexSources_quiet _ _) hrun
  | evexBitwise op quad len => exact H.masked_merged (H.vexSources_quiet _ _) hrun
  | evexShiftImm op len => exact H.masked_merged (H.shiftImmSource_quiet _ _ _) hrun
  | evexShiftReg op len => exact H.masked_merged (H.shiftRegSource_quiet _ _ _) hrun

end IntCode

end Seven
