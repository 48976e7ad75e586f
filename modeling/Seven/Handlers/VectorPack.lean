import Seven.Handlers.VectorInt

/-!
# Packs, unpacks and shuffles

`simd_pack.cpp` and `simd_shuffle.cpp` work on the 128-bit lanes of their
operands one after another. An element of the result is one of the sources,
narrowed by a pack; which one, is said by `PackOp.element` and
`ShuffleOp.pick`. No form looks at a mask register, those with a mask in
their name neither.
-/

namespace Seven

open Seven.Lib

/-! ## Packs and unpacks -/

/-- `sat_pack_signed`. -/
def satPackSigned {m : Nat} (w : Nat) (value : BitVec m) : BitVec w :=
  if (BitVec.intMax w).toInt < value.toInt then BitVec.intMax w
  else if value.toInt < (BitVec.intMin w).toInt then BitVec.intMin w
  else value.setWidth w

/-- `sat_pack_unsigned`. -/
def satPackUnsigned {m : Nat} (w : Nat) (value : BitVec m) : BitVec w :=
  if value.toInt < 0 then 0#w
  else if ((BitVec.allOnes w).toNat : Int) < value.toInt then BitVec.allOnes w
  else value.setWidth w

/-- Element `k` of a pack of the 128 bits at byte `o`: the elements of `lhs`,
then those of `rhs`, each narrowed to `size` bytes. -/
def packedElement (size : Nat) (narrow : BitVec (8 * (2 * size)) → BitVec (8 * size))
    (lhs rhs : BitVec 512) (o k : Nat) : BitVec (8 * size) :=
  narrow
    (if k < 8 / size then loadLane (2 * size) lhs (o + k * (2 * size))
     else loadLane (2 * size) rhs (o + (k - 8 / size) * (2 * size)))

/-- Element `k` of an unpack: the elements of one half, by turns. -/
def unpackedElement (size : Nat) (high : Bool) (lhs rhs : BitVec 512) (o k : Nat) :
    BitVec (8 * size) :=
  loadLane size (if k % 2 = 0 then lhs else rhs) (o + (if high then 8 else 0) + k / 2 * size)

/-- The operations with a form for a mask register. -/
inductive EvexPackOp where
  | packsswb | packuswb | punpcklbw | punpckhbw | punpcklwd | punpckhwd
deriving DecidableEq, Repr

/-- The packs and unpacks with a VEX form. -/
inductive VexPackOp where
  | evex (op : EvexPackOp)
  | packssdw | punpckldq | punpckhdq
deriving DecidableEq, Repr

/-- The packs and unpacks. -/
inductive PackOp where
  | vex (op : VexPackOp)
  | punpcklqdq | punpckhqdq
deriving DecidableEq, Repr

/-- The bytes of an element of the result. -/
def EvexPackOp.bytes : EvexPackOp → Nat
  | .packsswb | .packuswb | .punpcklbw | .punpckhbw => 1
  | .punpcklwd | .punpckhwd => 2

/-- The element's bytes. -/
def VexPackOp.bytes : VexPackOp → Nat
  | .evex op => op.bytes
  | .packssdw => 2
  | .punpckldq | .punpckhdq => 4

/-- The element's bytes. -/
def PackOp.bytes : PackOp → Nat
  | .vex op => op.bytes
  | .punpcklqdq | .punpckhqdq => 8

/-- Element `k` of the lane at byte `o`. -/
def EvexPackOp.element (lhs rhs : BitVec 512) (o k : Nat) :
    (op : EvexPackOp) → BitVec (8 * op.bytes)
  | .packsswb => packedElement 1 (satPackSigned _) lhs rhs o k
  | .packuswb => packedElement 1 (satPackUnsigned _) lhs rhs o k
  | .punpcklbw => unpackedElement 1 false lhs rhs o k
  | .punpckhbw => unpackedElement 1 true lhs rhs o k
  | .punpcklwd => unpackedElement 2 false lhs rhs o k
  | .punpckhwd => unpackedElement 2 true lhs rhs o k

/-- Element `k` of the lane at byte `o`. -/
def VexPackOp.element (lhs rhs : BitVec 512) (o k : Nat) :
    (op : VexPackOp) → BitVec (8 * op.bytes)
  | .evex op => op.element lhs rhs o k
  | .packssdw => packedElement 2 (satPackSigned _) lhs rhs o k
  | .punpckldq => unpackedElement 4 false lhs rhs o k
  | .punpckhdq => unpackedElement 4 true lhs rhs o k

/-- Element `k` of the lane at byte `o`. -/
def PackOp.element (lhs rhs : BitVec 512) (o k : Nat) : (op : PackOp) → BitVec (8 * op.bytes)
  | .vex op => op.element lhs rhs o k
  | .punpcklqdq => unpackedElement 8 false lhs rhs o k
  | .punpckhqdq => unpackedElement 8 true lhs rhs o k

/-- The elements of one lane, from an empty result. -/
def packLanePair (size : Nat) (element : Nat → BitVec (8 * size)) : BitVec 512 :=
  updateLanes size (16 / size) (fun k => some (element k)) 0#512

/-! ## Shuffles -/

/-- The shuffles of two sources. -/
inductive ShuffleOp where
  | unpcklps | unpcklpd | unpckhps | unpckhpd | shufps | shufpd
deriving DecidableEq, Repr

/-- The element's bytes. -/
def ShuffleOp.bytes : ShuffleOp → Nat
  | .unpcklps | .unpckhps | .shufps => 4
  | .unpcklpd | .unpckhpd | .shufpd => 8

/-- The element that position `k` takes, and whether from the right-hand
side. -/
def ShuffleOp.pick (imm : U64) (k : Nat) : ShuffleOp → Bool × Nat
  | .unpcklps => (k % 2 == 1, k / 2)
  | .unpcklpd => (k % 2 == 1, 0)
  | .unpckhps => (k % 2 == 1, 2 + k / 2)
  | .unpckhpd => (k % 2 == 1, 1)
  | .shufps => (decide (2 ≤ k), ((imm >>> (2 * k)) &&& 3#64).toNat)
  | .shufpd => (k % 2 == 1, ((imm >>> k) &&& 1#64).toNat)

/-- The shuffles of one source. -/
inductive PermuteOp where
  | pshufd | pshuflw | pshufhw | movsldup | movshdup
deriving DecidableEq, Repr

/-- The element's bytes. -/
def PermuteOp.bytes : PermuteOp → Nat
  | .pshufd | .movsldup | .movshdup => 4
  | .pshuflw | .pshufhw => 2

/-- The element the immediate picks for place `k`. -/
def PermuteOp.pick (imm : U64) (k : Nat) : PermuteOp → Nat
  | .pshufd => ((imm >>> (2 * k)) &&& 3#64).toNat
  | .pshuflw => if k < 4 then ((imm >>> (2 * k)) &&& 3#64).toNat else k
  | .pshufhw => if k < 4 then k else 4 + ((imm >>> (2 * (k - 4))) &&& 3#64).toNat
  | .movsldup => k / 2 * 2
  | .movshdup => k / 2 * 2 + 1

/-- Every lane of 16 bytes from the elements at the same place in the
sources, from `out` on. -/
def shuffleLanes (size width : Nat) (pick : Nat → Bool × Nat) (lhs rhs out : BitVec 512) :
    BitVec 512 :=
  updateLanes size (width / size)
    (fun k =>
      let source := pick (k % (16 / size))
      some (loadLane size (if source.1 then rhs else lhs)
        (k / (16 / size) * 16 + source.2 * size))) out

namespace X87Host

variable (H : X87Host)

/-! ## The families -/

/-- `legacy_pack` and `legacy_unpack`. -/
def legacyPack (size : Nat) (element : BitVec 512 → BitVec 512 → Nat → Nat → BitVec (8 * size)) :
    Handler :=
  H.toVector false fun dst => do
    let lhs := H.readVec (← get).state dst
    let rhs ← H.readVectorOperand 1 16
    return 0#512 ||| packLanePair size (element lhs rhs 0)

/-- The two sources, lane by lane. -/
def packSources (size : Nat) (element : BitVec 512 → BitVec 512 → Nat → Nat → BitVec (8 * size))
    (dst : Register) : HandlerM (BitVec 512) := do
  let lhs ← H.readVectorOperand 1 (H.vectorWidth dst)
  let rhs ← H.readVectorOperand 2 (H.vectorWidth dst)
  return stackLanes 128 (H.vectorWidth dst / 16) fun k =>
    packLanePair size (element lhs rhs (k * 16))

/-- `vex_pack` and `vex_unpack`. -/
def vexPack (size : Nat) (element : BitVec 512 → BitVec 512 → Nat → Nat → BitVec (8 * size)) :
    Handler :=
  H.toVector true (H.packSources size element)

/-- The legacy shuffles. -/
def legacyBinaryLanewise (size : Nat) (pick : U64 → Nat → Bool × Nat) : Handler :=
  H.toVector false fun dst => do
    let ctx ← get
    let lhs := H.readVec ctx.state dst
    let rhs ← H.readVectorOperand 1 (H.vectorWidth dst)
    return shuffleLanes size (H.vectorWidth dst) (pick ctx.instr.immediate8) lhs rhs lhs

/-- The VEX shuffles. -/
def vexBinaryLanewise (size : Nat) (pick : U64 → Nat → Bool × Nat) : Handler :=
  H.toVector true fun dst => do
    let imm := (← get).instr.immediate8
    let lhs ← H.readVectorOperand 1 (H.vectorWidth dst)
    let rhs ← H.readVectorOperand 2 (H.vectorWidth dst)
    return shuffleLanes size (H.vectorWidth dst) (pick imm) lhs rhs 0#512

/-- `legacy_unary_lanewise` and `vex_unary_lanewise`. -/
def unaryLanewise (size : Nat) (pick : U64 → Nat → Nat) (zeroUpper : Bool) : Handler :=
  H.toVector zeroUpper fun dst => do
    let imm := (← get).instr.immediate8
    let src ← H.readVectorOperand 1 (H.vectorWidth dst)
    return shuffleLanes size (H.vectorWidth dst) (fun k => (false, pick imm k)) src src 0#512

/-- `MOVDDUP`: the low double, twice. -/
def duplicateLowDouble (zeroUpper : Bool) : Handler :=
  H.toVector zeroUpper fun dst => do
    let src ← H.readVectorOperand 1 8
    return updateLanes 8 (H.vectorWidth dst / 8) (fun _ => some (loadLane 8 src 0)) 0#512

end X87Host

/-! ## The codes -/

/-- The codes. -/
inductive PackCode where
  | pack (op : PackOp)
  | vexPack (op : VexPackOp) (len : VexLength)
  /-- `EVEX_VPACKSSWB_XMM_K1Z_XMM_XMMM128` and its like. -/
  | evexPack (op : EvexPackOp) (len : VectorLength)
  | shuffle (op : ShuffleOp)
  | permute (op : PermuteOp)
  | movddup
  /-- `VUNPCKLPS`, `VUNPCKLPD`, `VUNPCKHPS`, `VUNPCKHPD`. -/
  | vexUnpck (high double : Bool) (len : VexLength)
  /-- `VMOVSLDUP` and, of the odd elements, `VMOVSHDUP`. -/
  | vexMovdup (odd : Bool) (len : VexLength)
  | vexMovddup (len : VexLength)
deriving DecidableEq, Repr

namespace PackCode

/-- The encodings without VEX. -/
def legacy : PackCode → Bool
  | .pack _ | .shuffle _ | .permute _ | .movddup => true
  | _ => false

/-- The vector length. -/
def length : PackCode → VectorLength
  | .vexPack _ len | .vexUnpck _ _ len | .vexMovdup _ len | .vexMovddup len => len.length
  | .evexPack _ len => len
  | _ => .xmm

/-- The legacy instruction that a VEX form is of. -/
def unpckOp (high double : Bool) : ShuffleOp :=
  if high then (if double then .unpckhpd else .unpckhps)
  else if double then .unpcklpd else .unpcklps

/-- `MOVSHDUP` and `MOVSLDUP`. -/
def movdupOp (odd : Bool) : PermuteOp := if odd then .movshdup else .movsldup

/-- The handler of a code. -/
def handler (H : X87Host) : PackCode → Handler
  | .pack op => H.legacyPack op.bytes fun lhs rhs o k => op.element lhs rhs o k
  | .vexPack op _ => H.vexPack op.bytes fun lhs rhs o k => op.element lhs rhs o k
  | .evexPack op _ => H.vexPack op.bytes fun lhs rhs o k => op.element lhs rhs o k
  | .shuffle op => H.legacyBinaryLanewise op.bytes fun imm k => op.pick imm k
  | .permute op => H.unaryLanewise op.bytes (fun imm k => op.pick imm k) false
  | .movddup => H.duplicateLowDouble false
  | .vexUnpck high double _ =>
    H.vexBinaryLanewise (unpckOp high double).bytes fun imm k => (unpckOp high double).pick imm k
  | .vexMovdup odd _ =>
    H.unaryLanewise (movdupOp odd).bytes (fun imm k => (movdupOp odd).pick imm k) true
  | .vexMovddup .xmm => H.duplicateLowDouble true
  | .vexMovddup .ymm => H.unaryLanewise 8 (fun _ _ => 0) true

end PackCode

/-! ## What the forms leave -/

namespace X87Host

variable (H : X87Host)

/-- The sources are read without a change. -/
theorem packSources_quiet (size : Nat)
    (element : BitVec 512 → BitVec 512 → Nat → Nat → BitVec (8 * size)) (dst : Register) :
    Quiet (H.packSources size element dst) :=
  Quiet.bind (H.readVectorOperand_quiet _ _) fun _ =>
    Quiet.bind (H.readVectorOperand_quiet _ _) fun _ => Quiet.pure _

/-- The legacy packs keep the bits above. -/
theorem legacyPack_merged {size : Nat}
    {element : BitVec 512 → BitVec 512 → Nat → Nat → BitVec (8 * size)} {ctx ctx' : ExecutionContext}
    (hrun : H.legacyPack size element ctx = .ok () ctx') : H.LeavesMerged ctx ctx' 0 false := by
  unfold legacyPack at hrun
  refine H.toVector_merged (fun dst => .of_quiet ?_) hrun
  exact Quiet.bind Quiet.get fun _ => Quiet.bind (H.readVectorOperand_quiet _ _) fun _ => Quiet.pure _

/-- The VEX packs clear them. -/
theorem vexPack_merged {size : Nat}
    {element : BitVec 512 → BitVec 512 → Nat → Nat → BitVec (8 * size)} {ctx ctx' : ExecutionContext}
    (hrun : H.vexPack size element ctx = .ok () ctx') : H.LeavesMerged ctx ctx' 0 true := by
  unfold vexPack at hrun
  exact H.toVector_merged (fun dst => .of_quiet (H.packSources_quiet _ _ dst)) hrun

/-- The legacy shuffles keep them. -/
theorem legacyBinaryLanewise_merged {size : Nat} {pick : U64 → Nat → Bool × Nat}
    {ctx ctx' : ExecutionContext} (hrun : H.legacyBinaryLanewise size pick ctx = .ok () ctx') :
    H.LeavesMerged ctx ctx' 0 false := by
  unfold legacyBinaryLanewise at hrun
  refine H.toVector_merged (fun dst => .of_quiet ?_) hrun
  exact Quiet.bind Quiet.get fun _ => Quiet.bind (H.readVectorOperand_quiet _ _) fun _ => Quiet.pure _

/-- The VEX shuffles clear them. -/
theorem vexBinaryLanewise_merged {size : Nat} {pick : U64 → Nat → Bool × Nat}
    {ctx ctx' : ExecutionContext} (hrun : H.vexBinaryLanewise size pick ctx = .ok () ctx') :
    H.LeavesMerged ctx ctx' 0 true := by
  unfold vexBinaryLanewise at hrun
  refine H.toVector_merged (fun dst => .of_quiet ?_) hrun
  exact Quiet.bind Quiet.get fun _ => Quiet.bind (H.readVectorOperand_quiet _ _) fun _ =>
    Quiet.bind (H.readVectorOperand_quiet _ _) fun _ => Quiet.pure _

/-- A permutation of one source keeps or clears them. -/
theorem unaryLanewise_merged {size : Nat} {pick : U64 → Nat → Nat} {zeroUpper : Bool}
    {ctx ctx' : ExecutionContext} (hrun : H.unaryLanewise size pick zeroUpper ctx = .ok () ctx') :
    H.LeavesMerged ctx ctx' 0 zeroUpper := by
  unfold unaryLanewise at hrun
  refine H.toVector_merged (fun dst => .of_quiet ?_) hrun
  exact Quiet.bind Quiet.get fun _ => Quiet.bind (H.readVectorOperand_quiet _ _) fun _ => Quiet.pure _

/-- So does `MOVDDUP`. -/
theorem duplicateLowDouble_merged {zeroUpper : Bool} {ctx ctx' : ExecutionContext}
    (hrun : H.duplicateLowDouble zeroUpper ctx = .ok () ctx') :
    H.LeavesMerged ctx ctx' 0 zeroUpper := by
  unfold duplicateLowDouble at hrun
  refine H.toVector_merged (fun dst => .of_quiet ?_) hrun
  exact Quiet.bind (H.readVectorOperand_quiet _ _) fun _ => Quiet.pure _

end X87Host

/-- **What a pack or a shuffle leaves.** -/
theorem PackCode.leaves (H : X87Host) (c : PackCode) {ctx ctx' : ExecutionContext}
    (hrun : c.handler H ctx = .ok () ctx') : H.LeavesMerged ctx ctx' 0 (!c.legacy) := by
  unfold handler at hrun
  cases c with
  | pack op => exact H.legacyPack_merged hrun
  | vexPack op len => exact H.vexPack_merged hrun
  | evexPack op len => exact H.vexPack_merged hrun
  | shuffle op => exact H.legacyBinaryLanewise_merged hrun
  | permute op => exact H.unaryLanewise_merged hrun
  | movddup => exact H.duplicateLowDouble_merged hrun
  | vexUnpck high double len => exact H.vexBinaryLanewise_merged hrun
  | vexMovdup odd len => exact H.unaryLanewise_merged hrun
  | vexMovddup len =>
    cases len with
    | xmm => exact H.duplicateLowDouble_merged hrun
    | ymm => exact H.unaryLanewise_merged hrun

end Seven
