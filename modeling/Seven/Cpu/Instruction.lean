import Seven.Cpu.State

/-!
# Decoded instructions

The decoder is third-party; what the core sees of a decoded instruction is
the record `Instruction` of the accessors it calls. `Register` groups the
decoder's register numbers into the families the core distinguishes, and
`Code` lists the instruction forms whose handlers are modelled, grouped the
way the handlers are written: a family of forms is one constructor with the
parameters that tell its members apart (`alu .add .rm8R8` is `ADD_RM8_R8`).
Every other form is `other` with its number.
-/

namespace Seven

/-! ## Registers and operands -/

/-- The register families of `read_register`: general registers by width and
index, the four high bytes, and the files that are indexed directly. -/
inductive Register where
  | none
  | r8 (i : Fin 16)
  /-- AH, CH, DH, BH. -/
  | r8h (i : Fin 4)
  | r16 (i : Fin 16)
  | r32 (i : Fin 16)
  | r64 (i : Fin 16)
  | sreg (i : Fin 6)
  | cr (i : Fin 16)
  | dr (i : Fin 16)
  | tr (i : Fin 8)
  | mm (i : Fin 8)
  | other (n : Nat)
deriving DecidableEq, Repr

namespace Register

def al : Register := .r8 0
def ax : Register := .r16 0
def eax : Register := .r32 0
def rax : Register := .r64 0
def ah : Register := .r8h 0
def cl : Register := .r8 1
def cx : Register := .r16 1
def ecx : Register := .r32 1
def rcx : Register := .r64 1
def dx : Register := .r16 2
def edx : Register := .r32 2
def rdx : Register := .r64 2
def si : Register := .r16 6
def esi : Register := .r32 6
def rsi : Register := .r64 6
def di : Register := .r16 7
def edi : Register := .r32 7
def rdi : Register := .r64 7
def ss : Register := .sreg 2
def fs : Register := .sreg 4
def gs : Register := .sreg 5

end Register

/-- `OpKind`, as the decoder gives it. -/
inductive OpKind where
  | register
  | memory
  | immediate8
  | immediate8_2nd
  | immediate16
  | immediate32
  | immediate64
  | immediate8to16
  | immediate8to32
  | immediate8to64
  | immediate32to64
  | nearBranch16
  | nearBranch32
  | nearBranch64
  | other (n : Nat)
deriving DecidableEq, Repr

/-! ## Codes -/

/-- `PUSH`, `POP`, `CALL`, `RET`, `IRET` and the software interrupts. -/
inductive StackCode where
  | pushR16 | pushR32 | pushR64 | pushRm16 | pushRm32 | pushRm64
  | pushImm16 | pushwImm8 | pushdImm8 | pushdImm32 | pushqImm8 | pushqImm32
  | pushwEs | pushwCs | pushwSs | pushwDs | pushwFs | pushwGs
  | pushdEs | pushdCs | pushdSs | pushdDs | pushdFs | pushdGs
  | pushqFs | pushqGs
  | pushfw | pushfd | pushfq | pushaw | pushad
  | popR16 | popR32 | popR64 | popRm16 | popRm32 | popRm64 | popwSs | popdSs | popfq
  | callRm16 | callRm32 | callRm64 | callRel16 | callRel32_32 | callRel32_64
  | callM1616 | callM1632 | callM1664 | callPtr1616 | callPtr1632
  | retnw | retnd | retnq | retnwImm16 | retndImm16 | retnqImm16
  | retfw | retfd | retfq | retfwImm16 | retfdImm16 | retfqImm16
  | iretw | iretd | iretq
  | int1 | int3 | intImm8 | into
deriving DecidableEq, Repr

/-- The operations of `ADD`, `ADC`, `SUB`, `SBB`, `AND`, `OR`, `XOR`. -/
inductive AluOp where
  | add | adc | sub | sbb | and | or | xor
deriving DecidableEq, Repr

/-- Forms of a two-operand ALU instruction with an `RM` destination. -/
inductive AluForm where
  | rm8R8 | rm16R16 | rm32R32 | rm64R64
  | rm8Imm8 | rm8Imm8_82 | rm16Imm16 | rm32Imm32 | rm64Imm32
  | rm16Imm8 | rm32Imm8 | rm64Imm8
deriving DecidableEq, Repr

/-- `INC`, `DEC`, `NEG`, `NOT`. -/
inductive UnaryOp where
  | inc | dec | neg | not
deriving DecidableEq, Repr

/-- An `RM8`, `RM16`, `RM32` or `RM64` destination. -/
inductive RmWidth where
  | rm8 | rm16 | rm32 | rm64
deriving DecidableEq, Repr

/-- The destination of a double shift or a bit operation. -/
inductive RmWideWidth where
  | rm16 | rm32 | rm64
deriving DecidableEq, Repr

/-- The destination of a `CMPXCHG486`. -/
inductive RmNarrowWidth where
  | rm8 | rm16 | rm32
deriving DecidableEq, Repr

/-- The shifts and rotates; `SAL` is a code of its own. -/
inductive ShiftOp where
  | shl | sal | shr | sar | rol | ror | rcl | rcr
deriving DecidableEq, Repr

/-- Where a shift takes its count from. -/
inductive ShiftCountSource where
  | one | cl | imm8
deriving DecidableEq, Repr

/-- The count of a double shift: `CL` or the immediate. -/
inductive DoubleShiftCount where
  | cl | imm8
deriving DecidableEq, Repr

/-- `SHLD` and `SHRD`. -/
inductive DoubleShiftOp where
  | shld | shrd
deriving DecidableEq, Repr

/-- The bit instructions that write. -/
inductive BitOp where
  | bts | btr | btc
deriving DecidableEq, Repr

/-- The bit index of a bit operation: the immediate or the register. -/
inductive BitIndexSource where
  | imm8 | reg
deriving DecidableEq, Repr

/-- ALU instructions that read, modify and write one operand. -/
inductive RmwCode where
  | alu (op : AluOp) (form : AluForm)
  | unary (op : UnaryOp) (width : RmWidth)
  | shift (op : ShiftOp) (width : RmWidth) (source : ShiftCountSource)
  | doubleShift (op : DoubleShiftOp) (width : RmWideWidth) (source : DoubleShiftCount)
  | xadd (width : RmWidth)
  | cmpxchg (width : RmWidth)
  | cmpxchg486 (width : RmNarrowWidth)
  | bit (op : BitOp) (width : RmWideWidth) (source : BitIndexSource)
deriving DecidableEq, Repr

/-- The string instructions. -/
inductive StringOp where
  | movs | stos | lods | cmps | scas
deriving DecidableEq, Repr

/-- `Code`, in families. -/
inductive Code where
  | invalid
  | stack (c : StackCode)
  | rmw (c : RmwCode)
  | string (op : StringOp) (width : RmWidth)
  | syscall
  | cpuid
  | rdtsc
  | rdtscp
  | other (n : Nat)
deriving DecidableEq, Repr

/-! ## The record -/

/-- What the core reads of a decoded instruction. Immediates are the
accessors' values, widened to 64 bits as the accessors widen them. -/
structure Instruction where
  code : Code
  length : Nat
  opKind : Nat → OpKind := fun _ => .register
  opRegister : Nat → Register := fun _ => .none
  memoryBase : Register := .none
  memoryIndex : Register := .none
  memoryIndexScale : U64 := 1#64
  memoryDisplacement64 : U64 := 0#64
  segmentPrefix : Register := .none
  isIpRelMemoryOperand : Bool := false
  ipRelMemoryAddress : U64 := 0#64
  immediate8 : U64 := 0#64
  immediate8_2nd : U64 := 0#64
  immediate16 : U64 := 0#64
  immediate32 : U64 := 0#64
  immediate64 : U64 := 0#64
  immediate8to16 : U64 := 0#64
  immediate8to32 : U64 := 0#64
  immediate8to64 : U64 := 0#64
  immediate32to64 : U64 := 0#64
  nearBranch16 : U64 := 0#64
  nearBranch32 : U64 := 0#64
  nearBranch64 : U64 := 0#64
  farBranchSelector : BitVec 16 := 0#16
  farBranch16 : U64 := 0#64
  farBranch32 : U64 := 0#64
  hasRepPrefix : Bool := false
  hasRepnePrefix : Bool := false

/-- The operand's bytes. -/
def RmWidth.bytes : RmWidth → Nat
  | .rm8 => 1
  | .rm16 => 2
  | .rm32 => 4
  | .rm64 => 8

/-- An operand has one to eight bytes. -/
theorem RmWidth.bytes_bounds (width : RmWidth) : 0 < width.bytes ∧ width.bytes ≤ 8 := by
  cases width <;> decide

/-- The operand's bytes. -/
def RmWideWidth.bytes : RmWideWidth → Nat
  | .rm16 => 2
  | .rm32 => 4
  | .rm64 => 8

/-- The operand's bytes. -/
def RmNarrowWidth.bytes : RmNarrowWidth → Nat
  | .rm8 => 1
  | .rm16 => 2
  | .rm32 => 4

end Seven
