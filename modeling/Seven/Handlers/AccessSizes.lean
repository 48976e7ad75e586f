import Seven.Handlers.StringAccess

/-!
# The sizes of data accesses

What a program asks the memory for has at least one byte and less than 2^64
(`DataOp.Sized`), whatever the registers and the memory hold. For the stack,
read-modify-write and string instructions this is read off their programs,
helper by helper.
-/

namespace Seven

open Seven.Lib

/-- A size of an access that a `size_t` holds. -/
def SizeOk (n : Nat) : Prop := 1 ≤ n ∧ n < 2 ^ 64

instance (n : Nat) : Decidable (SizeOk n) := inferInstanceAs (Decidable (_ ∧ _))

/-- One to eight bytes. -/
theorem SizeOk.of_le {n : Nat} (h : 0 < n ∧ n ≤ 8) : SizeOk n := ⟨h.1, by omega⟩

/-- A slot has a fit size. -/
theorem StackWidth.sizeOk (w : StackWidth) : SizeOk w.bytes := by
  cases w <;> decide

/-- The size an operation asks for. -/
def DataOp.Sized : DataOp → Prop
  | .load _ size => SizeOk size
  | .store _ bytes => SizeOk bytes.length
  | _ => True

namespace AccessM

variable {α β : Type}

/-- Every access of the program has a size. -/
abbrev Sized (p : AccessM α) : Prop := Requests.Asks DataOp.Sized p

/-! ## Helpers -/

/-- A value asks for nothing. -/
theorem sized_pure (a : α) : Sized (pure a) := Requests.Asks.pure a

/-- One after the other. -/
theorem Sized.bind {p : AccessM α} {f : α → AccessM β} (h : Sized p) (h' : ∀ a, Sized (f a)) :
    Sized (p >>= f) := Requests.Asks.bind h h'

/-- A look asks for nothing. -/
theorem sized_look : Sized look := Requests.Asks.request trivial

/-- A change asks for nothing. -/
theorem sized_change (f : ExecutionContext → ExecutionContext) : Sized (change f) :=
  Requests.Asks.request trivial

theorem sized_modifyState (f : CpuState → CpuState) : Sized (modifyState f) := sized_change _

theorem sized_takeControlFlow : Sized takeControlFlow := sized_change _

/-- The end asks for nothing. -/
theorem sized_raise (r : ExecutionResult) : Sized (raise r : AccessM α) :=
  ⟨trivial, fun x => x.elim⟩

theorem sized_faultHere (reason : StopReason) (errorCode : BitVec 32) :
    Sized (faultHere reason errorCode : AccessM α) := sized_look.bind fun _ => sized_raise _

theorem sized_memoryFault (form : AddressForm) : Sized (memoryFault form : AccessM α) :=
  sized_look.bind fun _ => sized_raise _

/-- A load of a fit size. -/
theorem sized_load (form : AddressForm) {size : Nat} (h : SizeOk size) : Sized (load form size) :=
  Requests.Asks.request h

/-- A store of a fit size. -/
theorem sized_store (form : AddressForm) (value : U64) {width : Nat} (h : SizeOk width) :
    Sized (store form (toBytes value width)) := by
  refine Requests.Asks.request ?_
  show SizeOk (toBytes value width).length
  rw [toBytes_length]
  exact h

theorem sized_readMemoryChecked (form : AddressForm) {width : Nat} (h : SizeOk width) :
    Sized (readMemoryChecked form width) := by
  refine (sized_load form h).bind fun bytes => ?_
  cases bytes with
  | some bytes => exact sized_pure _
  | none => exact sized_memoryFault form

theorem sized_writeMemoryChecked (form : AddressForm) (value : U64) {width : Nat}
    (h : SizeOk width) : Sized (writeMemoryChecked form value width) :=
  (sized_store form value h).bind fun _ => (sized_pure _).ite (sized_memoryFault form)

/-- An operand read of a fit size. -/
theorem sized_readOperand (operandIndex : Nat) {width : Nat} (h : SizeOk width) :
    Sized (readOperand operandIndex width) := by
  refine sized_look.bind fun ctx => ?_
  split
  next => exact sized_pure _
  next => exact (sized_load _ h).bind fun _ => sized_pure _
  next => exact sized_pure _

/-- An operand write of a fit size. -/
theorem sized_writeOperand (operandIndex : Nat) (value : U64) {width : Nat} (h : SizeOk width) :
    Sized (writeOperand operandIndex value width) := by
  refine sized_look.bind fun ctx => ?_
  split
  next => exact (sized_modifyState _).bind fun _ => sized_pure _
  next => exact sized_store _ _ h
  next => exact sized_pure _

theorem sized_readOperandChecked (operandIndex : Nat) {width : Nat} (h : SizeOk width) :
    Sized (readOperandChecked operandIndex width) := by
  refine (sized_readOperand operandIndex h).bind fun value => ?_
  cases value with
  | some value => exact sized_pure _
  | none => exact sized_memoryFault _

theorem sized_writeOperandChecked (operandIndex : Nat) (value : U64) {width : Nat}
    (h : SizeOk width) : Sized (writeOperandChecked operandIndex value width) :=
  (sized_writeOperand operandIndex value h).bind fun _ => (sized_pure _).ite (sized_memoryFault _)

/-! ## Stack and interrupts -/

/-- A push: widths that are refused never reach the memory. -/
theorem sized_pushSlot {widths : List Nat} (hwidths : ∀ w ∈ widths, SizeOk w)
    {refuse : AccessM Unit} (hrefuse : Sized refuse) (value : U64) (width : Nat) :
    Sized (pushSlot widths refuse value width) := by
  refine (sized_modifyState _).bind fun _ => ?_
  split
  next h => exact sized_writeMemoryChecked _ _ (hwidths width h)
  next => exact hrefuse

theorem sized_pushWidth (value : U64) (width : Nat) : Sized (pushWidth value width) :=
  sized_pushSlot (by decide) (sized_faultHere _ _) value width

theorem sized_popWidth (width : Nat) : Sized (popWidth width) := by
  unfold popWidth
  split
  next h =>
    have hwidths : ∀ w ∈ [1, 2, 4, 8], SizeOk w := by decide
    exact (sized_readMemoryChecked _ (hwidths width h)).bind fun _ =>
      (sized_modifyState _).bind fun _ => sized_pure _
  next => exact sized_faultHere _ _

theorem sized_pushAllOf {widths : List Nat} (hwidths : ∀ w ∈ widths, SizeOk w)
    {refuse : AccessM Unit} (hrefuse : Sized refuse) (values : List (U64 × Nat)) :
    Sized (pushAllOf widths refuse values) := by
  induction values with
  | nil => exact sized_pure _
  | cons head rest ih => exact (sized_pushSlot hwidths hrefuse _ _).bind fun _ => ih

theorem sized_descriptorGate (vector : BitVec 8) (targetRip descriptor : U64) :
    Sized (descriptorGate vector targetRip descriptor) := (sized_faultHere _ _).ite (sized_pure _)

/-- The two words of a gate. -/
theorem sized_readGate (vector : BitVec 8) : Sized (readGate vector) := by
  refine sized_look.bind fun ctx => ?_
  dsimp only
  split
  next => exact sized_faultHere _ _
  next =>
    split
    next =>
      exact (sized_readMemoryChecked _ (by decide)).bind fun _ =>
        (sized_readMemoryChecked _ (by decide)).bind fun _ => sized_pure _
    next =>
      exact (sized_readMemoryChecked _ (by decide)).bind fun _ => sized_descriptorGate _ _ _
    next =>
      exact (sized_readMemoryChecked _ (by decide)).bind fun _ =>
        (sized_readMemoryChecked _ (by decide)).bind fun _ => sized_descriptorGate _ _ _

theorem sized_dispatchInterrupt (vector : BitVec 8) (returnRip : U64)
    (errorCode : Option (BitVec 32)) (pushRfInFrame : Bool) :
    Sized (dispatchInterrupt vector returnRip errorCode pushRfInFrame) :=
  (sized_readGate vector).bind fun _ => sized_look.bind fun _ =>
    (sized_pushAllOf (by decide) (sized_faultHere _ _) _).bind fun _ =>
      (sized_modifyState _).bind fun _ => sized_takeControlFlow

theorem sized_jumpTo (target : U64) : Sized (jumpTo target) :=
  (sized_modifyState _).bind fun _ => sized_takeControlFlow

theorem sized_callRmWidth (w : StackWidth) : Sized (callRmWidth w.bytes) := by
  refine Sized.bind ?_ fun target => sized_look.bind fun _ =>
    (sized_pushWidth _ _).bind fun _ => sized_jumpTo target
  exact sized_look.bind fun _ => (sized_pure _).ite (sized_readOperandChecked 0 w.sizeOk)

theorem sized_farJumpTo (mode : ExecutionMode) (selector : BitVec 16) (target : U64) :
    Sized (farJumpTo mode selector target) :=
  (sized_modifyState _).bind fun _ => sized_takeControlFlow

theorem sized_pushFarReturn (selector : BitVec 16) (offset : U64) (offsetWidth : Nat) :
    Sized (pushFarReturn selector offset offsetWidth) :=
  sized_pushAllOf (by decide) (sized_faultHere _ _) _

end AccessM

/-- The immediates of the pushes have a size. -/
def StackShape.SizesOk : StackShape → Prop
  | .pushImm immWidth _ _ => SizeOk immWidth
  | _ => True

/-- Every stack code's widths are fit. -/
theorem StackCode.sizesOk (c : StackCode) : c.shape.SizesOk := by
  cases c <;> trivial

open AccessM in
/-- Every stack program asks for fit sizes. -/
theorem StackShape.sized_program {shape : StackShape} (h : shape.SizesOk) :
    shape.program.Sized := by
  -- One case a shape: every access is of a width between one and eight bytes.
  cases shape with
  | pushOperand w =>
    exact (sized_readOperandChecked 0 w.sizeOk).bind fun _ => sized_pushWidth _ _
  | pushImm i w sx => exact (sized_readOperandChecked 0 h).bind fun _ => sized_pushWidth _ _
  | pushSegment i w =>
    show Sized (AccessM.pushSegment i w.bytes)
    unfold AccessM.pushSegment
    split
    next => exact sized_look.bind fun _ => sized_pushWidth _ _
    next => exact sized_faultHere _ _
  | pushFlags w => exact sized_look.bind fun _ => sized_pushWidth _ _
  | pushAll w =>
    exact sized_look.bind fun _ => sized_pushAllOf (by decide) (sized_faultHere _ _) _
  | popOperand w =>
    exact sized_look.bind fun _ => (sized_popWidth _).bind fun _ =>
      (sized_writeOperandChecked 0 _ w.sizeOk).bind fun _ => sized_change _
  | popfq =>
    exact (sized_readMemoryChecked _ (by decide)).bind fun _ => sized_modifyState _
  | callRm w => exact sized_callRmWidth w
  | callRm32 =>
    exact sized_look.bind fun _ => (sized_callRmWidth .w64).ite (sized_callRmWidth .w32)
  | callRel w =>
    exact sized_look.bind fun _ => (sized_pushWidth _ _).bind fun _ => sized_jumpTo _
  | callFarMem w =>
    refine Sized.bind ?_ fun _ => sized_look.bind fun _ =>
      (sized_pushFarReturn _ _ _).bind fun _ => sized_farJumpTo _ _ _
    exact (sized_readOperandChecked 0 w.sizeOk).bind fun _ =>
      (sized_readMemoryChecked _ (by decide)).bind fun _ => sized_pure _
  | callFarPtr w =>
    exact sized_look.bind fun _ => (sized_pushFarReturn _ _ _).bind fun _ => sized_farJumpTo _ _ _
  | ret w withImm =>
    exact (sized_popWidth _).bind fun _ => sized_look.bind fun _ =>
      (sized_modifyState _).bind fun _ => sized_takeControlFlow
  | retf w withImm =>
    exact (sized_popWidth _).bind fun _ => (sized_popWidth _).bind fun _ =>
      sized_look.bind fun _ => (sized_modifyState _).bind fun _ => sized_takeControlFlow
  | iret w =>
    exact (sized_popWidth _).bind fun _ => (sized_popWidth _).bind fun _ =>
      (sized_popWidth _).bind fun _ => (sized_modifyState _).bind fun _ => sized_takeControlFlow
  | int vector => exact sized_look.bind fun _ => sized_dispatchInterrupt _ _ _ _
  | into => exact sized_look.bind fun _ => (sized_dispatchInterrupt _ _ _ _).ite (sized_pure _)

namespace AccessM

/-! ## Read-modify-write -/

theorem sized_flagsThenWrite {width : Nat} (h : SizeOk width) (out : U64 × U64) :
    Sized (flagsThenWrite width out) :=
  (sized_modifyState _).bind fun _ => sized_writeOperandChecked 0 _ h

theorem sized_rmwOperand {width : Nat} (h : SizeOk width)
    (compute : ExecutionContext → U64 → U64 × U64) : Sized (rmwOperand width compute) :=
  (sized_readOperandChecked 0 h).bind fun _ => sized_look.bind fun _ => sized_flagsThenWrite h _

theorem sized_aluSource (form : AluForm) : Sized (aluSource form) := by
  refine sized_look.bind fun ctx => ?_
  split
  all_goals
    first
    | exact sized_readOperandChecked 1 (by decide)
    | exact sized_pure _

theorem sized_compareExchange (width : RmWidth) (flags : U64 → U64 → U64 → Bool → U64) :
    Sized (compareExchange width flags) := by
  have hw := SizeOk.of_le width.bytes_bounds
  refine (sized_readOperandChecked 0 hw).bind fun lhs => sized_look.bind fun ctx => ?_
  refine Requests.Asks.ite ?_ (sized_modifyState _)
  exact (sized_writeOperandChecked 0 _ hw).bind fun _ => sized_modifyState _

theorem sized_handleBit (op : BitOp) (width : RmWideWidth) (source : BitIndexSource) :
    Sized (handleBit op width source) := by
  have hw : SizeOk width.bytes := by cases width <;> decide
  refine sized_look.bind fun ctx => Requests.Asks.ite ?_ ?_
  · exact (sized_readMemoryChecked _ hw).bind fun _ =>
      (sized_writeMemoryChecked _ _ hw).bind fun _ => sized_modifyState _
  · exact (sized_readOperandChecked 0 hw).bind fun _ =>
      (sized_writeOperandChecked 0 _ hw).bind fun _ => sized_modifyState _

end AccessM

open AccessM in
/-- So does every read-modify-write program. -/
theorem RmwCode.sized_program (c : RmwCode) : c.program.Sized := by
  cases c with
  | alu op form =>
    have hw : SizeOk form.width := by cases form <;> decide
    exact (sized_readOperandChecked 0 hw).bind fun _ => (sized_aluSource form).bind fun _ =>
      sized_look.bind fun _ => sized_flagsThenWrite hw _
  | unary op width => exact sized_rmwOperand (SizeOk.of_le width.bytes_bounds) _
  -- The rotates are shifts of the same operand width.
  | shift op width source =>
    have hw := SizeOk.of_le width.bytes_bounds
    cases op <;> exact sized_rmwOperand hw _
  | doubleShift op width source =>
    have hw : SizeOk width.bytes := by cases width <;> decide
    exact sized_rmwOperand hw _
  | xadd width =>
    have hw := SizeOk.of_le width.bytes_bounds
    exact (sized_readOperandChecked 0 hw).bind fun _ => sized_look.bind fun _ =>
      (sized_flagsThenWrite hw _).bind fun _ => sized_writeOperandChecked 1 _ hw
  | cmpxchg width =>
    show (AccessM.handleCmpxchg width).Sized
    exact sized_compareExchange width _
  | cmpxchg486 width =>
    show (AccessM.handleCmpxchg486 width).Sized
    exact sized_compareExchange (narrowRm width) _
  | bit op width source => exact sized_handleBit op width source

namespace AccessM

/-! ## Strings -/

section strings

variable {width : Nat} (hwidth : SizeOk width) (cleanup : CpuState → CpuState)

include hwidth

theorem sized_loadOr (form : AddressForm) : Sized (loadOr cleanup form width) := by
  refine (sized_load form hwidth).bind fun bytes => ?_
  cases bytes with
  | some bytes => exact sized_pure _
  | none => exact sized_look.bind fun _ => (sized_modifyState _).bind fun _ => sized_raise _

theorem sized_storeOr (form : AddressForm) (value : U64) :
    Sized (storeOr cleanup form value width) :=
  (sized_store form value hwidth).bind fun _ => (sized_pure _).ite
    (sized_look.bind fun _ => (sized_modifyState _).bind fun _ => sized_raise _)

/-- So does one element of a string instruction. -/
theorem sized_stringElement (op : StringOp) (moved : StringPointers) :
    Sized (stringElement cleanup op width moved) := by
  have hhits (address : U64) : Sized (readHits address width) := sized_look.bind fun _ => sized_pure _
  have hstored (address : U64) : Sized (writeHits address width) :=
    sized_look.bind fun _ => sized_pure _
  refine sized_look.bind fun ctx => ?_
  cases op with
  | movs =>
    exact (sized_loadOr hwidth cleanup _).bind fun _ =>
      (sized_storeOr hwidth cleanup _ _).bind fun _ =>
        (hhits _).bind fun _ => (hstored _).bind fun _ => sized_pure _
  | stos => exact (sized_storeOr hwidth cleanup _ _).bind fun _ => hstored _
  | lods =>
    exact (sized_loadOr hwidth cleanup _).bind fun _ => (sized_modifyState _).bind fun _ => hhits _
  | cmps =>
    exact (sized_loadOr hwidth cleanup _).bind fun _ =>
      (sized_loadOr hwidth cleanup _).bind fun _ => (sized_modifyState _).bind fun _ =>
        (hhits _).bind fun _ => (hhits _).bind fun _ => sized_pure _
  | scas =>
    exact (sized_loadOr hwidth cleanup _).bind fun _ =>
      (sized_modifyState _).bind fun _ => hhits _

/-- And its loop, element by element. -/
theorem sized_stringLoop (op : StringOp) (rep repne df : Bool) (remaining : Nat)
    (moved : StringPointers) : Sized (stringLoop op width rep repne df remaining moved) := by
  induction remaining generalizing moved with
  | zero => exact sized_pure _
  | succ remaining ih =>
    exact sized_look.bind fun _ => (sized_stringElement hwidth _ op moved).bind fun _ =>
      sized_look.bind fun _ => (sized_change _).bind fun _ => (sized_modifyState _).ite (ih _)

theorem sized_stringImpl (op : StringOp) : Sized (stringImpl op width) :=
  sized_look.bind fun _ => sized_stringLoop hwidth op _ _ _ _ _

end strings

end AccessM

end Seven
