import Seven.Cpu.Float80

/-!
# The x87 register stack

The registers of the x87 are a stack over a ring of eight: ST(i) is the
physical register TOP + i. TOP is kept twice, in a field of its own and in
bits 11 to 13 of the status word, and each register has a tag, which says
whether it is empty, zero or neither.

`X87WellFormed` is the agreement of the two TOPs and the range of the tags;
every operation below keeps it. A push onto a register in use and a pop of an
empty one are refused.
-/

namespace Seven

/-- `0x3`, the tag of an empty register. -/
def kX87TagEmpty : BitVec 8 := 0x3#8

/-- The TOP field of a status word. -/
def topBits (statusWord : BitVec 16) : BitVec 8 := ((statusWord >>> 11) &&& 0x7#16).setWidth 8

namespace CpuState

/-- `x87_phys_index`. -/
def x87PhysIndex (s : CpuState) (stIndex : Nat) : Fin 8 := Fin.ofNat 8 (s.x87Top.toNat + stIndex % 256)

/-- `mmx_phys_index`. -/
def mmxPhysIndex (mmIndex : Nat) : Fin 8 := Fin.ofNat 8 mmIndex

/-- `x87_is_empty`. -/
def x87IsEmpty (s : CpuState) (stIndex : Nat) : Bool :=
  s.x87Tags (s.x87PhysIndex stIndex) == kX87TagEmpty

/-- `x87_get`. -/
def x87Get (s : CpuState) (stIndex : Nat) : Float80 := s.x87Stack (s.x87PhysIndex stIndex)

/-- A register and its tag. -/
def setX87Register (s : CpuState) (i : Fin 8) (value : Float80) (tag : BitVec 8) : CpuState :=
  { s with
    x87Stack := fun j => if j = i then value else s.x87Stack j
    x87Tags := fun j => if j = i then tag else s.x87Tags j }

/-- A tag replaced. -/
def setX87Tag (s : CpuState) (i : Fin 8) (tag : BitVec 8) : CpuState :=
  { s with x87Tags := fun j => if j = i then tag else s.x87Tags j }

/-- `x87_mark_empty`. -/
def x87MarkEmpty (s : CpuState) (stIndex : Nat) : CpuState :=
  s.setX87Tag (s.x87PhysIndex stIndex) kX87TagEmpty

/-- `set_x87_control_word`. -/
def setX87ControlWord (s : CpuState) (value : BitVec 16) : CpuState :=
  { s with x87ControlWord := value }

/-- `set_x87_status_word`: the top of the stack is read out of the word. -/
def setX87StatusWord (s : CpuState) (value : BitVec 16) : CpuState :=
  { s with x87StatusWord := value, x87Top := topBits value }

/-- `set_x87_top`: and the word is given the top. -/
def setX87Top (s : CpuState) (top : BitVec 8) : CpuState :=
  { s with
    x87Top := top &&& 0x7#8
    x87StatusWord :=
      (s.x87StatusWord &&& ~~~0x3800#16) ||| ((top &&& 0x7#8).setWidth 16 <<< 11) }

/-- `x87_swap`. -/
def x87Swap (s : CpuState) (stIndex : Nat) : CpuState :=
  let i0 := s.x87PhysIndex 0
  let iN := s.x87PhysIndex stIndex
  { s with
    x87Stack := fun j =>
      if j = iN then s.x87Stack i0 else if j = i0 then s.x87Stack iN else s.x87Stack j
    x87Tags := fun j =>
      if j = iN then s.x87Tags i0 else if j = i0 then s.x87Tags iN else s.x87Tags j }

/-- `x87_pop`: refused on an empty register. -/
def x87Pop (s : CpuState) : Bool × CpuState :=
  let top := Fin.ofNat 8 s.x87Top.toNat
  if s.x87Tags top = kX87TagEmpty then (false, s)
  else
    let s := s.setX87Tag top kX87TagEmpty
    (true, s.setX87Top ((s.x87Top + 1#8) &&& 0x7#8))

/-- `mmx_get`. -/
def mmxGet (s : CpuState) (mmIndex : Nat) : U64 := s.mmx (mmxPhysIndex mmIndex)

/-- `mmx_set`: the register becomes valid. -/
def mmxSet (s : CpuState) (mmIndex : Nat) (value : U64) : CpuState :=
  let i := mmxPhysIndex mmIndex
  { s with
    mmx := fun j => if j = i then value else s.mmx j
    x87Tags := fun j => if j = i then 0x0#8 else s.x87Tags j }

/-- `emms`. -/
def emms (s : CpuState) : CpuState := { s with x87Tags := fun _ => kX87TagEmpty }

variable (F : SoftFloat)

/-- `x87_reset`. -/
def x87Reset (s : CpuState) : CpuState :=
  { s with
    x87Stack := fun _ => F.zero
    x87Tags := fun _ => kX87TagEmpty
    x87Top := 0#8
    x87StatusWord := 0#16
    x87ControlWord := 0x037F#16 }

/-- The tag of a value. -/
def x87TagOf (value : Float80) : BitVec 8 := if F.isZero value then 0x1#8 else 0x0#8

/-- `x87_set`. -/
def x87Set (s : CpuState) (stIndex : Nat) (value : Float80) : CpuState :=
  s.setX87Register (s.x87PhysIndex stIndex) value (x87TagOf F value)

/-- `x87_push`: refused where the register above is in use. -/
def x87Push (s : CpuState) (value : Float80) : Bool × CpuState :=
  let newTop := (s.x87Top + 7#8) &&& 0x7#8
  let i := Fin.ofNat 8 newTop.toNat
  if s.x87Tags i ≠ kX87TagEmpty then (false, s)
  else (true, (s.setX87Register i value (x87TagOf F value)).setX87Top newTop)

end CpuState

/-! ## Well-formed stacks -/

/-- The top is a register number, the status word says so too, and every tag is one of three. -/
structure X87WellFormed (s : CpuState) : Prop where
  top_lt : s.x87Top < 8#8
  top_eq : s.x87Top = topBits s.x87StatusWord
  tags : ∀ i, s.x87Tags i = 0x0#8 ∨ s.x87Tags i = 0x1#8 ∨ s.x87Tags i = kX87TagEmpty

/-- The registers, their tags and TOP. -/
structure SameX87Registers (s t : CpuState) : Prop where
  stack : t.x87Stack = s.x87Stack
  tags : t.x87Tags = s.x87Tags
  top : t.x87Top = s.x87Top

/-- The relation composes. -/
theorem SameX87Registers.trans {s t u : CpuState} (h : SameX87Registers s t)
    (h' : SameX87Registers t u) : SameX87Registers s u :=
  ⟨h'.stack.trans h.stack, h'.tags.trans h.tags, h'.top.trans h.top⟩

/-- The top as the code extracts it. -/
theorem topBits_eq (sw : BitVec 16) : topBits sw = ((sw &&& 0x3800#16) >>> 11).setWidth 8 := by
  unfold topBits
  rw [BitVec.ushiftRight_and_distrib]
  rfl

/-- TOP depends on its own field only. -/
theorem topBits_congr {sw sw' : BitVec 16} (h : sw' &&& 0x3800#16 = sw &&& 0x3800#16) :
    topBits sw' = topBits sw := by
  rw [topBits_eq, topBits_eq, h]

/-- A mask that keeps the top bits keeps the top. -/
theorem topBits_and {sw mask : BitVec 16} (h : mask &&& 0x3800#16 = 0x3800#16) :
    topBits (sw &&& mask) = topBits sw := by
  apply topBits_congr
  rw [BitVec.and_assoc, h]

/-- Bits set elsewhere leave the top. -/
theorem topBits_or {sw bits : BitVec 16} (h : bits &&& 0x3800#16 = 0#16) :
    topBits (sw ||| bits) = topBits sw := by
  apply topBits_congr
  rw [BitVec.and_or_distrib_right, h, BitVec.or_zero]

/-- Three bits are below eight. -/
theorem and_seven_lt (b : BitVec 8) : b &&& 0x7#8 < 8#8 := by
  rw [BitVec.lt_def, BitVec.toNat_and]
  exact Nat.lt_of_le_of_lt Nat.and_le_right (by decide)

/-- The top is a register number. -/
theorem topBits_lt (sw : BitVec 16) : topBits sw < 8#8 := by
  have h : topBits sw = (sw >>> 11).setWidth 8 &&& 0x7#8 := by
    unfold topBits
    rw [BitVec.setWidth_and]
    rfl
  rw [h]
  exact and_seven_lt _

/-- The field that `setX87Top` writes is the one that is read. -/
theorem topBits_setX87Top (sw : BitVec 16) (top : BitVec 8) :
    topBits ((sw &&& ~~~0x3800#16) ||| ((top &&& 0x7#8).setWidth 16 <<< 11)) = top &&& 0x7#8 := by
  have hbits : ∀ b : BitVec 8, topBits ((b &&& 0x7#8).setWidth 16 <<< 11) = b &&& 0x7#8 := by
    decide +kernel
  refine (topBits_congr ?_).trans (hbits top)
  rw [BitVec.and_or_distrib_right, BitVec.and_assoc,
    show ~~~0x3800#16 &&& 0x3800#16 = 0#16 by decide, BitVec.and_zero, BitVec.zero_or]

namespace X87WellFormed

variable {s : CpuState} (h : X87WellFormed s)
include h

/-- A register set under a proper tag. -/
theorem setX87Register (i : Fin 8) (value : Float80) {tag : BitVec 8}
    (htag : tag = 0x0#8 ∨ tag = 0x1#8 ∨ tag = kX87TagEmpty) :
    X87WellFormed (s.setX87Register i value tag) := by
  refine ⟨h.top_lt, h.top_eq, fun j => ?_⟩
  show (if j = i then tag else s.x87Tags j) = _ ∨ (if j = i then tag else s.x87Tags j) = _ ∨
    (if j = i then tag else s.x87Tags j) = _
  by_cases hj : j = i
  · rw [if_pos hj]
    exact htag
  · rw [if_neg hj]
    exact h.tags j

/-- A proper tag set. -/
theorem setX87Tag (i : Fin 8) {tag : BitVec 8}
    (htag : tag = 0x0#8 ∨ tag = 0x1#8 ∨ tag = kX87TagEmpty) : X87WellFormed (s.setX87Tag i tag) :=
  ⟨h.top_lt, h.top_eq, (h.setX87Register i 0#80 htag).tags⟩

/-- A register marked empty. -/
theorem x87MarkEmpty (stIndex : Nat) : X87WellFormed (s.x87MarkEmpty stIndex) :=
  h.setX87Tag _ (Or.inr (Or.inr rfl))

/-- The control word does not matter. -/
theorem setX87ControlWord (value : BitVec 16) : X87WellFormed (s.setX87ControlWord value) :=
  ⟨h.top_lt, h.top_eq, h.tags⟩

/-- The status word brings its own top. -/
theorem setX87StatusWord (value : BitVec 16) : X87WellFormed (s.setX87StatusWord value) :=
  ⟨topBits_lt value, rfl, h.tags⟩

/-- The top brings its own status word. -/
theorem setX87Top (top : BitVec 8) : X87WellFormed (s.setX87Top top) :=
  ⟨and_seven_lt top, (topBits_setX87Top s.x87StatusWord top).symm, h.tags⟩

/-- An exchange moves tags only. -/
theorem x87Swap (stIndex : Nat) : X87WellFormed (s.x87Swap stIndex) := by
  refine ⟨h.top_lt, h.top_eq, fun j => ?_⟩
  obtain ⟨k, hk⟩ : ∃ k, (s.x87Swap stIndex).x87Tags j = s.x87Tags k := by
    show ∃ k, (if j = s.x87PhysIndex stIndex then s.x87Tags (s.x87PhysIndex 0)
      else if j = s.x87PhysIndex 0 then s.x87Tags (s.x87PhysIndex stIndex) else s.x87Tags j) = _
    split
    · exact ⟨_, rfl⟩
    · split <;> exact ⟨_, rfl⟩
  rw [hk]
  exact h.tags k

/-- A pop, refused or not. -/
theorem x87Pop : X87WellFormed s.x87Pop.2 := by
  unfold CpuState.x87Pop
  dsimp only
  split
  · exact h
  · exact (h.setX87Tag _ (Or.inr (Or.inr rfl))).setX87Top _

/-- An MMX write. -/
theorem mmxSet (mmIndex : Nat) (value : U64) : X87WellFormed (s.mmxSet mmIndex value) :=
  ⟨h.top_lt, h.top_eq, (h.setX87Register (CpuState.mmxPhysIndex mmIndex) 0#80 (Or.inl rfl)).tags⟩

/-- `EMMS`. -/
theorem emms : X87WellFormed s.emms := ⟨h.top_lt, h.top_eq, fun _ => Or.inr (Or.inr rfl)⟩

variable (F : SoftFloat)

omit h in
/-- `x87_tag_of` gives a proper tag. -/
theorem x87TagOf (value : Float80) : CpuState.x87TagOf F value = 0x0#8 ∨
    CpuState.x87TagOf F value = 0x1#8 ∨ CpuState.x87TagOf F value = kX87TagEmpty := by
  unfold CpuState.x87TagOf
  cases F.isZero value with
  | true => exact Or.inr (Or.inl rfl)
  | false => exact Or.inl rfl

omit h in
/-- The reset state. -/
theorem x87Reset : X87WellFormed (s.x87Reset F) := by
  have hlt : 0#8 < 8#8 := by decide
  have heq : 0#8 = topBits 0#16 := by decide
  exact ⟨hlt, heq, fun _ => Or.inr (Or.inr rfl)⟩

/-- A register set. -/
theorem x87Set (stIndex : Nat) (value : Float80) : X87WellFormed (s.x87Set F stIndex value) :=
  h.setX87Register _ _ (x87TagOf F value)

/-- A push, refused or not. -/
theorem x87Push (value : Float80) : X87WellFormed (s.x87Push F value).2 := by
  unfold CpuState.x87Push
  dsimp only
  split
  · exact h
  · exact (h.setX87Register _ _ (x87TagOf F value)).setX87Top _

/-- The status word may change outside of its TOP field. -/
theorem sameRegisters_setX87StatusWord {value : BitVec 16}
    (htop : topBits value = topBits s.x87StatusWord) :
    SameX87Registers s (s.setX87StatusWord value) :=
  ⟨rfl, rfl, htop.trans h.top_eq.symm⟩

end X87WellFormed

/-! ## A push and a pop -/

/-- A value is never tagged empty. -/
theorem x87TagOf_ne_empty (F : SoftFloat) (value : Float80) :
    CpuState.x87TagOf F value ≠ kX87TagEmpty := by
  unfold CpuState.x87TagOf
  split <;> decide

/-- A value on top of the stack, in the register that was ST(7). -/
def CpuState.x87Pushed (F : SoftFloat) (s : CpuState) (value : Float80) : CpuState :=
  (s.setX87Register (s.x87PhysIndex 7) value (CpuState.x87TagOf F value)).setX87Top
    ((s.x87Top + 7#8) &&& 0x7#8)

/-- The register below TOP, by the two ways its number is computed. -/
theorem below_top (s : CpuState) :
    Fin.ofNat 8 ((s.x87Top + 7#8) &&& 0x7#8).toNat = s.x87PhysIndex 7 := by
  have hall : ∀ top : BitVec 8,
      Fin.ofNat 8 ((top + 7#8) &&& 0x7#8).toNat = Fin.ofNat 8 (top.toNat + 7 % 256) := by
    decide +kernel
  exact hall s.x87Top

/-- A push where there is room. -/
theorem x87Push_room (F : SoftFloat) {s : CpuState} (hroom : s.x87IsEmpty 7 = true)
    (value : Float80) : s.x87Push F value = (true, s.x87Pushed F value) := by
  have htag : s.x87Tags (s.x87PhysIndex 7) = kX87TagEmpty := beq_iff_eq.mp hroom
  unfold CpuState.x87Push CpuState.x87Pushed
  dsimp only
  rw [below_top, if_neg (not_not_intro htag)]

section pushed

variable {F : SoftFloat} {s t : CpuState} {value : Float80}
  (hsame : SameX87Registers (s.x87Pushed F value) t)
include hsame

/-- ST(0) is the register that was ST(7). -/
theorem pushed_top : t.x87PhysIndex 0 = s.x87PhysIndex 7 := by
  have hall : ∀ top : BitVec 8, Fin.ofNat 8 ((((top + 7#8) &&& 0x7#8) &&& 0x7#8).toNat + 0 % 256) =
      Fin.ofNat 8 (top.toNat + 7 % 256) := by
    decide +kernel
  unfold CpuState.x87PhysIndex
  rw [hsame.top]
  exact hall s.x87Top

/-- The pushed value is on top. -/
theorem pushed_get : t.x87Get 0 = value := by
  unfold CpuState.x87Get
  rw [pushed_top hsame, hsame.stack]
  exact if_pos rfl

/-- The register taken is no longer empty. -/
theorem pushed_tag : t.x87Tags (s.x87PhysIndex 7) ≠ kX87TagEmpty := by
  rw [hsame.tags]
  show (if s.x87PhysIndex 7 = s.x87PhysIndex 7 then CpuState.x87TagOf F value else _) ≠ _
  rw [if_pos rfl]
  exact x87TagOf_ne_empty F value

/-- The top is in use after a push. -/
theorem pushed_used : t.x87IsEmpty 0 = false := by
  unfold CpuState.x87IsEmpty
  rw [pushed_top hsame]
  exact beq_eq_false_iff_ne.mpr (pushed_tag hsame)

/-- **A pop undoes a push**, as far as TOP and the tags go. -/
theorem x87Pop_pushed (hs : X87WellFormed s) (hroom : s.x87IsEmpty 7 = true) :
    ∃ u, t.x87Pop = (true, u) ∧ u.x87Tags = s.x87Tags ∧ u.x87Top = s.x87Top ∧
      topBits u.x87StatusWord = topBits s.x87StatusWord := by
  have htag : s.x87Tags (s.x87PhysIndex 7) = kX87TagEmpty := beq_iff_eq.mp hroom
  have hindex : Fin.ofNat 8 t.x87Top.toNat = s.x87PhysIndex 7 := pushed_top hsame
  -- The top goes down by one on the push and up by one on the pop, both modulo eight.
  have hback : ∀ top : BitVec 8, top < 8#8 →
      ((((top + 7#8) &&& 0x7#8) &&& 0x7#8) + 1#8) &&& 0x7#8 &&& 0x7#8 = top := by
    decide +kernel
  have htop : ((t.x87Top + 1#8) &&& 0x7#8) &&& 0x7#8 = s.x87Top := by
    rw [hsame.top]
    exact hback s.x87Top hs.top_lt
  refine ⟨(t.setX87Tag (s.x87PhysIndex 7) kX87TagEmpty).setX87Top ((t.x87Top + 1#8) &&& 0x7#8),
    ?_, ?_, htop, ?_⟩
  · unfold CpuState.x87Pop
    dsimp only
    rw [hindex, if_neg (pushed_tag hsame)]
    rfl
  · -- the tag of the pushed register is the only one that moved
    funext j
    show (if j = s.x87PhysIndex 7 then kX87TagEmpty else t.x87Tags j) = s.x87Tags j
    by_cases hj : j = s.x87PhysIndex 7
    · rw [if_pos hj, hj, htag]
    · rw [if_neg hj, hsame.tags]
      exact if_neg hj
  · rw [← hs.top_eq, ← htop]
    exact topBits_setX87Top _ _

end pushed

end Seven
