import Seven.Cpu.Plain
import Seven.Handlers.StackRestart

/-!
# Frames on a plain stack

A frame is a list of slots, pushed one below the other. Where the stack is
plain writable memory (`PlainFrame`), a frame is pushed whole and all of its
slots can be read back afterwards (`pushAllOf_holds`): a push stores below
everything pushed before it. The stack pointer wraps at the width of the mode,
and two slots stay apart because their bytes differ in the low sixteen bits of
their address, as long as the frame is shorter than `2 ^ 16`.

Going up again is `popped_rsp`: a pop that finds the stack pointer where a push
left it restores it, masked.
-/

namespace Seven

open Seven.Lib

/-! ## Frames -/

/-- Every slot of the frame is a plain span. -/
def PlainFrame (m : Memory) : CpuState → List (U64 × Nat) → Prop
  | _, [] => True
  | s, (_, width) :: rest =>
    m.PlainSpan (s.pushed width).rsp width ∧ PlainFrame m (s.pushed width) rest

/-- Every slot of the frame reads as what was pushed. -/
def HoldsFrame (m : Memory) : CpuState → List (U64 × Nat) → Prop
  | _, [] => True
  | s, (value, width) :: rest =>
    m.read (s.pushed width).rsp width .dataRead = some (toBytes value width) ∧
      HoldsFrame m (s.pushed width) rest

/-- The state below the frame. -/
def CpuState.pushedAll (s : CpuState) (slots : List (U64 × Nat)) : CpuState :=
  slots.foldl (fun s slot => s.pushed slot.2) s

/-- Plainness of a frame does not depend on the bytes. -/
theorem PlainFrame.sameAccess {m m' : Memory} (hsame : Memory.SameAccess m m') :
    ∀ {slots : List (U64 × Nat)} {s : CpuState}, PlainFrame m s slots → PlainFrame m' s slots
  | [], _, _ => trivial
  | (_, _) :: _, _, h => ⟨h.1.sameAccess hsame, PlainFrame.sameAccess hsame h.2⟩

/-- The low bits of an address in the slot that a push fills. -/
theorem low_pushed (s : CpuState) {width i : Nat} (hi : i < width) :
    ((s.pushed width).rsp + BitVec.ofNat 64 i).setWidth 16 =
      s.lowSp - BitVec.ofNat 16 (width - i) := by
  have hlow : (s.pushed width).rsp.setWidth 16 = s.lowSp - BitVec.ofNat 16 width :=
    lowSp_push s width
  have hnat := congrArg BitVec.toNat hlow
  have hb := s.lowSp.isLt
  apply BitVec.eq_of_toNat_eq
  simp only [BitVec.toNat_setWidth, BitVec.toNat_add, BitVec.toNat_sub, BitVec.toNat_ofNat] at hnat ⊢
  omega

variable {widths : List Nat} {refuse : Handler}

/-- **A frame on a plain stack is pushed whole and held.** The push changes
only bytes below the stack pointer, judged by the low bits of their address;
by this the slots pushed later leave the earlier ones alone. -/
theorem pushAllOf_holds :
    ∀ (slots : List (U64 × Nat)) (ctx : ExecutionContext), FrameWidths widths slots →
      frameSize slots < 2 ^ 16 → PlainFrame ctx.memory ctx.state slots →
      ∃ m, pushAllOf widths refuse slots ctx =
          .ok () { ctx with state := ctx.state.pushedAll slots, memory := m } ∧
        Memory.SameAccess ctx.memory m ∧ HoldsFrame m ctx.state slots ∧
        ∀ x : U64, (∀ e, 1 ≤ e → e ≤ frameSize slots →
            x.setWidth 16 ≠ ctx.state.lowSp - BitVec.ofNat 16 e) →
          byteAt m.pages x = byteAt ctx.memory.pages x := by
  intro slots
  induction slots with
  | nil =>
    intro ctx _ _ _
    exact ⟨ctx.memory, rfl, Memory.SameAccess.refl _, trivial, fun _ _ => rfl⟩
  | cons slot rest ih =>
    intro ctx hwidths hsize hplain
    obtain ⟨value, width⟩ := slot
    obtain ⟨hmem, hpos, hle⟩ := hwidths width List.mem_cons_self
    obtain ⟨hspan, hplainRest⟩ := hplain
    have hsum : frameSize ((value, width) :: rest) = width + frameSize rest := by
      simp only [frameSize, List.map_cons, List.sum_cons]
    obtain ⟨haccepts, hlanded, hkept⟩ := hspan.stored hpos hle value
    have hstored := ctx.memory.stored_sameAccess (ctx.state.pushed width).rsp value hle
    -- the first slot is stored; the induction pushes the others below it
    obtain ⟨m, hrun, hsame, hholds, hframe⟩ := ih
      { ctx with
        state := ctx.state.pushed width
        memory := ctx.memory.stored (ctx.state.pushed width).rsp value width }
      (fun w hw => hwidths w (List.mem_cons_of_mem _ hw)) (by omega)
      (hplainRest.sameAccess hstored)
    have hlow : (ctx.state.pushed width).lowSp = ctx.state.lowSp - BitVec.ofNat 16 width :=
      lowSp_push ctx.state width
    refine ⟨m, ?_, hstored.trans hsame, ⟨?_, hholds⟩, ?_⟩
    · exact (bind_ok (pushSlot_ok hmem haccepts)).trans hrun
    · -- the rest of the frame lies below this slot
      refine (hspan.sameAccess (hstored.trans hsame)).read hpos (toBytes_length value width) ?_
      intro i hi
      rw [hframe, hlanded i hi]
      intro e he he' heq
      rw [low_pushed ctx.state hi, hlow] at heq
      have hnat := congrArg BitVec.toNat heq
      have hb := ctx.state.lowSp.isLt
      simp only [BitVec.toNat_sub, BitVec.toNat_ofNat] at hnat
      omega
    · intro x hx
      rw [hframe, hkept]
      · intro i hi heq
        rw [← heq] at hx
        exact hx (width - i) (by omega) (by omega) (low_pushed ctx.state hi)
      · intro e he he' heq
        apply hx (width + e) (by omega) (by omega)
        rw [heq, hlow]
        have hb := ctx.state.lowSp.isLt
        apply BitVec.eq_of_toNat_eq
        simp only [BitVec.toNat_sub, BitVec.toNat_ofNat]
        omega

/-! ## Going up again -/

/-- The stack pointer is masked where a push left it. -/
theorem maskStackPointer_pushed {s t : CpuState} (hmode : t.mode = s.mode) (width : Nat) :
    maskStackPointer t (s.pushed width).rsp = (s.pushed width).rsp := by
  have hmask : maskStackPointer t = maskStackPointer s := by
    unfold maskStackPointer
    rw [hmode]
  rw [hmask]
  exact maskStackPointer_idem s _

/-- **A pop undoes a push**, up to the mask. -/
theorem popped_rsp {s t : CpuState} (hmode : t.mode = s.mode) {width : Nat}
    (hrsp : t.rsp = (s.pushed width).rsp) : (t.popped width).rsp = maskStackPointer s s.rsp := by
  show maskStackPointer t (t.rsp + BitVec.ofNat 64 width) = maskStackPointer s s.rsp
  have hmask : maskStackPointer t = maskStackPointer s := by
    unfold maskStackPointer
    rw [hmode]
  rw [hmask, hrsp]
  show maskStackPointer s
    (maskStackPointer s (s.rsp - BitVec.ofNat 64 width) + BitVec.ofNat 64 width) = _
  have hb := s.rsp.isLt
  apply BitVec.eq_of_toNat_eq
  simp only [maskStackPointer_toNat, BitVec.toNat_add, BitVec.toNat_sub, BitVec.toNat_ofNat]
  -- The mask is of 16, 32 or 64 bits, and adding the slot back undoes the subtraction under each.
  have hbits : 8 * stackPointerWidth s.mode = 16 ∨ 8 * stackPointerWidth s.mode = 32 ∨
      8 * stackPointerWidth s.mode = 64 := by
    cases s.mode <;> decide
  rcases hbits with h | h | h
  · rw [h]
    omega
  · rw [h]
    omega
  · rw [h]
    omega

end Seven
