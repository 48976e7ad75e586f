import Seven.Handlers.X87Environment

/-!
# The x87 images and their operands

One writer makes the environment of 14 and of 28 bytes, one the state of 94
and of 108 bytes. The first writes 26 bytes, the second 160. So three of the
four forms write behind their operand; it does no harm exactly when what they
put there is there already, or the memory does not take it
(`X87ImageStore.inside_iff`).
-/

namespace Seven

open Seven.Lib

/-- The waiting forms are the same. -/
inductive X87ImageStore where
  | fnstenvM14byte | fnstenvM28byte | fnsaveM94byte | fnsaveM108byte
deriving DecidableEq

namespace X87ImageStore

/-- The size of the operand. -/
def size : X87ImageStore → Nat
  | .fnstenvM14byte => 14
  | .fnstenvM28byte => 28
  | .fnsaveM94byte => 94
  | .fnsaveM108byte => 108

/-- The handler. -/
def handler (F : SoftFloat) : X87ImageStore → Handler
  | .fnstenvM14byte | .fnstenvM28byte => handleFnstenv
  | .fnsaveM94byte | .fnsaveM108byte => fsave F

/-- The stores it makes. -/
def stores (s : CpuState) : X87ImageStore → List (Nat × U64 × Nat)
  | .fnstenvM14byte | .fnstenvM28byte => x87EnvStores s
  | .fnsaveM94byte | .fnsaveM108byte => imageStores s

/-- `fsave` refuses an address that is not a multiple of eight. -/
def Misaligned (base : U64) : X87ImageStore → Prop
  | .fnstenvM14byte | .fnstenvM28byte => False
  | .fnsaveM94byte | .fnsaveM108byte => base &&& 0x7#64 ≠ 0#64

/-- Every byte outside of the operand is what it was. -/
def Inside (F : SoftFloat) (c : X87ImageStore) (ctx : ExecutionContext) : Prop :=
  Memory.KeepsOutside ctx.memory (Handler.run (c.handler F) ctx).2.memory
    (memoryAddress ctx.state ctx.instr) c.size

/-- One behind the other. -/
theorem stores_inOrder (c : X87ImageStore) (s : CpuState) :
    Memory.InOrder 160 (Memory.placed (c.stores s)) := by
  have henv : Memory.InOrder 160 (Memory.placed (x87EnvStores s)) :=
    ⟨fun p hp => ⟨((x87EnvStores_inOrder s).fits p hp).1, ((x87EnvStores_inOrder s).fits p hp).2.1,
      Nat.le_trans ((x87EnvStores_inOrder s).fits p hp).2.2 (by decide)⟩,
      (x87EnvStores_inOrder s).apart⟩
  cases c with
  | fnstenvM14byte => exact henv
  | fnstenvM28byte => exact henv
  | fnsaveM94byte => exact imageStores_inOrder s
  | fnsaveM108byte => exact imageStores_inOrder s

/-- Misaligned, the instruction faults at once; otherwise all its stores are
tried and it succeeds. -/
theorem handler_cases (F : SoftFloat) (c : X87ImageStore) (ctx : ExecutionContext) :
    (c.Misaligned (memoryAddress ctx.state ctx.instr) ∧
      c.handler F ctx =
        .error (pageFaultAt ctx (memoryAddress ctx.state ctx.instr)) ctx) ∨
    (¬c.Misaligned (memoryAddress ctx.state ctx.instr) ∧
      ∃ after, c.handler F ctx = .ok () after ∧ after.memory =
        ctx.memory.putAll (memoryAddress ctx.state ctx.instr) (c.stores ctx.state)) := by
  have henv : ¬False ∧ ∃ after, handleFnstenv ctx = .ok () after ∧ after.memory =
      ctx.memory.putAll (memoryAddress ctx.state ctx.instr) (x87EnvStores ctx.state) :=
    ⟨not_false, _, handleFnstenv_eq ctx, rfl⟩
  -- FSAVE alone asks for an aligned address.
  have hsave : (memoryAddress ctx.state ctx.instr &&& 0x7#64 ≠ 0#64 ∧ fsave F ctx =
        .error (pageFaultAt ctx (memoryAddress ctx.state ctx.instr)) ctx) ∨
      (¬memoryAddress ctx.state ctx.instr &&& 0x7#64 ≠ 0#64 ∧
        ∃ after, fsave F ctx = .ok () after ∧ after.memory =
          ctx.memory.putAll (memoryAddress ctx.state ctx.instr) (imageStores ctx.state)) := by
    by_cases halign : memoryAddress ctx.state ctx.instr &&& 0x7#64 = 0#64
    · exact Or.inr ⟨not_not_intro halign, _, fsave_ok F halign, fsaved_memory F ctx⟩
    · have hget : (get : HandlerM ExecutionContext) ctx = .ok ctx ctx := rfl
      refine Or.inl ⟨halign, ?_⟩
      unfold fsave
      rw [bind_ok hget, if_pos halign]
      rfl
  cases c with
  | fnstenvM14byte => exact Or.inr henv
  | fnstenvM28byte => exact Or.inr henv
  | fnsaveM94byte => exact hsave
  | fnsaveM108byte => exact hsave

/-- **When an image stays inside its operand.** -/
theorem inside_iff (F : SoftFloat) (c : X87ImageStore) (ctx : ExecutionContext) :
    c.Inside F ctx ↔
      c.Misaligned (memoryAddress ctx.state ctx.instr) ∨
        ctx.memory.AlreadyBehind (memoryAddress ctx.state ctx.instr) c.size (c.stores ctx.state) := by
  have hkeeps := @Memory.keepsOutside_iff ctx.memory (memoryAddress ctx.state ctx.instr) c.size 160
    (by decide) (c.stores ctx.state) (c.stores_inOrder ctx.state)
  unfold Inside Handler.run
  rcases c.handler_cases F ctx with ⟨hmisaligned, hrun⟩ | ⟨haligned, after, hrun, hmem⟩
  · rw [hrun]
    exact iff_of_true (fun _ _ => rfl) (Or.inl hmisaligned)
  · rw [hrun]
    dsimp only
    rw [hmem, hkeeps]
    exact ⟨Or.inr, fun h => h.resolve_left haligned⟩

/-- The environment of 28 bytes fits. -/
theorem fnstenvM28byte_inside (F : SoftFloat) (ctx : ExecutionContext) :
    X87ImageStore.fnstenvM28byte.Inside F ctx := by
  have horder := x87EnvStores_inOrder ctx.state
  refine (Memory.keepsOutside_iff (by decide) horder).mpr fun p hp i hi hbehind => ?_
  have hend := (horder.fits _ (List.mem_map_of_mem hp)).2.2
  have hiw := Nat.lt_of_lt_of_le hi (Memory.landed_le _ _ _ _)
  have hsize : 28 ≤ p.1 + i := hbehind
  dsimp only at hend
  omega

end X87ImageStore

/-! ## A byte behind the operand -/

/-- A page with `0xFF` at offset 16. -/
def behindContext : ExecutionContext :=
  { imageContext emptyStack with
    memory := (imageContext emptyStack).memory.stored 0x1010#64 0xFF#64 1 }

/-- The environment of 14 bytes at the start of the page clears it. -/
theorem fnstenvM14byte_clears_behind :
    ¬X87ImageStore.fnstenvM14byte.Inside bitwiseFloat behindContext := by
  intro h
  have haddr : memoryAddress behindContext.state behindContext.instr = 0x1000#64 :=
    imageContext_address rfl
  have hplain : behindContext.memory.PlainArea 0x1000#64 512 :=
    (imageContext_page emptyStack).stored 16 0xFF#64 (by decide)
  have hspan := imageContext_page emptyStack 16 1 (by decide) (by decide) (by decide)
  have hold : byteAt behindContext.memory.pages (0x1000#64 + BitVec.ofNat 64 16) = some 0xFF#8 := by
    have hstored := (hspan.stored (by decide) (by decide) 0xFF#64).2.1 0 (by decide)
    rw [BitVec.add_zero] at hstored
    exact hstored
  -- the third store of the environment covers offsets 16 to 23
  have hin : (16, 0#64, 8) ∈ x87EnvStores behindContext.state :=
    List.mem_cons_of_mem _ (List.mem_cons_of_mem _ (List.mem_cons_of_mem _
      (List.mem_cons_of_mem _ (List.mem_cons_of_mem _ List.mem_cons_self))))
  have hcleared : byteAt (behindContext.memory.putAll 0x1000#64
      (x87EnvStores behindContext.state)).pages (0x1000#64 + BitVec.ofNat 64 16) = some 0#8 := by
    have hlanded := (hplain 16 8 (by decide) (by decide) (by decide)).landed 0#64
    exact Memory.putAll_landed (by decide) behindContext.memory
      (x87EnvStores_inOrder behindContext.state) _ hin 0 (by rw [hlanded]; decide)
  have hkept := h (0x1000#64 + BitVec.ofNat 64 16) fun i hi => by
    have hi : i < 14 := hi
    rw [haddr]
    exact Memory.offset_ne (show 32 ≤ 2 ^ 64 by decide) (by omega) (by decide) (by omega)
  have hafter : (Handler.run (X87ImageStore.fnstenvM14byte.handler bitwiseFloat)
      behindContext).2.memory =
      behindContext.memory.putAll 0x1000#64 (x87EnvStores behindContext.state) := by
    rw [← haddr]
    rfl
  rw [hafter, hcleared, hold] at hkept
  cases hkept

end Seven
