import Seven.Handlers.X87Landing

/-!
# Storing and loading the x87 environment

`FNSTENV` stores the control word, the status word and one bit per register;
`FLDENV` loads them and refuses a control word with a reserved bit.
`FNSTCW` and `FLDCW` do the same with the control word alone.

The reserved bits of the check include bit 6, which is set in the control
word that `FNINIT` loads. And as in `X87Image` the bits of the registers are
made by physical index and read by stack index. `x87Environment_roundTrip`
says when the pairs are round trips all the same.
-/

namespace Seven

open Seven.Lib

/-! ## The image -/

/-- What `store_x87_env` stores. -/
def x87EnvStores (s : CpuState) : List (Nat × U64 × Nat) :=
  [(0, s.x87ControlWord.setWidth 64, 2), (2, s.x87StatusWord.setWidth 64, 2),
    (4, (x87Ftw s).setWidth 64, 2), (6, 0#64, 2), (8, 0#64, 8), (16, 0#64, 8), (24, 0#64, 2)]

/-- What `handleFnstenv` leaves. -/
def fnstenved (ctx : ExecutionContext) : ExecutionContext :=
  { ctx with
    memory := ctx.memory.putAll (memoryAddress ctx.state ctx.instr) (x87EnvStores ctx.state) }

theorem handleFnstenv_eq (ctx : ExecutionContext) : handleFnstenv ctx = .ok () (fnstenved ctx) := rfl

/-- The environment's stores lie one behind the other. -/
theorem x87EnvStores_inOrder (s : CpuState) : Memory.InOrder 26 (Memory.placed (x87EnvStores s)) := by
  have hplaced : Memory.placed (x87EnvStores s) =
      [(0, 2), (2, 2), (4, 2), (6, 2), (8, 8), (16, 8), (24, 2)] := rfl
  rw [hplaced]
  exact ⟨by decide, by decide⟩

/-! ## The tags -/

/-- Loading the tags touches nothing else, and each register gets the tag of
its bit. -/
theorem loadTags_spec (ftw : BitVec 16) (s : CpuState) :
    SameX87Words s (loadTags ftw s) ∧
      ∀ i < 8, (loadTags ftw s).x87Tags (s.x87PhysIndex i) =
        if ftw.getLsbD i then 0x0#8 else kX87TagEmpty := by
  -- by the number of registers loaded so far
  have hloop : ∀ n ≤ 8, ∀ t, t = (List.range n).foldl (fun s i =>
      s.setX87Tag (s.x87PhysIndex i) (if ftw.getLsbD i then 0x0#8 else kX87TagEmpty)) s →
      SameX87Words s t ∧ ∀ i < n, t.x87Tags (s.x87PhysIndex i) =
        if ftw.getLsbD i then 0x0#8 else kX87TagEmpty := by
    intro n
    induction n with
    | zero =>
      rintro _ t rfl
      exact ⟨⟨rfl, rfl, rfl⟩, fun i hi => absurd hi (Nat.not_lt_zero i)⟩
    | succ n ih =>
      rintro hn t rfl
      obtain ⟨⟨hcw, hsw, htop⟩, htags⟩ := ih (by omega) _ rfl
      rw [List.range_succ, List.foldl_append, List.foldl_cons, List.foldl_nil]
      generalize (List.range n).foldl _ s = u at hcw hsw htop htags ⊢
      refine ⟨⟨hcw, hsw, htop⟩, fun i hi => ?_⟩
      have hphys : u.x87PhysIndex n = s.x87PhysIndex n := by
        unfold CpuState.x87PhysIndex
        rw [htop]
      rw [hphys]
      by_cases hlast : i = n
      · subst hlast
        exact if_pos rfl
      · have hne : s.x87PhysIndex i ≠ s.x87PhysIndex n := fun heq =>
          hlast (x87PhysIndex_inj s (by omega) (by omega) heq)
        exact (if_neg hne).trans (htags i (by omega))
  exact hloop 8 (Nat.le_refl 8) _ rfl

/-! ## The round trips -/

/-- What an environment brings back: both words, TOP, and which registers are
empty. -/
structure EnvironmentRestored (s t : CpuState) : Prop where
  controlWord : t.x87ControlWord = s.x87ControlWord
  statusWord : t.x87StatusWord = s.x87StatusWord
  top : t.x87Top = s.x87Top
  empty : ∀ i < 8, t.x87IsEmpty i = s.x87IsEmpty i

/-- No bit of the word is one that `FLDENV` and `FLDCW` refuse. -/
def ControlWordAccepted (fcw : BitVec 16) : Prop := fcw &&& 0xE0C0#16 = 0#16

instance (fcw : BitVec 16) : Decidable (ControlWordAccepted fcw) :=
  inferInstanceAs (Decidable (fcw &&& 0xE0C0#16 = 0#16))

/-- `FNSTENV`, and `FLDENV` from the same area whatever happened to the
registers in between. -/
def EnvironmentRoundTrip (ctx : ExecutionContext) : Prop :=
  ∃ saved, handleFnstenv ctx = .ok () saved ∧
    ∀ later : ExecutionContext, later.memory = saved.memory →
      memoryAddress later.state later.instr = memoryAddress ctx.state ctx.instr →
      ∃ restored, handleFldenv later = .ok () restored ∧
        EnvironmentRestored ctx.state restored.state

/-- `FNSTCW`, and `FLDCW` from the same place. -/
def ControlWordRoundTrip (ctx : ExecutionContext) : Prop :=
  ∃ saved, handleFnstcw ctx = .ok () saved ∧
    ∀ later : ExecutionContext, later.memory = saved.memory → later.instr.opKind 0 = .memory →
      memoryAddress later.state later.instr = memoryAddress ctx.state ctx.instr →
      ∃ restored, handleFldcw later = .ok () restored ∧
        restored.state.x87ControlWord = ctx.state.x87ControlWord

/-- A word goes through a wider store. -/
theorem truncate_word (value : BitVec 16) : truncate (value.setWidth 64) 2 = value.setWidth 64 := by
  apply BitVec.eq_of_toNat_eq
  have hlt := value.isLt
  rw [truncate_toNat _ (by decide), BitVec.toNat_setWidth]
  omega

/-- The check of the loaded word is the check of the word. -/
theorem controlWord_check (fcw : BitVec 16) :
    fcw.setWidth 64 &&& 0xE0C0#64 ≠ 0#64 ↔ ¬ControlWordAccepted fcw := by
  have hwide : fcw.setWidth 64 &&& 0xE0C0#64 = (fcw &&& 0xE0C0#16).setWidth 64 := by
    rw [BitVec.setWidth_and]
    rfl
  unfold ControlWordAccepted
  rw [hwide, not_iff_not]
  constructor
  · intro h
    have hback := congrArg (BitVec.setWidth 16) h
    rw [BitVec.setWidth_setWidth_of_le _ (by decide), BitVec.setWidth_eq] at hback
    exact hback
  · intro h
    rw [h]
    rfl

/-- What `handleFldenv` makes of the three words it reads. -/
theorem handleFldenv_words {ctx : ExecutionContext} {fcw fsw ftw : BitVec 16}
    (hfcw : readMemoryChecked (memoryAddress ctx.state ctx.instr + 0#64) 2 ctx =
      .ok (fcw.setWidth 64) ctx)
    (hfsw : readMemoryChecked (memoryAddress ctx.state ctx.instr + 2#64) 2 ctx =
      .ok (fsw.setWidth 64) ctx)
    (hftw : readMemoryChecked (memoryAddress ctx.state ctx.instr + 4#64) 2 ctx =
      .ok (ftw.setWidth 64) ctx) :
    handleFldenv ctx =
      if ControlWordAccepted fcw then
        .ok () { ctx with
          state := loadTags ftw ((ctx.state.setX87ControlWord fcw).setX87StatusWord fsw) }
      else memoryFault (memoryAddress ctx.state ctx.instr) ctx := by
  have hget : (get : HandlerM ExecutionContext) ctx = .ok ctx ctx := rfl
  unfold handleFldenv loadX87Env
  rw [bind_ok hget, bind_ok hfcw, bind_ok hfsw, bind_ok hftw]
  by_cases haccepted : ControlWordAccepted fcw
  · rw [if_pos haccepted, if_neg fun h => (controlWord_check fcw).mp h haccepted]
    have hback (w : BitVec 16) : (w.setWidth 64).setWidth 16 = w := by
      rw [BitVec.setWidth_setWidth_of_le _ (by decide), BitVec.setWidth_eq]
    rw [hback, hback, hback]
    rfl
  · rw [if_neg haccepted, if_pos ((controlWord_check fcw).mpr haccepted)]

/-- Loaded tags are the stored ones when the bits agree by either index. -/
theorem environmentRestored_iff {s t u : CpuState} (hcw : t.x87ControlWord = s.x87ControlWord)
    (hsw : t.x87StatusWord = s.x87StatusWord) (htop : t.x87Top = topBits s.x87StatusWord)
    (hphys : ∀ i, t.x87PhysIndex i = u.x87PhysIndex i)
    (htags : ∀ i < 8, t.x87Tags (u.x87PhysIndex i) =
      if ((x87Ftw s).setWidth 16).getLsbD i then 0x0#8 else kX87TagEmpty) :
    EnvironmentRestored s t ↔ FtwAgrees s := by
  -- The tag word keeps one bit a register: empty or not, which is all the claim compares.
  have hempty (i : Fin 8) : t.x87Tags (t.x87PhysIndex i) = kX87TagEmpty ↔
      s.x87Tags i = kX87TagEmpty := by
    have hbit : ((x87Ftw s).setWidth 16).getLsbD i = (x87Ftw s).getLsbD i := by
      rw [BitVec.getLsbD_setWidth, decide_eq_true (by omega), Bool.true_and]
    rw [hphys, htags i i.isLt, hbit]
    by_cases hused : (x87Ftw s).getLsbD i.val = true
    · rw [if_pos hused]
      exact iff_of_false (by decide) ((getLsbD_x87Ftw s i).mp hused)
    · rw [if_neg hused]
      exact iff_of_true rfl (not_not.mp fun h => hused ((getLsbD_x87Ftw s i).mpr h))
  constructor
  · intro h
    refine ⟨h.top.symm.trans htop, fun i => ?_⟩
    have heq := h.empty i i.isLt
    unfold CpuState.x87IsEmpty at heq
    rw [Bool.eq_iff_iff, beq_iff_eq, beq_iff_eq, hempty] at heq
    exact heq
  · intro h
    refine ⟨hcw, hsw, htop.trans h.top.symm, fun i hi => ?_⟩
    unfold CpuState.x87IsEmpty
    rw [Bool.eq_iff_iff, beq_iff_eq, beq_iff_eq]
    exact (hempty ⟨i, hi⟩).trans (h.tags ⟨i, hi⟩)

/-- **`FNSTENV` and `FLDENV`.** -/
theorem environmentRoundTrip_iff {ctx : ExecutionContext}
    (hplain : ctx.memory.PlainArea (memoryAddress ctx.state ctx.instr) 14) :
    EnvironmentRoundTrip ctx ↔
      ControlWordAccepted ctx.state.x87ControlWord ∧ FtwAgrees ctx.state := by
  -- what `FLDENV` does later, from the words of the image
  have hload (later : ExecutionContext) (hmem : later.memory = (fnstenved ctx).memory)
      (haddr : memoryAddress later.state later.instr = memoryAddress ctx.state ctx.instr) :
      handleFldenv later =
        if ControlWordAccepted ctx.state.x87ControlWord then
          .ok () { later with
            state := loadTags ((x87Ftw ctx.state).setWidth 16)
              ((later.state.setX87ControlWord ctx.state.x87ControlWord).setX87StatusWord
                ctx.state.x87StatusWord) }
        else memoryFault (memoryAddress later.state later.instr) later := by
    have hword (offset : Nat) (value : BitVec 16) (hfits : offset + 2 ≤ 14)
        (hp : (offset, value.setWidth 64, 2) ∈ x87EnvStores ctx.state) :
        readMemoryChecked (memoryAddress later.state later.instr + BitVec.ofNat 64 offset) 2
          later = .ok (value.setWidth 64) later := by
      have hread := (hplain offset 2 (by decide) (by decide) hfits).read_putAll
        (by decide) (x87EnvStores_inOrder ctx.state) hp
      rw [haddr, readMemoryChecked_some (by rw [hmem]; exact hread),
        fromBytes_toBytes_of_le _ (by decide), truncate_word]
    have hftw : (x87Ftw ctx.state).setWidth 64 = ((x87Ftw ctx.state).setWidth 16).setWidth 64 := by
      apply BitVec.eq_of_toNat_eq
      have hlt := (x87Ftw ctx.state).isLt
      rw [BitVec.toNat_setWidth, BitVec.toNat_setWidth, BitVec.toNat_setWidth]
      omega
    refine handleFldenv_words (hword 0 _ (by decide) List.mem_cons_self)
      (hword 2 _ (by decide) (List.mem_cons_of_mem _ List.mem_cons_self))
      (hword 4 _ (by decide) ?_)
    rw [← hftw]
    exact List.mem_cons_of_mem _ (List.mem_cons_of_mem _ List.mem_cons_self)
  have hrestored (s : CpuState) : EnvironmentRestored ctx.state
      (loadTags ((x87Ftw ctx.state).setWidth 16)
        ((s.setX87ControlWord ctx.state.x87ControlWord).setX87StatusWord
          ctx.state.x87StatusWord)) ↔ FtwAgrees ctx.state := by
    obtain ⟨⟨hcw, hsw, htop⟩, htags⟩ := loadTags_spec ((x87Ftw ctx.state).setWidth 16)
      ((s.setX87ControlWord ctx.state.x87ControlWord).setX87StatusWord ctx.state.x87StatusWord)
    refine environmentRestored_iff hcw hsw htop (fun i => ?_) htags
    unfold CpuState.x87PhysIndex
    rw [htop]
  constructor
  · rintro ⟨saved, hsaved, hlater⟩
    rw [handleFnstenv_eq] at hsaved
    cases hsaved
    obtain ⟨restored, hok, hsame⟩ := hlater (fnstenved ctx) rfl rfl
    rw [hload _ rfl rfl] at hok
    by_cases haccepted : ControlWordAccepted ctx.state.x87ControlWord
    · rw [if_pos haccepted] at hok
      cases hok
      exact ⟨haccepted, (hrestored _).mp hsame⟩
    · rw [if_neg haccepted] at hok
      cases hok
  · rintro ⟨haccepted, hagrees⟩
    refine ⟨_, handleFnstenv_eq ctx, fun later hmem haddr => ?_⟩
    rw [hload later hmem haddr, if_pos haccepted]
    exact ⟨_, rfl, (hrestored _).mpr hagrees⟩

/-- **`FNSTCW` and `FLDCW`.** -/
theorem controlWordRoundTrip_iff {ctx : ExecutionContext} (hkind : ctx.instr.opKind 0 = .memory)
    (hplain : ctx.memory.PlainArea (memoryAddress ctx.state ctx.instr) 2) :
    ControlWordRoundTrip ctx ↔ ControlWordAccepted ctx.state.x87ControlWord := by
  have hspan : ctx.memory.PlainSpan (memoryAddress ctx.state ctx.instr) 2 := by
    have h := hplain 0 2 (by decide) (by decide) (by decide)
    rw [BitVec.add_zero] at h
    exact h
  obtain ⟨htaken, hheld, _⟩ := hspan.stored (by decide) (by decide)
    (ctx.state.x87ControlWord.setWidth 64)
  -- the store is taken
  have hwrite : writeOperand ctx 0 (ctx.state.x87ControlWord.setWidth 64) 2 =
      ({ ctx with
         memory := ctx.memory.stored (memoryAddress ctx.state ctx.instr)
           (ctx.state.x87ControlWord.setWidth 64) 2 }, true) := by
    unfold writeOperand
    rw [hkind]
    dsimp only
    rw [truncate_word]
    exact congrArg (Prod.mk _) htaken
  have hsaved : handleFnstcw ctx = .ok ()
      (writeOperand ctx 0 (ctx.state.x87ControlWord.setWidth 64) 2).1 :=
    writeOperandChecked_ok (congrArg Prod.snd hwrite)
  rw [hwrite] at hsaved
  dsimp only at hsaved
  obtain ⟨saved, hsavedEq⟩ : ∃ saved : ExecutionContext, saved = { ctx with
      memory := ctx.memory.stored (memoryAddress ctx.state ctx.instr)
        (ctx.state.x87ControlWord.setWidth 64) 2 } := ⟨_, rfl⟩
  rw [← hsavedEq] at hsaved
  -- and `FLDCW` reads it
  have hload (later : ExecutionContext)
      (hmem : later.memory = ctx.memory.stored (memoryAddress ctx.state ctx.instr)
        (ctx.state.x87ControlWord.setWidth 64) 2)
      (hlater : later.instr.opKind 0 = .memory)
      (haddr : memoryAddress later.state later.instr = memoryAddress ctx.state ctx.instr) :
      handleFldcw later =
        if ControlWordAccepted ctx.state.x87ControlWord then
          .ok () { later with state := later.state.setX87ControlWord ctx.state.x87ControlWord }
        else operandFault later := by
    have hread : readOperand later 0 2 = some (ctx.state.x87ControlWord.setWidth 64) := by
      unfold readOperand
      rw [hlater]
      dsimp only
      rw [haddr, hmem, (hspan.sameAccess (ctx.memory.stored_sameAccess _ _ (by decide))).read
        (by decide) (toBytes_length _ 2) hheld]
      rw [Option.map_some, fromBytes_toBytes_of_le _ (by decide), truncate_word, truncate_word]
    unfold handleFldcw
    rw [bind_ok (readOperandChecked_ok_iff.mpr hread)]
    by_cases haccepted : ControlWordAccepted ctx.state.x87ControlWord
    · rw [if_pos haccepted, if_neg fun h => (controlWord_check _).mp h haccepted,
        BitVec.setWidth_setWidth_of_le _ (by decide), BitVec.setWidth_eq]
      rfl
    · rw [if_neg haccepted, if_pos ((controlWord_check _).mpr haccepted)]
  constructor
  · rintro ⟨saved', hok, hlater⟩
    rw [hsaved] at hok
    cases hok
    have hkind' : saved.instr.opKind 0 = .memory := by rw [hsavedEq]; exact hkind
    have haddr : memoryAddress saved.state saved.instr = memoryAddress ctx.state ctx.instr := by
      rw [hsavedEq]
    obtain ⟨restored, hok, _⟩ := hlater saved rfl hkind' haddr
    by_contra hrefused
    rw [hload saved (by rw [hsavedEq]) hkind' haddr, if_neg hrefused] at hok
    cases hok
  · intro haccepted
    refine ⟨saved, hsaved, fun later hmem hlater haddr => ?_⟩
    rw [hload later (hmem.trans (by rw [hsavedEq])) hlater haddr, if_pos haccepted]
    exact ⟨_, rfl, rfl⟩

/-- **When the pairs are round trips.** `FNSTCW` and `FLDCW` are one exactly
when the control word has no reserved bit, `FNSTENV` and `FLDENV` exactly when
the bits of the registers agree by either index besides. -/
theorem x87Environment_roundTrip {env cw : ExecutionContext}
    (henv : env.memory.PlainArea (memoryAddress env.state env.instr) 14)
    (hkind : cw.instr.opKind 0 = .memory)
    (hcw : cw.memory.PlainArea (memoryAddress cw.state cw.instr) 2) :
    (EnvironmentRoundTrip env ↔
      ControlWordAccepted env.state.x87ControlWord ∧ FtwAgrees env.state) ∧
    (ControlWordRoundTrip cw ↔ ControlWordAccepted cw.state.x87ControlWord) :=
  ⟨environmentRoundTrip_iff henv, controlWordRoundTrip_iff hkind hcw⟩

/-! ## The control word of `FNINIT` -/

/-- The page of the image. -/
theorem imageContext_area {s : CpuState} (hs : s.mode = .long64) {n : Nat} (hn : n ≤ 512) :
    (imageContext s).memory.PlainArea
      (memoryAddress (imageContext s).state (imageContext s).instr) n := by
  have haddr : memoryAddress (imageContext s).state (imageContext s).instr = 0x1000#64 :=
    imageContext_address hs
  rw [haddr]
  exact (imageContext_page s).mono hn

/-- After a load of `0x033F`: the control word without its reserved bit. -/
def acceptedWord : CpuState := emptyStack.setX87ControlWord 0x033F#16

/-- `FNSTCW` with a memory operand. -/
def controlWordContext (s : CpuState) : ExecutionContext :=
  { imageContext s with instr := { (imageContext s).instr with opKind := fun _ => .memory } }

/-- A control word without reserved bits. -/
theorem x87Environment_roundTrip_accepted :
    EnvironmentRoundTrip (imageContext acceptedWord) ∧
      ControlWordRoundTrip (controlWordContext acceptedWord) := by
  obtain ⟨henv, hcw⟩ := @x87Environment_roundTrip (imageContext acceptedWord)
    (controlWordContext acceptedWord) (imageContext_area rfl (by decide)) rfl
    (imageContext_area rfl (by decide))
  exact ⟨henv.mpr ⟨by decide, by decide +kernel, by decide +kernel⟩, hcw.mpr (by decide)⟩

/-- The initial control word `0x037F` is stored and then refused. -/
theorem x87Environment_initial_refused :
    (imageContext emptyStack).memory.PlainArea
      (memoryAddress (imageContext emptyStack).state (imageContext emptyStack).instr) 28 ∧
    emptyStack.x87ControlWord = 0x037F#16 ∧ FtwAgrees emptyStack ∧
    ¬EnvironmentRoundTrip (imageContext emptyStack) ∧
    ¬ControlWordRoundTrip (controlWordContext emptyStack) := by
  have hrefused : ¬ControlWordAccepted emptyStack.x87ControlWord := by decide
  refine ⟨imageContext_area rfl (by decide), rfl, ⟨by decide +kernel, by decide +kernel⟩, ?_, ?_⟩
  · intro h
    exact hrefused ((environmentRoundTrip_iff (imageContext_area rfl (by decide))).mp h).1
  · intro h
    exact hrefused ((@controlWordRoundTrip_iff (controlWordContext emptyStack) rfl
      (imageContext_area rfl (by decide))).mp h)

end Seven
