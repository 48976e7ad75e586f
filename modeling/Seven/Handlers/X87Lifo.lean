import Seven.Handlers.BcdRoundTrip
import Seven.Handlers.X87Stack
import Seven.Lib.RingStack

/-!
# Loads and stores of 80 bits

`FLD m80` and `FSTP m80` move ten bytes and look at none of them but to set a
tag. With the empty registers taken as empty cells the register file is a ring
(`CpuState.ring`), the push and the pop of the model are those of the ring
(`ring_push`, `ring_pop`), and so the instructions are a stack of raw operands.

`Loads` and `Stores` are runs of the two instructions with anything in between
that leaves registers, tags and TOP alone. Loads into an empty unit, followed by
as many stores, give the operands back in reverse: `x87_lifo`.
-/

namespace Seven

open Seven.Lib

/-! ## The unit as a ring -/

/-- An empty register holds nothing. -/
def CpuState.ring (s : CpuState) : RingStack 8 Float80 where
  cells i := if s.x87Tags i = kX87TagEmpty then none else some (s.x87Stack i)
  top := Fin.ofNat 8 s.x87Top.toNat

/-- The ring sees the registers only. -/
theorem SameX87Registers.ring {s t : CpuState} (h : SameX87Registers s t) : t.ring = s.ring := by
  unfold CpuState.ring
  rw [h.stack, h.tags, h.top]

/-- The place above the top. -/
theorem ring_before_top (s : CpuState) : s.ring.top - 1 = s.x87PhysIndex 7 := by
  have hall : ∀ top : BitVec 8, Fin.ofNat 8 top.toNat - 1 = Fin.ofNat 8 (top.toNat + 7 % 256) := by
    decide +kernel
  exact hall s.x87Top

/-- The place of the top. -/
theorem ring_top (s : CpuState) : s.ring.top = s.x87PhysIndex 0 := rfl

/-- With TOP below eight, the place on the ring determines it. -/
theorem top_eq_of_ring {s t : CpuState} (hs : X87WellFormed s) (ht : X87WellFormed t)
    (h : t.ring.top = s.ring.top) : t.x87Top = s.x87Top := by
  have hslt : s.x87Top.toNat < 8 := BitVec.lt_def.mp hs.top_lt
  have htlt : t.x87Top.toNat < 8 := BitVec.lt_def.mp ht.top_lt
  have hval := congrArg Fin.val h
  unfold CpuState.ring at hval
  dsimp only at hval
  rw [Fin.val_ofNat, Fin.val_ofNat, Nat.mod_eq_of_lt htlt, Nat.mod_eq_of_lt hslt] at hval
  exact BitVec.eq_of_toNat_eq hval

section

variable (F : SoftFloat) (s : CpuState) (value : Float80)

/-- The ring behind a push. -/
theorem ring_pushed :
    (s.x87Pushed F value).ring =
      ⟨Function.update s.ring.cells (s.ring.top - 1) (some value), s.ring.top - 1⟩ := by
  have htop : (s.x87Pushed F value).ring.top = s.ring.top - 1 := by
    rw [ring_before_top, ring_top]
    exact pushed_top ⟨rfl, rfl, rfl⟩
  have hcells : (s.x87Pushed F value).ring.cells =
      Function.update s.ring.cells (s.ring.top - 1) (some value) := by
    funext j
    rw [ring_before_top]
    show (if (if j = s.x87PhysIndex 7 then CpuState.x87TagOf F value else s.x87Tags j) = kX87TagEmpty
      then none else some (if j = s.x87PhysIndex 7 then value else s.x87Stack j)) = _
    by_cases hj : j = s.x87PhysIndex 7
    · rw [if_pos hj, if_pos hj, if_neg (x87TagOf_ne_empty F value), hj, Function.update_self]
    · rw [if_neg hj, if_neg hj, Function.update_of_ne hj]
      rfl
  rw [← hcells, ← htop]

/-- **A push is one on the ring**, and is refused when that is. -/
theorem ring_push : s.ring.push value =
    if (s.x87Push F value).1 then some (s.x87Push F value).2.ring else none := by
  have hcell : s.ring.cells (s.ring.top - 1) =
      if s.x87IsEmpty 7 then none else some (s.x87Stack (s.x87PhysIndex 7)) := by
    rw [ring_before_top]
    unfold CpuState.ring CpuState.x87IsEmpty
    simp only [beq_iff_eq]
  unfold RingStack.push
  rw [hcell]
  cases hroom : s.x87IsEmpty 7 with
  | true =>
    rw [x87Push_room F hroom, if_pos rfl, if_pos rfl, ring_pushed]
  | false =>
    have htag : s.x87Tags (s.x87PhysIndex 7) ≠ kX87TagEmpty := beq_eq_false_iff_ne.mp hroom
    have hrefused : (s.x87Push F value).1 = false := by
      unfold CpuState.x87Push
      dsimp only
      rw [below_top, if_pos htag]
    rw [hrefused, if_neg Bool.false_ne_true, if_neg Bool.false_ne_true]

/-- **A pop is one on the ring**, of the number at ST(0). -/
theorem ring_pop : s.ring.pop =
    if s.x87Pop.1 then some (s.x87Get 0, s.x87Pop.2.ring) else none := by
  have hnext : ∀ top : BitVec 8, Fin.ofNat 8 (((top + 1#8) &&& 0x7#8) &&& 0x7#8).toNat =
      Fin.ofNat 8 top.toNat + 1 := by
    decide +kernel
  have hindex : Fin.ofNat 8 s.x87Top.toNat = s.x87PhysIndex 0 := rfl
  unfold RingStack.pop CpuState.x87Pop
  dsimp only
  rw [hindex, ring_top]
  by_cases htag : s.x87Tags (s.x87PhysIndex 0) = kX87TagEmpty
  · have hcell : s.ring.cells (s.x87PhysIndex 0) = none := if_pos htag
    rw [if_pos htag, hcell]
    rfl
  · have hcell : s.ring.cells (s.x87PhysIndex 0) = some (s.x87Get 0) := if_neg htag
    rw [if_neg htag, hcell, if_pos rfl, Option.map_some]
    congr 2
    -- Only the popped cell is emptied.
    have hcells : Function.update s.ring.cells (s.x87PhysIndex 0) none =
        ((s.setX87Tag (s.x87PhysIndex 0) kX87TagEmpty).setX87Top
          ((s.x87Top + 1#8) &&& 0x7#8)).ring.cells := by
      funext j
      show _ = if (if j = s.x87PhysIndex 0 then kX87TagEmpty else s.x87Tags j) = kX87TagEmpty
        then none else some (s.x87Stack j)
      by_cases hj : j = s.x87PhysIndex 0
      · rw [hj, Function.update_self, if_pos rfl, if_pos rfl]
      · rw [Function.update_of_ne hj, if_neg hj]
        rfl
    have htop : s.x87PhysIndex 0 + 1 = ((s.setX87Tag (s.x87PhysIndex 0) kX87TagEmpty).setX87Top
        ((s.x87Top + 1#8) &&& 0x7#8)).ring.top := (hnext s.x87Top).symm
    rw [hcells, htop]
    rfl

end

/-! ## One instruction -/

/-- Ten bytes are stored as they were loaded. -/
theorem take_encodeExt80_decodeExt80 {bytes : List Byte} (hlen : bytes.length = 10) :
    (Float80.encodeExt80 (Float80.decodeExt80 bytes)).take 10 = bytes := by
  have hlt : ofLE bytes < 2 ^ 80 := by
    have hbound := ofLE_lt bytes
    rw [hlen] at hbound
    exact hbound
  have hback := toLE_ofLE bytes
  rw [hlen] at hback
  unfold Float80.encodeExt80 Float80.decodeExt80
  rw [List.take_append_of_le_length (by rw [length_toLE]), List.take_of_length_le
    (by rw [length_toLE]), List.take_of_length_le (by omega), BitVec.toNat_ofNat,
    Nat.mod_eq_of_lt hlt, hback]

section

variable {H : X87Host} {ctx : ExecutionContext}

/-- `FLD m80`, its operand read. -/
theorem fldM80fp_eq {bytes : List Byte}
    (hread : ctx.memory.read (memoryAddress ctx.state ctx.instr) 10 .dataRead = some bytes) :
    X87Transfer.fldM80fp.handler H ctx =
      pushOr H.soft (x87Exception kX87ExceptionInvalid) (Float80.decodeExt80 bytes) ctx := by
  have hext : readExt80 ctx = .ok (Float80.decodeExt80 bytes) ctx := by
    unfold readExt80
    dsimp only
    rw [hread]
  show x87PushFromMemory H.soft 10 ctx = _
  unfold x87PushFromMemory
  rw [if_pos rfl, bind_ok hext]

/-- Onto fewer than eight operands: it goes on top of them. -/
theorem fldM80fp_room {bytes : List Byte} {values : List Float80}
    (hread : ctx.memory.read (memoryAddress ctx.state ctx.instr) 10 .dataRead = some bytes)
    (hholds : ctx.state.ring.Holds values) (hroom : values.length < 8) :
    ∃ loaded, X87Transfer.fldM80fp.handler H ctx = .ok () loaded ∧
      loaded.state.ring.Holds (Float80.decodeExt80 bytes :: values) ∧
      loaded.state.ring.top = ctx.state.ring.top - 1 := by
  obtain ⟨r, hpush, hheld, htop⟩ :=
    @RingStack.Holds.push_holds _ _ _ _ _ (Float80.decodeExt80 bytes) hholds hroom
  rw [ring_push H.soft] at hpush
  rw [fldM80fp_eq hread]
  unfold pushOr
  cases hrun : ctx.state.x87Push H.soft (Float80.decodeExt80 bytes) with
  | mk pushed s =>
    rw [hrun] at hpush
    cases pushed with
    | true =>
      obtain rfl := Option.some.inj hpush
      exact ⟨_, rfl, hheld, htop⟩
    | false => cases hpush

/-- Onto eight operands it is refused, and the unit stays as it is. -/
theorem fldM80fp_full {bytes : List Byte} {values : List Float80}
    (hread : ctx.memory.read (memoryAddress ctx.state ctx.instr) 10 .dataRead = some bytes)
    (hs : X87WellFormed ctx.state) (hholds : ctx.state.ring.Holds values)
    (hfull : values.length = 8)
    (hmasked : x87ExceptionsMasked ctx.state kX87ExceptionInvalid = true) :
    ∃ loaded, X87Transfer.fldM80fp.handler H ctx = .ok () loaded ∧
      SameX87Registers ctx.state loaded.state := by
  have hnone := @RingStack.Holds.push_full _ _ _ _ _ (Float80.decodeExt80 bytes) hholds hfull
  rw [ring_push H.soft] at hnone
  have hrefused : (ctx.state.x87Push H.soft (Float80.decodeExt80 bytes)).1 = false := by
    cases hpushed : (ctx.state.x87Push H.soft (Float80.decodeExt80 bytes)).1 with
    | true =>
      rw [hpushed] at hnone
      cases hnone
    | false => rfl
  have hsame := pushOr_refused H.soft .invalid hs hrefused
  have hrun : pushOr H.soft (x87Exception kX87ExceptionInvalid) (Float80.decodeExt80 bytes) ctx =
      .ok () { ctx with state := ctx.state.x87Raised kX87ExceptionInvalid } := by
    have hpush : ctx.state.x87Push H.soft (Float80.decodeExt80 bytes) = (false, ctx.state) :=
      Prod.ext hrefused (x87Push_refused H.soft hrefused)
    unfold pushOr
    rw [hpush]
    exact x87Exception_masked hmasked
  rw [fldM80fp_eq hread, hrun]
  rw [hrun] at hsame
  exact ⟨_, rfl, hsame⟩

/-- `FSTP` of the operand on top, into plain memory. -/
theorem fstpM80fp_holds {value : Float80} {values : List Float80}
    (hholds : ctx.state.ring.Holds (value :: values))
    (hplain : ctx.memory.PlainArea (memoryAddress ctx.state ctx.instr) 10) :
    ∃ stored, X87Transfer.fstpM80fp.handler H ctx = .ok () stored ∧
      stored.memory.Holds (memoryAddress ctx.state ctx.instr)
        ((Float80.encodeExt80 value).take 10) ∧
      stored.state.ring.Holds values ∧ stored.state.ring.top = ctx.state.ring.top + 1 := by
  have hget : (get : HandlerM ExecutionContext) ctx = .ok ctx ctx := rfl
  have hlen : ((Float80.encodeExt80 value).take 10).length = 10 := by
    rw [List.length_take, length_encodeExt80]
    rfl
  -- The ring says which value is on top, and that the pop succeeds.
  obtain ⟨r, hpop, hheld, htop⟩ := hholds.pop_holds
  rw [ring_pop] at hpop
  obtain ⟨u, hpopped, hvalue, rfl⟩ : ∃ u, ctx.state.x87Pop = (true, u) ∧
      ctx.state.x87Get 0 = value ∧ u.ring = r := by
    cases hrun : ctx.state.x87Pop with
    | mk popped u =>
      rw [hrun] at hpop
      cases popped with
      | true =>
        have hpair := Option.some.inj hpop
        exact ⟨u, rfl, congrArg Prod.fst hpair, congrArg Prod.snd hpair⟩
      | false => cases hpop
  have hused : ctx.state.x87IsEmpty 0 = false := by
    have hcell := hholds.cells 0 (by decide)
    have hplace : ctx.state.ring.top + Fin.ofNat 8 0 = ctx.state.x87PhysIndex 0 := add_zero _
    rw [hplace, List.getElem?_cons_zero] at hcell
    refine beq_eq_false_iff_ne.mpr fun htag => ?_
    have hnone : ctx.state.ring.cells (ctx.state.x87PhysIndex 0) = none := if_pos htag
    rw [hnone] at hcell
    cases hcell
  have hstores : storeBytesChecked (memoryAddress ctx.state ctx.instr) 0
      ((Float80.encodeExt80 value).take 10) ctx = .ok () { ctx with
        memory := ctx.memory.putAll (memoryAddress ctx.state ctx.instr)
          (byteStores 0 ((Float80.encodeExt80 value).take 10)) } := by
    rw [storeBytesChecked_eq]
    apply storeWordsChecked_ok hplain
    intro q hq
    exact (covers_byteStores hlen).inOrder.fits _ (List.mem_map_of_mem hq)
  -- The bytes are written before the pop, which the ten writable bytes let through.
  have hrun : X87Transfer.fstpM80fp.handler H ctx = .ok () { ctx with
      state := u
      memory := ctx.memory.putAll (memoryAddress ctx.state ctx.instr)
        (byteStores 0 ((Float80.encodeExt80 value).take 10)) } := by
    show x87FstpM80fp ctx = _
    unfold x87FstpM80fp
    rw [bind_ok hget, if_neg (by rw [hused]; exact Bool.false_ne_true), hvalue]
    refine (bind_ok hstores).trans ?_
    unfold popOrUnderflow
    dsimp only
    rw [hpopped]
    rfl
  refine ⟨_, hrun, ?_, hheld, htop⟩
  exact (hlen.symm ▸ hplain).holds_putAll (by rw [hlen]; decide)

end

/-! ## Runs -/

section

variable (H : X87Host) (s : CpuState)

/-- `FLD m80` once for each operand. -/
inductive Loads : List (List Byte) → CpuState → Prop
  | nil : Loads [] s
  | fld {ops : List (List Byte)} {bytes : List Byte} {t : CpuState} {ctx loaded : ExecutionContext} :
      Loads ops t → KeepsRegisters t ctx.state → bytes.length = 10 →
      ctx.memory.read (memoryAddress ctx.state ctx.instr) 10 .dataRead = some bytes →
      X87Transfer.fldM80fp.handler H ctx = .ok () loaded → Loads (ops ++ [bytes]) loaded.state

/-- `FSTP m80` to plain memory, once for each operand, which is in memory
afterwards. -/
inductive Stores : List (List Byte) → CpuState → Prop
  | nil : Stores [] s
  | fstp {outs : List (List Byte)} {bytes : List Byte} {t : CpuState}
      {ctx stored : ExecutionContext} :
      Stores outs t → KeepsRegisters t ctx.state →
      ctx.memory.PlainArea (memoryAddress ctx.state ctx.instr) 10 →
      X87Transfer.fstpM80fp.handler H ctx = .ok () stored → bytes.length = 10 →
      stored.memory.Holds (memoryAddress ctx.state ctx.instr) bytes →
      Stores (outs ++ [bytes]) stored.state

end

section

variable {H : X87Host} {s t : CpuState}

/-- A transfer leaves the unit well formed. -/
theorem transfer_wellFormed {x : X87Transfer} {ctx c : ExecutionContext}
    (hs : X87WellFormed ctx.state) (h : x.handler H ctx = .ok () c) : X87WellFormed c.state := by
  have hkeeps := X87Code.keepsStack H (.transfer x) ctx hs
  unfold X87Code.handler at hkeeps
  dsimp only at hkeeps
  rw [h] at hkeeps
  exact hkeeps

/-- Up to eight loads leave the operands on the ring, the last one on top. -/
theorem Loads.holds (hs : X87WellFormed s) (hempty : s.ring.Holds []) {ops : List (List Byte)}
    (h : Loads H s ops t) (hn : ops.length ≤ 8) :
    X87WellFormed t ∧ t.ring.Holds (ops.reverse.map Float80.decodeExt80) ∧
      t.ring.top + Fin.ofNat 8 ops.length = s.ring.top := by
  induction h with
  | nil => exact ⟨hs, hempty, add_zero _⟩
  | @fld ops bytes t ctx loaded _ hkept hlen hread hrun ih =>
    rw [List.length_append, List.length_singleton] at hn
    obtain ⟨ht, hholds, htop⟩ := ih (by omega)
    obtain ⟨hctx, hsame⟩ := hkept ht
    rw [← hsame.ring] at hholds htop
    obtain ⟨loaded', hrun', hheld, hmoved⟩ := @fldM80fp_room H _ _ _ hread hholds
      (by rw [List.length_map, List.length_reverse]; omega)
    obtain rfl : loaded = loaded' := by
      rw [hrun] at hrun'
      cases hrun'
      rfl
    refine ⟨transfer_wellFormed hctx hrun, ?_, ?_⟩
    · rw [List.reverse_append, List.reverse_singleton, List.singleton_append, List.map_cons]
      exact hheld
    · rw [hmoved, List.length_append, List.length_singleton, RingStack.ofNat_succ, ← htop,
        add_comm (Fin.ofNat 8 ops.length) 1, ← add_assoc, sub_add_cancel]

/-- Stores take the operands off the ring, the topmost first. -/
theorem Stores.holds (hs : X87WellFormed s) {values : List Float80} (hholds : s.ring.Holds values)
    {outs : List (List Byte)} (h : Stores H s outs t) (hn : outs.length ≤ values.length) :
    X87WellFormed t ∧ t.ring.Holds (values.drop outs.length) ∧
      t.ring.top = s.ring.top + Fin.ofNat 8 outs.length ∧
      outs = (values.take outs.length).map fun v => (Float80.encodeExt80 v).take 10 := by
  induction h with
  | nil => exact ⟨hs, hholds, (add_zero _).symm, rfl⟩
  | @fstp outs bytes t ctx stored _ hkept hplain hrun hlen hbytes ih =>
    rw [List.length_append, List.length_singleton] at hn
    -- The run so far has popped `outs.length` values.
    obtain ⟨ht, hleft, htop, houts⟩ := ih (by omega)
    obtain ⟨hctx, hsame⟩ := hkept ht
    rw [← hsame.ring] at hleft htop
    have hlt : outs.length < values.length := by omega
    rw [List.drop_eq_getElem_cons hlt] at hleft
    obtain ⟨stored', hrun', hheld, hrest, hmoved⟩ := @fstpM80fp_holds H _ _ _ hleft hplain
    obtain rfl : stored = stored' := by
      rw [hrun] at hrun'
      cases hrun'
      rfl
    have hwritten : bytes = (Float80.encodeExt80 values[outs.length]).take 10 :=
      hbytes.eq hheld (by rw [hlen, List.length_take, length_encodeExt80]; rfl)
    refine ⟨transfer_wellFormed hctx hrun, ?_, ?_, ?_⟩
    · rw [List.length_append, List.length_singleton]
      exact hrest
    · rw [hmoved, htop, List.length_append, List.length_singleton, RingStack.ofNat_succ, add_assoc]
    · rw [List.length_append, List.length_singleton, List.take_succ_eq_append_getElem hlt,
        List.map_append, ← houts, hwritten]
      rfl

/-- Of the loaded operands the stores make the operands. -/
theorem encode_decode_operands {ops : List (List Byte)} (h : ∀ b ∈ ops, b.length = 10) :
    (ops.map Float80.decodeExt80).map (fun v => (Float80.encodeExt80 v).take 10) = ops := by
  rw [List.map_map]
  conv_rhs => rw [← List.map_id ops]
  apply List.map_congr_left
  intro b hb
  exact take_encodeExt80_decodeExt80 (h b hb)

/-- Ten bytes an operand. -/
theorem Loads.length_operands {ops : List (List Byte)} (h : Loads H s ops t) :
    ∀ b ∈ ops, b.length = 10 := by
  induction h with
  | nil => exact fun b hb => absurd hb List.not_mem_nil
  | fld _ _ hlen _ _ ih =>
    intro b hb
    rcases List.mem_append.mp hb with hb | hb
    · exact ih b hb
    · rw [List.mem_singleton.mp hb]
      exact hlen

/-- **Main result**: after up to eight `FLD m80` into an empty unit, an
`FLD m80` goes through while there is room, and with eight operands and the
exception masked changes no register, no tag and not TOP. Every `FSTP m80` to
plain memory goes through as long as an operand is left, and when as many were
stored as were loaded they are the same bytes in reverse, the registers are
empty and TOP is back. -/
theorem x87_lifo (hs : X87WellFormed s) (hempty : ∀ i, s.x87Tags i = kX87TagEmpty)
    {ops : List (List Byte)} (hloads : Loads H s ops t) (hn : ops.length ≤ 8) :
    (∀ (ctx : ExecutionContext) (bytes : List Byte), KeepsRegisters t ctx.state →
      ctx.memory.read (memoryAddress ctx.state ctx.instr) 10 .dataRead = some bytes →
      (ops.length < 8 → ∃ loaded, X87Transfer.fldM80fp.handler H ctx = .ok () loaded) ∧
      (ops.length = 8 → x87ExceptionsMasked ctx.state kX87ExceptionInvalid = true →
        ∃ loaded, X87Transfer.fldM80fp.handler H ctx = .ok () loaded ∧
          SameX87Registers ctx.state loaded.state)) ∧
    ∀ outs u, Stores H t outs u → outs.length ≤ ops.length →
      (outs.length < ops.length → ∀ ctx : ExecutionContext, KeepsRegisters u ctx.state →
        ctx.memory.PlainArea (memoryAddress ctx.state ctx.instr) 10 →
        ∃ stored bytes, X87Transfer.fstpM80fp.handler H ctx = .ok () stored ∧
          bytes.length = 10 ∧ stored.memory.Holds (memoryAddress ctx.state ctx.instr) bytes) ∧
      (outs.length = ops.length →
        outs = ops.reverse ∧ (∀ i, u.x87Tags i = kX87TagEmpty) ∧ u.x87Top = s.x87Top) := by
  have hnil : s.ring.Holds [] := RingStack.Holds.nil_iff.mpr fun i => if_pos (hempty i)
  obtain ⟨ht, hholds, htop⟩ := hloads.holds hs hnil hn
  have hcount : (ops.reverse.map Float80.decodeExt80).length = ops.length := by
    rw [List.length_map, List.length_reverse]
  refine ⟨fun ctx bytes hkept hread => ?_, fun outs u hstores hle => ?_⟩
  · obtain ⟨hctx, hsame⟩ := hkept ht
    rw [← hsame.ring] at hholds
    -- With room the load succeeds; the ninth load is refused and changes no register.
    refine ⟨fun hroom => ?_, fun hfull hmasked => ?_⟩
    · obtain ⟨loaded, hrun, -, -⟩ := @fldM80fp_room H _ _ _ hread hholds (hcount.symm ▸ hroom)
      exact ⟨loaded, hrun⟩
    · exact fldM80fp_full hread hctx hholds (hcount.trans hfull) hmasked
  · obtain ⟨hu, hleft, hmoved, houts⟩ := hstores.holds ht hholds (hcount.symm ▸ hle)
    refine ⟨fun hlt ctx hkept hplain => ?_, fun hall => ?_⟩
    · obtain ⟨hctx, hsame⟩ := hkept hu
      rw [← hsame.ring, List.drop_eq_getElem_cons (hcount.symm ▸ hlt)] at hleft
      obtain ⟨stored, hrun, hheld, -, -⟩ := @fstpM80fp_holds H _ _ _ hleft hplain
      refine ⟨stored, _, hrun, ?_, hheld⟩
      rw [List.length_take, length_encodeExt80]
      rfl
    · have hreversed := @encode_decode_operands ops.reverse fun b hb =>
        hloads.length_operands b (List.mem_reverse.mp hb)
      rw [List.take_of_length_le (by omega), hreversed] at houts
      rw [List.drop_of_length_le (by omega)] at hleft
      refine ⟨houts, fun i => ?_, top_eq_of_ring hs hu ?_⟩
      -- All values popped: the ring is empty, and so is every tag.
      · by_contra htag
        have hnone := RingStack.Holds.nil_iff.mp hleft i
        have hsome : u.ring.cells i = some (u.x87Stack i) := if_neg htag
        rw [hsome] at hnone
        cases hnone
      · rw [hmoved, hall, htop]

end

/-! ## Two operands -/

/-- An operand at the start of a page. -/
def operandContext (s : CpuState) (bytes : List Byte) : ExecutionContext :=
  { imageContext s with
    memory := (imageContext s).memory.putAll 0x1000#64 (byteStores 0 bytes) }

/-- A NaN that is not quiet. -/
def signallingBytes : List Byte :=
  [0x01#8, 0x00#8, 0x00#8, 0x00#8, 0x00#8, 0x00#8, 0x00#8, 0x80#8, 0xFF#8, 0x7F#8]

/-- An exponent, and no leading one. -/
def unnormalBytes : List Byte :=
  [0x05#8, 0x00#8, 0x00#8, 0x00#8, 0x00#8, 0x00#8, 0x00#8, 0x00#8, 0x00#8, 0x40#8]

/-- A context with the stack of another. -/
def withStackOf (u : CpuState) : CpuState :=
  { emptyStack with
    x87Stack := u.x87Stack, x87Tags := u.x87Tags, x87Top := u.x87Top
    x87StatusWord := u.x87StatusWord }

/-- The witness' stack is kept by moves elsewhere. -/
theorem withStackOf_keeps (u : CpuState) : KeepsRegisters u (withStackOf u) :=
  fun h => ⟨⟨h.top_lt, h.top_eq, h.tags⟩, rfl, rfl, rfl⟩

/-- The operand's address. -/
theorem operandContext_address (u : CpuState) (bytes : List Byte) :
    memoryAddress (operandContext (withStackOf u) bytes).state
      (operandContext (withStackOf u) bytes).instr = 0x1000#64 :=
  @imageContext_address (withStackOf u) rfl

/-- The operand. -/
theorem operandContext_read (u : CpuState) {bytes : List Byte} (hbytes : (operandContext emptyStack
      bytes).memory.read 0x1000#64 10 .dataRead = some bytes) :
    (operandContext (withStackOf u) bytes).memory.read
      (memoryAddress (operandContext (withStackOf u) bytes).state
        (operandContext (withStackOf u) bytes).instr) 10 .dataRead = some bytes := by
  rw [operandContext_address]
  exact hbytes

/-- The destination. -/
theorem operandContext_plain (u : CpuState) : (operandContext (withStackOf u) []).memory.PlainArea
    (memoryAddress (operandContext (withStackOf u) []).state
      (operandContext (withStackOf u) []).instr) 10 := by
  rw [operandContext_address]
  exact (imageContext_page _).mono (by decide)

/-- A NaN that is not quiet and a number without its leading one, in and out
again. -/
theorem x87_lifo_two : ∃ t u, Loads bitwiseHost emptyStack [signallingBytes, unnormalBytes] t ∧
    Stores bitwiseHost t [unnormalBytes, signallingBytes] u ∧
    (∀ i, u.x87Tags i = kX87TagEmpty) ∧ u.x87Top = 0#8 := by
  have hempty : ∀ i, emptyStack.x87Tags i = kX87TagEmpty := fun _ => rfl
  have hsignalling := fun u => @operandContext_read u signallingBytes (by decide +kernel)
  have hunnormal := fun u => @operandContext_read u unnormalBytes (by decide +kernel)
  -- two loads
  have hloads := @Loads.nil bitwiseHost emptyStack
  obtain ⟨c, hrun⟩ := ((x87_lifo emptyStack_wellFormed hempty hloads (by decide)).1 _ _
    (withStackOf_keeps _) (hsignalling _)).1 (by decide)
  have hloads := hloads.fld (withStackOf_keeps _) rfl (hsignalling _) hrun
  obtain ⟨c, hrun⟩ := ((x87_lifo emptyStack_wellFormed hempty hloads (by decide)).1 _ _
    (withStackOf_keeps _) (hunnormal _)).1 (by decide)
  have hloads := hloads.fld (withStackOf_keeps _) rfl (hunnormal _) hrun
  -- and two stores
  have hlater := (x87_lifo emptyStack_wellFormed hempty hloads (by decide)).2
  have hstores := @Stores.nil bitwiseHost c.state
  obtain ⟨d, bytes, hrun, hlen, hheld⟩ := (hlater _ _ hstores (by decide)).1 (by decide) _
    (withStackOf_keeps _) (operandContext_plain _)
  have hstores := hstores.fstp (withStackOf_keeps _) (operandContext_plain _) hrun hlen hheld
  obtain ⟨e, bytes', hrun, hlen, hheld⟩ :=
    (hlater _ _ hstores (Nat.le_succ 1)).1 (Nat.lt_succ_self 1) _
    (withStackOf_keeps _) (operandContext_plain _)
  have hstores := hstores.fstp (withStackOf_keeps _) (operandContext_plain _) hrun hlen hheld
  obtain ⟨houts, htags, htop⟩ := (hlater _ _ hstores (Nat.le_refl 2)).2 rfl
  rw [houts] at hstores
  exact ⟨_, _, hloads, hstores, htags, htop⟩

end Seven
