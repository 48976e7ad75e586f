import Mathlib.Tactic.Common

/-!
# Caches guarded by an epoch

A cache in front of a mutable backing store stamps each slot with the
store's *epoch* at fill time and serves it only while the epoch is the
same. Nothing is invalidated eagerly, so whether a hit is right depends on
the whole history between the fill and the hit.

`EpochHistory` is what a store must provide: a preorder `Before` on its
states ("this one can have come earlier"), the epoch of a state, the facts
a slot may record about it, and the one law `stable` — a fact recorded
earlier still holds if the epoch is the same. A cache is `Coherent` when
every slot's content was a fact of some earlier state with the slot's
epoch.

The rules follow the life of a slot: `coherent_empty` (construction),
`coherent_update` (one slot is refilled with a present fact, or made
unservable), `coherent_advance` (the store moves on), and `coherent_hit`, the
reason for all of them: what a servable slot records holds now.
-/

namespace Seven.Lib

/-- A backing store's states, ordered by time, with an epoch under which
recorded facts stay true. -/
structure EpochHistory (S E K V : Type*) where
  Before : S → S → Prop
  refl : ∀ s, Before s s
  trans : ∀ {a b c}, Before a b → Before b c → Before a c
  epoch : S → E
  Holds : S → K → V → Prop
  stable : ∀ {a b}, Before a b → epoch a = epoch b → ∀ {k v}, Holds a k v → Holds b k v

variable {S E K V ι : Type*} {H : EpochHistory S E K V}

/-- What a slot records: a key, the epoch of its fill and a value; `none`
when the slot cannot be served. -/
abbrev Slots (ι K E V : Type*) := ι → Option (K × E × V)

/-- Every slot records a fact of an earlier state, under its epoch. -/
def Coherent (H : EpochHistory S E K V) (now : S) (slots : Slots ι K E V) : Prop :=
  ∀ i k e v, slots i = some (k, e, v) → ∃ past, H.Before past now ∧ H.epoch past = e ∧ H.Holds past k v

/-- The empty cache. -/
theorem coherent_empty (now : S) : Coherent H now (fun _ : ι => none) := by
  intro i k e v h
  cases h

/-- **A hit is right**: a slot with the present epoch records a present
fact. -/
theorem coherent_hit {now : S} {slots : Slots ι K E V} (h : Coherent H now slots) {i : ι} {k : K}
    {e : E} {v : V} (hslot : slots i = some (k, e, v)) (he : e = H.epoch now) :
    H.Holds now k v := by
  obtain ⟨past, hbefore, hepoch, hholds⟩ := h i k e v hslot
  exact H.stable hbefore (hepoch.trans he) hholds

/-- The store moves on; no slot is touched. -/
theorem coherent_advance {now next : S} {slots : Slots ι K E V} (h : Coherent H now slots)
    (hnext : H.Before now next) : Coherent H next slots := by
  intro i k e v hslot
  obtain ⟨past, hbefore, hrest⟩ := h i k e v hslot
  exact ⟨past, H.trans hbefore hnext, hrest⟩

/-- One slot changes; it is unservable or records a present fact. -/
theorem coherent_update {now : S} {slots slots' : Slots ι K E V} (h : Coherent H now slots) (i : ι)
    (hother : ∀ j, j ≠ i → slots' j = slots j)
    (hslot : ∀ k e v, slots' i = some (k, e, v) → e = H.epoch now ∧ H.Holds now k v) :
    Coherent H now slots' := by
  intro j k e v hj
  by_cases hji : j = i
  · subst hji
    obtain ⟨he, hholds⟩ := hslot k e v hj
    exact ⟨now, H.refl now, he.symm, hholds⟩
  · rw [hother j hji] at hj
    exact h j k e v hj

end Seven.Lib
