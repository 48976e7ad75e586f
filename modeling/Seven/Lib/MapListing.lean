import Std.Data.ExtTreeMap.Lemmas
import Mathlib.Data.List.Perm.Subperm

/-!
# Rebuilding a map from its entries

A hash map is written out entry by entry, in whatever order it hands them out,
and rebuilt by `emplace`, which keeps the first value of a key.
`emplaceAll_listing`: any listing of a map's entries rebuilds the map.
-/

namespace Seven.Lib

variable {β : Type}

/-- `emplace` of one entry after the other. -/
def emplaceAll (t : Std.ExtTreeMap Nat β) (entries : List (Nat × β)) : Std.ExtTreeMap Nat β :=
  entries.foldl (fun t entry => t.insertIfNew entry.1 entry.2) t

/-- What a key holds afterwards: what it held, else its first entry. -/
theorem emplaceAll_getElem? (t : Std.ExtTreeMap Nat β) (entries : List (Nat × β)) (j : Nat) :
    (emplaceAll t entries)[j]? =
      (t[j]?).or ((entries.find? fun entry => entry.1 == j).map Prod.snd) := by
  induction entries generalizing t with
  | nil =>
    show t[j]? = (t[j]?).or none
    rw [Option.or_none]
  | cons entry entries ih =>
    show (emplaceAll (t.insertIfNew entry.1 entry.2) entries)[j]? = _
    rw [ih, Std.ExtTreeMap.getElem?_insertIfNew]
    by_cases hkey : entry.1 = j
    · rw [List.find?_cons_of_pos (by simpa using hkey)]
      by_cases hmem : entry.1 ∈ t
      · rw [if_neg (fun h => h.2 hmem)]
        obtain ⟨v, hv⟩ := Option.isSome_iff_exists.mp
          (Std.ExtTreeMap.mem_iff_isSome_getElem?.mp (hkey ▸ hmem))
        rw [hv, Option.some_or, Option.some_or]
      · rw [if_pos ⟨Nat.compare_eq_eq.mpr hkey, hmem⟩]
        rw [hkey] at hmem
        rw [Std.ExtTreeMap.getElem?_eq_none hmem, Option.none_or, Option.some_or]
        rfl
    · rw [List.find?_cons_of_neg (by simpa using hkey), if_neg (by simp [hkey])]

/-- A key of the rebuilt map comes from the entries. -/
theorem mem_of_emplaceAll {entries : List (Nat × β)} {j : Nat} {v : β}
    (h : (emplaceAll ∅ entries)[j]? = some v) : (j, v) ∈ entries := by
  rw [emplaceAll_getElem?, Std.ExtTreeMap.getElem?_empty, Option.none_or,
    Option.map_eq_some_iff] at h
  obtain ⟨entry, hfind, hv⟩ := h
  have hkey : entry.1 = j := by simpa using List.find?_some hfind
  rw [← hkey, ← hv]
  exact List.mem_of_find?_eq_some hfind

/-- **Any listing rebuilds the map.** -/
theorem emplaceAll_listing {t : Std.ExtTreeMap Nat β} {entries : List (Nat × β)}
    (h : entries.Perm t.toList) : emplaceAll ∅ entries = t := by
  have hlisted : ∀ j v, (j, v) ∈ entries ↔ t[j]? = some v := by
    intro j v
    rw [h.mem_iff, Std.ExtTreeMap.mem_toList_iff_getElem?_eq_some]
  -- A key outside the map has no entry; a key of the map has one, whichever comes first.
  apply Std.ExtTreeMap.ext_getElem?
  intro j
  cases hj : t[j]? with
  | none =>
    rw [Option.eq_none_iff_forall_ne_some]
    intro v hv
    have := (hlisted j v).mp (mem_of_emplaceAll hv)
    rw [hj] at this
    cases this
  | some v =>
    rw [emplaceAll_getElem?, Std.ExtTreeMap.getElem?_empty, Option.none_or]
    cases hfind : entries.find? fun entry => entry.1 == j with
    | none =>
      have hnone := List.find?_eq_none.mp hfind (j, v) ((hlisted j v).mpr hj)
      exact absurd (beq_self_eq_true j) hnone
    | some entry =>
      have hkey : entry.1 = j := by simpa using List.find?_some hfind
      have hmem := (hlisted entry.1 entry.2).mp (List.mem_of_find?_eq_some hfind)
      rw [hkey, hj] at hmem
      exact hmem.symm

/-- Keys below `n` leave room for at most `n` entries. -/
theorem length_toList_le {t : Std.ExtTreeMap Nat β} {n : Nat}
    (h : ∀ (j : Nat) (v : β), t[j]? = some v → j < n) : t.toList.length ≤ n := by
  have hnodup : (t.toList.map Prod.fst).Nodup := by
    rw [List.nodup_iff_pairwise_ne, List.pairwise_map]
    refine List.Pairwise.imp ?_ Std.ExtTreeMap.distinct_keys_toList
    intro x y hne heq
    exact hne (Nat.compare_eq_eq.mpr heq)
  have hsub : t.toList.map Prod.fst ⊆ List.range n := by
    intro j hj
    obtain ⟨⟨_, v⟩, hmem, rfl⟩ := List.mem_map.mp hj
    exact List.mem_range.mpr (h _ v (Std.ExtTreeMap.mem_toList_iff_getElem?_eq_some.mp hmem))
  have hle := (List.subperm_of_subset hnodup hsub).length_le
  rwa [List.length_map, List.length_range] at hle

end Seven.Lib
