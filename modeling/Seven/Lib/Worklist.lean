import Seven.Lib.Commutes

/-!
# Work done item by item

`each step as` runs a step for every item of a list, in order, up to the
first that fails. A program is `Resumable` when its state says which items
are left: it runs the steps of those, a step that succeeds takes its item
off, and one that fails changes nothing.

Such a program can be stopped anywhere. `Resumable.stops` says where it is
when it fails: behind some of the items, with exactly the others left.
`Resumable.resumes` says that a change of the state that removes the cause
can be made there as well as at the start: the program, run again, goes on
to the same end.
-/

namespace Seven.Lib

variable {ε σ α : Type}

/-- The items one after the other, until one fails. -/
def each (step : α → EStateM ε σ Unit) : List α → EStateM ε σ Unit
  | [] => pure ()
  | a :: as => step a >>= fun _ => each step as

/-- `Left s as`: in the state `s` the items `as` are left. -/
structure Resumable (run : EStateM ε σ Unit) (step : α → EStateM ε σ Unit)
    (Left : σ → List α → Prop) : Prop where
  runs : ∀ s as, Left s as → run s = each step as s
  advances : ∀ a as s t, Left s (a :: as) → step a s = .ok () t → Left t as
  refuses : ∀ a as s t e, Left s (a :: as) → step a s = .error e t → t = s

section

variable {step : α → EStateM ε σ Unit} {s t : σ} {a : α} {as bs : List α}

/-- An item that goes through. -/
theorem each_cons_ok (h : step a s = .ok () t) : each step (a :: as) s = each step as t := bind_ok h

/-- Behind the first items the others are done from there. -/
theorem each_append_ok (h : each step as s = .ok () t) :
    each step (as ++ bs) s = each step bs t := by
  induction as generalizing s with
  | nil =>
    cases h
    rfl
  | cons a as ih =>
    obtain ⟨_, u, hstep, hrest⟩ := of_bind_ok h
    exact (each_cons_ok hstep).trans (ih hrest)

/-- A failure is that of one item, behind those before it. -/
theorem of_each_error {e : ε} (h : each step as s = .error e t) :
    ∃ before a after u, as = before ++ a :: after ∧ each step before s = .ok () u ∧
      step a u = .error e t := by
  induction as generalizing s with
  | nil => cases h
  | cons a as ih =>
    rcases of_bind_error h with hstep | ⟨_, u, hstep, hrest⟩
    · exact ⟨[], a, as, s, rfl, rfl, hstep⟩
    · obtain ⟨before, b, after, v, hsplit, hbefore, hfails⟩ := ih hrest
      refine ⟨a :: before, b, after, v, ?_, (each_cons_ok hstep).trans hbefore, hfails⟩
      rw [hsplit, List.cons_append]

end

namespace Resumable

variable {run : EStateM ε σ Unit} {step : α → EStateM ε σ Unit} {Left : σ → List α → Prop}
  (hwork : Resumable run step Left) {s t : σ} {as bs : List α}

include hwork

/-- The items done are taken off. -/
theorem left (hleft : Left s (as ++ bs)) (h : each step as s = .ok () t) : Left t bs := by
  induction as generalizing s with
  | nil =>
    cases h
    exact hleft
  | cons a as ih =>
    obtain ⟨_, u, hstep, hrest⟩ := of_bind_ok h
    exact ih (hwork.advances a (as ++ bs) s u hleft hstep) hrest

/-- A program that succeeds has nothing left. -/
theorem done (hleft : Left s as) (h : run s = .ok () t) : Left t [] := by
  rw [hwork.runs s as hleft] at h
  exact hwork.left (by rwa [List.append_nil]) h

/-- **Where it stops**: some items are done, the others left. -/
theorem stops {e : ε} (hleft : Left s as) (h : run s = .error e t) :
    ∃ before a after, as = before ++ a :: after ∧ each step before s = .ok () t ∧
      Left t (a :: after) ∧ step a t = .error e t := by
  rw [hwork.runs s as hleft] at h
  obtain ⟨before, a, after, u, rfl, hbefore, hfails⟩ := of_each_error h
  have hremain := hwork.left hleft hbefore
  obtain rfl := hwork.refuses a after u t e hremain hfails
  exact ⟨before, a, after, rfl, hbefore, hremain, hfails⟩

/-- **Where it goes on**: a change that keeps what is left, and that no step
which succeeds can tell, may as well be made at the stop. -/
theorem resumes {e : ε} {P : σ → Prop} {f : σ → σ} (hkeep : ∀ u bs, Left u bs → Left (f u) bs)
    (hcarry : ∀ a bs u v, Left u (a :: bs) → P u → step a u = .ok () v →
      step a (f u) = .ok () (f v) ∧ P v)
    (hleft : Left s as) (hP : P s) (h : run s = .error e t) : run (f t) = run (f s) := by
  obtain ⟨before, a, after, rfl, hbefore, hremain, -⟩ := hwork.stops hleft h
  have hcarried : ∀ (bs : List α) (u : σ), Left u (bs ++ a :: after) → P u →
      each step bs u = .ok () t → each step bs (f u) = .ok () (f t) := by
    intro bs
    induction bs with
    | nil =>
      intro u _ _ hdone
      cases hdone
      rfl
    | cons b bs ih =>
      intro u hu hPu hdone
      obtain ⟨_, v, hstep, hrest⟩ := of_bind_ok hdone
      obtain ⟨hstep', hPv⟩ := hcarry b (bs ++ a :: after) u v hu hPu hstep
      exact (each_cons_ok hstep').trans
        (ih v (hwork.advances b (bs ++ a :: after) u v hu hstep) hPv hrest)
  rw [hwork.runs _ _ (hkeep _ _ hleft), hwork.runs _ _ (hkeep _ _ hremain)]
  exact (each_append_ok (hcarried before s hleft hP hbefore)).symm

end Resumable

end Seven.Lib
