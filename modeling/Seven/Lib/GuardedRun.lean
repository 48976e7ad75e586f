import Mathlib.Tactic.Common

/-!
# Runs whose steps meet a condition

A system is a partial step function `step : S → A → Option S`, where `none`
means the action is not enabled. When the system keeps a property only as
long as its users stay within some limits, the limits are a condition on a
state and the action taken in it, and the property is claimed of the
*guarded* runs: those in which every step meets the condition.

`GuardedRun.invariant` is the induction: what every guarded step preserves,
every guarded run preserves. `runGuarded` computes a guarded run, for
concrete ones.
-/

namespace Seven.Lib

variable {S A : Type*}

/-- `GuardedRun step ok s as t`: from `s` the actions `as` lead to `t`, and
each of them meets `ok` in the state it is taken in. -/
inductive GuardedRun (step : S → A → Option S) (ok : S → A → Prop) : S → List A → S → Prop
  | nil (s : S) : GuardedRun step ok s [] s
  | cons {s t u : S} {a : A} {as : List A} (hok : ok s a) (hstep : step s a = some t)
      (hrest : GuardedRun step ok t as u) : GuardedRun step ok s (a :: as) u

namespace GuardedRun

variable {step : S → A → Option S} {ok : S → A → Prop}

/-- **The induction over a guarded run.** -/
theorem invariant {I : S → Prop} (hpres : ∀ s a t, I s → ok s a → step s a = some t → I t)
    {s t : S} {as : List A} (hrun : GuardedRun step ok s as t) (hI : I s) : I t := by
  induction hrun with
  | nil s => exact hI
  | cons hok hstep _ ih => exact ih (hpres _ _ _ hI hok hstep)

end GuardedRun

/-- The guarded run of a list of actions, if there is one. -/
def runGuarded (step : S → A → Option S) (ok : S → A → Prop) [∀ s a, Decidable (ok s a)] :
    S → List A → Option S
  | s, [] => some s
  | s, a :: as => if ok s a then (step s a).bind fun t => runGuarded step ok t as else none

/-- What the run function reaches is a run. -/
theorem guardedRun_of_runGuarded {step : S → A → Option S} {ok : S → A → Prop}
    [∀ s a, Decidable (ok s a)] :
    ∀ {as : List A} {s t : S}, runGuarded step ok s as = some t → GuardedRun step ok s as t
  | [], s, t, h => Option.some.inj h ▸ GuardedRun.nil s
  | a :: as, s, t, h => by
    unfold runGuarded at h
    split at h
    next hok =>
      obtain ⟨u, hstep, hrest⟩ := Option.bind_eq_some_iff.mp h
      exact GuardedRun.cons hok hstep (guardedRun_of_runGuarded hrest)
    next => cases h

end Seven.Lib
