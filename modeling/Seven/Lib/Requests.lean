import Mathlib.Tactic.Common

/-!
# Computations that can only ask

A `Requests Op Ans α` ends with a value, or asks an `Op` and goes on with
the answer. It has no other way to a state: what serves the requests does.
So the requests of a run are all it did, in order, and `trace` lists them,
each with the state it was served in.

`run` and `trace` follow the sequencing of computations: the run of a bind is
the bind of the runs (`run_bind`), its trace is the trace of the first part
and, when that succeeds, the trace of the second from where the first ended
(`trace_bind_ok`, `trace_bind_error`).
-/

namespace Seven.Lib

/-- A program that asks its environment: an operation, and a program for each answer. -/
inductive Requests (Op : Type) (Ans : Op → Type) (α : Type) where
  | done (a : α)
  | ask (op : Op) (next : Ans op → Requests Op Ans α)

namespace Requests

variable {Op : Type} {Ans : Op → Type} {α β : Type}

protected def bind : Requests Op Ans α → (α → Requests Op Ans β) → Requests Op Ans β
  | .done a, f => f a
  | .ask op next, f => .ask op fun x => (next x).bind f

instance : Monad (Requests Op Ans) where
  pure := .done
  bind := Requests.bind

/-- Nothing behind. -/
protected theorem bind_done (m : Requests Op Ans α) : m.bind .done = m := by
  induction m with
  | done a => rfl
  | ask op next ih => exact congrArg (ask op) (funext ih)

/-- Binding is associative. -/
protected theorem bind_assoc {γ : Type} (m : Requests Op Ans α) (f : α → Requests Op Ans β)
    (g : β → Requests Op Ans γ) : (m.bind f).bind g = m.bind fun a => (f a).bind g := by
  induction m with
  | done a => rfl
  | ask op next ih => exact congrArg (ask op) (funext ih)

instance : LawfulMonad (Requests Op Ans) :=
  LawfulMonad.mk' _ Requests.bind_done (fun _ _ => rfl) Requests.bind_assoc

/-- A single request. -/
def request (op : Op) : Requests Op Ans (Ans op) := .ask op .done

section

variable {ε σ : Type} (serve : (op : Op) → EStateM ε σ (Ans op))

/-- Carry the computation out. -/
def run : Requests Op Ans α → EStateM ε σ α
  | .done a => pure a
  | .ask op next => do
    let x ← serve op
    run (next x)

/-- The requests of a run. -/
def trace : Requests Op Ans α → σ → List (σ × Op)
  | .done _, _ => []
  | .ask op next, s =>
    (s, op) ::
      match serve op s with
      | .ok x s' => trace (next x) s'
      | .error _ _ => []

/-! ## Runs -/

/-- A value asks nothing. -/
@[simp] theorem run_pure (a : α) : run serve (pure a : Requests Op Ans α) = pure a := rfl

/-- **A run follows the sequencing.** -/
theorem run_bind (m : Requests Op Ans α) (f : α → Requests Op Ans β) :
    run serve (m >>= f) = run serve m >>= fun a => run serve (f a) := by
  induction m with
  | done a => exact (pure_bind a fun a => run serve (f a)).symm
  | ask op next ih =>
    show (serve op >>= fun x => run serve (next x >>= f)) =
      (serve op >>= fun x => run serve (next x)) >>= fun a => run serve (f a)
    rw [bind_assoc]
    congr 1
    funext x
    exact ih x

/-! ## Traces -/

variable {serve} {m : Requests Op Ans α} {f : α → Requests Op Ans β} {s s' : σ}

/-- An answered request is the first of the trace. -/
theorem trace_ask_ok {op : Op} {next : Ans op → Requests Op Ans α} {x : Ans op}
    (h : serve op s = .ok x s') :
    trace serve (.ask op next) s = (s, op) :: trace serve (next x) s' := by
  rw [trace, h]

/-- A refused request is the last. -/
theorem trace_ask_error {op : Op} {next : Ans op → Requests Op Ans α} {e : ε}
    (h : serve op s = .error e s') : trace serve (.ask op next) s = [(s, op)] := by
  rw [trace, h]

/-- The run behind an answered request. -/
theorem run_ask_ok {op : Op} {next : Ans op → Requests Op Ans α} {x : Ans op}
    (h : serve op s = .ok x s') : run serve (.ask op next) s = run serve (next x) s' := by
  show EStateM.bind (serve op) (fun x => run serve (next x)) s = _
  unfold EStateM.bind
  rw [h]

/-- The run at a refused request. -/
theorem run_ask_error {op : Op} {next : Ans op → Requests Op Ans α} {e : ε}
    (h : serve op s = .error e s') : run serve (.ask op next) s = .error e s' := by
  show EStateM.bind (serve op) (fun x => run serve (next x)) s = _
  unfold EStateM.bind
  rw [h]

/-- **Behind a first part that succeeds comes the second part's trace.** -/
theorem trace_bind_ok {a : α} (h : run serve m s = .ok a s') :
    trace serve (m >>= f) s = trace serve m s ++ trace serve (f a) s' := by
  induction m generalizing s with
  | done b =>
    cases h
    rfl
  | ask op next ih =>
    show trace serve (.ask op fun x => next x >>= f) s = _
    cases hserve : serve op s with
    | ok x t =>
      rw [run_ask_ok hserve] at h
      rw [trace_ask_ok hserve, trace_ask_ok hserve, ih x h]
      rfl
    | error e t =>
      rw [run_ask_error hserve] at h
      cases h

/-- A first part that fails is all there is. -/
theorem trace_bind_error {e : ε} (h : run serve m s = .error e s') :
    trace serve (m >>= f) s = trace serve m s := by
  induction m generalizing s with
  | done b => cases h
  | ask op next ih =>
    show trace serve (.ask op fun x => next x >>= f) s = _
    cases hserve : serve op s with
    | ok x t =>
      rw [run_ask_ok hserve] at h
      rw [trace_ask_ok hserve, trace_ask_ok hserve, ih x h]
    | error e' t => rw [trace_ask_error hserve, trace_ask_error hserve]

end

/-! ## What a computation asks for -/

/-- Whatever the answers, the computation asks for `P` only. -/
def Asks (P : Op → Prop) : Requests Op Ans α → Prop
  | .done _ => True
  | .ask op next => P op ∧ ∀ x, Asks P (next x)

section asks

variable {P : Op → Prop}

/-- A value asks nothing. -/
theorem Asks.pure (a : α) : Asks P (pure a : Requests Op Ans α) := trivial

/-- One request. -/
theorem Asks.request {op : Op} (h : P op) : Asks P (request op : Requests Op Ans (Ans op)) :=
  ⟨h, fun _ => trivial⟩

/-- One after the other. -/
theorem Asks.bind {m : Requests Op Ans α} {f : α → Requests Op Ans β} (h : Asks P m)
    (h' : ∀ a, Asks P (f a)) : Asks P (m >>= f) := by
  induction m with
  | done a => exact h' a
  | ask op next ih => exact ⟨h.1, fun x => ih x (h.2 x)⟩

/-- Either branch. -/
theorem Asks.ite {c : Prop} [Decidable c] {m n : Requests Op Ans α} (h : Asks P m)
    (h' : Asks P n) : Asks P (if c then m else n) := by
  split
  next => exact h
  next => exact h'

end asks

/-- Results of two runs that agree, in states related by `R`. -/
def ResultsAgree {ε σ : Type} (R : σ → σ → Prop) :
    EStateM.Result ε σ α → EStateM.Result ε σ α → Prop
  | .ok a s, .ok b t => a = b ∧ R s t
  | .error e s, .error d t => e = d ∧ R s t
  | _, _ => False

/-- **Served alike, a computation runs alike.** -/
theorem run_agree {ε σ : Type} {serve : (op : Op) → EStateM ε σ (Ans op)} {R : σ → σ → Prop}
    {P : Op → Prop}
    (hserve : ∀ op s t, P op → R s t → ResultsAgree R (serve op s) (serve op t))
    {m : Requests Op Ans α} (hm : Asks P m) {s t : σ} (h : R s t) :
    ResultsAgree R (run serve m s) (run serve m t) := by
  induction m generalizing s t with
  | done a => exact ⟨rfl, h⟩
  | ask op next ih =>
    -- `serve` agrees on the request, so both runs go the same way.
    have hfirst := hserve op s t hm.1 h
    cases hs : serve op s with
    | ok x s' =>
      cases ht : serve op t with
      | ok y t' =>
        rw [hs, ht] at hfirst
        obtain ⟨rfl, hnext⟩ := hfirst
        rw [run_ask_ok hs, run_ask_ok ht]
        exact ih x (hm.2 x) hnext
      | error e t' =>
        rw [hs, ht] at hfirst
        exact hfirst.elim
    | error d s' =>
      cases ht : serve op t with
      | ok y t' =>
        rw [hs, ht] at hfirst
        exact hfirst.elim
      | error e t' =>
        rw [hs, ht] at hfirst
        rw [run_ask_error hs, run_ask_error ht]
        exact hfirst

end Requests

end Seven.Lib
