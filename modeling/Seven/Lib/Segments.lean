import Mathlib.Data.List.SplitBy

/-!
# Cutting a trace into segments

A trace is cut wherever an element does not follow on the one before it.
Offline that is `List.splitBy`. Online an observer sees the elements one by one
and announces those that begin a segment; it only has to remember the last.
The two agree:

> `starts_append`: the announcement at one more element depends on the last.
> `filterMap_head_splitBy`: what is announced are the heads of the segments.
-/

namespace Seven.Lib

variable {α : Type*} (follows : α → α → Bool)

/-- What begins a segment behind `a`. -/
def startsAfter : α → List α → List α
  | _, [] => []
  | a, b :: l => if follows a b then startsAfter b l else b :: startsAfter b l

/-- The elements that begin a segment. -/
def starts : List α → List α
  | [] => []
  | a :: l => a :: startsAfter follows a l

variable {follows}

/-- One element more, at the end. -/
theorem startsAfter_append (a b : α) (l : List α) :
    startsAfter follows a (l ++ [b]) = startsAfter follows a l ++
      if follows (l.getLast?.getD a) b then [] else [b] := by
  induction l generalizing a with
  | nil =>
    rw [List.nil_append, startsAfter, startsAfter]
    rfl
  | cons c l ih =>
    have hlast : (c :: l).getLast?.getD a = l.getLast?.getD c := by
      rw [List.getLast?_cons]
      rfl
    rw [List.cons_append, startsAfter, startsAfter, ih, hlast]
    by_cases hc : follows a c = true
    · rw [if_pos hc, if_pos hc]
    · rw [if_neg hc, if_neg hc, List.cons_append]

/-- **One more element.** -/
theorem starts_append (l : List α) (b : α) :
    starts follows (l ++ [b]) = starts follows l ++
      if l.getLast?.any (follows · b) then [] else [b] := by
  cases l with
  | nil => rfl
  | cons a l =>
    have hlast : (a :: l).getLast?.any (follows · b) = follows (l.getLast?.getD a) b := by
      rw [List.getLast?_cons]
      rfl
    rw [List.cons_append, starts, starts, startsAfter_append, hlast, List.cons_append]

/-- The heads of the groups, in the loop of `splitBy`. -/
theorem filterMap_head_splitByLoop (a : α) (g l : List α) (gs : List (List α)) :
    (List.splitBy.loop follows l a g gs).filterMap List.head? =
      gs.reverse.filterMap List.head? ++ (g.reverse ++ [a]).head?.toList ++
        startsAfter follows a l := by
  induction l generalizing a g gs with
  | nil =>
    rw [List.splitBy.loop, startsAfter, List.append_nil, List.reverse_cons, List.filterMap_append,
      List.reverse_cons]
    cases g.reverse <;> rfl
  | cons b l ih =>
    rw [List.splitBy.loop, startsAfter]
    cases hb : follows a b with
    | true =>
      dsimp only
      rw [ih, if_pos rfl, List.reverse_cons, List.append_assoc, List.append_assoc]
      cases g.reverse <;> simp
    | false =>
      dsimp only
      rw [ih, if_neg Bool.false_ne_true, List.reverse_cons, List.filterMap_append,
        List.reverse_cons]
      cases g.reverse <;> simp

/-- **The heads of the segments are what was announced.** -/
theorem filterMap_head_splitBy (l : List α) :
    (l.splitBy follows).filterMap List.head? = starts follows l := by
  cases l with
  | nil => rfl
  | cons a l =>
    rw [List.splitBy, filterMap_head_splitByLoop]
    rfl

end Seven.Lib
