/-
Module: TaskGraph.Sorting.Search
Purpose: How many items at the start of a list pass a test, where tests are dear and the
  number is thought to be small.
Main exports:
  Sorting.leading
-/

namespace TaskGraph.Sorting

/-! The test is asked at distances that grow by doubling, and then by halving between the
last item that passed and the first one that did not.  If the items that pass all come
first, the answer is their number; if not, the steps decide. -/

section Search

variable {ε α : Type} (passes : α → Except ε Bool)

/-- Ask the test about the item at a place, which is in the list. -/
def passesAt (xs : List α) (place : Nat) : Except ε Bool :=
  match xs[place]? with
  | some x => passes x
  | none => .ok false

/-- The range in which the first item lies that does not pass: behind the last place that
passed, and not behind the first one that did not.  `reached` is known to pass, `next` is
the place to ask about. -/
def widen (xs : List α) : Nat → Nat → Nat → Except ε (Nat × Nat)
  | 0, reached, next => .ok (reached + 1, min next xs.length)
  | fuel + 1, reached, next =>
    if next < xs.length then do
      if ← passesAt passes xs next then widen xs fuel next (2 * next + 1)
      else .ok (reached + 1, next)
    else .ok (reached + 1, xs.length)

/-- The place between two others at which a search is halved.  Of two middle places the
second one is taken, or the first one where the list is seen from its end. -/
def middle (fromEnd : Bool) (low high : Nat) : Nat :=
  let half := (high - low) / 2
  if fromEnd then high - 1 - half else low + half

/-- The first place from `low` on, and not behind `high`, whose item does not pass. -/
def narrow (fromEnd : Bool) (xs : List α) : Nat → Nat → Nat → Except ε Nat
  | 0, low, _ => .ok low
  | fuel + 1, low, high =>
    if low < high then do
      let place := middle fromEnd low high
      if ← passesAt passes xs place then narrow fromEnd xs fuel (place + 1) high
      else narrow fromEnd xs fuel low place
    else .ok low

/-- The number of items at the start of a list that pass a test. -/
def leading (fromEnd : Bool) (xs : List α) : Except ε Nat := do
  if ← passesAt passes xs 0 then
    let (low, high) ← widen passes xs xs.length 0 1
    narrow passes fromEnd xs xs.length low high
  else .ok 0

end Search

end TaskGraph.Sorting
