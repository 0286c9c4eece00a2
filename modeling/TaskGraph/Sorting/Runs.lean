/-
Module: TaskGraph.Sorting.Runs
Purpose: Sorting a list by the runs that it holds already.
Main exports:
  Sorting.sort
-/
import TaskGraph.Sorting.Merge

namespace TaskGraph.Sorting

/-! A list is cut into runs that are in order, or become so when they are turned round.  Runs
that are too short are filled up, and neighboring runs are merged so that the merges are
nearly balanced.  Where the order is one, this is a stable sort.  Where it is not, as with
values that are in no order to any other, the steps decide what comes out. -/

section Runs

variable {ε α : Type} (before : α → α → Except ε Bool)

/-! ### Runs -/

/-- The longest start of a list in which each item is before the last one, or none is, and
the rest of the list; `run` holds the start in reverse. -/
def splitRun (down : Bool) (last : α) (run : List α) : List α → Except ε (List α × List α)
  | [] => .ok (run, [])
  | x :: rest => do
    if (← before x last) = down then splitRun down x (x :: run) rest
    else .ok (run, x :: rest)

/-- The run at the start of a list, in order, and the rest of the list. -/
def firstRun : List α → Except ε (List α × List α)
  | x :: y :: rest => do
    let down ← before y x
    let (run, rest) ← splitRun before down y [y, x] rest
    .ok (if down then run else run.reverse, rest)
  | xs => .ok (xs, [])

/-- The place of an item in an ordered list, from `low` on and not behind `high`. -/
def findPlace (x : α) (ordered : List α) (low high : Nat) : Except ε Nat :=
  if low < high then
    let place := (low + high) / 2
    match ordered[place]? with
    | none => .ok low
    | some y => do
      if ← before x y then findPlace x ordered low place
      else findPlace x ordered (place + 1) high
  else .ok low
termination_by high - low

/-- Put an item into its place in an ordered list, behind those of equal rank. -/
def insertOrdered (ordered : List α) (x : α) : Except ε (List α) := do
  let place ← findPlace before x ordered 0 ordered.length
  .ok (ordered.take place ++ x :: ordered.drop place)

/-- The length up to which a run of a list is filled up: what is left of the length of the
list when it is halved until it is below sixty-four, and one more if a half was rounded. -/
def leastRun : Nat → Nat → Bool → Nat
  | 0, n, rounded => n + rounded.toNat
  | fuel + 1, n, rounded =>
    if n < 64 then n + rounded.toNat else leastRun fuel (n / 2) (rounded || n % 2 == 1)

/-! ### Merging -/

/-- A run of a list: where it starts, its items, and how deep the cut behind it lies in a
balanced tree over the list. -/
structure Run (α : Type) where
  start : Nat
  items : List α
  depth : Nat := 0
deriving Repr, Inhabited

/-- The first binary place at which the two numbers `a / size` and `b / size` differ. -/
def firstDifference (size : Nat) : Nat → Nat → Nat → Nat
  | 0, _, _ => 1
  | fuel + 1, a, b =>
    if size ≤ a then firstDifference size fuel (2 * (a - size)) (2 * (b - size)) + 1
    else if size ≤ b then 1
    else firstDifference size fuel (2 * a) (2 * b) + 1

/-- The depth of the cut between a run and the next one, of `next` items, in a list of
`size` items: that of the least common node of the middles of the two runs. -/
def cutDepth (size : Nat) (run : Run α) (next : Nat) : Nat :=
  let a := 2 * run.start + run.items.length
  firstDifference size (2 * size + 2) a (a + run.items.length + next)

/-- Merge two neighboring runs. -/
def join (streak : Nat) (left right : Run α) : Except ε (Nat × Run α) := do
  let (streak, items) ← mergeRuns before streak left.items right.items
  .ok (streak, { left with items })

/-- Merge runs at the top of a stack as long as the cut before the topmost one lies deeper
than `depth`. -/
def collapse (depth streak : Nat) : List (Run α) → Except ε (Nat × List (Run α))
  | top :: below :: rest => do
    if depth < below.depth then
      let (streak, joined) ← join before streak below top
      collapse depth streak (joined :: rest)
    else .ok (streak, top :: below :: rest)
  | runs => .ok (streak, runs)
termination_by runs => runs.length

/-- Put a run on top of a stack of runs of a list of `size` items. -/
def pushRun (size streak : Nat) (runs : List (Run α)) (items : List α) :
    Except ε (Nat × List (Run α)) :=
  match runs with
  | [] => .ok (streak, [{ start := 0, items }])
  | last :: _ => do
    let depth := cutDepth size last items.length
    let start := last.start + last.items.length
    let (streak, runs) ← collapse before depth streak runs
    .ok (streak, { start, items } :: match runs with
      | top :: rest => { top with depth } :: rest
      | [] => [])

/-- Merge all runs of a stack. -/
def mergeAll (streak : Nat) : List (Run α) → Except ε (List α)
  | [] => .ok []
  | [last] => .ok last.items
  | [top, below] => do
    let (_, joined) ← join before streak below top
    .ok joined.items
  | top :: below :: third :: rest => do
    if third.items.length < top.items.length then
      let (streak, joined) ← join before streak third below
      mergeAll streak (top :: joined :: rest)
    else
      let (streak, joined) ← join before streak below top
      mergeAll streak (joined :: third :: rest)
termination_by runs => runs.length

/-- Cut the rest of a list of `size` items into runs of `least` items or more. -/
def stackRuns (size least : Nat) :
    Nat → Nat → List (Run α) → List α → Except ε (Nat × List (Run α))
  | 0, streak, runs, _ => .ok (streak, runs)
  | _ + 1, streak, runs, [] => .ok (streak, runs)
  | fuel + 1, streak, runs, xs => do
    let (run, rest) ← firstRun before xs
    let missing := least - run.length
    let run ← (rest.take missing).foldlM (insertOrdered before) run
    let (streak, runs) ← pushRun before size streak runs run
    stackRuns size least fuel streak runs (rest.drop missing)

/-- The items of a list in order, those of equal rank in their given order. -/
def sort (xs : List α) : Except ε (List α) := do
  let size := xs.length
  let (streak, runs) ← stackRuns before size (leastRun size size false) size longStreak [] xs
  mergeAll before streak runs

end Runs

end TaskGraph.Sorting
