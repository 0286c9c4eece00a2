/-
Module: TaskGraph.Sorting.Merge
Purpose: Merging two ordered runs that follow each other, in long leaps where one of
  them keeps winning.
Main exports:
  Sorting.Side, Sorting.mergeRuns
-/
import TaskGraph.Sorting.Search

namespace TaskGraph.Sorting

/-! Two runs are merged from the side on which the shorter one lies: its items are held, the
items of the other one come in, and an incoming item goes first only if the order says so.
What is left at the two outer ends is in place already and is not looked at. -/

/-- The side from which two runs are merged. -/
inductive Side where
  | front
  | back
deriving DecidableEq, Repr, Inhabited

/-- A merge under way.  Both runs are given in the order in which their items are taken,
`taken` holds the items that were taken in reverse. -/
structure Merging (α : Type) where
  held : List α
  other : List α
  taken : List α := []
deriving Repr, Inhabited

/-- The number of items in a row from which on a run is thought to keep winning. -/
def longStreak : Nat := 7

namespace Merging

variable {ε α : Type}

/-- Nothing is to be compared any more. -/
def isOver (m : Merging α) : Bool :=
  m.other.isEmpty || m.held.length ≤ 1

/-- The items of both runs in order.  The last item of the held run is behind all others. -/
def result (m : Merging α) : List α :=
  m.taken.reverse ++ if m.held.length = 1 then m.other ++ m.held else m.held ++ m.other

/-- Take items of the held run. -/
def takeHeld (m : Merging α) (count : Nat) : Merging α :=
  { m with held := m.held.drop count, taken := (m.held.take count).reverse ++ m.taken }

/-- Take items of the other run. -/
def takeOther (m : Merging α) (count : Nat) : Merging α :=
  { m with other := m.other.drop count, taken := (m.other.take count).reverse ++ m.taken }

variable (before : α → α → Except ε Bool)

/-- Whether an item is taken before another one when runs are merged from a side. -/
def first (side : Side) (x y : α) : Except ε Bool :=
  match side with
  | .front => before x y
  | .back => before y x

/-- Take one item at a time until one run has won `streak` times in a row. -/
def contest (side : Side) (streak : Nat) : Nat → Nat → Nat → Merging α → Except ε (Merging α)
  | 0, _, _, m => .ok m
  | fuel + 1, heldWins, otherWins, m =>
    match m.held, m.other with
    | h :: _, o :: _ => do
      if ← first before side o h then
        let m := m.takeOther 1
        if m.isOver || streak ≤ otherWins + 1 then .ok m
        else contest side streak fuel 0 (otherWins + 1) m
      else
        let m := m.takeHeld 1
        if m.isOver || streak ≤ heldWins + 1 then .ok m
        else contest side streak fuel (heldWins + 1) 0 m
    | _, _ => .ok m

/-- Take all items of the held run that belong before the next one of the other run, and
then that one.  The number of the former comes with it. -/
def leapHeld (side : Side) (m : Merging α) : Except ε (Nat × Merging α) :=
  match m.other with
  | [] => .ok (0, m)
  | o :: _ => do
    let count ← leading (fun x => do return !(← first before side o x)) (side = .back) m.held
    let m := m.takeHeld count
    .ok (count, if m.isOver then m else m.takeOther 1)

/-- Take all items of the other run that belong before the next one of the held run, and
then that one. -/
def leapOther (side : Side) (m : Merging α) : Except ε (Nat × Merging α) :=
  match m.held with
  | [] => .ok (0, m)
  | h :: _ => do
    let count ← leading (fun x => first before side x h) (side = .back) m.other
    let m := m.takeOther count
    .ok (count, if m.isOver then m else m.takeHeld 1)

/-- Leap over the items of the run that lies in front, and then over those of the run
behind it. -/
def leap (side : Side) (m : Merging α) : Except ε (Nat × Nat × Merging α) := do
  let (firstLeap, secondLeap) := match side with
    | .front => (leapHeld before side, leapOther before side)
    | .back => (leapOther before side, leapHeld before side)
  let (n, m) ← firstLeap m
  if m.isOver then .ok (n, 0, m)
  else
    let (k, m) ← secondLeap m
    .ok (n, k, m)

/-- Leap as long as the leaps are long.  Each time the streak that is asked for before the
next leaps becomes shorter. -/
def leaps (side : Side) : Nat → Nat → Merging α → Except ε (Nat × Merging α)
  | 0, streak, m => .ok (streak, m)
  | fuel + 1, streak, m => do
    let streak := if 1 < streak then streak - 1 else streak
    let (n, k, m) ← leap before side m
    if m.isOver then .ok (streak, m)
    else if longStreak ≤ n || longStreak ≤ k then leaps side fuel streak m
    else .ok (streak + 1, m)

/-- Take single items and leap in turn until nothing is to be compared any more. -/
def finish (side : Side) : Nat → Nat → Merging α → Except ε (Nat × Merging α)
  | 0, streak, m => .ok (streak, m)
  | fuel + 1, streak, m =>
    if m.isOver then .ok (streak, m)
    else do
      let m ← contest before side streak (m.held.length + m.other.length) 0 0 m
      if m.isOver then .ok (streak, m)
      else
        let (streak, m) ← leaps before side (m.held.length + m.other.length) (streak + 1) m
        finish side fuel streak m

end Merging

variable {ε α : Type} (before : α → α → Except ε Bool)

/-- Merge two runs from a side; the first item that comes in is known to go first. -/
def mergeFrom (side : Side) (streak : Nat) (left right : List α) : Except ε (Nat × List α) := do
  let start : Merging α := match side with
    | .front => { held := left, other := right }
    | .back => { held := right.reverse, other := left.reverse }
  let (streak, m) ← Merging.finish before side (left.length + right.length) streak
    (start.takeOther 1)
  .ok (streak, match side with
    | .front => m.result
    | .back => m.result.reverse)

/-- Merge two runs that follow each other.  Items that are the same to the order keep their
places.  `streak` is the number of times that a run has to win in a row before leaps are
tried; it is handed on to the next merge. -/
def mergeRuns (streak : Nat) (left right : List α) : Except ε (Nat × List α) :=
  match right, left.getLast? with
  | firstRight :: _, some _ => do
    let skipped ← leading (fun x => do return !(← before firstRight x)) false left
    match (left.drop skipped).getLast? with
    | none => .ok (streak, left ++ right)
    | some lastLeft =>
      let kept ← leading (fun x => do return !(← before x lastLeft)) true right.reverse
      let inner := right.take (right.length - kept)
      let outer := right.drop (right.length - kept)
      let middle := left.drop skipped
      if inner.isEmpty then .ok (streak, left ++ right)
      else do
        let side := if middle.length ≤ inner.length then Side.front else Side.back
        let (streak, merged) ← mergeFrom before side streak middle inner
        .ok (streak, left.take skipped ++ merged ++ outer)
  | _, _ => .ok (streak, left ++ right)

end TaskGraph.Sorting
