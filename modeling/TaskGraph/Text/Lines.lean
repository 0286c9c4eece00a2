/-
Module: TaskGraph.Text.Lines
Purpose: Line breaks: cutting a text into lines, and the single form of a break
  that a text read from a file has.
Main exports:
  Text.isLineBreak, Text.lines, Text.unifyBreaks
-/
import TaskGraph.Text.Blank

namespace TaskGraph.Text

/-- A character that ends a line. -/
def isLineBreak (c : Char) : Bool :=
  let n := c.toNat
  (0x0a ≤ n && n ≤ 0x0d) || (0x1c ≤ n && n ≤ 0x1e) || n == 0x85 || n == 0x2028 || n == 0x2029

section Breaks

variable {α : Type} (isReturn isFeed : α → Bool)

/-- Put one more item before a sequence whose breaks are already single, given the item
that stood after it: a carriage return is absorbed by the line feed that follows it. -/
def joinStep (x : α) (state : List α × Option α) : List α × Option α :=
  (if isReturn x && state.2.any isFeed then state.1 else x :: state.1, some x)

/-- A sequence in which each pair of carriage return and line feed is a line feed. -/
def joinBreaks (xs : List α) : List α :=
  (xs.foldr (joinStep isReturn isFeed) ([], none)).1

end Breaks

/-- Every line break of a text file read as a line feed: a carriage return
counts as a break of its own unless a line feed follows. -/
def unifyBreaks (cs : List Char) : List Char :=
  (joinBreaks (· == '\r') (· == '\n') cs).map fun c => if c = '\r' then '\n' else c

/-- Leave out the last piece if it is empty: a break ends a line and does not
open one. -/
def dropEmptyLast {α : Type} : List (List α) → List (List α)
  | [] => []
  | [[]] => []
  | first :: rest => first :: dropEmptyLast rest

/-- The lines of a text, without their breaks. -/
def lines (symbols : List Symbol) : List (List Symbol) :=
  dropEmptyLast
    (pieces (Symbol.is isLineBreak)
      (joinBreaks (Symbol.is (· == '\r')) (Symbol.is (· == '\n')) symbols))

end TaskGraph.Text
