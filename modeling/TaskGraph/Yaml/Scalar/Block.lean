/-
Module: TaskGraph.Yaml.Scalar.Block
Purpose: Scalars that hold the indented lines after a header.
Main exports:
  Yaml.Block.read
-/
import TaskGraph.Error
import TaskGraph.Yaml.Cursor

namespace TaskGraph.Yaml.Block

/-! ### Headers -/

/-- What becomes of the breaks at the end: none is kept, or the first, or all. -/
inductive Chomping where
  | strip
  | clip
  | keep
deriving DecidableEq, Repr, Inhabited

/-- What the header says: the handling of the last breaks and, where it is given, how
far the lines are indented. -/
structure Header where
  chomping : Chomping
  indentation : Option Nat
deriving DecidableEq, Repr, Inhabited

/-- The sign for the handling of the last breaks, if it stands here. -/
def chomping? (rest : List Char) : Option Chomping :=
  match rest with
  | '+' :: _ => some .keep
  | '-' :: _ => some .strip
  | _ => none

/-- The digit for the indentation, if it stands here. -/
def indentation? (rest : List Char) : Option Nat :=
  match rest with
  | c :: _ => if c.isDigit then some (c.toNat - 0x30) else none
  | [] => none

/-- Read the signs of a header, in either order, and the rest of its line. -/
def readHeader (c : Cursor) : Except Error (Header × Cursor) :=
  let (first, c) := match chomping? c.rest with
    | some chomping => (some chomping, c.next)
    | none => (none, c)
  let (indentation, c) := match indentation? c.rest with
    | some n => (some n, c.next)
    | none => (none, c)
  let (chomping, c) := match first, indentation, chomping? c.rest with
    | none, some _, some chomping => (some chomping, c.next)
    | _, _, _ => (first, c)
  if indentation = some 0 ∨ endsField c.rest = false then .error .notYaml
  else
    let c := c.skipSpaces.skipComment
    if endsLine c.rest then .ok (⟨chomping.getD .clip, indentation⟩, c.lineBreak.2)
    else .error .notYaml

/-! ### Empty lines -/

/-- The breaks before the first line that is not empty, the largest column that was
reached there, and the place after them. -/
def leadingLines : Nat → List Char → Nat → Cursor → List Char × Nat × Cursor
  | 0, breaks, largest, c => (breaks, largest, c)
  | fuel + 1, breaks, largest, c =>
    match c.rest with
    | [] => (breaks, largest, c)
    | first :: _ =>
      if first = ' ' then leadingLines fuel breaks (max largest c.next.column) c.next
      else if isBreak first then
        let (lineBreak, c) := c.lineBreak
        leadingLines fuel (breaks ++ lineBreak) largest c
      else (breaks, largest, c)

/-- The place after the spaces up to a column. -/
def indent (column : Nat) (c : Cursor) : Cursor :=
  c.advance (min (column - c.column) (c.rest.takeWhile (· == ' ')).length)

/-- The breaks of lines that are empty up to a column, and the place at that column
of the next line. -/
def emptyLines (column : Nat) : Nat → List Char → Cursor → List Char × Cursor
  | 0, breaks, c => (breaks, indent column c)
  | fuel + 1, breaks, c =>
    let c := indent column c
    if c.rest.isEmpty || !endsLine c.rest then (breaks, c)
    else
      let (lineBreak, c) := c.lineBreak
      emptyLines column fuel (breaks ++ lineBreak) c

/-! ### Lines -/

/-- The text that starts here begins with a space or a tab. -/
def startsWithSpace (rest : List Char) : Bool :=
  match rest with
  | c :: _ => c == ' ' || c == '\t'
  | [] => false

/-- Lines that are read: their text in reverse, the break after the last of them and
the breaks of the empty lines behind that, and the place after all. -/
structure Lines where
  reversed : List Char
  lastBreak : List Char
  breaks : List Char
  after : Cursor
deriving Repr, Inhabited

/-- What joins a line to the next one.  Two lines are folded unless one of them starts
with a space. -/
def joint (folded : Bool) (line : List Char) (lines : Lines) : List Char :=
  if folded && lines.lastBreak == ['\n'] && !startsWithSpace line &&
      !startsWithSpace lines.after.rest then
    if lines.breaks.isEmpty then [' '] else []
  else lines.lastBreak

/-- Read the lines that start at a column. -/
def readLines (folded : Bool) (column : Nat) : Nat → Lines → Lines
  | 0, lines => lines
  | fuel + 1, lines =>
    let c := lines.after
    if c.column = column ∧ c.rest ≠ [] then
      let (line, c) := c.span (!isBreak ·)
      let reversed := line.reverse ++ (lines.breaks.reverse ++ lines.reversed)
      let (lastBreak, c) := c.lineBreak
      let (breaks, c) := emptyLines column c.left [] c
      let read : Lines := ⟨reversed, lastBreak, breaks, c⟩
      if c.column = column ∧ c.rest ≠ [] then
        readLines folded column fuel
          { read with reversed := (joint folded line read).reverse ++ reversed }
      else read
    else lines

/-- The text of lines, with the breaks at the end that are kept. -/
def Lines.text (lines : Lines) : Chomping → List Char
  | .strip => lines.reversed.reverse
  | .clip => lines.reversed.reverse ++ lines.lastBreak
  | .keep => lines.reversed.reverse ++ lines.lastBreak ++ lines.breaks

/-- Read the scalar whose sign stands here.  Its lines start at the column `least` or
behind it: where the header says, or else where the first line that is not empty does. -/
def read (folded : Bool) (least : Nat) (c : Cursor) : Except Error (List Char × Cursor) := do
  let (header, c) ← readHeader c.next
  let least := max least 1
  let (column, breaks, c) := match header.indentation with
    | some n =>
      let column := least + n - 1
      (column, emptyLines column c.left [] c)
    | none =>
      let (breaks, largest, c) := leadingLines c.left [] 0 c
      (max least largest, breaks, c)
  let lines := readLines folded column c.left ⟨[], [], breaks, c⟩
  return (lines.text header.chomping, lines.after)

end TaskGraph.Yaml.Block
