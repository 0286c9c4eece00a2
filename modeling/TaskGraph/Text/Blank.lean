/-
Module: TaskGraph.Text.Blank
Purpose: White space: trimming a text and cutting it into words.
Main exports:
  Text.isBlank, Text.strip, Text.isNumberPadding, Text.pieces, Text.words
-/
import TaskGraph.Text.Symbol

namespace TaskGraph.Text

/-! ### White space

White space is any character that Unicode counts as a space of some width, as a
line or paragraph separator, or as one of the control characters that move the
writing position, the four information separators included. -/

/-- A white-space character. -/
def isBlank (c : Char) : Bool :=
  let n := c.toNat
  if n < 0x80 then (0x09 ≤ n && n ≤ 0x0d) || (0x1c ≤ n && n ≤ 0x20)
  else
    n == 0x85 || n == 0xa0 || n == 0x1680 || (0x2000 ≤ n && n ≤ 0x200a) ||
      n == 0x2028 || n == 0x2029 || n == 0x202f || n == 0x205f || n == 0x3000

/-- A sequence without the symbols of a class at its two ends. -/
def trim {α : Type} (isTrimmed : α → Bool) (xs : List α) : List α :=
  ((xs.dropWhile isTrimmed).reverse.dropWhile isTrimmed).reverse

/-- Symbols without the white space at their start. -/
def stripLeft (symbols : List Symbol) : List Symbol :=
  symbols.dropWhile (Symbol.is isBlank)

/-- Symbols without the white space at their two ends. -/
def strip (symbols : List Symbol) : List Symbol :=
  trim (Symbol.is isBlank) symbols

/-- White space that may stand around a number: the information separators may not. -/
def isNumberPadding (c : Char) : Bool :=
  isBlank c && !(0x1c ≤ c.toNat && c.toNat ≤ 0x1f)

/-! ### Pieces and words -/

section Pieces

variable {α : Type}

/-- Put one more item before a sequence that is already cut: a separator opens an empty
piece, any other item joins the first piece. -/
def pieceStep (isSeparator : α → Bool) (x : α) (cut : List (List α)) : List (List α) :=
  if isSeparator x then [] :: cut
  else match cut with
    | [] => [[x]]
    | first :: rest => (x :: first) :: rest

/-- Cut a sequence at every separator.  There is one more piece than there are
separators, and pieces may be empty. -/
def pieces (isSeparator : α → Bool) (xs : List α) : List (List α) :=
  xs.foldr (pieceStep isSeparator) [[]]

@[simp] theorem pieces_nil (isSeparator : α → Bool) : pieces isSeparator [] = [[]] := rfl

@[simp] theorem pieces_cons (isSeparator : α → Bool) (x : α) (xs : List α) :
    pieces isSeparator (x :: xs) = pieceStep isSeparator x (pieces isSeparator xs) := rfl

end Pieces

/-- The maximal runs of symbols that are not white space. -/
def words (symbols : List Symbol) : List (List Symbol) :=
  (pieces (Symbol.is isBlank) symbols).filter (!·.isEmpty)

/-- Words joined by one space each. -/
def unwords (tokens : List (List Char)) : List Char :=
  List.intercalate [' '] tokens

end TaskGraph.Text
