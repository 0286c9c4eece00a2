/-
Module: TaskGraph.Json.Fault
Purpose: Why a text is not JSON, and where in the text that shows.
Main exports:
  Json.Problem, Json.Problem.message, Json.Fault, Json.lineColumn
-/
import TaskGraph.Text.Numeral

namespace TaskGraph.Json

/-- What the reader missed or could not use. -/
inductive Problem where
  | noValue
  | noPropertyName
  | noColon
  | noComma
  | extraData
  | controlCharacter
  | unterminated
  | badEscape
  | badUnicodeEscape
  | byteOrderMark
deriving DecidableEq, Repr, Inhabited

/-- The wording of a problem. -/
def Problem.message : Problem → String
  | .noValue => "Expecting value"
  | .noPropertyName => "Expecting property name enclosed in double quotes"
  | .noColon => "Expecting ':' delimiter"
  | .noComma => "Expecting ',' delimiter"
  | .extraData => "Extra data"
  | .controlCharacter => "Invalid control character at"
  | .unterminated => "Unterminated string starting at"
  | .badEscape => "Invalid \\escape"
  | .badUnicodeEscape => "Invalid \\uXXXX escape"
  | .byteOrderMark => "Unexpected UTF-8 BOM (decode using utf-8-sig)"

/-- Why reading stopped.  A problem comes with the number of characters that were
still to be read where it shows. -/
inductive Fault where
  | problem (what : Problem) (left : Nat)
  | numeral (error : Text.NumeralError)
  /-- Values stand inside each other at too many levels. -/
  | tooDeep
deriving DecidableEq, Repr, Inhabited

/-- The line and the column of the character after `before`, counted from one. -/
def lineColumn (before : List Char) : Nat × Nat :=
  before.foldl (fun (line, column) c => if c = '\n' then (line + 1, 1) else (line, column + 1))
    (1, 1)

end TaskGraph.Json
