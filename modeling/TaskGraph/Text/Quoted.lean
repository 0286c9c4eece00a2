/-
Module: TaskGraph.Text.Quoted
Purpose: The quoted form in which a message shows a text.
Main exports:
  Text.quoted
-/
import TaskGraph.Text.Printable
import TaskGraph.Text.Symbol

namespace TaskGraph.Text

/-- A symbol that is not printable, by its number. -/
def escapeCode (n : Nat) : List Char :=
  if n < 0x100 then '\\' :: 'x' :: hexDigits 2 n
  else if n < 0x10000 then '\\' :: 'u' :: hexDigits 4 n
  else '\\' :: 'U' :: hexDigits 8 n

/-- How one character of a text shows between the quotes. -/
def quotedChar (quote c : Char) : List Char :=
  if c = quote ∨ c = '\\' then ['\\', c]
  else if c = '\n' then ['\\', 'n']
  else if c = '\r' then ['\\', 'r']
  else if c = '\t' then ['\\', 't']
  else if isPrintable c then [c]
  else escapeCode c.toNat

/-- How one symbol of a text shows between the quotes. -/
def quotedSymbol (quote : Char) : Symbol → List Char
  | .char c => quotedChar quote c
  | .half offset => escapeCode (Symbol.half offset).code

/-- The quote that a text is shown in: the double one only where the text holds
a single quote and no double one. -/
def quoteFor (symbols : List Symbol) : Char :=
  if .char '\'' ∈ symbols ∧ .char '"' ∉ symbols then '"' else '\''

/-- A text between quotes, with escapes for what would not show. -/
def quoted (text : Text) : Text :=
  let quote := quoteFor text.toList
  ofChars (quote :: text.toList.flatMap (quotedSymbol quote) ++ [quote])

end TaskGraph.Text
