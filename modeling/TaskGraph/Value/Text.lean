/-
Module: TaskGraph.Value.Text
Purpose: The two texts of a value: the plain one, in which a text stands for
  itself, and the one that messages show, in which texts are quoted.
Main exports:
  Value.TextFault, Value.shown?, Value.plain?, Value.shown, Value.plain
-/
import TaskGraph.Decimal.Notation
import TaskGraph.Text.Quoted
import TaskGraph.Value.Key

namespace TaskGraph.Value

/-! ### Faults -/

/-- Why a value has no text. -/
inductive TextFault where
  /-- Collections stand inside each other at too many levels. -/
  | tooDeep
  /-- A whole number has more digits than are written. -/
  | tooManyDigits
deriving DecidableEq, Repr, Inhabited

/-- The number of levels that a value with a text has at the most. -/
def maxLevels : Nat := 992

/-- The least number that has too many digits. -/
def digitBound : Nat := Nat.pow 10 Text.maxDigits

/-- The digits of a whole number. -/
def integerText? (n : Int) : Except TextFault Text :=
  if digitBound ≤ n.natAbs then .error .tooManyDigits else .ok (toString n)

/-! ### Parts -/

/-- How one byte shows between quotes. -/
def shownByte (quote : Char) (b : UInt8) : List Char :=
  let c := Char.ofNat b.toNat
  if c = quote ∨ c = '\\' then ['\\', c]
  else if c = '\n' then ['\\', 'n']
  else if c = '\r' then ['\\', 'r']
  else if c = '\t' then ['\\', 't']
  else if 0x20 ≤ b.toNat ∧ b.toNat < 0x7f then [c]
  else '\\' :: 'x' :: Text.hexDigits 2 b.toNat

/-- Bytes between quotes, after a mark that tells them from a text. -/
def shownBytes (data : List UInt8) : Text :=
  let quote := Text.quoteFor (data.map fun b => .char (Char.ofNat b.toNat))
  Text.ofChars ('b' :: quote :: data.flatMap (shownByte quote) ++ [quote])

/-- The brackets around the parts of a collection. -/
structure Brackets where
  opening : String
  closing : String
deriving DecidableEq, Repr, Inhabited

namespace Brackets

/-- The brackets of a list. -/
def square : Brackets := ⟨"[", "]"⟩

/-- The brackets of a mapping or a set. -/
def curly : Brackets := ⟨"\x7b", "\x7d"⟩

/-- The brackets of a tuple. -/
def round : Brackets := ⟨"(", ")"⟩

/-- Parts between brackets. -/
def around (brackets : Brackets) (parts : List Text) : Text :=
  brackets.opening ++ Text.join ", " parts ++ brackets.closing

/-- What stands for a collection inside itself. -/
def loop (brackets : Brackets) : Text :=
  brackets.opening ++ "..." ++ brackets.closing

end Brackets

/-- The brackets of a collection. -/
def brackets : Value → Brackets
  | list _ => .square
  | tuple _ => .round
  | _ => .curly

/-- Items of a tuple between brackets; a single one is followed by a comma. -/
def bracketed (items : List Text) : Text :=
  match items with
  | [item] => "(" ++ item ++ ",)"
  | _ => Brackets.round.around items

/-! ### The texts -/

/-- The text in which a message shows a value, with at most `levels` levels.  `inside` holds
the places of the web that the value stands inside of; at these the text goes no
further. -/
def shownIn : Nat → List Nat → Value → Except TextFault Text
  | 0, _, _ => .error .tooDeep
  | levels + 1, inside, value =>
    let part (inside : List Nat) := shownIn levels inside
    let collection (inside : List Nat) : Value → Except TextFault Text
      | list items => (items.mapM (part inside)).map Brackets.square.around
      | tuple items => (items.mapM (part inside)).map bracketed
      | set items =>
        if items.isEmpty then .ok "set()"
        else (items.mapM (part inside)).map Brackets.curly.around
      | map entries => do
        let parts ← entries.mapM fun (key, value) => do
          let key ← part inside key
          let value ← part inside value
          .ok (key ++ ": " ++ value)
        .ok (Brackets.curly.around parts)
      | _ => .ok Text.empty
    match value with
    | null => .ok "None"
    | bool b => .ok (if b then "True" else "False")
    | int n => integerText? n
    | float x => .ok (Decimal.write x)
    | text s => .ok (Text.quoted s)
    | bytes data => .ok (shownBytes data)
    | date d => .ok d.shown
    | moment m => .ok m.shown
    | web cells place =>
      if place ∈ inside then .ok (cell cells place).brackets.loop
      else collection (place :: inside) (cell cells place)
    | value => collection inside value

/-- The text in which a message shows a value. -/
def shown? (value : Value) : Except TextFault Text :=
  shownIn maxLevels [] value

/-- The plain text of a value: a text stands for itself, a date is written with
dashes, and any other value as messages show it. -/
def plain? : Value → Except TextFault Text
  | text s => .ok s
  | date d => .ok d.plain
  | moment m => .ok m.plain
  | value => value.shown?

/-- The text of a value in a message, empty where the value has none. -/
def shown (value : Value) : Text :=
  match value.shown? with
  | .ok found => found
  | .error _ => Text.empty

/-- The plain text of a value, empty where the value has none. -/
def plain (value : Value) : Text :=
  match value.plain? with
  | .ok found => found
  | .error _ => Text.empty

@[simp] theorem plain?_text (s : Text) : (text s).plain? = .ok s := rfl

@[simp] theorem plain_text (s : Text) : (text s).plain = s := rfl

end TaskGraph.Value
