/-
Module: TaskGraph.Text.Symbol
Purpose: Texts as sequences of symbols: characters, and halves of characters that stand
  without the other half.
Main exports:
  Symbol, Symbol.code, Symbol.ofCode, Text, Text.ofString, Text.chars?, Text.lt
-/
import TaskGraph.Text.CodePoint

namespace TaskGraph

/-! ### Symbols -/

/-- A unit of a text. -/
inductive Symbol where
  | char (c : Char)
  /-- Half of a code point that is written in two, by its distance from the first one. -/
  | half (offset : Fin 0x800)
deriving DecidableEq, Repr, Inhabited

namespace Symbol

instance : Coe Char Symbol := ⟨char⟩

/-- The number of a symbol. -/
def code : Symbol → Nat
  | char c => c.toNat
  | half offset => 0xd800 + offset

instance : Hashable Symbol := ⟨fun symbol => hash symbol.code⟩

/-- The symbol with a number; zero where there is none. -/
def ofCode (n : Nat) : Symbol :=
  if Text.isHighHalf n || Text.isLowHalf n then half (Fin.ofNat 0x800 (n - 0xd800))
  else char (Char.ofNat n)

/-- A symbol is a character of a kind. -/
def is (p : Char → Bool) : Symbol → Bool
  | char c => p c
  | half _ => false

/-- The character that a symbol is. -/
def char? : Symbol → Option Char
  | char c => some c
  | half _ => none

@[simp] theorem is_char (p : Char → Bool) (c : Char) : (char c).is p = p c := rfl

@[simp] theorem char?_char (c : Char) : (char c).char? = some c := rfl

end Symbol

/-! ### Texts -/

/-- A sequence of symbols. -/
structure Text where
  ofList ::
  toList : List Symbol
deriving DecidableEq, Repr, Hashable, Inhabited

namespace Text

/-- Characters as symbols. -/
def symbols (cs : List Char) : List Symbol :=
  cs.map .char

/-- A text of characters. -/
def ofChars (cs : List Char) : Text :=
  ⟨symbols cs⟩

/-- A string as a text. -/
def ofString (s : String) : Text :=
  ofChars s.toList

instance : Coe String Text := ⟨ofString⟩

/-- One text after the other. -/
def append (a b : Text) : Text :=
  ⟨a.toList ++ b.toList⟩

instance : Append Text := ⟨append⟩

/-- The text without symbols. -/
def empty : Text := ⟨[]⟩

/-- A text has no symbols. -/
def isEmpty (t : Text) : Bool :=
  t.toList.isEmpty

/-- The text of one symbol. -/
def singleton (c : Symbol) : Text :=
  ⟨[c]⟩

/-- Texts one after the other. -/
def concat (parts : List Text) : Text :=
  ⟨parts.flatMap (·.toList)⟩

/-- Texts one after the other, with a separator between them. -/
def join (separator : Text) (parts : List Text) : Text :=
  ⟨List.intercalate separator.toList (parts.map (·.toList))⟩

/-- The characters of a sequence of symbols, if no half of one is among them. -/
def charsOf? (symbols : List Symbol) : Option (List Char) :=
  symbols.mapM Symbol.char?

/-- The characters of a text, if no half of one is among them. -/
def chars? (t : Text) : Option (List Char) :=
  charsOf? t.toList

/-- A text as a string, if no half of a character is in it. -/
def string? (t : Text) : Option String :=
  t.chars?.map String.ofList

@[simp] theorem toList_append (a b : Text) : (a ++ b).toList = a.toList ++ b.toList := rfl

@[simp] theorem symbols_nil : symbols [] = [] := rfl

@[simp] theorem symbols_cons (c : Char) (cs : List Char) :
    symbols (c :: cs) = .char c :: symbols cs := rfl

@[simp] theorem symbols_append (cs ds : List Char) :
    symbols (cs ++ ds) = symbols cs ++ symbols ds :=
  List.map_append

@[simp] theorem length_symbols (cs : List Char) : (symbols cs).length = cs.length :=
  List.length_map ..

theorem symbols_inj {cs ds : List Char} : symbols cs = symbols ds ↔ cs = ds :=
  List.map_inj_right fun _ _ => Symbol.char.inj

@[simp] theorem charsOf?_symbols (cs : List Char) : charsOf? (symbols cs) = some cs := by
  induction cs with
  | nil => rfl
  | cons c cs ih =>
    simp only [symbols, List.map_cons, charsOf?, List.mapM_cons, Symbol.char?_char,
      Option.pure_def, Option.bind_eq_bind, Option.bind_some]
    simp only [symbols, charsOf?] at ih
    rw [ih]
    rfl

/-! ### Order -/

/-- Strict order of sequences of symbols by their numbers. -/
def ltSymbols : List Symbol → List Symbol → Bool
  | _, [] => false
  | [], _ :: _ => true
  | a :: as, b :: bs => a.code < b.code || (a.code == b.code && ltSymbols as bs)

/-- Strict order of texts by the numbers of their symbols. -/
def lt (a b : Text) : Bool :=
  ltSymbols a.toList b.toList

end Text

end TaskGraph
