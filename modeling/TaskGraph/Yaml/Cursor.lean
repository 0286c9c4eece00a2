/-
Module: TaskGraph.Yaml.Cursor
Purpose: A place in a YAML text with its line and column, and the runs of characters
  that start there.
Main exports:
  Yaml.Cursor, Cursor.next, Cursor.span, Cursor.lineBreak, Yaml.isBreak, Yaml.endsWord,
  Yaml.atMarker
-/

namespace TaskGraph.Yaml

/-! ### Kinds of characters -/

/-- A character that ends a line. -/
def isBreak (c : Char) : Bool :=
  c == '\n' || c == '\r' || c == '\u0085' || c == '\u2028' || c == '\u2029'

/-- A character that may stand in a document: no control character but the tab and
those that end a line, no half of a code point, no noncharacter at the end of the
basic plane. -/
def isAllowed (c : Char) : Bool :=
  let n := c.toNat
  n == 0x09 || n == 0x0a || n == 0x0d || (0x20 ≤ n && n ≤ 0x7e) || n == 0x85 ||
    (0xa0 ≤ n && n ≤ 0xfffd) || 0x10000 ≤ n

/-- A character of the name of an anchor, a directive or a tag handle. -/
def isNameChar (c : Char) : Bool :=
  c.isAlphanum || c == '-' || c == '_'

/-- A word ends here: at the end of the text, or before a space, a tab or a break. -/
def endsWord (rest : List Char) : Bool :=
  match rest with
  | [] => true
  | c :: _ => c == ' ' || c == '\t' || isBreak c

/-- A field of a header ends here: at the end of the text, or before a space or a
break. -/
def endsField (rest : List Char) : Bool :=
  match rest with
  | [] => true
  | c :: _ => c == ' ' || isBreak c

/-- A line ends here. -/
def endsLine (rest : List Char) : Bool :=
  match rest with
  | [] => true
  | c :: _ => isBreak c

/-- A mark of three equal signs stands here as a word of its own. -/
def atSign (sign : Char) (rest : List Char) : Bool :=
  [sign, sign, sign].isPrefixOf rest && endsWord (rest.drop 3)

/-- The mark that starts or the mark that ends a document stands here. -/
def atMarker (rest : List Char) : Bool :=
  atSign '-' rest || atSign '.' rest

/-! ### Places -/

/-- A place in a text: what is still to be read, the number of characters before it and
of those to be read, and its line and column, counted from zero. -/
structure Cursor where
  rest : List Char
  index : Nat
  line : Nat
  column : Nat
  left : Nat
  left_eq : left = rest.length
deriving Repr, DecidableEq

namespace Cursor

/-- The start of a text. -/
def ofText (text : List Char) : Cursor :=
  { rest := text, index := 0, line := 0, column := 0, left := text.length, left_eq := rfl }

instance : Inhabited Cursor := ⟨ofText []⟩

/-- The place one character on.  Breaks start a new line, where a carriage return
before a line feed leaves that to the line feed; byte order marks take up no column. -/
def next (c : Cursor) : Cursor :=
  match h : c.rest with
  | [] => c
  | first :: rest =>
    let startsLine := isBreak first && !(first == '\r' && rest.head? == some '\n')
    { rest
      index := c.index + 1
      line := if startsLine then c.line + 1 else c.line
      column :=
        if startsLine then 0 else if first = '\ufeff' then c.column else c.column + 1
      left := c.left - 1
      left_eq := by simp [c.left_eq, h] }

/-- The place some characters on. -/
def advance : Nat → Cursor → Cursor
  | 0, c => c
  | n + 1, c => advance n c.next

/-- The longest run of characters of a kind, and the place after it. -/
def span (p : Char → Bool) (c : Cursor) : List Char × Cursor :=
  let run := c.rest.takeWhile p
  (run, c.advance run.length)

/-- The place after the longest run of characters of a kind. -/
def skip (p : Char → Bool) (c : Cursor) : Cursor :=
  (c.span p).2

/-- The place after the spaces that stand here. -/
def skipSpaces (c : Cursor) : Cursor :=
  c.skip (· == ' ')

/-- The place after the comment that stands here, if one does. -/
def skipComment (c : Cursor) : Cursor :=
  if c.rest.head? = some '#' then c.skip (!isBreak ·) else c

/-- The break that stands here in its usual form, nothing if none does, and the place
after it.  A carriage return, a line feed, both and the next-line character are one
and the same break. -/
def lineBreak (c : Cursor) : List Char × Cursor :=
  match c.rest with
  | '\r' :: '\n' :: _ => (['\n'], c.advance 2)
  | first :: _ =>
    if first = '\u2028' ∨ first = '\u2029' then ([first], c.next)
    else if isBreak first then (['\n'], c.next)
    else ([], c)
  | [] => ([], c)

end Cursor

/-! ### Folding -/

/-- The text that a line break and the breaks of empty lines after it stand for: a
single break joins two lines by a space, and of several the first is dropped. -/
def fold (first more : List Char) : List Char :=
  (if first ≠ ['\n'] then first else if more.isEmpty then [' '] else []) ++ more

end TaskGraph.Yaml
