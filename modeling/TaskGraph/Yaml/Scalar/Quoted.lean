/-
Module: TaskGraph.Yaml.Scalar.Quoted
Purpose: Scalars between single or double quotes.
Main exports:
  Yaml.Quoted.read
-/
import TaskGraph.Error
import TaskGraph.Yaml.Cursor

namespace TaskGraph.Yaml.Quoted

/-! ### Breaks between words -/

/-- A space or a tab. -/
def isSpace (c : Char) : Bool :=
  c == ' ' || c == '\t'

/-- The breaks of empty lines and the place after them.  No document marker may stand
inside quotes. -/
def emptyLines : Nat → List Char → Cursor → Except Error (List Char × Cursor)
  | 0, _, _ => .error .notYaml
  | fuel + 1, found, c =>
    if atMarker c.rest then .error .notYaml
    else
      let c := c.skip isSpace
      if c.rest.isEmpty || !endsLine c.rest then .ok (found, c)
      else
        let (lineBreak, c) := c.lineBreak
        emptyLines fuel (found ++ lineBreak) c

/-- The breaks from here on, where one may stand. -/
def emptyLinesFrom (c : Cursor) : Except Error (List Char × Cursor) :=
  emptyLines (c.left + 1) [] c

/-- What stands between two words: spaces and tabs, or breaks that are folded. -/
def gap (c : Cursor) : Except Error (List Char × Cursor) :=
  let (spaces, c) := c.span isSpace
  if c.rest.isEmpty then .error .notYaml
  else if endsLine c.rest then do
    let (lineBreak, c) := c.lineBreak
    let (more, c) ← emptyLinesFrom c
    return (fold lineBreak more, c)
  else
    return (spaces, c)

/-! ### Escapes -/

/-- The character behind an escape of one letter. -/
def shortEscape? (c : Char) : Option Char :=
  match c with
  | '0' => some '\x00'
  | 'a' => some '\x07'
  | 'b' => some '\x08'
  | 't' => some '\t'
  | '\t' => some '\t'
  | 'n' => some '\n'
  | 'v' => some '\x0b'
  | 'f' => some '\x0c'
  | 'r' => some '\r'
  | 'e' => some '\x1b'
  | ' ' => some ' '
  | '"' => some '"'
  | '\\' => some '\\'
  | '/' => some '/'
  | 'N' => some '\u0085'
  | '_' => some '\u00a0'
  | 'L' => some '\u2028'
  | 'P' => some '\u2029'
  | _ => none

/-- The number of hexadecimal digits behind a letter that announces some. -/
def codeWidth? (c : Char) : Option Nat :=
  match c with
  | 'x' => some 2
  | 'u' => some 4
  | 'U' => some 8
  | _ => none

/-- The largest number that is looked at as the number of a character. -/
def largestCode : Nat := 0x7fffffff

/-- The number that an escape of some digits writes. -/
def readCode (digits : List Char) (width : Nat) : Except Error Nat :=
  match (if digits.length = width then Text.hexNumber? digits else none) with
  | none => .error .notYaml
  | some n =>
    if n ≤ 0x10ffff then .ok n
    else if n ≤ largestCode then .error .notACodePoint
    else .error .tooLarge

/-- The symbols that an escape stands for; `c` is the place behind the backslash.  An
escaped break stands for nothing, but empty lines after it count. -/
def escape (c : Cursor) : Except Error (List Symbol × Cursor) :=
  match c.rest with
  | [] => .error .notYaml
  | first :: rest =>
    match shortEscape? first, codeWidth? first with
    | some found, _ => .ok ([.char found], c.next)
    | none, some width => do
      let n ← readCode (rest.take width) width
      return ([Symbol.ofCode n], c.advance (width + 1))
    | none, none =>
      if isBreak first then do
        let (breaks, c) ← emptyLinesFrom c.lineBreak.2
        return (Text.symbols breaks, c)
      else .error .notYaml

/-! ### The whole scalar -/

/-- Read up to the closing quote; `found` holds the symbols before in reverse.  Between
single quotes two of them stand for one, between double ones a backslash starts an
escape. -/
def readFrom (double : Bool) : Nat → List Symbol → Cursor → Except Error (List Symbol × Cursor)
  | 0, _, _ => .error .notYaml
  | fuel + 1, found, c =>
    match c.rest with
    | [] => .error .notYaml
    | first :: rest =>
      if endsWord c.rest then do
        let (between, c) ← gap c
        readFrom double fuel ((Text.symbols between).reverse ++ found) c
      else if double && first == '\\' then do
        let (symbols, c) ← escape c.next
        readFrom double fuel (symbols.reverse ++ found) c
      else if !double && first == '\'' && rest.head? == some '\'' then
        readFrom double fuel (first :: found) (c.advance 2)
      else if first == (if double then '"' else '\'') then
        .ok (found.reverse, c.next)
      else readFrom double fuel (first :: found) c.next

/-- Read the scalar whose opening quote stands here. -/
def read (double : Bool) (c : Cursor) : Except Error (List Symbol × Cursor) :=
  readFrom double c.left [] c.next

end TaskGraph.Yaml.Quoted
