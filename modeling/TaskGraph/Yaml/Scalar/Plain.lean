/-
Module: TaskGraph.Yaml.Scalar.Plain
Purpose: Scalars without quotes, which may go on over several lines.
Main exports:
  Yaml.Plain, Yaml.Plain.read
-/
import TaskGraph.Yaml.Cursor

namespace TaskGraph.Yaml

/-- A scalar without quotes: its text, whether a line broke behind it, and the place
after it. -/
structure Plain where
  text : List Char
  broken : Bool
  after : Cursor
deriving Repr, Inhabited

namespace Plain

/-- A character that ends a word inside brackets. -/
def isFlowSign (c : Char) : Bool :=
  c == ',' || c == '?' || c == '[' || c == ']' || c == '\x7b' || c == '\x7d'

/-- A colon before this text ends a key: a word ends here or, inside brackets, one of
their signs stands here. -/
def endsKey (inFlow : Bool) (rest : List Char) : Bool :=
  endsWord rest || (inFlow && rest.head?.any fun c => isFlowSign c && c != '?')

/-- The characters up to the end of a word or of a key. -/
def word (inFlow : Bool) : List Char → List Char
  | [] => []
  | c :: rest =>
    if endsWord [c] || (c == ':' && endsKey inFlow rest) || (inFlow && isFlowSign c) then []
    else c :: word inFlow rest

/-- The breaks of empty lines and the place after them and the spaces between them;
nothing where a document marker comes up. -/
def emptyLines : Nat → List Char → Cursor → Option (List Char × Cursor)
  | 0, found, c => some (found, c)
  | fuel + 1, found, c =>
    match c.rest with
    | [] => some (found, c)
    | first :: _ =>
      if first = ' ' then emptyLines fuel found c.next
      else if isBreak first then
        let (lineBreak, c) := c.lineBreak
        if atMarker c.rest then none else emptyLines fuel (found ++ lineBreak) c
      else some (found, c)

/-- What stands between two words: spaces, or breaks that are folded.  The text is
empty where no word can follow. -/
def gap (c : Cursor) : Plain :=
  let (spaces, c) := c.span (· == ' ')
  if !c.rest.isEmpty && endsLine c.rest then
    let (lineBreak, c) := c.lineBreak
    if atMarker c.rest then ⟨[], true, c⟩
    else match emptyLines c.left [] c with
      | some (more, c) => ⟨fold lineBreak more, true, c⟩
      | none => ⟨[], true, c⟩
  else
    ⟨spaces, false, c⟩

/-- Read words and the gaps between them.  `found` holds the text so far in reverse, `before`
is the gap behind it; words go on where the column is at least `least`. -/
def readWords (inFlow : Bool) (least : Nat) : Nat → List Char → Plain → Plain
  | 0, found, before => ⟨found.reverse, before.broken, before.after⟩
  | fuel + 1, found, before =>
    let c := before.after
    let run := word inFlow c.rest
    if c.rest.head? = some '#' ∨ run.isEmpty then ⟨found.reverse, before.broken, c⟩
    else
      let found := run.reverse ++ before.text.reverse ++ found
      let behind := gap (c.advance run.length)
      if behind.text.isEmpty || (!inFlow && behind.after.column < least) then
        ⟨found.reverse, behind.broken, behind.after⟩
      else readWords inFlow least fuel found behind

/-- Read the scalar that starts here.  Outside brackets, further lines belong to it if
they start at the column `least` or behind it. -/
def read (inFlow : Bool) (least : Nat) (c : Cursor) : Plain :=
  readWords inFlow least c.left [] ⟨[], false, c⟩

end Plain

end TaskGraph.Yaml
