/-
Module: TaskGraph.Yaml.Lexer
Purpose: Cutting a YAML text into tokens.
Main exports:
  Yaml.Lexer, Lexer.fetch, Yaml.tokens
-/
import TaskGraph.Yaml.Property
import TaskGraph.Yaml.Scalar.Block
import TaskGraph.Yaml.Scalar.Plain
import TaskGraph.Yaml.Scalar.Quoted

namespace TaskGraph.Yaml

/-! ### State

Whether a node is a key shows only at the colon behind it.  Until then the place where
the node starts is remembered, once for every level of brackets, and the tokens from
there on are held back. -/

/-- A node that is a key if a colon follows it: the number of its first token, whether
nothing but a key may stand there, and where it starts. -/
structure SimpleKey where
  number : Nat
  required : Bool
  index : Nat
  line : Nat
  column : Nat
deriving Repr, Inhabited, DecidableEq

/-- A node cannot be a key any more at another line or more than one thousand and
twenty-four characters on. -/
def SimpleKey.isStale (key : SimpleKey) (c : Cursor) : Bool :=
  key.line != c.line || key.index + 1024 < c.index

/-- The state between two tokens. -/
structure Lexer where
  cursor : Cursor
  /-- The columns of the open block collections, the innermost first. -/
  columns : List Nat := []
  /-- The number of open brackets. -/
  depth : Nat := 0
  /-- A node that starts here may be a key. -/
  keyAllowed : Bool := true
  /-- The nodes that may be keys, by the number of brackets around them. -/
  keys : List (Nat × SimpleKey) := []
  /-- The number of tokens handed out. -/
  taken : Nat := 0
  /-- The tokens held back. -/
  pending : List Token := []
  /-- The end of the text is reached. -/
  done : Bool := false
deriving Inhabited

namespace Lexer

/-- The text from here on. -/
def rest (l : Lexer) : List Char := l.cursor.rest

/-- Nothing is open but block collections. -/
def inBlock (l : Lexer) : Bool := l.depth == 0

/-- One more token, with the place behind it. -/
def push (l : Lexer) (token : Token) (cursor : Cursor) : Lexer :=
  { l with pending := l.pending ++ [token], cursor }

/-! ### Keys -/

/-- Forget the nodes that cannot be keys any more. -/
def dropStale (l : Lexer) : Except Error Lexer :=
  if l.keys.any fun (_, key) => key.isStale l.cursor && key.required then
    .error .notYaml
  else .ok { l with keys := l.keys.filter fun (_, key) => !key.isStale l.cursor }

/-- Forget the node that may be a key inside the innermost brackets. -/
def dropKey (l : Lexer) : Except Error Lexer :=
  if l.keys.any fun (depth, key) => depth == l.depth && key.required then .error .notYaml
  else .ok { l with keys := l.keys.filter fun (depth, _) => depth != l.depth }

/-- Remember that the node that starts here may be a key. -/
def saveKey (l : Lexer) : Except Error Lexer :=
  if l.keyAllowed then do
    let l ← l.dropKey
    let c := l.cursor
    let key : SimpleKey :=
      { number := l.taken + l.pending.length
        required := l.inBlock && l.columns.head? == some c.column
        index := c.index, line := c.line, column := c.column }
    return { l with keys := (l.depth, key) :: l.keys }
  else .ok l

/-! ### Indentation -/

/-- End the block collections whose column lies behind `column`. -/
def unwind (l : Lexer) (column : Nat) : Lexer :=
  if l.inBlock then
    { l with
      pending := l.pending ++ (l.columns.takeWhile (column < ·)).map fun _ => .blockEnd
      columns := l.columns.dropWhile (column < ·) }
  else l

/-- End all block collections. -/
def unwindAll (l : Lexer) : Lexer :=
  if l.inBlock then
    { l with pending := l.pending ++ l.columns.map fun _ => .blockEnd, columns := [] }
  else l

/-- A collection at `column` lies deeper than the ones that are open. -/
def opens (l : Lexer) (column : Nat) : Bool :=
  match l.columns with
  | [] => true
  | innermost :: _ => innermost < column

/-- Open a block collection at `column`, unless one is open there; its token goes before
the token with number `place` among those held back. -/
def openBlock (l : Lexer) (column place : Nat) (token : Token) : Lexer :=
  if l.inBlock && l.opens column then
    { l with
      columns := column :: l.columns
      pending := l.pending.take place ++ token :: l.pending.drop place }
  else l

/-- The column from which on a further line belongs to a scalar. -/
def least (l : Lexer) : Nat :=
  match l.columns with
  | [] => 0
  | innermost :: _ => innermost + 1

/-! ### Tokens -/

/-- Go on to the next token, past spaces, comments and breaks.  Outside brackets a key
may start on a new line. -/
def toNextToken : Nat → Lexer → Lexer
  | 0, l => l
  | fuel + 1, l =>
    let c := l.cursor.skipSpaces.skipComment
    if c.rest.isEmpty || !endsLine c.rest then { l with cursor := c }
    else
      toNextToken fuel
        { l with cursor := c.lineBreak.2, keyAllowed := l.keyAllowed || l.inBlock }

/-- The end of the text. -/
def finish (l : Lexer) : Except Error Lexer := do
  let l ← l.unwindAll.dropKey
  return { l.push .streamEnd l.cursor with keyAllowed := false, keys := [], done := true }

/-- A directive. -/
def directive (l : Lexer) : Except Error Lexer := do
  let l ← l.unwindAll.dropKey
  let (token, c) ← readDirective l.cursor
  return { l.push token c with keyAllowed := false }

/-- The mark that starts or the mark that ends a document. -/
def marker (l : Lexer) (token : Token) : Except Error Lexer := do
  let l ← l.unwindAll.dropKey
  return { l.push token (l.cursor.advance 3) with keyAllowed := false }

/-- An opening bracket. -/
def openFlow (l : Lexer) (token : Token) : Except Error Lexer := do
  let l ← l.saveKey
  return { l.push token l.cursor.next with depth := l.depth + 1, keyAllowed := true }

/-- A closing bracket. -/
def closeFlow (l : Lexer) (token : Token) : Except Error Lexer := do
  let l ← l.dropKey
  return { l.push token l.cursor.next with depth := l.depth - 1, keyAllowed := false }

/-- A comma between brackets. -/
def separator (l : Lexer) : Except Error Lexer := do
  let l ← l.dropKey
  return { l.push .separator l.cursor.next with keyAllowed := true }

/-- The dash before an item of a block sequence. -/
def entry (l : Lexer) : Except Error Lexer :=
  if l.inBlock && !l.keyAllowed then .error .notYaml
  else do
    let l ← (l.openBlock l.cursor.column l.pending.length .blockSequence).dropKey
    return { l.push .entry l.cursor.next with keyAllowed := true }

/-- The question mark before a key. -/
def explicitKey (l : Lexer) : Except Error Lexer :=
  if l.inBlock && !l.keyAllowed then .error .notYaml
  else do
    let l ← (l.openBlock l.cursor.column l.pending.length .blockMapping).dropKey
    return { l.push .key l.cursor.next with keyAllowed := l.inBlock }

/-- The colon before a value.  The node before it is its key where it may be one, and
the key comes before all tokens of the node. -/
def value (l : Lexer) : Except Error Lexer :=
  match l.keys.lookup l.depth with
  | some key =>
    let place := key.number - l.taken
    let keys := l.keys.filter fun (depth, _) => depth != l.depth
    let pending := l.pending.take place ++ .key :: l.pending.drop place
    let l := { l with keys, pending }.openBlock key.column place .blockMapping
    .ok { l.push .value l.cursor.next with keyAllowed := false }
  | none =>
    if l.inBlock && !l.keyAllowed then .error .notYaml
    else
      let l := l.openBlock l.cursor.column l.pending.length .blockMapping
      .ok { l.push .value l.cursor.next with keyAllowed := l.inBlock }

/-- An alias, an anchor, a tag or a quoted scalar: any of them may be, or start, a key. -/
def node (l : Lexer) (read : Cursor → Except Error (Token × Cursor)) : Except Error Lexer := do
  let l ← l.saveKey
  let (token, c) ← read l.cursor
  return { l.push token c with keyAllowed := false }

/-- A block scalar, behind which a key may start. -/
def blockScalar (l : Lexer) (folded : Bool) : Except Error Lexer := do
  let l ← l.dropKey
  let (text, c) ← Block.read folded l.least l.cursor
  return { l.push (.scalar (Text.symbols text) false) c with keyAllowed := true }

/-- A plain scalar, behind which a key may start on a new line. -/
def plainScalar (l : Lexer) : Except Error Lexer := do
  let l ← l.saveKey
  let plain := Plain.read (!l.inBlock) l.least l.cursor
  let scalar := Token.scalar (Text.symbols plain.text) true
  return { l.push scalar plain.after with keyAllowed := plain.broken }

/-- A plain scalar starts with `first`, before `rest`. -/
def startsPlain (inBlock : Bool) (first : Char) (rest : List Char) : Bool :=
  if first == '-' || (inBlock && (first == '?' || first == ':')) then !endsWord rest
  else
    !endsWord [first] &&
      first ∉ ['?', ':', ',', '[', ']', '\x7b', '\x7d', '#', '&', '*', '!', '|', '>', '\'', '"',
        '%', '@', '\u0060']

/-- The token that starts with `first`, before `rest`. -/
def token (l : Lexer) (first : Char) (rest : List Char) : Except Error Lexer :=
  let atStart := l.cursor.column == 0
  if first = '%' ∧ atStart then l.directive
  else if atStart && atSign '-' (first :: rest) then l.marker .documentStart
  else if atStart && atSign '.' (first :: rest) then l.marker .documentEnd
  else if first = '[' then l.openFlow .flowSequence
  else if first = '\x7b' then l.openFlow .flowMapping
  else if first = ']' then l.closeFlow .flowSequenceEnd
  else if first = '\x7d' then l.closeFlow .flowMappingEnd
  else if first = ',' then l.separator
  else if first = '-' ∧ endsWord rest then l.entry
  else if first = '?' ∧ (!l.inBlock || endsWord rest) then l.explicitKey
  else if first = ':' ∧ (!l.inBlock || endsWord rest) then l.value
  else if first = '*' then l.node fun c => do
    let (name, c) ← readName c
    return (.alias name, c)
  else if first = '&' then l.node fun c => do
    let (name, c) ← readName c
    return (.anchor name, c)
  else if first = '!' then l.node readTag
  else if first = '|' ∧ l.inBlock then l.blockScalar false
  else if first = '>' ∧ l.inBlock then l.blockScalar true
  else if first = '\'' ∨ first = '"' then l.node fun c => do
    let (text, c) ← Quoted.read (first == '"') c
    return (.scalar text false, c)
  else if startsPlain l.inBlock first rest then l.plainScalar
  else .error .notYaml

/-- Find the next token, together with those that come from indentation. -/
def fetch (l : Lexer) : Except Error Lexer := do
  let l ← (toNextToken (l.cursor.left + 1) l).dropStale
  let l := l.unwind l.cursor.column
  match l.rest with
  | [] => l.finish
  | first :: rest => l.token first rest

/-- The number of tokens that no key can come before any more. -/
def settled (l : Lexer) : Nat :=
  l.keys.foldl (fun n (_, key) => min n (key.number - l.taken)) l.pending.length

/-- Tokens up to the end of the text or to its first fault; `found` holds those handed
out before in reverse.  Every step but the last consumes a character. -/
def run : Nat → List Token → Lexer → List Token
  | 0, found, _ => (Token.broken .notYaml :: found).reverse
  | fuel + 1, found, l =>
    match l.fetch with
    | .error error => (.broken error :: found).reverse
    | .ok l =>
      if l.done then (l.pending.reverse ++ found).reverse
      else match l.dropStale with
        | .error error => (.broken error :: found).reverse
        | .ok l =>
          let n := l.settled
          run fuel ((l.pending.take n).reverse ++ found)
            { l with pending := l.pending.drop n, taken := l.taken + n }

end Lexer

/-- The tokens of a text, after a byte order mark at its start.  The last one is the
end of the stream or tells where the text is faulty. -/
def tokens (text : List Char) : List Token :=
  let start := Cursor.ofText text
  let start := if text.head? = some '\ufeff' then start.next else start
  Lexer.run (text.length + 1) [] { cursor := start }

end TaskGraph.Yaml
