/-
Module: TaskGraph.Yaml.Property
Purpose: Anchors, aliases, tags and directives.
Main exports:
  Yaml.readName, Yaml.readTag, Yaml.readDirective
-/
import TaskGraph.Yaml.Cursor
import TaskGraph.Yaml.Token
import TaskGraph.Text.CodePoint

namespace TaskGraph.Yaml

/-! ### Anchors and aliases -/

/-- An anchor or an alias ends here. -/
def endsName (rest : List Char) : Bool :=
  endsWord rest ||
    rest.head?.any fun c => c ∈ ['?', ':', ',', ']', '\x7d', '%', '@', '\u0060']

/-- The name behind the sign of an anchor or of an alias. -/
def readName (c : Cursor) : Except Error (String × Cursor) :=
  let (name, c) := c.next.span isNameChar
  if name.isEmpty || !endsName c.rest then .error .notYaml
  else .ok (String.ofList name, c)

/-! ### Tags -/

/-- The handle of a tag: an exclamation mark, or a name between two of them. -/
def readHandle (c : Cursor) : Except Error (String × Cursor) :=
  match c.rest with
  | '!' :: ' ' :: _ => .ok ("!", c.next)
  | '!' :: _ =>
    let (name, c) := c.next.span isNameChar
    if c.rest.head? = some '!' then .ok ("!" ++ String.ofList name ++ "!", c.next)
    else .error .notYaml
  | _ => .error .notYaml

/-- A character that may stand in a tag as it is. -/
def isUriChar (c : Char) : Bool :=
  c.isAlphanum || c ∈ "-;/?:@&=+$,_.!~*'()[]".toList

/-- The bytes that percent signs with two hexadecimal digits write, and the place after
them. -/
def escapedBytes : Nat → List UInt8 → Cursor → Except Error (List UInt8 × Cursor)
  | 0, found, c => .ok (found.reverse, c)
  | fuel + 1, found, c =>
    match c.rest with
    | '%' :: first :: second :: _ =>
      match Text.hexNumber? [first, second] with
      | some n => escapedBytes fuel (UInt8.ofNat n :: found) (c.advance 3)
      | none => .error .notYaml
    | '%' :: _ => .error .notYaml
    | _ => .ok (found.reverse, c)

/-- The characters of a tag from here on, escaped ones included. -/
def uriFrom : Nat → List Char → Cursor → Except Error (List Char × Cursor)
  | 0, found, c => .ok (found, c)
  | fuel + 1, found, c =>
    let (run, c) := c.span isUriChar
    let found := found ++ run
    if c.rest.head? = some '%' then do
      let (bytes, c) ← escapedBytes c.left [] c
      let decoded ← (Utf8.decode bytes).mapError fun _ => Error.notYaml
      uriFrom fuel (found ++ decoded) c
    else .ok (found, c)

/-- The characters of a tag, of which there is at least one. -/
def readUri (c : Cursor) : Except Error (String × Cursor) :=
  match c.rest with
  | [] => .error .notYaml
  | first :: _ =>
    if isUriChar first || first == '%' then do
      let (text, c) ← uriFrom (c.left + 1) [] c
      return (String.ofList text, c)
    else .error .notYaml

/-- The parts of a tag: a full name between angle brackets, an exclamation mark alone,
or a handle and what follows it. -/
def tagParts (c : Cursor) : Except Error (Option String × String × Cursor) :=
  match c.rest.drop 1 with
  | '<' :: _ => do
    let (name, c) ← readUri (c.advance 2)
    if c.rest.head? = some '>' then return (none, name, c.next) else .error .notYaml
  | rest =>
    if endsWord rest then .ok (none, "!", c.next)
    else do
      let isNamed := (rest.takeWhile fun d => !endsField [d]).any (· == '!')
      let (handle, c) ← if isNamed then readHandle c else .ok ("!", c.next)
      let (suffix, c) ← readUri c
      return (some handle, suffix, c)

/-- Read the tag that starts here. -/
def readTag (c : Cursor) : Except Error (Token × Cursor) := do
  let (handle, suffix, c) ← tagParts c
  if endsField c.rest then return (.tag handle suffix, c) else .error .notYaml

/-! ### Directives -/

/-- A number of a version. -/
def versionNumber (c : Cursor) : Except Error (Nat × Cursor) := do
  let (digits, c) := c.span Text.isPlainDigit
  if digits.isEmpty then .error .notYaml
  else
    let n ← (Text.readNatural (Text.symbols digits)).mapError .numeral
    return (n, c)

/-- The two numbers of a version, with a point between them. -/
def versionDirective (c : Cursor) : Except Error (Token × Cursor) := do
  let (major, c) ← versionNumber c.skipSpaces
  if c.rest.head? = some '.' then
    let (minor, c) ← versionNumber c.next
    if endsField c.rest then return (.version major minor, c) else .error .notYaml
  else .error .notYaml

/-- A handle and what it stands for. -/
def handleDirective (c : Cursor) : Except Error (Token × Cursor) := do
  let (name, c) ← readHandle c.skipSpaces
  if c.rest.head? = some ' ' then
    let (stem, c) ← readUri c.skipSpaces
    if endsField c.rest then return (.handle name stem, c) else .error .notYaml
  else .error .notYaml

/-- Read the directive that starts here, to the end of its line.  Directives of other
names are passed over. -/
def readDirective (c : Cursor) : Except Error (Token × Cursor) := do
  let (name, c) := c.next.span isNameChar
  if name.isEmpty || !endsField c.rest then .error .notYaml
  else
    let (token, c) ←
      if name = "YAML".toList then versionDirective c
      else if name = "TAG".toList then handleDirective c
      else .ok (.otherDirective, c.skip (!isBreak ·))
    let c := c.skipSpaces.skipComment
    if endsLine c.rest then return (token, c.lineBreak.2) else .error .notYaml

end TaskGraph.Yaml
