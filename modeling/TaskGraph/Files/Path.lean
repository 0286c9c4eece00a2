/-
Module: TaskGraph.Files.Path
Purpose: Paths of files.
Main exports:
  Files.Path, Files.Path.ofText, Files.Path.toText, Files.Path.join,
  Files.Path.parent, Files.Path.suffix
-/
import TaskGraph.Text.Blank

namespace TaskGraph.Files

/-- A path: where it starts, and the names on the way.  A path without a root starts
at the working directory. -/
structure Path where
  root : String := ""
  parts : List Text := []
deriving DecidableEq, Repr, Inhabited

namespace Path

/-- The sign between two names. -/
def isSlash (c : Symbol) : Bool :=
  c == '/'

/-- The root of a path that is written with some slashes in front: two slashes are
a root of their own, more count as one. -/
def rootOf (symbols : List Symbol) : String :=
  match (symbols.takeWhile isSlash).length with
  | 0 => ""
  | 2 => "//"
  | _ => "/"

/-- An empty name, or the name for the place itself. -/
def isIdle (part : List Symbol) : Bool :=
  part == [] || part == [.char '.']

/-- The path that a text writes.  Empty names and names for the place itself are
left out. -/
def ofText (text : Text) : Path :=
  { root := rootOf text.toList
    parts := ((Text.pieces isSlash text.toList).filter (!isIdle ·)).map Text.ofList }

/-- The text of a path. -/
def toText (p : Path) : Text :=
  if p.root.isEmpty ∧ p.parts.isEmpty then "." else p.root ++ Text.join "/" p.parts

/-- A path that starts where another one leads to, unless it has a root. -/
def join (p q : Path) : Path :=
  if q.root.isEmpty then { p with parts := p.parts ++ q.parts } else q

/-- The path without its last name. -/
def parent (p : Path) : Path :=
  { p with parts := p.parts.dropLast }

/-- The path with one more name. -/
def child (p : Path) (name : Text) : Path :=
  { p with parts := p.parts ++ [name] }

/-- The last name of a path. -/
def name (p : Path) : Text :=
  p.parts.getLast?.getD Text.empty

/-- The end of the last name from its last point on.  A point at either end of the
name does not count. -/
def suffix (p : Path) : Text :=
  let symbols := p.name.toList
  let tail := (symbols.reverse.takeWhile (· != .char '.')).reverse
  if tail.length + 1 < symbols.length ∧ tail ≠ [] then ⟨.char '.' :: tail⟩ else Text.empty

/-- A path with a NUL character is none that a file system knows. -/
def hasNul (p : Path) : Bool :=
  p.parts.any fun part => part.toList.any (· == .char '\x00')

/-- The names on the way, where every name for the directory above takes back the name
before it. -/
def climb (found : List Text) : List Text → List Text
  | [] => found
  | part :: rest =>
    if part = ".." then climb found.dropLast rest else climb (found ++ [part]) rest

/-- The path from the root that another one means in a working directory.  Names for the
directory above are taken back without a look at the files. -/
def absolute (working : List Text) (p : Path) : Path :=
  if p.root.isEmpty then { root := "/", parts := climb [] (working ++ p.parts) }
  else { p with parts := climb [] p.parts }

end Path

end TaskGraph.Files
