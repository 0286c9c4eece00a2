/-
Module: TaskGraph.Files.Tree
Purpose: Trees of files as values, and the file system that works on them.
Main exports:
  Files.Entry, Files.Tree, Files.Tree.system
-/
import TaskGraph.Files.System

namespace TaskGraph.Files

/-- What a place in a tree holds. -/
inductive Entry where
  | directory
  | file (content : List UInt8) (mode : Nat)
deriving DecidableEq, Repr, Inhabited

/-- A place: the names on the way from the root. -/
abbrev Place := List Text

/-- A tree of files with a working directory.  The root is always a directory. -/
structure Tree where
  entries : List (Place × Entry) := []
  working : Place := []
deriving DecidableEq, Repr, Inhabited

namespace Tree

/-! ### Places -/

/-- What is at a place. -/
def entry? (t : Tree) (place : Place) : Option Entry :=
  if place.isEmpty then some .directory else t.entries.lookup place

/-- Put an entry at a place. -/
def put (t : Tree) (place : Place) (entry : Entry) : Tree :=
  if t.entries.any (·.1 == place) then
    { t with entries := t.entries.map fun old => if old.1 == place then (place, entry) else old }
  else
    { t with entries := t.entries ++ [(place, entry)] }

/-- Clear a place. -/
def erase (t : Tree) (place : Place) : Tree :=
  { t with entries := t.entries.filter (·.1 != place) }

/-- The longest name of a file, in bytes. -/
def maxName : Nat := 255

/-- The longest text of a path, in bytes. -/
def maxPath : Nat := 4095

/-- Go from a place along some names; the place before each name has to be a
directory. -/
def walk (t : Tree) (place : Place) : List Text → Except Problem Place
  | [] => .ok place
  | name :: rest =>
    match t.entry? place with
    | none => .error .notFound
    | some (.file _ _) => .error .notADirectory
    | some .directory =>
      if name = ".." then t.walk place.dropLast rest
      else if maxName < Utf8.size name then .error .nameTooLong
      else t.walk (place ++ [name]) rest

/-- The place that a path leads to. -/
def locate (t : Tree) (path : Path) : Except Problem Place :=
  if maxPath < Utf8.size path.toText then .error .nameTooLong
  else t.walk (if path.root.isEmpty then t.working else []) path.parts

/-- A refused operation on one path. -/
def refuse {α : Type} (problem : Problem) (path : Path) : Except Fault α :=
  .error (.refused problem path.toText none)

/-- Why a path is refused before it is looked at, if it is.  The symbols that have no bytes
are looked for in `written`. -/
def checkPath (written path : Path) : Except Fault Unit :=
  match Utf8.unencodable? written.toText with
  | some fault => .error (.unencodable fault)
  | none => if path.hasNul then .error .nulInPath else .ok ()

/-- Do something with the place that a path leads to. -/
def withPlace {α : Type} (t : Tree) (path : Path) (act : Place → Except Fault α) :
    Except Fault α := do
  checkPath path path
  match t.locate path with
    | .error problem => refuse problem path
    | .ok place => act place

/-! ### Operations -/

/-- Something is at the path.  A path that leads nowhere holds nothing. -/
def holds (t : Tree) (path : Path) : Except Fault Bool :=
  match checkPath path path with
  | .error _ => .ok false
  | .ok () =>
    match t.locate path with
    | .error .nameTooLong => refuse .nameTooLong path
    | .error _ => .ok false
    | .ok place => .ok (t.entry? place).isSome

/-- A directory is at the path. -/
def isDirectory (t : Tree) (path : Path) : Bool :=
  match t.locate path with
  | .error _ => false
  | .ok place => t.entry? place == some .directory

/-- The bytes of the file at the path. -/
def read (t : Tree) (path : Path) : Except Fault (List UInt8) :=
  t.withPlace path fun place =>
    match t.entry? place with
    | none => refuse .notFound path
    | some .directory => refuse .isADirectory path
    | some (.file content _) => .ok content

/-- Make a directory where nothing is. -/
def makeDirectory (t : Tree) (path : Path) : Except Fault Tree :=
  t.withPlace path fun place =>
    match t.entry? place with
    | none => .ok (t.put place .directory)
    | some _ => refuse .exists path

/-- The name of a temporary file. -/
def temporaryName (name : Text) (index : Nat) : Text :=
  "." ++ name ++ "." ++ Text.padded 8 index ++ ".tmp"

/-- Make an empty file with a new name in a directory.  One of the names with an
index up to the number of entries is new.  The path of the file is written from the root
on. -/
def makeTemporary (t : Tree) (parent : Path) (name : Text) : Except Fault (Path × Tree) := do
  checkPath (Path.absolute t.working (parent.child (temporaryName name 0))) (parent.child name)
  t.withPlace parent fun place =>
    let isFree (index : Nat) : Bool :=
      (t.entry? (place ++ [temporaryName name index])).isNone
    let index := ((List.range (t.entries.length + 1)).find? isFree).getD 0
    let path := parent.child (temporaryName name index)
    match t.locate path with
    | .error problem => refuse problem path
    | .ok place => .ok (path, t.put place (.file [] 0o600))

/-- Fill a file with bytes. -/
def write (t : Tree) (path : Path) (content : List UInt8) : Except Fault Tree :=
  t.withPlace path fun place =>
    match t.entry? place with
    | some (.file _ mode) => .ok (t.put place (.file content mode))
    | some .directory => refuse .isADirectory path
    | none => refuse .notFound path

/-- Let everyone read a file and its owner write it. -/
def publish (t : Tree) (path : Path) : Except Fault Tree :=
  t.withPlace path fun place =>
    match t.entry? place with
    | some (.file content _) => .ok (t.put place (.file content 0o644))
    | some .directory => .ok t
    | none => refuse .notFound path

/-- Move a file to a path, in place of the file that is there. -/
def rename (t : Tree) (source target : Path) : Except Fault Tree :=
  let refuse (problem : Problem) : Except Fault Tree :=
    .error (.refused problem source.toText (some target.toText))
  match checkPath source source, checkPath target target with
  | .error fault, _ => .error fault
  | .ok (), .error fault => .error fault
  | .ok (), .ok () =>
    match t.locate source, t.locate target with
    | .error problem, _ => refuse problem
    | .ok _, .error problem => refuse problem
    | .ok old, .ok new =>
      if target.name = "" ∨ target.name = ".." then refuse .busy
      else match t.entry? old, t.entry? new with
        | some (.file _ _), some .directory => refuse .isADirectory
        | some (.file content mode), _ => .ok ((t.erase old).put new (.file content mode))
        | _, _ => refuse .notFound

/-- Remove a file if it is there. -/
def discard (t : Tree) (path : Path) : Tree :=
  match t.locate path with
  | .error _ => t
  | .ok place =>
    match t.entry? place with
    | some (.file _ _) => t.erase place
    | _ => t

/-! ### The file system -/

/-- Ask a tree, which stays as it is. -/
def ask {α : Type} (question : Tree → α) : StateM Tree α := do
  return question (← get)

/-- Change a tree, which stays as it is if that fails. -/
def change (operation : Tree → Except Fault Tree) : StateM Tree (Except Fault Unit) := do
  match operation (← get) with
  | .ok t =>
    set t
    return .ok ()
  | .error fault => return .error fault

/-- The file system that works on a tree. -/
def system : System (StateM Tree) where
  holds path := ask (·.holds path)
  isDirectory path := ask (·.isDirectory path)
  read path := ask (·.read path)
  makeDirectory path := change (·.makeDirectory path)
  makeTemporary parent name := do
    match (← get).makeTemporary parent name with
    | .ok (path, t) =>
      set t
      return .ok path
    | .error fault => return .error fault
  write path content := change (·.write path content)
  publish path := change (·.publish path)
  rename source target := change (·.rename source target)
  discard path := modify (·.discard path)

end Tree

end TaskGraph.Files
