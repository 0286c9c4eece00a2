/-
Module: TaskGraph.Files.System
Purpose: The operations of a file system, and replacing a file as a whole.
Main exports:
  Files.System, Files.System.makeParents, Files.System.replace
-/
import TaskGraph.Error
import TaskGraph.Files.Path

namespace TaskGraph.Files

/-- The operations of a file system that runs in `m`. -/
structure System (m : Type → Type) where
  /-- Something is at the path. -/
  holds : Path → m (Except Fault Bool)
  /-- A directory is at the path. -/
  isDirectory : Path → m Bool
  /-- The bytes of the file at the path. -/
  read : Path → m (Except Fault (List UInt8))
  /-- Make a directory in an existing one. -/
  makeDirectory : Path → m (Except Fault Unit)
  /-- Make an empty file in a directory.  Its name is new, and starts with a point,
  the given name, and another point. -/
  makeTemporary : Path → Text → m (Except Fault Path)
  /-- Fill a file with bytes. -/
  write : Path → List UInt8 → m (Except Fault Unit)
  /-- Let everyone read a file and its owner write it. -/
  publish : Path → m (Except Fault Unit)
  /-- Move a file to a path, in place of what is there. -/
  rename : Path → Path → m (Except Fault Unit)
  /-- Remove a file if it is there. -/
  discard : Path → m Unit

namespace System

variable {m : Type → Type} [Monad m]

/-- A failure to make a directory does not matter if the directory is there.  A path that
the file system has not seen is a failure all the same. -/
def settle (fs : System m) (path : Path) (outcome : Except Fault Unit) :
    m (Except Fault Unit) := do
  match outcome with
  | .error (.refused problem shown target) =>
    pure (if ← fs.isDirectory path then .ok () else .error (.refused problem shown target))
  | outcome => pure outcome

/-- The number of directories that are made for one path at the most. -/
def maxMissing : Nat := 985

/-- Make a directory and those above it, as far as they are not there.  At most `missing`
of them may be missing. -/
def makeParents (fs : System m) : Nat → Path → m (Except Fault Unit)
  | 0, _ => pure (.error .tooDeep)
  | missing + 1, path => do
    let outcome ← fs.makeDirectory path
    match outcome with
    | .error fault =>
      if fault.isNotFound then
        if path.parts.isEmpty then pure (.error fault)
        else match ← fs.makeParents missing path.parent with
          | .error fault => pure (.error fault)
          | .ok () =>
            match ← fs.makeDirectory path with
            | .error fault =>
              if fault.isNotFound then pure (.error fault) else fs.settle path (.error fault)
            | .ok () => pure (.ok ())
      else
        fs.settle path outcome
    | .ok () => pure (.ok ())

/-- The steps on a temporary file: fill it, publish it, and move it to the target.
The first failure ends them. -/
def fillAndMove (fs : System m) (temporary target : Path) (content : List UInt8) :
    m (Except Fault Unit) := do
  match ← fs.write temporary content with
  | .error fault => pure (.error fault)
  | .ok () =>
    match ← fs.publish temporary with
    | .error fault => pure (.error fault)
    | .ok () => fs.rename temporary target

/-- A failed operation as the error of an export.  Only what the file system refuses is a
failure of the export itself. -/
def exportError (path : Path) : Fault → Error
  | .refused problem shown target => .unwritable path.toText (.refused problem shown target)
  | .tooDeep => .tooDeep
  | fault => .file fault

/-- Put a file with the given content at a path.  It is written beside the target
first and moved there when it is complete; after a failure it is removed. -/
def replace (fs : System m) (path : Path) (content : List UInt8) : m (Except Error Text) := do
  match ← fs.makeParents maxMissing path.parent with
  | .error fault => pure (.error (exportError path fault))
  | .ok () =>
    match ← fs.makeTemporary path.parent path.name with
    | .error fault => pure (.error (exportError path fault))
    | .ok temporary =>
      match ← fs.fillAndMove temporary path content with
      | .error fault => do
        fs.discard temporary
        pure (.error (exportError path fault))
      | .ok () => pure (.ok path.toText)

end System

end TaskGraph.Files
