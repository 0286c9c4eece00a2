/-
Module: TaskGraph.Platform
Purpose: What a command runs on, and printing on it.
Main exports:
  Stream, Platform, Platform.printAll
-/
import TaskGraph.Files.System

namespace TaskGraph

/-- What a command prints on: standard output, and standard error. -/
inductive Stream where
  | output
  | errors
deriving Repr, DecidableEq, Inhabited

/-- What a command runs on: files, streams, and memory. -/
structure Platform (m : Type → Type) where
  files : Files.System m
  /-- Put a text on a stream.  It may be refused, as where it cannot be encoded, or where nothing
  more can be written. -/
  print : Stream → Text → m (Except Error Unit)
  /-- There is no room for a sequence of so many items. -/
  memory : Nat

namespace Platform

variable {m : Type → Type} [Monad m]

/-- Print texts one after the other, up to the first one that is refused; with what was taken. -/
def printAll (platform : Platform m) (stream : Stream) : List Text → m (Text × Except Error Unit)
  | [] => pure (Text.empty, .ok ())
  | text :: rest => do
    match ← platform.print stream text with
    | .error error => pure (Text.empty, .error error)
    | .ok () =>
      let (taken, ended) ← platform.printAll stream rest
      pure (text ++ taken, ended)

end Platform

end TaskGraph
