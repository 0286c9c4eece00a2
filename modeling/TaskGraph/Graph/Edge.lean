/-
Module: TaskGraph.Graph.Edge
Purpose: Edges, which stand for one possible flow of data between two instances.
Main exports:
  Edge, Edge.name, Edge.asName, Edge.weightsText, Edge.toValue, Edge.ofValue
-/
import TaskGraph.Value.Access

namespace TaskGraph

/-- An edge from one vertex to another, both given by name. -/
structure Edge where
  src : Value
  dest : Value
  weights : List Value := []
deriving Repr, Inhabited

namespace Edge

/-- The name of an edge is that of its ends. -/
def name (e : Edge) : Text :=
  e.src.plain ++ ">" ++ e.dest.plain

/-- The name of an edge whose ends have to have a text each. -/
def asName (e : Edge) : Except Error Text := do
  let src ← e.src.asPlain
  let dest ← e.dest.asPlain
  .ok (src ++ ">" ++ dest)

/-- Two edges have the same ends and the same weights. -/
def same (a b : Edge) : Bool :=
  a.src.same b.src && a.dest.same b.dest && Value.sameAll a.weights b.weights

/-- The weight labels between brackets after a dash, nothing if there are none. -/
def weightsText (e : Edge) : Except Error Text :=
  if e.weights.isEmpty then .ok Text.empty
  else do
    let labels ← Value.labelTexts e.weights
    .ok ("-(" ++ Text.join "," labels ++ ")")

/-- The stored form of an edge. -/
def toValue (e : Edge) : Value :=
  .map
    [(.text "name", .text e.name), (.text "src", e.src), (.text "dest", e.dest),
     (.text "weights", .list e.weights)]

/-- Read a stored edge; the weights may be left out. -/
def ofValue (data : Value) : Except Error Edge := do
  let src ← data.require "src"
  let dest ← data.require "dest"
  let entries ← data.asMapping
  let weights ← ((entries.get? "weights").getD (.list [])).walk
  .ok { src, dest, weights }

end Edge

end TaskGraph
