/-
Module: TaskGraph.Metis.Summary
Purpose: The contents of a graph file for a partitioner.
Main exports:
  Metis.VertexLine, Metis.Summary
-/
import TaskGraph.Metis.Format

namespace TaskGraph.Metis

/-- What the line of one vertex says.  Neighbors are given by their number, and
edge weights, if any, stand in the order of the neighbors. -/
structure VertexLine where
  size : Nat := 1
  weights : List Nat := []
  neighbors : List Nat := []
  edgeWeights : List Nat := []
deriving DecidableEq, Repr, Inhabited

/-- What a graph file says. -/
structure Summary where
  vertexCount : Nat
  edgeCount : Nat
  format : Format
  vertices : List VertexLine
deriving DecidableEq, Repr, Inhabited

namespace Summary

/-- The vertices with their numbers, which count from one. -/
def numbered (summary : Summary) : List (Nat × VertexLine) :=
  summary.vertices.zipIdx.map fun (vertex, i) => (i + 1, vertex)

/-- Each vertex number with the neighbors on its line. -/
def adjacency (summary : Summary) : List (Nat × List Nat) :=
  summary.numbered.map fun (number, vertex) => (number, vertex.neighbors)

/-- The number of neighbors on all lines together. -/
def adjacencyEntries (summary : Summary) : Nat :=
  (summary.vertices.flatMap (·.neighbors)).length

/-- How often the line of vertex `u` lists vertex `v`. -/
def multiplicity (summary : Summary) (u v : Nat) : Nat :=
  match u with
  | 0 => 0
  | i + 1 => ((summary.vertices[i]?).map fun vertex => vertex.neighbors.count v).getD 0

end Summary

end TaskGraph.Metis
