/-
Module: TaskGraph.Graph.Statistics
Purpose: Counts and degrees of a graph.
Main exports:
  Statistics, Graph.statistics
-/
import TaskGraph.Graph.Basic

namespace TaskGraph

/-- Counts and degrees of a graph. -/
structure Statistics where
  vertices : Nat
  edges : Nat
  maxOutDegree : Nat
  maxInDegree : Nat
  /-- The number of vertices at which no edge starts or ends. -/
  isolated : Nat
deriving DecidableEq, Repr, Inhabited

namespace Graph

/-- The number of edges that leave each vertex. -/
def outDegrees (g : Graph) : List Nat :=
  g.nodes.toList.map fun node => node.outgoing.size

/-- The number of edges that enter each vertex. -/
def inDegrees (g : Graph) : List Nat :=
  g.nodes.toList.map fun node => node.incoming.size

/-- The statistics of a graph. -/
def statistics (g : Graph) : Statistics :=
  { vertices := g.vertexCount
    edges := g.edgeCount
    maxOutDegree := g.outDegrees.foldl max 0
    maxInDegree := g.inDegrees.foldl max 0
    isolated := (g.outDegrees.zip g.inDegrees).countP fun (o, i) => o = 0 ∧ i = 0 }

end Graph

/-- The stored form of the statistics. -/
def Statistics.toValue (s : Statistics) : Value :=
  .map
    [(.text "num_vertices", .int s.vertices), (.text "num_edges", .int s.edges),
     (.text "max_out_degree", .int s.maxOutDegree), (.text "max_in_degree", .int s.maxInDegree),
     (.text "isolated_vertices", .int s.isolated)]

end TaskGraph
