/-
Module: TaskGraph.Graph.Stored
Purpose: The stored form of graphs, and edges whose weights are given by a value of unknown
  shape.
Main exports:
  Graph.toValue, Graph.ofValue, Graph.shown
-/
import TaskGraph.Graph.Basic

namespace TaskGraph.Graph

/-! ### Edges from values -/

/-- Add an edge whose weights are given by a value.  The ends are looked at before the
weights; weights become texts. -/
def addEdgeOf (g : Graph) (src dest weights : Value) : Except Error (Graph × Edge) := do
  let source ← g.endpoint .source src
  let target ← g.endpoint .destination dest
  let labels ← (← weights.walkIfTrue).mapM Value.asPlain
  let edge : Edge := { src, dest, weights := labels.map .text }
  .ok (g.join source target edge, edge)

/-! ### Stored form -/

/-- The stored form of a graph. -/
def toValue (g : Graph) : Except Error Value := do
  let vertices ← g.vertices.mapM (·.toValue)
  .ok (.map
    [(.text "name", g.name), (.text "metadata", .map g.metadata),
     (.text "vertices", .list vertices), (.text "edges", .list (g.edgeList.map (·.toValue)))])

/-- Add stored vertices one after the other. -/
def addStoredVertices (g : Graph) (stored : List Value) : Except Error Graph :=
  stored.foldlM (fun g data => do g.addVertex (← Vertex.ofValue data)) g

/-- Add stored edges one after the other. -/
def addStoredEdges (g : Graph) (stored : List Value) : Except Error Graph :=
  stored.foldlM
    (fun g data => do
      let edge ← Edge.ofValue data
      let (g, _) ← g.addEdgeOf edge.src edge.dest (.list edge.weights)
      pure g)
    g

/-- Read a stored graph.  Every part may be left out. -/
def ofValue (data : Value) : Except Error Graph := do
  let entries ← data.asMapping
  let metadata ← ((entries.get? "metadata").getD (.map [])).asEntries
  let start : Graph := { name := (entries.get? "name").getD (.text ""), metadata }
  let g ← start.addStoredVertices (← ((entries.get? "vertices").getD (.list [])).walk)
  g.addStoredEdges (← ((entries.get? "edges").getD (.list [])).walk)

/-- A short text that tells a graph from others. -/
def shown (g : Graph) : Text :=
  "Graph(name=" ++ g.name.shown ++ s!", vertices={g.vertexCount}, edges={g.edgeCount})"

end TaskGraph.Graph
