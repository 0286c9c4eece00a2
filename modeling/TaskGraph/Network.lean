/-
Module: TaskGraph.Network
Purpose: Graphs as networks of nodes and links with attributes, where parallel links
  are told apart by a key.
Main exports:
  Network, Multigraph, Network.ofGraph
-/
import TaskGraph.Graph.Basic

namespace TaskGraph

/-- A node of a network. -/
structure NetworkNode where
  name : Value
  index : Nat
  size : Value
  weights : Text
  centrality : Value
deriving Repr, Inhabited

/-- A link of a network.  The key counts the links from the same source to the same
target. -/
structure NetworkLink where
  src : Value
  dest : Value
  key : Nat
  name : Text
  weights : Text
deriving Repr, Inhabited

/-- A network: its name, its nodes, and its links grouped by source and target. -/
structure Network where
  name : Value
  nodes : List NetworkNode
  links : List NetworkLink
deriving Repr, Inhabited

/-! ### Filling a network

A network is filled node by node and edge by edge.  Nodes, and the targets of a node, keep the
order in which they were first met, and the links between two nodes have the numbers from zero on
as their keys, in the order in which they were added. -/

/-- The attributes of a link. -/
structure LinkAttributes where
  name : Text
  weights : Text
deriving Repr, Inhabited

/-- The links that leave a node: by target, and then by key. -/
abbrev LinkRow := List (Value × List (Nat × LinkAttributes))

/-- Change what is under a name, where it stands, or else put it at the end. -/
def alter {β : Type} (name : Value) (change : Option β → β) : List (Value × β) → List (Value × β)
  | [] => [(name, change none)]
  | entry :: rest =>
    if entry.1.same name then (entry.1, change (some entry.2)) :: rest
    else entry :: alter name change rest

/-- The nodes of a network and the links that leave them, by name. -/
structure Multigraph where
  nodes : List (Value × NetworkNode) := []
  rows : List (Value × LinkRow) := []
deriving Repr, Inhabited

namespace Multigraph

/-- Add a node, or change its attributes if it is there. -/
def addNode (m : Multigraph) (node : NetworkNode) : Multigraph where
  nodes := alter node.name (fun _ => node) m.nodes
  rows := alter node.name (·.getD []) m.rows

/-- One more link between two nodes.  Its key is the number of links that are already between
them. -/
def putLink (attributes : LinkAttributes) (links : Option (List (Nat × LinkAttributes))) :
    List (Nat × LinkAttributes) :=
  links.getD [] ++ [((links.getD []).length, attributes)]

/-- Add a link between two nodes that are there. -/
def addLink (m : Multigraph) (src dest : Value) (attributes : LinkAttributes) : Multigraph :=
  { m with
    rows := alter src (fun row => alter dest (putLink attributes) (row.getD [])) m.rows }

/-- The links by source, by target and by key. -/
def links (m : Multigraph) : List NetworkLink :=
  m.rows.flatMap fun (src, row) => row.flatMap fun (dest, links) =>
    links.map fun (key, attributes) =>
      { src, dest, key, name := attributes.name, weights := attributes.weights }

end Multigraph

namespace Network

/-- The node with a number.  What is absent names no node. -/
def nodeOf (node : Node) (index : Nat) : Except Error NetworkNode := do
  let weights ← node.vertex.weightsText
  match node.label with
  | .null => .error .absentNode
  | name =>
    .ok { name, index, size := node.vertex.size, weights, centrality := node.vertex.centrality }

/-- The attributes of the link that an edge becomes. -/
def attributesOf (edge : Edge) : Except Error LinkAttributes := do
  let name ← edge.asName
  let weights ← edge.weightsText
  .ok { name, weights }

/-- Add the vertices of a graph, and then its edges. -/
def fill (g : Graph) : Except Error Multigraph := do
  let nodes ← g.nodes.toList.zipIdx.foldlM
    (fun (m : Multigraph) (node, i) => do .ok (m.addNode (← nodeOf node (i + 1)))) {}
  g.edgeList.foldlM
    (fun (m : Multigraph) edge => do .ok (m.addLink edge.src edge.dest (← attributesOf edge))) nodes

/-- The network of a graph. -/
def ofGraph (g : Graph) : Except Error Network := do
  let m ← fill g
  .ok { name := g.name, nodes := m.nodes.map (·.2), links := m.links }

end Network

end TaskGraph
