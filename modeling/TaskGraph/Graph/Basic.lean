/-
Module: TaskGraph.Graph.Basic
Purpose: Directed multigraphs of task instances, kept as adjacency lists beside the
  sequence of all edges.
Main exports:
  Graph, Graph.addVertex, Graph.addEdge, Graph.indexOf, Graph.outgoing,
  Graph.incoming, Graph.edgesBetween, Graph.neighbors, Graph.verticesOf
-/
import TaskGraph.Graph.Edge
import TaskGraph.Graph.Register
import TaskGraph.Graph.Vertex

namespace TaskGraph

/-- An edge with the places of the vertices that it joins. -/
structure Link where
  edge : Edge
  source : Nat
  target : Nat
deriving Repr, Inhabited

/-- A vertex with the links that leave and that enter it, in the order in which they were
added.  The label is the name under which the vertex was added. -/
structure Node where
  label : Value
  vertex : Vertex
  outgoing : Array Link := #[]
  incoming : Array Link := #[]
deriving Repr, Inhabited

/-- A directed multigraph.  Nodes and links keep the order in which they were added, and the
register holds the key of every label at the place of its node. -/
structure Graph where
  name : Value := .text ""
  metadata : Value.Entries := []
  register : Register := .empty
  nodes : Array Node := #[]
  links : Array Link := #[]
  size_eq : nodes.size = register.size := by exact Register.size_empty
deriving Repr

instance : Inhabited Graph := ⟨{}⟩

namespace Graph

/-! ### Views -/

/-- The vertices in the order in which they were added. -/
def vertices (g : Graph) : List Vertex :=
  g.nodes.toList.map (·.vertex)

/-- The names under which the vertices were added, in that order. -/
def labels (g : Graph) : List Value :=
  g.nodes.toList.map (·.label)

/-- The edges in the order in which they were added. -/
def edgeList (g : Graph) : List Edge :=
  g.links.toList.map (·.edge)

/-- The number of vertices. -/
def vertexCount (g : Graph) : Nat :=
  g.nodes.size

/-- The number of edges. -/
def edgeCount (g : Graph) : Nat :=
  g.links.size

/-! ### Look-up

Vertices are looked up by their label.  A value that cannot be a key is refused. -/

/-- The place of the vertex with a label, counted from zero. -/
def place? (g : Graph) (name : Value) : Except Error (Option Nat) :=
  (name.asKey).map g.register.find?

/-- The node of the vertex with a label. -/
def node? (g : Graph) (name : Value) : Except Error (Option Node) :=
  (g.place? name).map fun place => place.bind (g.nodes[·]?)

/-- The vertex with a label. -/
def vertex? (g : Graph) (name : Value) : Except Error (Option Vertex) :=
  (g.node? name).map (·.map (·.vertex))

/-- There is a vertex with this label. -/
def hasVertex (g : Graph) (name : Value) : Except Error Bool :=
  (g.place? name).map (·.isSome)

/-- The number of the vertex with a label; vertices count from one. -/
def indexOf (g : Graph) (name : Value) : Except Error Nat := do
  match ← g.place? name with
  | some place => .ok (place + 1)
  | none => .error (.unknownVertex .subject name)

/-- The labels with the numbers of their vertices. -/
def vertexIndex (g : Graph) : List (Value × Nat) :=
  g.labels.zipIdx 1

/-- The edges that leave the vertex with a label. -/
def outgoing (g : Graph) (name : Value) : Except Error (List Edge) :=
  (g.node? name).map fun node => (node.map (·.outgoing.toList.map (·.edge))).getD []

/-- The edges that enter the vertex with a label. -/
def incoming (g : Graph) (name : Value) : Except Error (List Edge) :=
  (g.node? name).map fun node => (node.map (·.incoming.toList.map (·.edge))).getD []

/-- The edges from one vertex to another. -/
def edgesBetween (g : Graph) (src dest : Value) : Except Error (List Edge) :=
  (g.outgoing src).map (·.filter (·.dest.equal dest))

/-- Which ends of the edges at a vertex count. -/
inductive Direction where
  | outward
  | inward
  | both
deriving DecidableEq, Repr, Inhabited

/-- The names at the other ends of the edges at a vertex, each once. -/
def neighbors (g : Graph) (name : Value) (direction : Direction) : Except Error (List Value) := do
  let targets := (← g.outgoing name).map (·.dest)
  let sources := (← g.incoming name).map (·.src)
  .ok (Value.distinct (match direction with
    | .outward => targets
    | .inward => sources
    | .both => targets ++ sources))

/-- A name is that of an instance of a component: the component's name, a dash, and
digits. -/
def isInstanceOf (component name : Text) : Bool :=
  let start := component.toList ++ [.char '-']
  start.isPrefixOf name.toList && Text.isNumeral (name.toList.drop start.length)

/-- The vertices whose labels are names of instances of a component.  All labels have to be
texts. -/
def verticesOf (g : Graph) (component : Text) : Except Error (List Vertex) := do
  let found ← g.nodes.toList.mapM fun node =>
    match node.label with
    | .text name => .ok (if isInstanceOf component name then some node.vertex else none)
    | _ => .error .wrongShape
  .ok (found.filterMap id)

/-! ### Growth -/

/-- Put a vertex whose key is new at the end. -/
def push (g : Graph) (v : Vertex) (key : Key) (isNew : g.register.find? key = none) : Graph :=
  { g with
    register := g.register.push key isNew
    nodes := g.nodes.push { label := v.name, vertex := v }
    size_eq := by simp [g.size_eq] }

/-- Add a vertex; its name has to be a key and new. -/
def addVertex (g : Graph) (v : Vertex) : Except Error Graph :=
  match v.name.key? with
  | none => .error .illTyped
  | some key =>
    match isNew : g.register.find? key with
    | some _ => .error (.duplicateVertex v.name)
    | none => .ok (g.push v key isNew)

/-- The place of an end of an edge, which has to be a vertex. -/
def endpoint (g : Graph) (role : VertexRole) (name : Value) : Except Error Nat := do
  match ← g.place? name with
  | some place => .ok place
  | none => .error (.unknownVertex role name)

/-- Put an edge between the nodes at two places. -/
def join (g : Graph) (source target : Nat) (edge : Edge) : Graph :=
  let link : Link := { edge, source, target }
  { g with
    links := g.links.push link
    nodes := (g.nodes.modify source fun node =>
        { node with outgoing := node.outgoing.push link }).modify target fun node =>
      { node with incoming := node.incoming.push link }
    size_eq := by simp [g.size_eq] }

/-- Add an edge between two vertices. -/
def addEdge (g : Graph) (src dest : Value) (weights : List Text) : Except Error Graph := do
  let source ← g.endpoint .source src
  let target ← g.endpoint .destination dest
  .ok (g.join source target { src, dest, weights := weights.map .text })

/-- Change an attribute of the vertex with a label, if there is one.  The label stays. -/
def editVertex (g : Graph) (name : Value) (edit : Vertex.Edit) : Except Error Graph := do
  match ← g.node? name, ← g.place? name with
  | some node, some place =>
    let vertex ← node.vertex.edit edit
    .ok
      { g with
        nodes := g.nodes.modify place fun node => { node with vertex }
        size_eq := by simp [g.size_eq] }
  | _, _ => .ok g

end Graph

end TaskGraph
