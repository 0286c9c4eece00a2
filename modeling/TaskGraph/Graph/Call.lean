/-
Module: TaskGraph.Graph.Call
Purpose: Calls on a graph one after the other, of which some may fail: questions, new vertices
  and edges, and changes of vertices.
Main exports:
  Graph.Query, Graph.ask, Graph.Call, Graph.step, Graph.run
-/
import TaskGraph.Graph.Statistics
import TaskGraph.Graph.Stored

namespace TaskGraph.Graph

/-! ### Questions -/

/-- A question about a graph. -/
inductive Query where
  | vertex (name : Value)
  | hasVertex (name : Value)
  | indexOf (name : Value)
  | vertexIndex
  | outgoing (name : Value)
  | incoming (name : Value)
  | neighbors (name : Value) (direction : Direction)
  | edgesBetween (src dest : Value)
  | verticesOf (component : Text)
  | statistics
  | stored
deriving Repr, Inhabited

/-- What answers a question. -/
def Query.Answer : Query → Type
  | vertex _ => Option Vertex
  | hasVertex _ => Bool
  | indexOf _ => Nat
  | vertexIndex => List (Value × Nat)
  | outgoing _ => List Edge
  | incoming _ => List Edge
  | neighbors _ _ => List Value
  | edgesBetween _ _ => List Edge
  | verticesOf _ => List Vertex
  | statistics => Statistics
  | stored => Value

/-- The answer to a question. -/
def ask (g : Graph) : (query : Query) → Except Error query.Answer
  | .vertex name => g.vertex? name
  | .hasVertex name => g.hasVertex name
  | .indexOf name => g.indexOf name
  | .vertexIndex => .ok g.vertexIndex
  | .outgoing name => g.outgoing name
  | .incoming name => g.incoming name
  | .neighbors name direction => g.neighbors name direction
  | .edgesBetween src dest => g.edgesBetween src dest
  | .verticesOf component => g.verticesOf component
  | .statistics => .ok g.statistics
  | .stored => g.toValue

/-! ### Calls -/

/-- A call on a graph.  The names of vertices stay as they are. -/
inductive Call where
  | addVertex (v : Vertex)
  | addNamed (name : Text)
  | addEdge (src dest weights : Value)
  | change (name : Value) (edit : Vertex.Edit) (keepsName : ∀ value, edit ≠ .name value)
  | ask (query : Query)

/-- What a call returns. -/
def Call.Answer : Call → Type
  | addVertex _ => Vertex
  | addNamed _ => Vertex
  | addEdge _ _ _ => Edge
  | change _ _ _ => Vertex
  | ask query => query.Answer

/-- Add a vertex, and return it. -/
def addingVertex (g : Graph) (v : Vertex) : Graph × Except Error Vertex :=
  settle g ((g.addVertex v).map (·, v))

/-- Change a vertex, which has to be there, and return it.  What has been done of a change that
fails stays. -/
def changingVertex (g : Graph) (name : Value) (edit : Vertex.Edit) :
    Graph × Except Error Vertex :=
  match g.vertex? name with
  | .error e => (g, .error e)
  | .ok none => (g, .error .wrongShape)
  | .ok (some v) =>
    match g.editVertex name edit with
    | .ok next => (next, v.edit edit)
    | .error e =>
      let begun := edit.begun?.bind fun begun => (g.editVertex name begun).toOption
      (begun.getD g, .error e)

/-- The graph after a call, and what the call returned. -/
def step (g : Graph) : (call : Call) → Graph × Except Error call.Answer
  | .addVertex v => g.addingVertex v
  | .addNamed name => g.addingVertex { name := .text name }
  | .addEdge src dest weights => settle g (g.addEdgeOf src dest weights)
  | .change name edit _ => g.changingVertex name edit
  | .ask query => (g, g.ask query)

/-- The graph after calls one after the other, also where some of them failed. -/
def run (g : Graph) (calls : List Call) : Graph :=
  calls.foldl (fun g call => (g.step call).1) g

end TaskGraph.Graph
