/-
Module: TaskGraph.Proofs.Metis.Contents
Purpose: What the graph file of a graph has to say, read off the graph by the names of its
  vertices and without a file.
Main exports:
  Metis.labelNumber?, Metis.incidentEdges, Metis.contentsOf?, Metis.summaryOf?
-/
import TaskGraph.Graph.Basic
import TaskGraph.Metis.Summary
import TaskGraph.Text.Blank
import TaskGraph.Value.Text

namespace TaskGraph.Metis

/-- The number that a label writes: digits, with white space around them. -/
def labelNumber? (label : Value) : Option Nat :=
  match label.plain? with
  | .ok text =>
    let token := Text.strip text.toList
    if Text.isNumeral token then (Text.readNatural token).toOption else none
  | .error _ => none

/-! ### Edges at a vertex -/

/-- An edge joins two vertices, and not one with itself. -/
def isProper (e : Edge) : Bool :=
  !e.src.same e.dest

/-- The proper edges at the vertex with a name, in the order of all edges. -/
def incidentEdges (g : Graph) (name : Value) : List Edge :=
  g.edgeList.filter fun e => isProper e && (e.src.same name || e.dest.same name)

/-- The other end of an edge at the vertex with a name. -/
def farEnd (name : Value) (e : Edge) : Value :=
  if e.src.same name then e.dest else e.src

/-- The number that the first label of an edge writes; an edge without labels counts one. -/
def edgeNumber? (e : Edge) : Option Nat :=
  match e.weights with
  | [] => some 1
  | label :: _ => labelNumber? label

/-! ### Vertices -/

/-- The numbers that labels write, with ones for those that are missing from `count`. -/
def paddedNumbers? (count : Nat) (labels : Value) : Option (List Nat) := do
  let numbers ← (← labels.items?).mapM labelNumber?
  some (numbers ++ List.replicate (count - numbers.length) 1)

/-- The size of a vertex; one if the format has no sizes. -/
def sizeOf? (format : Format) (v : Vertex) : Option Nat :=
  if format.vertexSizes then labelNumber? v.size else some 1

/-- The weights of a vertex; none if the format has no weights of vertices. -/
def weightsOf? (format : Format) (v : Vertex) : Option (List Nat) :=
  if format.vertexWeights then paddedNumbers? format.ncon v.weights else some []

/-- The weights of edges; none if the format has no weights of edges. -/
def edgeWeightsOf? (format : Format) (edges : List Edge) : Option (List Nat) :=
  if format.edgeWeights then edges.mapM edgeNumber? else some []

/-- What the line of a vertex has to say. -/
def contentsOf? (g : Graph) (format : Format) (v : Vertex) : Option VertexLine := do
  let edges := incidentEdges g v.name
  let size ← sizeOf? format v
  let weights ← weightsOf? format v
  let neighbors ← edges.mapM fun e => (g.indexOf (farEnd v.name e)).toOption
  let edgeWeights ← edgeWeightsOf? format edges
  some { size, weights, neighbors, edgeWeights }

/-! ### Graphs -/

/-- The format that a file can tell: without vertex weights their number is not written. -/
def Format.written (format : Format) : Format :=
  if format.vertexWeights then format else { format with ncon := 1, ncon_pos := Nat.one_pos }

namespace Format

variable (format : Format)

@[simp] theorem vertexSizes_written : format.written.vertexSizes = format.vertexSizes := by
  unfold written
  split <;> rfl

@[simp] theorem vertexWeights_written :
    format.written.vertexWeights = format.vertexWeights := by
  unfold written
  split <;> rfl

@[simp] theorem edgeWeights_written : format.written.edgeWeights = format.edgeWeights := by
  unfold written
  split <;> rfl

theorem ncon_written :
    format.written.ncon = if format.vertexWeights then format.ncon else 1 := by
  unfold written
  split <;> rfl

end Format

/-- What the graph file of a graph has to say; absent if a number that it needs is. -/
def summaryOf? (g : Graph) (format : Format) : Option Summary := do
  let vertices ← g.vertices.mapM (contentsOf? g format)
  some
    { vertexCount := g.vertices.length
      edgeCount := g.edgeList.countP isProper
      format := format.written
      vertices }

end TaskGraph.Metis
