/-
Module: TaskGraph.Metis.Printer
Purpose: Writing graphs as graph files for partitioners.
Main exports:
  Metis.weightToken, Metis.incident, Metis.vertexTokens, Metis.print, Metis.render
-/
import TaskGraph.Graph.Basic
import TaskGraph.Log
import TaskGraph.Metis.Request
import TaskGraph.Text.Blank

namespace TaskGraph.Metis

/-! Vertices are numbered in the order in which they were added, and every edge is
listed at both its ends.  The format knows no edge from a vertex to itself, so such
edges are left out and not counted. -/

/-! ### Numbers -/

/-- The number that a label writes, in plain digits. -/
def weightToken (measure : Measure) (label : Value) : Except Error (List Char) := do
  let text ← label.asPlain
  let token := Text.strip text.toList
  if Text.isNumeral token then
    match Text.readNatural token with
    | .ok n => .ok (Text.digitsOf n)
    | .error fault => .error (.numeral fault)
  else
    .error (.malformedWeight measure label)

/-- The size of a vertex, if the file has sizes.  The vertex is named before its size is looked
at. -/
def sizeTokens (columns : Columns) (v : Vertex) : Except Error (List (List Char)) :=
  if columns.sizes then do
    let name ← v.name.asPlain
    let token ← weightToken (.vertexSize name) v.size
    .ok [token]
  else
    .ok []

/-! ### Weights -/

/-- A sequence does not have as many items as this. -/
def sequenceBound : Nat := Nat.pow 2 63

/-- The number of labels that are missing from `count` ones.  There is no room for a sequence of
`memory` items. -/
def missing (memory : Nat) (limit : Value) (count : Nat) : Except Error Nat :=
  let room (n : Int) : Except Error Nat :=
    let missing := (n - count).toNat
    if sequenceBound ≤ missing then .error .tooLarge
    else if memory ≤ missing then .error .outOfMemory
    else .ok missing
  match limit with
  | .bool b => room (if b then 1 else 0)
  | .int n => room n
  | _ => .error .illTyped

/-- The labels of a vertex with ones for those that are missing. -/
def paddedWeights (memory : Nat) (limit : Value) (v : Vertex) : Except Error (List Value) := do
  let labels ← v.weights.walk
  if limit.lt? (.int labels.length) = some true then do
    let name ← v.name.asPlain
    .error (.tooManyWeights name labels.length limit)
  else do
    let missing ← missing memory limit labels.length
    .ok (labels ++ List.replicate missing (.text "1"))

/-- The weights of a vertex, if the file has them.  The vertex is named before each label. -/
def weightTokens (memory : Nat) (columns : Columns) (v : Vertex) :
    Except Error (List (List Char)) :=
  match columns.weights with
  | some limit => do
    let labels ← paddedWeights memory limit v
    labels.mapM fun label => do
      let name ← v.name.asPlain
      weightToken (.vertexWeight name) label
  | none => .ok []

/-! ### Adjacency -/

/-- The links that a graph file holds: those between different vertices. -/
def properLinks (g : Graph) : List Link :=
  g.links.toList.filter fun link => link.source != link.target

/-- The other end of a link that starts or ends at a place. -/
def otherEnd? (place : Nat) (link : Link) : Option Nat :=
  if link.source = place then some link.target
  else if link.target = place then some link.source
  else none

/-- The places of the neighbors of a vertex with the edges to them, in the order of the
edges. -/
def incident (links : List Link) (place : Nat) : List (Nat × Edge) :=
  links.filterMap fun link => (otherEnd? place link).map fun other => (other, link.edge)

/-- The label that is written as the weight of an edge: its first one. -/
def edgeLabel (edge : Edge) : Value :=
  edge.weights.head?.getD (.text "1")

/-- The number of a neighbor and, if the file has them, the weight of the edge to it. -/
def neighborTokens (columns : Columns) (other : Nat) (edge : Edge) :
    Except Error (List (List Char)) := do
  let index ← numberToken (other + 1)
  if columns.edgeWeights then
    let name ← edge.asName
    let token ← weightToken (.edgeWeight name) (edgeLabel edge)
    .ok [index, token]
  else
    .ok [index]

/-! ### Lines -/

/-- The numbers of the header line. -/
def headerTokens (g : Graph) (columns : Columns) : Except Error (List (List Char)) := do
  let vertices ← numberToken g.vertexCount
  let edges ← numberToken (properLinks g).length
  .ok (vertices :: edges :: columns.header)

/-- The numbers on the line of the vertex at a place. -/
def vertexTokens (memory : Nat) (columns : Columns) (links : List Link) (v : Vertex)
    (place : Nat) : Except Error (List (List Char)) := do
  let size ← sizeTokens columns v
  let weights ← weightTokens memory columns v
  let neighbors ← (incident links place).mapM fun (other, edge) =>
    neighborTokens columns other edge
  .ok (size ++ weights ++ neighbors.flatten)

/-- The numbers on all lines of the file. -/
def tokenLines (memory : Nat) (g : Graph) (columns : Columns) :
    Except Error (List (List (List Char))) := do
  let links := properLinks g
  let header ← headerTokens g columns
  let lines ← g.vertices.zipIdx.mapM fun (v, place) =>
    vertexTokens memory columns links v place
  .ok (header :: lines)

/-- Lines of words as a text; every line ends with a break. -/
def joinLines (lines : List (List (List Char))) : List Char :=
  lines.flatMap fun tokens => Text.unwords tokens ++ ['\n']

/-- The graph file of a graph. -/
def print (memory : Nat) (g : Graph) (columns : Columns) : Except Error (List Char) :=
  (tokenLines memory g columns).map joinLines

/-- The graph file of a graph, made where there is room for fewer than `memory` labels of a vertex;
edges that are left out are noted in the log. -/
def render (memory : Nat) (g : Graph) (request : Request) : Logged (List Char) := do
  let dropped := g.edgeCount - (properLinks g).length
  if dropped ≠ 0 then
    Logged.entry .debug .exporter s!"Dropped {dropped} self-loop edges from METIS output"
  let columns ← request.columns
  Logged.ofExcept (print memory g columns)

end TaskGraph.Metis
