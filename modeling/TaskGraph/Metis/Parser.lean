/-
Module: TaskGraph.Metis.Parser
Purpose: Reading graph files for partitioners.
Main exports:
  Metis.parse
-/
import TaskGraph.Error
import TaskGraph.Metis.Summary
import TaskGraph.Text.Lines

namespace TaskGraph.Metis

/-! A graph file has a header line with the number of vertices, the number of
edges and perhaps a format, and then one line for each vertex.  Lines that start
with a percent sign are left out.  Every edge stands on the lines of both its
ends, so the lines have to agree with each other and with the header. -/

/-- A line that is left out. -/
def isComment (line : List Symbol) : Bool :=
  (Text.stripLeft line).head? == some (.char '%')

/-- Stop with a fault of the file. -/
def refuse {α : Type} (fault : Fault) : Except Error α :=
  .error (.graphFile fault)

/-- Read a run of digits. -/
def natural (token : List Symbol) : Except Error Nat :=
  (Text.readNatural token).mapError .numeral

/-! ### The header -/

/-- The format that the fields of a header after the two counts give. -/
def headerFormat (fields : List (List Symbol)) : Except Error Format :=
  match fields with
  | [] => .ok {}
  | code :: rest => do
    let ncon ← match rest with
      | [] => pure 1
      | ncon :: _ => natural ncon
    (Format.ofCode code ncon).mapError fun fault => .graphFile (.badFormat fault)

/-- The number of vertices, the number of edges, and the format. -/
def header (line : List Symbol) : Except Error (Nat × Nat × Format) :=
  let fields := Text.words line
  match fields with
  | vertices :: edges :: rest =>
    if rest.length ≤ 2 ∧ fields.all Text.isNumeral then do
      let vertices ← natural vertices
      let edges ← natural edges
      let format ← headerFormat rest
      .ok (vertices, edges, format)
    else
      refuse (.badHeader ⟨line⟩)
  | _ => refuse (.badHeader ⟨line⟩)

/-! ### Vertex lines -/

/-- The size at the start of the numbers of a line, one if the format has none. -/
def takeSize (format : Format) (number : Nat) (values : List Nat) : Except Error (Nat × List Nat) :=
  if format.vertexSizes then
    match values with
    | [] => refuse (.noSize number)
    | size :: rest => .ok (size, rest)
  else
    .ok (1, values)

/-- The weights at the start of the numbers of a line. -/
def takeWeights (format : Format) (number : Nat) (values : List Nat) :
    Except Error (List Nat × List Nat) :=
  if format.vertexWeights then
    if values.length < format.ncon then refuse (.fewWeights number format.ncon)
    else .ok (values.take format.ncon, values.drop format.ncon)
  else
    .ok ([], values)

/-- Split numbers into neighbors and the weights of the edges to them; absent if
the last neighbor has no weight. -/
def pairUp : List Nat → Option (List (Nat × Nat))
  | [] => some []
  | [_] => none
  | neighbor :: weight :: rest => (pairUp rest).map ((neighbor, weight) :: ·)

/-- The neighbors on a line, and the weights of the edges to them. -/
def takeNeighbors (format : Format) (number : Nat) (values : List Nat) :
    Except Error (List Nat × List Nat) :=
  if format.edgeWeights then
    match pairUp values with
    | none => refuse (.noEdgeWeight number)
    | some pairs => .ok (pairs.map (·.1), pairs.map (·.2))
  else
    .ok (values, [])

/-- Read the line of the vertex with a number. -/
def vertexLine (format : Format) (vertexCount number : Nat) (line : List Symbol) :
    Except Error VertexLine := do
  let tokens := Text.words line
  if !tokens.all Text.isNumeral then refuse (.nonInteger number ⟨line⟩)
  let values ← tokens.mapM natural
  let (size, values) ← takeSize format number values
  let (weights, values) ← takeWeights format number values
  let (neighbors, edgeWeights) ← takeNeighbors format number values
  match neighbors.find? fun neighbor => neighbor = 0 || vertexCount < neighbor with
  | some neighbor => refuse (.outOfRange number neighbor)
  | none => .ok { size, weights, neighbors, edgeWeights }

/-- Leave out at most `extra` blank lines at the end, given the lines in reverse. -/
def dropBlankLines : Nat → List (List Symbol) → List (List Symbol)
  | extra + 1, line :: rest =>
    if (Text.strip line).isEmpty then dropBlankLines extra rest else line :: rest
  | _, lines => lines

/-- The lines after the header, without the blank ones after the last vertex. -/
def vertexLines (vertexCount : Nat) (body : List (List Symbol)) : List (List Symbol) :=
  (dropBlankLines (body.length - vertexCount) body.reverse).reverse

/-! ### Agreement of the lines -/

/-- All listed pairs of a vertex and a neighbor. -/
def listedPairs (summary : Summary) : List (Nat × Nat) :=
  summary.numbered.flatMap fun (number, vertex) => vertex.neighbors.map fun v => (number, v)

/-- The lines hold two entries for every edge, no vertex is its own neighbor, and
two vertices list each other equally often. -/
def checkAgreement (summary : Summary) : Except Error Unit :=
  if summary.adjacencyEntries ≠ 2 * summary.edgeCount then
    refuse (.adjacencyEntries summary.edgeCount summary.adjacencyEntries)
  else
    let pairs := listedPairs summary
    match pairs.find? fun (u, v) => u = v with
    | some (u, _) => refuse (.selfNeighbor u)
    | none =>
      match pairs.find? fun (u, v) => summary.multiplicity u v ≠ summary.multiplicity v u with
      | some (u, v) => refuse (.oneSided u v)
      | none => .ok ()

/-! ### The file -/

/-- Read a graph file. -/
def parse (text : List Symbol) : Except Error Summary :=
  match (Text.lines text).filter (!isComment ·) with
  | [] => refuse .noHeader
  | first :: body => do
    let (vertexCount, edgeCount, format) ← header first
    let lines := vertexLines vertexCount body
    if lines.length ≠ vertexCount then refuse (.vertexLines vertexCount lines.length)
    let vertices ← lines.zipIdx.mapM fun (line, i) => vertexLine format vertexCount (i + 1) line
    let summary := { vertexCount, edgeCount, format, vertices : Summary }
    checkAgreement summary
    .ok summary

end TaskGraph.Metis
