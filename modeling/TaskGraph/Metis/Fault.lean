/-
Module: TaskGraph.Metis.Fault
Purpose: Why a text is not a graph file for a partitioner.
Main exports:
  Metis.Fault, Metis.Fault.message
-/
import TaskGraph.Metis.Format

namespace TaskGraph.Metis

/-- Why a text is not a graph file.  Vertices are given by their number. -/
inductive Fault where
  | noHeader
  | badHeader (line : Text)
  | badFormat (fault : FormatFault)
  | vertexLines (declared found : Nat)
  | nonInteger (vertex : Nat) (line : Text)
  | noSize (vertex : Nat)
  | fewWeights (vertex expected : Nat)
  | noEdgeWeight (vertex : Nat)
  | outOfRange (vertex neighbor : Nat)
  | adjacencyEntries (declared found : Nat)
  | selfNeighbor (vertex : Nat)
  | oneSided (vertex neighbor : Nat)
deriving Repr, Inhabited

/-- What a message says about a text that is not a graph file. -/
def Fault.message : Fault → Text
  | .noHeader => "Missing METIS header line"
  | .badHeader line => "Invalid METIS header: " ++ Text.quoted line
  | .badFormat fault => fault.message
  | .vertexLines declared found =>
    s!"Header declares {declared} vertices, found {found} vertex lines"
  | .nonInteger vertex line => s!"Vertex {vertex}: non-integer token in " ++ Text.quoted line
  | .noSize vertex => s!"Vertex {vertex}: missing vertex size"
  | .fewWeights vertex expected => s!"Vertex {vertex}: expected {expected} vertex weights"
  | .noEdgeWeight vertex => s!"Vertex {vertex}: neighbor without edge weight"
  | .outOfRange vertex neighbor => s!"Vertex {vertex}: neighbor {neighbor} out of range"
  | .adjacencyEntries declared found =>
    s!"Header declares {declared} edges, found {found} adjacency entries"
  | .selfNeighbor vertex => s!"Vertex {vertex} lists itself as a neighbor"
  | .oneSided vertex neighbor =>
    s!"Edge {vertex}-{neighbor} is not listed on both endpoint lines"

end TaskGraph.Metis
