/-
Module: TaskGraph.Proofs.Graph.Degrees
Purpose: The degrees of the vertices are told from the names at the ends of the edges, and add up
  to the number of edges.
Main exports:
  Graph.ends, Graph.leaving, Graph.entering, Graph.Consistent.outDegrees_eq,
  Graph.Consistent.inDegrees_eq, Graph.Consistent.sum_degrees
-/
import TaskGraph.Graph.Statistics
import TaskGraph.Proofs.Graph.Adjacency

namespace TaskGraph

namespace Graph

/-! ### The ends of edges -/

/-- The names at the two ends of the edges. -/
def ends (g : Graph) : List (Value × Value) :=
  g.edgeList.map fun e => (e.src, e.dest)

/-- The number of edges that start at a name. -/
def leaving (g : Graph) (name : Value) : Nat :=
  g.ends.countP fun pair => pair.1.same name

/-- The number of edges that end at a name. -/
def entering (g : Graph) (name : Value) : Nat :=
  g.ends.countP fun pair => pair.2.same name

theorem length_filter_src (g : Graph) (name : Value) :
    (g.edgeList.filter (·.src.same name)).length = g.leaving name := by
  rw [leaving, ends, List.countP_map, List.countP_eq_length_filter]
  rfl

theorem length_filter_dest (g : Graph) (name : Value) :
    (g.edgeList.filter (·.dest.same name)).length = g.entering name := by
  rw [entering, ends, List.countP_map, List.countP_eq_length_filter]
  rfl

/-! ### Degrees -/

namespace Consistent

variable {g : Graph} (consistent : g.Consistent)

include consistent

/-- The nodes list as many links at one of their ends as there are edges with the name of their
vertex at that end. -/
theorem sizes_eq {named : Edge → Value} {placed : Link → Nat} {listed : Node → Array Link}
    (leads : ∀ l ∈ g.links.toList, g.place? (named l.edge) = .ok (some (placed l)))
    (agrees : ∀ place node, g.nodes[place]? = some node →
      (listed node).toList = g.links.toList.filter (placed · == place)) :
    g.nodes.toList.map (fun node => (listed node).size) =
      g.vertices.map fun v => (g.edgeList.filter fun e => (named e).same v.name).length := by
  rw [vertices, List.map_map]
  refine List.map_congr_left fun node member => ?_
  obtain ⟨place, held⟩ := List.getElem?_of_mem member
  rw [Array.getElem?_toList] at held
  have found := consistent.sound.vertex place node.vertex (by simp [vertices, held])
  rw [Function.comp_apply, filter_edgeList_of_found leads found, List.length_map,
    ← agrees place node held, Array.length_toList]

theorem outDegrees_eq : g.outDegrees = g.vertices.map fun v => g.leaving v.name := by
  simp only [← length_filter_src]
  exact consistent.sizes_eq (fun l member => (consistent.sound.link l member).1)
    fun place node held => (consistent.node place node held).outgoing

theorem inDegrees_eq : g.inDegrees = g.vertices.map fun v => g.entering v.name := by
  simp only [← length_filter_dest]
  exact consistent.sizes_eq (fun l member => (consistent.sound.link l member).2)
    fun place node held => (consistent.node place node held).incoming

/-- Counted at the vertices where they start, or where they end, the edges are all edges. -/
theorem sum_degrees : g.outDegrees.sum = g.edgeCount ∧ g.inDegrees.sum = g.edgeCount := by
  rw [consistent.outDegrees_eq, consistent.inDegrees_eq]
  simp only [← length_filter_src, ← length_filter_dest]
  exact ⟨consistent.sum_length_filter_edgeList fun l member => (consistent.sound.link l member).1,
    consistent.sum_length_filter_edgeList fun l member => (consistent.sound.link l member).2⟩

end Consistent

end Graph

end TaskGraph
