/-
Module: TaskGraph.Proofs.Graph.RoundTrip
Purpose: A graph that can be made is read back as it was, from its stored form and from the JSON
  text of that.
Main exports:
  Graph.HasJson, Graph.HasJson.plain_stored, Graph.reads_back
-/
import TaskGraph.Export
import TaskGraph.Proofs.Graph.Reading
import TaskGraph.Proofs.Json.RoundTrip

namespace TaskGraph

/-! ### What has a form in JSON -/

/-- JSON has a form for the attributes of a vertex, the name being a text. -/
structure Vertex.HasJson (levels : Nat) (v : Vertex) : Prop where
  name : ∃ s, v.name = .text s ∧ s.Whole
  distance : Json.Plain levels v.distance
  predecessor : Json.Plain levels v.predecessor
  centrality : Json.Plain levels v.centrality
  weights : Json.Plain levels v.weights
  size : Json.Plain levels v.size

theorem Vertex.HasJson.plain_stored {levels : Nat} {v : Vertex} (has : v.HasJson levels) :
    Json.Plain (levels + 1) v.stored := by
  obtain ⟨s, named, whole⟩ := has.name
  refine Json.plain_record
    [("name", v.name), ("distance", v.distance), ("predecessor", v.predecessor),
     ("centrality", v.centrality), ("weights", v.weights), ("size", v.size)] (by simp) ?_
  simp only [named, List.forall_mem_cons, List.not_mem_nil, false_implies, implies_true, and_true]
  exact ⟨.text _ whole, has.distance, has.predecessor, has.centrality, has.weights, has.size⟩

/-- JSON has a form for an edge between texts, also for its name. -/
theorem Edge.plain_toValue {levels : Nat} {e : Edge} {s t : Text} (src : e.src = .text s)
    (dest : e.dest = .text t) (srcWhole : s.Whole) (destWhole : t.Whole)
    (weights : Json.Plain levels (.list e.weights)) : Json.Plain (levels + 1) e.toValue := by
  have named : e.name = ⟨s.toList ++ .char '>' :: t.toList⟩ := by
    rw [name, src, dest, Value.plain_text, Value.plain_text]
    exact congrArg Text.ofList (List.append_assoc s.toList [.char '>'] t.toList)
  refine Json.plain_record
    [("name", .text e.name), ("src", e.src), ("dest", e.dest), ("weights", .list e.weights)]
    (by simp) ?_
  simp only [named, src, dest, List.forall_mem_cons, List.not_mem_nil, false_implies, implies_true,
    and_true]
  exact ⟨.text _ (srcWhole.separated destWhole '>'), .text _ srcWhole, .text _ destWhole, weights⟩

namespace Graph

/-- JSON has a form for the name, the metadata and the vertices of a graph, so that the whole does
not have too many levels, and for the texts at the edges. -/
structure HasJson (g : Graph) : Prop where
  name : Json.Plain (Json.maxLevels - 1) g.name
  metadata : Json.Plain (Json.maxLevels - 1) (.map g.metadata)
  vertices : ∀ v ∈ g.vertices, v.HasJson (Json.maxLevels - 3)
  labels : ∀ e ∈ g.edgeList, ∀ s, .text s ∈ e.weights → s.Whole

namespace HasJson

variable {g : Graph} (has : g.HasJson)

include has

/-- What is the same as the name of a vertex is a text. -/
theorem exists_text {name : Value} (named : ∃ v ∈ g.vertices, v.name.same name = true) :
    ∃ s, name = .text s ∧ s.Whole := by
  obtain ⟨v, member, same⟩ := named
  obtain ⟨s, text, whole⟩ := (has.vertices v member).name
  rw [text] at same
  exact ⟨s, Value.text_same_iff.mp same, whole⟩

theorem plain_edge (canonical : g.Canonical) {e : Edge} (member : e ∈ g.edgeList) :
    Json.Plain (Json.maxLevels - 2) e.toValue := by
  have fits := canonical.fit_parts.edges e member
  obtain ⟨s, src, srcWhole⟩ := has.exists_text fits.src
  obtain ⟨t, dest, destWhole⟩ := has.exists_text fits.dest
  refine Edge.plain_toValue src dest srcWhole destWhole (.list fun weight inside => ?_)
  obtain ⟨texts, weights⟩ := canonical.textual e member
  have listed := inside
  rw [weights] at listed
  obtain ⟨label, -, rfl⟩ := List.mem_map.mp listed
  exact .text _ (has.labels e member label inside)

/-- JSON has a form for the stored form of such a graph. -/
theorem plain_stored (canonical : g.Canonical) : Json.Plain Json.maxLevels g.stored := by
  refine Json.plain_record
    [("name", g.name), ("metadata", .map g.metadata),
     ("vertices", .list (g.vertices.map Vertex.stored)),
     ("edges", .list (g.edgeList.map Edge.toValue))] (by simp) ?_
  simp only [List.forall_mem_cons, List.not_mem_nil, false_implies, implies_true, and_true]
  refine ⟨has.name, has.metadata, .list ?_, .list ?_⟩
  · exact List.forall_mem_map.mpr fun v member => (has.vertices v member).plain_stored
  · exact List.forall_mem_map.mpr fun e member => has.plain_edge canonical member

end HasJson

/-! ### The round trip -/

/-- A graph in which the weights of vertices are lists is read back from its stored form as it was.
A stored graph that is well-formed is read exactly if the names of its vertices differ, and the ends
of its edges are among them.  Where JSON has a form for what a graph holds, the graph is read back
from its JSON text, too. -/
theorem reads_back :
    (∀ g : Graph, g.Reachable → g.Listed →
      ∃ data, g.toValue = .ok data ∧ Graph.ofValue data = .ok g) ∧
    (∀ data, WellFormed data →
      ((∃ g, Graph.ofValue data = .ok g) ↔
        (storedNames data).Pairwise (fun a b => a.same b = false) ∧
          ∀ x ∈ storedEnds data, ∃ name ∈ storedNames data, name.same x = true)) ∧
    ∀ g : Graph, g.Reachable → g.Listed → g.HasJson → ∀ layout : Json.Layout, layout.Blank →
      ∃ text data, g.jsonText layout = .ok text ∧ Json.read text.toList = .ok data ∧
        Graph.ofValue data = .ok g := by
  refine ⟨?_, fun data => exists_ofValue_iff, ?_⟩
  · intro g reached listed
    exact ⟨g.stored, listed.toValue_eq, listed.ofValue_stored reached.canonical⟩
  · intro g reached listed has layout blank
    obtain ⟨written, wrote, reads⟩ := (has.plain_stored reached.canonical).read_write blank
    refine ⟨written ++ "\n", g.stored, ?_, ?_, listed.ofValue_stored reached.canonical⟩
    · rw [jsonText, listed.toValue_eq, ok_bind, wrote]
      rfl
    · rw [String.toList_append]
      exact reads _ (by simp [Json.isSpace])

/-- One vertex, with an edge from it to itself. -/
def looped : Graph :=
  ((default : Graph).push { name := .text "t" } (.text "t") (Register.find?_empty _)).join 0 0
    { src := .text "t", dest := .text "t", weights := ["3"].map .text }

theorem reachable_looped : looped.Reachable := by
  refine .join (.push (.empty _) rfl _) _ ?_ ?_
  all_goals exact Graph.place?_of_findIdx? rfl (by decide +kernel)

theorem vertices_looped : looped.vertices = [{ name := .text "t" }] := by
  rw [looped, vertices_join, vertices_push]
  rfl

theorem hasJson_looped : looped.HasJson where
  name := .text _ (Text.whole_ofString _)
  metadata := Json.plain_record [] (by simp) (by simp)
  vertices := by
    have short (n : Nat) (few : n < 10 ^ 10) : (n : Int).natAbs < Value.digitBound := by
      rw [Int.natAbs_natCast, Value.digitBound_eq]
      exact Nat.lt_of_lt_of_le few (Nat.pow_le_pow_right (by decide) (by decide))
    rw [vertices_looped, List.forall_mem_singleton]
    exact
      ⟨⟨_, rfl, Text.whole_ofString _⟩, .int _ (short unreached (by decide)), .null _,
        .float _ Json.rereads_zero, .list (by simp), .int _ (short 1 (by decide))⟩
  labels := by
    have edges : looped.edgeList =
        [{ src := .text "t", dest := .text "t", weights := [.text "3"] }] := by
      rw [looped, edgeList_join, edgeList_push]
      rfl
    rw [edges, List.forall_mem_singleton]
    intro s member
    cases List.mem_singleton.mp member
    exact Text.whole_ofString _

theorem listed_looped : looped.Listed := by
  rw [Listed, vertices_looped, List.forall_mem_singleton]
  exact ⟨[], rfl⟩

theorem reads_back_looped :
    looped.Reachable ∧ looped.Listed ∧ looped.HasJson ∧
      (∃ data, looped.toValue = .ok data ∧ Graph.ofValue data = .ok looped) ∧
      (WellFormed looped.stored ∧ ∀ x ∈ storedEnds looped.stored,
        ∃ name ∈ storedNames looped.stored, name.same x = true) ∧
      ∃ text data, looped.jsonText (.indented "  ") = .ok text ∧ Json.read text.toList = .ok data ∧
        Graph.ofValue data = .ok looped := by
  obtain ⟨stores, reads, writes⟩ := reads_back
  have wellFormed := listed_looped.wellFormed_stored reachable_looped.canonical
  have read := listed_looped.ofValue_stored reachable_looped.canonical
  exact ⟨reachable_looped, listed_looped, hasJson_looped,
    stores looped reachable_looped listed_looped,
    ⟨wellFormed, ((reads looped.stored wellFormed).mp ⟨looped, read⟩).2⟩,
    writes looped reachable_looped listed_looped hasJson_looped (.indented "  ")
      (by simp [Json.Layout.Blank, Json.isSpace])⟩

end Graph

end TaskGraph
