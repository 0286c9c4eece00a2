/-
Module: TaskGraph.Proofs.Network.Shown
Purpose: The network of a graph shows all of it and nothing else: a node for each vertex and a link
  for each edge, in the order in which a network lists them to which they are added.
Main exports:
  Graph.Lettered, Network.NodeShows, Network.Shows, Network.ofGraph_shows
-/
import TaskGraph.Proofs.Network.Listing
import TaskGraph.Proofs.Value.Access

namespace TaskGraph

namespace Graph

/-- Names of vertices and labels of their weights are texts. -/
structure Lettered (g : Graph) : Prop where
  names : ∀ v ∈ g.vertices, ∃ s : Text, v.name = .text s
  weights : ∀ v ∈ g.vertices, ∃ labels : List Text, v.weights = .list (labels.map .text)

theorem exists_key_of_edgesBetween {g : Graph} {src dest : Value} {found : List Edge}
    (asked : g.edgesBetween src dest = .ok found) : ∃ key, src.key? = some key := by
  obtain ⟨leaving, outgoing, -⟩ := map_eq_ok.mp asked
  obtain ⟨node, looked, -⟩ := map_eq_ok.mp outgoing
  obtain ⟨place, placed, -⟩ := map_eq_ok.mp looked
  obtain ⟨key, keyed, -⟩ := place?_eq_ok.mp placed
  exact ⟨key, keyed⟩

section Lettered

variable {g : Graph} (consistent : g.Consistent) (lettered : g.Lettered)

include consistent lettered

/-! ### Names and places -/

/-- A name that leads to a vertex is its name. -/
theorem exists_text_of_found {name : Value} {place : Nat}
    (found : g.place? name = .ok (some place)) :
    ∃ s : Text, name = .text s ∧ ∃ v, g.vertices[place]? = some v ∧ v.name = .text s := by
  obtain ⟨v, held, same⟩ := consistent.place?_eq_ok_iff.mp found
  obtain ⟨s, named⟩ := lettered.names v (List.mem_of_getElem? held)
  rw [named, Value.text_same_iff] at same
  exact ⟨s, same, v, held, named⟩

theorem nodup_names : g.names.Nodup := by
  rw [names, List.Nodup, List.pairwise_map]
  refine consistent.pairwise_names.imp_of_mem fun first second different same => ?_
  obtain ⟨s, named⟩ := lettered.names _ first
  obtain ⟨t, otherNamed⟩ := lettered.names _ second
  rw [named, otherNamed] at different same
  rw [Bool.eq_false_iff, ne_eq, Value.text_same_iff] at different
  exact different (congrArg Value.text same.symm)

/-- The ends of edges are names of vertices. -/
theorem exists_texts_of_mem_edgeList {e : Edge} (member : e ∈ g.edgeList) :
    ∃ s t : Text, e.src = .text s ∧ e.dest = .text t ∧ s ∈ g.names := by
  obtain ⟨l, inside, rfl⟩ := List.mem_map.mp member
  obtain ⟨sourceFound, targetFound⟩ := consistent.sound.link l inside
  obtain ⟨s, isSource, v, held, named⟩ := exists_text_of_found consistent lettered sourceFound
  obtain ⟨t, isTarget, -⟩ := exists_text_of_found consistent lettered targetFound
  refine ⟨s, t, isSource, isTarget, List.mem_map.mpr ⟨v, List.mem_of_getElem? held, ?_⟩⟩
  rw [named, Value.plain_text]

theorem plain_mem_names {e : Edge} (member : e ∈ g.edgeList) : e.src.plain ∈ g.names := by
  obtain ⟨s, t, isSource, -, inside⟩ := exists_texts_of_mem_edgeList consistent lettered member
  rw [isSource, Value.plain_text]
  exact inside

/-- The edges between two names are asked for by these. -/
theorem edgesBetween_text (s t : Text) :
    g.edgesBetween (.text s) (.text t) = .ok (between g.edgeList (s, t)) := by
  rw [consistent.edgesBetween_eq_ok rfl, between]
  refine congrArg _ (List.filter_congr fun e member => ?_)
  obtain ⟨u, v, isSource, isTarget, -⟩ := exists_texts_of_mem_edgeList consistent lettered member
  rw [Bool.eq_iff_iff, Bool.and_eq_true, decide_eq_true_eq, Edge.ends, isSource, isTarget,
    Value.text_same_iff, Value.text_equal_iff]
  simp [eq_comm]

/-- The edges between the ends of an edge. -/
theorem edgesBetween_of_mem {e : Edge} (member : e ∈ g.edgeList) :
    g.edgesBetween e.src e.dest = .ok (between g.edgeList e.ends) := by
  obtain ⟨s, t, isSource, isTarget, -⟩ := exists_texts_of_mem_edgeList consistent lettered member
  rw [Edge.ends, isSource, isTarget]
  exact edgesBetween_text consistent lettered s t

/-- The ends of an edge that is between two values are these values. -/
theorem ends_eq_of_between {src dest : Value} {found : List Edge} {e : Edge}
    (asked : g.edgesBetween src dest = .ok found) (member : e ∈ found) :
    e ∈ g.edgeList ∧ e.src = src ∧ e.dest = dest := by
  obtain ⟨key, keyed⟩ := exists_key_of_edgesBetween asked
  rw [consistent.edgesBetween_eq_ok keyed, Except.ok.injEq] at asked
  rw [← asked, List.mem_filter, Bool.and_eq_true] at member
  obtain ⟨inside, sameSource, sameTarget⟩ := member
  obtain ⟨s, t, isSource, isTarget, -⟩ := exists_texts_of_mem_edgeList consistent lettered inside
  rw [isSource, Value.text_same_iff] at sameSource
  rw [isTarget, Value.text_equal_iff] at sameTarget
  exact ⟨inside, isSource.trans sameSource.symm, isTarget.trans sameTarget.symm⟩

end Lettered

end Graph

namespace Network

/-! ### What a network shows -/

/-- A node shows a vertex: its name, its number and its attributes. -/
structure NodeShows (g : Graph) (v : Vertex) (node : NetworkNode) : Prop where
  name : node.name = v.name
  index : g.indexOf v.name = .ok node.index
  size : node.size = v.size
  weights : v.weightsText = .ok node.weights
  centrality : node.centrality = v.centrality

/-- A network shows a graph: a node for each vertex, in their order; a link for each edge, told
apart from the others by its ends and its key; for the ends of a link and its key, the edge at that
position among those between the ends; and the links by source, by target and by key. -/
structure Shows (network : Network) (g : Graph) : Prop where
  name : network.name = g.name
  nodes : List.Forall₂ (NodeShows g) g.vertices network.nodes
  edges : network.links.Perm
    ((numbered Edge.ends g.edgeList).map fun entry => entry.1.entry entry.2)
  different : (network.links.map fun link => (link.src, link.dest, link.key)).Nodup
  carried : ∀ link, link ∈ network.links ↔ ∃ found e,
    g.edgesBetween link.src link.dest = .ok found ∧ found[link.key]? = some e ∧
      link.name = e.name ∧ e.weightsText = .ok link.weights
  ordered : network.links = listing g.names g.edgeList

/-! ### The whole network -/

section Whole

variable {g : Graph} (consistent : g.Consistent) (lettered : g.Lettered)

include consistent lettered

/-- A vertex with its number becomes a node that shows it. -/
theorem exists_nodeOf {place : Nat} {node : Node} (held : g.nodes[place]? = some node) :
    ∃ made, nodeOf node (place + 1) = .ok made ∧ NodeShows g node.vertex made := by
  have inside : node.vertex ∈ g.vertices :=
    List.mem_map_of_mem (List.mem_of_getElem? (Array.getElem?_toList.trans held))
  have label := (consistent.node place node held).label
  have labelled : g.place? node.label = .ok (some place) := by
    rw [label]
    exact consistent.sound.vertex place node.vertex (by simp [Graph.vertices, held])
  obtain ⟨s, named⟩ := lettered.names _ inside
  obtain ⟨labels, weights⟩ := lettered.weights _ inside
  obtain ⟨shown, written⟩ := Vertex.exists_weightsText weights
  rw [label] at labelled
  refine
    ⟨{ name := .text s
       index := place + 1
       size := node.vertex.size
       weights := shown
       centrality := node.vertex.centrality }, ?_, ?_⟩
  · rw [nodeOf, written, label, named]
    rfl
  · exact ⟨named.symm, Graph.indexOf_eq_ok labelled, rfl, written, rfl⟩

/-- All vertices become nodes. -/
theorem exists_nodes : ∃ made,
    g.nodes.toList.zipIdx.mapM (fun entry => nodeOf entry.1 (entry.2 + 1)) = .ok made ∧
      List.Forall₂ (NodeShows g) g.vertices made := by
  obtain ⟨made, nodesOf, shown⟩ := exists_mapM_related fun entry (among : entry ∈ _) =>
    exists_nodeOf consistent lettered
      (Array.getElem?_toList.symm.trans (List.mem_zipIdx_iff_getElem?.mp among))
  have vertices : g.vertices = g.nodes.toList.zipIdx.map (·.1.vertex) := by
    rw [Graph.vertices, ← List.zipIdx_map_fst 0 g.nodes.toList, List.map_map]
    simp only [List.zipIdx_map_fst]
    rfl
  refine ⟨made, nodesOf, ?_⟩
  rw [vertices, List.forall₂_map_left_iff]
  exact shown

omit consistent in
theorem map_name_of_shown {made : List NetworkNode}
    (shown : List.Forall₂ (NodeShows g) g.vertices made) :
    made.map (·.name) = g.names.map .text := by
  rw [Graph.names, List.map_map, eq_comm, map_eq_map_iff_forall₂]
  refine ((List.forall₂_and_left _ _).mpr ⟨fun v member => member, shown⟩).imp fun v node both => ?_
  obtain ⟨member, shows⟩ := both
  obtain ⟨s, named⟩ := lettered.names v member
  rw [Function.comp, shows.name, named, Value.plain_text]

/-- A graph whose labels are texts fills a network: the loop over the vertices adds the nodes, and
the loop over the edges puts these into groups. -/
theorem exists_fill (textual : ∀ e ∈ g.edgeList, e.Textual) :
    ∃ made, List.Forall₂ (NodeShows g) g.vertices made ∧ fill g = .ok
      { nodes := made.map fun node => (node.name, node)
        rows := Multigraph.grouped g.names g.edgeList } := by
  have different := Graph.nodup_names consistent lettered
  have texts : ∀ e ∈ g.edgeList, ∃ s t : Text, e.src = .text s ∧ e.dest = .text t ∧ s ∈ g.names :=
    fun e => Graph.exists_texts_of_mem_edgeList consistent lettered
  have read : ∀ e ∈ g.edgeList, attributesOf e = .ok e.attributes := by
    intro e member
    obtain ⟨s, t, src, dest, -⟩ := texts e member
    exact (textual e member).attributesOf_eq src dest
  obtain ⟨made, nodesOf, shown⟩ := exists_nodes consistent lettered
  have vertexLoop : g.nodes.toList.zipIdx.foldlM (fun (m : Multigraph) (entry : Node × Nat) => do
      .ok (m.addNode (← nodeOf entry.1 (entry.2 + 1)))) {} =
        .ok (made.foldl Multigraph.addNode {}) :=
    foldlM_read_eq_ok.mpr ⟨made, nodesOf, List.foldlM_pure⟩
  refine ⟨made, shown, ?_⟩
  rw [fill, vertexLoop, ok_bind, foldlM_eq_ok_foldl read,
    Multigraph.foldl_addNode different (map_name_of_shown lettered shown),
    Multigraph.foldl_addLink different texts]

/-- A graph whose labels are texts has a network. -/
theorem exists_ofGraph (textual : ∀ e ∈ g.edgeList, e.Textual) :
    ∃ network, ofGraph g = .ok network ∧ network.name = g.name ∧
      List.Forall₂ (NodeShows g) g.vertices network.nodes ∧
      network.links = listing g.names g.edgeList := by
  obtain ⟨made, shown, filled⟩ := exists_fill consistent lettered textual
  refine ⟨_, by rw [ofGraph, filled]; rfl, rfl, ?_, ?_⟩
  · rw [List.map_map]
    exact (List.map_id made).symm ▸ shown
  · refine Multigraph.links_grouped _ _ fun e member => ?_
    obtain ⟨s, t, src, dest, -⟩ := Graph.exists_texts_of_mem_edgeList consistent lettered member
    exact ⟨s, t, src, dest⟩

/-- A link stands for an edge where its key is the position of the edge among those between its
ends. -/
theorem mem_numbered_entries_iff (textual : ∀ e ∈ g.edgeList, e.Textual) (link : NetworkLink) :
    link ∈ (numbered Edge.ends g.edgeList).map (fun entry => entry.1.entry entry.2) ↔
      ∃ found e, g.edgesBetween link.src link.dest = .ok found ∧ found[link.key]? = some e ∧
        link.name = e.name ∧ e.weightsText = .ok link.weights := by
  constructor
  · intro member
    obtain ⟨⟨e, key⟩, among, rfl⟩ := List.mem_map.mp member
    have position := (mem_numbered_iff Edge.ends).mp among
    have inside := (List.mem_filter.mp (List.mem_of_getElem? position)).1
    exact ⟨_, e, Graph.edgesBetween_of_mem consistent lettered inside, position, rfl,
      (textual e inside).weightsText_eq key⟩
  · intro carried
    obtain ⟨found, e, asked, position, named, written⟩ := carried
    obtain ⟨inside, isSource, isTarget⟩ := Graph.ends_eq_of_between consistent lettered asked
      (List.mem_of_getElem? position)
    rw [← isSource, ← isTarget, Graph.edgesBetween_of_mem consistent lettered inside,
      Except.ok.injEq] at asked
    rw [(textual e inside).weightsText_eq link.key, Except.ok.injEq] at written
    refine List.mem_map.mpr ⟨(e, link.key), (mem_numbered_iff Edge.ends).mpr ?_, ?_⟩
    · rw [← between, asked]
      exact position
    · cases link
      cases isSource
      cases isTarget
      cases named
      cases written
      rfl

end Whole

/-- The network of a graph whose labels are texts shows the graph. -/
theorem ofGraph_shows {g : Graph} (reached : g.Reachable) (lettered : g.Lettered) :
    ∃ network, ofGraph g = .ok network ∧ network.Shows g := by
  have consistent := reached.consistent
  have textual := reached.canonical.textual
  have different := Graph.nodup_names consistent lettered
  have covered := fun e => Graph.plain_mem_names consistent lettered (e := e)
  obtain ⟨network, made, name, nodes, ordered⟩ := exists_ofGraph consistent lettered textual
  have edges := listing_perm different covered
  refine ⟨network, made, name, nodes, ?_, ?_, fun link => ?_, ordered⟩
  · rw [ordered]
    exact edges
  · rw [ordered, (edges.map _).nodup_iff, List.map_map]
    apply List.Nodup.of_map fun link : Value × Value × Nat =>
      ((link.1.plain, link.2.1.plain), link.2.2)
    rw [List.map_map]
    exact nodup_numbered Edge.ends g.edgeList
  · rw [ordered, edges.mem_iff]
    exact mem_numbered_entries_iff consistent lettered textual link

/-- Two vertices, with an edge between other edges of its source, and a loop. -/
def knotted : Graph :=
  let vertices := (({} : Graph).push { name := .text "u" } (.text "u")
    (Register.find?_empty _)).push { name := .text "v" } (.text "v")
    (by rw [Register.find?_eq]; decide +kernel)
  (((vertices.join 0 1 { src := .text "u", dest := .text "v", weights := ["2"].map .text }).join 0 0
    { src := .text "u", dest := .text "u", weights := [].map .text }).join 0 1
    { src := .text "u", dest := .text "v", weights := [].map .text }).join 1 0
      { src := .text "v", dest := .text "u", weights := [].map .text }

theorem reachable_knotted : knotted.Reachable := by
  unfold knotted
  refine .join (.join (.join (.join (.push (.push (.empty _) rfl _) rfl _) _ ?_ ?_) _ ?_ ?_)
    _ ?_ ?_) _ ?_ ?_
  all_goals exact Graph.place?_of_findIdx? rfl (by decide +kernel)

theorem lettered_knotted : knotted.Lettered := by
  have vertices : knotted.vertices = [{ name := .text "u" }, { name := .text "v" }] := by
    simp only [knotted, Graph.vertices_join, Graph.vertices_push]
    rfl
  constructor
  · rw [vertices, List.forall_mem_cons, List.forall_mem_singleton]
    exact ⟨⟨"u", rfl⟩, ⟨"v", rfl⟩⟩
  · rw [vertices, List.forall_mem_cons, List.forall_mem_singleton]
    exact ⟨⟨[], rfl⟩, ⟨[], rfl⟩⟩

/-- Both links to the other vertex come before the loop, which was added between them. -/
theorem ofGraph_shows_knotted :
    knotted.Reachable ∧ knotted.Lettered ∧
      ∃ network, ofGraph knotted = .ok network ∧ network.Shows knotted ∧
        network.links.map (fun link => (link.src.plain, link.dest.plain, link.key, link.weights)) =
          ([("u", "v", 0, "-(2)"), ("u", "v", 1, ""), ("u", "u", 0, ""), ("v", "u", 0, "")] :
            List (Text × Text × Nat × Text)) := by
  obtain ⟨network, made, shows⟩ := ofGraph_shows reachable_knotted lettered_knotted
  refine ⟨reachable_knotted, lettered_knotted, network, made, shows, ?_⟩
  rw [shows.ordered]
  decide +kernel

end Network

end TaskGraph
