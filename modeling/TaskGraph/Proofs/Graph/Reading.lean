/-
Module: TaskGraph.Proofs.Graph.Reading
Purpose: Which stored graphs can be read, and that a graph is read back from its stored form as it
  was.
Main exports:
  Graph.WellFormed, Graph.storedNames, Graph.storedEnds, Graph.exists_ofValue_iff, Graph.stored,
  Graph.Listed, Graph.Listed.toValue_eq, Graph.Listed.wellFormed_stored,
  Graph.Listed.ofValue_stored
-/
import TaskGraph.Proofs.Graph.Rebuilding

namespace TaskGraph

/-- What is found for each of some items is found in them all. -/
theorem filterMap_eq_map {α β γ : Type} {found? : α → Option γ} {part : β → γ} {xs : List α}
    {ys : List β} (related : List.Forall₂ (fun x y => found? x = some (part y)) xs ys) :
    xs.filterMap found? = ys.map part := by
  induction related with
  | nil => rfl
  | cons first _ inductionHypothesis =>
      rw [List.filterMap_cons_some first, List.map_cons, inductionHypothesis]

/-! ### Vertices -/

namespace Vertex

/-- A stored vertex has a name that can be a key, and its weights can be walked through. -/
structure WellFormed (data : Value) : Prop where
  name : ∃ name, data.part? "name" = some name ∧ name.isKey = true
  weights : ∃ items, data.itemsUnder? "weights" = some items

theorem ofValue_eq_ok {data : Value} {v : Vertex} :
    ofValue data = .ok v ↔
      ∃ name items, data.part? "name" = some name ∧ data.itemsUnder? "weights" = some items ∧
        v = { name
              distance := (data.part? "distance").getD (.int unreached)
              predecessor := (data.part? "predecessor").getD .null
              centrality := (data.part? "centrality").getD (.float (Binary64.zero false))
              weights := .list items
              size := (data.part? "size").getD (.int 1) } := by
  simp only [ofValue, bind_eq_ok, Value.require_eq_ok, Value.asMapping_eq_ok, Value.walk_eq_ok]
  constructor
  · intro read
    obtain ⟨name, named, entries, revealed, items, walked, ⟨⟩⟩ := read
    simp only [Value.itemsUnder?, Value.part?_of_reveal revealed] at named ⊢
    exact ⟨name, items, named, walked, rfl⟩
  · intro told
    obtain ⟨name, items, named, walked, rfl⟩ := told
    obtain ⟨entries, revealed⟩ := Value.exists_entries_of_part? named
    simp only [Value.itemsUnder?, Value.part?_of_reveal revealed] at named walked ⊢
    exact ⟨name, named, entries, revealed, items, walked, rfl⟩

theorem exists_ofValue_iff {data : Value} :
    (∃ v, ofValue data = .ok v) ↔
      (∃ name, data.part? "name" = some name) ∧
        ∃ items, data.itemsUnder? "weights" = some items := by
  simp only [ofValue_eq_ok]
  constructor
  · intro read
    obtain ⟨_, name, items, named, walked, -⟩ := read
    exact ⟨⟨name, named⟩, ⟨items, walked⟩⟩
  · intro told
    obtain ⟨⟨name, named⟩, ⟨items, walked⟩⟩ := told
    exact ⟨_, name, items, named, walked, rfl⟩

/-- The stored form of a vertex whose weights are a list. -/
def stored (v : Vertex) : Value :=
  .map
    [(.text "name", v.name), (.text "distance", v.distance), (.text "predecessor", v.predecessor),
     (.text "centrality", v.centrality), (.text "weights", v.weights), (.text "size", v.size)]

theorem toValue_eq_stored {v : Vertex} {items : List Value} (listed : v.weights = .list items) :
    v.toValue = .ok v.stored := by
  rw [toValue, stored, listed]
  rfl

theorem ofValue_stored {v : Vertex} {items : List Value} (listed : v.weights = .list items) :
    ofValue v.stored = .ok v := by
  rw [ofValue_eq_ok]
  refine ⟨v.name, items, ?_, ?_, ?_⟩
  · simp [stored, Value.part?, Value.reveal]
  · simp [stored, Value.itemsUnder?, Value.part?, Value.reveal, listed, Value.items?]
  · cases v
    simpa [stored, Value.part?, Value.reveal] using listed

end Vertex

/-! ### Edges -/

namespace Edge

/-- A stored edge has two ends, and its weights can be walked through and have texts. -/
structure WellFormed (data : Value) : Prop where
  src : ∃ name, data.part? "src" = some name
  dest : ∃ name, data.part? "dest" = some name
  weights : ∃ items, data.itemsUnder? "weights" = some items ∧ ∀ item ∈ items, item.HasText

theorem ofValue_eq_ok {data : Value} {e : Edge} :
    ofValue data = .ok e ↔ data.part? "src" = some e.src ∧ data.part? "dest" = some e.dest ∧
      data.itemsUnder? "weights" = some e.weights := by
  simp only [ofValue, bind_eq_ok, Value.require_eq_ok, Value.asMapping_eq_ok, Value.walk_eq_ok]
  constructor
  · intro read
    obtain ⟨src, starts, dest, ends, entries, revealed, items, walked, ⟨⟩⟩ := read
    simp only [Value.itemsUnder?, Value.part?_of_reveal revealed] at starts ends ⊢
    exact ⟨starts, ends, walked⟩
  · intro told
    obtain ⟨starts, ends, walked⟩ := told
    obtain ⟨entries, revealed⟩ := Value.exists_entries_of_part? starts
    simp only [Value.itemsUnder?, Value.part?_of_reveal revealed] at starts ends walked ⊢
    exact ⟨_, starts, _, ends, entries, revealed, _, walked, rfl⟩

theorem ofValue_toStored (e : Edge) : ofValue e.toValue = .ok e := by
  rw [ofValue_eq_ok]
  simp [toValue, Value.itemsUnder?, Value.part?, Value.reveal, Value.items?]

end Edge

namespace Graph

/-! ### What a stored graph tells -/

/-- The parts that a stored graph tells of. -/
structure Tells (data : Value) (parts : Parts) : Prop where
  mapping : ∃ entries, data.reveal = .map entries
  name : parts.name = (data.part? "name").getD (.text "")
  metadata : ((data.part? "metadata").getD (.map [])).asEntries = .ok parts.metadata
  vertices : ∃ stored, data.itemsUnder? "vertices" = some stored ∧
    stored.mapM Vertex.ofValue = .ok parts.vertices
  edges : ∃ stored, data.itemsUnder? "edges" = some stored ∧
    stored.mapM Edge.ofValue = .ok parts.edges

theorem Tells.unique {data : Value} {parts others : Parts} (first : Tells data parts)
    (second : Tells data others) : parts = others := by
  obtain ⟨_, foundVertices, vertices⟩ := first.vertices
  obtain ⟨_, otherVertices, again⟩ := second.vertices
  cases foundVertices.symm.trans otherVertices
  obtain ⟨_, foundEdges, edges⟩ := first.edges
  obtain ⟨_, otherEdges, edgesAgain⟩ := second.edges
  cases foundEdges.symm.trans otherEdges
  cases parts
  cases others
  simp only [Parts.mk.injEq]
  exact ⟨first.name.trans second.name.symm,
    Except.ok.inj (first.metadata.symm.trans second.metadata),
    Except.ok.inj (vertices.symm.trans again), Except.ok.inj (edges.symm.trans edgesAgain)⟩

theorem addStoredVertices_eq_ok {g next : Graph} {stored : List Value} :
    g.addStoredVertices stored = .ok next ↔
      ∃ vs, stored.mapM Vertex.ofValue = .ok vs ∧ vs.foldlM Graph.addVertex g = .ok next :=
  foldlM_read_eq_ok

theorem addStoredEdges_eq_ok {g next : Graph} {stored : List Value} :
    g.addStoredEdges stored = .ok next ↔
      ∃ es, stored.mapM Edge.ofValue = .ok es ∧ es.foldlM Graph.putEdge g = .ok next := by
  rw [addStoredEdges, ← foldlM_read_eq_ok]
  refine iff_of_eq (congrArg (fun step => List.foldlM step g stored = Except.ok next) ?_)
  funext g data
  refine congrArg (Edge.ofValue data >>= ·) (funext fun e => ?_)
  rw [putEdge]
  cases g.addEdgeOf e.src e.dest (.list e.weights) with
  | error _ => rfl
  | ok _ => rfl

/-- A stored graph is read where the parts that it tells of make a graph. -/
theorem ofValue_eq_ok {data : Value} {g : Graph} :
    ofValue data = .ok g ↔ ∃ parts, Tells data parts ∧ parts.build = .ok g := by
  simp only [ofValue, bind_eq_ok, Value.asMapping_eq_ok, Value.walk_eq_ok, addStoredVertices_eq_ok,
    addStoredEdges_eq_ok]
  constructor
  · intro read
    obtain ⟨entries, revealed, metadata, described, storedVertices, vertexItems, bare,
      ⟨vs, vertices, added⟩, storedEdges, edgeItems, es, edges, put⟩ := read
    simp only [← Value.part?_of_reveal revealed] at described vertexItems added edgeItems
    exact ⟨⟨(data.part? "name").getD (.text ""), metadata, vs, es⟩,
      ⟨⟨entries, revealed⟩, rfl, described, ⟨storedVertices, vertexItems, vertices⟩,
        ⟨storedEdges, edgeItems, edges⟩⟩,
      bind_eq_ok.mpr ⟨bare, added, put⟩⟩
  · intro told
    obtain ⟨parts, tells, built⟩ := told
    obtain ⟨bare, added, put⟩ := bind_eq_ok.mp built
    obtain ⟨entries, revealed⟩ := tells.mapping
    obtain ⟨storedVertices, vertexItems, vertices⟩ := tells.vertices
    obtain ⟨storedEdges, edgeItems, edges⟩ := tells.edges
    rw [tells.name] at added
    refine ⟨entries, revealed, ?_⟩
    simp only [← Value.part?_of_reveal revealed]
    exact ⟨_, tells.metadata, storedVertices, vertexItems, bare, ⟨_, vertices, added⟩, storedEdges,
      edgeItems, _, edges, put⟩

/-! ### Which stored graphs can be read -/

/-- A stored graph is a mapping with metadata that are entries, and with well-formed vertices and
edges.  Every part may be left out. -/
structure WellFormed (data : Value) : Prop where
  mapping : ∃ entries, data.reveal = .map entries
  metadata : ∃ entries, ((data.part? "metadata").getD (.map [])).asEntries = .ok entries
  vertices : ∃ stored, data.itemsUnder? "vertices" = some stored ∧ ∀ v ∈ stored, Vertex.WellFormed v
  edges : ∃ stored, data.itemsUnder? "edges" = some stored ∧ ∀ e ∈ stored, Edge.WellFormed e

/-- The names of the vertices of a stored graph. -/
def storedNames (data : Value) : List Value :=
  ((data.itemsUnder? "vertices").getD []).filterMap (·.part? "name")

/-- The names at the ends of the edges of a stored graph. -/
def storedEnds (data : Value) : List Value :=
  let edges := (data.itemsUnder? "edges").getD []
  edges.filterMap (·.part? "src") ++ edges.filterMap (·.part? "dest")

namespace Tells

variable {data : Value} {parts : Parts}

theorem storedNames_eq (tells : Tells data parts) :
    storedNames data = parts.vertices.map (·.name) := by
  obtain ⟨stored, found, read⟩ := tells.vertices
  rw [storedNames, found, Option.getD_some]
  apply filterMap_eq_map
  apply forall₂_of_mapM_eq_ok read
  intro vertex _ v returned
  obtain ⟨name, items, named, -, rfl⟩ := Vertex.ofValue_eq_ok.mp returned
  exact named

theorem storedEnds_eq (tells : Tells data parts) :
    storedEnds data = parts.edges.map (·.src) ++ parts.edges.map (·.dest) := by
  obtain ⟨stored, found, read⟩ := tells.edges
  rw [storedEnds, found, Option.getD_some]
  refine congrArg₂ (· ++ ·) (filterMap_eq_map ?_) (filterMap_eq_map ?_)
  · exact forall₂_of_mapM_eq_ok read fun _ _ _ returned => (Edge.ofValue_eq_ok.mp returned).1
  · exact forall₂_of_mapM_eq_ok read fun _ _ _ returned => (Edge.ofValue_eq_ok.mp returned).2.1

end Tells

namespace WellFormed

variable {data : Value} (wellFormed : WellFormed data)

include wellFormed

theorem exists_tells : ∃ parts, Tells data parts := by
  obtain ⟨metadata, described⟩ := wellFormed.metadata
  obtain ⟨storedVertices, foundVertices, eachVertex⟩ := wellFormed.vertices
  obtain ⟨storedEdges, foundEdges, eachEdge⟩ := wellFormed.edges
  obtain ⟨vs, vertices⟩ : ∃ vs, storedVertices.mapM Vertex.ofValue = .ok vs := by
    apply exists_mapM_eq_ok
    intro stored member
    obtain ⟨⟨name, named, -⟩, weights⟩ := eachVertex stored member
    exact Vertex.exists_ofValue_iff.mpr ⟨⟨name, named⟩, weights⟩
  obtain ⟨es, edges⟩ : ∃ es, storedEdges.mapM Edge.ofValue = .ok es := by
    apply exists_mapM_eq_ok
    intro stored member
    obtain ⟨⟨src, starts⟩, ⟨dest, ends⟩, ⟨items, walked, -⟩⟩ := eachEdge stored member
    exact ⟨⟨src, dest, items⟩, Edge.ofValue_eq_ok.mpr ⟨starts, ends, walked⟩⟩
  exact ⟨⟨_, metadata, vs, es⟩, wellFormed.mapping, rfl, described,
    ⟨storedVertices, foundVertices, vertices⟩, ⟨storedEdges, foundEdges, edges⟩⟩

/-- The names of well-formed vertices can be keys. -/
theorem isKey_of_tells {parts : Parts} (tells : Tells data parts) :
    ∀ v ∈ parts.vertices, v.name.isKey = true := by
  obtain ⟨stored, found, read⟩ := tells.vertices
  obtain ⟨_, again, each⟩ := wellFormed.vertices
  cases found.symm.trans again
  refine forall_mem_of_mapM_eq_ok read fun vertex member v returned => ?_
  obtain ⟨name, items, named, -, rfl⟩ := Vertex.ofValue_eq_ok.mp returned
  obtain ⟨other, otherNamed, isKey⟩ := (each vertex member).name
  cases named.symm.trans otherNamed
  exact isKey

/-- The weights of well-formed edges have texts. -/
theorem hasText_of_tells {parts : Parts} (tells : Tells data parts) :
    ∀ e ∈ parts.edges, ∀ weight ∈ e.weights, weight.HasText := by
  obtain ⟨stored, found, read⟩ := tells.edges
  obtain ⟨_, again, each⟩ := wellFormed.edges
  cases found.symm.trans again
  refine forall_mem_of_mapM_eq_ok read fun edge member e returned => ?_
  obtain ⟨items, walked, texts⟩ := (each edge member).weights
  cases walked.symm.trans (Edge.ofValue_eq_ok.mp returned).2.2
  exact texts

/-- What a stored graph tells of makes a graph where the names differ and the edges join them. -/
theorem fit_iff_of_tells {parts : Parts} (tells : Tells data parts) :
    parts.Fit ↔ (storedNames data).Pairwise (fun a b => a.same b = false) ∧
      ∀ x ∈ storedEnds data, ∃ name ∈ storedNames data, name.same x = true := by
  rw [tells.storedNames_eq, tells.storedEnds_eq, List.pairwise_map, List.forall_mem_append,
    List.forall_mem_map, List.forall_mem_map]
  simp only [List.mem_map, exists_exists_and_eq_and]
  constructor
  · intro fit
    exact ⟨fit.different, fun e member => (fit.edges e member).src,
      fun e member => (fit.edges e member).dest⟩
  · intro told
    obtain ⟨different, starts, ends⟩ := told
    exact ⟨wellFormed.isKey_of_tells tells, different, fun e member =>
      ⟨starts e member, ends e member, wellFormed.hasText_of_tells tells e member⟩⟩

end WellFormed

/-- A stored graph is read exactly if the names of its vertices differ, and the ends of its edges
are among them. -/
theorem exists_ofValue_iff {data : Value} (wellFormed : WellFormed data) :
    (∃ g, ofValue data = .ok g) ↔
      (storedNames data).Pairwise (fun a b => a.same b = false) ∧
        ∀ x ∈ storedEnds data, ∃ name ∈ storedNames data, name.same x = true := by
  obtain ⟨parts, tells⟩ := wellFormed.exists_tells
  rw [← wellFormed.fit_iff_of_tells tells, ← Parts.exists_build_iff]
  refine exists_congr fun g => ?_
  rw [ofValue_eq_ok]
  constructor
  · intro read
    obtain ⟨others, again, built⟩ := read
    rwa [tells.unique again]
  · exact fun built => ⟨parts, tells, built⟩

/-! ### Stored graphs -/

/-- The stored form of a graph in which the weights of vertices are lists. -/
def stored (g : Graph) : Value :=
  .map
    [(.text "name", g.name), (.text "metadata", .map g.metadata),
     (.text "vertices", .list (g.vertices.map Vertex.stored)),
     (.text "edges", .list (g.edgeList.map Edge.toValue))]

theorem itemsUnder?_vertices_stored (g : Graph) :
    g.stored.itemsUnder? "vertices" = some (g.vertices.map Vertex.stored) := by
  simp [stored, Value.itemsUnder?, Value.part?, Value.reveal, Value.items?]

theorem itemsUnder?_edges_stored (g : Graph) :
    g.stored.itemsUnder? "edges" = some (g.edgeList.map Edge.toValue) := by
  simp [stored, Value.itemsUnder?, Value.part?, Value.reveal, Value.items?]

/-- The weights of all vertices are lists. -/
def Listed (g : Graph) : Prop :=
  ∀ v ∈ g.vertices, ∃ items, v.weights = .list items

namespace Listed

variable {g : Graph} (listed : g.Listed)

include listed

theorem toValue_eq : g.toValue = .ok g.stored := by
  have vertices : g.vertices.mapM Vertex.toValue = .ok (g.vertices.map Vertex.stored) := by
    apply mapM_eq_ok_map
    intro v member
    obtain ⟨items, weights⟩ := listed v member
    exact Vertex.toValue_eq_stored weights
  rw [toValue, vertices]
  rfl

/-- The stored form of a graph tells of its parts. -/
theorem tells_stored : Tells g.stored g.parts where
  mapping := ⟨_, rfl⟩
  name := by simp [stored, Value.part?, Value.reveal, parts]
  metadata := by simp [stored, Value.part?, Value.reveal, Value.asEntries, parts]
  vertices := by
    refine ⟨_, g.itemsUnder?_vertices_stored, ?_⟩
    rw [mapM_eq_ok, List.forall₂_map_left_iff, parts, List.forall₂_same]
    intro v member
    obtain ⟨items, weights⟩ := listed v member
    exact Vertex.ofValue_stored weights
  edges := by
    refine ⟨_, g.itemsUnder?_edges_stored, ?_⟩
    rw [mapM_eq_ok, List.forall₂_map_left_iff, parts, List.forall₂_same]
    exact fun e _ => Edge.ofValue_toStored e

/-- The stored form of a graph that can be made is well-formed. -/
theorem wellFormed_stored (canonical : g.Canonical) : WellFormed g.stored where
  mapping := listed.tells_stored.mapping
  metadata := ⟨_, listed.tells_stored.metadata⟩
  vertices := by
    refine ⟨_, g.itemsUnder?_vertices_stored, List.forall_mem_map.mpr fun v member => ?_⟩
    obtain ⟨items, weights⟩ := listed v member
    obtain ⟨name, _, named, walked, same⟩ :=
      Vertex.ofValue_eq_ok.mp (Vertex.ofValue_stored weights)
    have isKey : v.name.isKey = true := canonical.fit_parts.keys v member
    rw [congrArg Vertex.name same] at isKey
    exact ⟨⟨name, named, isKey⟩, ⟨_, walked⟩⟩
  edges := by
    refine ⟨_, g.itemsUnder?_edges_stored, List.forall_mem_map.mpr fun e member => ?_⟩
    obtain ⟨src, dest, weights⟩ := Edge.ofValue_eq_ok.mp (Edge.ofValue_toStored e)
    exact ⟨⟨_, src⟩, ⟨_, dest⟩, ⟨_, weights, (canonical.fit_parts.edges e member).texts⟩⟩

/-- A graph is read back from its stored form as it was. -/
theorem ofValue_stored (canonical : g.Canonical) : ofValue g.stored = .ok g :=
  ofValue_eq_ok.mpr ⟨g.parts, listed.tells_stored, canonical.build_parts⟩

end Listed

end Graph

end TaskGraph
