/-
Module: TaskGraph.Proofs.Expansion.Building
Purpose: What the steps of an expansion add to a graph: the vertices of new names, and the edges
  between vertices that are there.
Main exports:
  Graph.Holds, Graph.Holds.addVertices, Graph.Holds.addEdge, Expansion.instanceVertex,
  Expansion.linkEdge, Graph.Holds.addInstances, Graph.Holds.addLinks
-/
import TaskGraph.Proofs.Expansion.Names
import TaskGraph.Proofs.Graph.Reachable
import TaskGraph.Proofs.Value.Access

namespace TaskGraph

/-! ### Graphs and their contents -/

namespace Graph

/-- A graph has these vertices and these edges, and finds them by name. -/
structure Holds (g : Graph) (vs : List Vertex) (es : List Edge) : Prop where
  sound : g.Sound
  vertices : g.vertices = vs
  edges : g.edgeList = es

namespace Holds

variable {g : Graph} {vs : List Vertex} {es : List Edge}

theorem empty (name : Value) : Holds { name } [] [] where
  sound := .empty name []
  vertices := by simp [Graph.vertices]
  edges := by simp [edgeList]

/-- What a graph remembers has no part in what it holds. -/
theorem withMetadata (holds : g.Holds vs es) (metadata : Value.Entries) :
    Holds { g with metadata } vs es where
  sound := ⟨holds.sound.vertex, holds.sound.link⟩
  vertices := holds.vertices
  edges := holds.edges

theorem vertexCount_eq (holds : g.Holds vs es) : g.vertexCount = vs.length := by
  rw [← length_vertices, holds.vertices]

theorem edgeCount_eq (holds : g.Holds vs es) : g.edgeCount = es.length := by
  rw [← holds.edges]
  simp [edgeCount, edgeList]

/-- A name that no vertex has is not found. -/
theorem find?_eq_none (holds : g.Holds vs es) {s : Text}
    (fresh : ∀ w ∈ vs, w.name ≠ .text s) : g.register.find? (.text s) = none := by
  cases found : g.register.find? (.text s) with
  | none => rfl
  | some place =>
      have within : place < g.vertices.length := by
        rw [length_vertices, vertexCount, g.size_eq]
        exact Register.lt_size_of_find? found
      obtain ⟨key, keyed, held⟩ :=
        place?_eq_ok.mp (holds.sound.vertex place _ (List.getElem?_eq_getElem within))
      rw [Register.find?_inj held found] at keyed
      have inside : g.vertices[place] ∈ vs := by
        rw [← holds.vertices]
        exact List.getElem_mem within
      exact absurd (Value.eq_text_of_key? keyed) (fresh _ inside)

/-- The name of a vertex is found. -/
theorem exists_place (holds : g.Holds vs es) {v : Vertex} (member : v ∈ vs) :
    ∃ place, g.place? v.name = .ok (some place) := by
  rw [← holds.vertices] at member
  obtain ⟨place, found⟩ := List.getElem?_of_mem member
  exact ⟨place, holds.sound.vertex place v found⟩

/-- A vertex with a new name is added. -/
theorem addVertex (holds : g.Holds vs es) {v : Vertex} {s : Text} (named : v.name = .text s)
    (fresh : ∀ w ∈ vs, w.name ≠ .text s) :
    ∃ next, g.addVertex v = .ok next ∧ next.Holds (vs ++ [v]) es := by
  have keyed : v.name.key? = some (.text s) := by
    rw [named]
    rfl
  have isNew := holds.find?_eq_none fresh
  refine ⟨g.push v (.text s) isNew, addVertex_eq_ok.mpr ⟨_, keyed, isNew, rfl⟩, ?_⟩
  constructor
  · exact holds.sound.push keyed isNew
  · rw [vertices_push, holds.vertices]
  · rw [edgeList_push, holds.edges]

/-- Vertices with new and different names are added one after the other. -/
theorem addVertices (holds : g.Holds vs es) {added : List Vertex} {names : List Text}
    (named : added.map (·.name) = names.map .text) (distinct : names.Nodup)
    (fresh : ∀ s ∈ names, ∀ w ∈ vs, w.name ≠ .text s) :
    ∃ next, added.foldlM Graph.addVertex g = .ok next ∧ next.Holds (vs ++ added) es := by
  induction added generalizing g vs names with
  | nil => exact ⟨g, rfl, by simpa using holds⟩
  | cons v rest inductionHypothesis =>
      cases names with
      | nil => cases named
      | cons s others =>
          obtain ⟨vNamed, restNamed⟩ := List.cons.inj named
          have vNamed : v.name = .text s := vNamed
          obtain ⟨isFirst, restDistinct⟩ := List.nodup_cons.mp distinct
          obtain ⟨next, first, nextHolds⟩ := holds.addVertex vNamed (fresh s (by simp))
          have stillFresh : ∀ u ∈ others, ∀ w ∈ vs ++ [v], w.name ≠ .text u := by
            intro u member w inside
            rcases List.mem_append.mp inside with earlier | last
            · exact fresh u (by simp [member]) w earlier
            · rw [List.mem_singleton.mp last, vNamed]
              intro same
              cases same
              exact isFirst member
          obtain ⟨final, later, finalHolds⟩ :=
            inductionHypothesis nextHolds restNamed restDistinct stillFresh
          refine ⟨final, ?_, ?_⟩
          · rw [List.foldlM_cons, first, ok_bind, later]
          · rw [List.append_assoc] at finalHolds
            exact finalHolds

/-- An edge between vertices is added. -/
theorem addEdge (holds : g.Holds vs es) {source target : Vertex} (sourceThere : source ∈ vs)
    (targetThere : target ∈ vs) (weights : List Text) :
    ∃ next, g.addEdge source.name target.name weights = .ok next ∧
      next.Holds vs
        (es ++ [{ src := source.name, dest := target.name, weights := weights.map .text }]) := by
  obtain ⟨i, sourceFound⟩ := holds.exists_place sourceThere
  obtain ⟨j, targetFound⟩ := holds.exists_place targetThere
  refine ⟨_, addEdge_eq_ok.mpr ⟨i, j, sourceFound, targetFound, rfl⟩, ?_⟩
  constructor
  · exact holds.sound.join sourceFound targetFound
  · rw [vertices_join, holds.vertices]
  · rw [edgeList_join, holds.edges]

end Holds

end Graph

/-! ### Instances and links -/

/-- Every label that is attached has a text. -/
structure Labels.Textual (labels : Labels) : Prop where
  vertex : ∀ c i, ∀ label ∈ labels.ofVertex c i, ∃ s, label.asPlain = .ok s
  edge : ∀ input i j, ∀ label ∈ labels.ofEdge input i j, ∃ s, label.asPlain = .ok s

theorem Labels.textual_none : ({} : Labels).Textual where
  vertex c i label member := by cases member
  edge input i j label member := by cases member

namespace Expansion

/-- The vertex that stands for an instance of a component. -/
def instanceVertex (labels : Labels) (c : Component) (i : Nat) : Vertex :=
  { name := .text (instanceName c.name i)
    weights := .list ((labels.ofVertex c i).map fun label => .text label.plain) }

/-- The edge from an instance of a source to an instance of a bolt. -/
def linkEdge (labels : Labels) (input : InputStream) (source bolt : Component) (i j : Nat) : Edge :=
  { src := .text (instanceName source.name i)
    dest := .text (instanceName bolt.name j)
    weights := (labels.ofEdge input i j).map fun label => .text label.plain }

/-- The vertices for the instances of a component. -/
def instanceVertices (labels : Labels) (c : Component) (count : Nat) : List Vertex :=
  (instances count).map (instanceVertex labels c)

/-- The edges from every instance of a source to every instance of a bolt. -/
def linkEdges (labels : Labels) (input : InputStream) (source bolt : Component)
    (sourceCount boltCount : Nat) : List Edge :=
  (instances sourceCount).flatMap fun i =>
    (instances boltCount).map fun j => linkEdge labels input source bolt i j

theorem vertexOf_eq_ok {labels : Labels} (textual : labels.Textual) (c : Component) (i : Nat) :
    vertexOf labels c i = .ok (instanceVertex labels c i) := by
  have walked : (Value.list (labels.ofVertex c i)).walk = .ok (labels.ofVertex c i) := rfl
  have added := Value.mapM_asPlain_eq_ok.mpr ⟨textual.vertex c i, rfl⟩
  simp only [vertexOf, Vertex.addWeights, walked, ok_bind, added, List.nil_append, List.map_map]
  rfl

end Expansion

namespace Graph.Holds

open Expansion

variable {g : Graph} {vs : List Vertex} {es : List Edge} {labels : Labels}

theorem addInstances (holds : g.Holds vs es) (textual : labels.Textual) {c : Component} {s : Text}
    (named : c.name = .text s) (fresh : ∀ i, ∀ w ∈ vs, w.name ≠ .text (instanceName c.name i))
    (count : Nat) :
    ∃ next, Expansion.addInstances labels c count g = .ok next ∧
      next.Holds (vs ++ instanceVertices labels c count) es := by
  have steps : Expansion.addInstances labels c count g =
      (instanceVertices labels c count).foldlM Graph.addVertex g := by
    simp only [Expansion.addInstances, vertexOf_eq_ok textual, ok_bind, instanceVertices,
      List.foldlM_map]
  have labelled : (instanceVertices labels c count).map (·.name) =
      ((instances count).map (instanceName c.name)).map .text := by
    simp only [instanceVertices, List.map_map]
    rfl
  have distinct : ((instances count).map (instanceName c.name)).Nodup := by
    apply List.Nodup.map _ List.nodup_range'
    intro i j same
    rw [named] at same
    exact (instanceName_inj same).2
  rw [steps]
  apply holds.addVertices labelled distinct
  intro u member w inside
  obtain ⟨i, -, rfl⟩ := List.mem_map.mp member
  exact fresh i w inside

/-- The edges between all instances of a source and all instances of a bolt are added. -/
theorem addLinks (holds : g.Holds vs es) (textual : labels.Textual) (input : InputStream)
    {source bolt : Component} {sourceCount boltCount : Nat}
    (sourceThere : ∀ i ∈ instances sourceCount, instanceVertex labels source i ∈ vs)
    (boltThere : ∀ j ∈ instances boltCount, instanceVertex labels bolt j ∈ vs) :
    ∃ next,
      Expansion.addLinks labels input source.name bolt.name sourceCount boltCount g = .ok next ∧
      next.Holds vs (es ++ linkEdges labels input source bolt sourceCount boltCount) := by
  unfold Expansion.addLinks linkEdges
  apply exists_foldlM_eq_ok (fun (g : Graph) es => g.Holds vs es) _ holds
  intro i sourceNumber g es holds
  rw [List.map_eq_flatMap]
  apply exists_foldlM_eq_ok (fun (g : Graph) es => g.Holds vs es) _ holds
  intro j boltNumber g es holds
  rw [Value.mapM_asPlain_eq_ok.mpr ⟨textual.edge input i j, rfl⟩, ok_bind]
  obtain ⟨next, added, nextHolds⟩ := holds.addEdge (sourceThere i sourceNumber)
    (boltThere j boltNumber) ((labels.ofEdge input i j).map Value.plain)
  rw [List.map_map] at nextHolds
  exact ⟨next, added, nextHolds⟩

end Graph.Holds

end TaskGraph
