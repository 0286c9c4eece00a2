/-
Module: TaskGraph.Proofs.Graph.Reachable
Purpose: The graphs that can be made, and what holds of them all: every name, of a vertex or at
  an end of an edge, leads to the place that the graph has noted for it.
Main exports:
  Graph.Reachable, Graph.Invariant, Graph.Sound, Graph.Reachable.sound
-/
import TaskGraph.Proofs.Graph.Growth

namespace TaskGraph

/-- A change of an attribute other than the name keeps the name. -/
theorem Vertex.name_edit {v changed : Vertex} {edit : Vertex.Edit}
    (keepsName : ∀ value, edit ≠ .name value) (edited : v.edit edit = .ok changed) :
    changed.name = v.name := by
  cases edit with
  | name value => exact absurd rfl (keepsName value)
  | distance value | predecessor value | centrality value | weights value | size value =>
      cases edited
      rfl
  | addWeights labels =>
      simp only [Vertex.edit, Vertex.addWeights] at edited
      split at edited
      · simp only [bind_eq_ok] at edited
        obtain ⟨items, -, added, -, ⟨⟩⟩ := edited
        rfl
      · cases edited

namespace Graph

/-- The graphs that are made by adding vertices and edges, by reading stored graphs, and by
changing attributes of vertices other than their names. -/
inductive Reachable : Graph → Prop where
  | empty (name : Value) : Reachable { name }
  | ofValue {data : Value} {g : Graph} (read : Graph.ofValue data = .ok g) : Reachable g
  | addVertex {g next : Graph} {v : Vertex} (reached : Reachable g)
      (added : g.addVertex v = .ok next) : Reachable next
  | addEdge {g next : Graph} {src dest : Value} {weights : List Text} (reached : Reachable g)
      (added : g.addEdge src dest weights = .ok next) : Reachable next
  | addEdgeOf {g next : Graph} {src dest weights : Value} {edge : Edge} (reached : Reachable g)
      (added : g.addEdgeOf src dest weights = .ok (next, edge)) : Reachable next
  | editVertex {g next : Graph} {name : Value} {edit : Vertex.Edit} (reached : Reachable g)
      (keepsName : ∀ value, edit ≠ .name value) (edited : g.editVertex name edit = .ok next) :
      Reachable next

namespace Reachable

theorem push {g : Graph} (reached : g.Reachable) {v : Vertex} {key : Key}
    (keyed : v.name.key? = some key) (isNew : g.register.find? key = none) :
    (g.push v key isNew).Reachable :=
  reached.addVertex (addVertex_eq_ok.mpr ⟨key, keyed, isNew, rfl⟩)

theorem join {g : Graph} (reached : g.Reachable) {src dest : Value} (weights : List Text)
    {source target : Nat} (sourceFound : g.place? src = .ok (some source))
    (targetFound : g.place? dest = .ok (some target)) :
    (g.join source target { src, dest, weights := weights.map .text }).Reachable :=
  reached.addEdge (addEdge_eq_ok.mpr ⟨source, target, sourceFound, targetFound, rfl⟩)

end Reachable

/-! ### Invariants -/

/-- What holds of a graph without vertices and edges, and is kept by new vertices, new edges whose
weights are texts, and changes of vertices that keep their names. -/
structure Invariant (Kept : Graph → Prop) : Prop where
  empty : ∀ name metadata, Kept { name, metadata }
  push : ∀ {g : Graph} {v : Vertex} {key : Key}, Kept g → v.name.key? = some key →
    ∀ isNew, Kept (g.push v key isNew)
  join : ∀ {g : Graph} {source target : Nat} {edge : Edge}, Kept g →
    g.place? edge.src = .ok (some source) → g.place? edge.dest = .ok (some target) →
    edge.Textual → Kept (g.join source target edge)
  replaceVertex : ∀ {g : Graph} {place : Nat} {v changed : Vertex}, Kept g →
    g.vertices[place]? = some v → changed.name = v.name → Kept (g.replaceVertex place changed)

namespace Invariant

variable {Kept : Graph → Prop} (invariant : Invariant Kept) {g next : Graph}

include invariant

theorem addVertex (kept : Kept g) {v : Vertex} (added : g.addVertex v = .ok next) :
    Kept next := by
  obtain ⟨key, keyed, isNew, rfl⟩ := addVertex_eq_ok.mp added
  exact invariant.push kept keyed isNew

theorem addEdge (kept : Kept g) {src dest : Value} {weights : List Text}
    (added : g.addEdge src dest weights = .ok next) : Kept next := by
  obtain ⟨source, target, sourceFound, targetFound, rfl⟩ := addEdge_eq_ok.mp added
  exact invariant.join kept sourceFound targetFound ⟨weights, rfl⟩

theorem addEdgeOf (kept : Kept g) {src dest weights : Value} {edge : Edge}
    (added : g.addEdgeOf src dest weights = .ok (next, edge)) : Kept next := by
  obtain ⟨source, target, items, labels, sourceFound, targetFound, -, -, rfl, rfl⟩ :=
    addEdgeOf_eq_ok.mp added
  exact invariant.join kept sourceFound targetFound ⟨labels, rfl⟩

theorem editVertex (kept : Kept g) {name : Value} {edit : Vertex.Edit}
    (keepsName : ∀ value, edit ≠ .name value) (edited : g.editVertex name edit = .ok next) :
    Kept next := by
  rcases editVertex_eq_ok edited with rfl | ⟨place, v, changed, held, changes, rfl⟩
  · exact kept
  · exact invariant.replaceVertex kept held (Vertex.name_edit keepsName changes)

/-- A graph that is read from its stored form. -/
theorem ofValue {data : Value} (read : Graph.ofValue data = .ok g) : Kept g := by
  simp only [Graph.ofValue, bind_eq_ok] at read
  obtain ⟨entries, -, metadata, -, storedVertices, -, start, started, storedEdges, -, read⟩ := read
  have vertices : Kept start := by
    refine foldlM_invariant (fun state data after _ kept added => ?_)
      (invariant.empty _ metadata) started
    obtain ⟨v, -, added⟩ := bind_eq_ok.mp added
    exact invariant.addVertex kept added
  refine foldlM_invariant (fun state data after _ kept added => ?_) vertices read
  simp only [bind_eq_ok] at added
  obtain ⟨edge, -, ⟨g', edge'⟩, added, ⟨⟩⟩ := added
  exact invariant.addEdgeOf kept added

/-- An invariant holds of every graph that can be made. -/
theorem of_reachable (reached : Reachable g) : Kept g := by
  induction reached with
  | empty name => exact invariant.empty name []
  | ofValue read => exact invariant.ofValue read
  | addVertex _ added inductionHypothesis => exact invariant.addVertex inductionHypothesis added
  | addEdge _ added inductionHypothesis => exact invariant.addEdge inductionHypothesis added
  | addEdgeOf _ added inductionHypothesis => exact invariant.addEdgeOf inductionHypothesis added
  | editVertex _ keepsName edited inductionHypothesis =>
      exact invariant.editVertex inductionHypothesis keepsName edited

end Invariant

/-! ### Places -/

/-- Names lead to the places that the graph has noted for them. -/
structure Sound (g : Graph) : Prop where
  vertex : ∀ place v, g.vertices[place]? = some v → g.place? v.name = .ok (some place)
  link : ∀ l ∈ g.links.toList,
    g.place? l.edge.src = .ok (some l.source) ∧ g.place? l.edge.dest = .ok (some l.target)

namespace Sound

variable {g : Graph}

/-- A graph without vertices and edges. -/
theorem empty (name : Value) (metadata : Value.Entries) : Sound { name, metadata } where
  vertex place v found := by simp [vertices] at found
  link l member := by simp at member

theorem push (sound : Sound g) {v : Vertex} {key : Key} (keyed : v.name.key? = some key)
    (isNew : g.register.find? key = none) : Sound (g.push v key isNew) where
  vertex place w found := by
    rw [vertices_push, List.getElem?_append] at found
    split at found
    · exact place?_push_of_found g v key isNew (sound.vertex place w found)
    · rename_i beyond
      obtain ⟨within, rfl⟩ := List.getElem?_eq_some_iff.mp found
      have last : place = g.vertexCount := by
        rw [length_vertices] at beyond within
        simp only [List.length_singleton] at within
        omega
      simp only [List.getElem_singleton, last]
      rw [place?_push g v key isNew keyed, if_pos rfl]
  link l member := by
    rw [links_push] at member
    obtain ⟨source, target⟩ := sound.link l member
    exact ⟨place?_push_of_found g v key isNew source, place?_push_of_found g v key isNew target⟩

theorem join (sound : Sound g) {source target : Nat} {edge : Edge}
    (sourceFound : g.place? edge.src = .ok (some source))
    (targetFound : g.place? edge.dest = .ok (some target)) :
    Sound (g.join source target edge) where
  vertex place v found := by
    rw [vertices_join] at found
    exact sound.vertex place v found
  link l member := by
    rw [links_join, Array.toList_push, List.mem_append, List.mem_singleton] at member
    rcases member with earlier | rfl
    · exact sound.link l earlier
    · exact ⟨sourceFound, targetFound⟩

theorem replaceVertex (sound : Sound g) {place : Nat} {v changed : Vertex}
    (held : g.vertices[place]? = some v) (named : changed.name = v.name) :
    Sound (g.replaceVertex place changed) where
  vertex other w found := by
    rw [place?_replaceVertex]
    rw [vertices_replaceVertex, List.getElem?_set] at found
    split at found
    · rename_i here
      subst here
      split at found
      · cases found
        rw [named]
        exact sound.vertex place v held
      · cases found
    · exact sound.vertex other w found
  link l member := sound.link l member

theorem invariant : Invariant Sound where
  empty := empty
  push sound keyed isNew := sound.push keyed isNew
  join sound sourceFound targetFound _ := sound.join sourceFound targetFound
  replaceVertex sound held named := sound.replaceVertex held named

end Sound

/-- Names lead to their places in every graph that can be made. -/
theorem Reachable.sound {g : Graph} (reached : Reachable g) : Sound g :=
  Sound.invariant.of_reachable reached

end Graph

end TaskGraph
