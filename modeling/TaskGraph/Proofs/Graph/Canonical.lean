/-
Module: TaskGraph.Proofs.Graph.Canonical
Purpose: A graph that can be made is told by its parts, which are its name, its metadata, its
  vertices and its edges; the register, the links and the nodes are what these make.
Main exports:
  Register.ofKeys, Graph.Parts, Graph.Canonical, Graph.Reachable.canonical,
  Graph.Canonical.eq_of_parts
-/
import TaskGraph.Proofs.Graph.Adjacency

namespace TaskGraph

/-! ### Registers -/

/-- Add a key unless it is there. -/
def Register.add (register : Register) (key : Key) : Register :=
  if isNew : register.find? key = none then register.push key isNew else register

/-- The register that keys make, one after the other. -/
def Register.ofKeys (keys : List Key) : Register :=
  keys.foldl Register.add .empty

theorem Register.ofKeys_append_singleton {keys : List Key} {register : Register} {key : Key}
    (made : register = ofKeys keys) (isNew : register.find? key = none) :
    register.push key isNew = ofKeys (keys ++ [key]) := by
  rw [ofKeys, List.foldl_append, ← ofKeys, ← made, List.foldl_cons, List.foldl_nil, add,
    dif_pos isNew]

/-! ### Nodes -/

/-- The node of a vertex at a place, where the links of the graph are these. -/
def Node.at (links : Array Link) (v : Vertex) (place : Nat) : Node where
  label := v.name
  vertex := v
  outgoing := links.filter (·.source == place)
  incoming := links.filter (·.target == place)

theorem Node.Lists.eq_at {node : Node} {links : Array Link} {place : Nat}
    (lists : node.Lists links.toList place) : node = Node.at links node.vertex place := by
  obtain ⟨label, outgoing, incoming⟩ := lists
  cases node
  simp only [Node.at, Node.mk.injEq, true_and]
  exact ⟨label, Array.ext' (by simpa using outgoing), Array.ext' (by simpa using incoming)⟩

namespace Graph

/-! ### Labels -/

@[simp] theorem labels_push (g : Graph) (v : Vertex) (key : Key)
    (isNew : g.register.find? key = none) : (g.push v key isNew).labels = g.labels ++ [v.name] := by
  simp [push, labels]

@[simp] theorem labels_join (g : Graph) (source target : Nat) (edge : Edge) :
    (g.join source target edge).labels = g.labels := by
  simp only [join, labels, Array.toList_modify]
  rw [map_modify_eq_map, map_modify_eq_map]
  all_goals exact fun _ => rfl

@[simp] theorem labels_replaceVertex (g : Graph) (place : Nat) (v : Vertex) :
    (g.replaceVertex place v).labels = g.labels := by
  simp only [replaceVertex, labels, Array.toList_modify]
  rw [map_modify_eq_map]
  exact fun _ => rfl

/-! ### What the parts make -/

/-- What the stored form of a graph tells of it. -/
structure Parts where
  name : Value
  metadata : Value.Entries
  vertices : List Vertex
  edges : List Edge

/-- The parts of a graph. -/
def parts (g : Graph) : Parts where
  name := g.name
  metadata := g.metadata
  vertices := g.vertices
  edges := g.edgeList

theorem parts_push (g : Graph) (v : Vertex) (key : Key) (isNew : g.register.find? key = none) :
    (g.push v key isNew).parts = { g.parts with vertices := g.vertices ++ [v] } := by
  simp only [parts, vertices_push, edgeList_push]
  rfl

theorem parts_join (g : Graph) (source target : Nat) (edge : Edge) :
    (g.join source target edge).parts = { g.parts with edges := g.edgeList ++ [edge] } := by
  simp only [parts, vertices_join, edgeList_join]
  rfl

/-- The place of a name, zero where it has none. -/
def placeOf (g : Graph) (name : Value) : Nat :=
  ((g.place? name).toOption.bind id).getD 0

/-- The link of an edge. -/
def linkOf (g : Graph) (e : Edge) : Link where
  edge := e
  source := g.placeOf e.src
  target := g.placeOf e.dest

theorem placeOf_eq {g : Graph} {name : Value} {place : Nat}
    (found : g.place? name = .ok (some place)) : g.placeOf name = place := by
  rw [placeOf, found]
  rfl

/-- The links of a graph are those of its edges. -/
theorem Sound.links_eq {g : Graph} (sound : g.Sound) :
    g.links.toList = g.edgeList.map g.linkOf := by
  have each : ∀ l ∈ g.links.toList, id l = g.linkOf l.edge := by
    intro l member
    obtain ⟨source, target⟩ := sound.link l member
    rw [linkOf, placeOf_eq source, placeOf_eq target, id]
  calc g.links.toList
      = g.links.toList.map id := (List.map_id _).symm
    _ = g.links.toList.map fun l => g.linkOf l.edge := List.map_congr_left each
    _ = g.edgeList.map g.linkOf := by rw [edgeList, List.map_map]; rfl

/-- The nodes of a graph are those of its vertices. -/
theorem Consistent.nodes_eq {g : Graph} (consistent : g.Consistent) :
    g.nodes.toList = g.vertices.zipIdx.map fun entry => Node.at g.links entry.1 entry.2 := by
  apply List.ext_getElem?
  intro place
  simp only [vertices, List.getElem?_map, List.getElem?_zipIdx, Array.getElem?_toList, Nat.zero_add]
  cases held : g.nodes[place]? with
  | none => rfl
  | some node => exact congrArg some (consistent.node place node held).eq_at

/-- The register of a graph is made by the names of its vertices, and its links and nodes are those
of its edges and vertices.  The weights of edges are texts. -/
structure Canonical (g : Graph) : Prop where
  consistent : g.Consistent
  register : g.register = .ofKeys (g.labels.filterMap (·.key?))
  textual : ∀ e ∈ g.edgeList, e.Textual

namespace Canonical

variable {g : Graph}

theorem empty (name : Value) (metadata : Value.Entries) : Canonical { name, metadata } where
  consistent := .empty name metadata
  register := rfl
  textual e member := by simp [edgeList] at member

theorem push (canonical : Canonical g) {v : Vertex} {key : Key} (keyed : v.name.key? = some key)
    (isNew : g.register.find? key = none) : Canonical (g.push v key isNew) where
  consistent := canonical.consistent.push keyed isNew
  register := by
    rw [labels_push, List.filterMap_append, List.filterMap_cons_some keyed, List.filterMap_nil]
    exact Register.ofKeys_append_singleton canonical.register isNew
  textual := canonical.textual

theorem join (canonical : Canonical g) {source target : Nat} {edge : Edge}
    (sourceFound : g.place? edge.src = .ok (some source))
    (targetFound : g.place? edge.dest = .ok (some target)) (textual : edge.Textual) :
    Canonical (g.join source target edge) where
  consistent := canonical.consistent.join sourceFound targetFound
  register := by
    rw [labels_join]
    exact canonical.register
  textual e member := by
    rw [edgeList_join, List.mem_append, List.mem_singleton] at member
    rcases member with earlier | rfl
    · exact canonical.textual e earlier
    · exact textual

theorem replaceVertex (canonical : Canonical g) {place : Nat} {v changed : Vertex}
    (held : g.vertices[place]? = some v) (named : changed.name = v.name) :
    Canonical (g.replaceVertex place changed) where
  consistent := canonical.consistent.replaceVertex held named
  register := by
    rw [labels_replaceVertex]
    exact canonical.register
  textual := canonical.textual

theorem invariant : Invariant Canonical where
  empty := empty
  push canonical keyed isNew := canonical.push keyed isNew
  join canonical sourceFound targetFound textual :=
    canonical.join sourceFound targetFound textual
  replaceVertex canonical held named := canonical.replaceVertex held named

/-- Graphs with the same parts are the same. -/
theorem eq_of_parts {h : Graph} (first : g.Canonical) (second : h.Canonical)
    (same : g.parts = h.parts) : g = h := by
  simp only [parts, Parts.mk.injEq] at same
  obtain ⟨named, described, vertices, edges⟩ := same
  have register : g.register = h.register := by
    rw [first.register, second.register, first.consistent.labels_eq, second.consistent.labels_eq,
      vertices]
  have linkOf : g.linkOf = h.linkOf := by
    funext e
    simp only [Graph.linkOf, placeOf, place?, register]
  have links : g.links = h.links := by
    apply Array.ext'
    rw [first.consistent.sound.links_eq, second.consistent.sound.links_eq, edges, linkOf]
  have nodes : g.nodes = h.nodes := by
    apply Array.ext'
    rw [first.consistent.nodes_eq, second.consistent.nodes_eq, vertices, links]
  cases g
  cases h
  simp only [mk.injEq]
  exact ⟨named, described, register, nodes, links⟩

end Canonical

theorem Reachable.canonical {g : Graph} (reached : Reachable g) : Canonical g :=
  Canonical.invariant.of_reachable reached

end Graph

end TaskGraph
