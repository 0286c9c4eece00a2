/-
Module: TaskGraph.Proofs.Graph.Growth
Purpose: What a graph is after each way to change it: its vertices, its edges, and the places of
  its vertices.
Main exports:
  Graph.same_iff_place_eq, Graph.addVertex_eq_ok, Graph.addEdgeOf_eq_ok,
  Graph.replaceVertex, Graph.editVertex_eq_ok
-/
import TaskGraph.Graph.Stored
import TaskGraph.Proofs.Outcome

namespace TaskGraph

/-- A change of an item that keeps an image of it keeps the images of all. -/
theorem map_modify_eq_map {α β : Type} {f : α → β} {change : α → α}
    (same : ∀ a, f (change a) = f a) (xs : List α) (i : Nat) :
    (xs.modify i change).map f = xs.map f := by
  apply List.ext_getElem?
  intro j
  rw [List.getElem?_map, List.getElem?_modify, List.getElem?_map]
  cases xs[j]? with
  | none => rfl
  | some a =>
      by_cases here : i = j
      · simp [here, same]
      · simp [here]

/-- Values that are keys are the same where their keys are equal. -/
theorem Value.same_iff_of_key? {a b : Value} {k l : Key} (first : a.key? = some k)
    (second : b.key? = some l) : a.same b = true ↔ k = l := by
  cases a with
  | text s =>
      cases first
      cases b with
      | text t =>
          cases second
          simp [same]
      | null | bool | int | float | bytes | date | moment =>
          cases second
          simp [same, key?]
      | list | tuple | set | map | web | link => cases second
  | null | bool | int | float | bytes | date | moment =>
      cases first
      cases b with
      | null | bool | int | float | bytes | date | moment | text =>
          cases second
          simp [same, key?]
      | list | tuple | set | map | web | link => cases second
  | list | tuple | set | map | web | link => cases first

/-- The weights of an edge are texts. -/
def Edge.Textual (e : Edge) : Prop :=
  ∃ labels : List Text, e.weights = labels.map .text

theorem Register.find?_empty (key : Key) : Register.empty.find? key = none := by
  simp [Register.find?_eq, Register.empty]

theorem Register.find?_inj {register : Register} {k l : Key} {place : Nat}
    (first : register.find? k = some place) (second : register.find? l = some place) : k = l := by
  rw [Register.find?_eq, Array.findIdx?_eq_some_iff_getElem] at first second
  obtain ⟨_, here, -⟩ := first
  obtain ⟨_, there, -⟩ := second
  exact (beq_iff_eq.mp here).symm.trans (beq_iff_eq.mp there)

namespace Graph

/-! ### Places -/

theorem asKey_eq_ok {name : Value} {key : Key} : name.asKey = .ok key ↔ name.key? = some key := by
  unfold Value.asKey
  cases name.key? with
  | none => simp
  | some other => simp

theorem place?_eq_ok {g : Graph} {name : Value} {found : Option Nat} :
    g.place? name = .ok found ↔
      ∃ key, name.key? = some key ∧ g.register.find? key = found := by
  simp only [place?, map_eq_ok, asKey_eq_ok]

/-- The table of places agrees with a search through the keys. -/
theorem place?_of_findIdx? {g : Graph} {name : Value} {key : Key} {place : Nat}
    (keyed : name.key? = some key) (found : g.register.keys.findIdx? (· == key) = some place) :
    g.place? name = .ok (some place) :=
  place?_eq_ok.mpr ⟨key, keyed, (Register.find?_eq _ _).trans found⟩

/-- Names of vertices are the same where they lead to one place. -/
theorem same_iff_place_eq {g : Graph} {a b : Value} {i j : Nat}
    (first : g.place? a = .ok (some i)) (second : g.place? b = .ok (some j)) :
    a.same b = true ↔ i = j := by
  obtain ⟨k, firstKey, first⟩ := place?_eq_ok.mp first
  obtain ⟨l, secondKey, second⟩ := place?_eq_ok.mp second
  rw [Value.same_iff_of_key? firstKey secondKey]
  constructor
  · intro same
    subst same
    exact Option.some.inj (first.symm.trans second)
  · intro same
    subst same
    exact Register.find?_inj first second

theorem indexOf_eq_ok {g : Graph} {name : Value} {place : Nat}
    (found : g.place? name = .ok (some place)) : g.indexOf name = .ok (place + 1) := by
  rw [indexOf, found]
  rfl

/-- A place that is found is that of a vertex. -/
theorem lt_vertexCount {g : Graph} {name : Value} {place : Nat}
    (found : g.place? name = .ok (some place)) : place < g.vertexCount := by
  obtain ⟨key, -, found⟩ := place?_eq_ok.mp found
  rw [vertexCount, g.size_eq]
  exact Register.lt_size_of_find? found

theorem length_vertices (g : Graph) : g.vertices.length = g.vertexCount := by
  simp [vertices, vertexCount]

/-! ### A new vertex -/

theorem addVertex_eq_ok {g next : Graph} {v : Vertex} :
    g.addVertex v = .ok next ↔
      ∃ key, v.name.key? = some key ∧ ∃ isNew, next = g.push v key isNew := by
  unfold addVertex
  cases keyed : v.name.key? with
  | none => simp
  | some key =>
      simp only [Option.some.injEq]
      split
      · rename_i place found
        constructor
        · intro returned
          cases returned
        · intro added
          rcases added with ⟨_, rfl, isNew, -⟩
          rw [isNew] at found
          cases found
      · rename_i isNew
        constructor
        · intro returned
          cases returned
          exact ⟨key, rfl, isNew, rfl⟩
        · intro added
          rcases added with ⟨_, rfl, _, rfl⟩
          rfl

section Push

variable (g : Graph) (v : Vertex) (key : Key) (isNew : g.register.find? key = none)

@[simp] theorem vertices_push : (g.push v key isNew).vertices = g.vertices ++ [v] := by
  simp [push, vertices]

@[simp] theorem links_push : (g.push v key isNew).links = g.links := rfl

@[simp] theorem edgeList_push : (g.push v key isNew).edgeList = g.edgeList := rfl

/-- The new vertex is found at the end, and all others where they were. -/
theorem place?_push {name : Value} {other : Key} (keyed : name.key? = some other) :
    (g.push v key isNew).place? name =
      if key = other then .ok (some g.vertexCount) else g.place? name := by
  have found := g.register.find?_push key isNew other
  rw [vertexCount, g.size_eq]
  simp only [place?, Value.asKey, keyed, Except.map, push, found]
  split <;> rfl

/-- What is found in a graph is found in the same place after a vertex is added. -/
theorem place?_push_of_found {name : Value} {place : Nat}
    (found : g.place? name = .ok (some place)) :
    (g.push v key isNew).place? name = .ok (some place) := by
  obtain ⟨other, keyed, held⟩ := place?_eq_ok.mp found
  rw [place?_push g v key isNew keyed, if_neg, found]
  intro same
  subst same
  rw [isNew] at held
  cases held

end Push

/-! ### A new edge -/

theorem endpoint_eq_ok {g : Graph} {role : VertexRole} {name : Value} {place : Nat} :
    g.endpoint role name = .ok place ↔ g.place? name = .ok (some place) := by
  simp only [endpoint, bind_eq_ok]
  constructor
  · intro steps
    rcases steps with ⟨found, looked, returned⟩
    cases found with
    | none => cases returned
    | some other =>
        cases returned
        exact looked
  · intro looked
    exact ⟨some place, looked, rfl⟩

theorem addEdge_eq_ok {g next : Graph} {src dest : Value} {weights : List Text} :
    g.addEdge src dest weights = .ok next ↔
      ∃ source target, g.place? src = .ok (some source) ∧ g.place? dest = .ok (some target) ∧
        next = g.join source target { src, dest, weights := weights.map .text } := by
  simp only [addEdge, bind_eq_ok, endpoint_eq_ok]
  constructor
  · intro steps
    rcases steps with ⟨source, sourceFound, target, targetFound, ⟨⟩⟩
    exact ⟨source, target, sourceFound, targetFound, rfl⟩
  · intro joined
    rcases joined with ⟨source, target, sourceFound, targetFound, rfl⟩
    exact ⟨source, sourceFound, target, targetFound, rfl⟩

/-- An edge that is added has the ends that were asked for, and texts as weights. -/
theorem addEdgeOf_eq_ok {g next : Graph} {src dest weights : Value} {edge : Edge} :
    g.addEdgeOf src dest weights = .ok (next, edge) ↔
      ∃ source target items labels, g.place? src = .ok (some source) ∧
        g.place? dest = .ok (some target) ∧ weights.walkIfTrue = .ok items ∧
        items.mapM Value.asPlain = .ok labels ∧
        edge = { src, dest, weights := labels.map .text } ∧ next = g.join source target edge := by
  simp only [addEdgeOf, bind_eq_ok, endpoint_eq_ok]
  constructor
  · intro added
    obtain ⟨source, sourceFound, target, targetFound, items, walked, labels, written, ⟨⟩⟩ := added
    exact ⟨source, target, items, labels, sourceFound, targetFound, walked, written, rfl, rfl⟩
  · intro joined
    obtain ⟨source, target, items, labels, sourceFound, targetFound, walked, written, rfl,
      rfl⟩ := joined
    exact ⟨source, sourceFound, target, targetFound, items, walked, labels, written, rfl⟩

section Join

variable (g : Graph) (source target : Nat) (edge : Edge)

@[simp] theorem vertices_join : (g.join source target edge).vertices = g.vertices := by
  simp only [join, vertices, Array.toList_modify]
  rw [map_modify_eq_map, map_modify_eq_map]
  all_goals exact fun _ => rfl

@[simp] theorem links_join :
    (g.join source target edge).links = g.links.push { edge, source, target } := rfl

@[simp] theorem edgeList_join :
    (g.join source target edge).edgeList = g.edgeList ++ [edge] := by
  simp [edgeList]

end Join

/-! ### Another attribute -/

theorem size_replaced (g : Graph) (place : Nat) (vertex : Vertex) :
    (g.nodes.modify place fun node => { node with vertex }).size = g.register.size := by
  rw [Array.size_modify, g.size_eq]

/-- Put another vertex at a place.  The label stays. -/
def replaceVertex (g : Graph) (place : Nat) (vertex : Vertex) : Graph :=
  { g with
    nodes := g.nodes.modify place fun node => { node with vertex }
    size_eq := g.size_replaced place vertex }

section Replace

variable (g : Graph) (place : Nat) (v : Vertex)

@[simp] theorem vertices_replaceVertex :
    (g.replaceVertex place v).vertices = g.vertices.set place v := by
  apply List.ext_getElem?
  intro other
  simp only [replaceVertex, vertices, Array.toList_modify, List.getElem?_map,
    List.getElem?_modify, List.getElem?_set, List.length_map]
  by_cases here : place = other
  · subst here
    by_cases within : place < g.nodes.size
    · simp [within]
    · simp [within]
  · simp [here]

@[simp] theorem links_replaceVertex : (g.replaceVertex place v).links = g.links := rfl

@[simp] theorem place?_replaceVertex (name : Value) :
    (g.replaceVertex place v).place? name = g.place? name := rfl

end Replace

/-- A change of an attribute looks up the vertex and puts the changed one in its place. -/
theorem editVertex_eq_ok {g next : Graph} {name : Value} {edit : Vertex.Edit}
    (edited : g.editVertex name edit = .ok next) :
    next = g ∨ ∃ place v changed, g.vertices[place]? = some v ∧ v.edit edit = .ok changed ∧
      next = g.replaceVertex place changed := by
  simp only [editVertex, bind_eq_ok] at edited
  obtain ⟨node, nodeFound, place, placeFound, returned⟩ := edited
  cases node with
  | none =>
      cases returned
      exact .inl rfl
  | some node =>
      cases place with
      | none =>
          cases returned
          exact .inl rfl
      | some place =>
          simp only [bind_eq_ok] at returned
          obtain ⟨changed, edited, ⟨⟩⟩ := returned
          rw [node?, placeFound] at nodeFound
          simp only [Except.map, Option.bind_some, Except.ok.injEq] at nodeFound
          refine .inr ⟨place, node.vertex, changed, ?_, edited, rfl⟩
          simp [vertices, nodeFound]

end Graph

end TaskGraph
