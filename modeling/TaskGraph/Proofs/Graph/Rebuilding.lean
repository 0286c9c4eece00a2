/-
Module: TaskGraph.Proofs.Graph.Rebuilding
Purpose: When vertices and edges, added one after the other, make a graph, and that a graph is made
  again from its parts.
Main exports:
  Graph.Parts.build, Graph.Parts.Fit, Graph.Parts.exists_build_iff, Graph.Canonical.build_parts
-/
import TaskGraph.Proofs.Graph.Canonical
import TaskGraph.Proofs.Value.Access

namespace TaskGraph

/-- An edge with its weights as texts. -/
def Edge.plain (e : Edge) : Edge :=
  { e with weights := e.weights.map fun weight => .text weight.plain }

theorem Edge.Textual.plain_eq {e : Edge} (textual : e.Textual) : e.plain = e := by
  obtain ⟨labels, weights⟩ := textual
  have same : e.weights.map (fun weight => Value.text weight.plain) = e.weights := by
    rw [weights, List.map_map]
    rfl
  rw [Edge.plain, same]

/-- An edge can be put between some vertices: its ends have names of them, and its weights have
texts. -/
structure Edge.Fits (e : Edge) (vertices : List Vertex) : Prop where
  src : ∃ v ∈ vertices, v.name.same e.src = true
  dest : ∃ v ∈ vertices, v.name.same e.dest = true
  texts : ∀ weight ∈ e.weights, weight.HasText

namespace Graph

/-- Put an edge into a graph, with its weights as texts. -/
def putEdge (g : Graph) (e : Edge) : Except Error Graph :=
  (g.addEdgeOf e.src e.dest (.list e.weights)).map (·.1)

theorem putEdge_eq_ok {g next : Graph} {e : Edge} :
    g.putEdge e = .ok next ↔
      ∃ source target, g.place? e.src = .ok (some source) ∧ g.place? e.dest = .ok (some target) ∧
        (∀ weight ∈ e.weights, weight.HasText) ∧ next = g.join source target e.plain := by
  simp only [putEdge, map_eq_ok, Prod.exists, exists_and_right, exists_eq_right, addEdgeOf_eq_ok,
    Value.walkIfTrue_list, Value.mapM_asPlain_eq_ok]
  constructor
  · intro put
    obtain ⟨_, source, target, items, labels, sourceFound, targetFound, ⟨⟩, ⟨texts, rfl⟩, rfl,
      rfl⟩ := put
    refine ⟨source, target, sourceFound, targetFound, texts, ?_⟩
    rw [List.map_map]
    rfl
  · intro joined
    obtain ⟨source, target, sourceFound, targetFound, texts, rfl⟩ := joined
    refine ⟨_, source, target, e.weights, _, sourceFound, targetFound, rfl, ⟨texts, rfl⟩, rfl, ?_⟩
    rw [List.map_map]
    rfl

namespace Canonical

variable {g next : Graph}

/-! ### Vertices -/

/-- A vertex is added if its name can be a key and no vertex has it. -/
theorem exists_addVertex_iff (canonical : g.Canonical) {v : Vertex} :
    (∃ next, g.addVertex v = .ok next) ↔
      v.name.isKey = true ∧ ∀ w ∈ g.vertices, w.name.same v.name = false := by
  simp only [addVertex_eq_ok, Value.isKey, Option.isSome_iff_exists]
  constructor
  · intro added
    obtain ⟨next, key, keyed, isNew, -⟩ := added
    refine ⟨⟨key, keyed⟩, fun w member => ?_⟩
    obtain ⟨place, held⟩ := List.getElem?_of_mem member
    rw [Bool.eq_false_iff]
    intro same
    obtain ⟨_, otherKey, found⟩ :=
      place?_eq_ok.mp (canonical.consistent.place?_eq_ok_iff.mpr ⟨w, held, same⟩)
    cases keyed.symm.trans otherKey
    rw [isNew] at found
    cases found
  · intro new
    obtain ⟨⟨key, keyed⟩, different⟩ := new
    cases found : g.register.find? key with
    | none => exact ⟨_, key, keyed, found, rfl⟩
    | some place =>
        obtain ⟨w, held, same⟩ :=
          canonical.consistent.place?_eq_ok_iff.mp (place?_eq_ok.mpr ⟨key, keyed, found⟩)
        rw [different w (List.mem_of_getElem? held)] at same
        cases same

theorem addVertex (canonical : g.Canonical) {v : Vertex} (added : g.addVertex v = .ok next) :
    next.Canonical ∧ next.parts = { g.parts with vertices := g.vertices ++ [v] } := by
  obtain ⟨key, keyed, isNew, rfl⟩ := addVertex_eq_ok.mp added
  exact ⟨canonical.push keyed isNew, parts_push g v key isNew⟩

/-- Vertices that are added come after those that are there. -/
theorem addVertices (canonical : g.Canonical) {vs : List Vertex}
    (added : vs.foldlM Graph.addVertex g = .ok next) :
    next.Canonical ∧ next.parts = { g.parts with vertices := g.vertices ++ vs } := by
  induction vs generalizing g with
  | nil =>
      cases added
      refine ⟨canonical, ?_⟩
      rw [List.append_nil]
      rfl
  | cons v rest inductionHypothesis =>
      rw [List.foldlM_cons, bind_eq_ok] at added
      obtain ⟨middle, first, later⟩ := added
      obtain ⟨middleCanonical, middleParts⟩ := canonical.addVertex first
      obtain ⟨nextCanonical, nextParts⟩ := inductionHypothesis middleCanonical later
      refine ⟨nextCanonical, ?_⟩
      have vertices : middle.vertices = g.vertices ++ [v] := congrArg Parts.vertices middleParts
      rw [nextParts, vertices, middleParts, List.append_assoc]
      rfl

/-- Vertices are added where their names can be keys, differ from each other, and are new. -/
theorem exists_addVertices_iff (canonical : g.Canonical) {vs : List Vertex} :
    (∃ next, vs.foldlM Graph.addVertex g = .ok next) ↔
      (∀ v ∈ vs, v.name.isKey = true) ∧ vs.Pairwise (fun v w => v.name.same w.name = false) ∧
        ∀ v ∈ g.vertices, ∀ w ∈ vs, v.name.same w.name = false := by
  induction vs generalizing g with
  | nil => simp [pure, Except.pure]
  | cons v rest inductionHypothesis =>
      simp only [List.foldlM_cons, bind_eq_ok, List.forall_mem_cons, List.pairwise_cons]
      constructor
      · intro added
        obtain ⟨next, middle, first, later⟩ := added
        obtain ⟨isKey, isNew⟩ := canonical.exists_addVertex_iff.mp ⟨middle, first⟩
        obtain ⟨middleCanonical, middleParts⟩ := canonical.addVertex first
        obtain ⟨keys, different, new⟩ := (inductionHypothesis middleCanonical).mp ⟨next, later⟩
        have vertices : middle.vertices = g.vertices ++ [v] := congrArg Parts.vertices middleParts
        rw [vertices, List.forall_mem_append, List.forall_mem_singleton] at new
        exact ⟨⟨isKey, keys⟩, ⟨new.2, different⟩,
          fun w member => ⟨isNew w member, new.1 w member⟩⟩
      · intro fit
        obtain ⟨⟨isKey, keys⟩, ⟨others, different⟩, new⟩ := fit
        obtain ⟨middle, first⟩ :=
          canonical.exists_addVertex_iff.mpr ⟨isKey, fun w member => (new w member).1⟩
        obtain ⟨middleCanonical, middleParts⟩ := canonical.addVertex first
        have vertices : middle.vertices = g.vertices ++ [v] := congrArg Parts.vertices middleParts
        have still : ∀ w ∈ middle.vertices, ∀ u ∈ rest, w.name.same u.name = false := by
          rw [vertices, List.forall_mem_append, List.forall_mem_singleton]
          exact ⟨fun w member => (new w member).2, others⟩
        obtain ⟨next, later⟩ := (inductionHypothesis middleCanonical).mpr ⟨keys, different, still⟩
        exact ⟨next, middle, first, later⟩

/-! ### Edges -/

theorem exists_place_iff (canonical : g.Canonical) {name : Value} :
    (∃ place, g.place? name = .ok (some place)) ↔ ∃ v ∈ g.vertices, v.name.same name = true := by
  simp only [canonical.consistent.place?_eq_ok_iff, List.mem_iff_getElem?]
  constructor
  · intro found
    obtain ⟨place, v, held, same⟩ := found
    exact ⟨v, ⟨place, held⟩, same⟩
  · intro named
    obtain ⟨v, ⟨place, held⟩, same⟩ := named
    exact ⟨place, v, held, same⟩

/-- An edge is put into a graph if it fits its vertices. -/
theorem exists_putEdge_iff (canonical : g.Canonical) {e : Edge} :
    (∃ next, g.putEdge e = .ok next) ↔ e.Fits g.vertices := by
  simp only [putEdge_eq_ok]
  constructor
  · intro put
    obtain ⟨next, source, target, sourceFound, targetFound, texts, -⟩ := put
    exact ⟨canonical.exists_place_iff.mp ⟨source, sourceFound⟩,
      canonical.exists_place_iff.mp ⟨target, targetFound⟩, texts⟩
  · intro fits
    obtain ⟨source, sourceFound⟩ := canonical.exists_place_iff.mpr fits.src
    obtain ⟨target, targetFound⟩ := canonical.exists_place_iff.mpr fits.dest
    exact ⟨_, source, target, sourceFound, targetFound, fits.texts, rfl⟩

theorem putEdge (canonical : g.Canonical) {e : Edge} (put : g.putEdge e = .ok next) :
    next.Canonical ∧ next.parts = { g.parts with edges := g.edgeList ++ [e.plain] } := by
  obtain ⟨source, target, sourceFound, targetFound, -, rfl⟩ := putEdge_eq_ok.mp put
  have textual : e.plain.Textual := ⟨e.weights.map Value.plain, by rw [List.map_map]; rfl⟩
  exact ⟨canonical.join sourceFound targetFound textual, parts_join g source target e.plain⟩

/-- Edges that are put into a graph come after those that are there. -/
theorem putEdges (canonical : g.Canonical) {es : List Edge}
    (put : es.foldlM Graph.putEdge g = .ok next) :
    next.Canonical ∧ next.parts = { g.parts with edges := g.edgeList ++ es.map Edge.plain } := by
  induction es generalizing g with
  | nil =>
      cases put
      refine ⟨canonical, ?_⟩
      rw [List.map_nil, List.append_nil]
      rfl
  | cons e rest inductionHypothesis =>
      rw [List.foldlM_cons, bind_eq_ok] at put
      obtain ⟨middle, first, later⟩ := put
      obtain ⟨middleCanonical, middleParts⟩ := canonical.putEdge first
      obtain ⟨nextCanonical, nextParts⟩ := inductionHypothesis middleCanonical later
      refine ⟨nextCanonical, ?_⟩
      have edges : middle.edgeList = g.edgeList ++ [e.plain] := congrArg Parts.edges middleParts
      rw [nextParts, edges, middleParts, List.append_assoc]
      rfl

/-- Edges are put into a graph if each of them fits its vertices. -/
theorem exists_putEdges_iff (canonical : g.Canonical) {es : List Edge} :
    (∃ next, es.foldlM Graph.putEdge g = .ok next) ↔ ∀ e ∈ es, e.Fits g.vertices := by
  induction es generalizing g with
  | nil => simp [pure, Except.pure]
  | cons e rest inductionHypothesis =>
      simp only [List.foldlM_cons, bind_eq_ok, List.forall_mem_cons]
      have stays {middle : Graph} (first : g.putEdge e = .ok middle) :
          middle.Canonical ∧ middle.vertices = g.vertices := by
        obtain ⟨middleCanonical, middleParts⟩ := canonical.putEdge first
        exact ⟨middleCanonical, congrArg Parts.vertices middleParts⟩
      constructor
      · intro put
        obtain ⟨next, middle, first, later⟩ := put
        obtain ⟨middleCanonical, vertices⟩ := stays first
        refine ⟨canonical.exists_putEdge_iff.mp ⟨middle, first⟩, ?_⟩
        rw [← vertices]
        exact (inductionHypothesis middleCanonical).mp ⟨next, later⟩
      · intro fit
        obtain ⟨middle, first⟩ := canonical.exists_putEdge_iff.mpr fit.1
        obtain ⟨middleCanonical, vertices⟩ := stays first
        have others := fit.2
        rw [← vertices] at others
        obtain ⟨next, later⟩ := (inductionHypothesis middleCanonical).mpr others
        exact ⟨next, middle, first, later⟩

end Canonical

/-! ### Graphs from their parts -/

namespace Parts

/-- The graph that parts make. -/
def build (parts : Parts) : Except Error Graph := do
  let start : Graph := { name := parts.name, metadata := parts.metadata }
  let bare ← parts.vertices.foldlM Graph.addVertex start
  parts.edges.foldlM Graph.putEdge bare

/-- Parts make a graph: the names of the vertices can be keys and differ, and the edges fit the
vertices. -/
structure Fit (parts : Parts) : Prop where
  keys : ∀ v ∈ parts.vertices, v.name.isKey = true
  different : parts.vertices.Pairwise fun v w => v.name.same w.name = false
  edges : ∀ e ∈ parts.edges, e.Fits parts.vertices

variable {parts : Parts}

/-- The graph of vertices alone. -/
theorem vertices_of_addVertices {bare : Graph}
    (added : parts.vertices.foldlM Graph.addVertex
      { name := parts.name, metadata := parts.metadata } = .ok bare) :
    bare.Canonical ∧ bare.parts = { parts with edges := [] } := by
  obtain ⟨canonical, made⟩ := (Canonical.empty parts.name parts.metadata).addVertices added
  refine ⟨canonical, made.trans ?_⟩
  simp [Graph.parts, Graph.vertices, edgeList]

/-- Parts make a graph exactly if they fit. -/
theorem exists_build_iff : (∃ g, parts.build = .ok g) ↔ parts.Fit := by
  have start := Canonical.empty parts.name parts.metadata
  simp only [build, bind_eq_ok]
  constructor
  · intro built
    obtain ⟨g, bare, added, put⟩ := built
    obtain ⟨canonical, made⟩ := vertices_of_addVertices added
    obtain ⟨keys, different, -⟩ := start.exists_addVertices_iff.mp ⟨bare, added⟩
    have vertices : bare.vertices = parts.vertices := congrArg Parts.vertices made
    refine ⟨keys, different, ?_⟩
    rw [← vertices]
    exact canonical.exists_putEdges_iff.mp ⟨g, put⟩
  · intro fit
    obtain ⟨bare, added⟩ := start.exists_addVertices_iff.mpr
      ⟨fit.keys, fit.different, by simp [Graph.vertices]⟩
    obtain ⟨canonical, made⟩ := vertices_of_addVertices added
    have vertices : bare.vertices = parts.vertices := congrArg Parts.vertices made
    have edges := fit.edges
    rw [← vertices] at edges
    obtain ⟨g, put⟩ := canonical.exists_putEdges_iff.mpr edges
    exact ⟨g, bare, added, put⟩

/-- A graph has the parts that it is made from, with the weights of edges as texts. -/
theorem build_eq_ok {g : Graph} (built : parts.build = .ok g) :
    g.Canonical ∧ g.parts = { parts with edges := parts.edges.map Edge.plain } := by
  obtain ⟨bare, added, put⟩ := bind_eq_ok.mp built
  obtain ⟨canonical, made⟩ := vertices_of_addVertices added
  obtain ⟨gCanonical, gMade⟩ := canonical.putEdges put
  refine ⟨gCanonical, ?_⟩
  have edges : bare.edgeList = [] := congrArg Parts.edges made
  rw [gMade, edges, made]
  rfl

end Parts

namespace Canonical

variable {g : Graph} (canonical : g.Canonical)

include canonical

theorem fit_parts : g.parts.Fit where
  keys v member := by
    obtain ⟨place, held⟩ := List.getElem?_of_mem member
    obtain ⟨key, keyed, -⟩ := place?_eq_ok.mp (canonical.consistent.sound.vertex place v held)
    exact Option.isSome_iff_exists.mpr ⟨key, keyed⟩
  different := canonical.consistent.pairwise_names
  edges e member := by
    obtain ⟨l, inside, rfl⟩ := List.mem_map.mp member
    obtain ⟨source, target⟩ := canonical.consistent.sound.link l inside
    obtain ⟨labels, weights⟩ := canonical.textual _ member
    refine ⟨canonical.consistent.exists_vertex source, canonical.consistent.exists_vertex target,
      fun weight listed => ?_⟩
    rw [weights] at listed
    obtain ⟨label, -, rfl⟩ := List.mem_map.mp listed
    exact ⟨label, rfl⟩

/-- A graph is made again from its parts. -/
theorem build_parts : g.parts.build = .ok g := by
  obtain ⟨copy, built⟩ := Parts.exists_build_iff.mpr canonical.fit_parts
  obtain ⟨copyCanonical, made⟩ := Parts.build_eq_ok built
  have edges : g.edgeList.map Edge.plain = g.edgeList.map id :=
    List.map_congr_left fun e member => (canonical.textual e member).plain_eq
  have same : copy.parts = g.parts := by
    rw [made, parts, edges, List.map_id]
  rw [built, copyCanonical.eq_of_parts canonical same]

end Canonical

end Graph

end TaskGraph
