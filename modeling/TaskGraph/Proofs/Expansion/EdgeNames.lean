/-
Module: TaskGraph.Proofs.Expansion.EdgeNames
Purpose: What the name of an edge tells of its ends: all, unless names of components have arrows in
  them that part the name in another place.
Main exports:
  joinedNames_eq_iff, Expansion.Overlap, Expansion.overlap_iff, Expansion.exists_expand_edges,
  Expansion.name_eq_name_iff, Expansion.not_overlap_of_arrowless, Expansion.lettered_of_expand
-/
import TaskGraph.Proofs.Expansion.Degrees
import TaskGraph.Proofs.Network.Shown

namespace TaskGraph

/-! ### Names with an arrow in them -/

/-- Two ways to part a sequence at a sign are one, or one parts it before the other. -/
theorem append_cons_eq_append_cons_iff {α : Type} {sign : α} {a b c d : List α} :
    a ++ sign :: b = c ++ sign :: d ↔
      (a = c ∧ b = d) ∨ (∃ between, c = a ++ sign :: between ∧ b = between ++ sign :: d) ∨
        ∃ between, a = c ++ sign :: between ∧ d = between ++ sign :: b := by
  constructor
  · intro same
    rcases List.append_eq_append_iff.mp same with ⟨middle, rfl, right⟩ | ⟨middle, rfl, right⟩
    · cases middle with
      | nil => exact .inl ⟨(List.append_nil a).symm, (List.cons.inj right).2⟩
      | cons x between =>
          obtain ⟨rfl, rest⟩ := List.cons.inj right
          exact .inr (.inl ⟨between, rfl, rest⟩)
    · cases middle with
      | nil => exact .inl ⟨List.append_nil c, (List.cons.inj right).2.symm⟩
      | cons x between =>
          obtain ⟨rfl, rest⟩ := List.cons.inj right
          exact .inr (.inr ⟨between, rfl, rest⟩)
  · rintro (⟨rfl, rfl⟩ | ⟨between, rfl, rfl⟩ | ⟨between, rfl, rfl⟩)
    · rfl
    · rw [List.append_assoc, List.cons_append]
    · rw [List.append_assoc, List.cons_append]

/-- There is no arrow after the last dash of the name of an instance. -/
theorem arrow_not_mem_digits (i : Nat) :
    Symbol.char '>' ∉ Symbol.char '-' :: Text.symbols (Text.digitsOf i) := by
  intro member
  rcases List.mem_cons.mp member with dash | digit
  · cases dash
  · obtain ⟨c, inside, same⟩ := List.mem_map.mp digit
    cases same
    exact absurd (Text.isPlainDigit_of_mem_digitsOf inside) (by decide)

/-- A name of two names with an arrow between them. -/
def joinedNames (source target : Text) : Text :=
  source ++ ">" ++ target

theorem toList_joinedNames (source target : Text) :
    (joinedNames source target).toList = source.toList ++ .char '>' :: target.toList := by
  simp [joinedNames, Text.ofString, Text.ofChars]

theorem Edge.name_eq (e : Edge) : e.name = joinedNames e.src.plain e.dest.plain := rfl

/-- Where the name of an instance has an arrow, it is in the name of the component. -/
theorem toList_instanceName_eq_iff {b : Text} {j : Nat} {before after : List Symbol} :
    (instanceName (.text b) j).toList = before ++ .char '>' :: after ↔
      ∃ rest : Text, b.toList = before ++ .char '>' :: rest.toList ∧
        after = (instanceName (.text rest) j).toList := by
  simp only [toList_instanceName, Value.plain_text]
  constructor
  · intro same
    rcases List.append_eq_append_iff.mp same with ⟨middle, -, right⟩ | ⟨middle, left, right⟩
    · -- The arrow would stand after the last dash.
      exact absurd (by rw [right]; simp) (arrow_not_mem_digits j)
    · cases middle with
      | nil => cases (List.cons.inj right).1
      | cons x rest =>
          obtain ⟨rfl, tail⟩ := List.cons.inj right
          exact ⟨.ofList rest, left, tail⟩
  · rintro ⟨rest, named, rfl⟩
    rw [named, List.append_assoc, List.cons_append]

theorem Text.toList_inj {a b : Text} : a.toList = b.toList ↔ a = b :=
  ⟨fun same => congrArg Text.ofList same, congrArg Text.toList⟩

theorem instanceName_eq_iff {a b : Text} {i j : Nat} :
    instanceName (.text a) i = instanceName (.text b) j ↔ a = b ∧ i = j :=
  ⟨instanceName_inj, fun ⟨names, numbers⟩ => by rw [names, numbers]⟩

/-- Where a name is parted at two arrows, the name of `c` goes on with some `w` after the first one,
and the name of `b` begins with the instance of `w` before the second one. -/
theorem parts_later_iff {a b c d : Text} {i j k l : Nat} :
    (∃ between, (instanceName (.text c) k).toList =
        (instanceName (.text a) i).toList ++ .char '>' :: between ∧
      (instanceName (.text b) j).toList =
        between ++ .char '>' :: (instanceName (.text d) l).toList) ↔
    ∃ w : Text, c = joinedNames (instanceName (.text a) i) w ∧
      b = joinedNames (instanceName (.text w) k) d ∧ j = l := by
  simp only [toList_instanceName_eq_iff, Text.toList_inj, instanceName_eq_iff]
  constructor
  · rintro ⟨between, ⟨w, first, rfl⟩, rest, second, rfl, rfl⟩
    exact ⟨w, Text.toList_inj.mp (by rw [first, toList_joinedNames]),
      Text.toList_inj.mp (by rw [second, toList_joinedNames]), rfl⟩
  · rintro ⟨w, rfl, rfl, rfl⟩
    exact ⟨_, ⟨w, toList_joinedNames _ _, rfl⟩, d, toList_joinedNames _ _, rfl, rfl⟩

/-- Names of two instances each, with an arrow between them, are the same name where the instances
are the same, or where one of the names is parted at a later arrow than the other. -/
theorem joinedNames_eq_iff {a b c d : Text} {i j k l : Nat} :
    joinedNames (instanceName (.text a) i) (instanceName (.text b) j) =
        joinedNames (instanceName (.text c) k) (instanceName (.text d) l) ↔
      ((a = c ∧ i = k) ∧ b = d ∧ j = l) ∨
        (∃ w : Text, c = joinedNames (instanceName (.text a) i) w ∧
          b = joinedNames (instanceName (.text w) k) d ∧ j = l) ∨
        ∃ w : Text, a = joinedNames (instanceName (.text c) k) w ∧
          d = joinedNames (instanceName (.text w) i) b ∧ l = j := by
  rw [← Text.toList_inj, toList_joinedNames, toList_joinedNames, append_cons_eq_append_cons_iff,
    parts_later_iff, parts_later_iff, Text.toList_inj, Text.toList_inj, instanceName_eq_iff,
    instanceName_eq_iff]

/-! ### Edges of an expansion -/

namespace Expansion

/-- The ends of two edges whose names are one text that can be parted at two arrows.  The text runs
from an instance of `a` over one of `w` to one of `d`.  The first edge takes the first arrow, to a
component whose name holds the second one; the second edge takes the second arrow, from a component
whose name holds the first one.  No component needs to have the name `w`. -/
def Overlap (t : Topology) (ends others : Value × Value) : Prop :=
  ∃ (a w d : Text) (i k j : Nat),
    let early := joinedNames (instanceName (.text a) i) w
    let late := joinedNames (instanceName (.text w) k) d
    (∀ s ∈ [a, early, late, d], .text s ∈ t.componentNames) ∧
      ends = (.text (instanceName (.text a) i), .text (instanceName (.text late) j)) ∧
      others = (.text (instanceName (.text early) k), .text (instanceName (.text d) j))

variable {t : Topology} {key : Option Value} {labels : Labels} {g : Graph}

/-- The ends of edges between instances of declared components overlap where the name of the first
edge is parted at a later arrow to get that of the second one. -/
theorem overlap_iff {a b c d : Text} {i j k l : Nat}
    (declared : ∀ s ∈ [a, b, c, d], .text s ∈ t.componentNames) :
    Overlap t (.text (instanceName (.text a) i), .text (instanceName (.text b) j))
        (.text (instanceName (.text c) k), .text (instanceName (.text d) l)) ↔
      ∃ w : Text, c = joinedNames (instanceName (.text a) i) w ∧
        b = joinedNames (instanceName (.text w) k) d ∧ j = l := by
  simp only [Overlap, Prod.mk.injEq, Value.text.injEq, instanceName_eq_iff]
  constructor
  · rintro ⟨_, w, _, _, _, _, -, ⟨⟨rfl, rfl⟩, late, rfl⟩, ⟨early, rfl⟩, rfl, rfl⟩
    exact ⟨w, early, late, rfl⟩
  · rintro ⟨w, rfl, rfl, rfl⟩
    refine ⟨a, w, d, i, k, j, fun s member => declared s ?_, ⟨⟨rfl, rfl⟩, rfl, rfl⟩, ⟨rfl, rfl⟩,
      rfl, rfl⟩
    simp only [List.mem_cons, List.not_mem_nil, or_false] at member ⊢
    tauto

/-- Edges with ends that overlap leave different instances. -/
theorem Overlap.src_ne {ends others : Value × Value} (overlap : Overlap t ends others) :
    ends.1 ≠ others.1 := by
  obtain ⟨a, w, d, i, k, j, -, rfl, rfl⟩ := overlap
  intro same
  have names := (instanceName_inj (Value.text.inj same)).1
  have lengths := congrArg (·.toList.length) names
  simp only [toList_joinedNames, toList_instanceName, Value.plain_text, List.length_append,
    List.length_cons] at lengths
  omega

/-- Edges go between instances of components. -/
theorem exists_instances_of_mem (built : (expand t key labels).outcome = .ok g) {e : Edge}
    (member : e ∈ g.edgeList) : ∃ (a b : Text) (i j : Nat),
      .text a ∈ t.componentNames ∧ .text b ∈ t.componentNames ∧
      e.src = .text (instanceName (.text a) i) ∧ e.dest = .text (instanceName (.text b) j) := by
  obtain ⟨valid, -, parallelism, read, -⟩ := names_of_expand built
  have inside : (e.src, e.dest) ∈ g.ends := List.mem_map_of_mem member
  rw [ends_of_expand built read] at inside
  obtain ⟨bolt, declared, ofBolt⟩ := List.mem_flatMap.mp inside
  obtain ⟨input, -, ofInput⟩ := List.mem_flatMap.mp ofBolt
  obtain ⟨source, resolved, ofSource⟩ := List.mem_flatMap.mp ofInput
  obtain ⟨fromSource, toBolt⟩ := List.pair_mem_product.mp ofSource
  obtain ⟨i, -, src⟩ := List.mem_map.mp fromSource
  obtain ⟨j, -, dest⟩ := List.mem_map.mp toBolt
  have sourceDeclared := (Topology.mem_of_resolve?_eq_some (Option.mem_toList.mp resolved)).1
  have boltDeclared := Topology.bolt_mem_components declared
  obtain ⟨a, aNamed⟩ := Topology.exists_name_eq_text valid sourceDeclared
  obtain ⟨b, bNamed⟩ := Topology.exists_name_eq_text valid boltDeclared
  refine ⟨a, b, i, j, ?_, ?_, ?_, ?_⟩
  · rw [← aNamed]
    exact Topology.name_mem_componentNames sourceDeclared
  · rw [← bNamed]
    exact Topology.name_mem_componentNames boltDeclared
  · rw [← src, aNamed]
  · rw [← dest, bNamed]

/-- There is an edge for each pair of ends that is declared. -/
theorem exists_edge_of_declared {parallelism : Component → Nat}
    (built : (expand t key labels).outcome = .ok g)
    (read : ∀ c ∈ t.components, parallelismOf c (t.effectiveKey key) = .ok (parallelism c))
    {ends : Text × Text}
    (declared : ends ∈ (declaredEnds t parallelism).map fun pair => (pair.1.plain, pair.2.plain)) :
    ∃ e ∈ g.edgeList, e.src = .text ends.1 ∧ e.dest = .text ends.2 := by
  rw [← ends_of_expand built read, Graph.ends, List.map_map] at declared
  obtain ⟨e, member, rfl⟩ := List.mem_map.mp declared
  obtain ⟨a, b, i, j, -, -, src, dest⟩ := exists_instances_of_mem built member
  refine ⟨e, member, ?_, ?_⟩
  · rw [Function.comp_apply, src, Value.plain_text]
  · rw [Function.comp_apply, dest, Value.plain_text]

/-- Where all that a topology declares is there, it is expanded, with the edges that it declares. -/
theorem exists_expand_edges {t : Topology} {title : Text} (parallelism : Component → Nat)
    (valid : t.validate = .ok ()) (titled : t.name.asPlain = .ok title)
    (read : ∀ c ∈ t.components,
      (parallelismOf c (t.effectiveKey none)).toOption = some (parallelism c))
    (resolved : ∀ bolt ∈ t.bolts, ∀ input ∈ bolt.inputs, (t.resolve? input.component).isSome) :
    ∃ g, (expand t none).outcome = .ok g ∧
      ∀ ends ∈ (declaredEnds t parallelism).map (fun pair => (pair.1.plain, pair.2.plain)),
        ∃ e ∈ g.edgeList, e.src = .text ends.1 ∧ e.dest = .text ends.2 := by
  have readable := fun c member => toOption_eq_some.mp (read c member)
  obtain ⟨g, built⟩ :=
    exists_expand valid titled Labels.textual_none (plan_eq_ok readable {} resolved)
  exact ⟨g, built, fun ends => exists_edge_of_declared built readable⟩

/-- Edges of an expansion have one name where they are parallel, or where their ends overlap. -/
theorem name_eq_name_iff (built : (expand t key labels).outcome = .ok g) {e f : Edge}
    (first : e ∈ g.edgeList) (second : f ∈ g.edgeList) :
    e.name = f.name ↔ (e.src = f.src ∧ e.dest = f.dest) ∨
      Overlap t (e.src, e.dest) (f.src, f.dest) ∨ Overlap t (f.src, f.dest) (e.src, e.dest) := by
  obtain ⟨a, b, i, j, aDeclared, bDeclared, eSrc, eDest⟩ := exists_instances_of_mem built first
  obtain ⟨c, d, k, l, cDeclared, dDeclared, fSrc, fDest⟩ := exists_instances_of_mem built second
  rw [Edge.name_eq, Edge.name_eq, eSrc, eDest, fSrc, fDest, overlap_iff, overlap_iff]
  · simp only [Value.plain_text, joinedNames_eq_iff, Value.text.injEq, instanceName_eq_iff]
  · simp only [List.forall_mem_cons, List.not_mem_nil, false_implies, implies_true, and_true]
    exact ⟨cDeclared, dDeclared, aDeclared, bDeclared⟩
  · simp only [List.forall_mem_cons, List.not_mem_nil, false_implies, implies_true, and_true]
    exact ⟨aDeclared, bDeclared, cDeclared, dDeclared⟩

/-- Where no component has an arrow in its name, no ends overlap. -/
theorem not_overlap_of_arrowless
    (arrowless : ∀ s : Text, .text s ∈ t.componentNames → .char '>' ∉ s.toList)
    (ends others : Value × Value) : ¬ Overlap t ends others := by
  rintro ⟨a, w, d, i, k, j, declared, -, -⟩
  have early := arrowless _ (declared _ (List.mem_cons_of_mem a List.mem_cons_self))
  rw [toList_joinedNames] at early
  exact early (by simp)

/-! ### What else is text -/

theorem exists_weights_of_vertexOf {c : Component} {i : Nat} {v : Vertex}
    (made : vertexOf labels c i = .ok v) :
    ∃ added : List Text, v.weights = .list (added.map .text) := by
  simp only [vertexOf, Vertex.addWeights, bind_eq_ok] at made
  obtain ⟨items, -, added, -, ⟨⟩⟩ := made
  exact ⟨added, rfl⟩

/-- The labels of the vertices of what is built are texts. -/
theorem weights_build {key : Value} (built : Direct.build labels t key = .ok g) :
    ∀ v ∈ g.vertices, ∃ added : List Text, v.weights = .list (added.map .text) := by
  let Kept (state : Graph) : Prop :=
    ∀ v ∈ state.vertices, ∃ added : List Text, v.weights = .list (added.map .text)
  obtain ⟨middle, vertices, edges⟩ := bind_eq_ok.mp built
  have labelled : Kept middle := by
    refine foldlM_invariant (fun state c after _ kept step => ?_) (by simp [Kept, Graph.vertices])
      vertices
    obtain ⟨count, -, step⟩ := bind_eq_ok.mp step
    refine foldlM_invariant (fun state i after _ kept step => ?_) kept step
    obtain ⟨v, made, step⟩ := bind_eq_ok.mp step
    obtain ⟨key, -, isNew, rfl⟩ := Graph.addVertex_eq_ok.mp step
    show Kept _
    simp only [Kept, Graph.vertices_push, List.forall_mem_append, List.forall_mem_singleton]
    exact ⟨kept, exists_weights_of_vertexOf made⟩
  have unchanged : Kept g := by
    refine foldlM_invariant (fun state bolt after _ kept step => ?_) labelled edges
    have join {state next : Graph} {src dest : Value} {weights : List Text} (kept : Kept state)
        (joined : state.addEdge src dest weights = .ok next) : Kept next := by
      obtain ⟨i, j, -, -, rfl⟩ := Graph.addEdge_eq_ok.mp joined
      simpa only [Kept, Graph.vertices_join] using kept
    exact kept_addInputs join kept step
  exact unchanged

theorem exists_text_of_expand (built : (expand t key labels).outcome = .ok g) {v : Vertex}
    (member : v ∈ g.vertices) : ∃ s : Text, v.name = .text s := by
  obtain ⟨-, -, parallelism, -, names⟩ := names_of_expand built
  have named := List.mem_map_of_mem (f := (·.name)) member
  rw [names] at named
  obtain ⟨c, -, inside⟩ := List.mem_flatMap.mp named
  obtain ⟨i, -, same⟩ := List.mem_map.mp inside
  exact ⟨_, same.symm⟩

/-- The names and the labels in what an expansion returns are texts. -/
theorem lettered_of_expand (built : (expand t key labels).outcome = .ok g) :
    g.Lettered ∧ ∀ e ∈ g.edgeList, e.Textual := by
  have named := fun v => exists_text_of_expand built (v := v)
  rw [expand_outcome (validate_of_expand labels built), Direct.graph] at built
  simp only [bind_eq_ok] at built
  obtain ⟨bare, returned, counts, -, title, -, same⟩ := built
  have canonical : bare.Canonical := by
    refine kept_build ?_ ?_ (.empty t.name []) returned
    · exact fun kept added => Graph.Canonical.invariant.addVertex kept added
    · exact fun kept added => Graph.Canonical.invariant.addEdge kept added
  have weights := weights_build returned
  cases same
  exact ⟨⟨named, weights⟩, canonical.textual⟩

end Expansion

end TaskGraph
