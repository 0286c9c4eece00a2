/-
Module: TaskGraph.Proofs.Expansion.Instances
Purpose: The instances of a component are found again by the names of the vertices: the last dash
  of a name parts the component from the number, whatever the components are called.
Main exports:
  Graph.isInstanceOf_instanceName, Graph.Consistent.verticesOf_eq_ok, Expansion.labels_build,
  verticesOf_of_expand
-/
import TaskGraph.Proofs.Expansion.Loaded
import TaskGraph.Proofs.Graph.Canonical

namespace TaskGraph

/-! ### Names of instances -/

namespace Graph

/-- A name is that of an instance if digits follow the component and a dash. -/
theorem isInstanceOf_iff {component name : Text} :
    isInstanceOf component name = true ↔ ∃ digits, Text.isNumeral digits = true ∧
      name.toList = component.toList ++ .char '-' :: digits := by
  rw [isInstanceOf, Bool.and_eq_true, List.isPrefixOf_iff_prefix]
  constructor
  · intro reads
    obtain ⟨⟨digits, split⟩, numeral⟩ := reads
    rw [← split, List.drop_left] at numeral
    exact ⟨digits, numeral, by rw [← split]; simp⟩
  · intro split
    obtain ⟨digits, numeral, split⟩ := split
    have parted : name.toList = (component.toList ++ [.char '-']) ++ digits := by
      rw [split]
      simp
    rw [parted, List.drop_left]
    exact ⟨List.prefix_append _ _, numeral⟩

/-- There is no dash among digits of any kind. -/
theorem not_mem_of_isNumeral {digits : List Symbol} (numeral : Text.isNumeral digits = true) :
    Symbol.char '-' ∉ digits := by
  rw [Text.isNumeral, Bool.and_eq_true, List.all_eq_true] at numeral
  intro member
  exact absurd (numeral.2 _ member) (by decide +kernel)

/-- The name of an instance is that of an instance of its own component and of no other, also
where one component's name is another one's with a dash and digits after it. -/
theorem isInstanceOf_instanceName {component other : Text} {i : Nat} :
    isInstanceOf component (instanceName (.text other) i) = true ↔ component = other := by
  rw [isInstanceOf_iff, toList_instanceName, Value.plain_text]
  constructor
  · intro split
    obtain ⟨digits, numeral, same⟩ := split
    obtain ⟨names, -⟩ :=
      append_cons_inj_of_not_mem (not_mem_digits i) (not_mem_of_isNumeral numeral) same
    cases component
    cases other
    exact congrArg Text.ofList names.symm
  · intro same
    subst same
    exact ⟨_, (Text.Writes.digitsOf i).isNumeral, rfl⟩

/-- Where all names are texts, the vertices of a component are those with names of its
instances. -/
theorem Consistent.verticesOf_eq_ok {g : Graph} (consistent : g.Consistent)
    (texts : ∀ v ∈ g.vertices, ∃ s, v.name = .text s) (component : Text) :
    g.verticesOf component =
      .ok (g.vertices.filter fun v => isInstanceOf component v.name.plain) := by
  refine bind_eq_ok.mpr ⟨g.nodes.toList.map fun node =>
    if isInstanceOf component node.vertex.name.plain then some node.vertex else none,
    mapM_eq_ok_map fun node member => ?_, ?_⟩
  · obtain ⟨place, held⟩ := List.getElem?_of_mem member
    have labelled := (consistent.node place node (by simpa using held)).label
    obtain ⟨s, named⟩ := texts node.vertex (List.mem_map.mpr ⟨node, member, rfl⟩)
    rw [labelled, named, Value.plain_text]
  · rw [vertices, ← List.filterMap_eq_filter, List.filterMap_map, List.filterMap_map]
    refine congrArg Except.ok (List.filterMap_congr fun node _ => ?_)
    simp only [Function.comp_apply, id_eq, Option.guard]

end Graph

/-! ### Names in an expansion -/

open TaskGraph.Graph

namespace Expansion

/-- The names of a number of instances of a component. -/
def instanceNames (c : Component) (count : Nat) : List Value :=
  (instances count).map fun i => .text (instanceName c.name i)

/-- Of the names of the instances of a component, all are names of its instances, and none is that
of an instance of another one. -/
theorem filter_instanceNames {c : Component} {s : Text} (named : c.name = .text s) (count : Nat)
    (component : Text) :
    (instanceNames c count).filter (fun name => isInstanceOf component name.plain) =
      if component = s then instanceNames c count else [] := by
  split
  · rename_i same
    subst same
    rw [List.filter_eq_self]
    intro name member
    obtain ⟨i, -, rfl⟩ := List.mem_map.mp member
    rw [named]
    exact isInstanceOf_instanceName.mpr rfl
  · rename_i other
    rw [List.filter_eq_nil_iff]
    intro name member
    obtain ⟨i, -, rfl⟩ := List.mem_map.mp member
    rw [named]
    exact fun found => other (isInstanceOf_instanceName.mp found)

variable {t : Topology} {labels : Labels} {key : Value} {g : Graph}

theorem name_vertexOf {c : Component} {i : Nat} {v : Vertex}
    (made : vertexOf labels c i = .ok v) : v.name = .text (instanceName c.name i) := by
  simp only [vertexOf, Vertex.addWeights, bind_eq_ok] at made
  obtain ⟨items, -, added, -, ⟨⟩⟩ := made
  rfl

/-- A component adds the names of its instances. -/
theorem labels_addComponent {next : Graph} {c : Component} {count : Nat}
    (read : parallelismOf c key = .ok count)
    (added : Direct.addComponent labels key g c = .ok next) :
    next.labels = g.labels ++ instanceNames c count := by
  rw [Direct.addComponent, read, ok_bind, addInstances] at added
  rw [instanceNames, List.map_eq_flatMap]
  refine foldlM_appends (fun i _ state after step => ?_) added
  obtain ⟨v, made, step⟩ := bind_eq_ok.mp step
  obtain ⟨key, keyed, isNew, rfl⟩ := addVertex_eq_ok.mp step
  rw [labels_push, name_vertexOf made]

/-- Inputs add no names. -/
theorem labels_addInputs {next : Graph} {bolt : Bolt}
    (added : Direct.addInputs labels t key g bolt = .ok next) : next.labels = g.labels := by
  let Kept (state : Graph) : Prop := state.labels = g.labels
  have unchanged : Kept next := by
    refine kept_addInputs ?_ rfl added
    intro state after src dest weights kept joined
    obtain ⟨i, j, -, -, rfl⟩ := addEdge_eq_ok.mp joined
    exact (labels_join state i j _).trans kept
  exact unchanged

/-- What is built has the names of the instances of all components, one component after the
other. -/
theorem labels_build {parallelism : Component → Nat}
    (read : ∀ c ∈ t.components, parallelismOf c key = .ok (parallelism c))
    (built : Direct.build labels t key = .ok g) :
    g.labels = t.components.flatMap fun c => instanceNames c (parallelism c) := by
  obtain ⟨middle, vertices, edges⟩ := bind_eq_ok.mp built
  have named := foldlM_appends (fun c member state next step =>
    labels_addComponent (read c member) step) vertices
  let Kept (state : Graph) : Prop := state.labels = middle.labels
  have unchanged : Kept g := by
    refine foldlM_invariant ?_ rfl edges
    exact fun state bolt next _ kept step => (labels_addInputs step).trans kept
  exact unchanged.trans named

/-- What an expansion returns has the names of the instances of all components, as many of each as
its parallelism says. -/
theorem names_of_expand {key : Option Value} (built : (expand t key labels).outcome = .ok g) :
    t.validate = .ok () ∧ g.Consistent ∧ ∃ parallelism : Component → Nat,
      (∀ c ∈ t.components, parallelismOf c (t.effectiveKey key) = .ok (parallelism c)) ∧
      g.vertices.map (·.name) =
        t.components.flatMap fun c => instanceNames c (parallelism c) := by
  have valid := validate_of_expand labels built
  rw [expand_outcome valid, Direct.graph] at built
  simp only [bind_eq_ok] at built
  obtain ⟨bare, returned, counts, gathered, title, -, ⟨⟩⟩ := built
  have consistent := consistent_build returned
  have read : ∀ c ∈ t.components, parallelismOf c (t.effectiveKey key) =
      .ok ((parallelismOf c (t.effectiveKey key)).toOption.getD 0) := by
    intro c member
    obtain ⟨entry, -, found⟩ := exists_of_mapM_eq_ok gathered member
    obtain ⟨n, readable, -⟩ := map_eq_ok.mp found
    rw [readable]
    rfl
  refine ⟨valid, ⟨⟨consistent.sound.vertex, consistent.sound.link⟩, consistent.node⟩, _, read, ?_⟩
  exact consistent.labels_eq.symm.trans (labels_build read returned)

section Filtering

variable (valid : t.validate = .ok ()) (parallelism : Component → Nat)

include valid

/-- Of all names of instances, those of the instances of a component are kept. -/
theorem filter_names_of_mem {c : Component} (member : c ∈ t.components) {s : Text}
    (named : c.name = .text s) :
    (t.components.flatMap fun d => instanceNames d (parallelism d)).filter
        (fun name => isInstanceOf s name.plain) = instanceNames c (parallelism c) := by
  have other : ∀ d ∈ t.components, d ≠ c →
      (instanceNames d (parallelism d)).filter (fun name => isInstanceOf s name.plain) = [] := by
    intro d inside different
    obtain ⟨u, dNamed⟩ := Topology.exists_name_eq_text valid inside
    rw [filter_instanceNames dNamed, if_neg]
    intro same
    exact different (Topology.eq_of_name_eq valid inside member (by rw [dNamed, named, same]))
  have distinct : t.components.Nodup := .of_map _ (Topology.nodup_names valid)
  obtain ⟨before, after, split⟩ := List.append_of_mem member
  rw [split] at distinct other ⊢
  obtain ⟨-, isFirst, apart⟩ := List.nodup_append'.mp distinct
  have earlier : before.flatMap (fun d => (instanceNames d (parallelism d)).filter
      fun name => isInstanceOf s name.plain) = [] :=
    List.flatMap_eq_nil_iff.mpr fun d inside => other d (by simp [inside]) fun same =>
      apart inside (by simp [same])
  have later : after.flatMap (fun d => (instanceNames d (parallelism d)).filter
      fun name => isInstanceOf s name.plain) = [] :=
    List.flatMap_eq_nil_iff.mpr fun d inside => other d (by simp [inside]) fun same =>
      (List.nodup_cons.mp isFirst).1 (same ▸ inside)
  rw [List.filter_flatMap, List.flatMap_append, List.flatMap_cons, earlier, later,
    filter_instanceNames named, if_pos rfl, List.nil_append, List.append_nil]

/-- None of the names of instances is kept for a text that is the name of no component. -/
theorem filter_names_of_not_mem {s : Text} (absent : .text s ∉ t.componentNames) :
    (t.components.flatMap fun d => instanceNames d (parallelism d)).filter
        (fun name => isInstanceOf s name.plain) = [] := by
  rw [List.filter_flatMap, List.flatMap_eq_nil_iff]
  intro d inside
  obtain ⟨u, named⟩ := Topology.exists_name_eq_text valid inside
  rw [filter_instanceNames named, if_neg]
  intro same
  exact absent (by rw [same, ← named]; exact Topology.name_mem_componentNames inside)

end Filtering

end Expansion

open Expansion in
/-- In what an expansion returns, the vertices of a component are its instances, in the order of
their numbers, a text that is the name of no component has no vertices, and every vertex is among
those of exactly one component. -/
theorem verticesOf_of_expand {t : Topology} {key : Option Value} {labels : Labels} {g : Graph}
    (built : (expand t key labels).outcome = .ok g) :
    (∀ c ∈ t.components, ∃ s n vs, c.name = .text s ∧
      parallelismOf c (t.effectiveKey key) = .ok n ∧ g.verticesOf s = .ok vs ∧
      vs.Sublist g.vertices ∧
      vs.map (·.name) = (instances n).map fun i => .text (instanceName c.name i)) ∧
    (∀ s, .text s ∉ t.componentNames → g.verticesOf s = .ok []) ∧
    ∀ v ∈ g.vertices, ∃! c, c ∈ t.components ∧
      ∃ s vs, c.name = .text s ∧ g.verticesOf s = .ok vs ∧ v ∈ vs := by
  obtain ⟨valid, consistent, parallelism, read, names⟩ := names_of_expand built
  have ofComponent : ∀ v ∈ g.vertices, ∃ c ∈ t.components, ∃ s i,
      c.name = .text s ∧ v.name = .text (instanceName (.text s) i) := by
    intro v member
    have inside := List.mem_map_of_mem (f := (·.name)) member
    rw [names, List.mem_flatMap] at inside
    obtain ⟨c, declared, inside⟩ := inside
    obtain ⟨i, -, same⟩ := List.mem_map.mp inside
    obtain ⟨s, named⟩ := Topology.exists_name_eq_text valid declared
    exact ⟨c, declared, s, i, named, by rw [← same, named]⟩
  have lookedUp := consistent.verticesOf_eq_ok fun v member => by
    obtain ⟨-, -, s, i, -, named⟩ := ofComponent v member
    exact ⟨_, named⟩
  have filtered : ∀ s, (g.vertices.filter fun v => isInstanceOf s v.name.plain).map (·.name) =
      (t.components.flatMap fun c => instanceNames c (parallelism c)).filter
        fun name => isInstanceOf s name.plain := by
    intro s
    rw [← names, List.filter_map]
    rfl
  refine ⟨fun c declared => ?_, fun s absent => ?_, fun v member => ?_⟩
  · obtain ⟨s, named⟩ := Topology.exists_name_eq_text valid declared
    refine ⟨s, _, _, named, read c declared, lookedUp s, List.filter_sublist, ?_⟩
    rw [filtered, filter_names_of_mem valid parallelism declared named, instanceNames]
  · rw [lookedUp, List.map_eq_nil_iff.mp
      ((filtered s).trans (filter_names_of_not_mem valid parallelism absent))]
  · obtain ⟨c, declared, s, i, named, vNamed⟩ := ofComponent v member
    have found : ∀ u, v ∈ g.vertices.filter (fun v => isInstanceOf u v.name.plain) ↔ u = s := by
      intro u
      rw [List.mem_filter, vNamed, Value.plain_text, isInstanceOf_instanceName]
      exact and_iff_right member
    refine ⟨c, ⟨declared, s, _, named, lookedUp s, (found s).mpr rfl⟩, ?_⟩
    rintro d ⟨other, u, vs, dNamed, returned, listed⟩
    cases (lookedUp u).symm.trans returned
    exact Topology.eq_of_name_eq valid other declared (by rw [dNamed, (found u).mp listed, named])

/-- Components whose names are easily mistaken: none at all, one that looks like an instance of
another one, and one with a digit of another script after its dash. -/
def lookalikes : Topology where
  spouts :=
    [{ name := .text "", config := [.entry (.text defaultParallelismKey) (.text "1")] },
     { name := .text "a", config := [.entry (.text defaultParallelismKey) (.text "2")] }]
  bolts :=
    [{ name := .text "a-1"
       config := [.entry (.text defaultParallelismKey) (.text "1")]
       inputs := [{ component := .text "a" }] },
     { name := .text "a-٢", config := [.entry (.text defaultParallelismKey) (.text "1")] }]

theorem verticesOf_lookalikes :
    ∃ g, (expand lookalikes none).outcome = .ok g ∧
      (∃ vs, g.verticesOf "a" = .ok vs ∧ vs.map (·.name) = [.text "a-1", .text "a-2"]) ∧
      g.verticesOf "a-1-1" = .ok [] := by
  have read : ∀ c ∈ lookalikes.components, parallelismOf c (lookalikes.effectiveKey none) =
      .ok (if c.name.plain = "a" then 2 else 1) := by
    intro c member
    apply toOption_eq_some.mp
    revert c
    decide +kernel
  obtain ⟨g, built⟩ : ∃ g, (expand lookalikes none).outcome = .ok g :=
    Expansion.exists_expand rfl rfl Labels.textual_none
      (Expansion.plan_eq_ok read {} (by decide +kernel))
  obtain ⟨found, absent, -⟩ := verticesOf_of_expand built
  have member : .spout lookalikes.spouts[1] ∈ lookalikes.components :=
    List.mem_append_left _ (List.mem_map_of_mem (List.getElem_mem _))
  obtain ⟨s, n, vs, named, readable, returned, -, names⟩ := found _ member
  cases named
  cases (read _ member).symm.trans readable
  have others : Text.ofString "a-1-1" ∉ lookalikes.componentNames.map Value.plain := by
    decide +kernel
  exact ⟨g, built, ⟨vs, returned, names⟩, absent _ fun declared =>
    others (List.mem_map_of_mem declared)⟩

end TaskGraph
