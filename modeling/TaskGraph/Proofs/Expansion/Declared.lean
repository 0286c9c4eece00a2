/-
Module: TaskGraph.Proofs.Expansion.Declared
Purpose: An expansion is what the topology declares: instances in the order of the components,
  for every input the edges between all instances, and numbers that count through.
Main exports:
  Expansion.declaredVertices, Expansion.declaredEdges, expand_declared
-/
import TaskGraph.Proofs.Expansion.Planned

namespace TaskGraph

/-! ### Mappings that are written in order -/

namespace Value.Entries

theorem foldl_insert {done written : List (Value × Value)}
    (distinct : (done ++ written).Pairwise fun a b => a.1.same b.1 = false) :
    written.foldl (fun entries entry => Entries.insert entries entry.1 entry.2) done =
      done ++ written := by
  induction written generalizing done with
  | nil => simp
  | cons entry rest inductionHypothesis =>
      have isNew : ∀ other ∈ done, other.1.same entry.1 = false := by
        intro other member
        exact (List.pairwise_append.mp distinct).2.2 other member entry (by simp)
      have regrouped : done ++ entry :: rest = done ++ [entry] ++ rest := by simp
      rw [regrouped] at distinct ⊢
      rw [List.foldl_cons, insert_of_new entry.2 isNew]
      exact inductionHypothesis distinct

/-- Entries under different keys keep the order in which they were written. -/
theorem ofList_eq_self {written : List (Value × Value)}
    (distinct : written.Pairwise fun a b => a.1.same b.1 = false) : ofList written = written :=
  foldl_insert (by simpa using distinct)

end Value.Entries

/-- What follows a part of a nested list is found after as many items as the part has. -/
theorem getElem?_flatMap_of_split {α β : Type} {f : α → List β} {size : α → Nat}
    (sized : ∀ a, (f a).length = size a) {xs before after : List α} {x : α}
    (split : xs = before ++ x :: after) {i : Nat} (within : i < size x) :
    (xs.flatMap f)[(before.map size).sum + i]? = (f x)[i]? := by
  have skipped : (before.flatMap f).length = (before.map size).sum := by
    simp only [List.length_flatMap, sized]
  rw [split, List.flatMap_append, List.flatMap_cons, ← skipped,
    List.getElem?_append_right (Nat.le_add_right _ _), Nat.add_sub_cancel_left,
    List.getElem?_append_left (by rw [sized]; exact within)]

namespace Expansion

/-! ### What a topology declares -/

/-- The vertices that a topology declares, where the parallelism of each component is given. -/
def declaredVertices (labels : Labels) (t : Topology) (parallelism : Component → Nat) :
    List Vertex :=
  t.components.flatMap fun c => instanceVertices labels c (parallelism c)

/-- The edges that a topology declares. -/
def declaredEdges (labels : Labels) (t : Topology) (parallelism : Component → Nat) : List Edge :=
  t.bolts.flatMap fun bolt => bolt.inputs.flatMap fun input =>
    (t.resolve? input.component).toList.flatMap fun source =>
      linkEdges labels input source (.bolt bolt) (parallelism source) (parallelism (.bolt bolt))

theorem length_instanceVertices (labels : Labels) (c : Component) (n : Nat) :
    (instanceVertices labels c n).length = n := by
  simp [instanceVertices, instances]

theorem getElem?_instanceVertices (labels : Labels) (c : Component) {n i : Nat} (within : i < n) :
    (instanceVertices labels c n)[i]? = some (instanceVertex labels c (1 + i)) := by
  simp [instanceVertices, instances, List.getElem?_range' within]

section Readable

variable {t : Topology} {key : Value} {parallelism : Component → Nat}
  (read : ∀ c ∈ t.components, parallelismOf c key = .ok (parallelism c))

include read

theorem plannedEdges_eq_ok (labels : Labels) {bolt : Bolt} (member : bolt ∈ t.bolts)
    (resolved : ∀ input ∈ bolt.inputs, (t.resolve? input.component).isSome) :
    plannedEdges labels t key bolt = .ok (bolt.inputs.flatMap fun input =>
      (t.resolve? input.component).toList.flatMap fun source =>
        linkEdges labels input source (.bolt bolt) (parallelism source)
          (parallelism (.bolt bolt))) := by
  have each : ∀ input ∈ bolt.inputs,
      plannedLinks labels t key bolt (parallelism (.bolt bolt)) input =
        .ok ((t.resolve? input.component).toList.flatMap fun source =>
          linkEdges labels input source (.bolt bolt) (parallelism source)
            (parallelism (.bolt bolt))) := by
    intro input inside
    obtain ⟨source, found⟩ := Option.isSome_iff_exists.mp (resolved input inside)
    have readSource := read source (Topology.mem_of_resolve?_eq_some found).1
    simp [plannedLinks, found, readSource, Except.map]
  unfold plannedEdges
  rw [read _ (Topology.bolt_mem_components member), ok_bind, mapM_eq_ok_map each, ok_bind,
    List.flatMap_def]

/-- Where every parallelism can be read and every input is there, what is planned is what is
declared. -/
theorem plan_eq_ok (labels : Labels)
    (resolved : ∀ bolt ∈ t.bolts, ∀ input ∈ bolt.inputs, (t.resolve? input.component).isSome) :
    plan labels t key =
      .ok (declaredVertices labels t parallelism, declaredEdges labels t parallelism) := by
  have vertices : t.components.mapM (plannedVertices labels key) =
      .ok (t.components.map fun c => instanceVertices labels c (parallelism c)) := by
    apply mapM_eq_ok_map
    intro c member
    rw [plannedVertices, read c member]
    rfl
  have edges := mapM_eq_ok_map fun bolt member =>
    plannedEdges_eq_ok read labels member (resolved bolt member)
  unfold plan
  rw [vertices, ok_bind, edges, ok_bind]
  rfl

end Readable

/-- Where a plan succeeds, every parallelism can be read and every input is there. -/
theorem exists_parallelism {labels : Labels} {t : Topology} {key : Value}
    {planned : List Vertex × List Edge} (run : plan labels t key = .ok planned) :
    ∃ parallelism : Component → Nat,
      (∀ c ∈ t.components, parallelismOf c key = .ok (parallelism c)) ∧
      ∀ bolt ∈ t.bolts, ∀ input ∈ bolt.inputs, (t.resolve? input.component).isSome := by
  simp only [plan, bind_eq_ok] at run
  obtain ⟨blocks, vertices, bundles, edges, -⟩ := run
  refine ⟨fun c => (parallelismOf c key).toOption.getD 0, fun c member => ?_, ?_⟩
  · obtain ⟨block, -, planned⟩ := exists_of_mapM_eq_ok vertices member
    obtain ⟨n, read, -⟩ := map_eq_ok.mp planned
    simp [read, Except.toOption]
  · intro bolt member input inside
    obtain ⟨bundle, -, planned⟩ := exists_of_mapM_eq_ok edges member
    simp only [plannedEdges, bind_eq_ok] at planned
    obtain ⟨_, -, links, each, -⟩ := planned
    obtain ⟨link, -, planned⟩ := exists_of_mapM_eq_ok each inside
    unfold plannedLinks at planned
    cases resolved : t.resolve? input.component with
    | none =>
        rw [resolved] at planned
        cases planned
    | some source => rfl

/-- The instances are numbered through, component after component. -/
theorem indexOf_instance {labels : Labels} {t : Topology} {parallelism : Component → Nat}
    {g : Graph} {es : List Edge} (holds : g.Holds (declaredVertices labels t parallelism) es)
    {before after : List Component} {c : Component} (split : t.components = before ++ c :: after)
    {i : Nat} (number : i ∈ instances (parallelism c)) :
    g.indexOf (.text (instanceName c.name i)) = .ok ((before.map parallelism).sum + i) := by
  obtain ⟨j, within, rfl⟩ := List.mem_range'.mp number
  have found : g.vertices[(before.map parallelism).sum + j]? =
      some (instanceVertex labels c (1 + j)) := by
    rw [holds.vertices, declaredVertices, getElem?_flatMap_of_split
      (fun d => length_instanceVertices labels d (parallelism d)) split within,
      getElem?_instanceVertices labels c within]
  have index := Graph.indexOf_eq_ok (holds.sound.vertex _ _ found)
  simp only [Nat.one_mul]
  rw [Nat.add_comm 1 j] at index ⊢
  exact index

/-- The components of a valid topology are under different keys, in their order. -/
theorem metadataOf_eq {t : Topology} (valid : t.validate = .ok ())
    (parallelism : Component → Nat) :
    metadataOf t (t.components.map fun c => (c.name, parallelism c)) =
      [(.text "topology", t.name),
       (.text "parallelism", .map (t.components.map fun c => (c.name, .int (parallelism c))))] := by
  have distinct : (t.components.map fun c => (c.name, Value.int (parallelism c))).Pairwise
      fun a b => a.1.same b.1 = false := by
    rw [List.pairwise_map]
    apply (List.pairwise_map.mp (Topology.nodup_names valid)).imp_of_mem
    intro c d first second different
    obtain ⟨s, cNamed⟩ := Topology.exists_name_eq_text valid first
    obtain ⟨u, dNamed⟩ := Topology.exists_name_eq_text valid second
    rw [cNamed, dNamed] at different ⊢
    simpa [Value.same] using different
  simp only [metadataOf, List.map_map, Function.comp_def]
  rw [Value.Entries.ofList_eq_self distinct]

/-- What is expanded is valid, and has what it declares. -/
theorem holds_of_expand {t : Topology} {key : Option Value} {labels : Labels} {g : Graph}
    (textual : labels.Textual) (built : (expand t key labels).outcome = .ok g) :
    t.validate = .ok () ∧ ∃ parallelism : Component → Nat,
      (∀ c ∈ t.components, parallelismOf c (t.effectiveKey key) = .ok (parallelism c)) ∧
      (∀ bolt ∈ t.bolts, ∀ input ∈ bolt.inputs, (t.resolve? input.component).isSome) ∧
      g.Holds (declaredVertices labels t parallelism) (declaredEdges labels t parallelism) := by
  have valid := validate_of_expand labels built
  rw [expand_outcome valid, Direct.graph] at built
  simp only [bind_eq_ok] at built
  obtain ⟨bare, returned, parallelism, -, title, -, ⟨⟩⟩ := built
  have alike := build_alike valid textual (t.effectiveKey key)
  rw [returned] at alike
  obtain ⟨planned, run, holds⟩ := alike.exists_right
  obtain ⟨counts, read, resolved⟩ := exists_parallelism run
  rw [plan_eq_ok read labels resolved] at run
  cases run
  exact ⟨valid, counts, read, resolved, holds.withMetadata _⟩

end Expansion

open Expansion in
/-- The expansion of a valid topology whose inputs are all there is what it declares. -/
theorem expand_declared {t : Topology} {key : Option Value} {labels : Labels}
    {parallelism : Component → Nat} {title : Text} (valid : t.validate = .ok ())
    (titled : t.name.asPlain = .ok title) (textual : labels.Textual)
    (read : ∀ c ∈ t.components, parallelismOf c (t.effectiveKey key) = .ok (parallelism c))
    (resolved : ∀ bolt ∈ t.bolts, ∀ input ∈ bolt.inputs, (t.resolve? input.component).isSome) :
    ∃ g, (expand t key labels).outcome = .ok g ∧
      g.vertices = declaredVertices labels t parallelism ∧
      g.edgeList = declaredEdges labels t parallelism ∧
      (∀ before c after, t.components = before ++ c :: after → ∀ i ∈ instances (parallelism c),
        g.indexOf (.text (instanceName c.name i)) = .ok ((before.map parallelism).sum + i)) ∧
      g.metadata = [(.text "topology", t.name),
        (.text "parallelism",
          .map (t.components.map fun c => (c.name, .int (parallelism c))))] ∧
      (t.components.map parallelism).sum = g.vertexCount := by
  have built := build_alike valid textual (t.effectiveKey key)
  rw [plan_eq_ok read labels resolved] at built
  obtain ⟨g, returned, holds⟩ := built.exists_of_ok
  have gathered : (t.components.mapM fun c =>
      (parallelismOf c (t.effectiveKey key)).map fun n => (c.name, n)) =
        .ok (t.components.map fun c => (c.name, parallelism c)) := by
    apply mapM_eq_ok_map
    intro c member
    rw [read c member]
    rfl
  have final := holds.withMetadata (metadataOf t (t.components.map fun c =>
    (c.name, parallelism c)))
  refine ⟨_, ?_, final.vertices, final.edges, ?_, metadataOf_eq valid parallelism, ?_⟩
  · rw [expand_outcome valid labels, Direct.graph, returned, ok_bind, gathered, ok_bind, titled]
    rfl
  · intro before c after split i number
    exact indexOf_instance final split number
  · rw [final.vertexCount_eq, declaredVertices, List.length_flatMap]
    simp only [length_instanceVertices]

/-- A spout with two instances, and a bolt with three that reads it. -/
def relay : Topology where
  spouts :=
    [{ name := .text "reader", config := [.entry (.text defaultParallelismKey) (.text "2")] }]
  bolts :=
    [{ name := .text "counter"
       config := [.entry (.text defaultParallelismKey) (.text "3")]
       inputs := [{ component := .text "reader" }] }]

/-- Labels for every instance and every edge. -/
def relayLabels : Labels where
  ofVertex _ _ := [.text "task"]
  ofEdge _ _ _ := [.text "tuple", .null]

theorem textual_relayLabels : relayLabels.Textual := by
  constructor
  · intro c i label member
    rw [List.mem_singleton.mp member]
    exact ⟨_, rfl⟩
  · intro input i j label member
    rcases List.mem_cons.mp member with rfl | last
    · exact ⟨_, rfl⟩
    · rw [List.mem_singleton.mp last]
      exact ⟨_, rfl⟩

theorem expand_declared_relay :
    relay.validate = .ok () ∧
      ∃ g, (expand relay none relayLabels).outcome = .ok g ∧
        g.vertices.map (·.name) =
          [.text "reader-1", .text "reader-2", .text "counter-1", .text "counter-2",
            .text "counter-3"] ∧
        g.edgeList.length = 6 ∧ g.indexOf (.text "counter-3") = .ok 5 := by
  have valid : relay.validate = .ok () := rfl
  have read : ∀ c ∈ relay.components, parallelismOf c (relay.effectiveKey none) =
      .ok (if c.kind = .spout then 2 else 3) := by
    intro c member
    apply toOption_eq_some.mp
    revert c
    decide +kernel
  obtain ⟨g, returned, vertices, edges, index, -, -⟩ :=
    expand_declared valid rfl textual_relayLabels read (by decide +kernel)
  refine ⟨valid, g, returned, ?_, ?_, ?_⟩
  · rw [vertices]
    rfl
  · rw [edges]
    decide +kernel
  · exact index _ _ [] rfl 3 (by decide)

end TaskGraph
