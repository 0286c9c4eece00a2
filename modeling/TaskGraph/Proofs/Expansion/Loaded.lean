/-
Module: TaskGraph.Proofs.Expansion.Loaded
Purpose: What comes of expanding a topology that was loaded: a graph of bare vertices and edges, or
  an error that a command reports.
Main exports:
  failsOnly_expand, Graph.Bare, bare_of_expand
-/
import TaskGraph.Proofs.Expansion.Printed
import TaskGraph.Proofs.Expansion.Violations
import TaskGraph.Proofs.Graph.Adjacency
import TaskGraph.Proofs.Topology.Shape

namespace TaskGraph

/-! ### Failures -/

/-- A topology whose settings are pairs has parts of the declared types. -/
theorem Topology.Written.typed {t : Topology} {title : Value} (written : t.Written title)
    (titled : t.name.HasText) : t.Typed where
  title := titled
  names _ member := exists_name_eq_text written.valid member
  settings c member := by
    rcases List.mem_append.mp member with spout | bolt
    · obtain ⟨s, inside, rfl⟩ := List.mem_map.mp spout
      exact written.spouts s inside
    · obtain ⟨b, inside, rfl⟩ := List.mem_map.mp bolt
      exact written.bolts b inside

theorem failsOnly_parallelismOf {c : Component} (paired : c.config.Paired) (key : Value) :
    FailsOnly Error.Reported (parallelismOf c key) := by
  rw [parallelismOf_eq paired]
  cases hinted : c.hint? key with
  | none => exact .ok 0
  | some raw =>
      dsimp only
      rw [readParallelism_eq (hasText_of_hint? paired hinted)]
      intro e failed
      split at failed
      · obtain ⟨fault, -, rfl⟩ := mapError_eq_error.mp failed
        rfl
      · cases failed
        rfl

namespace Expansion

variable {t : Topology}

theorem failsOnly_plannedLinks (typed : t.Typed) (labels : Labels) (key : Value) (bolt : Bolt)
    (boltCount : Nat) (input : InputStream) :
    FailsOnly Error.Reported (plannedLinks labels t key bolt boltCount input) := by
  unfold plannedLinks
  cases found : t.resolve? input.component with
  | none =>
      intro e failed
      cases failed
      rfl
  | some source =>
      rw [Topology.resolve?_eq_find?] at found
      exact .map (failsOnly_parallelismOf
        (typed.settings source (List.mem_of_find?_eq_some found)) key)

theorem failsOnly_plan (typed : t.Typed) (labels : Labels) (key : Value) :
    FailsOnly Error.Reported (plan labels t key) := by
  refine .bind (.mapM fun c member => ?_) fun _ _ => .bind (.mapM fun bolt member => ?_)
    fun _ _ => .ok _
  · exact .map (failsOnly_parallelismOf (typed.settings c member) key)
  · refine .bind (failsOnly_parallelismOf
      (typed.settings _ (Topology.bolt_mem_components member)) key) fun _ _ => ?_
    exact .bind (.mapM fun input _ => failsOnly_plannedLinks typed labels key bolt _ input)
      fun _ _ => .ok _

end Expansion

theorem reported_of_nameFault? {earlier : List Text} {name : Text} {e : Error}
    (fault : nameFault? earlier name = some e) : e.Reported := by
  unfold nameFault? at fault
  split at fault
  · cases fault
    rfl
  · split at fault
    · cases fault
      rfl
    · cases fault

/-- An expansion of a topology of the declared types fails only with errors that are reported. -/
theorem failsOnly_expand {t : Topology} (typed : t.Typed) (key : Option Value) :
    FailsOnly Error.Reported (expand t key).outcome := by
  intro e failed
  cases valid : t.validate with
  | error other =>
      rw [expand_outcome_of_invalid {} valid] at failed
      cases failed
      have first := Topology.faultOf?_validate typed.names
      rw [valid, faultOf?_error, eq_comm] at first
      obtain ⟨entry, -, fault⟩ := List.mem_filterMap.mp (List.mem_of_head? first)
      exact reported_of_nameFault? fault
  | ok _ =>
      rw [expand_outcome valid, ← faultOf?_eq_some,
        Expansion.faultOf?_graph valid Labels.textual_none typed.title, faultOf?_eq_some] at failed
      exact Expansion.failsOnly_plan typed {} _ e failed

/-! ### Graphs -/

namespace Expansion

variable {t : Topology} {labels : Labels} {key : Value} {Kept : Graph → Prop}
  (addVertex : ∀ {g next v}, Kept g → g.addVertex v = .ok next → Kept next)
  (addEdge : ∀ {g next src dest weights}, Kept g → g.addEdge src dest weights = .ok next →
    Kept next)

include addVertex in
theorem kept_addComponent {g next : Graph} {c : Component} (kept : Kept g)
    (added : Direct.addComponent labels key g c = .ok next) : Kept next := by
  obtain ⟨count, -, added⟩ := bind_eq_ok.mp added
  refine foldlM_invariant (fun state i after _ kept step => ?_) kept added
  obtain ⟨v, -, step⟩ := bind_eq_ok.mp step
  exact addVertex kept step

include addEdge in
theorem kept_addInputs {g next : Graph} {bolt : Bolt} (kept : Kept g)
    (added : Direct.addInputs labels t key g bolt = .ok next) : Kept next := by
  obtain ⟨boltCount, -, added⟩ := bind_eq_ok.mp added
  refine foldlM_invariant (fun state input after _ kept step => ?_) kept added
  unfold Direct.addInput at step
  split at step
  · cases step
  · obtain ⟨sourceCount, -, step⟩ := bind_eq_ok.mp step
    refine foldlM_invariant (fun state i after _ kept row => ?_) kept step
    refine foldlM_invariant (fun state j after _ kept link => ?_) kept row
    obtain ⟨weights, -, link⟩ := bind_eq_ok.mp link
    exact addEdge kept link

include addVertex addEdge in
/-- What new vertices and new edges keep holds of what is built, if it holds in the beginning. -/
theorem kept_build {g : Graph} (begins : Kept { name := t.name })
    (built : Direct.build labels t key = .ok g) : Kept g := by
  obtain ⟨middle, vertices, edges⟩ := bind_eq_ok.mp built
  refine foldlM_invariant (fun state bolt after _ kept step => kept_addInputs addEdge kept step)
    ?_ edges
  exact foldlM_invariant (fun state c after _ kept step => kept_addComponent addVertex kept step)
    begins vertices

/-- What is built lists its links by vertex. -/
theorem consistent_build {g : Graph} (built : Direct.build labels t key = .ok g) :
    g.Consistent := by
  refine kept_build ?_ ?_ (.empty t.name []) built
  · exact fun kept added => Graph.Consistent.invariant.addVertex kept added
  · exact fun kept added => Graph.Consistent.invariant.addEdge kept added

end Expansion

/-- A graph with a name that remembers numbers of instances, and whose vertices and edges carry
nothing but names. -/
structure Graph.Bare (title : Value) (g : Graph) : Prop where
  name : g.name = title
  consistent : g.Consistent
  vertices : ∀ v ∈ g.vertices, ∃ s, v = { name := .text s }
  edges : ∀ e ∈ g.edgeList, ∃ src dest, e = { src := .text src, dest := .text dest }
  metadata : ∃ counts : List (Text × Nat),
    g.metadata = [(.text "topology", title),
      (.text "parallelism", .map (counts.map fun count => (.text count.1, .int count.2)))]

open Expansion

theorem bare_declaredVertices {t : Topology} {parallelism : Component → Nat} {v : Vertex}
    (member : v ∈ declaredVertices {} t parallelism) : ∃ s, v = { name := .text s } := by
  obtain ⟨c, -, inside⟩ := List.mem_flatMap.mp member
  obtain ⟨i, -, rfl⟩ := List.mem_map.mp inside
  exact ⟨_, rfl⟩

theorem bare_declaredEdges {t : Topology} {parallelism : Component → Nat} {e : Edge}
    (member : e ∈ declaredEdges {} t parallelism) :
    ∃ src dest, e = { src := .text src, dest := .text dest } := by
  obtain ⟨bolt, -, ofBolt⟩ := List.mem_flatMap.mp member
  obtain ⟨input, -, ofInput⟩ := List.mem_flatMap.mp ofBolt
  obtain ⟨source, -, ofSource⟩ := List.mem_flatMap.mp ofInput
  obtain ⟨i, -, ofInstance⟩ := List.mem_flatMap.mp ofSource
  obtain ⟨j, -, rfl⟩ := List.mem_map.mp ofInstance
  exact ⟨_, _, rfl⟩

/-- An expansion without labels is bare. -/
theorem bare_of_expand {t : Topology} {key : Option Value} {g : Graph}
    (built : (expand t key).outcome = .ok g) : g.Bare t.name := by
  obtain ⟨valid, parallelism, read, resolved, holds⟩ :=
    holds_of_expand Labels.textual_none built
  rw [expand_outcome valid, Direct.graph] at built
  simp only [bind_eq_ok] at built
  obtain ⟨start, returned, counts, gathered, title, -, ⟨⟩⟩ := built
  have push {g next : Graph} {v : Vertex} (kept : g.name = t.name)
      (added : g.addVertex v = .ok next) : next.name = t.name := by
    obtain ⟨_, -, _, rfl⟩ := Graph.addVertex_eq_ok.mp added
    exact kept
  have join {g next : Graph} {src dest : Value} {weights : List Text} (kept : g.name = t.name)
      (added : g.addEdge src dest weights = .ok next) : next.name = t.name := by
    obtain ⟨_, _, -, -, rfl⟩ := Graph.addEdge_eq_ok.mp added
    exact kept
  have name := kept_build push join rfl returned
  have consistent := consistent_build returned
  refine ⟨name, ⟨holds.sound, consistent.node⟩, ?_, ?_, ?_⟩
  · rw [holds.vertices]
    exact fun v => bare_declaredVertices
  · rw [holds.edges]
    exact fun e => bare_declaredEdges
  · have each : ∀ c ∈ t.components,
        (parallelismOf c (t.effectiveKey key)).map (fun n => (c.name, n)) =
          .ok (c.name, parallelism c) := by
      intro c member
      rw [read c member]
      rfl
    rw [mapM_eq_ok_map each] at gathered
    cases gathered
    refine ⟨t.components.map fun c => (c.name.plain, parallelism c), ?_⟩
    change metadataOf t _ = _
    rw [metadataOf_eq valid, List.map_map]
    have texts : t.components.map (fun c => (c.name, Value.int (parallelism c))) =
        t.components.map ((fun count : Text × Nat => (Value.text count.1, Value.int count.2)) ∘
          fun c => (c.name.plain, parallelism c)) := by
      apply List.map_congr_left
      intro c member
      obtain ⟨s, named⟩ := Topology.exists_name_eq_text valid member
      rw [Function.comp_apply, named, Value.plain_text]
    rw [texts]

end TaskGraph
