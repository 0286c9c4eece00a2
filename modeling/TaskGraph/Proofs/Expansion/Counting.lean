/-
Module: TaskGraph.Proofs.Expansion.Counting
Purpose: The numbers that are counted beforehand are those of the graph that is built, and where
  one of the two fails the other one fails with the same error.
Main exports:
  Expansion.count_alike, expand_counts
-/
import TaskGraph.Proofs.Expansion.Planned

namespace TaskGraph

namespace Expansion

theorem length_linkEdges (labels : Labels) (input : InputStream) (source bolt : Component)
    (n m : Nat) : (linkEdges labels input source bolt n m).length = n * m := by
  simp [linkEdges, instances]

/-! ### Counting what is planned -/

section Count

variable (labels : Labels) (t : Topology) (key : Value)

theorem countComponent_alike (c : Component) (done : List Vertex) :
    Alike (fun next added => next = (done ++ added).length)
      (Direct.countComponent key done.length c) (plannedVertices labels key c) := by
  unfold Direct.countComponent plannedVertices
  cases parallelismOf c key with
  | error e => exact .error e
  | ok n =>
      apply Alike.ok
      simp [instanceVertices, instances]

theorem countLinks_alike (bolt : Bolt) (boltCount : Nat) (input : InputStream)
    (done : List Edge) :
    Alike (fun next added => next = (done ++ added).length)
      (Direct.countInput t key bolt boltCount done.length input)
      (plannedLinks labels t key bolt boltCount input) := by
  unfold Direct.countInput plannedLinks
  cases t.resolve? input.component with
  | none => exact .error _
  | some source =>
      dsimp only
      cases parallelismOf source key with
      | error e => exact .error e
      | ok n =>
          apply Alike.ok
          rw [List.length_append, length_linkEdges]

theorem countBolt_alike (bolt : Bolt) (done : List Edge) :
    Alike (fun next added => next = (done ++ added).length)
      (Direct.countInputs t key done.length bolt) (plannedEdges labels t key bolt) := by
  unfold Direct.countInputs plannedEdges
  cases parallelismOf (.bolt bolt) key with
  | error e => exact .error e
  | ok boltCount =>
      rw [ok_bind, ok_bind, ← bind_pure (bolt.inputs.foldlM _ _)]
      have run : Alike (fun next links => next = (done ++ links.flatten).length)
          (bolt.inputs.foldlM (Direct.countInput t key bolt boltCount) done.length)
          (bolt.inputs.mapM (plannedLinks labels t key bolt boltCount)) := by
        apply Alike.foldlM_mapM_of_mem (fun n (es : List Edge) => n = es.length) _ rfl
        rintro input - _ es rfl
        exact countLinks_alike labels t key bolt boltCount input es
      apply Alike.bind run
      intro next links counted
      exact .ok counted

/-- What is counted are the lengths of what is planned. -/
theorem count_alike :
    Alike (fun counts planned =>
        counts.vertices = planned.1.length ∧ counts.edges = planned.2.length)
      (Direct.count t key) (plan labels t key) := by
  have vertices : Alike (fun next blocks => next = ([] ++ blocks.flatten).length)
      (t.components.foldlM (Direct.countComponent key) 0)
      (t.components.mapM (plannedVertices labels key)) := by
    apply Alike.foldlM_mapM_of_mem (fun n (vs : List Vertex) => n = vs.length) _ rfl
    rintro c - _ vs rfl
    exact countComponent_alike labels key c vs
  have edges : Alike (fun next bundles => next = ([] ++ bundles.flatten).length)
      (t.bolts.foldlM (Direct.countInputs t key) 0)
      (t.bolts.mapM (plannedEdges labels t key)) := by
    apply Alike.foldlM_mapM_of_mem (fun n (es : List Edge) => n = es.length) _ rfl
    rintro bolt - _ es rfl
    exact countBolt_alike labels t key bolt es
  apply Alike.bind vertices
  intro n blocks vertexCount
  apply Alike.bind edges
  intro m bundles edgeCount
  exact .ok ⟨vertexCount, edgeCount⟩

/-- Where a plan succeeds, the parallelism of every component can be read. -/
theorem exists_gathered {planned : List Vertex × List Edge}
    (run : plan labels t key = .ok planned) :
    ∃ entries, (t.components.mapM fun c => (parallelismOf c key).map fun n => (c.name, n)) =
      .ok entries := by
  obtain ⟨blocks, vertices, -⟩ := bind_eq_ok.mp run
  apply exists_mapM_eq_ok
  intro c member
  obtain ⟨block, -, block_eq⟩ := exists_of_mapM_eq_ok vertices member
  obtain ⟨n, read, -⟩ := map_eq_ok.mp block_eq
  exact ⟨(c.name, n), map_eq_ok.mpr ⟨n, read, rfl⟩⟩

end Count

end Expansion

open Expansion in
/-- What is counted beforehand for a valid topology are the numbers of its expansion, and one
fails as the other does. -/
theorem expand_counts {t : Topology} {title : Text} (valid : t.validate = .ok ())
    (titled : t.name.asPlain = .ok title) (key : Option Value) :
    (expand t key).outcome.map (fun g => { vertices := g.vertexCount, edges := g.edgeCount }) =
      (expectedCounts t key).outcome := by
  rw [expand_outcome valid, expectedCounts_outcome valid]
  have built := (build_alike valid Labels.textual_none (t.effectiveKey key)).with_result
  have counted := count_alike {} t (t.effectiveKey key)
  have both : Alike (fun (g : Graph) (counts : Counts) =>
      ({ vertices := g.vertexCount, edges := g.edgeCount } : Counts) = counts ∧
        ∃ entries, (t.components.mapM fun c =>
          (parallelismOf c (t.effectiveKey key)).map fun n => (c.name, n)) = .ok entries)
      (Direct.build {} t (t.effectiveKey key)) (Direct.count t (t.effectiveKey key)) := by
    apply built.join counted
    rintro g ⟨vertices, edges⟩ planned ⟨holds, run⟩ ⟨rfl, rfl⟩
    rw [holds.vertexCount_eq, holds.edgeCount_eq]
    exact ⟨rfl, exists_gathered {} t _ run⟩
  apply Alike.map_eq
  rw [Direct.graph, ← bind_pure (Direct.count t (t.effectiveKey key))]
  apply Alike.bind both
  rintro g _ ⟨rfl, entries, gathered⟩
  rw [gathered, ok_bind, titled]
  exact .ok rfl

/-- A spout without instances, and a bolt with two that reads itself twice. -/
def feedback : Topology where
  spouts := [{ name := .text "idle" }]
  bolts :=
    [{ name := .text "counter"
       config := [.entry (.text defaultParallelismKey) (.text " 2 ")]
       inputs :=
         [{ component := .text "counter" }, { component := .text "idle" },
          { component := .text "counter", grouping := .all }] }]

theorem expand_counts_feedback :
    feedback.validate = .ok () ∧
      (expand feedback (some (.text ""))).outcome.map
          (fun g => { vertices := g.vertexCount, edges := g.edgeCount }) =
        .ok ({ vertices := 2, edges := 8 } : Counts) := by
  have valid : feedback.validate = .ok () := rfl
  have counted : (expectedCounts feedback (some (.text ""))).outcome =
      .ok { vertices := 2, edges := 8 } :=
    toOption_eq_some.mp (by decide +kernel)
  exact ⟨valid, (expand_counts valid rfl (some (.text ""))).trans counted⟩

end TaskGraph
