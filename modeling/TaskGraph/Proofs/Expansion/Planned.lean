/-
Module: TaskGraph.Proofs.Expansion.Planned
Purpose: The plan of an expansion: its vertices and edges as lists, without a graph that could
  refuse a name.  What is built holds what was planned, and fails where planning fails.
Main exports:
  Expansion.plan, Expansion.build_alike
-/
import TaskGraph.Proofs.Expansion.Building
import TaskGraph.Proofs.Expansion.Direct

namespace TaskGraph

namespace Expansion

/-! ### Plans -/

/-- The vertices of a component. -/
def plannedVertices (labels : Labels) (key : Value) (c : Component) :
    Except Error (List Vertex) :=
  (parallelismOf c key).map (instanceVertices labels c)

/-- The edges of an input of a bolt. -/
def plannedLinks (labels : Labels) (t : Topology) (key : Value) (bolt : Bolt) (boltCount : Nat)
    (input : InputStream) : Except Error (List Edge) :=
  match t.resolve? input.component with
  | none => .error (.danglingInput bolt.name input.component)
  | some source =>
    (parallelismOf source key).map fun n => linkEdges labels input source (.bolt bolt) n boltCount

/-- The edges of a bolt. -/
def plannedEdges (labels : Labels) (t : Topology) (key : Value) (bolt : Bolt) :
    Except Error (List Edge) := do
  let boltCount ← parallelismOf (.bolt bolt) key
  let links ← bolt.inputs.mapM (plannedLinks labels t key bolt boltCount)
  .ok links.flatten

/-- The vertices and the edges of an expansion. -/
def plan (labels : Labels) (t : Topology) (key : Value) :
    Except Error (List Vertex × List Edge) := do
  let blocks ← t.components.mapM (plannedVertices labels key)
  let bundles ← t.bolts.mapM (plannedEdges labels t key)
  .ok (blocks.flatten, bundles.flatten)

/-- Where a plan succeeds, every component has its vertices. -/
theorem mem_of_plannedVertices {labels : Labels} {key : Value} {components : List Component}
    {blocks : List (List Vertex)} (run : components.mapM (plannedVertices labels key) = .ok blocks)
    {c : Component} (member : c ∈ components) {n : Nat} (read : parallelismOf c key = .ok n) :
    ∀ i ∈ instances n, instanceVertex labels c i ∈ blocks.flatten := by
  intro i number
  obtain ⟨block, inside, planned⟩ := exists_of_mapM_eq_ok run member
  rw [plannedVertices, read] at planned
  cases planned
  exact List.mem_flatten.mpr ⟨_, inside, List.mem_map.mpr ⟨i, number, rfl⟩⟩

/-! ### Building the vertices -/

/-- The graph holds some vertices, and the names of the instances of all components that are
left are still free. -/
structure Ready (rest : List Component) (g : Graph) (vs : List Vertex) : Prop where
  holds : g.Holds vs []
  texts : ∀ c ∈ rest, ∃ s, c.name = .text s
  distinct : (rest.map (·.name)).Nodup
  free : ∀ c ∈ rest, ∀ i, ∀ w ∈ vs, w.name ≠ .text (instanceName c.name i)

theorem ready_start {t : Topology} (valid : t.validate = .ok ()) :
    Ready t.components { name := t.name } [] where
  holds := .empty t.name
  texts _ member := Topology.exists_name_eq_text valid member
  distinct := Topology.nodup_names valid
  free c _ i w member := by cases member

/-- The instances of one component leave the names free that the others need. -/
theorem Ready.addComponent {labels : Labels} (textual : labels.Textual) (key : Value)
    {c : Component} {rest : List Component} {g : Graph} {vs : List Vertex}
    (ready : Ready (c :: rest) g vs) :
    Alike (fun next added => Ready rest next (vs ++ added)) (Direct.addComponent labels key g c)
      (plannedVertices labels key c) := by
  unfold Direct.addComponent plannedVertices
  cases parallelismOf c key with
  | error e => exact .error e
  | ok n =>
      obtain ⟨s, named⟩ := ready.texts c (by simp)
      obtain ⟨next, added, holds⟩ :=
        ready.holds.addInstances textual named (ready.free c (by simp)) n
      obtain ⟨isFirst, distinct⟩ := List.nodup_cons.mp ready.distinct
      rw [ok_bind, added]
      refine .ok ⟨holds, fun d member => ready.texts d (by simp [member]), distinct, ?_⟩
      intro d member i w inside
      rcases List.mem_append.mp inside with earlier | new
      · exact ready.free d (by simp [member]) i w earlier
      · obtain ⟨j, -, rfl⟩ := List.mem_map.mp new
        obtain ⟨u, dNamed⟩ := ready.texts d (by simp [member])
        intro same
        have together : instanceName (.text s) j = instanceName (.text u) i := by
          rw [← named, ← dNamed]
          exact Value.text.inj same
        have sameName : d.name = c.name := by
          rw [named, dNamed, (instanceName_inj together).1]
        exact isFirst (List.mem_map.mpr ⟨d, member, sameName⟩)

section Build

variable {t : Topology} {labels : Labels} (textual : labels.Textual) (key : Value)

include textual

/-- The vertices of all components are built as planned. -/
theorem addComponents_alike (valid : t.validate = .ok ()) :
    Alike (fun g blocks => g.Holds blocks.flatten [])
      (t.components.foldlM (Direct.addComponent labels key) { name := t.name })
      (t.components.mapM (plannedVertices labels key)) := by
  have run := Alike.foldlM_mapM Ready
    (fun c rest g vs ready => ready.addComponent textual key) (ready_start valid)
  exact run.imp fun g blocks ready => ready.holds

/-! ### Building the edges -/

variable {vs : List Vertex} (built : ∀ c ∈ t.components, ∀ n, parallelismOf c key = .ok n →
  ∀ i ∈ instances n, instanceVertex labels c i ∈ vs)

include built

/-- The edges of an input are built as planned, where the vertices of all components are
there. -/
theorem addInput_alike {bolt : Bolt} (member : bolt ∈ t.bolts) {boltCount : Nat}
    (read : parallelismOf (.bolt bolt) key = .ok boltCount) (input : InputStream) {g : Graph}
    {es : List Edge} (holds : g.Holds vs es) :
    Alike (fun next added => next.Holds vs (es ++ added))
      (Direct.addInput labels t key bolt boltCount g input)
      (plannedLinks labels t key bolt boltCount input) := by
  unfold Direct.addInput plannedLinks
  cases resolved : t.resolve? input.component with
  | none => exact .error _
  | some source =>
      have sourceMember := (Topology.mem_of_resolve?_eq_some resolved).1
      dsimp only
      cases sourceRead : parallelismOf source key with
      | error e => exact .error e
      | ok n =>
          have links := holds.addLinks textual input (built source sourceMember n sourceRead)
            (built _ (Topology.bolt_mem_components member) boltCount read)
          rw [ok_bind]
          exact .of_exists links

theorem addInputs_alike {bolt : Bolt} (member : bolt ∈ t.bolts) {g : Graph} {es : List Edge}
    (holds : g.Holds vs es) :
    Alike (fun next added => next.Holds vs (es ++ added)) (Direct.addInputs labels t key g bolt)
      (plannedEdges labels t key bolt) := by
  unfold Direct.addInputs plannedEdges
  cases read : parallelismOf (.bolt bolt) key with
  | error e => exact .error e
  | ok boltCount =>
      rw [ok_bind, ok_bind, ← bind_pure (bolt.inputs.foldlM _ g)]
      apply Alike.bind (Alike.foldlM_mapM_of_mem (fun (g : Graph) es => g.Holds vs es)
        (fun input _ g es holds => addInput_alike textual key built member read input holds) holds)
      intro final links holds
      exact .ok holds

end Build

/-- What is built holds what was planned, and fails where planning fails. -/
theorem build_alike {t : Topology} (valid : t.validate = .ok ()) {labels : Labels}
    (textual : labels.Textual) (key : Value) :
    Alike (fun g planned => g.Holds planned.1 planned.2) (Direct.build labels t key)
      (plan labels t key) := by
  apply Alike.bind (addComponents_alike textual key valid).with_result
  intro g blocks built
  rcases built with ⟨holds, run⟩
  rw [← bind_pure (t.bolts.foldlM _ g)]
  apply Alike.bind (Alike.foldlM_mapM_of_mem (fun (g : Graph) es => g.Holds blocks.flatten es)
    (fun bolt member g es holds => addInputs_alike textual key
      (fun c inside n read => mem_of_plannedVertices run inside read) member holds) holds)
  intro final bundles holds
  exact .ok holds

end Expansion

end TaskGraph
