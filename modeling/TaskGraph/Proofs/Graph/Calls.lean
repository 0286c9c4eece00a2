/-
Module: TaskGraph.Proofs.Graph.Calls
Purpose: What holds of a graph after any calls, also where some of them failed: its index, its
  edges and all that is asked by name fit together, and calls that fail leave it as it was.
Main exports:
  Graph.Represented, Graph.Reachable.run, Graph.Consistent.represented,
  Graph.fst_step_of_error, Graph.run_represented
-/
import TaskGraph.Graph.Call
import TaskGraph.Proofs.Graph.Adjacency

namespace TaskGraph

namespace Graph

/-! ### One call -/

namespace Reachable

variable {g : Graph} (reached : g.Reachable)

include reached

theorem addingVertex (v : Vertex) : (g.addingVertex v).1.Reachable := by
  unfold Graph.addingVertex
  cases added : g.addVertex v with
  | error _ => exact reached
  | ok next => exact reached.addVertex added

/-- Of a change that fails a part is a change itself. -/
theorem changingVertex (name : Value) {edit : Vertex.Edit}
    (keepsName : ∀ value, edit ≠ .name value) : (g.changingVertex name edit).1.Reachable := by
  unfold Graph.changingVertex
  split
  · exact reached
  · exact reached
  · split
    · rename_i edited
      exact reached.editVertex keepsName edited
    · cases begun : edit.begun? with
      | none => exact reached
      | some part =>
          have partKeepsName : ∀ value, part ≠ .name value := by
            intro value same
            cases edit with
            | addWeights labels =>
                obtain ⟨items, -, rfl⟩ := Option.map_eq_some_iff.mp begun
                cases same
            | name | distance | predecessor | centrality | weights | size => cases begun
          cases edited : g.editVertex name part with
          | error _ => simpa [edited, Except.toOption] using reached
          | ok next => simpa [edited, Except.toOption] using reached.editVertex partKeepsName edited

/-- The graph after a call can be made. -/
theorem step (call : Call) : (g.step call).1.Reachable := by
  cases call with
  | addVertex v => exact reached.addingVertex v
  | addNamed name => exact reached.addingVertex _
  | addEdge src dest weights =>
      simp only [Graph.step]
      cases added : g.addEdgeOf src dest weights with
      | error _ => exact reached
      | ok result => exact reached.addEdgeOf added
  | change name edit keepsName => exact reached.changingVertex name keepsName
  | ask query => exact reached

/-- The graph after calls can be made. -/
theorem run (calls : List Call) : (g.run calls).Reachable := by
  induction calls generalizing g with
  | nil => exact reached
  | cons call rest inductionHypothesis => exact inductionHypothesis (reached.step call)

end Reachable

/-! ### What holds after all calls -/

/-- What can be asked of a graph fits together.  Names are told apart as keys are. -/
structure Represented (g : Graph) : Prop where
  /-- The index has the names of the vertices in their order, and counts them from one. -/
  index : g.vertexIndex = (g.vertices.zipIdx 1).map fun (v, number) => (v.name, number)
  distinct : g.vertices.Pairwise fun v w => v.name.same w.name = false
  indexOf : ∀ name number, g.indexOf name = .ok number ↔
    ∃ v, (v, number) ∈ g.vertices.zipIdx 1 ∧ v.name.same name = true
  endpoints : ∀ e ∈ g.edgeList, (∃ v ∈ g.vertices, v.name.same e.src = true) ∧
    ∃ v ∈ g.vertices, v.name.same e.dest = true
  outgoing : ∀ name, name.isKey = true →
    g.outgoing name = .ok (g.edgeList.filter fun e => e.src.same name)
  incoming : ∀ name, name.isKey = true →
    g.incoming name = .ok (g.edgeList.filter fun e => e.dest.same name)
  edgesBetween : ∀ src dest, src.isKey = true →
    g.edgesBetween src dest = .ok (g.edgeList.filter fun e => e.src.same src && e.dest.equal dest)
  /-- Each neighbor is listed once. -/
  neighbors : ∀ name direction, name.isKey = true → ∃ found,
    g.neighbors name direction = .ok found ∧ found.Pairwise (fun a b => a.same b = false) ∧
      ∀ other, (∃ x ∈ found, x.same other = true) ↔
        ∃ e ∈ g.edgeList, e.Leads direction name other
  outgoingTotal : ∃ lists, (g.vertices.mapM fun v => g.outgoing v.name) = .ok lists ∧
    (lists.map List.length).sum = g.edgeCount
  incomingTotal : ∃ lists, (g.vertices.mapM fun v => g.incoming v.name) = .ok lists ∧
    (lists.map List.length).sum = g.edgeCount

namespace Consistent

variable {g : Graph} (consistent : Consistent g)

include consistent

theorem vertexIndex_eq :
    g.vertexIndex = (g.vertices.zipIdx 1).map fun (v, number) => (v.name, number) := by
  rw [vertexIndex, consistent.labels_eq, List.zipIdx_map]
  rfl

theorem indexOf_eq_ok_iff {name : Value} {number : Nat} :
    g.indexOf name = .ok number ↔
      ∃ v, (v, number) ∈ g.vertices.zipIdx 1 ∧ v.name.same name = true := by
  simp only [List.mem_zipIdx_iff_le_and_getElem?_sub]
  constructor
  · intro asked
    rw [Graph.indexOf, bind_eq_ok] at asked
    obtain ⟨found, looked, returned⟩ := asked
    cases found with
    | none => cases returned
    | some place =>
        cases returned
        obtain ⟨v, held, same⟩ := consistent.place?_eq_ok_iff.mp looked
        exact ⟨v, ⟨Nat.le_add_left 1 place, held⟩, same⟩
  · intro named
    obtain ⟨v, ⟨positive, held⟩, same⟩ := named
    have asked := indexOf_eq_ok (consistent.place?_eq_ok_iff.mpr ⟨v, held, same⟩)
    rwa [Nat.sub_add_cancel positive] at asked

/-- What is asked of each vertex at one end of the edges are all edges. -/
theorem exists_answers {asked : Value → Except Error (List Edge)} {named : Edge → Value}
    {placed : Link → Nat}
    (leads : ∀ l ∈ g.links.toList, g.place? (named l.edge) = .ok (some (placed l)))
    (answered : ∀ {name : Value} {key : Key}, name.key? = some key →
      asked name = .ok (g.edgeList.filter fun e => (named e).same name)) :
    ∃ lists, (g.vertices.mapM fun v => asked v.name) = .ok lists ∧
      (lists.map List.length).sum = g.edgeCount := by
  refine ⟨g.vertices.map fun v => g.edgeList.filter fun e => (named e).same v.name,
    mapM_eq_ok_map fun v member => ?_, ?_⟩
  · obtain ⟨place, held⟩ := List.getElem?_of_mem member
    obtain ⟨key, keyed, -⟩ := place?_eq_ok.mp (consistent.sound.vertex place v held)
    exact answered keyed
  · rw [List.map_map]
    exact consistent.sum_length_filter_edgeList leads

theorem represented : g.Represented where
  index := consistent.vertexIndex_eq
  distinct := consistent.pairwise_names
  indexOf name number := consistent.indexOf_eq_ok_iff
  endpoints e member := by
    obtain ⟨l, inside, rfl⟩ := List.mem_map.mp member
    obtain ⟨source, target⟩ := consistent.sound.link l inside
    exact ⟨consistent.exists_vertex source, consistent.exists_vertex target⟩
  outgoing name isKey := by
    obtain ⟨key, keyed⟩ := Option.isSome_iff_exists.mp isKey
    exact consistent.outgoing_eq_ok keyed
  incoming name isKey := by
    obtain ⟨key, keyed⟩ := Option.isSome_iff_exists.mp isKey
    exact consistent.incoming_eq_ok keyed
  edgesBetween src dest isKey := by
    obtain ⟨key, keyed⟩ := Option.isSome_iff_exists.mp isKey
    exact consistent.edgesBetween_eq_ok keyed dest
  neighbors name direction isKey := by
    obtain ⟨key, keyed⟩ := Option.isSome_iff_exists.mp isKey
    exact consistent.neighbors_eq_ok keyed direction
  outgoingTotal := consistent.exists_answers (fun l member => (consistent.sound.link l member).1)
    consistent.outgoing_eq_ok
  incomingTotal := consistent.exists_answers (fun l member => (consistent.sound.link l member).2)
    consistent.incoming_eq_ok

end Consistent

end Graph

/-! ### Calls that fail -/

/-- Labels that are added to the weights of a vertex have texts, as texts themselves do. -/
def Vertex.Edit.Textual : Vertex.Edit → Prop
  | .addWeights labels =>
    ∀ items, labels.items? = some items → ∀ item ∈ items, ∃ s, item.asPlain = .ok s
  | _ => True

/-- Where labels that have texts cannot be added, none of them is. -/
theorem Vertex.Edit.Textual.begun_fails {edit part : Vertex.Edit} (textual : edit.Textual)
    {v : Vertex} {e : Error} (failed : v.edit edit = .error e) (begun : edit.begun? = some part) :
    ∃ other, v.edit part = .error other := by
  cases edit with
  | name | distance | predecessor | centrality | weights | size => cases begun
  | addWeights labels =>
      obtain ⟨items, walked, rfl⟩ := Option.map_eq_some_iff.mp begun
      simp only [Vertex.edit, Vertex.addWeights] at failed ⊢
      cases held : v.weights with
      | list weights =>
          obtain ⟨texts, written⟩ := exists_mapM_eq_ok (textual items walked)
          simp only [held, Value.walk, walked, ok_bind, written] at failed
          cases failed
      | null | bool | int | float | text | bytes | date | moment | tuple | set | map | web | link =>
          exact ⟨_, rfl⟩

namespace Graph

/-- A change of a vertex that is there is the change of the vertex, put in its place. -/
theorem editVertex_of_vertex? {g : Graph} {name : Value} {v : Vertex}
    (found : g.vertex? name = .ok (some v)) :
    ∃ place, ∀ edit, g.editVertex name edit = (v.edit edit).map (g.replaceVertex place) := by
  obtain ⟨node, nodeFound, named⟩ := map_eq_ok.mp found
  obtain ⟨node, rfl, rfl⟩ := Option.map_eq_some_iff.mp named
  obtain ⟨place, placeFound, held⟩ := map_eq_ok.mp nodeFound
  obtain ⟨place, rfl, held⟩ := Option.bind_eq_some_iff.mp held
  refine ⟨place, fun edit => ?_⟩
  rw [editVertex, nodeFound, placeFound, ok_bind, ok_bind]
  change (node.vertex.edit edit >>= fun changed => .ok (g.replaceVertex place changed)) = _
  cases node.vertex.edit edit with
  | error e => rfl
  | ok changed => rfl

/-- A change that fails leaves the graph as it was. -/
theorem fst_changingVertex_of_error {g : Graph} {name : Value} {edit : Vertex.Edit} {e : Error}
    (textual : edit.Textual) (failed : (g.changingVertex name edit).2 = .error e) :
    (g.changingVertex name edit).1 = g := by
  unfold changingVertex at failed ⊢
  split at failed
  · rfl
  · rfl
  · rename_i v found
    obtain ⟨place, edits⟩ := editVertex_of_vertex? found
    cases changes : v.edit edit with
    | ok changed =>
        simp only [edits, changes, Except.map] at failed
        cases failed
    | error other =>
        simp only [edits, changes, Except.map]
        cases begun : edit.begun? with
        | none => rfl
        | some part =>
            obtain ⟨fault, fails⟩ := textual.begun_fails changes begun
            simp only [Option.bind_some, fails]
            rfl

/-- The labels that a call adds have texts. -/
def Call.Textual : Call → Prop
  | .change _ edit _ => edit.Textual
  | _ => True

/-- A call that fails leaves the graph as it was. -/
theorem fst_step_of_error {g : Graph} {call : Call} {e : Error} (textual : call.Textual)
    (failed : (g.step call).2 = .error e) : (g.step call).1 = g := by
  cases call with
  | addVertex v => exact settle_of_error failed
  | addNamed name => exact settle_of_error failed
  | addEdge src dest weights => exact settle_of_error failed
  | change name edit keepsName => exact fst_changingVertex_of_error textual failed
  | ask query => rfl

/-- After any calls on a graph that starts without vertices, what can be asked of it fits
together; questions leave it as it is, and so does every call that fails. -/
theorem run_represented (name : Value) (calls : List Call) :
    let g := run { name } calls
    g.Represented ∧ (∀ query, (g.step (.ask query)).1 = g) ∧
      ∀ call : Call, call.Textual → ∀ e, (g.step call).2 = .error e → (g.step call).1 = g := by
  intro g
  have reached : g.Reachable := (Reachable.empty name).run calls
  refine ⟨reached.consistent.represented, fun query => rfl, ?_⟩
  intro call textual e failed
  exact fst_step_of_error textual failed

/-- A loop is added to a vertex; the same vertex and an edge to nowhere are not. -/
def disturbed : List Call :=
  [.addNamed "a", .addNamed "a", .addEdge (.text "a") (.text "b") (.list []),
    .addEdge (.text "a") (.text "a") (.list [.int 2])]

/-- A number is no labels, so that an edge with it is not added. -/
theorem run_represented_disturbed :
    let g := run { name := .text "loop" } disturbed
    g.Represented ∧ (g.step (.addEdge (.text "a") (.text "a") (.int 7))).1 = g := by
  intro g
  obtain ⟨represented, -, kept⟩ := run_represented (.text "loop") disturbed
  refine ⟨represented, ?_⟩
  cases added : g.addEdgeOf (.text "a") (.text "a") (.int 7) with
  | error e =>
      have failed : (g.step (.addEdge (.text "a") (.text "a") (.int 7))).2 = .error e := by
        simp only [step, added]
        rfl
      exact kept _ trivial e failed
  | ok result =>
      simp only [addEdgeOf, bind_eq_ok] at added
      obtain ⟨_, _, _, _, _, ⟨⟩, _⟩ := added

end Graph

end TaskGraph
