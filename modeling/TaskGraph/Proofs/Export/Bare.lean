/-
Module: TaskGraph.Proofs.Export.Bare
Purpose: The texts of a graph that carries nothing but names, as an expansion makes it: none of them
  is refused but for a number with too many digits.
Main exports:
  Json.Nested, Json.Nested.failsOnly_writeIn, Graph.Bare.failsOnly_render,
  Graph.Bare.failsOnly_jsonText, Graph.Bare.failsOnly_graphMlText, ExportFormat.Roomy,
  Graph.Bare.failsOnly_exportText
-/
import TaskGraph.Export
import TaskGraph.Proofs.Expansion.Loaded
import TaskGraph.Proofs.Graph.Reading
import TaskGraph.Proofs.Json.RoundTrip
import TaskGraph.Proofs.Metis.Encoding
import TaskGraph.Proofs.Network.Shown

namespace TaskGraph

/-! ### JSON -/

namespace Json

/-- Scalars, lists, and mappings with texts as names, with at most so many levels of collections
inside each other. -/
inductive Nested : Nat → Value → Prop where
  | null (levels : Nat) : Nested levels .null
  | scalar (levels : Nat) {v : Value} (scalar : v.Scalar) : Nested levels v
  | list {levels : Nat} {items : List Value} (each : ∀ item ∈ items, Nested levels item) :
      Nested (levels + 1) (.list items)
  | map {levels : Nat} {entries : Value.Entries} (names : ∀ entry ∈ entries, ∃ s, entry.1 = .text s)
      (each : ∀ entry ∈ entries, Nested levels entry.2) : Nested (levels + 1) (.map entries)

theorem failsOnly_integer (n : Int) : FailsOnly (· = .noText .tooManyDigits) (integer n) := by
  unfold integer
  split
  · intro e failed
    cases failed
    rfl
  · exact .ok _

/-- Nested values are written, if there are levels enough and no number has too many digits. -/
theorem Nested.failsOnly_writeIn (layout : Layout) {levels : Nat} {v : Value}
    (nested : Nested levels v) {enough : Nat} (fits : levels < enough) (inside : List Nat)
    (depth : Nat) :
    FailsOnly (· = .noText .tooManyDigits) (writeIn layout enough inside depth v) := by
  obtain ⟨enough, rfl⟩ := Nat.exists_eq_add_one_of_ne_zero (Nat.ne_zero_of_lt fits)
  induction nested generalizing enough inside depth with
  | null levels => exact .ok _
  | @scalar levels v scalar =>
      cases v with
      | bool b => exact .ok _
      | int n => exact failsOnly_integer n
      | float x => exact .ok _
      | text s => exact .ok _
      | null | bytes | date | moment | list | tuple | set | map | web | link => cases scalar
  | @list levels items _ inductionHypothesis =>
      have fewer := Nat.lt_of_succ_lt_succ fits
      obtain ⟨enough, rfl⟩ := Nat.exists_eq_add_one_of_ne_zero (Nat.ne_zero_of_lt fewer)
      rw [writeIn_list]
      exact .map (.mapM fun item member =>
        inductionHypothesis item member inside (depth + 1) enough fewer)
  | @map levels entries names _ inductionHypothesis =>
      have fewer := Nat.lt_of_succ_lt_succ fits
      obtain ⟨enough, rfl⟩ := Nat.exists_eq_add_one_of_ne_zero (Nat.ne_zero_of_lt fewer)
      rw [writeIn_map]
      refine .map (.mapM fun entry member => ?_)
      obtain ⟨name, named⟩ := names entry member
      rw [writeMember, named]
      exact .bind (.ok _) fun _ _ =>
        .bind (inductionHypothesis entry member inside (depth + 1) enough fewer) fun _ _ => .ok _

/-- A record nests as deep as its fields and one level more. -/
theorem nested_record {levels : Nat} (fields : List (String × Value))
    (each : ∀ field ∈ fields, Nested levels field.2) :
    Nested (levels + 1) (.map (fields.map fun field => (.text field.1, field.2))) := by
  refine .map ?_ ?_
  · rw [List.forall_mem_map]
    exact fun field _ => ⟨_, rfl⟩
  · rwa [List.forall_mem_map]

end Json

/-! ### GraphML -/

theorem Value.Scalar.exists_typeOf {v : Value} (scalar : v.Scalar) :
    ∃ type, GraphMl.typeOf v.reveal = .ok type := by
  cases v with
  | bool | int | float | text => exact ⟨_, rfl⟩
  | null | bytes | date | moment | list | tuple | set | map | web | link => cases scalar

namespace GraphMl

theorem failsOnly_datum {value : Value} (scalar : value.Scalar) (scope : Scope) (label : String) :
    FailsOnly Error.Reported (datum scope label value) := by
  refine .bind (Value.failsOnly_asPlain scalar.shallow) fun _ _ => ?_
  obtain ⟨type, typed⟩ := scalar.exists_typeOf
  rw [typed]
  exact .ok _

/-- A network whose attributes are scalars is written, or a number has too many digits. -/
theorem failsOnly_write {network : Network} (name : network.name.Scalar)
    (nodes : ∀ node ∈ network.nodes, node.size.Scalar ∧ node.centrality.Scalar) :
    FailsOnly Error.Reported (write network) := by
  refine .bind (failsOnly_datum name _ _) fun _ _ => .bind (.mapM fun node member => .map ?_)
    fun _ _ => .bind (.mapM fun link _ => .map ?_) fun _ _ => .ok _
  · refine .mapM fun entry among => failsOnly_datum ?_ _ _
    obtain ⟨size, centrality⟩ := nodes node member
    simp only [List.mem_cons, List.not_mem_nil, or_false] at among
    rcases among with rfl | rfl | rfl | rfl
    · trivial
    · exact size
    · trivial
    · exact centrality
  · refine .mapM fun entry among => failsOnly_datum ?_ _ _
    simp only [List.mem_cons, List.not_mem_nil, or_false] at among
    rcases among with rfl | rfl
    · trivial
    · trivial

end GraphMl

/-! ### Requests -/

/-- There is room for the weights that an export asks for: as many as a request for a graph file
says, for each vertex. -/
def ExportFormat.Roomy (memory : Nat) : ExportFormat → Prop
  | metis request => ∃ format : Metis.Format, request = .ofFormat format ∧
      (format.vertexWeights = true → Metis.Fits memory format.ncon)
  | _ => True

/-- A request made from flags and a whole number is for a format with these. -/
theorem Metis.Request.exists_format {sized weighted linked : Bool} {ncon : Int} {request : Request}
    (made : make (.bool sized) (.bool weighted) (.bool linked) (.int ncon) = .ok request) :
    ∃ format, request = .ofFormat format ∧ format.vertexWeights = weighted ∧
      format.ncon = ncon.toNat := by
  unfold make at made
  split at made
  · rename_i positive
    cases made
    have atLeastOne : 1 ≤ ncon := by simpa [Value.lt?_int] using positive
    let format : Format :=
      { vertexSizes := sized, vertexWeights := weighted, edgeWeights := linked, ncon := ncon.toNat
        ncon_pos := by omega }
    refine ⟨format, ?_, rfl, rfl⟩
    simp only [format, ofFormat, Int.toNat_of_nonneg (Int.le_trans (by decide) atLeastOne)]
  · cases made
  · cases made

/-! ### Bare graphs -/

namespace Graph

/-- The error of a number with too many digits is reported, also by the writer of JSON. -/
theorem failsOnly_mapError_writeError {α : Type} {x : Except Json.WriteFault α}
    (fails : FailsOnly (· = .noText .tooManyDigits) x) :
    FailsOnly Error.Reported (x.mapError writeError) := by
  intro e failed
  obtain ⟨fault, failure, rfl⟩ := mapError_eq_error.mp failed
  rw [fails fault failure]
  rfl

namespace Bare

variable {g : Graph} {title : Value} (bare : g.Bare title)

include bare

theorem labelled : Metis.Labelled g where
  sizes v member := by
    obtain ⟨s, rfl⟩ := bare.vertices v member
    exact ⟨1, rfl⟩
  weights v member := by
    obtain ⟨s, rfl⟩ := bare.vertices v member
    exact ⟨[], rfl⟩
  edges e member := by
    obtain ⟨src, dest, rfl⟩ := bare.edges e member
    exact ⟨[], rfl⟩

/-- With room for the weights a bare graph has a graph file, or a number has too many digits. -/
theorem failsOnly_render {memory : Nat} {format : Metis.Format}
    (room : format.vertexWeights = true → Metis.Fits memory format.ncon) :
    FailsOnly Error.Reported (Metis.render memory g (.ofFormat format)).outcome := by
  intro e failed
  rw [← faultOf?_eq_some, Metis.faultOf?_render memory bare.consistent.sound bare.labelled]
    at failed
  have member := List.mem_of_head? failed
  rw [Metis.exportFaults, List.mem_append] at member
  rcases member with header | line
  · split at header
    · cases header
    · rw [List.mem_singleton.mp header]
      rfl
  · obtain ⟨v, inside, fault⟩ := List.mem_flatMap.mp line
    obtain ⟨name, rfl⟩ := bare.vertices v inside
    rcases Metis.mem_lineFaults.mp fault with
      ⟨-, unnamed | size⟩ | ⟨asked, weights⟩ | ⟨-, edge, incident, weight⟩
    · cases unnamed
    · have negative := (Metis.sizeFault?_eq_some (n := 1) rfl Metis.one_lt_digitBound).mp size
      exact absurd negative.1 (by decide)
    · rcases (Metis.mem_weightFaults ⟨name, rfl⟩ rfl (room asked)).mp weights with
        ⟨many, -⟩ | ⟨-, _, among, -⟩
      · cases many
      · cases among
    · obtain ⟨src, dest, rfl⟩ := bare.edges edge (List.mem_filter.mp incident).1
      obtain ⟨label, others, labels, -⟩ :=
        (Metis.mem_edgeFaults ⟨src, rfl⟩ ⟨dest, rfl⟩).mp weight
      cases labels

theorem listed : g.Listed := by
  intro v member
  obtain ⟨s, rfl⟩ := bare.vertices v member
  exact ⟨[], rfl⟩

/-- The stored form of a bare graph has four levels of collections. -/
theorem nested_stored (scalar : title.Scalar) : Json.Nested 4 g.stored := by
  refine Json.nested_record
    [("name", g.name), ("metadata", .map g.metadata),
     ("vertices", .list (g.vertices.map Vertex.stored)),
     ("edges", .list (g.edgeList.map Edge.toValue))] ?_
  simp only [List.forall_mem_cons, List.not_mem_nil, false_implies, implies_true, and_true]
  refine ⟨.scalar _ (by rwa [bare.name]), ?_, .list ?_, .list ?_⟩
  · obtain ⟨counts, metadata⟩ := bare.metadata
    rw [metadata]
    refine Json.nested_record [("topology", title),
      ("parallelism", .map (counts.map fun count => (.text count.1, .int count.2)))] ?_
    simp only [List.forall_mem_cons, List.not_mem_nil, false_implies, implies_true, and_true]
    refine ⟨.scalar _ scalar, .map ?_ ?_⟩
    · exact List.forall_mem_map.mpr fun count _ => ⟨_, rfl⟩
    · exact List.forall_mem_map.mpr fun count _ => .scalar _ trivial
  · refine List.forall_mem_map.mpr fun v member => ?_
    obtain ⟨s, rfl⟩ := bare.vertices v member
    refine Json.nested_record
      [("name", .text s), ("distance", .int unreached), ("predecessor", .null),
       ("centrality", .float (Binary64.zero false)), ("weights", .list []), ("size", .int 1)] ?_
    simp only [List.forall_mem_cons, List.not_mem_nil, false_implies, implies_true, and_true]
    exact ⟨.scalar _ trivial, .scalar _ trivial, .null _, .scalar _ trivial, .list nofun,
      .scalar _ trivial⟩
  · refine List.forall_mem_map.mpr fun e member => ?_
    obtain ⟨src, dest, rfl⟩ := bare.edges e member
    refine Json.nested_record
      [("name", .text _), ("src", .text src), ("dest", .text dest), ("weights", .list [])] ?_
    simp only [List.forall_mem_cons, List.not_mem_nil, false_implies, implies_true, and_true]
    exact ⟨.scalar _ trivial, .scalar _ trivial, .scalar _ trivial, .list nofun⟩

/-- A bare graph is stored as JSON, or a number has too many digits. -/
theorem failsOnly_jsonText (scalar : title.Scalar) (layout : Json.Layout) :
    FailsOnly Error.Reported (g.jsonText layout) := by
  rw [jsonText, bare.listed.toValue_eq, ok_bind]
  exact .bind (failsOnly_mapError_writeError
    ((bare.nested_stored scalar).failsOnly_writeIn layout (by decide) [] 0)) fun _ _ => .ok _

theorem lettered : g.Lettered where
  names v member := by
    obtain ⟨s, rfl⟩ := bare.vertices v member
    exact ⟨s, rfl⟩
  weights v member := by
    obtain ⟨s, rfl⟩ := bare.vertices v member
    exact ⟨[], rfl⟩

/-- A bare graph is a network, with scalars as attributes. -/
theorem exists_ofGraph (scalar : title.Scalar) :
    ∃ network, Network.ofGraph g = .ok network ∧ network.name.Scalar ∧
      ∀ node ∈ network.nodes, node.size.Scalar ∧ node.centrality.Scalar := by
  have textual : ∀ e ∈ g.edgeList, e.Textual := by
    intro e member
    obtain ⟨src, dest, rfl⟩ := bare.edges e member
    exact ⟨[], rfl⟩
  obtain ⟨network, made, name, shown, -⟩ :=
    Network.exists_ofGraph bare.consistent bare.lettered textual
  have scalars : List.Forall₂ (fun _ node => node.size.Scalar ∧ node.centrality.Scalar)
      g.vertices network.nodes := by
    refine ((List.forall₂_and_left _ _).mpr ⟨bare.vertices, shown⟩).imp ?_
    rintro v node ⟨⟨s, rfl⟩, shows⟩
    exact ⟨shows.size ▸ trivial, shows.centrality ▸ trivial⟩
  refine ⟨network, made, by rwa [name, bare.name], ?_⟩
  exact (forall₂_and_right.mp (scalars.imp fun _ _ both => ⟨trivial, both⟩)).2

/-- A bare graph is written as GraphML, or a number has too many digits. -/
theorem failsOnly_graphMlText (scalar : title.Scalar) :
    FailsOnly Error.Reported g.graphMlText := by
  obtain ⟨network, made, name, nodes⟩ := bare.exists_ofGraph scalar
  rw [graphMlText, made, ok_bind]
  exact GraphMl.failsOnly_write name nodes

/-- A bare graph has a text in each form, or its export fails with an error that is reported. -/
theorem failsOnly_exportText (scalar : title.Scalar) {memory : Nat} {format : ExportFormat}
    (roomy : format.Roomy memory) (shown : Text) :
    FailsOnly Error.Reported (exportText memory g format shown).outcome := by
  cases format with
  | metis request =>
      obtain ⟨format, rfl, room⟩ := roomy
      simp only [exportText, announce, Logged.outcome_bind, Logged.outcome_entry]
      exact .bind (bare.failsOnly_render room) fun _ _ => .ok _
  | json layout => exact bare.failsOnly_jsonText scalar layout
  | graphMl => exact bare.failsOnly_graphMlText scalar

end Bare

end Graph

end TaskGraph
