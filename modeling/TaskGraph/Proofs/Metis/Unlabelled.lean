/-
Module: TaskGraph.Proofs.Metis.Unlabelled
Purpose: The graph file of a graph without labels: when it can be printed, and that all its
  sizes and weights are ones.
Main exports:
  Metis.Unlabelled, Metis.Printable, Metis.exists_render_iff, Metis.parse_render_unlabelled
-/
import TaskGraph.Proofs.Metis.RoundTrip

namespace TaskGraph.Metis

/-- Vertices have texts as names, one size and no weights, and edges have no weights. -/
structure Unlabelled (g : Graph) : Prop where
  names : ∀ v ∈ g.vertices, ∃ s : Text, v.name = .text s
  size : ∀ v ∈ g.vertices, v.size = .int 1
  weights : ∀ v ∈ g.vertices, v.weights = .list []
  ends : ∀ e ∈ g.edgeList, ∃ s t : Text, e.src = .text s ∧ e.dest = .text t
  edges : ∀ e ∈ g.edgeList, e.weights = []

/-- There is room for a sequence of so many items. -/
def Fits (memory count : Nat) : Prop :=
  count < memory ∧ count < sequenceBound

/-- A file can be printed with so many vertices and edges: no number has too many digits, and
there is room for the weights of a vertex. -/
structure Printable (memory : Nat) (format : Format) (vertexCount edgeCount : Nat) : Prop where
  vertices : vertexCount < Value.digitBound
  edges : edgeCount < Value.digitBound
  ncon : format.vertexWeights = true → 1 < format.ncon → format.ncon < Value.digitBound
  room : format.vertexWeights = true → 0 < vertexCount → Fits memory format.ncon

/-! ### Ones -/

/-- A label that writes a number is printed as its digits. -/
theorem weightToken_of_labelNumber? {measure : Measure} {label : Value} {n : Nat}
    (number : labelNumber? label = some n) :
    weightToken measure label = .ok (Text.digitsOf n) := by
  unfold labelNumber? at number
  cases plain : label.plain? with
  | error fault => simp [plain] at number
  | ok text =>
      simp only [plain] at number
      split at number
      · rename_i numeral
        have read := toOption_eq_some.mp number
        simp [weightToken, Value.asPlain, plain, Except.mapError, ok_bind, numeral, read]
      · cases number

theorem labelNumber?_int_one : labelNumber? (.int 1) = some 1 := by
  decide +kernel

theorem missing_eq_ok {memory ncon count missing : Nat} :
    Metis.missing memory (.int ncon) count = .ok missing ↔
      Fits memory (ncon - count) ∧ missing = ncon - count := by
  have counted : ((ncon : Int) - count).toNat = ncon - count := by omega
  simp only [Metis.missing, counted, Fits]
  split
  · simp; omega
  · split
    · simp; omega
    · simp [eq_comm]; omega

/-- The ones of a vertex without weights of its own are made if there is room for them. -/
theorem paddedWeights_unlabelled {memory ncon : Nat} {v : Vertex} {labels : List Value}
    (bare : v.weights = .list []) :
    paddedWeights memory (.int ncon) v = .ok labels ↔
      Fits memory ncon ∧ labels = List.replicate ncon (.text "1") := by
  have none : v.weights.walk = .ok [] := by
    rw [bare]
    rfl
  have few : (Value.int ncon).lt? (.int ([] : List Value).length) ≠ some true := by
    simp [Value.lt?_int]
  rw [paddedWeights, none, ok_bind, if_neg few]
  simp only [bind_eq_ok, missing_eq_ok, List.length_nil, Nat.sub_zero, List.nil_append]
  constructor
  · intro padded
    obtain ⟨_, ⟨room, rfl⟩, ⟨⟩⟩ := padded
    exact ⟨room, rfl⟩
  · intro padded
    obtain ⟨room, rfl⟩ := padded
    exact ⟨ncon, ⟨room, rfl⟩, rfl⟩

/-! ### Lines -/

section Lines

variable {memory : Nat} (format : Format) {v : Vertex}

theorem exists_sizeTokens {s : Text} (named : v.name = .text s) (sized : v.size = .int 1) :
    ∃ tokens, sizeTokens format.columns v = .ok tokens := by
  unfold sizeTokens
  rw [sized, named, Value.asPlain_text, ok_bind, weightToken_of_labelNumber? labelNumber?_int_one]
  split
  · exact ⟨_, rfl⟩
  · exact ⟨_, rfl⟩

theorem exists_weightTokens_iff {s : Text} (named : v.name = .text s)
    (bare : v.weights = .list []) :
    (∃ tokens, weightTokens memory format.columns v = .ok tokens) ↔
      (format.vertexWeights = true → Fits memory format.ncon) := by
  unfold weightTokens
  cases weighted : format.vertexWeights with
  | false => simp [Format.columns, weighted]
  | true =>
      simp only [Format.columns, weighted, if_true, forall_const, bind_eq_ok,
        paddedWeights_unlabelled bare]
      constructor
      · intro printed
        obtain ⟨_, _, ⟨room, -⟩, -⟩ := printed
        exact room
      · intro room
        have ones : ∀ label ∈ List.replicate format.ncon (Value.text "1"), ∃ token,
            (do weightToken (.vertexWeight (← v.name.asPlain)) label) = .ok token := by
          intro label member
          rw [List.eq_of_mem_replicate member, named, Value.asPlain_text, ok_bind]
          exact ⟨_, weightToken_of_labelNumber? labelNumber?_one⟩
        obtain ⟨tokens, each⟩ := exists_mapM_eq_ok ones
        exact ⟨tokens, _, ⟨room, rfl⟩, each⟩

theorem exists_neighborTokens {other : Nat} {edge : Edge}
    (short : other + 1 < Value.digitBound)
    (ends : ∃ s t : Text, edge.src = .text s ∧ edge.dest = .text t) (bare : edge.weights = []) :
    ∃ tokens, neighborTokens format.columns other edge = .ok tokens := by
  have label : edgeLabel edge = .text "1" := by
    rw [edgeLabel, bare]
    rfl
  have named : edge.asName = .ok edge.name := by
    obtain ⟨s, t, src, dest⟩ := ends
    rw [Edge.asName, Edge.name, src, dest]
    rfl
  have number : numberToken ((other : Int) + 1) = .ok (Text.digitsOf (other + 1)) :=
    numberToken_of_lt short
  rw [neighborTokens, number, ok_bind, label, named, ok_bind,
    weightToken_of_labelNumber? labelNumber?_one]
  split
  · exact ⟨_, rfl⟩
  · exact ⟨_, rfl⟩

/-- The line of a vertex is printed if there is room for its weights. -/
theorem exists_vertexTokens_iff {links : List Link} {place : Nat} {s : Text}
    (named : v.name = .text s) (sized : v.size = .int 1) (bare : v.weights = .list [])
    (neighbors : ∀ pair ∈ incident links place, ∃ tokens,
      neighborTokens format.columns pair.1 pair.2 = .ok tokens) :
    (∃ tokens, vertexTokens memory format.columns links v place = .ok tokens) ↔
      (format.vertexWeights = true → Fits memory format.ncon) := by
  rw [← exists_weightTokens_iff format named bare]
  obtain ⟨size, sizePrinted⟩ := exists_sizeTokens format named sized
  obtain ⟨others, neighborsPrinted⟩ := exists_mapM_eq_ok neighbors
  simp only [vertexTokens, sizePrinted, ok_bind, bind_eq_ok]
  constructor
  · intro printed
    obtain ⟨_, weights, weightsPrinted, -⟩ := printed
    exact ⟨weights, weightsPrinted⟩
  · intro printed
    obtain ⟨weights, weightsPrinted⟩ := printed
    exact ⟨_, weights, weightsPrinted, others, neighborsPrinted, rfl⟩

end Lines

/-! ### The file -/

section File

variable {memory : Nat} {g : Graph} (sound : g.Sound) (bare : Unlabelled g) (format : Format)

include sound bare

theorem exists_neighborTokens_of_incident (short : g.vertexCount < Value.digitBound) {place : Nat}
    {pair : Nat × Edge} (member : pair ∈ incident (properLinks g) place) :
    ∃ tokens, neighborTokens format.columns pair.1 pair.2 = .ok tokens := by
  have within := lt_of_incident sound member
  have inside := mem_edgeList_of_incident member
  exact exists_neighborTokens format (by omega) (bare.ends _ inside) (bare.edges _ inside)

theorem exists_line_iff (short : g.vertexCount < Value.digitBound) {v : Vertex} {place : Nat}
    (member : (v, place) ∈ g.vertices.zipIdx) :
    (∃ tokens, vertexTokens memory format.columns (properLinks g) v place = .ok tokens) ↔
      (format.vertexWeights = true → Fits memory format.ncon) := by
  have inside : v ∈ g.vertices := List.mem_of_getElem? (List.mem_zipIdx_iff_getElem?.mp member)
  obtain ⟨s, named⟩ := bare.names v inside
  exact exists_vertexTokens_iff format named (bare.size v inside) (bare.weights v inside)
    fun pair neighbor => exists_neighborTokens_of_incident sound bare format short neighbor

theorem exists_print_iff :
    (∃ text, print memory g format.columns = .ok text) ↔
      g.vertexCount < Value.digitBound ∧ (properLinks g).length < Value.digitBound ∧
        (format.vertexWeights = true → 0 < g.vertexCount → Fits memory format.ncon) := by
  simp only [print, map_eq_ok, tokenLines, headerTokens, bind_eq_ok]
  constructor
  · intro printed
    obtain ⟨_, _, ⟨_, ⟨_, verticesPrinted, _, edgesPrinted, -⟩, lines, linesPrinted, -⟩, -⟩ :=
      printed
    have vertices := (numberToken_eq_ok verticesPrinted).2
    refine ⟨vertices, (numberToken_eq_ok edgesPrinted).2, fun weighted some => ?_⟩
    rw [← Graph.length_vertices] at some
    have first : (g.vertices[0], 0) ∈ g.vertices.zipIdx :=
      List.mem_zipIdx_iff_getElem?.mpr (List.getElem?_eq_getElem some)
    obtain ⟨tokens, -, returned⟩ := exists_of_mapM_eq_ok linesPrinted first
    exact (exists_line_iff sound bare format vertices first).mp ⟨tokens, returned⟩ weighted
  · intro printable
    obtain ⟨vertices, edges, room⟩ := printable
    have each : ∀ entry ∈ g.vertices.zipIdx, ∃ tokens,
        vertexTokens memory format.columns (properLinks g) entry.1 entry.2 = .ok tokens := by
      intro entry member
      refine (exists_line_iff sound bare format vertices member).mpr fun weighted =>
        room weighted ?_
      rw [← Graph.length_vertices]
      exact List.length_pos_of_mem (List.mem_of_getElem? (List.mem_zipIdx_iff_getElem?.mp member))
    obtain ⟨lines, linesPrinted⟩ := exists_mapM_eq_ok each
    exact ⟨_, _, ⟨_, ⟨_, numberToken_of_lt vertices, _, numberToken_of_lt edges, rfl⟩, lines,
      linesPrinted, rfl⟩, rfl⟩

/-- A graph without labels is rendered if it can be printed. -/
theorem exists_render_iff :
    (∃ text, (render memory g (.ofFormat format)).outcome = .ok text) ↔
      Printable memory format g.vertexCount (properLinks g).length := by
  simp only [outcome_render, bind_eq_ok]
  constructor
  · intro rendered
    obtain ⟨text, columns, returned, printed⟩ := rendered
    obtain ⟨rfl, short⟩ := columns_ofFormat returned
    obtain ⟨vertices, edges, room⟩ := (exists_print_iff sound bare format).mp ⟨text, printed⟩
    exact ⟨vertices, edges, short, room⟩
  · intro printable
    obtain ⟨text, printed⟩ := (exists_print_iff sound bare format).mpr
      ⟨printable.vertices, printable.edges, printable.room⟩
    exact ⟨text, _, columns_ofFormat_eq_ok.mpr ⟨rfl, printable.ncon⟩, printed⟩

end File

/-! ### What is read back -/

/-- A line whose sizes and weights, where the format has them, are all ones. -/
structure VertexLine.Ones (format : Format) (line : VertexLine) : Prop where
  size : line.size = 1
  weights : line.weights = List.replicate (if format.vertexWeights then format.ncon else 0) 1
  edgeWeights :
    line.edgeWeights = List.replicate (if format.edgeWeights then line.neighbors.length else 0) 1

theorem mapM_edgeNumber?_ones {edges : List Edge} (bare : ∀ e ∈ edges, e.weights = []) :
    edges.mapM edgeNumber? = some (List.replicate edges.length 1) := by
  rw [← List.map_const', mapM_eq_some, List.forall₂_map_right_iff, List.forall₂_same]
  intro e member
  rw [edgeNumber?, bare e member]

theorem ones_of_contentsOf? {g : Graph} {format : Format} {v : Vertex} {line : VertexLine}
    (bare : Unlabelled g) (member : v ∈ g.vertices) (found : contentsOf? g format v = some line) :
    line.Ones format := by
  have edges : ∀ e ∈ incidentEdges g v.name, e.weights = [] :=
    fun e inside => bare.edges e (List.mem_filter.mp inside).1
  have size : sizeOf? format v = some 1 := by
    rw [sizeOf?, bare.size v member, labelNumber?_int_one, ite_self]
  have weights : weightsOf? format v =
      some (List.replicate (if format.vertexWeights then format.ncon else 0) 1) := by
    rw [weightsOf?, bare.weights v member]
    split <;> rfl
  have edgeWeights : edgeWeightsOf? format (incidentEdges g v.name) = some
      (List.replicate (if format.edgeWeights then (incidentEdges g v.name).length else 0) 1) := by
    rw [edgeWeightsOf?, mapM_edgeNumber?_ones edges]
    split <;> rfl
  simp only [contentsOf?, size, weights, edgeWeights, Option.bind_eq_bind, Option.bind_some,
    Option.bind_eq_some_iff] at found
  obtain ⟨neighbors, each, ⟨⟩⟩ := found
  have length := (mapM_eq_some.mp each).length_eq
  exact ⟨rfl, rfl, by rw [length]⟩

theorem not_mem_of_loopless {summary : Summary} (loopless : ∀ u, summary.multiplicity u u = 0)
    {entry : Nat × VertexLine} (member : entry ∈ summary.numbered) :
    entry.1 ∉ entry.2.neighbors := by
  obtain ⟨⟨line, i⟩, held, rfl⟩ := List.mem_map.mp member
  have none := loopless (i + 1)
  rw [Summary.multiplicity_succ, List.mem_zipIdx_iff_getElem?.mp held] at none
  exact List.count_eq_zero.mp none

/-- The file of a graph without labels is read back: it has the vertices of the graph and its
edges between different vertices, and all sizes and weights are ones. -/
theorem parse_render_unlabelled {memory : Nat} {g : Graph} (sound : g.Sound) (bare : Unlabelled g)
    {format : Format} {text : List Char}
    (rendered : (render memory g (.ofFormat format)).outcome = .ok text) :
    ∃ summary, parse (Text.symbols text) = .ok summary ∧ summary.vertexCount = g.vertexCount ∧
      summary.edgeCount = (properLinks g).length ∧
      summary.vertices.length = summary.vertexCount ∧
      summary.adjacencyEntries = 2 * summary.edgeCount ∧
      ∀ entry ∈ summary.numbered, entry.1 ∉ entry.2.neighbors ∧ entry.2.Ones format := by
  rw [outcome_render, bind_eq_ok] at rendered
  obtain ⟨columns, returned, printed⟩ := rendered
  obtain ⟨rfl, short⟩ := columns_ofFormat returned
  obtain ⟨summary, found, plain, file⟩ := print_eq_ok sound short printed
  obtain ⟨vertices, contents, ⟨⟩⟩ := Option.bind_eq_some_iff.mp found
  have members := (List.forall₂_and_left _ _).mpr
    ⟨fun v (member : v ∈ g.vertices) => member, mapM_eq_some.mp contents⟩
  have each : List.Forall₂ (fun v line => contentsOf? g format v = some line ∧ line.Ones format)
      g.vertices vertices :=
    members.imp fun v line both => ⟨both.2, ones_of_contentsOf? bare both.1 both.2⟩
  have ones := (forall₂_and_right.mp each).2
  refine ⟨_, (parse_eq_ok plain _).mpr file, g.length_vertices, countP_isProper sound,
    file.length_vertices, file.entries, fun entry member => ?_⟩
  refine ⟨not_mem_of_loopless file.loopless member, ones _ ?_⟩
  obtain ⟨⟨line, i⟩, held, rfl⟩ := List.mem_map.mp member
  exact List.mem_of_getElem? (List.mem_zipIdx_iff_getElem?.mp held)

end TaskGraph.Metis
