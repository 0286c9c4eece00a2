/-
Module: TaskGraph.Proofs.Metis.RoundTrip
Purpose: The graph file that is printed for a graph is read back, and says of the graph what
  its vertices and edges tell by their names.
Main exports:
  Metis.columns_ofFormat, Metis.mapM_vertexTokens_eq_ok, Metis.print_eq_ok, Metis.parse_render
-/
import TaskGraph.Proofs.Metis.Acceptance
import TaskGraph.Proofs.Metis.Incidence
import TaskGraph.Proofs.Metis.LinePrinting
import TaskGraph.Proofs.Metis.NumberLines

namespace TaskGraph.Metis

/-! ### The format -/

theorem numberToken_of_lt {n : Nat} (short : n < Value.digitBound) :
    numberToken n = .ok (Text.digitsOf n) := by
  rw [numberToken, if_neg (by simpa using short)]
  rfl

theorem one_lt_digitBound : 1 < Value.digitBound := by
  rw [Value.digitBound_eq]
  exact Nat.one_lt_pow (by decide) (by decide)

theorem numberToken_flag (flag : Bool) :
    numberToken (if flag then 1 else 0) = .ok [Format.flagDigit flag] := by
  have zero : Text.digitsOf 0 = ['0'] := rfl
  have one : Text.digitsOf 1 = ['1'] := rfl
  cases flag with
  | false =>
      simpa [zero, Format.flagDigit] using
        numberToken_of_lt (Nat.zero_lt_one.trans one_lt_digitBound)
  | true => simpa [one, Format.flagDigit] using numberToken_of_lt one_lt_digitBound

theorem code_ofFormat (format : Format) : (Request.ofFormat format).code = .ok format.code := by
  simp only [Request.code, Request.ofFormat, Request.flagNumber, ok_bind, numberToken_flag]
  rfl

theorem isTrue_bool (b : Bool) : (Value.bool b).isTrue = b := rfl

theorem attributes_ofFormat (format : Format) :
    (Request.ofFormat format).attributes.isTrue = format.hasAttributes := by
  obtain ⟨sizes, weights, edges, ncon, positive⟩ := format
  cases sizes <;> cases weights <;> rfl

/-- The fields of the header that are asked for with a format are those of the format, if its
number of weights is short enough where it is written. -/
theorem headerFields_ofFormat_eq_ok {format : Format} {fields : List (List Char)} :
    (Request.ofFormat format).headerFields = .ok fields ↔ fields = format.headerFields ∧
      (format.vertexWeights = true → 1 < format.ncon → format.ncon < Value.digitBound) := by
  rw [Request.headerFields, attributes_ofFormat, code_ofFormat, Format.headerFields]
  simp only [Request.ofFormat, isTrue_bool, Value.lt?_int, Request.nconText, ok_bind]
  cases attributes : format.hasAttributes with
  | false =>
      have unweighted : format.vertexWeights ≠ true := by
        intro weighted
        simp [Format.hasAttributes, weighted] at attributes
      simp [unweighted, eq_comm]
  | true =>
      by_cases several : format.vertexWeights = true ∧ 1 < format.ncon
      · obtain ⟨weighted, many⟩ := several
        simp only [weighted, many, Nat.one_lt_cast, decide_true, beq_self_eq_true, Bool.and_self,
          if_true, forall_const, bind_eq_ok]
        constructor
        · intro returned
          obtain ⟨count, printed, ⟨⟩⟩ := returned
          obtain ⟨rfl, short⟩ := numberToken_eq_ok printed
          exact ⟨rfl, short⟩
        · intro written
          obtain ⟨rfl, short⟩ := written
          exact ⟨_, numberToken_of_lt short, rfl⟩
      · have single : (format.vertexWeights && decide (1 < format.ncon)) = false := by
          simpa using several
        have unwritten : format.vertexWeights = true → 1 < format.ncon →
            format.ncon < Value.digitBound := fun weighted many => absurd ⟨weighted, many⟩ several
        simp only [Option.some_beq_some, beq_true, Nat.one_lt_cast, single, Bool.false_eq_true,
          if_false, if_true, Except.ok.injEq, eq_comm (a := fields)]
        exact (and_iff_left unwritten).symm

/-- The columns that are asked for with a format are those of the format. -/
theorem columns_ofFormat_eq_ok {format : Format} {columns : Columns} :
    (Request.ofFormat format).columns = .ok columns ↔ columns = format.columns ∧
      (format.vertexWeights = true → 1 < format.ncon → format.ncon < Value.digitBound) := by
  simp only [Request.columns, bind_eq_ok, headerFields_ofFormat_eq_ok]
  constructor
  · intro returned
    obtain ⟨_, ⟨rfl, short⟩, ⟨⟩⟩ := returned
    exact ⟨rfl, short⟩
  · intro asked
    obtain ⟨rfl, short⟩ := asked
    exact ⟨_, ⟨rfl, short⟩, rfl⟩

theorem columns_ofFormat {format : Format} {columns : Columns}
    (returned : (Request.ofFormat format).columns = .ok columns) :
    columns = format.columns ∧
      (format.vertexWeights = true → 1 < format.ncon → format.ncon < Value.digitBound) :=
  columns_ofFormat_eq_ok.mp returned

/-! ### Vertex lines -/

theorem numbers_written (format : Format) (line : VertexLine) :
    line.numbers format.written = line.numbers format := by
  simp [VertexLine.numbers]

/-- What is printed for a vertex is what its line has to say. -/
theorem vertexTokens_eq_ok {memory : Nat} {g : Graph} (sound : g.Sound) {format : Format}
    {v : Vertex} {place : Nat} {tokens : List (List Char)} (held : g.vertices[place]? = some v)
    (printed : vertexTokens memory format.columns (properLinks g) v place = .ok tokens) :
    ∃ line, (contentsOf? g format v = some line ∧ line.Fits format.written ∧
      line.neighbors = (incident (properLinks g) place).map (·.1 + 1)) ∧
      Prints tokens (line.numbers format.written) := by
  have found := sound.vertex place v held
  simp only [vertexTokens, bind_eq_ok] at printed
  obtain ⟨sizes, sizePrinted, weights, weightPrinted, neighbors, neighborPrinted, ⟨⟩⟩ := printed
  obtain ⟨size, sizeEq, sizePrints, unsized⟩ := sizeTokens_eq_ok sizePrinted
  obtain ⟨ws, weightEq, weightPrints, weightLength⟩ := weightTokens_eq_ok weightPrinted
  obtain ⟨edgeWeights, edgeEq, neighborPrints, edgeLength⟩ := neighborTokens_eq_ok neighborPrinted
  let line : VertexLine :=
    { size, weights := ws, neighbors := (incident (properLinks g) place).map (·.1 + 1),
      edgeWeights }
  refine ⟨line, ⟨?_, ?_, rfl⟩, ?_⟩
  · simp only [contentsOf?, sizeEq, weightEq, mapM_indexOf_farEnd sound found]
    rw [incidentEdges_eq sound found, edgeEq]
    rfl
  · exact
      { size := by simpa using unsized
        weights := by
          rw [weightLength, Format.vertexWeights_written, Format.ncon_written]
          split <;> rfl
        edgeWeights := by simpa [line] using edgeLength }
  · rw [numbers_written]
    exact (sizePrints.append weightPrints).append neighborPrints

/-- What is printed for all vertices is what their lines have to say, and neighbors are where
the links are. -/
theorem mapM_vertexTokens_eq_ok {memory : Nat} {g : Graph} (sound : g.Sound) {format : Format}
    {lines : List (List (List Char))}
    (printed : (g.vertices.zipIdx.mapM fun (v, place) =>
      vertexTokens memory format.columns (properLinks g) v place) = .ok lines) :
    ∃ vertices, g.vertices.mapM (contentsOf? g format) = some vertices ∧
      List.Forall₂ (fun vertex tokens => Prints tokens (vertex.numbers format.written))
        vertices lines ∧
      (∀ vertex ∈ vertices, vertex.Fits format.written) ∧
      vertices.map (·.neighbors) = (List.range g.vertexCount).map fun place =>
        (incident (properLinks g) place).map (·.1 + 1) := by
  have each := forall₂_of_mapM_eq_ok printed fun entry member tokens returned =>
    vertexTokens_eq_ok sound (List.mem_zipIdx_iff_getElem?.mp member) returned
  obtain ⟨vertices, found, prints⟩ := exists_between each
  refine ⟨vertices, ?_, prints, ?_, ?_⟩
  · rw [mapM_eq_some, ← List.zipIdx_map_fst 0 g.vertices, List.forall₂_map_left_iff]
    exact found.imp fun _ _ both => both.1
  · have fits : List.Forall₂ (fun entry vertex => contentsOf? g format entry.1 = some vertex ∧
        vertex.Fits format.written) g.vertices.zipIdx vertices :=
      found.imp fun _ _ both => ⟨both.1, both.2.1⟩
    exact (forall₂_and_right.mp fits).2
  · have places : g.vertices.zipIdx.map (·.2) = List.range g.vertexCount := by
      rw [List.zipIdx_map_snd, Graph.length_vertices, List.range_eq_range']
    rw [← places, List.map_map]
    apply List.forall₂_eq_eq_eq.le
    rw [List.forall₂_map_left_iff, List.forall₂_map_right_iff]
    exact (found.imp fun _ _ both => both.2.2).flip

/-! ### The lines agree -/

section Agreement

variable {links : List Link} {summary : Summary}
  (listed : summary.vertices.map (·.neighbors) = (List.range summary.vertexCount).map fun place =>
    (incident links place).map (·.1 + 1))

include listed

theorem multiplicity_listed (i v : Nat) :
    summary.multiplicity (i + 1) v =
      if i < summary.vertexCount then ((incident links i).map (·.1 + 1)).count v else 0 := by
  have here := congrArg (·[i]?) listed
  simp only [List.getElem?_map] at here
  rw [Summary.multiplicity_succ]
  have through : (summary.vertices[i]?.map fun vertex => vertex.neighbors.count v) =
      (summary.vertices[i]?.map (·.neighbors)).map (·.count v) := by
    rw [Option.map_map]
    rfl
  rw [through, here]
  split
  · rename_i within
    rw [List.getElem?_range within]
    rfl
  · rename_i beyond
    rw [List.getElem?_eq_none (by simpa using beyond)]
    rfl

theorem multiplicity_listed_comm (u v : Nat) (uPositive : 1 ≤ u)
    (uWithin : u ≤ summary.vertexCount) (vPositive : 1 ≤ v) (vWithin : v ≤ summary.vertexCount) :
    summary.multiplicity u v = summary.multiplicity v u := by
  obtain ⟨i, rfl⟩ := Nat.exists_eq_add_of_le' uPositive
  obtain ⟨j, rfl⟩ := Nat.exists_eq_add_of_le' vPositive
  have successor : Function.Injective fun n : Nat => n + 1 := fun _ _ => Nat.succ.inj
  have each (place : Nat) : (incident links place).map (·.1 + 1) =
      ((incident links place).map (·.1)).map fun n => n + 1 := by
    rw [List.map_map]
    rfl
  rw [multiplicity_listed listed, multiplicity_listed listed, if_pos (by omega),
    if_pos (by omega), each, each, List.count_map_of_injective _ _ successor,
    List.count_map_of_injective _ _ successor, count_neighbors_comm]

theorem multiplicity_listed_self (proper : ∀ link ∈ links, link.source ≠ link.target) (u : Nat) :
    summary.multiplicity u u = 0 := by
  cases u with
  | zero => rfl
  | succ i =>
      rw [multiplicity_listed listed]
      split
      · rw [List.count_eq_zero]
        intro member
        obtain ⟨pair, inside, same⟩ := List.mem_map.mp member
        refine not_mem_neighbors proper i (List.mem_map.mpr ⟨pair, inside, ?_⟩)
        omega
      · rfl

theorem adjacencyEntries_listed (proper : ∀ link ∈ links, link.source ≠ link.target)
    (within : ∀ link ∈ links,
      link.source < summary.vertexCount ∧ link.target < summary.vertexCount) :
    summary.adjacencyEntries = 2 * links.length := by
  have lengths := congrArg (List.map List.length) listed
  simp only [List.map_map, Function.comp_def, List.length_map] at lengths
  rw [← sum_length_incident proper within, Summary.adjacencyEntries, List.length_flatMap, lengths]

theorem neighbor_listed (within : ∀ link ∈ links,
      link.source < summary.vertexCount ∧ link.target < summary.vertexCount)
    {vertex : VertexLine} (member : vertex ∈ summary.vertices) {neighbor : Nat}
    (inside : neighbor ∈ vertex.neighbors) : 1 ≤ neighbor ∧ neighbor ≤ summary.vertexCount := by
  have found : vertex.neighbors ∈ summary.vertices.map (·.neighbors) :=
    List.mem_map.mpr ⟨vertex, member, rfl⟩
  rw [listed] at found
  obtain ⟨place, -, same⟩ := List.mem_map.mp found
  rw [← same] at inside
  obtain ⟨pair, pairMember, rfl⟩ := List.mem_map.mp inside
  have := lt_of_mem_neighbors within (List.mem_map.mpr ⟨pair, pairMember, rfl⟩)
  omega

end Agreement

/-! ### The header -/

/-- The fields of a header give the format that a file can tell. -/
theorem formatFields_written (format : Format) :
    FormatFields (format.headerFields.map Text.symbols) format.written := by
  have flags : CodeOf (Text.symbols format.code) format.written :=
    ⟨0, by simp [Format.code]⟩
  unfold Format.headerFields
  cases attributes : format.hasAttributes with
  | false =>
      have plain : format.written = {} := by
        obtain ⟨sizes, weights, edges, ncon, positive⟩ := format
        simp only [Format.hasAttributes, Bool.or_eq_false_iff] at attributes
        obtain ⟨⟨rfl, rfl⟩, rfl⟩ := attributes
        rfl
      rw [plain]
      exact .none
  | true =>
      rw [if_pos rfl]
      split
      · rename_i several
        simp only [Bool.and_eq_true, decide_eq_true_eq] at several
        refine .counted flags ?_
        rw [Format.ncon_written, if_pos several.1]
        exact .digitsOf format.ncon
      · rename_i single
        refine .code flags ?_
        rw [Format.ncon_written]
        have positive := format.ncon_pos
        split
        · rename_i weighted
          simp only [weighted, Bool.true_and, decide_eq_true_eq] at single
          omega
        · rfl

theorem isShortRun_digitsOf {n : Nat} (short : n < Value.digitBound) :
    IsShortRun (Text.digitsOf n) where
  nonempty := Text.digitsOf_ne_nil n
  digits c member := Text.isPlainDigit_of_mem_digitsOf member
  short := (Text.length_digitsOf_le_iff (by decide)).mpr (by rwa [Value.digitBound_eq] at short)

theorem isShortRun_code (format : Format) : IsShortRun format.code where
  nonempty := by simp [Format.code]
  digits c member := by
    have binary : c = '0' ∨ c = '1' := by
      simp only [Format.code, Format.flagDigit, List.mem_cons, List.not_mem_nil, or_false] at member
      grind
    rcases binary with rfl | rfl <;> decide
  short := by
    change 3 ≤ 4300
    decide

theorem isShortRun_headerFields {format : Format}
    (short : format.vertexWeights = true → 1 < format.ncon → format.ncon < Value.digitBound)
    {field : List Char} (member : field ∈ format.headerFields) : IsShortRun field := by
  unfold Format.headerFields at member
  split at member
  · rcases List.mem_cons.mp member with rfl | count
    · exact isShortRun_code format
    · split at count
      · rename_i several
        simp only [Bool.and_eq_true, decide_eq_true_eq] at several
        rw [List.mem_singleton.mp count]
        exact isShortRun_digitsOf (short several.1 several.2)
      · simp at count
  · simp at member

theorem Prints.isShortRun {tokens : List (List Char)} {numbers : List Nat}
    (prints : Prints tokens numbers) {token : List Char} (member : token ∈ tokens) :
    IsShortRun token := by
  obtain ⟨rfl, short⟩ := prints
  obtain ⟨n, inside, rfl⟩ := List.mem_map.mp member
  exact isShortRun_digitsOf (short n inside)

/-- The words of a line that prints numbers write them. -/
theorem Prints.writesAll {tokens : List (List Char)} {numbers : List Nat}
    (prints : Prints tokens numbers) :
    WritesAll (Text.symbols (Text.unwords tokens)) numbers := by
  rw [WritesAll, words_unwords_runs fun token member => prints.isShortRun member, prints.1,
    List.map_map, List.forall₂_map_left_iff, List.forall₂_same]
  exact fun n _ => .digitsOf n

/-- The header line is one, with the counts of the graph. -/
theorem headerTokens_eq_ok {g : Graph} {format : Format} {tokens : List (List Char)}
    (short : format.vertexWeights = true → 1 < format.ncon → format.ncon < Value.digitBound)
    (printed : headerTokens g format.columns = .ok tokens) :
    (∀ token ∈ tokens, IsShortRun token) ∧
      Header (Text.symbols (Text.unwords tokens)) g.vertexCount (properLinks g).length
        format.written := by
  simp only [headerTokens, bind_eq_ok] at printed
  obtain ⟨verticesToken, verticesPrinted, edgesToken, edgesPrinted, ⟨⟩⟩ := printed
  obtain ⟨rfl, verticesShort⟩ := numberToken_eq_ok verticesPrinted
  obtain ⟨rfl, edgesShort⟩ := numberToken_eq_ok edgesPrinted
  have runs : ∀ token ∈ Text.digitsOf g.vertexCount ::
      Text.digitsOf (properLinks g).length :: format.columns.header, IsShortRun token := by
    intro token member
    simp only [List.mem_cons] at member
    rcases member with rfl | rfl | field
    · exact isShortRun_digitsOf verticesShort
    · exact isShortRun_digitsOf edgesShort
    · exact isShortRun_headerFields short field
  exact ⟨runs, _, _, _, words_unwords_runs runs, .digitsOf g.vertexCount,
    .digitsOf (properLinks g).length, formatFields_written format⟩

/-! ### The file -/

/-- What is printed for a graph is a graph file. -/
theorem print_eq_ok {memory : Nat} {g : Graph} (sound : g.Sound) {format : Format}
    {text : List Char}
    (short : format.vertexWeights = true → 1 < format.ncon → format.ncon < Value.digitBound)
    (printed : print memory g format.columns = .ok text) :
    ∃ summary, summaryOf? g format = some summary ∧ PlainNumbers (Text.symbols text) ∧
      IsGraphFile (Text.symbols text) summary := by
  simp only [print, map_eq_ok, tokenLines, bind_eq_ok] at printed
  obtain ⟨all, ⟨head, headPrinted, lines, linesPrinted, ⟨⟩⟩, rfl⟩ := printed
  obtain ⟨headRuns, header⟩ := headerTokens_eq_ok short headPrinted
  obtain ⟨vertices, found, prints, fits, listed⟩ := mapM_vertexTokens_eq_ok sound linesPrinted
  let summary : Summary :=
    { vertexCount := g.vertexCount, edgeCount := (properLinks g).length,
      format := format.written, vertices }
  have runs : AreShortRuns (head :: lines) := by
    intro tokens member
    rcases List.mem_cons.mp member with rfl | later
    · exact headRuns
    · have each : List.Forall₂ (fun vertex tokens => Prints tokens (vertex.numbers format.written) ∧
          ∀ token ∈ tokens, IsShortRun token) vertices lines :=
        prints.imp fun _ _ line => ⟨line, fun token => line.isShortRun⟩
      exact (forall₂_and_right.mp each).2 tokens later
  have proper : ∀ link ∈ properLinks g, link.source ≠ link.target :=
    fun link member => ne_of_mem_properLinks member
  have within : ∀ link ∈ properLinks g,
      link.source < summary.vertexCount ∧ link.target < summary.vertexCount :=
    fun link member => lt_of_mem_properLinks sound member
  refine ⟨summary, ?_, plainNumbers_joinLines runs, ?_⟩
  · simp only [summaryOf?, found, Graph.length_vertices, countP_isProper sound]
    rfl
  · exact
      { layout := by
          refine ⟨_, lines.map fun tokens => Text.symbols (Text.unwords tokens), [],
            by rw [contentLines_joinLines runs, List.append_nil]; rfl, header, ?_, ?_, by simp⟩
          · have counted := congrArg List.length listed
            simpa [prints.length_eq] using counted
          · rw [List.forall₂_map_left_iff]
            exact prints.flip.imp fun _ _ => Prints.writesAll
        fits
        inRange := fun vertex member neighbor => neighbor_listed listed within member
        loopless := multiplicity_listed_self listed proper
        symmetric := multiplicity_listed_comm listed
        entries := adjacencyEntries_listed listed proper within }

/-- Beside its log, rendering prints the columns that are asked for. -/
theorem outcome_render (memory : Nat) (g : Graph) (request : Request) :
    (render memory g request).outcome = request.columns >>= print memory g := by
  unfold render
  simp only
  split
  · simp only [Logged.outcome_bind, Logged.outcome_entry, Logged.outcome_liftM,
      Logged.outcome_ofExcept, ok_bind]
  · simp only [Logged.outcome_bind, Logged.outcome_liftM, Logged.outcome_ofExcept]

/-- A graph file that is printed for a graph, however much memory there is, is read back as what the
graph has to say. -/
theorem parse_render {memory : Nat} {g : Graph} (reached : g.Reachable) {format : Format}
    {text : List Char} (rendered : (render memory g (.ofFormat format)).outcome = .ok text) :
    ∃ summary, summaryOf? g format = some summary ∧
      parse (Text.symbols text) = .ok summary := by
  rw [outcome_render, bind_eq_ok] at rendered
  obtain ⟨columns, returned, printed⟩ := rendered
  obtain ⟨rfl, short⟩ := columns_ofFormat returned
  obtain ⟨summary, found, plain, file⟩ := print_eq_ok reached.sound short printed
  exact ⟨summary, found, (parse_eq_ok plain summary).mpr file⟩

/-- Two vertices, an edge with a label from the first to the second, an edge from the second to
itself, and an edge back. -/
def pairGraph : Graph :=
  let vertices := (({} : Graph).push { name := .text "a" } (.text "a")
    (by rw [Register.find?_eq]; decide +kernel)).push { name := .text "b" } (.text "b")
    (by rw [Register.find?_eq]; decide +kernel)
  ((vertices.join 0 1 { src := .text "a", dest := .text "b", weights := [" 3"].map .text }).join 1 1
    { src := .text "b", dest := .text "b", weights := [].map .text }).join 1 0
      { src := .text "b", dest := .text "a", weights := [].map .text }

theorem reachable_pairGraph : pairGraph.Reachable := by
  unfold pairGraph
  refine .join (.join (.join (.push (.push (.empty _) rfl _) rfl _) _ ?_ ?_) _ ?_ ?_) _ ?_ ?_
  all_goals exact Graph.place?_of_findIdx? rfl (by decide +kernel)

theorem parse_render_pairGraph :
    pairGraph.Reachable ∧
      (render 64 pairGraph (.ofFormat { edgeWeights := true })).outcome =
        .ok "2 2 001\n2 3 2 1\n1 3 1 1\n".toList ∧
      ∃ summary, summaryOf? pairGraph { edgeWeights := true } = some summary ∧
        parse (Text.symbols "2 2 001\n2 3 2 1\n1 3 1 1\n".toList) = .ok summary := by
  have rendered : (render 64 pairGraph (.ofFormat { edgeWeights := true })).outcome =
      .ok "2 2 001\n2 3 2 1\n1 3 1 1\n".toList :=
    toOption_eq_some.mp (by decide +kernel)
  exact ⟨reachable_pairGraph, rendered, parse_render reachable_pairGraph rendered⟩

end TaskGraph.Metis
