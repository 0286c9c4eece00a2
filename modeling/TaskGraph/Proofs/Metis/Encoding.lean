/-
Module: TaskGraph.Proofs.Metis.Encoding
Purpose: What can keep the graph file of a graph from being printed, in the order in which the
  printer comes by it, and where this is an error of the export.
Main exports:
  Metis.Labelled, Metis.exportFaults, Metis.faultOf?_render, Metis.Unencodable,
  Metis.Readable, Metis.render_fails_exactly
-/
import TaskGraph.Proofs.Failure
import TaskGraph.Proofs.Metis.Unlabelled

namespace TaskGraph.Metis

/-! ### Faults of the parts

Sizes are whole numbers and labels are texts; only what a format asks for is looked at. -/

/-- Sizes are whole numbers, and labels are texts. -/
structure Labelled (g : Graph) : Prop where
  sizes : ∀ v ∈ g.vertices, ∃ n : Int, v.size = .int n
  weights : ∀ v ∈ g.vertices, ∃ labels : List Text, v.weights = .list (labels.map .text)
  edges : ∀ e ∈ g.edgeList, ∃ labels : List Text, e.weights = labels.map .text

/-- What keeps a label from being printed: it is no run of digits, or it is one that cannot be
read. -/
def labelFault? (measure : Measure) (label : Value) : Option Error :=
  if Text.isNumeral label.stripped then (faultOf? (Text.readNatural label.stripped)).map .numeral
  else some (.malformedWeight measure label)

/-- What keeps the size of a vertex from being printed: it has too many digits, or is negative. -/
def sizeFault? (v : Vertex) : Option Error :=
  match v.size with
  | .int n =>
    if Value.digitBound ≤ n.natAbs then some .tooManyDigits
    else if n < 0 then some (.malformedWeight (.vertexSize v.name.plain) v.size)
    else none
  | _ => none

/-- There is no room for so many ones. -/
def roomFault? (memory count : Nat) : Option Error :=
  if sequenceBound ≤ count then some .tooLarge
  else if memory ≤ count then some .outOfMemory
  else none

/-- A value that has no text has none for a message either. -/
def nameFault? (name : Value) : Option Error :=
  faultOf? name.asPlain

/-- What keeps the weights of a vertex from being printed: there are too many, or else there is no
room for the ones that are missing, or one of them.  The vertex is named in either case. -/
def weightFaults (memory ncon : Nat) (v : Vertex) : List Error :=
  let labels := v.weights.items?.getD []
  let unnamed := (nameFault? v.name).toList
  if ncon < labels.length then unnamed ++ [.tooManyWeights v.name.plain labels.length (.int ncon)]
  else (roomFault? memory (ncon - labels.length)).toList ++ unnamed ++
    labels.filterMap (labelFault? (.vertexWeight v.name.plain))

/-- What keeps the weight of an edge from being printed: the name of one of its ends, or its first
label. -/
def edgeFaults (e : Edge) : List Error :=
  (faultOf? e.asName).toList ++ (e.weights.head?.bind (labelFault? (.edgeWeight e.name))).toList

/-- What keeps the line of a vertex from being printed: its size, its weights, and the weights of
the edges between it and other vertices, as far as the format has them. -/
def lineFaults (memory : Nat) (g : Graph) (format : Format) (v : Vertex) : List Error :=
  (if format.vertexSizes then (nameFault? v.name).toList ++ (sizeFault? v).toList else []) ++
    (if format.vertexWeights then weightFaults memory format.ncon v else []) ++
    (if format.edgeWeights then (incidentEdges g v.name).flatMap edgeFaults else [])

/-- The numbers of the header are not too long to be written. -/
def HeaderFits (format : Format) (vertexCount edgeCount : Nat) : Prop :=
  vertexCount < Value.digitBound ∧ edgeCount < Value.digitBound ∧
    (format.vertexWeights = true → 1 < format.ncon → format.ncon < Value.digitBound)

instance (format : Format) (vertexCount edgeCount : Nat) :
    Decidable (HeaderFits format vertexCount edgeCount) :=
  inferInstanceAs (Decidable (_ ∧ _ ∧ _))

/-- All that keeps the file of a graph from being printed, from the header on. -/
def exportFaults (memory : Nat) (g : Graph) (format : Format) : List Error :=
  (if HeaderFits format g.vertexCount (properLinks g).length then [] else [.tooManyDigits]) ++
    g.vertices.flatMap (lineFaults memory g format)

/-! ### Names -/

theorem Edge.name_of_asName {e : Edge} {s : Text} (named : e.asName = .ok s) : e.name = s := by
  simp only [Edge.asName, bind_eq_ok] at named
  obtain ⟨src, isSrc, dest, isDest, ⟨⟩⟩ := named
  rw [Edge.name, Value.plain_of_asPlain isSrc, Value.plain_of_asPlain isDest]

theorem nameFault?_eq_none {name : Value} : nameFault? name = none ↔ name.HasText :=
  faultOf?_eq_none

/-- What is said of a vertex by its name fails first where there is no name to say. -/
theorem faultOf?_named {name : Value} {α : Type} {next : Text → Except Error α} :
    faultOf? (name.asPlain >>= next) = (nameFault? name).or (faultOf? (next name.plain)) := by
  apply faultOf?_bind
  intro s written
  rw [Value.plain_of_asPlain written]

/-- Faults that come after one that each item has. -/
theorem findSome?_or {α β : Type} {first : Option β} {later : α → Option β} {xs : List α}
    (some : xs ≠ []) :
    xs.findSome? (fun x => first.or (later x)) = first.or (xs.findSome? later) := by
  cases first with
  | none => simp
  | some fault =>
      obtain ⟨x, rest, rfl⟩ := List.exists_cons_of_ne_nil some
      simp

/-! ### Labels -/

theorem faultOf?_weightToken_text (measure : Measure) (label : Text) :
    faultOf? (weightToken measure (.text label)) = labelFault? measure (.text label) := by
  have stripped : (Value.text label).stripped = Text.strip label.toList := rfl
  rw [weightToken, Value.asPlain_text, ok_bind, labelFault?, stripped]
  by_cases numeral : Text.isNumeral (Text.strip label.toList) = true
  · simp only [numeral, if_true]
    cases Text.readNatural (Text.strip label.toList) with
    | error fault => rfl
    | ok n => rfl
  · simp only [numeral, Bool.false_eq_true, if_false]
    rfl

/-- The label of one digit that stands for a missing one can be printed. -/
theorem labelFault?_one (measure : Measure) : labelFault? measure (.text "1") = none := by
  rw [← faultOf?_weightToken_text, weightToken_of_labelNumber? labelNumber?_one]
  rfl

/-- Labels of a vertex that are texts are printed up to the first one that keeps them from it, where
the vertex has a name. -/
theorem faultOf?_mapM_weightToken (v : Vertex) {labels : List Text} (some : labels ≠ []) :
    faultOf? ((labels.map Value.text).mapM fun label => do
      weightToken (.vertexWeight (← v.name.asPlain)) label) =
      ((nameFault? v.name).toList ++
        (labels.map .text).filterMap (labelFault? (.vertexWeight v.name.plain))).head? := by
  have each : ∀ value ∈ labels.map Value.text,
      faultOf? (do weightToken (.vertexWeight (← v.name.asPlain)) value) =
        (nameFault? v.name).or (labelFault? (.vertexWeight v.name.plain) value) := by
    intro value member
    obtain ⟨label, -, rfl⟩ := List.mem_map.mp member
    rw [faultOf?_named, faultOf?_weightToken_text]
  rw [faultOf?_mapM each, findSome?_or (by simpa using some), List.head?_append,
    Option.head?_toList, List.head?_filterMap]

theorem weightToken_natCast {n : Nat} (short : n < Value.digitBound) (measure : Measure) :
    weightToken measure (.int n) = .ok (Text.digitsOf n) := by
  have text : (Text.ofString (toString (n : Int))).toList = Text.symbols (Text.digitsOf n) := rfl
  have written : Text.Writes (Text.symbols (Text.digitsOf n)) n := .digitsOf n
  have few : (Text.symbols (Text.digitsOf n)).length ≤ Text.maxDigits := by
    rw [Text.length_symbols, Text.length_digitsOf_le_iff (by decide), ← Value.digitBound_eq]
    exact short
  rw [weightToken, Value.asPlain_int (by simpa using short), ok_bind]
  simp only [text, Text.strip_digitsOf, written.isNumeral, if_true, written.readNatural few]

/-- A negative number is no run of digits, because of its dash. -/
theorem weightToken_negSucc {n : Nat} (short : n + 1 < Value.digitBound) (measure : Measure) :
    weightToken measure (.int (.negSucc n)) =
      .error (.malformedWeight measure (.int (.negSucc n))) := by
  have text : (Text.ofString (toString (Int.negSucc n))).toList =
      .char '-' :: Text.symbols (Text.digitsOf (n + 1)) := by
    have written : toString (Int.negSucc n) = "-" ++ toString (n + 1) := rfl
    rw [written, Text.ofString, String.toList_append]
    rfl
  have bare : Text.strip (.char '-' :: Text.symbols (Text.digitsOf (n + 1))) =
      .char '-' :: Text.symbols (Text.digitsOf (n + 1)) := by
    apply Text.strip_eq_self
    intro s member
    rcases List.mem_cons.mp member with rfl | digit
    · decide
    · exact Text.not_isBlank_of_mem_digitsOf digit
  have odd : Text.isNumeral (.char '-' :: Text.symbols (Text.digitsOf (n + 1))) = false := by
    simp [Text.isNumeral, Text.isDigit]
  rw [weightToken, Value.asPlain_int (by simpa using short), ok_bind]
  simp only [text, bare, odd, Bool.false_eq_true, if_false]

/-! ### Parts of a line -/

section Line

variable (format : Format) {v : Vertex}

/-- A vertex is named and its size is looked at if the format has sizes. -/
theorem faultOf?_sizeTokens (sized : ∃ n : Int, v.size = .int n) :
    faultOf? (sizeTokens format.columns v) =
      (if format.vertexSizes then (nameFault? v.name).toList ++ (sizeFault? v).toList
        else []).head? := by
  obtain ⟨n, sized⟩ := sized
  have columns : format.columns.sizes = format.vertexSizes := rfl
  have token : faultOf? (weightToken (.vertexSize v.name.plain) v.size) = sizeFault? v := by
    rw [sizeFault?, sized]
    dsimp only
    by_cases long : Value.digitBound ≤ n.natAbs
    · have shown : (Value.int n).plain? = Value.integerText? n := rfl
      rw [if_pos long, weightToken, Value.asPlain, shown, Value.integerText?, if_pos long]
      rfl
    · rw [if_neg long]
      cases n with
      | ofNat n =>
          rw [if_neg (by simp), faultOf?_eq_none]
          exact ⟨_, weightToken_natCast (by simpa using long) _⟩
      | negSucc n =>
          rw [if_pos (Int.negSucc_lt_zero n), faultOf?_eq_some]
          exact weightToken_negSucc (by simpa using long) _
  rw [sizeTokens, columns]
  split
  · rw [faultOf?_named, faultOf?_bind_ok, token, List.head?_append, Option.head?_toList,
      Option.head?_toList]
  · rfl

theorem faultOf?_missing (memory ncon count : Nat) :
    faultOf? (missing memory (.int ncon) count) = roomFault? memory (ncon - count) := by
  have counted : ((ncon : Int) - count).toNat = ncon - count := by omega
  simp only [missing, counted, roomFault?]
  split
  · rfl
  · split <;> rfl

/-- The weights of a vertex are looked at if the format has weights of vertices.  The ones that
stand for missing labels can always be printed. -/
theorem faultOf?_weightTokens (memory : Nat)
    (weighted : ∃ labels : List Text, v.weights = .list (labels.map .text)) :
    faultOf? (weightTokens memory format.columns v) =
      (if format.vertexWeights then weightFaults memory format.ncon v else []).head? := by
  obtain ⟨labels, weighted⟩ := weighted
  unfold weightTokens
  cases asked : format.vertexWeights with
  | false => simp [Format.columns, asked]
  | true =>
      simp only [Format.columns, asked, if_true]
      have walked : v.weights.walk = .ok (labels.map .text) := by
        rw [weighted]
        rfl
      have items : v.weights.items?.getD [] = labels.map .text := by
        rw [weighted]
        rfl
      rw [weightFaults, items, paddedWeights, walked, ok_bind]
      simp only [Value.lt?_int, Option.some.injEq, decide_eq_true_eq, Nat.cast_lt]
      by_cases many : format.ncon < (labels.map Value.text).length
      · rw [if_pos many, if_pos many, bind_assoc, faultOf?_named, List.head?_append,
          Option.head?_toList]
        rfl
      · rw [if_neg many, if_neg many, bind_assoc, List.append_assoc, List.head?_append,
          Option.head?_toList, ← faultOf?_missing]
        apply faultOf?_bind
        intro count made
        have positive := format.ncon_pos
        have padded : labels ++ List.replicate count (Text.ofString "1") ≠ [] := by
          have added := (missing_eq_ok.mp made).2
          rw [← List.length_pos_iff]
          simp only [List.length_append, List.length_replicate, List.length_map] at many added ⊢
          omega
        have ones : labels.map Value.text ++ List.replicate count (.text "1") =
            (labels ++ List.replicate count (Text.ofString "1")).map .text := by
          rw [List.map_append, List.map_replicate]
        rw [ok_bind, ones, faultOf?_mapM_weightToken v padded, ← ones, List.filterMap_append,
          List.filterMap_replicate_of_none (labelFault?_one _), List.append_nil]

/-- A neighbor has a number that is not too long, so that only the name of the edge to it and its
weight are looked at, if the format has weights of edges. -/
theorem faultOf?_neighborTokens {other : Nat} (short : other + 1 < Value.digitBound) {edge : Edge}
    (weighted : ∃ labels : List Text, edge.weights = labels.map .text) :
    faultOf? (neighborTokens format.columns other edge) =
      (if format.edgeWeights then edgeFaults edge else []).head? := by
  obtain ⟨labels, weighted⟩ := weighted
  have columns : format.columns.edgeWeights = format.edgeWeights := rfl
  have number : numberToken ((other : Int) + 1) = .ok (Text.digitsOf (other + 1)) :=
    numberToken_of_lt short
  have token : faultOf? (weightToken (.edgeWeight edge.name) (edgeLabel edge)) =
      edge.weights.head?.bind (labelFault? (.edgeWeight edge.name)) := by
    rw [edgeLabel, weighted]
    cases labels with
    | nil =>
        change faultOf? (weightToken _ (.text "1")) = none
        rw [faultOf?_weightToken_text, labelFault?_one]
    | cons label rest => exact faultOf?_weightToken_text _ label
  rw [neighborTokens, number, ok_bind, columns]
  split
  · rw [edgeFaults, List.head?_append, Option.head?_toList, Option.head?_toList, ← token]
    apply faultOf?_bind
    intro name named
    rw [← Edge.name_of_asName named, faultOf?_bind_ok]
  · rfl

end Line

/-! ### The file -/

section File

variable (memory : Nat) {g : Graph} (sound : g.Sound) (labelled : Labelled g) (format : Format)

include sound labelled

theorem faultOf?_vertexTokens (short : g.vertexCount < Value.digitBound) {v : Vertex} {place : Nat}
    (held : g.vertices[place]? = some v) :
    faultOf? (vertexTokens memory format.columns (properLinks g) v place) =
      (lineFaults memory g format v).head? := by
  have member : v ∈ g.vertices := List.mem_of_getElem? held
  have neighbors : faultOf? ((incident (properLinks g) place).mapM fun pair =>
      neighborTokens format.columns pair.1 pair.2) =
      (if format.edgeWeights then (incidentEdges g v.name).flatMap edgeFaults else []).head? := by
    have each : ∀ pair ∈ incident (properLinks g) place,
        faultOf? (neighborTokens format.columns pair.1 pair.2) =
          (if format.edgeWeights then edgeFaults pair.2 else []).head? := by
      intro pair inside
      have within := lt_of_incident sound inside
      exact faultOf?_neighborTokens format (by omega)
        (labelled.edges _ (mem_edgeList_of_incident inside))
    rw [incidentEdges_eq sound (sound.vertex place v held), faultOf?_mapM each]
    cases format.edgeWeights with
    | false => simp
    | true =>
        rw [if_pos rfl, List.head?_flatMap, List.findSome?_map]
        rfl
  have size := faultOf?_sizeTokens format (labelled.sizes v member)
  have weights := faultOf?_weightTokens format memory (labelled.weights v member)
  rw [vertexTokens, lineFaults, List.append_assoc, List.head?_append, List.head?_append, ← size,
    ← weights, ← neighbors]
  exact faultOf?_bind fun _ _ => faultOf?_bind fun _ _ => faultOf?_bind_ok

/-- The lines of the vertices are printed up to the first one that cannot be. -/
theorem faultOf?_vertexLines (short : g.vertexCount < Value.digitBound) :
    faultOf? (g.vertices.zipIdx.mapM fun entry =>
      vertexTokens memory format.columns (properLinks g) entry.1 entry.2) =
      (g.vertices.flatMap (lineFaults memory g format)).head? := by
  have each : ∀ entry ∈ g.vertices.zipIdx,
      faultOf? (vertexTokens memory format.columns (properLinks g) entry.1 entry.2) =
        (lineFaults memory g format entry.1).head? := fun entry member =>
    faultOf?_vertexTokens memory sound labelled format short
      (List.mem_zipIdx_iff_getElem?.mp member)
  rw [faultOf?_mapM each, List.head?_flatMap, ← List.zipIdx_map_fst 0 g.vertices,
    List.findSome?_map, List.zipIdx_map_fst]
  rfl

omit sound labelled in
theorem numberToken_of_le {n : Nat} (long : Value.digitBound ≤ n) :
    numberToken n = .error .tooManyDigits := by
  rw [numberToken, if_pos (by simpa using long)]

omit sound labelled in
/-- The number of weights is the only one among the fields of a header that can be too long. -/
theorem columns_ofFormat_of_long (weighted : format.vertexWeights = true)
    (several : 1 < format.ncon) (long : Value.digitBound ≤ format.ncon) :
    (Request.ofFormat format).columns = .error .tooManyDigits := by
  have attributes : format.hasAttributes = true := by
    simp [Format.hasAttributes, weighted]
  rw [Request.columns, Request.headerFields, attributes_ofFormat, code_ofFormat]
  simp only [Request.ofFormat, attributes, isTrue_bool, Value.lt?_int, Request.nconText, ok_bind,
    weighted, several, Nat.one_lt_cast, decide_true, beq_self_eq_true, Bool.and_self, if_true,
    numberToken_of_le long]
  rfl

/-- A graph is rendered up to the first thing that keeps it from being. -/
theorem faultOf?_render :
    faultOf? (render memory g (.ofFormat format)).outcome =
      (exportFaults memory g format).head? := by
  rw [outcome_render, exportFaults]
  by_cases ncon : format.vertexWeights = true → 1 < format.ncon → format.ncon < Value.digitBound
  · rw [columns_ofFormat_eq_ok.mpr ⟨rfl, ncon⟩, ok_bind, print, faultOf?_map, tokenLines,
      headerTokens]
    by_cases vertices : g.vertexCount < Value.digitBound
    · by_cases edges : (properLinks g).length < Value.digitBound
      · rw [if_pos ⟨vertices, edges, ncon⟩, List.nil_append, numberToken_of_lt vertices,
          numberToken_of_lt edges, ← faultOf?_vertexLines memory sound labelled format vertices]
        exact faultOf?_bind_ok
      · rw [if_neg fun fits => edges fits.2.1, numberToken_of_lt vertices,
          numberToken_of_le (Nat.le_of_not_lt edges)]
        rfl
    · rw [if_neg fun fits => vertices fits.1, numberToken_of_le (Nat.le_of_not_lt vertices)]
      rfl
  · rw [if_neg fun fits => ncon fits.2.2]
    obtain ⟨weighted, several, long⟩ : format.vertexWeights = true ∧ 1 < format.ncon ∧
        ¬ format.ncon < Value.digitBound := by simpa using ncon
    rw [columns_ofFormat_of_long format weighted several (Nat.le_of_not_lt long)]
    rfl

end File

/-! ### Errors of the export -/

/-- An error of the export: a value is no weight, or a vertex has too many weights. -/
def IsExportError (e : Error) : Prop :=
  (∃ measure value, e = .malformedWeight measure value) ∨
    ∃ vertex count limit, e = .tooManyWeights vertex count limit

/-- A graph cannot be encoded in a format: a size is negative, a vertex has more labels than the
format allows, or a label that the format asks for is no run of decimal digits.  Edges from a vertex
to itself, and labels of an edge after its first, are not asked for. -/
inductive Unencodable (g : Graph) (format : Format) : Prop where
  | size {v : Vertex} {n : Int} (asked : format.vertexSizes = true) (member : v ∈ g.vertices)
      (sized : v.size = .int n) (negative : n < 0)
  | tooMany {v : Vertex} {labels : List Value} (asked : format.vertexWeights = true)
      (member : v ∈ g.vertices) (labelled : v.weights = .list labels)
      (many : format.ncon < labels.length)
  | vertexWeight {v : Vertex} {labels : List Value} {label : Value}
      (asked : format.vertexWeights = true) (member : v ∈ g.vertices)
      (labelled : v.weights = .list labels) (inside : label ∈ labels)
      (odd : ¬ Text.IsDecimal label.stripped)
  | edgeWeight {e : Edge} {label : Value} {others : List Value}
      (asked : format.edgeWeights = true) (member : e ∈ g.edgeList) (proper : isProper e = true)
      (labelled : e.weights = label :: others) (odd : ¬ Text.IsDecimal label.stripped)

/-- A label can be read if it is a run of digits: they are decimal, and not too many. -/
def LabelReadable (label : Value) : Prop :=
  Text.isNumeral label.stripped = true → ¬ ∃ fault, Text.Unreadable label.stripped fault

/-- Nothing stands in the way of a graph but what cannot be encoded: what is looked at can be named,
all runs of digits that a format asks for can be read, no number is too long to be written, and
there is room for the weights of a vertex. -/
structure Readable (memory : Nat) (g : Graph) (format : Format) : Prop
    extends Printable memory format g.vertexCount (properLinks g).length where
  names : format.vertexSizes = true ∨ format.vertexWeights = true → ∀ v ∈ g.vertices, v.name.HasText
  ends : format.edgeWeights = true → ∀ e ∈ g.edgeList, isProper e = true →
    e.src.HasText ∧ e.dest.HasText
  sizes : format.vertexSizes = true → ∀ v ∈ g.vertices, ∀ n : Int, v.size = .int n →
    n.natAbs < Value.digitBound
  weights : format.vertexWeights = true → ∀ v ∈ g.vertices, ∀ labels, v.weights = .list labels →
    ∀ label ∈ labels, LabelReadable label
  labels : format.edgeWeights = true → ∀ e ∈ g.edgeList, isProper e = true →
    ∀ label others, e.weights = label :: others → LabelReadable label

section Label

variable {measure : Measure} {label : Value} (readable : LabelReadable label)

include readable

/-- A label that can be read keeps a graph from being printed only if it is no run of digits. -/
theorem labelFault?_eq :
    labelFault? measure label =
      if Text.isNumeral label.stripped then none else some (.malformedWeight measure label) := by
  rw [labelFault?]
  by_cases numeral : Text.isNumeral label.stripped = true
  · rw [if_pos numeral, if_pos numeral]
    cases read : Text.readNatural label.stripped with
    | error fault => exact absurd ⟨fault, Text.readNatural_eq_error.mp read⟩ (readable numeral)
    | ok n => rfl
  · rw [if_neg numeral, if_neg numeral]

theorem isNumeral_iff_isDecimal :
    Text.isNumeral label.stripped = true ↔ Text.IsDecimal label.stripped := by
  refine ⟨fun numeral => ?_, Text.IsDecimal.isNumeral⟩
  have read := readable numeral
  rw [Text.exists_unreadable_iff, not_or, not_exists] at read
  refine ⟨fun empty => ?_, fun s member => ?_⟩
  · rw [empty] at numeral
    cases numeral
  · rw [Option.isSome_iff_ne_none]
    exact fun odd => read.2 s ⟨member, odd⟩

theorem labelFault?_eq_some {e : Error} :
    labelFault? measure label = some e ↔
      ¬ Text.IsDecimal label.stripped ∧ e = .malformedWeight measure label := by
  rw [labelFault?_eq readable, ← isNumeral_iff_isDecimal readable]
  split <;> simp [*, eq_comm]

end Label

section Export

variable {g : Graph} {format : Format}

theorem sizeFault?_eq_some {v : Vertex} {n : Int} (sized : v.size = .int n)
    (short : n.natAbs < Value.digitBound) {e : Error} :
    sizeFault? v = some e ↔ n < 0 ∧ e = .malformedWeight (.vertexSize v.name.plain) v.size := by
  rw [sizeFault?, sized]
  simp only
  rw [if_neg (by omega)]
  split <;> simp [*, eq_comm]

theorem roomFault?_eq_none {memory count : Nat} (room : Fits memory count) :
    roomFault? memory count = none := by
  obtain ⟨inMemory, inSequence⟩ := room
  rw [roomFault?, if_neg (by omega), if_neg (by omega)]

/-- Where there is room, too many labels or one of them keep the weights of a vertex with a name
from being printed. -/
theorem mem_weightFaults {memory ncon : Nat} {v : Vertex} {labels : List Value}
    (named : v.name.HasText) (labelled : v.weights = .list labels) (room : Fits memory ncon)
    {e : Error} :
    e ∈ weightFaults memory ncon v ↔
      (ncon < labels.length ∧ e = .tooManyWeights v.name.plain labels.length (.int ncon)) ∨
      (¬ ncon < labels.length ∧
        ∃ label ∈ labels, labelFault? (.vertexWeight v.name.plain) label = some e) := by
  have items : v.weights.items?.getD [] = labels := by
    rw [labelled]
    rfl
  have less : Fits memory (ncon - labels.length) :=
    ⟨(Nat.sub_le _ _).trans_lt room.1, (Nat.sub_le _ _).trans_lt room.2⟩
  rw [weightFaults, items, roomFault?_eq_none less, nameFault?_eq_none.mpr named]
  by_cases many : ncon < labels.length
  · simp [many]
  · simp [many]

/-- The first label keeps the weight of an edge whose ends have names from being printed. -/
theorem mem_edgeFaults {edge : Edge} (src : edge.src.HasText) (dest : edge.dest.HasText)
    {e : Error} :
    e ∈ edgeFaults edge ↔ ∃ label others, edge.weights = label :: others ∧
      labelFault? (.edgeWeight edge.name) label = some e := by
  have named : faultOf? edge.asName = none := by
    obtain ⟨s, isSrc⟩ := src
    obtain ⟨t, isDest⟩ := dest
    rw [Edge.asName, isSrc, isDest]
    rfl
  rw [edgeFaults, named]
  cases edge.weights with
  | nil => simp
  | cons label others => simp

theorem mem_lineFaults {memory : Nat} {v : Vertex} {e : Error} :
    e ∈ lineFaults memory g format v ↔
      (format.vertexSizes = true ∧ (nameFault? v.name = some e ∨ sizeFault? v = some e)) ∨
      (format.vertexWeights = true ∧ e ∈ weightFaults memory format.ncon v) ∨
      (format.edgeWeights = true ∧ ∃ edge ∈ incidentEdges g v.name, e ∈ edgeFaults edge) := by
  simp only [lineFaults, List.mem_append, List.mem_ite_nil_right, Option.mem_toList,
    List.mem_flatMap, or_assoc]

/-- Every proper edge stands on the line of some vertex. -/
theorem exists_incidentEdges (sound : g.Sound) {edge : Edge} (member : edge ∈ g.edgeList)
    (proper : isProper edge = true) : ∃ v ∈ g.vertices, edge ∈ incidentEdges g v.name := by
  obtain ⟨link, inside, rfl⟩ := List.mem_map.mp member
  obtain ⟨source, -⟩ := sound.link link inside
  have within : link.source < g.vertices.length := by
    rw [Graph.length_vertices]
    exact Graph.lt_vertexCount source
  have found := sound.vertex _ _ (List.getElem?_eq_getElem within)
  refine ⟨_, List.getElem_mem within, List.mem_filter.mpr ⟨member, ?_⟩⟩
  rw [proper, (Graph.same_iff_place_eq source found).mpr rfl]
  rfl

variable {memory : Nat} (readable : Readable memory g format)

include readable

theorem mem_exportFaults {e : Error} :
    e ∈ exportFaults memory g format ↔ ∃ v ∈ g.vertices, e ∈ lineFaults memory g format v := by
  rw [exportFaults, if_pos ⟨readable.vertices, readable.edges, readable.ncon⟩, List.nil_append,
    List.mem_flatMap]

theorem room_of_mem (asked : format.vertexWeights = true) {v : Vertex} (member : v ∈ g.vertices) :
    Fits memory format.ncon := by
  apply readable.room asked
  rw [← Graph.length_vertices]
  exact List.length_pos_of_mem member

/-- All that keeps a readable graph from being printed is an error of the export, and comes from
what cannot be encoded. -/
theorem unencodable_of_mem_exportFaults (labelled : Labelled g) {e : Error}
    (member : e ∈ exportFaults memory g format) : IsExportError e ∧ Unencodable g format := by
  obtain ⟨v, inside, fault⟩ := (mem_exportFaults readable).mp member
  rcases mem_lineFaults.mp fault with
    ⟨asked, unnamed | size⟩ | ⟨asked, weights⟩ | ⟨asked, edge, incident, weight⟩
  · rw [nameFault?_eq_none.mpr (readable.names (.inl asked) v inside)] at unnamed
    cases unnamed
  · obtain ⟨n, sized⟩ := labelled.sizes v inside
    obtain ⟨negative, rfl⟩ :=
      (sizeFault?_eq_some sized (readable.sizes asked v inside n sized)).mp size
    exact ⟨.inl ⟨_, _, rfl⟩, .size asked inside sized negative⟩
  · obtain ⟨texts, weighted⟩ := labelled.weights v inside
    have named := readable.names (.inr asked) v inside
    rcases (mem_weightFaults named weighted (room_of_mem readable asked inside)).mp weights with
      ⟨many, rfl⟩ | ⟨-, label, among, fault⟩
    · exact ⟨.inr ⟨_, _, _, rfl⟩, .tooMany asked inside weighted many⟩
    · obtain ⟨odd, rfl⟩ :=
        (labelFault?_eq_some (readable.weights asked v inside _ weighted label among)).mp fault
      exact ⟨.inl ⟨_, _, rfl⟩, .vertexWeight asked inside weighted among odd⟩
  · obtain ⟨known, proper⟩ := List.mem_filter.mp incident
    rw [Bool.and_eq_true] at proper
    obtain ⟨src, dest⟩ := readable.ends asked edge known proper.1
    obtain ⟨label, others, weighted, fault⟩ := (mem_edgeFaults src dest).mp weight
    obtain ⟨odd, rfl⟩ := (labelFault?_eq_some
      (readable.labels asked edge known proper.1 label others weighted)).mp fault
    exact ⟨.inl ⟨_, _, rfl⟩, .edgeWeight asked known proper.1 weighted odd⟩

/-- What cannot be encoded keeps a graph from being printed. -/
theorem exists_mem_exportFaults (sound : g.Sound) (unencodable : Unencodable g format) :
    ∃ e, e ∈ exportFaults memory g format := by
  simp only [mem_exportFaults readable, mem_lineFaults]
  cases unencodable with
  | size asked member sized negative =>
      have fault := (sizeFault?_eq_some sized (readable.sizes asked _ member _ sized)).mpr
        ⟨negative, rfl⟩
      exact ⟨_, _, member, .inl ⟨asked, .inr fault⟩⟩
  | tooMany asked member weighted many =>
      have tooMany := (mem_weightFaults (readable.names (.inr asked) _ member) weighted
        (room_of_mem readable asked member)).mpr (.inl ⟨many, rfl⟩)
      exact ⟨_, _, member, .inr (.inl ⟨asked, tooMany⟩)⟩
  | vertexWeight asked member weighted inside odd =>
      rename_i v labels label
      have faults := fun e => mem_weightFaults (readable.names (.inr asked) v member) weighted
        (room_of_mem readable asked member) (e := e)
      by_cases many : format.ncon < labels.length
      · exact ⟨_, v, member, .inr (.inl ⟨asked, (faults _).mpr (.inl ⟨many, rfl⟩)⟩)⟩
      · have legible := readable.weights asked v member labels weighted label inside
        exact ⟨_, v, member, .inr (.inl ⟨asked, (faults _).mpr (.inr ⟨many, label, inside,
          (labelFault?_eq_some legible).mpr ⟨odd, rfl⟩⟩)⟩)⟩
  | edgeWeight asked member proper weighted odd =>
      have legible := readable.labels asked _ member proper _ _ weighted
      obtain ⟨src, dest⟩ := readable.ends asked _ member proper
      obtain ⟨v, inside, known⟩ := exists_incidentEdges sound member proper
      exact ⟨_, v, inside, .inr (.inr ⟨asked, _, known, (mem_edgeFaults src dest).mpr
        ⟨_, _, weighted, (labelFault?_eq_some legible).mpr ⟨odd, rfl⟩⟩⟩)⟩

end Export

/-- A graph with sizes that are numbers and labels that are texts is rendered in a format up to the
first thing that keeps it from being.  If all runs of digits in it can be read, and no number is too
big, it is rendered exactly where it can be encoded, and fails with an error of the export where it
cannot. -/
theorem render_fails_exactly {g : Graph} (reached : g.Reachable) (labelled : Labelled g)
    (memory : Nat) (format : Format) :
    (∀ e, (render memory g (.ofFormat format)).outcome = .error e ↔
      (exportFaults memory g format).head? = some e) ∧
    (Readable memory g format →
      ((∃ e, (render memory g (.ofFormat format)).outcome = .error e ∧ IsExportError e) ↔
        Unencodable g format) ∧
      ((∃ text, (render memory g (.ofFormat format)).outcome = .ok text) ↔
        ¬ Unencodable g format)) := by
  have first := faultOf?_render memory reached.sound labelled format
  have fails : ∀ e, (render memory g (.ofFormat format)).outcome = .error e ↔
      (exportFaults memory g format).head? = some e := by
    intro e
    rw [← faultOf?_eq_some, first]
  refine ⟨fails, fun readable => ?_⟩
  have nothing : exportFaults memory g format = [] ↔ ¬ Unencodable g format := by
    rw [List.eq_nil_iff_forall_not_mem]
    constructor
    · intro none unencodable
      obtain ⟨e, member⟩ := exists_mem_exportFaults readable reached.sound unencodable
      exact none e member
    · exact fun encodable e member =>
        encodable (unencodable_of_mem_exportFaults readable labelled member).2
  constructor
  · constructor
    · intro failed
      obtain ⟨e, failure, -⟩ := failed
      exact (unencodable_of_mem_exportFaults readable labelled
        (List.mem_of_head? ((fails e).mp failure))).2
    · intro unencodable
      have some : exportFaults memory g format ≠ [] := fun none => nothing.mp none unencodable
      obtain ⟨e, rest, listed⟩ := List.exists_cons_of_ne_nil some
      refine ⟨e, (fails e).mpr (by rw [listed]; rfl), ?_⟩
      exact (unencodable_of_mem_exportFaults readable labelled (by rw [listed]; simp)).1
  · rw [← faultOf?_eq_none, first, List.head?_eq_none_iff, nothing]

/-- A vertex whose label is a raised two. -/
def raisedGraph : Graph :=
  (default : Graph).push { name := .text "a", weights := .list ([Text.ofString "²"].map .text) }
    (.text "a") (Register.find?_empty _)

theorem reachable_raisedGraph : raisedGraph.Reachable :=
  .push (.empty _) rfl _

theorem labelled_raisedGraph : Labelled raisedGraph where
  sizes v member := by
    rw [List.mem_singleton.mp member]
    exact ⟨1, rfl⟩
  weights v member := by
    rw [List.mem_singleton.mp member]
    exact ⟨_, rfl⟩
  edges e member := by cases member

/-- The raised two passes for a digit, but no number can be made of it. -/
theorem head?_exportFaults_raisedGraph :
    (exportFaults 64 raisedGraph { vertexWeights := true }).head? =
      some (.numeral (.malformed 10 (Text.ofString "²"))) := by
  have fits : HeaderFits { vertexWeights := true } raisedGraph.vertexCount
      (properLinks raisedGraph).length :=
    ⟨one_lt_digitBound, Nat.zero_lt_one.trans one_lt_digitBound,
      fun _ several => absurd several (Nat.lt_irrefl 1)⟩
  rw [exportFaults, if_pos fits]
  rfl

theorem render_fails_exactly_raisedGraph :
    raisedGraph.Reachable ∧ Labelled raisedGraph ∧
      (render 64 raisedGraph (.ofFormat { vertexWeights := true })).outcome =
        .error (.numeral (.malformed 10 (Text.ofString "²"))) :=
  ⟨reachable_raisedGraph, labelled_raisedGraph,
    ((render_fails_exactly reachable_raisedGraph labelled_raisedGraph _ _).1 _).mpr
      head?_exportFaults_raisedGraph⟩

/-- Some graphs are not rendered for another cause than an error of the export. -/
theorem render_raisedGraph :
    ¬ ∀ (g : Graph) (format : Format), g.Reachable → Labelled g →
      ∀ e, (render 64 g (.ofFormat format)).outcome = .error e → IsExportError e := by
  intro only
  have failed := faultOf?_render 64 reachable_raisedGraph.sound labelled_raisedGraph
    { vertexWeights := true }
  rw [head?_exportFaults_raisedGraph, faultOf?_eq_some] at failed
  rcases only _ _ reachable_raisedGraph labelled_raisedGraph _ failed with
    ⟨_, _, ⟨⟩⟩ | ⟨_, _, _, ⟨⟩⟩

end TaskGraph.Metis
