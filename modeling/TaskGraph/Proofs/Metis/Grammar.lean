/-
Module: TaskGraph.Proofs.Metis.Grammar
Purpose: Which texts are graph files, said without a reader, and what is promised of the texts
  that are read.
Main exports:
  Metis.IsGraphFile, Metis.Header, Metis.VertexLine.numbers, Metis.VertexLine.Fits,
  Metis.PlainNumbers
-/
import TaskGraph.Metis.Parser
import TaskGraph.Proofs.Outcome
import TaskGraph.Proofs.Text.Lines
import TaskGraph.Proofs.Text.Numeral

namespace TaskGraph.Metis

/-! ### Headers -/

/-- A code gives the flags of a format: with zeros in front, it has a digit for each. -/
def CodeOf (code : List Symbol) (format : Format) : Prop :=
  ∃ zeros, List.replicate zeros (.char '0') ++ code = Text.symbols format.code

/-- The fields of a header after the two counts give a format.  Without a number of weights
there is one weight, and without a code there are no optional numbers. -/
inductive FormatFields : List (List Symbol) → Format → Prop where
  | none : FormatFields [] {}
  | code {code : List Symbol} {format : Format} (flags : CodeOf code format)
      (single : format.ncon = 1) : FormatFields [code] format
  | counted {code count : List Symbol} {format : Format} (flags : CodeOf code format)
      (number : Text.Writes count format.ncon) : FormatFields [code, count] format

/-- A header says how many vertices and edges there are, and gives the format. -/
def Header (line : List Symbol) (vertexCount edgeCount : Nat) (format : Format) : Prop :=
  ∃ vertices edges fields, Text.words line = vertices :: edges :: fields ∧
    Text.Writes vertices vertexCount ∧ Text.Writes edges edgeCount ∧ FormatFields fields format

/-! ### Vertex lines -/

/-- The numbers on the line of a vertex: its size and its weights, where the format has
them, and its neighbors, each followed by a weight where the format has those. -/
def VertexLine.numbers (format : Format) (line : VertexLine) : List Nat :=
  (if format.vertexSizes then [line.size] else []) ++ line.weights ++
    (if format.edgeWeights then
      (line.neighbors.zip line.edgeWeights).flatMap fun (neighbor, weight) => [neighbor, weight]
    else line.neighbors)

/-- A line has as many weights as the format asks for; without a size its size is one. -/
structure VertexLine.Fits (format : Format) (line : VertexLine) : Prop where
  size : format.vertexSizes = false → line.size = 1
  weights : line.weights.length = if format.vertexWeights then format.ncon else 0
  edgeWeights :
    line.edgeWeights.length = if format.edgeWeights then line.neighbors.length else 0

/-- The words of a line write numbers, one each. -/
def WritesAll (line : List Symbol) (numbers : List Nat) : Prop :=
  List.Forall₂ Text.Writes (Text.words line) numbers

/-! ### Files -/

/-- The lines of a text that are not left out. -/
def contentLines (text : List Symbol) : List (List Symbol) :=
  (Text.lines text).filter (!isComment ·)

/-- A text is a graph file with these contents. -/
structure IsGraphFile (text : List Symbol) (summary : Summary) : Prop where
  /-- A header, then a line for each vertex, then only blank lines. -/
  layout : ∃ first body blank, contentLines text = first :: (body ++ blank) ∧
    Header first summary.vertexCount summary.edgeCount summary.format ∧
    body.length = summary.vertexCount ∧
    List.Forall₂ (fun line vertex => WritesAll line (vertex.numbers summary.format))
      body summary.vertices ∧
    ∀ line ∈ blank, ∀ s ∈ line, s.is Text.isBlank = true
  fits : ∀ vertex ∈ summary.vertices, vertex.Fits summary.format
  inRange : ∀ vertex ∈ summary.vertices, ∀ neighbor ∈ vertex.neighbors,
    1 ≤ neighbor ∧ neighbor ≤ summary.vertexCount
  loopless : ∀ u, summary.multiplicity u u = 0
  symmetric : ∀ u v, 1 ≤ u → u ≤ summary.vertexCount → 1 ≤ v → v ≤ summary.vertexCount →
    summary.multiplicity u v = summary.multiplicity v u
  entries : summary.adjacencyEntries = 2 * summary.edgeCount

/-! ### What the reader is given -/

/-- What is promised of a text: its digits are ASCII, and no word of it has too many. -/
structure PlainNumbers (text : List Symbol) : Prop where
  ascii : ∀ c, Symbol.char c ∈ text → Text.isDigit c = true → c.toNat < 128
  short : ∀ token ∈ Text.words text,
    (token.filter (Symbol.is Text.isDigit)).length ≤ Text.maxDigits

instance (text : List Symbol) : Decidable (PlainNumbers text) :=
  decidable_of_iff
    ((∀ s ∈ text, s.is Text.isDigit = true → s.is (fun c => c.toNat < 128) = true) ∧
      ∀ token ∈ Text.words text, (token.filter (Symbol.is Text.isDigit)).length ≤ Text.maxDigits)
    ⟨fun holds => ⟨fun c member digit => by simpa using holds.1 _ member digit, holds.2⟩,
      fun plain =>
        ⟨fun s member digit => match s with
          | .char c => by simpa using plain.ascii c member digit,
          plain.short⟩⟩

namespace PlainNumbers

/-- A run of digits in such a text is as long as it has digits. -/
theorem length_le {text token : List Symbol} (plain : PlainNumbers text)
    (member : token ∈ Text.words text) (numeral : Text.isNumeral token = true) :
    token.length ≤ Text.maxDigits := by
  have digits : token.filter (Symbol.is Text.isDigit) = token := by
    rw [List.filter_eq_self]
    simp only [Text.isNumeral, Bool.and_eq_true, List.all_eq_true] at numeral
    exact numeral.2
  have short := plain.short token member
  rwa [digits] at short

/-- What is promised of a text holds on each of its lines. -/
theorem line {text line : List Symbol} (plain : PlainNumbers text)
    (member : line ∈ Text.lines text) : PlainNumbers line where
  ascii c inside := plain.ascii c (Text.mem_of_mem_lines member inside)
  short token inside := by
    apply plain.short
    rw [← Text.words_lines]
    exact List.mem_flatMap.mpr ⟨line, member, inside⟩

/-- A run of digits on such a line is read as the number that it writes. -/
theorem natural_eq_ok {text token : List Symbol} (plain : PlainNumbers text)
    (member : token ∈ Text.words text) (numeral : Text.isNumeral token = true) (n : Nat) :
    natural token = .ok n ↔ Text.Writes token n := by
  obtain ⟨m, written⟩ := Text.exists_writes numeral fun c inside =>
    plain.ascii c (Text.mem_of_mem_words member inside)
  have read : Text.readNatural token = .ok m :=
    written.readNatural (plain.length_le member numeral)
  rw [natural, mapError_eq_ok, read]
  constructor
  · intro returned
    cases returned
    exact written
  · intro other
    rw [written.unique other]

theorem exists_natural {text token : List Symbol} (plain : PlainNumbers text)
    (member : token ∈ Text.words text) (numeral : Text.isNumeral token = true) :
    ∃ n, natural token = .ok n := by
  obtain ⟨n, written⟩ := Text.exists_writes numeral fun c inside =>
    plain.ascii c (Text.mem_of_mem_words member inside)
  exact ⟨n, (plain.natural_eq_ok member numeral n).mpr written⟩

end PlainNumbers

end TaskGraph.Metis
