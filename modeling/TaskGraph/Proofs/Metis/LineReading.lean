/-
Module: TaskGraph.Proofs.Metis.LineReading
Purpose: The reader of graph files takes a header or a vertex line exactly where the grammar
  does, with the same numbers, and any other line is a fault of the file.
Main exports:
  Metis.header_eq_ok, Metis.header_refuses, Metis.vertexLine_eq_ok,
  Metis.vertexLine_refuses
-/
import TaskGraph.Proofs.Failure
import TaskGraph.Proofs.Metis.Grammar

namespace TaskGraph.Metis

/-! ### Faults of a file -/

/-- A computation fails only with a fault of the file. -/
def Refuses {α : Type} (outcome : Except Error α) : Prop :=
  ∀ error, outcome = .error error → ∃ fault, error = .graphFile fault

namespace Refuses

variable {α β : Type}

theorem ok (a : α) : Refuses (.ok a) :=
  FailsOnly.ok a

theorem refuse (fault : Fault) : Refuses (Metis.refuse fault : Except Error α) := by
  intro error failed
  cases failed
  exact ⟨fault, rfl⟩

theorem bind {first : Except Error α} {next : α → Except Error β} (before : Refuses first)
    (after : ∀ a, first = .ok a → Refuses (next a)) : Refuses (first >>= next) :=
  FailsOnly.bind before after

theorem mapM {f : α → Except Error β} {xs : List α} (each : ∀ x ∈ xs, Refuses (f x)) :
    Refuses (xs.mapM f) :=
  FailsOnly.mapM each

end Refuses

/-! ### The format in a header -/

/-- A run of digits has no sign in front, so zeros go to its start. -/
theorem fillCode_of_isNumeral {code : List Symbol} (numeral : Text.isNumeral code = true) :
    Format.fillCode code = List.replicate (3 - code.length) (.char '0') ++ code := by
  unfold Format.fillCode
  split
  · exact absurd numeral (by simp [Text.isNumeral, Text.isDigit])
  · exact absurd numeral (by simp [Text.isNumeral, Text.isDigit])
  · rfl

theorem flagDigit_eq {s : Symbol} (binary : s = .char '0' ∨ s = .char '1') :
    Symbol.char (Format.flagDigit (s == .char '1')) = s := by
  rcases binary with rfl | rfl <;> decide

theorem flagDigit_beq (flag : Bool) :
    (Symbol.char (Format.flagDigit flag) == .char '1') = flag := by
  cases flag <;> decide

/-- A code gives the flags of the formats that it stands for. -/
theorem flagsOf_eq_ok {code : List Symbol} (numeral : Text.isNumeral code = true)
    (format : Format) :
    Format.flagsOf code =
        .ok (format.vertexSizes, format.vertexWeights, format.edgeWeights) ↔
      CodeOf code format := by
  constructor
  · intro found
    unfold Format.flagsOf at found
    simp only at found
    split at found
    · rename_i a b c filledEq
      split at found
      · rename_i binary
        rw [filledEq] at binary
        simp only [List.all_cons, List.all_nil, Bool.and_true, Bool.and_eq_true, Bool.or_eq_true,
          beq_iff_eq] at binary
        simp only [Except.ok.injEq, Prod.mk.injEq] at found
        obtain ⟨sizes, weights, edges⟩ := found
        refine ⟨3 - code.length, ?_⟩
        rw [← fillCode_of_isNumeral numeral, filledEq, Format.code, ← sizes, ← weights, ← edges]
        simp [flagDigit_eq binary.1, flagDigit_eq binary.2.1, flagDigit_eq binary.2.2]
      · cases found
    · cases found
  · intro flags
    rcases flags with ⟨zeros, written⟩
    have size := congrArg List.length written
    simp only [List.length_append, List.length_replicate, Text.length_symbols, Format.code,
      List.length_cons, List.length_nil] at size
    have zerosEq : zeros = 3 - code.length := by omega
    rw [zerosEq, ← fillCode_of_isNumeral numeral] at written
    unfold Format.flagsOf
    simp only [written, Format.code, Text.symbols_cons, Text.symbols_nil, flagDigit_beq]
    rw [if_pos]
    cases format.vertexSizes <;> cases format.vertexWeights <;> cases format.edgeWeights <;> decide

/-- The format with a code and a number of weights. -/
theorem ofCode_eq_ok {code : List Symbol} (numeral : Text.isNumeral code = true) (ncon : Nat)
    (format : Format) :
    Format.ofCode code ncon = .ok format ↔ CodeOf code format ∧ format.ncon = ncon := by
  simp only [Format.ofCode, bind_eq_ok, Prod.exists]
  constructor
  · intro steps
    rcases steps with ⟨sizes, weights, edges, flags, made⟩
    unfold Format.make at made
    split at made
    · cases made
      exact ⟨(flagsOf_eq_ok numeral _).mp flags, Int.toNat_natCast ncon⟩
    · cases made
  · intro both
    rcases both with ⟨written, rfl⟩
    refine ⟨_, _, _, (flagsOf_eq_ok numeral format).mpr written, ?_⟩
    have positive := format.ncon_pos
    simp [Format.make, positive]

/-- The reader takes the fields that give a format, and for other ones blames the file. -/
theorem headerFormat_eq_ok {text : List Symbol} {fields : List (List Symbol)}
    (plain : PlainNumbers text) (members : ∀ field ∈ fields, field ∈ Text.words text)
    (numerals : ∀ field ∈ fields, Text.isNumeral field = true) (few : fields.length ≤ 2)
    (format : Format) :
    headerFormat fields = .ok format ↔ FormatFields fields format := by
  have coded (code : List Symbol) (ncon : Nat) (numeral : Text.isNumeral code = true) :
      ((Format.ofCode code ncon).mapError fun fault => Error.graphFile (.badFormat fault)) =
        .ok format ↔ CodeOf code format ∧ format.ncon = ncon := by
    rw [mapError_eq_ok, ofCode_eq_ok numeral]
  rcases fields with _ | ⟨code, _ | ⟨count, _ | ⟨other, others⟩⟩⟩
  · constructor
    · intro returned
      cases returned
      exact .none
    · intro returned
      cases returned
      rfl
  · have numeral := numerals code (by simp)
    simp only [headerFormat, bind_eq_ok]
    constructor
    · intro steps
      rcases steps with ⟨ncon, ⟨⟩, found⟩
      obtain ⟨flags, single⟩ := (coded code 1 numeral).mp found
      exact .code flags single
    · intro fields
      rcases fields with _ | ⟨flags, single⟩
      exact ⟨1, rfl, (coded code 1 numeral).mpr ⟨flags, single⟩⟩
  · have numeral := numerals code (by simp)
    have read := plain.natural_eq_ok (members count (by simp)) (numerals count (by simp))
    simp only [headerFormat, bind_eq_ok, read]
    constructor
    · intro steps
      rcases steps with ⟨ncon, number, found⟩
      obtain ⟨flags, rfl⟩ := (coded code ncon numeral).mp found
      exact .counted flags number
    · intro fields
      rcases fields with _ | _ | ⟨flags, number⟩
      exact ⟨format.ncon, number, (coded code format.ncon numeral).mpr ⟨flags, rfl⟩⟩
  · simp at few

theorem headerFormat_refuses {text : List Symbol} {fields : List (List Symbol)}
    (plain : PlainNumbers text) (members : ∀ field ∈ fields, field ∈ Text.words text)
    (numerals : ∀ field ∈ fields, Text.isNumeral field = true) : Refuses (headerFormat fields) := by
  have coded (code : List Symbol) (ncon : Nat) :
      Refuses
        ((Format.ofCode code ncon).mapError fun fault => Error.graphFile (.badFormat fault)) := by
    cases Format.ofCode code ncon with
    | ok format => exact .ok format
    | error fault => exact .refuse (.badFormat fault)
  rcases fields with _ | ⟨code, _ | ⟨count, others⟩⟩
  · exact .ok _
  · exact .bind (.ok 1) fun ncon _ => coded code ncon
  · obtain ⟨n, read⟩ := plain.exists_natural (members count (by simp)) (numerals count (by simp))
    refine .bind ?_ fun ncon _ => coded code ncon
    rw [read]
    exact .ok n

/-! ### Headers -/

theorem FormatFields.isNumeral {fields : List (List Symbol)} {format : Format}
    (given : FormatFields fields format) (words : ∀ field ∈ fields, field ≠ []) :
    (∀ field ∈ fields, Text.isNumeral field = true) ∧ fields.length ≤ 2 := by
  have coded {code : List Symbol} (flags : CodeOf code format) (nonempty : code ≠ []) :
      Text.isNumeral code = true := by
    obtain ⟨zeros, written⟩ := flags
    have digits : ∀ s ∈ Text.symbols format.code, s.is Text.isDigit = true := by
      simp only [Format.code, Text.symbols_cons, Text.symbols_nil, List.mem_cons,
        List.not_mem_nil, or_false]
      rintro s (rfl | rfl | rfl) <;> simp only [Format.flagDigit] <;> split <;> decide
    simp only [Text.isNumeral, Bool.and_eq_true, Bool.not_eq_true', List.isEmpty_eq_false_iff,
      List.all_eq_true]
    exact ⟨nonempty, fun s member => digits s (by rw [← written]; simp [member])⟩
  cases given with
  | none => simp
  | code flags single => simpa using coded flags (words _ (by simp))
  | counted flags number => simpa using ⟨coded flags (words _ (by simp)), number.isNumeral⟩

/-- The reader takes the headers of the grammar. -/
theorem header_eq_ok {line : List Symbol} (plain : PlainNumbers line)
    (vertexCount edgeCount : Nat) (format : Format) :
    header line = .ok (vertexCount, edgeCount, format) ↔
      Header line vertexCount edgeCount format := by
  unfold header Header
  simp only
  split
  · rename_i vertices edges rest wordsEq
    have member (token : List Symbol) (inside : token ∈ vertices :: edges :: rest) :
        token ∈ Text.words line := by
      rwa [wordsEq]
    split
    · rename_i shape
      obtain ⟨few, numerals⟩ := shape
      rw [List.all_eq_true, wordsEq] at numerals
      have readVertices :=
        plain.natural_eq_ok (member vertices (by simp)) (numerals vertices (by simp))
      have readEdges := plain.natural_eq_ok (member edges (by simp)) (numerals edges (by simp))
      have readFormat := headerFormat_eq_ok plain
        (fun field inside => member field (by simp [inside]))
        (fun field inside => numerals field (by simp [inside])) few
      simp only [bind_eq_ok, readVertices, readEdges, readFormat]
      constructor
      · intro steps
        rcases steps with ⟨n, writesVertices, m, writesEdges, found, fields, ⟨⟩⟩
        exact ⟨vertices, edges, rest, wordsEq, writesVertices, writesEdges, fields⟩
      · intro head
        rcases head with ⟨_, _, _, same, writesVertices, writesEdges, fields⟩
        cases wordsEq.symm.trans same
        exact ⟨_, writesVertices, _, writesEdges, _, fields, rfl⟩
    · rename_i shape
      constructor
      · intro returned
        cases returned
      · intro head
        rcases head with ⟨_, _, _, same, writesVertices, writesEdges, fields⟩
        cases wordsEq.symm.trans same
        obtain ⟨numerals, few⟩ := fields.isNumeral fun field inside =>
          Text.ne_nil_of_mem_words (member field (by simp [inside]))
        refine absurd ⟨few, ?_⟩ shape
        simpa [wordsEq, writesVertices.isNumeral, writesEdges.isNumeral] using numerals
  · rename_i short
    constructor
    · intro returned
      cases returned
    · intro head
      rcases head with ⟨vertices, edges, fields, wordsEq, -⟩
      exact absurd wordsEq (short vertices edges fields)

theorem header_refuses {line : List Symbol} (plain : PlainNumbers line) :
    Refuses (header line) := by
  unfold header
  simp only
  split
  · rename_i vertices edges rest wordsEq
    split
    · rename_i shape
      have numerals := List.all_eq_true.mp shape.2
      have member (token : List Symbol) (inside : token ∈ vertices :: edges :: rest) :
          token ∈ Text.words line := by
        rwa [wordsEq]
      have numeral (token : List Symbol) (inside : token ∈ vertices :: edges :: rest) :
          Text.isNumeral token = true :=
        numerals token (member token inside)
      obtain ⟨n, readVertices⟩ :=
        plain.exists_natural (member vertices (by simp)) (numeral vertices (by simp))
      obtain ⟨m, readEdges⟩ :=
        plain.exists_natural (member edges (by simp)) (numeral edges (by simp))
      rw [readVertices, readEdges]
      refine .bind (.ok n) fun _ _ => .bind (.ok m) fun _ _ => .bind ?_ fun _ _ => .ok _
      exact headerFormat_refuses plain (fun field inside => member field (by simp [inside]))
        fun field inside => numeral field (by simp [inside])
    · exact .refuse _
  · exact .refuse _

/-! ### Vertex lines

The reader takes a size, weights and neighbors off the numbers of a line, one after the other.
Each of these takes exactly what the grammar has at that place. -/

theorem takeSize_eq_ok {format : Format} {number size : Nat} {values rest : List Nat} :
    takeSize format number values = .ok (size, rest) ↔
      values = (if format.vertexSizes then [size] else []) ++ rest ∧
        (format.vertexSizes = false → size = 1) := by
  unfold takeSize
  cases format.vertexSizes with
  | false =>
      simp only [Bool.false_eq_true, if_false, Except.ok.injEq, Prod.mk.injEq, List.nil_append,
        true_implies]
      exact ⟨fun ⟨one, same⟩ => ⟨same, one.symm⟩, fun ⟨same, one⟩ => ⟨one.symm, same⟩⟩
  | true =>
      cases values with
      | nil => simp [refuse]
      | cons value others => simp [eq_comm]

theorem takeSize_refuses (format : Format) (number : Nat) (values : List Nat) :
    Refuses (takeSize format number values) := by
  unfold takeSize
  split
  · split
    · exact .refuse _
    · exact .ok _
  · exact .ok _

theorem takeWeights_eq_ok {format : Format} {number : Nat} {values weights rest : List Nat} :
    takeWeights format number values = .ok (weights, rest) ↔
      values = weights ++ rest ∧
        weights.length = if format.vertexWeights then format.ncon else 0 := by
  unfold takeWeights
  cases format.vertexWeights with
  | false =>
      simp only [Bool.false_eq_true, if_false, Except.ok.injEq, Prod.mk.injEq,
        List.length_eq_zero_iff]
      constructor
      · intro both
        rcases both with ⟨rfl, rfl⟩
        exact ⟨rfl, rfl⟩
      · intro both
        rcases both with ⟨rfl, rfl⟩
        exact ⟨rfl, rfl⟩
  | true =>
      simp only [if_true]
      split
      · rename_i few
        constructor
        · intro returned
          cases returned
        · intro both
          rcases both with ⟨rfl, enough⟩
          rw [List.length_append] at few
          omega
      · rename_i enough
        constructor
        · intro returned
          cases returned
          exact ⟨(List.take_append_drop _ _).symm, List.length_take_of_le (by omega)⟩
        · intro both
          rcases both with ⟨rfl, count⟩
          rw [← count, List.take_left, List.drop_left]

theorem takeWeights_refuses (format : Format) (number : Nat) (values : List Nat) :
    Refuses (takeWeights format number values) := by
  unfold takeWeights
  split
  · split
    · exact .refuse _
    · exact .ok _
  · exact .ok _

theorem pairUp_eq_some {values : List Nat} {pairs : List (Nat × Nat)} :
    pairUp values = some pairs ↔ values = pairs.flatMap fun (a, b) => [a, b] := by
  induction values using pairUp.induct generalizing pairs with
  | case1 =>
      cases pairs with
      | nil => simp [pairUp]
      | cons pair rest => simp [pairUp]
  | case2 value =>
      cases pairs with
      | nil => simp [pairUp]
      | cons pair rest => simp [pairUp]
  | case3 neighbor weight rest inductionHypothesis =>
      simp only [pairUp, Option.map_eq_some_iff, inductionHypothesis]
      cases pairs with
      | nil => simp
      | cons pair others =>
          simp only [List.cons.injEq, List.flatMap_cons, List.cons_append, List.nil_append]
          constructor
          · intro paired
            rcases paired with ⟨_, same, rfl, rfl⟩
            exact ⟨rfl, rfl, same⟩
          · intro split
            rcases split with ⟨rfl, rfl, same⟩
            exact ⟨others, same, rfl, rfl⟩

theorem takeNeighbors_eq_ok {format : Format} {number : Nat}
    {values neighbors edgeWeights : List Nat} :
    takeNeighbors format number values = .ok (neighbors, edgeWeights) ↔
      values = (if format.edgeWeights then
          (neighbors.zip edgeWeights).flatMap fun (neighbor, weight) => [neighbor, weight]
        else neighbors) ∧
        edgeWeights.length = if format.edgeWeights then neighbors.length else 0 := by
  unfold takeNeighbors
  cases format.edgeWeights with
  | false => simp [eq_comm]
  | true =>
      simp only [if_true]
      split
      · rename_i odd
        constructor
        · intro returned
          cases returned
        · intro both
          rcases both with ⟨same, -⟩
          rw [pairUp_eq_some.mpr same] at odd
          cases odd
      · rename_i pairs paired
        have zipped : (pairs.map (·.1)).zip (pairs.map (·.2)) = pairs := by
          simp [List.zip_map']
        constructor
        · intro returned
          cases returned
          rw [zipped]
          exact ⟨pairUp_eq_some.mp paired, by simp⟩
        · intro both
          rcases both with ⟨same, count⟩
          rw [pairUp_eq_some.mpr same] at paired
          cases paired
          rw [List.map_fst_zip (by omega), List.map_snd_zip (by omega)]

theorem takeNeighbors_refuses (format : Format) (number : Nat) (values : List Nat) :
    Refuses (takeNeighbors format number values) := by
  unfold takeNeighbors
  split
  · split
    · exact .refuse _
    · exact .ok _
  · exact .ok _

/-- The numbers that the words of a line write, if these are runs of digits. -/
theorem mapM_natural_eq_ok {line : List Symbol} (plain : PlainNumbers line)
    (numerals : ∀ token ∈ Text.words line, Text.isNumeral token = true) (values : List Nat) :
    (Text.words line).mapM natural = .ok values ↔ WritesAll line values :=
  mapM_eq_ok_iff_of_mem fun token member n =>
    plain.natural_eq_ok member (numerals token member) n

theorem WritesAll.isNumeral {line : List Symbol} {values : List Nat}
    (written : WritesAll line values) :
    ∀ token ∈ Text.words line, Text.isNumeral token = true := by
  rw [WritesAll] at written
  intro token member
  generalize Text.words line = tokens at written member
  induction written with
  | nil => cases member
  | cons first later inductionHypothesis =>
      rcases List.mem_cons.mp member with rfl | tail
      · exact first.isNumeral
      · exact inductionHypothesis tail

/-- The reader takes the vertex lines of the grammar that list vertices of the file. -/
theorem vertexLine_eq_ok {line : List Symbol} (plain : PlainNumbers line) (format : Format)
    (vertexCount number : Nat) (vertex : VertexLine) :
    vertexLine format vertexCount number line = .ok vertex ↔
      WritesAll line (vertex.numbers format) ∧ vertex.Fits format ∧
        ∀ neighbor ∈ vertex.neighbors, 1 ≤ neighbor ∧ neighbor ≤ vertexCount := by
  unfold vertexLine
  simp only
  cases numerals : (Text.words line).all Text.isNumeral with
  | false =>
      constructor
      · intro returned
        cases returned
      · intro line
        rcases line with ⟨written, -, -⟩
        exact absurd (List.all_eq_true.mpr written.isNumeral) (by simp [numerals])
  | true =>
      have read := mapM_natural_eq_ok plain (List.all_eq_true.mp numerals)
      simp only [Bool.not_true, Bool.false_eq_true, if_false, bind_eq_ok, read, Prod.exists,
        takeSize_eq_ok, takeWeights_eq_ok, takeNeighbors_eq_ok]
      constructor
      · rintro ⟨_, written, size, _, ⟨rfl, one⟩, weights, _, ⟨rfl, counted⟩, neighbors, edgeWeights,
          ⟨rfl, paired⟩, kept⟩
        split at kept
        · cases kept
        · rename_i none
          cases kept
          rw [← List.append_assoc] at written
          refine ⟨written, ⟨one, counted, paired⟩, fun neighbor member => ?_⟩
          have within := List.find?_eq_none.mp none neighbor member
          simp only [Bool.or_eq_true, decide_eq_true_eq, not_or] at within
          omega
      · intro line
        rcases line with ⟨written, fits, inRange⟩
        have none : vertex.neighbors.find?
            (fun neighbor => neighbor = 0 || vertexCount < neighbor) = none := by
          rw [List.find?_eq_none]
          intro neighbor member
          have within := inRange neighbor member
          simp only [Bool.or_eq_true, decide_eq_true_eq, not_or]
          omega
        rw [VertexLine.numbers, List.append_assoc] at written
        refine ⟨_, written, _, _, ⟨rfl, fits.size⟩, _, _, ⟨rfl, fits.weights⟩, _, _,
          ⟨rfl, fits.edgeWeights⟩, ?_⟩
        rw [none]

/-- The vertex that the numbers of a line describe. -/
def vertexFrom (format : Format) (vertexCount number : Nat) (values : List Nat) :
    Except Error VertexLine := do
  let (size, values) ← takeSize format number values
  let (weights, values) ← takeWeights format number values
  let (neighbors, edgeWeights) ← takeNeighbors format number values
  match neighbors.find? fun neighbor => neighbor = 0 || vertexCount < neighbor with
  | some neighbor => refuse (.outOfRange number neighbor)
  | none => .ok { size, weights, neighbors, edgeWeights }

theorem vertexFrom_refuses (format : Format) (vertexCount number : Nat) (values : List Nat) :
    Refuses (vertexFrom format vertexCount number values) := by
  refine .bind (takeSize_refuses _ _ _) fun _ _ => .bind (takeWeights_refuses _ _ _) fun _ _ =>
    .bind (takeNeighbors_refuses _ _ _) fun _ _ => ?_
  dsimp only
  split
  · exact .refuse _
  · exact .ok _

section Numerals

variable {line : List Symbol} (format : Format) (vertexCount number : Nat)

/-- A line of runs of digits is read number by number, and then taken apart. -/
theorem vertexLine_of_numerals
    (numerals : ∀ token ∈ Text.words line, Text.isNumeral token = true) :
    vertexLine format vertexCount number line =
      (Text.words line).mapM natural >>= vertexFrom format vertexCount number := by
  have all : (Text.words line).all Text.isNumeral = true := List.all_eq_true.mpr numerals
  simp only [vertexLine, all, Bool.not_true, Bool.false_eq_true, if_false]
  rfl

theorem vertexLine_of_odd (odd : ¬ ∀ token ∈ Text.words line, Text.isNumeral token = true) :
    vertexLine format vertexCount number line = refuse (.nonInteger number ⟨line⟩) := by
  have all : (Text.words line).all Text.isNumeral = false := by
    rw [← Bool.not_eq_true, List.all_eq_true]
    exact odd
  simp only [vertexLine, all, Bool.not_false, if_true]
  rfl

theorem vertexLine_refuses (plain : PlainNumbers line) :
    Refuses (vertexLine format vertexCount number line) := by
  by_cases numerals : ∀ token ∈ Text.words line, Text.isNumeral token = true
  · rw [vertexLine_of_numerals format vertexCount number numerals]
    refine .bind (.mapM fun token member => ?_) fun values _ => vertexFrom_refuses _ _ _ values
    obtain ⟨n, found⟩ := plain.exists_natural member (numerals token member)
    rw [found]
    exact .ok n
  · rw [vertexLine_of_odd format vertexCount number numerals]
    exact .refuse _

end Numerals

end TaskGraph.Metis
