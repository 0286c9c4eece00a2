/-
Module: TaskGraph.Proofs.Metis.LinePrinting
Purpose: Where the printer of graph files returns, the words of a line are the digits of the
  numbers that the line has to say.
Main exports:
  Metis.Prints, Metis.weightToken_eq_ok, Metis.weightTokens_eq_ok,
  Metis.neighborTokens_eq_ok
-/
import TaskGraph.Metis.Printer
import TaskGraph.Proofs.Metis.Contents
import TaskGraph.Proofs.Metis.Grammar
import TaskGraph.Proofs.Value.Access

namespace TaskGraph.Metis

/-- Words print numbers: they are the digits of numbers that do not have too many of them. -/
def Prints (tokens : List (List Char)) (numbers : List Nat) : Prop :=
  tokens = numbers.map Text.digitsOf ∧ ∀ n ∈ numbers, n < Value.digitBound

namespace Prints

theorem nil : Prints [] [] := ⟨rfl, by simp⟩

theorem singleton {n : Nat} (short : n < Value.digitBound) : Prints [Text.digitsOf n] [n] :=
  ⟨rfl, by simpa using short⟩

theorem append {tokens others : List (List Char)} {numbers more : List Nat}
    (first : Prints tokens numbers) (second : Prints others more) :
    Prints (tokens ++ others) (numbers ++ more) := by
  obtain ⟨rfl, short⟩ := first
  obtain ⟨rfl, later⟩ := second
  refine ⟨List.map_append.symm, fun n member => ?_⟩
  rcases List.mem_append.mp member with here | there
  · exact short n here
  · exact later n there

end Prints

/-! ### One number -/

theorem numberToken_eq_ok {n : Nat} {token : List Char} (printed : numberToken n = .ok token) :
    token = Text.digitsOf n ∧ n < Value.digitBound := by
  unfold numberToken at printed
  split at printed
  · cases printed
  · rename_i short
    cases printed
    exact ⟨rfl, by simpa using short⟩

/-- What is printed for a label are the digits of the number that it writes. -/
theorem weightToken_eq_ok {measure : Measure} {label : Value} {token : List Char}
    (printed : weightToken measure label = .ok token) :
    ∃ n, labelNumber? label = some n ∧ Prints [token] [n] := by
  simp only [weightToken, bind_eq_ok, Value.asPlain, mapError_eq_ok] at printed
  obtain ⟨text, plain, printed⟩ := printed
  split at printed
  · rename_i numeral
    cases read : Text.readNatural (Text.strip text.toList) with
    | error fault =>
        rw [read] at printed
        cases printed
    | ok n =>
        rw [read] at printed
        cases printed
        refine ⟨n, ?_, .singleton (by rw [Value.digitBound_eq]; exact Text.readNatural_lt read)⟩
        simp only [labelNumber?, plain, numeral, if_true, read]
        rfl
  · cases printed

/-- A label of one digit is its number. -/
theorem labelNumber?_one : labelNumber? (.text "1") = some 1 := by
  decide +kernel

/-! ### Sizes and weights -/

theorem sizeTokens_eq_ok {format : Format} {v : Vertex} {tokens : List (List Char)}
    (printed : sizeTokens format.columns v = .ok tokens) :
    ∃ size, sizeOf? format v = some size ∧
      Prints tokens (if format.vertexSizes then [size] else []) ∧
      (format.vertexSizes = false → size = 1) := by
  unfold sizeTokens at printed
  unfold sizeOf?
  cases sizes : format.vertexSizes with
  | false =>
      simp only [Format.columns, sizes, Bool.false_eq_true, if_false] at printed
      cases printed
      exact ⟨1, rfl, .nil, fun _ => rfl⟩
  | true =>
      simp only [Format.columns, sizes, if_true, bind_eq_ok] at printed
      obtain ⟨name, -, token, printed, ⟨⟩⟩ := printed
      obtain ⟨n, number, prints⟩ := weightToken_eq_ok printed
      exact ⟨n, number, prints, fun absent => (nomatch absent)⟩

/-- Missing labels are ones; there are not more labels than asked for. -/
theorem paddedWeights_eq_ok {memory ncon : Nat} {v : Vertex} {labels : List Value}
    (padded : paddedWeights memory (.int ncon) v = .ok labels) :
    ∃ own, v.weights.items? = some own ∧ own.length ≤ ncon ∧
      labels = own ++ List.replicate (ncon - own.length) (.text "1") := by
  simp only [paddedWeights, bind_eq_ok, Value.walk_eq_ok] at padded
  obtain ⟨own, items, padded⟩ := padded
  rw [Value.lt?_int] at padded
  split at padded
  · obtain ⟨name, -, ⟨⟩⟩ := bind_eq_ok.mp padded
  · rename_i few
    simp only [bind_eq_ok] at padded
    obtain ⟨count, room, ⟨⟩⟩ := padded
    have fits : own.length ≤ ncon := by simpa using few
    have countEq : count = ncon - own.length := by
      simp only [missing] at room
      split at room
      · cases room
      · split at room
        · cases room
        · cases room
          omega
    exact ⟨own, items, fits, by rw [countEq]⟩

/-- A map over labels prints the numbers that they write. -/
theorem mapM_weightToken_eq_ok {v : Vertex} {labels : List Value} {tokens : List (List Char)}
    (printed : (labels.mapM fun label => do
      weightToken (.vertexWeight (← v.name.asPlain)) label) = .ok tokens) :
    ∃ numbers, labels.mapM labelNumber? = some numbers ∧ Prints tokens numbers := by
  rw [mapM_eq_ok] at printed
  induction printed with
  | nil => exact ⟨[], rfl, .nil⟩
  | cons first _ inductionHypothesis =>
      obtain ⟨name, -, first⟩ := bind_eq_ok.mp first
      obtain ⟨n, number, prints⟩ := weightToken_eq_ok first
      obtain ⟨numbers, others, later⟩ := inductionHypothesis
      refine ⟨n :: numbers, ?_, prints.append later⟩
      simp [number, others]

/-- The ones that stand for missing labels are ones as numbers. -/
theorem mapM_labelNumber?_ones (missing : Nat) :
    (List.replicate missing (Value.text "1")).mapM labelNumber? =
      some (List.replicate missing 1) := by
  induction missing with
  | zero => rfl
  | succ missing inductionHypothesis =>
      rw [List.replicate_succ, List.mapM_cons, labelNumber?_one, inductionHypothesis]
      rfl

/-- Padding labels with ones pads their numbers with ones. -/
theorem mapM_labelNumber?_padded {own : List Value} {numbers : List Nat} {missing : Nat}
    (each : (own ++ List.replicate missing (Value.text "1")).mapM labelNumber? = some numbers) :
    ∃ ownNumbers, own.mapM labelNumber? = some ownNumbers ∧ ownNumbers.length = own.length ∧
      numbers = ownNumbers ++ List.replicate missing 1 := by
  rw [List.mapM_append, mapM_labelNumber?_ones] at each
  obtain ⟨ownNumbers, ownEach, returned⟩ := Option.bind_eq_some_iff.mp each
  cases returned
  exact ⟨ownNumbers, ownEach, (mapM_eq_some.mp ownEach).length_eq.symm, rfl⟩

theorem weightTokens_eq_ok {memory : Nat} {format : Format} {v : Vertex}
    {tokens : List (List Char)} (printed : weightTokens memory format.columns v = .ok tokens) :
    ∃ weights, weightsOf? format v = some weights ∧ Prints tokens weights ∧
      weights.length = if format.vertexWeights then format.ncon else 0 := by
  unfold weightTokens at printed
  unfold weightsOf?
  cases weighted : format.vertexWeights with
  | false =>
      simp only [Format.columns, weighted, Bool.false_eq_true, if_false] at printed
      cases printed
      exact ⟨[], rfl, .nil, rfl⟩
  | true =>
      simp only [Format.columns, weighted, if_true, bind_eq_ok] at printed
      obtain ⟨labels, padded, printed⟩ := printed
      obtain ⟨own, items, fits, rfl⟩ := paddedWeights_eq_ok padded
      obtain ⟨numbers, each, prints⟩ := mapM_weightToken_eq_ok printed
      obtain ⟨ownNumbers, ownEach, length, rfl⟩ := mapM_labelNumber?_padded each
      refine ⟨_, ?_, prints, ?_⟩
      · simp [paddedNumbers?, items, ownEach, length]
      · simp [length]
        omega

/-! ### Neighbors -/

/-- The weight of an edge is the number that its first label writes. -/
theorem edgeNumber?_eq (edge : Edge) : edgeNumber? edge = labelNumber? (edgeLabel edge) := by
  unfold edgeNumber? edgeLabel
  cases edge.weights with
  | nil => exact labelNumber?_one.symm
  | cons label rest => rfl

/-- The neighbors on a line are printed one by one, each with the weight of its edge where the
file has those. -/
theorem neighborTokens_eq_ok {format : Format} {incident : List (Nat × Edge)}
    {tokens : List (List (List Char))}
    (printed : (incident.mapM fun (other, edge) => neighborTokens format.columns other edge) =
      .ok tokens) :
    ∃ edgeWeights, edgeWeightsOf? format (incident.map (·.2)) = some edgeWeights ∧
      Prints tokens.flatten
        (if format.edgeWeights then
          ((incident.map (·.1 + 1)).zip edgeWeights).flatMap fun (neighbor, weight) =>
            [neighbor, weight]
        else incident.map (·.1 + 1)) ∧
      edgeWeights.length = if format.edgeWeights then incident.length else 0 := by
  rw [mapM_eq_ok] at printed
  unfold edgeWeightsOf?
  cases weighted : format.edgeWeights with
  | false =>
      simp only [Bool.false_eq_true, if_false]
      refine ⟨[], rfl, ?_, rfl⟩
      induction printed with
      | nil => exact .nil
      | cons first _ inductionHypothesis =>
          simp only [neighborTokens, bind_eq_ok, Format.columns, weighted, Bool.false_eq_true,
            if_false] at first
          obtain ⟨index, number, ⟨⟩⟩ := first
          obtain ⟨rfl, short⟩ := numberToken_eq_ok number
          exact (Prints.singleton short).append inductionHypothesis
  | true =>
      simp only [if_true]
      induction printed with
      | nil => exact ⟨[], rfl, .nil, rfl⟩
      | cons first _ inductionHypothesis =>
          obtain ⟨weights, others, prints, length⟩ := inductionHypothesis
          simp only [neighborTokens, bind_eq_ok, Format.columns, weighted, if_true] at first
          obtain ⟨index, number, name, -, token, weight, ⟨⟩⟩ := first
          obtain ⟨rfl, short⟩ := numberToken_eq_ok number
          obtain ⟨n, label, printsWeight⟩ := weightToken_eq_ok weight
          refine ⟨n :: weights, ?_, ?_, by simp [length]⟩
          · simp [edgeNumber?_eq, label, others]
          · exact ((Prints.singleton short).append printsWeight).append prints

end TaskGraph.Metis
