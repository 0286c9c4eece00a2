/-
Module: TaskGraph.Proofs.Metis.NumberLines
Purpose: A text of lines of numbers is read back line by line and word by word, and keeps what
  is promised to the reader of graph files.
Main exports:
  Metis.IsShortRun, Metis.words_unwords_runs, Metis.contentLines_joinLines,
  Metis.plainNumbers_joinLines
-/
import TaskGraph.Metis.Printer
import TaskGraph.Proofs.Metis.Grammar

namespace TaskGraph.Metis

/-- A word is a run of digits that is not too long. -/
structure IsShortRun (token : List Char) : Prop where
  nonempty : token ≠ []
  digits : ∀ c ∈ token, Text.isPlainDigit c = true
  short : token.length ≤ Text.maxDigits

/-- All words of some lines are runs of digits that are not too long. -/
def AreShortRuns (lines : List (List (List Char))) : Prop :=
  ∀ tokens ∈ lines, ∀ token ∈ tokens, IsShortRun token

/-! ### Characters of a line -/

/-- A line of runs of digits holds digits and spaces. -/
theorem mem_line {tokens : List (List Char)} (runs : ∀ token ∈ tokens, IsShortRun token)
    {s : Symbol} (member : s ∈ Text.symbols (Text.unwords tokens)) :
    s = .char ' ' ∨ ∃ c, s = .char c ∧ Text.isPlainDigit c = true := by
  obtain ⟨c, inside, rfl⟩ := List.mem_map.mp member
  rcases Text.mem_unwords inside with rfl | ⟨token, tokenMember, found⟩
  · exact .inl rfl
  · exact .inr ⟨c, rfl, (runs token tokenMember).digits c found⟩

theorem not_isLineBreak_of_mem_line {tokens : List (List Char)}
    (runs : ∀ token ∈ tokens, IsShortRun token) {s : Symbol}
    (member : s ∈ Text.symbols (Text.unwords tokens)) : s.is Text.isLineBreak = false := by
  rcases mem_line runs member with rfl | ⟨c, rfl, digit⟩
  · decide
  · obtain ⟨lower, upper⟩ := (Text.isPlainDigit_iff c).mp digit
    simp only [Symbol.is_char, Text.isLineBreak, Bool.or_eq_false_iff, Bool.and_eq_false_iff,
      decide_eq_false_iff_not, beq_eq_false_iff_ne]
    omega

/-- A line of runs of digits is not left out. -/
theorem isComment_line {tokens : List (List Char)} (runs : ∀ token ∈ tokens, IsShortRun token) :
    isComment (Text.symbols (Text.unwords tokens)) = false := by
  rw [isComment, beq_eq_false_iff_ne]
  intro percent
  have inside := (List.dropWhile_sublist _).subset (List.mem_of_mem_head? percent)
  rcases mem_line runs inside with space | ⟨c, same, digit⟩
  · exact absurd space (by decide)
  · cases same
    exact absurd digit (by decide)

theorem words_unwords_runs {tokens : List (List Char)}
    (runs : ∀ token ∈ tokens, IsShortRun token) :
    Text.words (Text.symbols (Text.unwords tokens)) = tokens.map Text.symbols :=
  Text.words_unwords tokens fun token member =>
    ⟨(runs token member).nonempty, fun c inside =>
      Text.not_isBlank_of_isPlainDigit ((runs token member).digits c inside)⟩

/-! ### All lines -/

section Lines

variable {lines : List (List (List Char))} (runs : AreShortRuns lines)

include runs

theorem lines_joinLines :
    Text.lines (Text.symbols (joinLines lines)) =
      lines.map fun tokens => Text.symbols (Text.unwords tokens) := by
  induction lines with
  | nil => rfl
  | cons tokens rest inductionHypothesis =>
      have first := runs tokens (by simp)
      have later := inductionHypothesis fun other member => runs other (by simp [member])
      have joined : joinLines (tokens :: rest) = Text.unwords tokens ++ '\n' :: joinLines rest := by
        simp [joinLines]
      rw [joined, Text.symbols_append, Text.symbols_cons,
        Text.lines_append_feed fun s member => not_isLineBreak_of_mem_line first member, later]
      rfl

theorem contentLines_joinLines :
    contentLines (Text.symbols (joinLines lines)) =
      lines.map fun tokens => Text.symbols (Text.unwords tokens) := by
  rw [contentLines, lines_joinLines runs, List.filter_eq_self]
  intro line member
  obtain ⟨tokens, inside, rfl⟩ := List.mem_map.mp member
  rw [isComment_line (runs tokens inside)]
  rfl

/-- The words are digits that are not too many, so the reader is given what it is promised. -/
theorem plainNumbers_joinLines : PlainNumbers (Text.symbols (joinLines lines)) where
  ascii c member _ := by
    obtain ⟨_, inside, ⟨⟩⟩ := List.mem_map.mp member
    obtain ⟨tokens, lineMember, inside⟩ := List.mem_flatMap.mp inside
    rcases List.mem_append.mp inside with inLine | feed
    · rcases mem_line (runs tokens lineMember) (List.mem_map.mpr ⟨c, inLine, rfl⟩) with
        space | ⟨_, ⟨⟩, digit⟩
      · cases space
        decide
      · have := (Text.isPlainDigit_iff c).mp digit
        omega
    · rw [List.mem_singleton.mp feed]
      decide
  short token member := by
    rw [← Text.words_lines, lines_joinLines runs] at member
    simp only [List.mem_flatMap, List.mem_map, exists_exists_and_eq_and] at member
    obtain ⟨tokens, lineMember, inside⟩ := member
    rw [words_unwords_runs (runs tokens lineMember)] at inside
    obtain ⟨word, wordMember, rfl⟩ := List.mem_map.mp inside
    refine (List.length_filter_le _ _).trans ?_
    rw [Text.length_symbols]
    exact (runs tokens lineMember word wordMember).short

end Lines

end TaskGraph.Metis
