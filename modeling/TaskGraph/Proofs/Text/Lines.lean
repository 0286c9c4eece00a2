/-
Module: TaskGraph.Proofs.Text.Lines
Purpose: Cutting texts into pieces, words and lines: joined words and lines are read back,
  and the words on the lines of a text are the words of the text.
Main exports:
  Text.pieces_append, Text.words_append_blank, Text.words_unwords, Text.words_lines,
  Text.lines_append_feed
-/
import Mathlib.Data.List.TakeWhile
import TaskGraph.Text.Lines

namespace TaskGraph.Text

/-! ### Pieces -/

section Pieces

variable {α : Type} {isSeparator : α → Bool}

theorem pieces_ne_nil (xs : List α) : pieces isSeparator xs ≠ [] := by
  cases xs with
  | nil => simp
  | cons x rest =>
      rw [pieces_cons]
      unfold pieceStep
      split
      · simp
      · split <;> simp

/-- A separator divides the pieces before it from those after it. -/
theorem pieces_append {x : α} (separator : isSeparator x = true) (before after : List α) :
    pieces isSeparator (before ++ x :: after) =
      pieces isSeparator before ++ pieces isSeparator after := by
  induction before with
  | nil => simp [pieceStep, separator]
  | cons y rest inductionHypothesis =>
      rw [List.cons_append, pieces_cons, pieces_cons, inductionHypothesis]
      cases restEq : pieces isSeparator rest with
      | nil => exact absurd restEq (pieces_ne_nil rest)
      | cons first others =>
          simp only [pieceStep, List.cons_append]
          split <;> rfl

/-- Without separators there is one piece. -/
theorem pieces_eq_singleton (xs : List α) (none : ∀ x ∈ xs, isSeparator x = false) :
    pieces isSeparator xs = [xs] := by
  induction xs with
  | nil => rfl
  | cons x rest inductionHypothesis =>
      rw [pieces_cons, inductionHypothesis fun y member => none y (by simp [member]), pieceStep]
      simp [none x]

/-- What follows without a separator joins the last piece. -/
theorem exists_pieces_append (xs : List α) {ys : List α} (none : ∀ y ∈ ys, isSeparator y = false) :
    ∃ init last, pieces isSeparator xs = init ++ [last] ∧
      pieces isSeparator (xs ++ ys) = init ++ [last ++ ys] := by
  induction xs with
  | nil => exact ⟨[], [], rfl, pieces_eq_singleton ys none⟩
  | cons x rest inductionHypothesis =>
      obtain ⟨init, last, before, after⟩ := inductionHypothesis
      rw [List.cons_append, pieces_cons, pieces_cons, before, after]
      unfold pieceStep
      by_cases separator : isSeparator x = true
      · rw [if_pos separator, if_pos separator]
        exact ⟨[] :: init, last, rfl, rfl⟩
      · rw [if_neg separator, if_neg separator]
        cases init with
        | nil => exact ⟨[], x :: last, rfl, rfl⟩
        | cons first others => exact ⟨(x :: first) :: others, last, rfl, rfl⟩

/-- A sequence has no separator, or it has a first one. -/
theorem exists_first_separator (isSeparator : α → Bool) (xs : List α) :
    (∀ x ∈ xs, isSeparator x = false) ∨
      ∃ before x after, xs = before ++ x :: after ∧ isSeparator x = true ∧
        ∀ y ∈ before, isSeparator y = false := by
  induction xs with
  | nil => simp
  | cons x rest inductionHypothesis =>
      cases first : isSeparator x with
      | true => exact .inr ⟨[], x, rest, rfl, first, by simp⟩
      | false =>
          rcases inductionHypothesis with none | ⟨before, y, after, rfl, separator, clear⟩
          · exact .inl (by simpa [first] using none)
          · exact .inr ⟨x :: before, y, after, rfl, separator, by simpa [first] using clear⟩

theorem mem_of_mem_pieces {xs piece : List α} {x : α}
    (member : piece ∈ pieces isSeparator xs) (inside : x ∈ piece) : x ∈ xs := by
  induction xs generalizing piece with
  | nil => simp_all
  | cons y rest inductionHypothesis =>
      rw [pieces_cons] at member
      unfold pieceStep at member
      split at member
      · rcases List.mem_cons.mp member with rfl | later
        · cases inside
        · exact List.mem_cons_of_mem y (inductionHypothesis later inside)
      · cases restEq : pieces isSeparator rest with
        | nil => exact absurd restEq (pieces_ne_nil rest)
        | cons first others =>
            rw [restEq] at member inductionHypothesis
            rcases List.mem_cons.mp member with rfl | later
            · rcases List.mem_cons.mp inside with rfl | tail
              · simp
              · exact List.mem_cons_of_mem y (inductionHypothesis (by simp) tail)
            · exact List.mem_cons_of_mem y (inductionHypothesis (by simp [later]) inside)

end Pieces

/-! ### Words -/

@[simp] theorem words_nil : words [] = [] := rfl

/-- A blank divides the words before it from those after it. -/
theorem words_append_blank {s : Symbol} (blank : s.is isBlank = true)
    (before after : List Symbol) :
    words (before ++ s :: after) = words before ++ words after := by
  rw [words, pieces_append blank, List.filter_append]
  rfl

theorem words_cons_blank {s : Symbol} (blank : s.is isBlank = true) (rest : List Symbol) :
    words (s :: rest) = words rest :=
  words_append_blank blank [] rest

theorem words_eq_singleton {token : List Symbol} (nonempty : token ≠ [])
    (solid : ∀ s ∈ token, s.is isBlank = false) : words token = [token] := by
  rw [words, pieces_eq_singleton token solid]
  simp [nonempty]

theorem mem_of_mem_words {text token : List Symbol} {s : Symbol} (member : token ∈ words text)
    (inside : s ∈ token) : s ∈ text :=
  mem_of_mem_pieces (List.mem_filter.mp member).1 inside

theorem ne_nil_of_mem_words {text token : List Symbol} (member : token ∈ words text) :
    token ≠ [] := by
  simpa using (List.mem_filter.mp member).2

/-- Where there is no white space, nothing is trimmed away. -/
theorem strip_eq_self {text : List Symbol} (none : ∀ s ∈ text, s.is isBlank = false) :
    strip text = text := by
  have kept {xs : List Symbol} (within : ∀ s ∈ xs, s ∈ text) :
      xs.dropWhile (Symbol.is isBlank) = xs := by
    cases xs with
    | nil => rfl
    | cons x rest => rw [List.dropWhile_cons_of_neg (by simp [none x (within x (by simp))])]
  rw [strip, trim, kept fun s member => member,
    kept fun s member => List.mem_reverse.mp member, List.reverse_reverse]

/-- Only blank symbols are trimmed away altogether. -/
theorem strip_eq_nil_iff (text : List Symbol) :
    strip text = [] ↔ ∀ s ∈ text, s.is isBlank = true := by
  rw [strip, trim, List.reverse_eq_nil_iff, List.dropWhile_eq_nil_iff]
  constructor
  · intro rest s member
    rw [← List.takeWhile_append_dropWhile (p := Symbol.is isBlank) (l := text)] at member
    rcases List.mem_append.mp member with before | after
    · exact List.mem_takeWhile_imp before
    · exact rest s (List.mem_reverse.mpr after)
  · intro blank s member
    exact blank s ((List.dropWhile_sublist _).subset (List.mem_reverse.mp member))

theorem unwords_cons_cons (token next : List Char) (rest : List (List Char)) :
    unwords (token :: next :: rest) = token ++ ' ' :: unwords (next :: rest) := by
  simp [unwords, List.intercalate_cons_cons]

/-- Between words there are only spaces. -/
theorem mem_unwords {tokens : List (List Char)} {c : Char} (member : c ∈ unwords tokens) :
    c = ' ' ∨ ∃ token ∈ tokens, c ∈ token := by
  induction tokens with
  | nil => simp [unwords] at member
  | cons token rest inductionHypothesis =>
      cases rest with
      | nil => exact .inr ⟨token, by simp, by simpa [unwords] using member⟩
      | cons next others =>
          rw [unwords_cons_cons, List.mem_append, List.mem_cons] at member
          rcases member with first | rfl | later
          · exact .inr ⟨token, by simp, first⟩
          · exact .inl rfl
          · rcases inductionHypothesis later with space | ⟨other, inside, found⟩
            · exact .inl space
            · exact .inr ⟨other, List.mem_cons_of_mem token inside, found⟩

/-- Words joined by spaces are read back. -/
theorem words_unwords (tokens : List (List Char))
    (solid : ∀ token ∈ tokens, token ≠ [] ∧ ∀ c ∈ token, isBlank c = false) :
    words (symbols (unwords tokens)) = tokens.map symbols := by
  induction tokens with
  | nil => rfl
  | cons token rest inductionHypothesis =>
      have ⟨nonempty, letters⟩ := solid token (by simp)
      have single : words (symbols token) = [symbols token] := by
        apply words_eq_singleton (by simpa [symbols] using nonempty)
        intro s member
        obtain ⟨c, inside, rfl⟩ := List.mem_map.mp member
        exact letters c inside
      cases rest with
      | nil => simpa [unwords] using single
      | cons next others =>
          have later := inductionHypothesis fun other member => solid other (by simp [member])
          rw [unwords_cons_cons, symbols_append, symbols_cons, words_append_blank (by decide), single,
            later]
          rfl

/-! ### Lines -/

theorem isBlank_of_isLineBreak {s : Symbol} (lineBreak : s.is isLineBreak = true) :
    s.is isBlank = true := by
  cases s with
  | half offset => simp [Symbol.is] at lineBreak
  | char c =>
      simp only [Symbol.is_char, isLineBreak, isBlank, Bool.or_eq_true, Bool.and_eq_true,
        decide_eq_true_eq, beq_iff_eq] at lineBreak ⊢
      split <;> simp only [Bool.or_eq_true, Bool.and_eq_true, decide_eq_true_eq, beq_iff_eq] <;>
        omega

section Breaks

variable {α : Type} {isReturn isFeed : α → Bool}

theorem joinBreaks_cons (x : α) (rest : List α) :
    joinBreaks isReturn isFeed (x :: rest) =
      if isReturn x && rest.head?.any isFeed then joinBreaks isReturn isFeed rest
      else x :: joinBreaks isReturn isFeed rest := by
  have next : (rest.foldr (joinStep isReturn isFeed) ([], none)).2 = rest.head? := by
    cases rest <;> rfl
  rw [joinBreaks, List.foldr_cons, joinStep, next]
  rfl

theorem joinBreaks_cons_of_ne {x : α} (keep : isReturn x = false) (rest : List α) :
    joinBreaks isReturn isFeed (x :: rest) = x :: joinBreaks isReturn isFeed rest := by
  simp [joinBreaks_cons, keep]

theorem joinBreaks_append {before : List α} (keep : ∀ x ∈ before, isReturn x = false)
    (rest : List α) :
    joinBreaks isReturn isFeed (before ++ rest) =
      before ++ joinBreaks isReturn isFeed rest := by
  induction before with
  | nil => rfl
  | cons x others inductionHypothesis =>
      rw [List.cons_append, joinBreaks_cons_of_ne (keep x (by simp)),
        inductionHypothesis fun y member => keep y (by simp [member]), List.cons_append]

theorem mem_of_mem_joinBreaks {xs : List α} {x : α}
    (member : x ∈ joinBreaks isReturn isFeed xs) : x ∈ xs := by
  induction xs with
  | nil => exact member
  | cons y rest inductionHypothesis =>
      rw [joinBreaks_cons] at member
      split at member
      · exact List.mem_cons_of_mem y (inductionHypothesis member)
      · rcases List.mem_cons.mp member with rfl | later
        · simp
        · exact List.mem_cons_of_mem y (inductionHypothesis later)

end Breaks

/-- A carriage return that a line feed absorbs stands in no word.  The text before it is
arbitrary, since what stands there may go on to the word that begins here. -/
theorem words_append_joinBreaks (before text : List Symbol) :
    words (before ++
        joinBreaks (Symbol.is (· == '\r')) (Symbol.is (· == '\n')) text) =
      words (before ++ text) := by
  induction text generalizing before with
  | nil => rfl
  | cons s rest inductionHypothesis =>
      rw [joinBreaks_cons]
      split
      · rename_i absorbed
        simp only [Bool.and_eq_true] at absorbed
        obtain ⟨isReturn, isFeed⟩ := absorbed
        have returnBlank : s.is isBlank = true := by
          cases s with
          | half offset => simp [Symbol.is] at isReturn
          | char c =>
              obtain rfl : c = '\r' := by simpa using isReturn
              decide
        cases rest with
        | nil => simp at isFeed
        | cons feed others =>
            have feedBlank : feed.is isBlank = true := by
              cases feed with
              | half offset => simp [Symbol.is] at isFeed
              | char c =>
                  obtain rfl : c = '\n' := by simpa using isFeed
                  decide
            rw [inductionHypothesis, words_append_blank feedBlank,
              words_append_blank returnBlank, words_cons_blank feedBlank]
      · have shifted := inductionHypothesis (before ++ [s])
        simpa only [List.append_assoc, List.singleton_append] using shifted

/-- Cutting at line breaks cuts no word. -/
theorem words_flatMap_pieces (text : List Symbol) :
    (pieces (Symbol.is isLineBreak) text).flatMap words = words text := by
  rcases exists_first_separator (Symbol.is isLineBreak) text with
    none | ⟨before, s, after, cut, lineBreak, clear⟩
  · simp [pieces_eq_singleton text none]
  · have rest := words_flatMap_pieces after
    rw [cut, pieces_append lineBreak, pieces_eq_singleton before clear, List.flatMap_append,
      rest, words_append_blank (isBlank_of_isLineBreak lineBreak), List.flatMap_singleton]
termination_by text.length
decreasing_by
  rw [cut, List.length_append, List.length_cons]
  omega

theorem flatMap_words_dropEmptyLast (cut : List (List Symbol)) :
    (dropEmptyLast cut).flatMap words = cut.flatMap words := by
  fun_induction dropEmptyLast cut with
  | case1 => rfl
  | case2 => rfl
  | case3 first rest _ inductionHypothesis =>
      rw [List.flatMap_cons, List.flatMap_cons, inductionHypothesis]

/-- The words on all lines are the words of the text. -/
theorem words_lines (text : List Symbol) : (lines text).flatMap words = words text := by
  rw [lines, flatMap_words_dropEmptyLast, words_flatMap_pieces]
  exact words_append_joinBreaks [] text

theorem mem_dropEmptyLast {α : Type} {cut : List (List α)} {piece : List α}
    (member : piece ∈ dropEmptyLast cut) : piece ∈ cut := by
  fun_induction dropEmptyLast cut with
  | case1 => exact member
  | case2 => cases member
  | case3 first rest _ inductionHypothesis =>
      rcases List.mem_cons.mp member with rfl | later
      · simp
      · exact List.mem_cons_of_mem first (inductionHypothesis later)

theorem mem_of_mem_lines {text line : List Symbol} {s : Symbol} (member : line ∈ lines text)
    (inside : s ∈ line) : s ∈ text :=
  mem_of_mem_joinBreaks (mem_of_mem_pieces (mem_dropEmptyLast member) inside)

/-- A line without breaks that a line feed ends is the first line of a text. -/
theorem lines_append_feed {line : List Symbol}
    (clear : ∀ s ∈ line, s.is isLineBreak = false) (rest : List Symbol) :
    lines (line ++ .char '\n' :: rest) = line :: lines rest := by
  have noReturn : ∀ s ∈ line, s.is (· == '\r') = false := by
    intro s member
    cases s with
    | half offset => rfl
    | char c =>
        have notBreak := clear (.char c) member
        cases same : c == '\r' with
        | false => exact same
        | true =>
            obtain rfl : c = '\r' := by simpa using same
            exact absurd notBreak (by decide)
  rw [lines, joinBreaks_append noReturn, joinBreaks_cons_of_ne (by decide),
    pieces_append (by decide), pieces_eq_singleton line clear, List.singleton_append,
    dropEmptyLast.eq_3]
  · rfl
  · intro _ empty
    exact pieces_ne_nil _ empty

end TaskGraph.Text
