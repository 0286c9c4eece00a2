/-
Module: TaskGraph.Proofs.Json.Texts
Purpose: A text is read back from what is written between quotes, unless the two halves of a
  character follow each other in it.
Main exports:
  Text.Whole, Text.whole_ofString, Json.hexNumber?_hexDigits, Json.readText_writtenSymbol,
  Json.readText_text
-/
import Mathlib
import TaskGraph.Json.Reader
import TaskGraph.Json.Writer

namespace TaskGraph

/-! ### Halves -/

theorem Text.isHighHalf_iff (n : Nat) : isHighHalf n = true ↔ 0xd800 ≤ n ∧ n ≤ 0xdbff := by
  simp [isHighHalf]

theorem Text.isLowHalf_iff (n : Nat) : isLowHalf n = true ↔ 0xdc00 ≤ n ∧ n ≤ 0xdfff := by
  simp [isLowHalf]

namespace Symbol

/-- The first half of a character. -/
def IsHigh (s : Symbol) : Prop :=
  Text.isHighHalf s.code = true

/-- The second half of a character. -/
def IsLow (s : Symbol) : Prop :=
  Text.isLowHalf s.code = true

/-- A character is neither half of one. -/
theorem not_half_of_char (c : Char) :
    Text.isHighHalf c.toNat = false ∧ Text.isLowHalf c.toNat = false := by
  have valid : c.toNat < 0xd800 ∨ 0xdfff < c.toNat ∧ c.toNat < 0x110000 := c.valid
  rw [Bool.eq_false_iff, Bool.eq_false_iff, ne_eq, ne_eq, Text.isHighHalf_iff, Text.isLowHalf_iff]
  omega

theorem ofCode_toNat (c : Char) : ofCode c.toNat = .char c := by
  obtain ⟨high, low⟩ := not_half_of_char c
  simp [ofCode, high, low, Char.ofNat_toNat]

theorem ofCode_code_half (offset : Fin 0x800) : ofCode (half offset).code = .half offset := by
  have bound := offset.isLt
  have isHalf :
      (Text.isHighHalf (half offset).code || Text.isLowHalf (half offset).code) = true := by
    rw [Bool.or_eq_true, Text.isHighHalf_iff, Text.isLowHalf_iff, code]
    omega
  rw [ofCode, if_pos isHalf]
  simp [code]

end Symbol

/-- In a text no second half of a character follows a first one.  Such halves would be read as the
character. -/
def Text.Whole (s : Text) : Prop :=
  s.toList.IsChain fun a b => ¬ (a.IsHigh ∧ b.IsLow)

/-- Characters are no halves. -/
theorem Text.whole_ofString (s : String) : (ofString s).Whole := by
  refine (List.pairwise_map.mpr (List.pairwise_of_forall fun c _ halves => ?_)).isChain
  have high : Text.isHighHalf c.toNat = true := halves.1
  rw [(Symbol.not_half_of_char c).1] at high
  cases high

/-- No halves meet where a character stands between two texts. -/
theorem Text.Whole.separated {a b : Text} (first : a.Whole) (later : b.Whole) (c : Char) :
    Text.Whole ⟨a.toList ++ .char c :: b.toList⟩ := by
  obtain ⟨noHigh, noLow⟩ := Symbol.not_half_of_char c
  refine List.isChain_append.mpr ⟨first, List.isChain_cons.mpr ⟨?_, later⟩, ?_⟩
  · intro next _ halves
    have high : Text.isHighHalf c.toNat = true := halves.1
    rw [noHigh] at high
    cases high
  · intro last _ next starts halves
    cases starts
    have low : Text.isLowHalf c.toNat = true := halves.2
    rw [noLow] at low
    cases low

namespace Json

/-! ### Numbers of characters -/

theorem hexValue?_digitChar : ∀ d < 16, Text.hexValue? (Nat.digitChar d) = some d := by
  decide

/-- The digits of a number below the bound of four digits. -/
theorem hexDigits_four (n : Nat) :
    Text.hexDigits 4 n =
      [Nat.digitChar (n / 4096 % 16), Nat.digitChar (n / 256 % 16), Nat.digitChar (n / 16 % 16),
       Nat.digitChar (n % 16)] := by
  simp [Text.hexDigits, List.range_succ]

theorem hexNumber?_hexDigits {n : Nat} (short : n < 0x10000) :
    Text.hexNumber? (Text.hexDigits 4 n) = some n := by
  have digit (m : Nat) : Text.hexValue? (Nat.digitChar (m % 16)) = some (m % 16) :=
    hexValue?_digitChar _ (Nat.mod_lt m (by decide))
  simp only [hexDigits_four, Text.hexNumber?, List.mapM_cons, List.mapM_nil, digit,
    Option.pure_def, Option.bind_eq_bind, Option.bind_some, Option.map_some, List.foldl_cons,
    List.foldl_nil]
  congr 1
  omega

/-- The halves of a character beyond the basic plane write it. -/
theorem joinHalves_splitHalves {c : Char} (beyond : 0x10000 ≤ c.toNat) :
    Text.isHighHalf (Text.splitHalves c.toNat).1 = true ∧
      Text.isLowHalf (Text.splitHalves c.toNat).2 = true ∧
      Text.joinHalves (Text.splitHalves c.toNat).1 (Text.splitHalves c.toNat).2 = c := by
  have valid : c.toNat < 0xd800 ∨ 0xdfff < c.toNat ∧ c.toNat < 0x110000 := c.valid
  rw [Text.isHighHalf_iff, Text.isLowHalf_iff]
  refine ⟨?_, ?_, ?_⟩
  · simp only [Text.splitHalves]
    omega
  · simp only [Text.splitHalves]
    omega
  · have whole : 0x10000 + (0xd800 + (c.toNat - 0x10000) / 0x400 - 0xd800) * 0x400 +
        (0xdc00 + (c.toNat - 0x10000) % 0x400 - 0xdc00) = c.toNat := by omega
    simp only [Text.joinHalves, Text.splitHalves, whole, Char.ofNat_toNat]

/-! ### Escapes -/

/-- The characters that an escape has taken up are passed over. -/
theorem readText_skip (opening : List Char) (found : List Symbol) (taken rest : List Char) :
    readText opening taken.length found (taken ++ rest) = readText opening 0 found rest := by
  induction taken with
  | nil => rfl
  | cons c others inductionHypothesis =>
      rw [List.length_cons, List.cons_append, readText, if_pos (Nat.succ_ne_zero _),
        Nat.add_sub_cancel]
      exact inductionHypothesis

/-- An escape puts its symbol to those found before. -/
theorem readText_escape {opening taken rest : List Char} {found : List Symbol} {s : Symbol}
    (escape : readEscape opening (taken ++ rest) = .ok (s, taken.length)) :
    readText opening 0 found ('\\' :: taken ++ rest) = readText opening 0 (s :: found) rest := by
  rw [List.cons_append, readText, if_neg (by simp), if_neg (by decide), if_pos rfl, escape]
  exact readText_skip opening (s :: found) taken rest

/-- An escape of one character. -/
theorem readEscape_short {opening rest : List Char} {c d : Char} (noNumber : c ≠ 'u')
    (short : shortEscape? c = some d) : readEscape opening ([c] ++ rest) = .ok (.char d, 1) := by
  rw [List.singleton_append, readEscape, if_neg noNumber, short]

/-- An escape by number that is not followed by a second half. -/
theorem readEscape_numbered (opening : List Char) {rest : List Char} {n : Nat} (short : n < 0x10000)
    (more : rest ≠ []) (alone : Text.isHighHalf n = true → lowHalf? rest = .ok none) :
    readEscape opening ('u' :: Text.hexDigits 4 n ++ rest) = .ok (Symbol.ofCode n, 5) := by
  have number := hexNumber?_hexDigits short
  rw [hexDigits_four] at number ⊢
  have notEmpty : rest.isEmpty = false := by simpa using more
  simp only [List.cons_append, List.nil_append, readEscape, if_true, codeEscape, number, notEmpty,
    Bool.false_eq_true, if_false]
  cases half : Text.isHighHalf n with
  | false => rfl
  | true =>
      rw [alone half]
      rfl

/-- Two halves that are written after each other. -/
theorem readEscape_halves (opening : List Char) {rest : List Char} {high low : Nat}
    (isHigh : Text.isHighHalf high = true) (isLow : Text.isLowHalf low = true) (more : rest ≠ []) :
    readEscape opening ('u' :: Text.hexDigits 4 high ++ (numbered low ++ rest)) =
      .ok (.char (Text.joinHalves high low), 11) := by
  have highNumber : Text.hexNumber? (Text.hexDigits 4 high) = some high :=
    hexNumber?_hexDigits (Nat.lt_of_le_of_lt ((Text.isHighHalf_iff high).mp isHigh).2 (by decide))
  have lowNumber : Text.hexNumber? (Text.hexDigits 4 low) = some low :=
    hexNumber?_hexDigits (Nat.lt_of_le_of_lt ((Text.isLowHalf_iff low).mp isLow).2 (by decide))
  obtain ⟨e, others, rfl⟩ := List.exists_cons_of_ne_nil more
  rw [hexDigits_four] at highNumber lowNumber ⊢
  simp only [numbered, hexDigits_four, List.cons_append, List.nil_append, readEscape, if_true,
    codeEscape, highNumber, List.isEmpty_cons, Bool.false_eq_true, if_false, isHigh, lowHalf?,
    lowNumber, isLow]
  rfl

/-! ### Characters -/

/-- A character is written as an escape of its own, as itself, by its number, or as two halves. -/
theorem writtenChar_cases (c : Char) :
    (∃ d, writtenChar c = ['\\', d] ∧ d ≠ 'u' ∧ shortEscape? d = some c) ∨
      (writtenChar c = [c] ∧ c ≠ '"' ∧ c ≠ '\\' ∧ 0x20 ≤ c.toNat) ∨
      (writtenChar c = numbered c.toNat ∧ c.toNat < 0x10000) ∨
      (writtenChar c =
          numbered (Text.splitHalves c.toNat).1 ++ numbered (Text.splitHalves c.toNat).2 ∧
        0x10000 ≤ c.toNat) := by
  unfold writtenChar
  simp only
  split
  all_goals try exact .inl ⟨_, rfl, by decide, rfl⟩
  rename_i noQuote noBackslash _ _ _ _ _
  split
  · rename_i printable
    exact .inr (.inl ⟨rfl, noQuote, noBackslash, printable.1⟩)
  · split
    · rename_i short
      exact .inr (.inr (.inl ⟨rfl, short⟩))
    · rename_i beyond
      exact .inr (.inr (.inr ⟨rfl, Nat.le_of_not_lt beyond⟩))

/-- A character is read back from what is written for it. -/
theorem readText_writtenChar (opening rest : List Char) (found : List Symbol) (c : Char)
    (more : rest ≠ []) :
    readText opening 0 found (writtenChar c ++ rest) =
      readText opening 0 (.char c :: found) rest := by
  rcases writtenChar_cases c with ⟨d, written, noNumber, short⟩ |
    ⟨written, noQuote, noBackslash, noControl⟩ | ⟨written, short⟩ | ⟨written, beyond⟩
  · rw [written]
    exact readText_escape (readEscape_short noNumber short)
  · rw [written, List.singleton_append, readText, if_neg (by simp), if_neg noQuote,
      if_neg noBackslash, if_neg (Nat.not_lt_of_le noControl)]
  · have escape := readEscape_numbered opening short more fun high => by
      rw [(Symbol.not_half_of_char c).1] at high
      cases high
    rw [Symbol.ofCode_toNat] at escape
    rw [written]
    exact readText_escape escape
  · obtain ⟨high, low, joined⟩ := joinHalves_splitHalves beyond
    have escape := readEscape_halves opening high low more
    rw [joined, ← List.append_assoc] at escape
    rw [written]
    exact readText_escape escape

/-! ### Texts -/

theorem lowHalf?_of_ne {c : Char} (noEscape : c ≠ '\\') (rest : List Char) :
    lowHalf? (c :: rest) = .ok none := by
  simp [lowHalf?, noEscape]

theorem lowHalf?_of_short {c : Char} (noNumber : c ≠ 'u') (rest : List Char) :
    lowHalf? ('\\' :: c :: rest) = .ok none := by
  simp [lowHalf?, noNumber]

theorem lowHalf?_numbered {n : Nat} (short : n < 0x10000) {rest : List Char} (more : rest ≠ []) :
    lowHalf? (numbered n ++ rest) = .ok (if Text.isLowHalf n then some n else none) := by
  have number := hexNumber?_hexDigits short
  obtain ⟨e, others, rfl⟩ := List.exists_cons_of_ne_nil more
  rw [hexDigits_four] at number
  simp only [numbered, hexDigits_four, List.cons_append, List.nil_append, lowHalf?, number]

/-- What is written for a symbol is a second half only if the symbol is. -/
theorem lowHalf?_writtenSymbol {s : Symbol} (notLow : ¬ s.IsLow) {rest : List Char}
    (more : rest ≠ []) : lowHalf? (writtenSymbol s ++ rest) = .ok none := by
  unfold Symbol.IsLow at notLow
  cases s with
  | half offset =>
      have bound := offset.isLt
      rw [writtenSymbol, lowHalf?_numbered (by rw [Symbol.code]; omega) more, if_neg notLow]
  | char c =>
      rw [writtenSymbol]
      rcases writtenChar_cases c with ⟨d, written, noNumber, -⟩ | ⟨written, -, noBackslash, -⟩ |
        ⟨written, short⟩ | ⟨written, beyond⟩
      · rw [written]
        exact lowHalf?_of_short noNumber rest
      · rw [written]
        exact lowHalf?_of_ne noBackslash rest
      · rw [written, lowHalf?_numbered short more, (Symbol.not_half_of_char c).2]
        rfl
      · obtain ⟨high, -, -⟩ := joinHalves_splitHalves beyond
        rw [Text.isHighHalf_iff] at high
        rw [written, List.append_assoc, lowHalf?_numbered (by omega) (by simp [numbered]), if_neg]
        rw [Text.isLowHalf_iff]
        omega

/-- A symbol is read back from what is written for it, unless it is a first half and a second one
follows. -/
theorem readText_writtenSymbol (opening : List Char) {rest : List Char} (found : List Symbol)
    {s : Symbol} (more : rest ≠ []) (alone : s.IsHigh → lowHalf? rest = .ok none) :
    readText opening 0 found (writtenSymbol s ++ rest) = readText opening 0 (s :: found) rest := by
  cases s with
  | char c => exact readText_writtenChar opening rest found c more
  | half offset =>
      have bound := offset.isLt
      have short : (Symbol.half offset).code < 0x10000 := by
        rw [Symbol.code]
        omega
      have escape := readEscape_numbered opening short more alone
      rw [Symbol.ofCode_code_half] at escape
      exact readText_escape escape

/-- Symbols are read back up to the closing quote. -/
theorem readText_written (opening rest : List Char) {found symbols : List Symbol}
    (whole : symbols.IsChain fun a b => ¬ (a.IsHigh ∧ b.IsLow)) :
    readText opening 0 found (symbols.flatMap writtenSymbol ++ '"' :: rest) =
      .ok (⟨found.reverse ++ symbols⟩, rest) := by
  induction symbols generalizing found with
  | nil => simp [readText]
  | cons s others inductionHypothesis =>
      have alone : s.IsHigh →
          lowHalf? (others.flatMap writtenSymbol ++ '"' :: rest) = .ok none := by
        intro high
        cases others with
        | nil => exact lowHalf?_of_ne (by decide) rest
        | cons next later =>
            have notLow : ¬ next.IsLow := fun low =>
              (List.isChain_cons_cons.mp whole).1 ⟨high, low⟩
            rw [List.flatMap_cons, List.append_assoc]
            exact lowHalf?_writtenSymbol notLow (by simp)
      rw [List.flatMap_cons, List.append_assoc,
        readText_writtenSymbol opening found (by simp) alone, inductionHypothesis whole.tail,
        List.reverse_cons, List.append_assoc, List.singleton_append]

/-- A text is read back from what stands between its quotes. -/
theorem readText_text (opening rest : List Char) {s : Text} (whole : s.Whole) :
    readText opening 0 [] (s.toList.flatMap writtenSymbol ++ '"' :: rest) = .ok (s, rest) := by
  rw [readText_written opening rest whole]
  rfl

end Json

end TaskGraph
