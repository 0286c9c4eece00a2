/-
Module: TaskGraph.Proofs.Json.Numbers
Purpose: A whole number is read back from its digits, and a number with a fraction is read alike
  wherever a text ends after it.
Main exports:
  Json.Delimited, Json.readNumber_append, Json.readValue_integer, Json.Rereads,
  Json.Rereads.readValue
-/
import TaskGraph.Json.Reader
import TaskGraph.Json.Writer
import TaskGraph.Proofs.Text.Numeral
import TaskGraph.Proofs.Value.Access

namespace TaskGraph.Json

/-! ### Where numbers end -/

/-- What follows does not belong to a number. -/
def Delimited (rest : List Char) : Prop :=
  ∀ c, rest.head? = some c → Text.isPlainDigit c = false ∧ c ≠ '.' ∧ c ≠ 'e' ∧ c ≠ 'E'

theorem delimited_nil : Delimited [] := by
  intro c starts
  cases starts

/-- A number ends before everything but a digit, a point and the mark of an exponent. -/
theorem delimited_cons {c : Char} (noDigit : Text.isPlainDigit c = false)
    (noMark : c ≠ '.' ∧ c ≠ 'e' ∧ c ≠ 'E') (rest : List Char) : Delimited (c :: rest) := by
  intro d starts
  cases starts
  exact ⟨noDigit, noMark⟩

/-- A run of characters of a kind ends where another one comes. -/
theorem takeWhile_append_of_head {kind : Char → Bool} {rest : List Char}
    (ends : ∀ c, rest.head? = some c → kind c = false) (cs : List Char) :
    (cs ++ rest).takeWhile kind = cs.takeWhile kind ∧
      (cs ++ rest).dropWhile kind = cs.dropWhile kind ++ rest := by
  induction cs with
  | nil =>
      cases rest with
      | nil => exact ⟨rfl, rfl⟩
      | cons c others => simp [ends c rfl]
  | cons c others inductionHypothesis =>
      cases held : kind c with
      | false => simp [held]
      | true => simpa [held] using inductionHypothesis

/-- The exponent that digits write behind its mark and its sign. -/
def exponentDigits? (negative : Bool) (cs : List Char) : Option (Int × List Char) :=
  let digits := cs.takeWhile Text.isPlainDigit
  let n : Int := Decimal.plainValue digits
  if digits.isEmpty then none
  else some (if negative then -n else n, cs.dropWhile Text.isPlainDigit)

section Exponent

variable {c : Char} (mark : c = 'e' ∨ c = 'E') (cs : List Char)

include mark

theorem exponent?_minus : exponent? (c :: '-' :: cs) = exponentDigits? true cs := by
  rw [exponent?, if_pos mark]
  rfl

theorem exponent?_plus : exponent? (c :: '+' :: cs) = exponentDigits? false cs := by
  rw [exponent?, if_pos mark]
  rfl

theorem exponent?_unsigned {d : Char} (noSign : d ≠ '-' ∧ d ≠ '+') :
    exponent? (c :: d :: cs) = exponentDigits? false (d :: cs) := by
  simp only [exponent?, if_pos mark]
  split
  · rename_i same
    exact absurd (List.cons.inj same).1 noSign.1
  · rename_i same
    exact absurd (List.cons.inj same).1 noSign.2
  · rfl

end Exponent

theorem wholeDigits_of_ne {c : Char} (noZero : c ≠ '0') (cs : List Char) :
    wholeDigits (c :: cs) =
      ((c :: cs).takeWhile Text.isPlainDigit, (c :: cs).dropWhile Text.isPlainDigit) := by
  unfold wholeDigits
  split
  · rename_i same
    exact absurd (List.cons.inj same).1 noZero
  · rfl

section Parts

variable {rest : List Char} (delimited : Delimited rest)

include delimited

theorem digits_append (cs : List Char) :
    (cs ++ rest).takeWhile Text.isPlainDigit = cs.takeWhile Text.isPlainDigit ∧
      (cs ++ rest).dropWhile Text.isPlainDigit = cs.dropWhile Text.isPlainDigit ++ rest :=
  takeWhile_append_of_head (fun c starts => (delimited c starts).1) cs

theorem wholeDigits_append {cs : List Char} (nonempty : cs ≠ []) :
    wholeDigits (cs ++ rest) = ((wholeDigits cs).1, (wholeDigits cs).2 ++ rest) := by
  obtain ⟨c, others, rfl⟩ := List.exists_cons_of_ne_nil nonempty
  obtain ⟨taken, dropped⟩ := digits_append delimited (c :: others)
  by_cases zero : c = '0'
  · subst zero
    rfl
  · rw [List.cons_append, wholeDigits_of_ne zero, wholeDigits_of_ne zero, ← List.cons_append, taken,
      dropped]

theorem fractionDigits_append (cs : List Char) :
    fractionDigits (cs ++ rest) = ((fractionDigits cs).1, (fractionDigits cs).2 ++ rest) := by
  have alone : fractionDigits rest = ([], rest) := by
    cases rest with
    | nil => rfl
    | cons c others => simp [fractionDigits, (delimited c rfl).2.1]
  rcases cs with _ | ⟨c, _ | ⟨d, others⟩⟩
  · exact alone
  · by_cases point : c = '.'
    · subst point
      cases rest with
      | nil => rfl
      | cons d others => simp [fractionDigits, (delimited d rfl).1]
    · simp [fractionDigits, point]
  · by_cases point : c = '.'
    · subst point
      obtain ⟨taken, dropped⟩ := digits_append delimited others
      simp only [List.cons_append, fractionDigits, taken, dropped]
      split
      · rfl
      · rfl
    · simp [fractionDigits, point]

theorem exponent?_of_delimited : exponent? rest = none := by
  cases rest with
  | nil => rfl
  | cons c others =>
      obtain ⟨-, -, small, capital⟩ := delimited c rfl
      simp [exponent?, small, capital]

theorem exponentDigits?_append {negative : Bool} {cs left : List Char} {n : Int}
    (found : exponentDigits? negative cs = some (n, left)) :
    exponentDigits? negative (cs ++ rest) = some (n, left ++ rest) := by
  obtain ⟨taken, dropped⟩ := digits_append delimited cs
  simp only [exponentDigits?, taken, dropped] at found ⊢
  split at found
  · cases found
  · cases found
    rw [if_neg ‹_›]

theorem exponent?_append {cs left : List Char} {n : Int} (found : exponent? cs = some (n, left)) :
    exponent? (cs ++ rest) = some (n, left ++ rest) := by
  rcases cs with _ | ⟨c, _ | ⟨d, others⟩⟩
  · cases found
  · by_cases mark : c = 'e' ∨ c = 'E'
    · simp [exponent?] at found
    · simp [exponent?, mark] at found
  · by_cases mark : c = 'e' ∨ c = 'E'
    · rw [List.cons_append, List.cons_append]
      by_cases minus : d = '-'
      · subst minus
        rw [exponent?_minus mark] at found ⊢
        exact exponentDigits?_append delimited found
      · by_cases plus : d = '+'
        · subst plus
          rw [exponent?_plus mark] at found ⊢
          exact exponentDigits?_append delimited found
        · rw [exponent?_unsigned mark _ ⟨minus, plus⟩] at found ⊢
          exact exponentDigits?_append delimited found
    · simp [exponent?, mark] at found

/-- A number that is all of a text is read alike where more follows. -/
theorem readNumber_append {negative : Bool} {whole cs : List Char} {v : Value} (other : List Char)
    (read : readNumber negative whole cs = .ok (v, [])) :
    readNumber negative other (cs ++ rest) = .ok (v, rest) := by
  have nonempty : cs ≠ [] := by
    intro empty
    rw [empty] at read
    cases read
  simp only [readNumber, wholeDigits_append delimited nonempty, fractionDigits_append delimited]
    at read ⊢
  split at read
  · cases read
  · rename_i digits
    rw [if_neg digits]
    cases exponent : exponent? (fractionDigits (wholeDigits cs).2).2 with
    | some found =>
        obtain ⟨n, left⟩ := found
        rw [exponent?_append delimited exponent]
        cases fraction : (fractionDigits (wholeDigits cs).2).1 with
        | nil | cons =>
            simp only [fraction, exponent] at read ⊢
            cases read
            rfl
    | none =>
        -- Without an exponent nothing is left of the text.
        cases fraction : (fractionDigits (wholeDigits cs).2).1 with
        | nil =>
            simp only [fraction, exponent] at read
            cases natural : Text.readNatural (Text.symbols (wholeDigits cs).1) with
            | error fault =>
                rw [natural] at read
                cases read
            | ok n =>
                rw [natural] at read
                obtain ⟨⟨⟩, left⟩ := Prod.mk.inj (Except.ok.inj read)
                rw [left, List.nil_append, exponent?_of_delimited delimited]
        | cons d others =>
            simp only [fraction, exponent] at read
            obtain ⟨⟨⟩, left⟩ := Prod.mk.inj (Except.ok.inj read)
            rw [left, List.nil_append, exponent?_of_delimited delimited]

end Parts

/-! ### Names -/

/-- A name starts with one of its characters. -/
theorem readName?_of_ne {c : Char} (noLetter : c ≠ 'n' ∧ c ≠ 't' ∧ c ≠ 'f' ∧ c ≠ 'N' ∧ c ≠ 'I')
    (noSign : c ≠ '-') (rest : List Char) : readName? (c :: rest) = none := by
  obtain ⟨n, t, f, capitalN, capitalI⟩ := noLetter
  simp [readName?, names, List.isPrefixOf, n.symm, t.symm, f.symm, capitalN.symm, capitalI.symm,
    noSign.symm]

/-- A sign belongs to a name only before one letter. -/
theorem readName?_of_sign {c : Char} (noLetter : c ≠ 'I') (rest : List Char) :
    readName? ('-' :: c :: rest) = none := by
  simp [readName?, names, List.isPrefixOf, noLetter.symm]

/-- A name that is all of a text is read alike where more follows. -/
theorem readName?_append {cs : List Char} {v : Value} (read : readName? cs = some (v, []))
    (rest : List Char) : readName? (cs ++ rest) = some (v, rest) := by
  obtain ⟨entry, found, same⟩ := Option.map_eq_some_iff.mp read
  have member := List.mem_of_find?_eq_some found
  have starts := List.find?_some found
  simp only [List.isPrefixOf_iff_prefix] at starts
  obtain ⟨tail, rfl⟩ := starts
  simp only [List.drop_left, Prod.mk.injEq] at same
  obtain ⟨rfl, rfl⟩ := same
  rw [List.append_nil]
  simp only [names, List.mem_cons, List.not_mem_nil, or_false] at member
  rcases member with rfl | rfl | rfl | rfl | rfl | rfl
  all_goals rfl

/-! ### Numbers as values -/

/-- A number starts with a digit. -/
theorem exists_digit_of_readNumber {negative : Bool} {whole cs : List Char}
    {result : Value × List Char} (read : readNumber negative whole cs = .ok result) :
    ∃ c others, cs = c :: others ∧ Text.isPlainDigit c = true := by
  cases cs with
  | nil => cases read
  | cons c others =>
      refine ⟨c, others, rfl, ?_⟩
      by_cases zero : c = '0'
      · subst zero
        rfl
      · by_contra noDigit
        have none : wholeDigits (c :: others) = ([], c :: others) := by
          simp [wholeDigits, zero, noDigit]
        rw [readNumber, none] at read
        cases read

/-- What does not start a text or a collection is a name or a number. -/
theorem readValue_of_ne (levels fuel : Nat) {c : Char} (noOpening : c ≠ '"' ∧ c ≠ '[' ∧ c ≠ '\x7b')
    (others : List Char) :
    readValue levels (fuel + 1) (c :: others) =
      match readName? (c :: others) with
      | some found => .ok found
      | none =>
        match c :: others with
        | '-' :: rest => readNumber true (c :: others) rest
        | _ => readNumber false (c :: others) (c :: others) := by
  obtain ⟨quote, bracket, brace⟩ := noOpening
  unfold readValue
  split
  · rename_i same
    exact absurd (List.cons.inj same).1 quote
  · rename_i same
    exact absurd (List.cons.inj same).1 bracket
  · rename_i same
    exact absurd (List.cons.inj same).1 brace
  · rfl

theorem readValue_of_digit (levels fuel : Nat) {c : Char} (digit : Text.isPlainDigit c = true)
    (others : List Char) :
    readValue levels (fuel + 1) (c :: others) = readNumber false (c :: others) (c :: others) := by
  have different (d : Char) (noDigit : Text.isPlainDigit d = false) : c ≠ d := by
    intro same
    rw [same, noDigit] at digit
    cases digit
  rw [readValue_of_ne levels fuel
    ⟨different _ (by decide), different _ (by decide), different _ (by decide)⟩,
    readName?_of_ne ⟨different _ (by decide), different _ (by decide), different _ (by decide),
      different _ (by decide), different _ (by decide)⟩ (different _ (by decide))]
  simp only
  split
  · rename_i same
    exact absurd (List.cons.inj same).1 (different _ (by decide))
  · rfl

theorem readValue_of_sign (levels fuel : Nat) {c : Char} (digit : Text.isPlainDigit c = true)
    (others : List Char) :
    readValue levels (fuel + 1) ('-' :: c :: others) =
      readNumber true ('-' :: c :: others) (c :: others) := by
  have noLetter : c ≠ 'I' := by
    intro same
    rw [same] at digit
    cases digit
  rw [readValue_of_ne levels fuel (by decide), readName?_of_sign noLetter]
  rfl

/-! ### Whole numbers -/

theorem wholeDigits_digitsOf (n : Nat) : wholeDigits (Text.digitsOf n) = (Text.digitsOf n, []) := by
  have plain : ∀ c ∈ Text.digitsOf n, Text.isPlainDigit c = true := fun c =>
    Text.isPlainDigit_of_mem_digitsOf
  cases starts : Text.digitsOf n with
  | nil => exact absurd starts (Text.digitsOf_ne_nil n)
  | cons c others =>
      rw [starts] at plain
      by_cases zero : c = '0'
      · subst zero
        rw [Text.eq_nil_of_digitsOf_eq_zero_cons starts]
        rfl
      · rw [wholeDigits_of_ne zero, List.takeWhile_eq_self_iff.mpr plain,
          List.dropWhile_eq_nil_iff.mpr plain]

/-- The digits of a number that is not too long are read as the number. -/
theorem readNumber_digitsOf {n : Nat} (short : n < Value.digitBound) (negative : Bool)
    (whole : List Char) :
    readNumber negative whole (Text.digitsOf n) =
      .ok (.int (if negative then -(n : Int) else n), []) := by
  have length : (Text.symbols (Text.digitsOf n)).length ≤ Text.maxDigits := by
    rwa [Text.length_symbols, Text.length_digitsOf_le_iff (by decide), ← Value.digitBound_eq]
  have nonempty : ¬(Text.digitsOf n).isEmpty = true := by simp [Text.digitsOf_ne_nil]
  simp only [readNumber, wholeDigits_digitsOf, if_neg nonempty, fractionDigits, exponent?,
    (Text.Writes.digitsOf n).readNatural length]

/-- The digits of a whole number behind its sign. -/
theorem toList_toString (n : Int) :
    (toString n).toList =
      if n < 0 then '-' :: Text.digitsOf n.natAbs else Text.digitsOf n.natAbs := by
  cases n with
  | ofNat m =>
      rw [if_neg (by simp)]
      rfl
  | negSucc m =>
      rw [if_pos (Int.negSucc_lt_zero m), Int.toString_eq_repr, Int.repr, String.toList_append]
      rfl

/-- A whole number that is written is read back wherever a text ends after it. -/
theorem readValue_integer {n : Int} {written : String} (wrote : integer n = .ok written)
    {rest : List Char} (delimited : Delimited rest) (levels fuel : Nat) :
    readValue levels (fuel + 1) (written.toList ++ rest) = .ok (.int n, rest) := by
  unfold integer at wrote
  split at wrote
  · cases wrote
  · rename_i short
    cases wrote
    have number (negative : Bool) (whole : List Char) :=
      readNumber_append delimited whole
        (readNumber_digitsOf (Nat.lt_of_not_le short) negative whole)
    obtain ⟨c, others, starts, digit⟩ :=
      exists_digit_of_readNumber (readNumber_digitsOf (Nat.lt_of_not_le short) false [])
    rw [toList_toString]
    split
    · rename_i below
      rw [starts, List.cons_append, List.cons_append, readValue_of_sign levels fuel digit,
        ← List.cons_append, ← starts, number]
      simp only [if_true]
      congr 3
      omega
    · rename_i notBelow
      rw [starts, List.cons_append, readValue_of_digit levels fuel digit, ← List.cons_append,
        ← starts, number]
      simp only [Bool.false_eq_true, if_false]
      congr 3
      omega

/-! ### Numbers with a fraction -/

/-- A number that is all of a text is read alike where more follows. -/
theorem readValue_append_of_float {cs : List Char} {x : Binary64}
    (read : readValue 0 1 cs = .ok (.float x, [])) {rest : List Char} (delimited : Delimited rest)
    (levels fuel : Nat) : readValue levels (fuel + 1) (cs ++ rest) = .ok (.float x, rest) := by
  rcases cs with _ | ⟨c, others⟩
  · cases read
  · by_cases noOpening : c ≠ '"' ∧ c ≠ '[' ∧ c ≠ '\x7b'
    · rw [readValue_of_ne 0 0 noOpening] at read
      cases named : readName? (c :: others) with
      | some found =>
          rw [named] at read
          cases read
          rw [List.cons_append, readValue_of_ne levels fuel noOpening, ← List.cons_append,
            readName?_append named]
      | none =>
          rw [named] at read
          simp only at read
          split at read
          · rename_i digits same
            cases same
            obtain ⟨d, later, rfl, digit⟩ := exists_digit_of_readNumber read
            rw [List.cons_append, List.cons_append, readValue_of_sign levels fuel digit]
            exact readNumber_append delimited _ read
          · obtain ⟨_, _, ⟨⟩, digit⟩ := exists_digit_of_readNumber read
            rw [List.cons_append, readValue_of_digit levels fuel digit]
            exact readNumber_append delimited _ read
    · -- A text is no number, and no levels are left for a collection.
      by_cases quote : c = '"'
      · subst quote
        unfold readValue at read
        simp only at read
        split at read
        · cases read
        · cases read
      · by_cases bracket : c = '['
        · subst bracket
          cases read
        · have brace : c = '\x7b' := by
            by_contra brace
            exact noOpening ⟨quote, bracket, brace⟩
          subst brace
          cases read

/-- The text of a number with a fraction is read as the number, and nothing of it is left. -/
def Rereads (x : Binary64) : Prop :=
  readValue 0 1 (Decimal.writeIn numberStyle x).toList = .ok (.float x, [])

theorem Rereads.readValue {x : Binary64} (rereads : Rereads x) {rest : List Char}
    (delimited : Delimited rest) (levels fuel : Nat) :
    readValue levels (fuel + 1) ((Decimal.writeIn numberStyle x).toList ++ rest) =
      .ok (.float x, rest) :=
  readValue_append_of_float rereads delimited levels fuel

theorem rereads_zero : Rereads (Binary64.zero false) := by
  unfold Rereads
  rfl

end TaskGraph.Json
