/-
Module: TaskGraph.Proofs.Text.Numeral
Purpose: Numbers as runs of digits: every run of plain digits writes one number, perhaps
  after zeros, and a run that is not too long is read as the number that it writes.
Main exports:
  Text.Writes, Text.Writes.readNatural, Text.Writes.unique, Text.isPlainNumeral_iff,
  Text.exists_writes, Text.readNatural_lt, Text.Unreadable, Text.readNatural_eq_error
-/
import Mathlib
import TaskGraph.Proofs.Text.Lines
import TaskGraph.Text.Numeral

namespace TaskGraph.Text

/-- A token writes a number: its digits, perhaps after zeros. -/
def Writes (token : List Symbol) (n : Nat) : Prop :=
  ∃ zeros, token = symbols (List.replicate zeros '0' ++ digitsOf n)

/-! ### Plain digits -/

theorem isPlainDigit_iff (c : Char) :
    isPlainDigit c = true ↔ 48 ≤ c.toNat ∧ c.toNat ≤ 57 := by
  simp [isPlainDigit]

theorem isPlainDigit_of_isDigit {c : Char} (digit : c.isDigit = true) :
    isPlainDigit c = true := by
  rw [isPlainDigit_iff]
  simp only [Char.isDigit, Bool.and_eq_true, decide_eq_true_eq, ge_iff_le,
    UInt32.le_iff_toNat_le] at digit
  exact digit

theorem decimal?_of_isPlainDigit {c : Char} (plain : isPlainDigit c = true) :
    decimal? c = some (c.toNat - 48) := by
  obtain ⟨lower, upper⟩ := (isPlainDigit_iff c).mp plain
  simp only [decimal?]
  rw [if_pos (by omega), if_pos ⟨lower, upper⟩]

theorem isDigit_of_isPlainDigit {c : Char} (plain : isPlainDigit c = true) :
    isDigit c = true := by
  obtain ⟨lower, upper⟩ := (isPlainDigit_iff c).mp plain
  simp only [isDigit]
  rw [if_pos (by omega)]
  simp [lower, upper]

/-- Below the bound of ASCII there are no digits but the plain ones. -/
theorem isPlainDigit_of_ascii {c : Char} (digit : isDigit c = true) (ascii : c.toNat < 128) :
    isPlainDigit c = true := by
  simp only [isDigit] at digit
  rw [if_pos ascii] at digit
  exact digit

/-- The digit character of a plain digit is the digit itself. -/
theorem digitChar_of_isPlainDigit {c : Char} (plain : isPlainDigit c = true) :
    Nat.digitChar (c.toNat - 48) = c := by
  obtain ⟨lower, upper⟩ := (isPlainDigit_iff c).mp plain
  apply Char.toNat_inj.mp
  rw [Nat.toNat_digitChar_of_lt_ten (by omega)]
  omega

theorem not_isBlank_of_isPlainDigit {c : Char} (digit : isPlainDigit c = true) :
    isBlank c = false := by
  obtain ⟨lower, upper⟩ := (isPlainDigit_iff c).mp digit
  simp only [isBlank]
  rw [if_pos (by omega)]
  simp only [Bool.or_eq_false_iff, Bool.and_eq_false_iff, decide_eq_false_iff_not]
  omega

/-! ### Written digits -/

theorem digitsOf_eq_toDigits (n : Nat) : digitsOf n = Nat.toDigits 10 n := by
  simp [digitsOf]

theorem isPlainDigit_of_mem_digitsOf {n : Nat} {c : Char} (member : c ∈ digitsOf n) :
    isPlainDigit c = true := by
  rw [digitsOf_eq_toDigits] at member
  exact isPlainDigit_of_isDigit (Nat.isDigit_of_mem_toDigits (by decide) (by decide) member)

theorem not_isBlank_of_mem_digitsOf {n : Nat} {s : Symbol} (member : s ∈ symbols (digitsOf n)) :
    s.is isBlank = false := by
  obtain ⟨c, digit, rfl⟩ := List.mem_map.mp member
  exact not_isBlank_of_isPlainDigit (isPlainDigit_of_mem_digitsOf digit)

/-- There is no white space around digits. -/
theorem strip_digitsOf (n : Nat) : strip (symbols (digitsOf n)) = symbols (digitsOf n) :=
  strip_eq_self fun _ member => not_isBlank_of_mem_digitsOf member

theorem digitsOf_ne_nil (n : Nat) : digitsOf n ≠ [] := by
  simp [digitsOf_eq_toDigits]

/-- A number with not too many digits is below the power of ten, and the other way round. -/
theorem length_digitsOf_le_iff {n bound : Nat} (positive : 0 < bound) :
    (digitsOf n).length ≤ bound ↔ n < 10 ^ bound := by
  rw [digitsOf_eq_toDigits]
  exact Nat.length_toDigits_le_iff (by decide) positive

/-- The characters of a token that writes a number. -/
theorem isPlainDigit_of_written {zeros n : Nat} {c : Char}
    (member : c ∈ List.replicate zeros '0' ++ digitsOf n) : isPlainDigit c = true := by
  rcases List.mem_append.mp member with zero | digit
  · rw [List.eq_of_mem_replicate zero]
    decide
  · exact isPlainDigit_of_mem_digitsOf digit

/-- A run of plain digits is a number after zeros: with one more digit at its end, the
number grows by that digit, unless it was zero and becomes one more of the zeros. -/
theorem exists_replicate_append_digitsOf (cs : List Char) (nonempty : cs ≠ [])
    (plain : ∀ c ∈ cs, isPlainDigit c = true) :
    ∃ zeros n, cs = List.replicate zeros '0' ++ digitsOf n := by
  induction cs using List.reverseRecOn with
  | nil => exact absurd rfl nonempty
  | append_singleton before c inductionHypothesis =>
      have plainLast : isPlainDigit c = true := plain c (by simp)
      obtain ⟨lower, upper⟩ := (isPlainDigit_iff c).mp plainLast
      have lastDigits : Nat.toDigits 10 (c.toNat - 48) = [c] := by
        rw [Nat.toDigits_of_lt_base (by omega), digitChar_of_isPlainDigit plainLast]
      by_cases first : before = []
      · exact ⟨0, c.toNat - 48, by simp [first, digitsOf_eq_toDigits, lastDigits]⟩
      · obtain ⟨zeros, n, written⟩ :=
          inductionHypothesis first fun d member => plain d (by simp [member])
        rw [digitsOf_eq_toDigits] at written
        cases n with
        | zero =>
            refine ⟨zeros + 1, c.toNat - 48, ?_⟩
            rw [written, digitsOf_eq_toDigits, lastDigits, Nat.toDigits_zero,
              List.replicate_succ']
        | succ n =>
            refine ⟨zeros, 10 * (n + 1) + (c.toNat - 48), ?_⟩
            rw [written, digitsOf_eq_toDigits,
              ← Nat.toDigits_append_toDigits (by decide) (Nat.succ_pos n) (by omega),
              lastDigits, List.append_assoc]

/-! ### Reading -/

theorem decimalSymbol?_of_isPlainDigit {c : Char} (plain : isPlainDigit c = true) :
    decimalSymbol? (.char c) = some (c.toNat - 48) :=
  decimal?_of_isPlainDigit plain

/-- The values of plain digits. -/
theorem filterMap_decimalSymbol? (cs : List Char) (plain : ∀ c ∈ cs, isPlainDigit c = true) :
    (symbols cs).filterMap decimalSymbol? = cs.map fun c => c.toNat - 48 := by
  induction cs with
  | nil => rfl
  | cons c rest inductionHypothesis =>
      rw [symbols_cons,
        List.filterMap_cons_some (decimalSymbol?_of_isPlainDigit (plain c (by simp))),
        inductionHypothesis fun d member => plain d (by simp [member]), List.map_cons]

/-- Plain digits are read as the number whose digits they are. -/
theorem readNatural_symbols {cs : List Char} (plain : ∀ c ∈ cs, isPlainDigit c = true)
    (short : cs.length ≤ maxDigits) :
    readNatural (symbols cs) = .ok (Nat.ofDigitChars 10 cs 0) := by
  have all : (symbols cs).takeWhile (fun c => (decimalSymbol? c).isSome) = symbols cs := by
    rw [List.takeWhile_eq_self_iff]
    intro c member
    obtain ⟨d, digit, rfl⟩ := List.mem_map.mp member
    rw [decimalSymbol?_of_isPlainDigit (plain d digit)]
    rfl
  have value : ofDigitValues 10 (cs.map fun c => c.toNat - 48) = Nat.ofDigitChars 10 cs 0 := by
    rw [ofDigitValues, List.foldl_map, Nat.ofDigitChars_eq_foldl]
    rfl
  simp only [readNatural, all, filterMap_decimalSymbol? cs plain, List.length_map]
  rw [if_neg (by omega), if_neg (by simp), value]

theorem decimal?_lt {c : Char} {digit : Nat} (found : decimal? c = some digit) : digit < 10 := by
  simp only [decimal?] at found
  split at found
  · split at found
    · simp only [Option.some.injEq] at found
      omega
    · cases found
  · obtain ⟨start, search, rfl⟩ := Option.map_eq_some_iff.mp found
    have within := List.find?_some search
    simp only [Bool.and_eq_true, decide_eq_true_eq] at within
    omega

theorem ofDigitValues_lt {base : Nat} (values : List Nat)
    (digits : ∀ d ∈ values, d < base) : ofDigitValues base values < base ^ values.length := by
  induction values using List.reverseRecOn with
  | nil => simp [ofDigitValues]
  | append_singleton before d inductionHypothesis =>
      have smaller := inductionHypothesis fun e member => digits e (by simp [member])
      have last : d < base := digits d (by simp)
      simp only [ofDigitValues, List.foldl_append, List.foldl_cons, List.foldl_nil,
        List.length_append, List.length_singleton, Nat.pow_succ] at smaller ⊢
      calc
        base * List.foldl (fun n d => base * n + d) 0 before + d
            < base * List.foldl (fun n d => base * n + d) 0 before + base := by omega
        _ = base * (List.foldl (fun n d => base * n + d) 0 before + 1) := by
            rw [Nat.mul_add, Nat.mul_one]
        _ ≤ base * base ^ before.length := Nat.mul_le_mul_left base smaller
        _ = base ^ before.length * base := Nat.mul_comm _ _

/-- A number that is read has no more digits than are written. -/
theorem readNatural_lt {token : List Symbol} {n : Nat} (read : readNatural token = .ok n) :
    n < 10 ^ maxDigits := by
  simp only [readNatural] at read
  split at read
  · cases read
  · rename_i short
    split at read
    · cases read
    · cases read
      apply Nat.lt_of_lt_of_le
        (ofDigitValues_lt _ ?_) (Nat.pow_le_pow_right (by decide) (by omega))
      intro d member
      obtain ⟨c, -, found⟩ := List.mem_filterMap.mp member
      obtain ⟨char, -, digit⟩ := Option.bind_eq_some_iff.mp found
      exact decimal?_lt digit

namespace Writes

theorem digitsOf (n : Nat) : Writes (symbols (Text.digitsOf n)) n :=
  ⟨0, rfl⟩

theorem padded (width n : Nat) : Writes (symbols (Text.padded width n).toList) n := by
  refine ⟨width - (Text.digitsOf n).length, ?_⟩
  rw [Text.padded, String.toList_ofList]

/-- A token that is not too long is read as the number that it writes. -/
theorem readNatural {token : List Symbol} {n : Nat} (written : Writes token n)
    (short : token.length ≤ maxDigits) : readNatural token = .ok n := by
  obtain ⟨zeros, rfl⟩ := written
  rw [readNatural_symbols (fun c => isPlainDigit_of_written) (by simpa using short),
    digitsOf_eq_toDigits]
  simp [Nat.ofDigitChars_append]

/-- A token writes at most one number. -/
theorem unique {token : List Symbol} {n m : Nat} (first : Writes token n)
    (second : Writes token m) : n = m := by
  obtain ⟨zeros, rfl⟩ := first
  obtain ⟨otherZeros, same⟩ := second
  have values := congrArg (fun cs => Nat.ofDigitChars 10 cs 0) (symbols_inj.mp same)
  simpa [Nat.ofDigitChars_append, digitsOf_eq_toDigits] using values

theorem isNumeral {token : List Symbol} {n : Nat} (written : Writes token n) :
    isNumeral token = true := by
  obtain ⟨zeros, rfl⟩ := written
  have nonempty := digitsOf_ne_nil n
  simp only [Text.isNumeral, symbols, List.isEmpty_map, List.all_map, Bool.and_eq_true,
    Bool.not_eq_true', List.all_eq_true, List.isEmpty_eq_false_iff]
  refine ⟨by simp [nonempty], fun c member => ?_⟩
  exact isDigit_of_isPlainDigit (isPlainDigit_of_written member)

end Writes

/-- The digits of a number start with a zero only if it is all of them. -/
theorem eq_nil_of_digitsOf_eq_zero_cons {n : Nat} {cs : List Char}
    (starts : digitsOf n = '0' :: cs) : cs = [] := by
  by_contra nonempty
  have plain : ∀ c ∈ cs, isPlainDigit c = true := by
    intro c member
    apply isPlainDigit_of_mem_digitsOf (n := n)
    rw [starts]
    exact List.mem_cons_of_mem _ member
  obtain ⟨zeros, m, rfl⟩ := exists_replicate_append_digitsOf cs nonempty plain
  have again : Writes (symbols (digitsOf n)) m := by
    refine ⟨zeros + 1, ?_⟩
    rw [starts, List.replicate_succ, List.cons_append]
  rw [(Writes.digitsOf n).unique again] at starts
  have lengths := congrArg List.length starts
  simp only [List.length_cons, List.length_append, List.length_replicate] at lengths
  omega

/-- A run of plain digits writes a number, and nothing else does. -/
theorem isPlainNumeral_iff {token : List Symbol} :
    isPlainNumeral token = true ↔ ∃ n, Writes token n := by
  constructor
  · intro numeral
    simp only [isPlainNumeral, Bool.and_eq_true, Bool.not_eq_true', List.isEmpty_eq_false_iff,
      List.all_eq_true] at numeral
    obtain ⟨nonempty, digits⟩ := numeral
    obtain ⟨cs, rfl, plain⟩ :
        ∃ cs, token = symbols cs ∧ ∀ c ∈ cs, isPlainDigit c = true := by
      clear nonempty
      induction token with
      | nil => exact ⟨[], rfl, by simp⟩
      | cons s rest inductionHypothesis =>
          obtain ⟨cs, rfl, plain⟩ := inductionHypothesis fun t member => digits t (by simp [member])
          cases s with
          | char c =>
              refine ⟨c :: cs, rfl, fun d member => ?_⟩
              rcases List.mem_cons.mp member with rfl | later
              · exact digits (.char d) (by simp)
              · exact plain d later
          | half offset => exact absurd (digits (.half offset) (by simp)) (by simp [Symbol.is])
    obtain ⟨zeros, n, written⟩ :=
      exists_replicate_append_digitsOf cs (by simpa [symbols] using nonempty) plain
    exact ⟨n, zeros, by rw [written]⟩
  · intro written
    obtain ⟨n, zeros, rfl⟩ := written
    simp only [isPlainNumeral, symbols, List.isEmpty_map, List.all_map, Bool.and_eq_true,
      Bool.not_eq_true', List.all_eq_true, List.isEmpty_eq_false_iff]
    exact ⟨by simp [digitsOf_ne_nil n], fun c member => isPlainDigit_of_written member⟩

/-- Every run of digits in which all digits are ASCII writes a number. -/
theorem exists_writes {token : List Symbol} (numeral : isNumeral token = true)
    (ascii : ∀ c, Symbol.char c ∈ token → isDigit c = true → c.toNat < 128) :
    ∃ n, Writes token n := by
  simp only [isNumeral, Bool.and_eq_true, List.all_eq_true] at numeral
  rw [← isPlainNumeral_iff]
  simp only [isPlainNumeral, Bool.and_eq_true, List.all_eq_true]
  refine ⟨numeral.1, fun s member => ?_⟩
  have digit := numeral.2 s member
  cases s with
  | char c => exact isPlainDigit_of_ascii digit (ascii c member digit)
  | half offset => cases digit

/-! ### What cannot be read

A run of digits passes for a number by one property of its characters and is read by another:
digits that take part in no decimal system, and runs that are too long, pass and cannot be
read. -/

/-- The decimal digits at the start of a token. -/
def decimalRun (token : List Symbol) : List Symbol :=
  token.takeWhile fun s => (decimalSymbol? s).isSome

/-- No number can be made of a token, and what is said of it: the decimal digits at its start are
too many, or else something follows that is no decimal digit. -/
inductive Unreadable (token : List Symbol) : NumeralError → Prop where
  | tooLong (long : maxDigits < (decimalRun token).length) :
      Unreadable token (.tooLong (decimalRun token).length)
  | malformed (short : (decimalRun token).length ≤ maxDigits)
      (odd : ∃ s ∈ token, decimalSymbol? s = none) :
      Unreadable token (.malformed 10 ⟨token⟩)

theorem length_decimalRun_le (token : List Symbol) :
    (decimalRun token).length ≤ token.length :=
  (List.takeWhile_prefix _).length_le

theorem length_decimalRun_lt {token : List Symbol} :
    (decimalRun token).length < token.length ↔ ∃ s ∈ token, decimalSymbol? s = none := by
  have whole : (decimalRun token).length = token.length ↔
      ∀ s ∈ token, (decimalSymbol? s).isSome = true := by
    rw [← List.takeWhile_eq_self_iff]
    exact ⟨(List.takeWhile_prefix _).eq_of_length, congrArg List.length⟩
  rw [lt_iff_le_and_ne, ne_eq, whole]
  simp [length_decimalRun_le, Option.isSome_iff_ne_none]

theorem readNatural_eq (token : List Symbol) :
    readNatural token =
      if maxDigits < (decimalRun token).length then .error (.tooLong (decimalRun token).length)
      else if (decimalRun token).length < token.length then .error (.malformed 10 ⟨token⟩)
      else .ok (ofDigitValues 10 ((decimalRun token).filterMap decimalSymbol?)) := by
  have counted : ((decimalRun token).filterMap decimalSymbol?).length =
      (decimalRun token).length := by
    rw [List.length_filterMap_eq_countP, List.countP_eq_length]
    intro s member
    exact List.mem_takeWhile_imp (p := fun s => (decimalSymbol? s).isSome) member
  rw [← counted]
  rfl

/-- A number that is written with too many digits cannot be read. -/
theorem Writes.readNatural_of_long {token : List Symbol} {n : Nat}
    (written : Writes token n) (long : maxDigits < token.length) :
    Text.readNatural token = .error (.tooLong token.length) := by
  have whole : (decimalRun token).length = token.length := by
    refine le_antisymm (length_decimalRun_le token) (not_lt.mp fun shorter => ?_)
    obtain ⟨s, member, odd⟩ := length_decimalRun_lt.mp shorter
    obtain ⟨zeros, rfl⟩ := written
    obtain ⟨c, digit, rfl⟩ := List.mem_map.mp member
    rw [decimalSymbol?_of_isPlainDigit (isPlainDigit_of_written digit)] at odd
    cases odd
  rw [readNatural_eq, if_pos (by omega), whole]

/-- Reading fails exactly on what cannot be read. -/
theorem readNatural_eq_error {token : List Symbol} {fault : NumeralError} :
    readNatural token = .error fault ↔ Unreadable token fault := by
  rw [readNatural_eq]
  constructor
  · intro failed
    split at failed
    · cases failed
      exact .tooLong ‹_›
    · split at failed
      · cases failed
        exact .malformed (by omega) (length_decimalRun_lt.mp ‹_›)
      · cases failed
  · intro unreadable
    cases unreadable with
    | tooLong long => rw [if_pos long]
    | malformed short odd =>
        rw [if_neg (by omega), if_pos (length_decimalRun_lt.mpr odd)]

/-- A run of decimal digits: there is one, and nothing else. -/
def IsDecimal (token : List Symbol) : Prop :=
  token ≠ [] ∧ ∀ s ∈ token, (decimalSymbol? s).isSome = true

/-- A decimal digit is a digit. -/
theorem isDigit_of_decimal? {c : Char} (decimal : (decimal? c).isSome = true) :
    isDigit c = true := by
  unfold isDigit
  unfold decimal? at decimal ⊢
  simp only at decimal ⊢
  split
  · rename_i ascii
    rw [if_pos ascii] at decimal
    split at decimal
    · simpa using ‹_ ∧ _›
    · cases decimal
  · rename_i beyond
    rw [if_neg beyond] at decimal
    rw [decimal, Bool.true_or]

theorem IsDecimal.isNumeral {token : List Symbol} (decimal : IsDecimal token) :
    isNumeral token = true := by
  simp only [Text.isNumeral, Bool.and_eq_true, Bool.not_eq_true', List.isEmpty_eq_false_iff,
    List.all_eq_true]
  refine ⟨decimal.1, fun s member => ?_⟩
  have digit := decimal.2 s member
  cases s with
  | char c => exact isDigit_of_decimal? digit
  | half offset => cases digit

/-- A token cannot be read where it is too long or has a symbol that is no decimal digit. -/
theorem exists_unreadable_iff {token : List Symbol} :
    (∃ fault, Unreadable token fault) ↔
      maxDigits < token.length ∨ ∃ s ∈ token, decimalSymbol? s = none := by
  rw [← length_decimalRun_lt]
  have atMost := length_decimalRun_le token
  constructor
  · intro unreadable
    obtain ⟨fault, ⟨long⟩ | ⟨short, odd⟩⟩ := unreadable
    · exact .inl (by omega)
    · exact .inr (length_decimalRun_lt.mpr odd)
  · intro cause
    by_cases long : maxDigits < (decimalRun token).length
    · exact ⟨_, .tooLong long⟩
    · exact ⟨_, .malformed (by omega) (length_decimalRun_lt.mp (by omega))⟩

end TaskGraph.Text
