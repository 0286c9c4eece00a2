/-
Module: TaskGraph.Proofs.Metis.Stumbling
Purpose: Where the reader of graph files fails with something else than a fault of the file: at
  the first run of digits that passes for a number and cannot be read as one.
Main exports:
  Metis.FirstUnreadable, Metis.Stumbles, Metis.parse_eq_numeral, Metis.parse_fails_exactly
-/
import TaskGraph.Proofs.Metis.Acceptance

namespace TaskGraph.Metis

/-! ### Where the reader stumbles -/

/-- Among some tokens one cannot be read, and all before it can. -/
def FirstUnreadable (tokens : List (List Symbol)) (fault : Text.NumeralError) : Prop :=
  ∃ before token after, tokens = before ++ token :: after ∧
    (∀ earlier ∈ before, ¬ ∃ other, Text.Unreadable earlier other) ∧ Text.Unreadable token fault

/-- A header has the shape of one, and a number in it cannot be read: one of the two counts or
the number of weights.  The digits of the code are never read as a number. -/
def HeaderStumbles (line : List Symbol) (fault : Text.NumeralError) : Prop :=
  ∃ vertices edges rest, Text.words line = vertices :: edges :: rest ∧ rest.length ≤ 2 ∧
    (∀ token ∈ Text.words line, Text.isNumeral token = true) ∧
    FirstUnreadable (vertices :: edges :: rest.drop 1) fault

/-- A vertex line has nothing but runs of digits, and one of them cannot be read. -/
def LineStumbles (line : List Symbol) (fault : Text.NumeralError) : Prop :=
  (∀ token ∈ Text.words line, Text.isNumeral token = true) ∧ FirstUnreadable (Text.words line) fault

/-- A number of a text cannot be read, and the reader gets to it: it stands in the header, or on a
vertex line after others that were read, where there are as many of them as the header says. -/
inductive Stumbles (text : List Symbol) (fault : Text.NumeralError) : Prop where
  | header {first : List Symbol} {body : List (List Symbol)}
      (content : contentLines text = first :: body) (stumbles : HeaderStumbles first fault)
  | line {first line : List Symbol} {body before after : List (List Symbol)}
      {vertexCount edgeCount : Nat} {format : Format}
      (content : contentLines text = first :: body)
      (head : Metis.header first = .ok (vertexCount, edgeCount, format))
      (split : vertexLines vertexCount body = before ++ line :: after)
      (complete : (vertexLines vertexCount body).length = vertexCount)
      (earlier : ∀ i other, before[i]? = some other →
        ∃ vertex, vertexLine format vertexCount (i + 1) other = .ok vertex)
      (stumbles : LineStumbles line fault)

/-! ### Numbers -/

theorem natural_eq_error {token : List Symbol} {fault : Text.NumeralError} :
    natural token = .error (.numeral fault) ↔ Text.Unreadable token fault := by
  rw [natural, mapError_eq_error, ← Text.readNatural_eq_error]
  simp

theorem exists_natural_iff {token : List Symbol} :
    (∃ n, natural token = .ok n) ↔ ¬ ∃ fault, Text.Unreadable token fault := by
  simp only [natural, mapError_eq_ok, ← Text.readNatural_eq_error]
  cases Text.readNatural token with
  | error fault => simp
  | ok n => simp

/-- Tokens are read one after the other up to the first one that cannot be read. -/
theorem mapM_natural_eq_error {tokens : List (List Symbol)} {fault : Text.NumeralError} :
    tokens.mapM natural = .error (.numeral fault) ↔ FirstUnreadable tokens fault := by
  simp only [mapM_eq_error, exists_natural_iff, natural_eq_error, FirstUnreadable]

theorem firstUnreadable_cons {token : List Symbol} {rest : List (List Symbol)}
    {fault : Text.NumeralError} :
    FirstUnreadable (token :: rest) fault ↔ natural token = .error (.numeral fault) ∨
      ∃ n, natural token = .ok n ∧ FirstUnreadable rest fault := by
  simp only [← mapM_natural_eq_error, List.mapM_cons, bind_eq_error]
  refine or_congr Iff.rfl (exists_congr fun n => and_congr_right fun _ => ?_)
  refine ⟨fun failed => ?_, .inl⟩
  rcases failed with failed | ⟨ns, -, ⟨⟩⟩
  exact failed

/-- A computation fails with a fault of the file, or with that of a number. -/
def Blames {α : Type} (outcome : Except Error α) : Prop :=
  FailsOnly (fun e => (∃ fault, e = .graphFile fault) ∨ ∃ fault, e = .numeral fault) outcome

theorem Refuses.blames {α : Type} {outcome : Except Error α} (refuses : Refuses outcome) :
    Blames outcome :=
  FailsOnly.imp refuses fun _ => .inl

theorem Refuses.ne_numeral {α : Type} {outcome : Except Error α} (refuses : Refuses outcome)
    (fault : Text.NumeralError) : outcome ≠ .error (.numeral fault) := by
  intro failed
  obtain ⟨_, ⟨⟩⟩ := refuses _ failed

theorem natural_blames (token : List Symbol) : Blames (natural token) := by
  intro e failed
  obtain ⟨fault, -, rfl⟩ := mapError_eq_error.mp failed
  exact .inr ⟨fault, rfl⟩

/-! ### Headers -/

theorem ofCode_refuses (code : List Symbol) (ncon : Nat) :
    Refuses ((Format.ofCode code ncon).mapError fun fault =>
      Error.graphFile (.badFormat fault)) := by
  intro e failed
  obtain ⟨fault, -, rfl⟩ := mapError_eq_error.mp failed
  exact ⟨_, rfl⟩

theorem headerFormat_blames (fields : List (List Symbol)) : Blames (headerFormat fields) := by
  rcases fields with _ | ⟨code, _ | ⟨count, others⟩⟩
  · exact .ok _
  · exact .bind (.ok 1) fun ncon _ => (ofCode_refuses code ncon).blames
  · exact .bind (natural_blames count) fun ncon _ => (ofCode_refuses code ncon).blames

theorem header_blames (line : List Symbol) : Blames (header line) := by
  unfold header
  simp only
  split
  · split
    · exact .bind (natural_blames _) fun _ _ => .bind (natural_blames _) fun _ _ =>
        .bind (headerFormat_blames _) fun _ _ => .ok _
    · exact (Refuses.refuse _).blames
  · exact (Refuses.refuse _).blames

/-- The number of weights is read after the counts, and then no other number. -/
theorem headerFormat_eq_numeral {fields : List (List Symbol)} (few : fields.length ≤ 2)
    {fault : Text.NumeralError} :
    headerFormat fields = .error (.numeral fault) ↔ FirstUnreadable (fields.drop 1) fault := by
  rw [← mapM_natural_eq_error]
  rcases fields with _ | ⟨code, _ | ⟨count, _ | ⟨other, others⟩⟩⟩
  · simp [headerFormat, pure, Except.pure]
  · refine iff_of_false ?_ (by simp [pure, Except.pure])
    exact Refuses.ne_numeral (.bind (.ok 1) fun ncon _ => ofCode_refuses code ncon) fault
  · simp only [headerFormat, List.drop_one, List.tail_cons, List.mapM_cons, List.mapM_nil,
      bind_eq_error]
    refine or_congr Iff.rfl (exists_congr fun ncon => and_congr_right fun _ => ?_)
    exact iff_of_false ((ofCode_refuses code ncon).ne_numeral fault) (by simp [pure, Except.pure])
  · simp at few

/-- The header is read up to the first of its numbers that cannot be read. -/
theorem header_eq_numeral {line : List Symbol} {fault : Text.NumeralError} :
    header line = .error (.numeral fault) ↔ HeaderStumbles line fault := by
  unfold header HeaderStumbles
  simp only
  split
  · rename_i vertices edges rest wordsEq
    split
    · rename_i shape
      obtain ⟨few, numerals⟩ := shape
      have read : (natural vertices >>= fun n => natural edges >>= fun m =>
          headerFormat rest >>= fun format => .ok (n, m, format)) = .error (.numeral fault) ↔
            FirstUnreadable (vertices :: edges :: rest.drop 1) fault := by
        simp only [bind_eq_error, firstUnreadable_cons, headerFormat_eq_numeral few, reduceCtorEq,
          and_false, exists_false, or_false]
      rw [read]
      constructor
      · exact fun first =>
          ⟨vertices, edges, rest, wordsEq, few, List.all_eq_true.mp numerals, first⟩
      · intro stumbles
        obtain ⟨_, _, _, same, -, -, first⟩ := stumbles
        cases wordsEq.symm.trans same
        exact first
    · rename_i shape
      refine iff_of_false ((Refuses.refuse _).ne_numeral fault) fun stumbles => ?_
      obtain ⟨_, _, _, same, few, numerals, -⟩ := stumbles
      cases wordsEq.symm.trans same
      exact absurd ⟨few, List.all_eq_true.mpr numerals⟩ shape
  · rename_i short
    refine iff_of_false ((Refuses.refuse _).ne_numeral fault) fun stumbles => ?_
    obtain ⟨vertices, edges, rest, wordsEq, -⟩ := stumbles
    exact absurd wordsEq (short vertices edges rest)

/-! ### Vertex lines -/

theorem vertexLine_blames (format : Format) (vertexCount number : Nat) (line : List Symbol) :
    Blames (vertexLine format vertexCount number line) := by
  by_cases numerals : ∀ token ∈ Text.words line, Text.isNumeral token = true
  · rw [vertexLine_of_numerals format vertexCount number numerals]
    exact .bind (.mapM fun token _ => natural_blames token) fun values _ =>
      (vertexFrom_refuses format vertexCount number values).blames
  · rw [vertexLine_of_odd format vertexCount number numerals]
    exact (Refuses.refuse _).blames

/-- A vertex line is read up to the first of its numbers that cannot be read. -/
theorem vertexLine_eq_numeral {format : Format} {vertexCount number : Nat} {line : List Symbol}
    {fault : Text.NumeralError} :
    vertexLine format vertexCount number line = .error (.numeral fault) ↔
      LineStumbles line fault := by
  by_cases numerals : ∀ token ∈ Text.words line, Text.isNumeral token = true
  · rw [vertexLine_of_numerals format vertexCount number numerals, bind_eq_error,
      mapM_natural_eq_error]
    constructor
    · intro failed
      rcases failed with first | ⟨values, -, late⟩
      · exact ⟨numerals, first⟩
      · exact absurd late
          ((vertexFrom_refuses format vertexCount number values).ne_numeral fault)
    · exact fun stumbles => .inl stumbles.2
  · rw [vertexLine_of_odd format vertexCount number numerals]
    exact iff_of_false ((Refuses.refuse _).ne_numeral fault) fun stumbles => numerals stumbles.1

/-! ### Files -/

theorem parse_blames (text : List Symbol) : Blames (parse text) := by
  unfold parse
  split
  · exact (Refuses.refuse _).blames
  · refine .bind (header_blames _) fun head _ => ?_
    simp only
    split
    · exact (Refuses.bind (.refuse _) fun _ failed => (nomatch failed)).blames
    · exact .bind (.mapM fun entry _ => vertexLine_blames _ _ _ _) fun vertices _ =>
        (Refuses.bind (checkAgreement_refuses _) fun _ _ => .ok _).blames

/-- Lines are read with their numbers up to the first one that fails. -/
theorem mapM_zipIdx_eq_error {α β ε : Type} {f : α → Nat → Except ε β} {xs : List α} {e : ε} :
    xs.zipIdx.mapM (fun entry => f entry.1 entry.2) = .error e ↔
      ∃ before x after, xs = before ++ x :: after ∧
        (∀ i y, before[i]? = some y → ∃ z, f y i = .ok z) ∧ f x before.length = .error e := by
  rw [mapM_eq_error]
  constructor
  · intro failed
    obtain ⟨before, ⟨x, i⟩, after, split, earlier, failure⟩ := failed
    obtain ⟨first, last, rfl, rfl, tail⟩ := List.zipIdx_eq_append_iff.mp split
    obtain ⟨_, rest, rfl, ⟨⟩, -⟩ := List.zipIdx_eq_cons_iff.mp tail.symm
    rw [Nat.zero_add] at failure
    refine ⟨first, x, rest, rfl, fun i y found => ?_, failure⟩
    exact earlier (y, i) (List.mem_zipIdx_iff_getElem?.mpr found)
  · intro failed
    obtain ⟨before, x, after, rfl, earlier, failure⟩ := failed
    refine ⟨before.zipIdx, (x, before.length), after.zipIdx (before.length + 1), ?_, ?_, failure⟩
    · rw [List.zipIdx_append, List.zipIdx_cons, Nat.zero_add]
    · intro entry member
      exact earlier entry.2 entry.1 (List.mem_zipIdx_iff_getElem?.mp member)

/-- The reader fails at a number exactly where it stumbles over it. -/
theorem parse_eq_numeral {text : List Symbol} {fault : Text.NumeralError} :
    parse text = .error (.numeral fault) ↔ Stumbles text fault := by
  unfold parse
  rw [← contentLines]
  cases content : contentLines text with
  | nil =>
      refine iff_of_false ((Refuses.refuse _).ne_numeral fault) fun stumbles => ?_
      cases stumbles with
      | header other | line other =>
          rw [content] at other
          cases other
  | cons first body =>
      simp only [bind_eq_error, header_eq_numeral, Prod.exists]
      constructor
      · intro failed
        rcases failed with head | ⟨vertexCount, edgeCount, format, head, later⟩
        · exact .header content head
        · split at later
          · cases later
          · rename_i complete
            simp only [bind_eq_error] at later
            rcases later with lines | ⟨vertices, -, agree | ⟨_, -, ⟨⟩⟩⟩
            · obtain ⟨before, line, after, split, earlier, failure⟩ :=
                mapM_zipIdx_eq_error (f := fun line i =>
                  vertexLine format vertexCount (i + 1) line).mp lines
              exact .line content head split (not_not.mp complete) earlier
                (vertexLine_eq_numeral.mp failure)
            · exact absurd agree ((checkAgreement_refuses _).ne_numeral fault)
      · intro stumbles
        cases stumbles with
        | header same head =>
            cases content.symm.trans same
            exact .inl head
        | line same head split complete earlier stumbles =>
            cases content.symm.trans same
            refine .inr ⟨_, _, _, head, ?_⟩
            rw [if_neg (not_not.mpr complete)]
            simp only [bind_eq_error]
            exact .inl (mapM_zipIdx_eq_error (f := fun line i =>
              vertexLine _ _ (i + 1) line).mpr ⟨_, _, _, split, earlier,
                vertexLine_eq_numeral.mpr stumbles⟩)

/-- Whatever the text, the reader fails with a fault of the file or with that of a number, and
with the latter exactly where it gets to a run of digits that cannot be read: one that is too long
or has a digit that takes part in no decimal system. -/
theorem parse_fails_exactly (text : List Symbol) :
    (∀ e, parse text = .error e →
      (∃ fault, e = .graphFile fault) ∨ ∃ fault, e = .numeral fault) ∧
      ∀ fault, parse text = .error (.numeral fault) ↔ Stumbles text fault :=
  ⟨parse_blames text, fun _ => parse_eq_numeral⟩

/-- A raised two is a digit, and a header may start with it, but no number can be made of it. -/
theorem parse_raisedTwo :
    ¬ ∀ text, (∃ summary, parse text = .ok summary) ∨
      ∃ fault, parse text = .error (.graphFile fault) := by
  intro only
  have stumbled : parse (Text.symbols "² 0\n".toList) =
      .error (.numeral (.malformed 10 (Text.ofString "²"))) := rfl
  rcases only (Text.symbols "² 0\n".toList) with ⟨summary, returned⟩ | ⟨fault, refused⟩
  · cases stumbled.symm.trans returned
  · cases stumbled.symm.trans refused

end TaskGraph.Metis
