/-
Module: TaskGraph.Proofs.Json.RoundTrip
Purpose: A value that JSON has a form for is written, and read back from its text, however the text
  is spread over lines.
Main exports:
  Json.Layout.Blank, Json.ReadsAs, Json.Plain, Json.Plain.exists_written, Json.Plain.read_write
-/
import TaskGraph.Proofs.Json.Numbers
import TaskGraph.Proofs.Json.Texts
import TaskGraph.Proofs.Outcome

namespace TaskGraph.Json

/-! ### Space -/

theorem isSpace_iff {c : Char} : isSpace c = true ↔ c = ' ' ∨ c = '\t' ∨ c = '\n' ∨ c = '\r' := by
  simp [isSpace, or_assoc]

/-- Space is passed over up to what comes after it. -/
theorem skipSpace_append {blanks : List Char} (space : ∀ c ∈ blanks, isSpace c = true) {c : Char}
    (noSpace : isSpace c = false) (rest : List Char) :
    skipSpace (blanks ++ c :: rest) = c :: rest := by
  rw [skipSpace, List.dropWhile_append_of_pos space, List.dropWhile_cons_of_neg (by simp [noSpace])]

theorem skipSpace_of_space {blanks : List Char} (space : ∀ c ∈ blanks, isSpace c = true) :
    skipSpace blanks = [] :=
  List.dropWhile_eq_nil_iff.mpr space

/-- A number ends before space. -/
theorem delimited_of_isSpace {c : Char} (space : isSpace c = true) (rest : List Char) :
    Delimited (c :: rest) := by
  rcases isSpace_iff.mp space with rfl | rfl | rfl | rfl
  all_goals exact delimited_cons (by decide) (by decide) rest

/-- A number ends before what closes a collection, also where space stands between. -/
theorem delimited_append {blanks : List Char} (space : ∀ c ∈ blanks, isSpace c = true) {c : Char}
    (noDigit : Text.isPlainDigit c = false) (noMark : c ≠ '.' ∧ c ≠ 'e' ∧ c ≠ 'E')
    (rest : List Char) : Delimited (blanks ++ c :: rest) := by
  cases blanks with
  | nil => exact delimited_cons noDigit noMark rest
  | cons d others => exact delimited_of_isSpace (space d (by simp)) _

/-- All that a layout puts between the parts of a value is space. -/
def Layout.Blank : Layout → Prop
  | .inline => True
  | .indented step => ∀ c ∈ step.toList, isSpace c = true

namespace Layout.Blank

variable {layout : Layout} (blank : layout.Blank)

include blank

theorem isSpace_break (depth : Nat) : ∀ c ∈ (layout.break depth).toList, isSpace c = true := by
  cases layout with
  | inline => simp [Layout.break]
  | indented step =>
      intro c member
      simp only [Layout.break, String.toList_append, String.toList_join, List.mem_append,
        List.mem_flatMap, List.mem_replicate] at member
      rcases member with feed | ⟨_, ⟨-, rfl⟩, inside⟩
      · rw [List.mem_singleton.mp feed]
        decide
      · exact blank c inside

/-- Parts are separated by a comma and space. -/
theorem exists_gap (depth : Nat) :
    ∃ gap, (layout.comma ++ layout.break depth).toList = ',' :: gap ∧
      ∀ c ∈ gap, isSpace c = true := by
  have space := isSpace_break blank depth
  cases layout with
  | inline => exact ⟨[' '], by simp [Layout.comma, Layout.break], by simp [isSpace]⟩
  | indented step =>
      have comma : (Layout.indented step).comma.toList = [','] := by simp [Layout.comma]
      exact ⟨_, by rw [String.toList_append, comma, List.singleton_append], space⟩

end Layout.Blank

/-! ### What is written and what is read -/

/-- What is written is read as a value, wherever a text ends after it. -/
def ReadsAs (levels : Nat) (written : List Char) (v : Value) : Prop :=
  ∀ fuel rest, written.length ≤ fuel → Delimited rest →
    readValue levels fuel (written ++ rest) = .ok (v, rest)

/-- A value is read neither from nothing nor from space, nor from what closes a list. -/
theorem exists_opening {levels fuel : Nat} {cs : List Char} {result : Value × List Char}
    (read : readValue levels fuel cs = .ok result) :
    ∃ c others, cs = c :: others ∧ isSpace c = false ∧ c ≠ ']' ∧ c ≠ '\ufeff' := by
  cases fuel with
  | zero => cases read
  | succ fuel =>
      cases cs with
      | nil => cases read
      | cons c others =>
          refine ⟨c, others, rfl, ?_⟩
          -- From these characters on there is neither a name nor a number.
          have nothing (noOpening : c ≠ '"' ∧ c ≠ '[' ∧ c ≠ '\x7b')
              (noLetter : c ≠ 'n' ∧ c ≠ 't' ∧ c ≠ 'f' ∧ c ≠ 'N' ∧ c ≠ 'I') (noSign : c ≠ '-')
              (noDigit : Text.isPlainDigit c = false) : False := by
            rw [readValue_of_ne levels fuel noOpening, readName?_of_ne noLetter noSign] at read
            simp only at read
            split at read
            · rename_i same
              exact noSign (List.cons.inj same).1
            · obtain ⟨_, _, ⟨⟩, digit⟩ := exists_digit_of_readNumber read
              rw [noDigit] at digit
              cases digit
          refine ⟨?_, ?_, ?_⟩
          · rw [Bool.eq_false_iff]
            intro space
            rcases isSpace_iff.mp space with rfl | rfl | rfl | rfl
            all_goals exact nothing (by decide) (by decide) (by decide) (by decide)
          · rintro rfl
            exact nothing (by decide) (by decide) (by decide) (by decide)
          · rintro rfl
            exact nothing (by decide) (by decide) (by decide) (by decide)

theorem ReadsAs.exists_opening {levels : Nat} {written : List Char} {v : Value}
    (reads : ReadsAs levels written v) :
    ∃ c others, written = c :: others ∧ isSpace c = false ∧ c ≠ ']' ∧ c ≠ '\ufeff' := by
  have read := reads written.length [] (Nat.le_refl _) delimited_nil
  rw [List.append_nil] at read
  exact Json.exists_opening read

/-! ### Scalars -/

theorem readsAs_null (levels : Nat) : ReadsAs levels "null".toList .null := by
  intro fuel rest enough _
  obtain ⟨fuel, rfl⟩ := Nat.exists_eq_add_of_le' (Nat.le_trans (by decide : 1 ≤ 4) enough)
  rfl

theorem readsAs_bool (levels : Nat) (b : Bool) :
    ReadsAs levels (if b then "true" else "false").toList (.bool b) := by
  intro fuel rest enough _
  cases fuel with
  | zero => cases b <;> cases enough
  | succ fuel => cases b <;> rfl

theorem readsAs_integer {n : Int} {written : String} (wrote : integer n = .ok written)
    (levels : Nat) : ReadsAs levels written.toList (.int n) := by
  intro fuel rest enough delimited
  cases fuel with
  | zero =>
      have read := readValue_integer wrote delimited_nil levels 0
      rw [List.eq_nil_of_length_eq_zero (Nat.le_zero.mp enough)] at read
      cases read
  | succ fuel => exact readValue_integer wrote delimited levels fuel

theorem Rereads.readsAs {x : Binary64} (rereads : Rereads x) (levels : Nat) :
    ReadsAs levels (Decimal.writeIn numberStyle x).toList (.float x) := by
  intro fuel rest enough delimited
  cases fuel with
  | zero =>
      rw [Rereads, List.eq_nil_of_length_eq_zero (Nat.le_zero.mp enough)] at rereads
      cases rereads
  | succ fuel => exact rereads.readValue delimited levels fuel

theorem toList_writtenText (s : Text) :
    (writtenText s).toList = '"' :: (s.toList.flatMap writtenSymbol ++ ['"']) := by
  rw [writtenText, String.toList_ofList, List.cons_append]

theorem readsAs_text {s : Text} (whole : s.Whole) (levels : Nat) :
    ReadsAs levels (writtenText s).toList (.text s) := by
  intro fuel rest enough _
  rw [toList_writtenText] at enough ⊢
  cases fuel with
  | zero => cases enough
  | succ fuel =>
      rw [List.cons_append, List.append_assoc, List.singleton_append, readValue,
        readText_text _ rest whole]

/-! ### Lists -/

/-- Parts after each other start with what the first one starts with. -/
theorem exists_intercalate_cons (gap : List Char) (c : Char) (others : List Char)
    (parts : List (List Char)) :
    ∃ later, gap.intercalate ((c :: others) :: parts) = c :: later := by
  cases parts with
  | nil => exact ⟨others, List.intercalate_singleton⟩
  | cons next parts => exact ⟨_, by rw [List.intercalate_cons_cons, List.append_assoc]; rfl⟩

/-- Behind an item either the list is closed or the next item follows. -/
theorem readItems_written {levels : Nat} {writtens : List (List Char)} {items : List Value}
    (reads : List.Forall₂ (ReadsAs levels) writtens items) (nonempty : writtens ≠ [])
    {gap close : List Char} (gapSpace : ∀ c ∈ gap, isSpace c = true)
    (closeSpace : ∀ c ∈ close, isSpace c = true) (rest : List Char) {fuel : Nat}
    (enough : ((',' :: gap).intercalate writtens).length < fuel) (done : List Value) :
    readItems levels fuel done
        ((',' :: gap).intercalate writtens ++ (close ++ ']' :: rest)) =
      .ok (.list (done.reverse ++ items), rest) := by
  induction reads generalizing fuel done with
  | nil => exact absurd rfl nonempty
  | @cons written item _ _ first reads inductionHypothesis =>
      obtain ⟨fuel, rfl⟩ := Nat.exists_eq_add_of_lt (Nat.zero_lt_of_lt enough)
      rw [Nat.zero_add] at enough ⊢
      cases reads with
      | nil =>
          rw [List.intercalate_singleton] at enough ⊢
          have delimited := delimited_append closeSpace (c := ']') (by decide) (by decide) rest
          rw [readItems, first fuel _ (Nat.le_of_lt_succ enough) delimited]
          simp only [skipSpace_append closeSpace (by decide : isSpace ']' = false),
            List.reverse_cons]
      | @cons next _ others _ second reads =>
          rw [List.intercalate_cons_cons] at enough ⊢
          obtain ⟨c, tail, rfl, noSpace, -, -⟩ := second.exists_opening
          obtain ⟨remaining, starts⟩ := exists_intercalate_cons (',' :: gap) c tail others
          have fewer : ((',' :: gap).intercalate ((c :: tail) :: others)).length < fuel := by
            simp only [List.length_append, List.length_cons] at enough
            omega
          have continued := inductionHypothesis (by simp) fewer (item :: done)
          rw [starts] at enough continued ⊢
          simp only [List.append_assoc, List.cons_append] at enough continued ⊢
          have delimited : Delimited (',' :: (gap ++ c :: (remaining ++ (close ++ ']' :: rest)))) :=
            delimited_cons (by decide) (by decide) _
          have short : written.length ≤ fuel := by
            simp only [List.length_append, List.length_cons] at enough
            omega
          rw [readItems, first fuel _ short delimited]
          have comma : skipSpace (',' :: (gap ++ c :: (remaining ++ (close ++ ']' :: rest)))) =
              ',' :: (gap ++ c :: (remaining ++ (close ++ ']' :: rest))) := rfl
          simp only [comma, skipSpace_append gapSpace noSpace, continued, List.reverse_cons,
            List.append_assoc, List.singleton_append]

/-! ### Members -/

/-- What is written is read as the member of an object: a name between quotes, a colon and a
value. -/
def MemberAs (levels : Nat) (written : List Char) (entry : Value × Value) : Prop :=
  ∃ name value, entry.1 = .text name ∧ name.Whole ∧
    written = (writtenText name).toList ++ ':' :: ' ' :: value ∧ ReadsAs levels value entry.2

theorem MemberAs.exists_quote {levels : Nat} {written : List Char} {entry : Value × Value}
    (member : MemberAs levels written entry) : ∃ others, written = '"' :: others := by
  obtain ⟨name, value, -, -, rfl, -⟩ := member
  rw [toList_writtenText]
  exact ⟨_, rfl⟩

/-- A member is put to those before it; then the object is closed, or the next member follows. -/
theorem readMembers_member {levels : Nat} {written : List Char} {entry : Value × Value}
    (member : MemberAs levels written entry) {rest : List Char} (delimited : Delimited rest)
    {fuel : Nat} (enough : written.length ≤ fuel) (done : Value.Entries) (after : List Char) :
    (skipSpace rest = '\x7d' :: after →
      readMembers levels (fuel + 1) done (written ++ rest) =
        .ok (.map (done.insert entry.1 entry.2), after)) ∧
    (skipSpace rest = ',' :: after →
      readMembers levels (fuel + 1) done (written ++ rest) =
        readMembers levels fuel (done.insert entry.1 entry.2) (skipSpace after)) := by
  obtain ⟨name, value, named, whole, rfl, reads⟩ := member
  obtain ⟨c, others, rfl, noSpace, -, -⟩ := reads.exists_opening
  have short : (c :: others).length ≤ fuel := by
    simp only [List.length_append, List.length_cons] at enough ⊢
    omega
  have read := reads fuel rest short delimited
  have blank : ∀ d ∈ [' '], isSpace d = true := by simp [isSpace]
  have space : skipSpace (' ' :: c :: (others ++ rest)) = c :: (others ++ rest) :=
    skipSpace_append blank noSpace _
  have colon (cs : List Char) : skipSpace (':' :: cs) = ':' :: cs := rfl
  rw [List.cons_append] at read
  rw [toList_writtenText]
  simp only [List.cons_append, List.append_assoc, List.nil_append]
  rw [readMembers, readText_text _ _ whole]
  simp only [colon, space, read, named]
  constructor
  · intro closed
    rw [closed]
    rfl
  · intro separated
    rw [separated]
    rfl

/-- Behind a member either the object is closed or the next member follows. -/
theorem readMembers_written {levels : Nat} {writtens : List (List Char)} {entries : Value.Entries}
    (reads : List.Forall₂ (MemberAs levels) writtens entries) (nonempty : writtens ≠ [])
    {gap close : List Char} (gapSpace : ∀ c ∈ gap, isSpace c = true)
    (closeSpace : ∀ c ∈ close, isSpace c = true) (rest : List Char) {fuel : Nat}
    (enough : ((',' :: gap).intercalate writtens).length < fuel) {done : Value.Entries}
    (distinct : (done ++ entries).Pairwise fun a b => a.1.same b.1 = false) :
    readMembers levels fuel done
        ((',' :: gap).intercalate writtens ++ (close ++ '\x7d' :: rest)) =
      .ok (.map (done ++ entries), rest) := by
  induction reads generalizing fuel done with
  | nil => exact absurd rfl nonempty
  | @cons written entry _ entries first reads inductionHypothesis =>
      obtain ⟨fuel, rfl⟩ := Nat.exists_eq_add_of_lt (Nat.zero_lt_of_lt enough)
      rw [Nat.zero_add] at enough ⊢
      have inserted : done.insert entry.1 entry.2 = done ++ [entry] :=
        Value.Entries.insert_of_new entry.2 fun other member =>
          (List.pairwise_append.mp distinct).2.2 other member entry (by simp)
      cases reads with
      | nil =>
          rw [List.intercalate_singleton] at enough ⊢
          have delimited := delimited_append closeSpace (c := '\x7d') (by decide) (by decide) rest
          rw [(readMembers_member first delimited (Nat.le_of_lt_succ enough) done rest).1
            (skipSpace_append closeSpace (by decide) rest), inserted]
      | @cons next nextEntry others entries second reads =>
          rw [List.intercalate_cons_cons] at enough ⊢
          obtain ⟨tail, rfl⟩ := second.exists_quote
          obtain ⟨remaining, starts⟩ := exists_intercalate_cons (',' :: gap) '"' tail others
          rw [List.append_cons done entry (nextEntry :: entries)] at distinct ⊢
          have fewer : ((',' :: gap).intercalate (('"' :: tail) :: others)).length < fuel := by
            simp only [List.length_append, List.length_cons] at enough
            omega
          have continued := inductionHypothesis (by simp) fewer distinct
          rw [starts] at enough continued ⊢
          simp only [List.append_assoc, List.cons_append] at enough continued ⊢
          have delimited :
              Delimited (',' :: (gap ++ '"' :: (remaining ++ (close ++ '\x7d' :: rest)))) :=
            delimited_cons (by decide) (by decide) _
          have short : written.length ≤ fuel := by
            simp only [List.length_append, List.length_cons] at enough
            omega
          rw [(readMembers_member first delimited short done _).2 rfl,
            skipSpace_append gapSpace (by decide), inserted, continued]

/-! ### Collections -/

theorem readValue_list (levels fuel : Nat) {cs : List Char} {c : Char} {others : List Char}
    (starts : skipSpace cs = c :: others) (noClosing : c ≠ ']') :
    readValue (levels + 1) (fuel + 1) ('[' :: cs) = readItems levels fuel [] (c :: others) := by
  rw [readValue, if_neg (Nat.succ_ne_zero levels), starts]
  split
  · rename_i same
    exact absurd (List.cons.inj same).1 noClosing
  · rfl

theorem readValue_map (levels fuel : Nat) {cs : List Char} {c : Char} {others : List Char}
    (starts : skipSpace cs = c :: others) (noClosing : c ≠ '\x7d') :
    readValue (levels + 1) (fuel + 1) ('\x7b' :: cs) =
      readMembers levels fuel [] (c :: others) := by
  rw [readValue, if_neg (Nat.succ_ne_zero levels), starts]
  split
  · rename_i same
    exact absurd (List.cons.inj same).1 noClosing
  · rfl

theorem enclose_nil (layout : Layout) (depth : Nat) (opening closing : String) :
    enclose layout depth opening closing [] = opening ++ closing := rfl

section Collections

variable {layout : Layout} (blank : layout.Blank) (depth : Nat) {levels : Nat}

include blank

/-- Between its brackets a collection has its parts, with space around them and with commas between
them. -/
theorem exists_enclosed (opening closing : String) {first : String} (parts : List String) {c : Char}
    {tail : List Char} (starts : first.toList = c :: tail) (noSpace : isSpace c = false) :
    ∃ before gap after later, (∀ d ∈ gap, isSpace d = true) ∧ (∀ d ∈ after, isSpace d = true) ∧
      (∀ rest, skipSpace (before ++ c :: (later ++ rest)) = c :: (later ++ rest)) ∧
      (',' :: gap).intercalate ((first :: parts).map String.toList) = c :: later ∧
      (enclose layout depth opening closing (first :: parts)).toList =
        opening.toList ++ (before ++ c :: (later ++ (after ++ closing.toList))) := by
  obtain ⟨gap, separator, gapSpace⟩ := blank.exists_gap (depth + 1)
  obtain ⟨later, begins⟩ := exists_intercalate_cons (',' :: gap) c tail (parts.map String.toList)
  rw [← starts, ← List.map_cons] at begins
  refine ⟨_, gap, _, later, gapSpace, blank.isSpace_break depth,
    fun rest => skipSpace_append (blank.isSpace_break (depth + 1)) noSpace _, begins, ?_⟩
  rw [enclose, if_neg (by simp)]
  simp only [String.toList_append, String.toList_intercalate, List.append_assoc]
  rw [← String.toList_append, separator, begins, List.cons_append]

/-- The text of a list is read as the list. -/
theorem readsAs_list {writtens : List String} {items : List Value}
    (reads : List.Forall₂ (fun written item => ReadsAs levels written.toList item) writtens items) :
    ReadsAs (levels + 1) (enclose layout depth "[" "]" writtens).toList (.list items) := by
  intro fuel rest enough _
  cases reads with
  | nil =>
      rw [enclose_nil] at enough ⊢
      cases fuel with
      | zero => cases enough
      | succ fuel => rfl
  | @cons first _ writtens _ read reads =>
      obtain ⟨c, tail, starts, noSpace, noClosing, -⟩ := read.exists_opening
      obtain ⟨before, gap, after, later, gapSpace, afterSpace, skipped, begins, written⟩ :=
        exists_enclosed blank depth "[" "]" writtens starts noSpace
      have opens : "[".toList = ['['] := rfl
      have closes : "]".toList = [']'] := rfl
      rw [written, opens, closes] at enough ⊢
      cases fuel with
      | zero => cases enough
      | succ fuel =>
          have short : (c :: later).length < fuel := by
            simp only [List.length_append, List.length_cons] at enough ⊢
            omega
          rw [← begins] at short
          have items := readItems_written (List.forall₂_map_left_iff.mpr (.cons read reads))
            (by simp) gapSpace afterSpace rest short []
          rw [begins] at items
          simp only [List.cons_append, List.append_assoc, List.nil_append]
          rw [readValue_list levels fuel (skipped _) noClosing]
          exact items

/-- The text of a mapping is read as the mapping, where its names differ. -/
theorem readsAs_map {writtens : List String} {entries : Value.Entries}
    (reads : List.Forall₂ (fun written entry => MemberAs levels written.toList entry) writtens
      entries)
    (distinct : entries.Pairwise fun a b => a.1.same b.1 = false) :
    ReadsAs (levels + 1) (enclose layout depth "\x7b" "\x7d" writtens).toList (.map entries) := by
  intro fuel rest enough _
  cases reads with
  | nil =>
      rw [enclose_nil] at enough ⊢
      cases fuel with
      | zero => cases enough
      | succ fuel => rfl
  | @cons first _ writtens _ read reads =>
      obtain ⟨tail, starts⟩ := read.exists_quote
      obtain ⟨before, gap, after, later, gapSpace, afterSpace, skipped, begins, written⟩ :=
        exists_enclosed blank depth "\x7b" "\x7d" writtens starts (by decide)
      have opens : "\x7b".toList = ['\x7b'] := rfl
      have closes : "\x7d".toList = ['\x7d'] := rfl
      rw [written, opens, closes] at enough ⊢
      cases fuel with
      | zero => cases enough
      | succ fuel =>
          have short : ('"' :: later).length < fuel := by
            simp only [List.length_append, List.length_cons] at enough ⊢
            omega
          rw [← begins] at short
          have members := readMembers_written (List.forall₂_map_left_iff.mpr (.cons read reads))
            (by simp) gapSpace afterSpace rest short (by rwa [List.nil_append])
          rw [begins] at members
          simp only [List.cons_append, List.append_assoc, List.nil_append]
          rw [readValue_map levels fuel (skipped _) (by decide)]
          exact members

end Collections

/-! ### Values that JSON has a form for -/

/-- JSON has a form for a value, with at most so many levels of collections inside each other.  The
numbers with a fraction are those which their texts tell from all others. -/
inductive Plain : Nat → Value → Prop where
  | null (levels : Nat) : Plain levels .null
  | bool (levels : Nat) (b : Bool) : Plain levels (.bool b)
  | int (levels : Nat) {n : Int} (short : n.natAbs < Value.digitBound) : Plain levels (.int n)
  | float (levels : Nat) {x : Binary64} (rereads : Rereads x) : Plain levels (.float x)
  | text (levels : Nat) {s : Text} (whole : s.Whole) : Plain levels (.text s)
  | list {levels : Nat} {items : List Value} (each : ∀ item ∈ items, Plain levels item) :
      Plain (levels + 1) (.list items)
  | map {levels : Nat} {entries : Value.Entries}
      (names : ∀ entry ∈ entries, ∃ s, entry.1 = .text s ∧ s.Whole)
      (distinct : entries.Pairwise fun a b => a.1.same b.1 = false)
      (each : ∀ entry ∈ entries, Plain levels entry.2) : Plain (levels + 1) (.map entries)

/-- JSON has a form for a record, where it has one for the fields. -/
theorem plain_record {levels : Nat} (fields : List (String × Value))
    (distinct : (fields.map (·.1)).Nodup) (each : ∀ field ∈ fields, Plain levels field.2) :
    Plain (levels + 1) (.map (fields.map fun field => (.text field.1, field.2))) := by
  refine .map ?_ ?_ ?_
  · rw [List.forall_mem_map]
    exact fun field _ => ⟨_, rfl, Text.whole_ofString field.1⟩
  · rw [List.pairwise_map]
    refine (List.pairwise_map.mp distinct).imp fun different => ?_
    simpa [Value.same, Text.ofString_inj] using different
  · rw [List.forall_mem_map]
    exact each

theorem writeIn_list (layout : Layout) (levels : Nat) (inside : List Nat) (depth : Nat)
    (items : List Value) :
    writeIn layout (levels + 1) inside depth (.list items) =
      (items.mapM (writeIn layout levels inside (depth + 1))).map
        (enclose layout depth "[" "]") := rfl

/-- A member of an object: its name, and the value as a part of the object. -/
def writeMember (layout : Layout) (levels : Nat) (inside : List Nat) (depth : Nat)
    (entry : Value × Value) : Except WriteFault String :=
  memberName entry.1 >>= fun name =>
    writeIn layout levels inside (depth + 1) entry.2 >>= fun value => .ok (name ++ ": " ++ value)

theorem writeIn_map (layout : Layout) (levels : Nat) (inside : List Nat) (depth : Nat)
    (entries : Value.Entries) :
    writeIn layout (levels + 1) inside depth (.map entries) =
      (entries.mapM (writeMember layout levels inside depth)).map
        (enclose layout depth "\x7b" "\x7d") := rfl

/-- A value that JSON has a form for is written, and read from its text. -/
theorem Plain.exists_written {layout : Layout} (blank : layout.Blank) {levels : Nat} {v : Value}
    (plain : Plain levels v) {enough : Nat} (fits : levels < enough) (inside : List Nat)
    (depth : Nat) :
    ∃ written, writeIn layout enough inside depth v = .ok written ∧
      ReadsAs levels written.toList v := by
  obtain ⟨enough, rfl⟩ := Nat.exists_eq_add_one_of_ne_zero (Nat.ne_zero_of_lt fits)
  induction plain generalizing enough inside depth with
  | null levels => exact ⟨_, rfl, readsAs_null levels⟩
  | bool levels b => exact ⟨_, rfl, readsAs_bool levels b⟩
  | @int levels n short =>
      have wrote : integer n = .ok (toString n) := if_neg (Nat.not_le_of_lt short)
      exact ⟨_, wrote, readsAs_integer wrote levels⟩
  | float levels rereads => exact ⟨_, rfl, rereads.readsAs levels⟩
  | text levels whole => exact ⟨_, rfl, readsAs_text whole levels⟩
  | @list levels items _ inductionHypothesis =>
      have fewer := Nat.lt_of_succ_lt_succ fits
      obtain ⟨enough, rfl⟩ := Nat.exists_eq_add_one_of_ne_zero (Nat.ne_zero_of_lt fewer)
      obtain ⟨writtens, wrote, reads⟩ := exists_mapM_related fun item member =>
        inductionHypothesis item member inside (depth + 1) enough fewer
      refine ⟨_, ?_, readsAs_list blank depth reads.flip⟩
      rw [writeIn_list, wrote]
      rfl
  | @map levels entries names distinct _ inductionHypothesis =>
      have fewer := Nat.lt_of_succ_lt_succ fits
      obtain ⟨enough, rfl⟩ := Nat.exists_eq_add_one_of_ne_zero (Nat.ne_zero_of_lt fewer)
      have member (entry : Value × Value) (present : entry ∈ entries) :
          ∃ written, writeMember layout (enough + 1) inside depth entry = .ok written ∧
            MemberAs levels written.toList entry := by
        obtain ⟨name, named, whole⟩ := names entry present
        obtain ⟨value, wrote, reads⟩ :=
          inductionHypothesis entry present inside (depth + 1) enough fewer
        refine ⟨writtenText name ++ ": " ++ value, ?_, name, _, named, whole, ?_, reads⟩
        · rw [writeMember, named, wrote]
          rfl
        · simp
      obtain ⟨writtens, wrote, reads⟩ := exists_mapM_related member
      refine ⟨_, ?_, readsAs_map blank depth reads.flip distinct⟩
      rw [writeIn_map, wrote]
      rfl

/-- A value that JSON has a form for is read back from its text, also where space follows. -/
theorem Plain.read_write {layout : Layout} (blank : layout.Blank) {v : Value}
    (plain : Plain maxLevels v) :
    ∃ written, write layout v = .ok written ∧
      ∀ after, (∀ c ∈ after, isSpace c = true) → read (written.toList ++ after) = .ok v := by
  obtain ⟨written, wrote, reads⟩ :=
    plain.exists_written blank (by decide : maxLevels < maxWritten) [] 0
  refine ⟨written, wrote, fun after space => ?_⟩
  obtain ⟨c, others, starts, noSpace, -, noMark⟩ := reads.exists_opening
  have delimited : Delimited after := by
    cases after with
    | nil => exact delimited_nil
    | cons d later => exact delimited_of_isSpace (space d (by simp)) later
  have enough : written.toList.length ≤ (written.toList ++ after).length + 1 := by
    rw [List.length_append]
    omega
  have value := reads _ after enough delimited
  rw [starts] at value ⊢
  have skipped : skipSpace (c :: (others ++ after)) = c :: (others ++ after) :=
    List.dropWhile_cons_of_neg (by simp [noSpace])
  rw [List.cons_append] at value ⊢
  rw [read, if_neg (by simpa using noMark), skipped, value]
  simp only [skipSpace_of_space space]

end TaskGraph.Json
