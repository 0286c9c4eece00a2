/-
Module: TaskGraph.Proofs.Value.Access
Purpose: Which values can be looked into, what they hold there, and which values are the same as
  a text.
Main exports:
  Value.HasText, Value.walk_eq_ok, Value.asPair_eq_ok, Value.asMapping_eq_ok, Value.part?,
  Value.itemsUnder?, Value.require_eq_ok, Value.Entries.get?_cons,
  Value.equal_text_iff, Value.text_equal_iff, Value.eq_text_of_key?
-/
import TaskGraph.Proofs.Outcome
import TaskGraph.Text.Blank
import TaskGraph.Value.Access

namespace TaskGraph

/-! ### Texts -/

/-- A value has a text. -/
def Value.HasText (v : Value) : Prop :=
  ∃ s, v.asPlain = .ok s

theorem Value.plain_of_asPlain {value : Value} {s : Text} (written : value.asPlain = .ok s) :
    value.plain = s := by
  rw [asPlain, mapError_eq_ok] at written
  rw [plain, written]

/-- Values that have texts are written one after the other. -/
theorem Value.mapM_asPlain_eq_ok {values : List Value} {labels : List Text} :
    values.mapM asPlain = .ok labels ↔
      (∀ value ∈ values, value.HasText) ∧ labels = values.map plain := by
  have written (texts : ∀ value ∈ values, value.HasText) :
      values.mapM asPlain = .ok (values.map plain) := by
    apply mapM_eq_ok_map
    intro value member
    obtain ⟨s, texted⟩ := texts value member
    rw [texted, plain_of_asPlain texted]
  constructor
  · intro run
    have texts := exists_mapM_eq_ok_iff.mp ⟨labels, run⟩
    exact ⟨texts, Except.ok.inj (run.symm.trans (written texts))⟩
  · intro known
    obtain ⟨texts, rfl⟩ := known
    exact written texts

/-- A whole number that is not too long has its digits for a text, with a dash before them if it
is negative. -/
theorem Value.asPlain_int {n : Int} (short : n.natAbs < Value.digitBound) :
    (Value.int n).asPlain = .ok (Text.ofString (toString n)) := by
  have shown : (Value.int n).plain? = Value.integerText? n := rfl
  rw [Value.asPlain, shown, Value.integerText?, if_neg (by omega)]
  rfl

theorem Value.lt_of_asPlain_int {n : Int} {s : Text} (written : (Value.int n).asPlain = .ok s) :
    n.natAbs < Value.digitBound := by
  have shown : (Value.int n).plain? = Value.integerText? n := rfl
  rw [asPlain, mapError_eq_ok, shown, integerText?] at written
  split at written
  · cases written
  · omega

theorem Value.lt?_int (m n : Int) : (Value.int m).lt? (.int n) = some (decide (m < n)) := by
  simp [Value.lt?, Value.isNumeric, Value.ltNumber, Value.extent?, Binary64.Extent.lt]

theorem Value.digitBound_eq : Value.digitBound = 10 ^ Text.maxDigits := by
  have power (n : Nat) : Nat.pow 10 n = 10 ^ n := rfl
  unfold Value.digitBound
  exact power Text.maxDigits

/-- The text of a value without white space around it. -/
def Value.stripped (value : Value) : List Symbol :=
  Text.strip value.plain.toList

/-! ### Parts -/

namespace Value

theorem walk_eq_ok {v : Value} {items : List Value} :
    v.walk = .ok items ↔ v.items? = some items := by
  unfold walk
  cases v.items? with
  | none => simp
  | some found => simp

theorem asPair_eq_ok {v : Value} {pair : Value × Value} :
    v.asPair = .ok pair ↔ v.items? = some [pair.1, pair.2] := by
  simp only [asPair, bind_eq_ok, walk_eq_ok]
  constructor
  · intro parted
    obtain ⟨parts, walked, paired⟩ := parted
    unfold pairOf at paired
    split at paired
    · cases paired
      exact walked
    · cases paired
  · exact fun walked => ⟨_, walked, rfl⟩

theorem asMapping_eq_ok {v : Value} {entries : Value.Entries} :
    v.asMapping = .ok entries ↔ v.reveal = .map entries := by
  unfold asMapping
  cases v.reveal with
  | map found => simp
  | null | bool | int | float | text | bytes | date | moment | list | tuple | set | web | link =>
      simp

/-- What is under a key of a mapping. -/
def part? (data : Value) (key : String) : Option Value :=
  match data.reveal with
  | map entries => Entries.get? entries key
  | _ => none

/-- The items of what is under a key, none where nothing is there. -/
def itemsUnder? (data : Value) (key : String) : Option (List Value) :=
  ((data.part? key).getD (.list [])).items?

theorem part?_of_reveal {data : Value} {entries : Value.Entries}
    (revealed : data.reveal = .map entries) (key : String) : data.part? key = entries.get? key := by
  rw [part?, revealed]

theorem exists_entries_of_part? {data value : Value} {key : String}
    (found : data.part? key = some value) : ∃ entries, data.reveal = .map entries := by
  unfold part? at found
  split at found
  · exact ⟨_, ‹_›⟩
  · cases found

theorem require_eq_ok {data value : Value} {key : String} :
    data.require key = .ok value ↔ data.part? key = some value := by
  unfold require part?
  cases data.reveal with
  | map entries =>
      simp only
      cases Entries.get? entries key with
      | none => simp
      | some found => simp
  | null | bool | int | float | text | bytes | date | moment | list | tuple | set | web | link =>
      simp

theorem exists_walk_mapM_eq_ok {β : Type} {v : Value} {read : Value → Except Error β} :
    (∃ results, (v.walk >>= fun items => items.mapM read) = .ok results) ↔
      ∃ items, v.items? = some items ∧ ∀ item ∈ items, ∃ result, read item = .ok result := by
  simp only [bind_eq_ok, walk_eq_ok, ← exists_mapM_eq_ok_iff]
  constructor
  · intro walked
    obtain ⟨results, items, found, each⟩ := walked
    exact ⟨items, found, results, each⟩
  · intro walked
    obtain ⟨items, found, results, each⟩ := walked
    exact ⟨results, items, found, each⟩

theorem walkIfTrue_list {items : List Value} : (list items).walkIfTrue = .ok items := by
  cases items with
  | nil => rfl
  | cons item rest => rfl

end Value

/-! ### The same as a text -/

theorem Key.ofFloat_ne_text (x : Binary64) (s : Text) : Key.ofFloat x ≠ .text s := by
  unfold Key.ofFloat
  split
  · nofun
  · split
    · unfold Key.ofRatio
      nofun
    · nofun

namespace Value

/-- Only a text has the key of a text. -/
theorem eq_text_of_key? {v : Value} {s : Text} (keyed : v.key? = some (.text s)) :
    v = .text s := by
  cases v with
  | text u =>
      cases keyed
      rfl
  | float x => exact absurd (Option.some.inj keyed) (Key.ofFloat_ne_text x s)
  | null | bool | int | bytes | date | moment | list | tuple | set | map | web | link =>
      cases keyed

theorem equal_text_iff {v : Value} {s : Text} : v.equal (.text s) = true ↔ v = .text s := by
  cases v with
  | text t => simp [equal, isUndefined, same]
  | float x => simp [equal, same, key?, Key.ofFloat_ne_text]
  | null | bool | int | bytes | date | moment | list | tuple | set | map | web | link =>
      simp [equal, same, key?]

theorem text_equal_iff {s : Text} {v : Value} : (text s).equal v = true ↔ v = .text s := by
  cases v with
  | text t => simpa [equal, isUndefined, same] using eq_comm
  | float x => simp [equal, same, key?, (Key.ofFloat_ne_text x s).symm]
  | null | bool | int | bytes | date | moment | list | tuple | set | map | web | link =>
      simp [equal, same, key?]

theorem text_same_iff {s : Text} {v : Value} : (text s).same v = true ↔ v = .text s := by
  cases v with
  | text t => simpa [same] using eq_comm
  | float x => simp [same, key?, (Key.ofFloat_ne_text x s).symm]
  | null | bool | int | bytes | date | moment | list | tuple | set | map | web | link =>
      simp [same, key?]

end Value

/-! ### Entries -/

theorem Text.ofString_inj {a b : String} : Text.ofString a = Text.ofString b ↔ a = b := by
  constructor
  · intro same
    have symbols := congrArg Text.toList same
    exact String.ext (Text.symbols_inj.mp symbols)
  · exact congrArg Text.ofString

namespace Value.Entries

@[simp] theorem get?_nil {key : String} : get? [] key = none := rfl

/-- An entry is found under its own key alone. -/
@[simp] theorem get?_cons {written key : String} {value : Value} {rest : Entries} :
    get? ((.text written, value) :: rest) key =
      if written = key then some value else get? rest key := by
  rw [get?, find?, List.find?_cons]
  by_cases same : written = key
  · subst same
    simp [Value.same]
  · have different : Value.same (.text written) (.text key) = false := by
      simp [Value.same, Text.ofString_inj, same]
    simp [different, same, get?, find?]

/-- A new entry comes after those before it. -/
theorem insert_of_new {entries : Entries} {key : Value} (value : Value)
    (isNew : ∀ entry ∈ entries, entry.1.same key = false) :
    entries.insert key value = entries ++ [(key, value)] := by
  induction entries with
  | nil => rfl
  | cons entry rest inductionHypothesis =>
      have first : entry.1.same key = false := isNew entry (by simp)
      have later := inductionHypothesis fun other member => isNew other (by simp [member])
      rw [insert, if_neg (by simp [first]), later]
      rfl

end Value.Entries

end TaskGraph
