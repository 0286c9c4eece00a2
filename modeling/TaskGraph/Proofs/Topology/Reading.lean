/-
Module: TaskGraph.Proofs.Topology.Reading
Purpose: Which settings and streams can be read from what a declaration gives.
Main exports:
  Config.WellFormed, Config.exists_ofValue_eq_ok, DeclaredInputs.WellFormed,
  DeclaredInputs.exists_read_eq_ok
-/
import TaskGraph.Proofs.Value.Access
import TaskGraph.Topology.Component

namespace TaskGraph

/-! ### What can be read -/

/-- What has settings: nothing, a mapping, or pairs, of values that have texts. -/
def Config.WellFormed (data : Value) : Prop :=
  data.isTrue = true →
    match data.reveal with
    | .map entries => ∀ entry ∈ entries, entry.1.HasText ∧ entry.2.HasText
    | _ => ∃ items, data.items? = some items ∧
      ∀ item ∈ items, ∃ key value, item.items? = some [key, value] ∧ key.HasText ∧ value.HasText

/-- The stored form of a stream: a name, or a mapping in which the source has a text, the grouping
is one in letters of either case, and the fields can be walked through. -/
def InputStream.WellFormed (data : Value) : Prop :=
  (∃ s, data = .text s) ∨ ∃ entries : Value.Entries, data.reveal = .map entries ∧
    ((entries.get? "component").getD ((entries.get? "source").getD (.text ""))).HasText ∧
    (∃ s grouping, ((entries.get? "grouping").getD (.text "SHUFFLE")).asPlain = .ok s ∧
      s.toUpper = Grouping.name grouping) ∧
    ∃ fields, ((entries.get? "fields").getD (.list [])).items? = some fields

def InputItem.WellFormed : InputItem → Prop
  | stream _ _ _ _ => True
  | stored data => InputStream.WellFormed data

def DeclaredInputs.WellFormed : DeclaredInputs → Prop
  | items given => ∀ item ∈ given, item.WellFormed
  | value data => data.isTrue = true → ∃ items, data.items? = some items ∧
    ∀ item ∈ items, InputStream.WellFormed item

/-! ### Settings -/

theorem Setting.ofTexts_eq_ok {pair : Value × Value} {setting : Setting} :
    Setting.ofTexts pair = .ok setting ↔
      ∃ key value, pair.1.asPlain = .ok key ∧ pair.2.asPlain = .ok value ∧
        setting = .entry (.text key) (.text value) := by
  simp only [Setting.ofTexts, bind_eq_ok]
  constructor
  · intro given
    obtain ⟨key, keyed, value, written, ⟨⟩⟩ := given
    exact ⟨key, value, keyed, written, rfl⟩
  · intro given
    obtain ⟨key, value, keyed, written, rfl⟩ := given
    exact ⟨key, keyed, value, written, rfl⟩

theorem Setting.exists_ofTexts_eq_ok {pair : Value × Value} :
    (∃ setting, Setting.ofTexts pair = .ok setting) ↔ pair.1.HasText ∧ pair.2.HasText := by
  simp only [Setting.ofTexts_eq_ok, Value.HasText]
  constructor
  · intro given
    obtain ⟨_, key, value, keyed, written, -⟩ := given
    exact ⟨⟨key, keyed⟩, ⟨value, written⟩⟩
  · intro given
    obtain ⟨⟨key, keyed⟩, ⟨value, written⟩⟩ := given
    exact ⟨_, key, value, keyed, written, rfl⟩

theorem Setting.exists_ofPair_eq_ok {item : Value} :
    (∃ setting, (item.asPair >>= Setting.ofTexts) = .ok setting) ↔
      ∃ key value, item.items? = some [key, value] ∧ key.HasText ∧ value.HasText := by
  simp only [bind_eq_ok, Value.asPair_eq_ok]
  constructor
  · intro given
    obtain ⟨setting, pair, parted, read⟩ := given
    exact ⟨pair.1, pair.2, parted, Setting.exists_ofTexts_eq_ok.mp ⟨setting, read⟩⟩
  · intro given
    obtain ⟨key, value, parted, texts⟩ := given
    obtain ⟨setting, read⟩ : ∃ setting, Setting.ofTexts (key, value) = .ok setting :=
      Setting.exists_ofTexts_eq_ok.mpr texts
    exact ⟨setting, (key, value), parted, read⟩

/-- Settings are read from what has settings. -/
theorem Config.exists_ofValue_eq_ok {data : Value} :
    (∃ config, Config.ofValue data = .ok config) ↔ Config.WellFormed data := by
  unfold Config.ofValue Config.WellFormed
  cases data.isTrue with
  | false => simp
  | true =>
      simp only [Bool.not_true, Bool.false_eq_true, if_false, forall_const]
      cases data.reveal with
      | map entries => simp only [exists_mapM_eq_ok_iff, Setting.exists_ofTexts_eq_ok]
      | null | bool | int | float | text | bytes | date | moment | list | tuple | set | web | link =>
          rw [Value.exists_walk_mapM_eq_ok]
          simp only [Setting.exists_ofPair_eq_ok]

/-! ### Streams -/

theorem Grouping.ofName?_eq_some {name : Text} {grouping : Grouping} :
    ofName? name = some grouping ↔ name = Text.ofString grouping.name := by
  constructor
  · intro found
    have passed := List.find?_some found
    exact (beq_iff_eq.mp passed).symm
  · intro named
    rw [named]
    cases grouping <;> rfl

theorem InputStream.groupingOf_eq_ok {v : Value} {grouping : Grouping} :
    InputStream.groupingOf v = .ok grouping ↔
      ∃ s, v.asPlain = .ok s ∧ s.toUpper = Text.ofString grouping.name := by
  rw [groupingOf, bind_eq_ok]
  refine exists_congr fun s => and_congr_right fun _ => ?_
  rw [← Grouping.ofName?_eq_some]
  cases named : Grouping.ofName? s.toUpper with
  | none => simp [groupingNamed, named]
  | some found => simp [groupingNamed, named]

theorem InputStream.exists_ofValue_eq_ok {data : Value} :
    (∃ input, InputStream.ofValue data = .ok input) ↔ InputStream.WellFormed data := by
  unfold InputStream.ofValue InputStream.WellFormed
  split
  · simp
  · rename_i noText
    simp only [bind_eq_ok, Value.asMapping_eq_ok, groupingOf_eq_ok, Value.walk_eq_ok]
    constructor
    · intro given
      obtain ⟨_, entries, revealed, source, named, grouping, ⟨s, written, upper⟩, fields, walked,
        -⟩ := given
      exact .inr ⟨entries, revealed, ⟨source, named⟩, ⟨s, grouping, written, upper⟩, fields, walked⟩
    · intro given
      rcases given with ⟨s, same⟩ | given
      · exact absurd same (noText s)
      · obtain ⟨entries, revealed, ⟨source, named⟩, ⟨s, grouping, written, upper⟩, fields,
          walked⟩ := given
        exact ⟨_, entries, revealed, source, named, grouping, ⟨s, written, upper⟩, fields, walked,
          rfl⟩

theorem InputItem.exists_read_eq_ok {item : InputItem} :
    (∃ input, item.read = .ok input) ↔ item.WellFormed := by
  cases item with
  | stream => simp [read, WellFormed]
  | stored data => exact InputStream.exists_ofValue_eq_ok

/-- Streams are read from what stands for streams. -/
theorem DeclaredInputs.exists_read_eq_ok {inputs : DeclaredInputs} :
    (∃ streams, inputs.read = .ok streams) ↔ inputs.WellFormed := by
  cases inputs with
  | items given =>
      simp only [read, WellFormed, exists_mapM_eq_ok_iff, InputItem.exists_read_eq_ok]
  | value data =>
      simp only [read, WellFormed, Value.walkIfTrue]
      split
      · rename_i counts
        simp only [counts, Value.exists_walk_mapM_eq_ok, InputStream.exists_ofValue_eq_ok,
          forall_const]
      · rename_i counts
        simp [counts, ok_bind, pure, Except.pure]

end TaskGraph
