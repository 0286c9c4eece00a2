/-
Module: TaskGraph.Proofs.Topology.Parallelism
Purpose: The parallelism of a component is decided by what was written last under the key alone:
  zero where nothing was, the number that it writes, or an error that names it.
Main exports:
  Config.Paired, Config.winning?, Config.last?_eq, Component.hint?, parallelismOf_eq_ok,
  parallelismFault?, faultOf?_parallelismOf
-/
import TaskGraph.Parallelism
import TaskGraph.Proofs.Failure
import TaskGraph.Proofs.Text.Numeral
import TaskGraph.Proofs.Topology.Reading

namespace TaskGraph

/-! ### The last value under a key -/

/-- The value of a setting under a key. -/
def Setting.valueUnder? (key : Value) : Setting → Option Value
  | entry written value => if written.equal key then some value else none
  | odd _ => none

namespace Config

/-- All settings are pairs, and their values have texts. -/
def Paired (config : Config) : Prop :=
  ∀ setting ∈ config, ∃ key value, setting = .entry key value ∧ value.HasText

/-- The last of the values under a key. -/
def winning? (config : Config) (key : Value) : Option Value :=
  (config.filterMap (·.valueUnder? key)).getLast?

/-- The setting that was written last decides, if it is under the key. -/
theorem winning?_append (config : Config) (key written value : Value) :
    winning? (config ++ [.entry written value]) key =
      if written.equal key then some value else config.winning? key := by
  rw [winning?, List.filterMap_append]
  by_cases same : written.equal key = true
  · rw [if_pos same, List.filterMap_cons_some (by rw [Setting.valueUnder?, if_pos same]),
      List.filterMap_nil, List.getLast?_concat]
  · rw [if_neg same, List.filterMap_cons_none (by rw [Setting.valueUnder?, if_neg same]),
      List.filterMap_nil, List.append_nil, winning?]

theorem last?_append (config : Config) (key written value : Value) :
    last? (config ++ [.entry written value]) key =
      (config.last? key).map fun found => if written.equal key then some value else found := by
  simp only [last?, List.foldlM_append, List.foldlM_cons, List.foldlM_nil, bind_pure]
  rfl

/-- The search through the settings ends with the last of the values under the key. -/
theorem last?_eq {config : Config} (paired : config.Paired) (key : Value) :
    config.last? key = .ok (config.winning? key) := by
  induction config using List.reverseRecOn with
  | nil => rfl
  | append_singleton before setting inductionHypothesis =>
      obtain ⟨written, value, rfl, -⟩ := paired setting (by simp)
      have earlier := inductionHypothesis fun other member => paired other (by simp [member])
      rw [last?_append, earlier, winning?_append]
      rfl

theorem exists_of_winning? {config : Config} {key raw : Value}
    (won : config.winning? key = some raw) :
    ∃ written, .entry written raw ∈ config ∧ written.equal key = true := by
  obtain ⟨setting, member, found⟩ := List.mem_filterMap.mp (List.mem_of_getLast? won)
  cases setting with
  | entry written value =>
      rw [Setting.valueUnder?] at found
      split at found
      · cases found
        exact ⟨written, member, ‹_›⟩
      · cases found
  | odd parts => cases found

theorem hasText_of_winning? {config : Config} (paired : config.Paired) {key raw : Value}
    (won : config.winning? key = some raw) : raw.HasText := by
  obtain ⟨written, member, -⟩ := exists_of_winning? won
  obtain ⟨_, _, ⟨⟩, texted⟩ := paired _ member
  exact texted

end Config

/-! ### What it says -/

/-- The value that decides the parallelism of a component, if there is one. -/
def Component.hint? (c : Component) (key : Value) : Option Value :=
  match c.config.winning? key with
  | some .null => none
  | found => found

/-- What is wrong with the parallelism of a component: the value that decides is no number. -/
def parallelismFault? (key : Value) (c : Component) : Option Error :=
  (c.hint? key).bind fun raw =>
    if Text.isPlainNumeral raw.stripped then none else some (.malformedParallelism c.name raw)

theorem parallelismFault?_eq_none {key : Value} {c : Component} :
    parallelismFault? key c = none ↔
      ∀ raw, c.hint? key = some raw → ∃ n, Text.Writes raw.stripped n := by
  rw [parallelismFault?, Option.bind_eq_none_iff]
  refine forall₂_congr fun raw _ => ?_
  rw [← Text.isPlainNumeral_iff]
  split <;> simp [*]

/-- A value with a text is read as the number that its text writes. -/
theorem readParallelism_eq {name raw : Value} (texted : raw.HasText) :
    readParallelism name raw =
      if Text.isPlainNumeral raw.stripped then
        (Text.readNatural raw.stripped).mapError .numeral
      else .error (.malformedParallelism name raw) := by
  obtain ⟨s, written⟩ := texted
  rw [readParallelism, written, ok_bind, Value.stripped, Value.plain_of_asPlain written]

section Component

variable {c : Component} (paired : c.config.Paired) {key : Value}

include paired

/-- The value that decides is read, and without one the parallelism is zero. -/
theorem parallelismOf_eq :
    parallelismOf c key =
      match c.hint? key with
      | none => .ok 0
      | some raw => readParallelism c.name raw := by
  rw [parallelismOf, Config.last?_eq paired, ok_bind, Component.hint?]
  rcases c.config.winning? key with _ | _ | _ <;> rfl

theorem hasText_of_hint? {raw : Value} (found : c.hint? key = some raw) : raw.HasText := by
  apply Config.hasText_of_winning? paired
  unfold Component.hint? at found
  split at found
  · cases found
  · exact found

variable (short : ∀ raw, c.hint? key = some raw → Text.isPlainNumeral raw.stripped = true →
  raw.stripped.length ≤ Text.maxDigits)

include short

/-- The parallelism is zero where no value decides, and else the number that it writes. -/
theorem parallelismOf_eq_ok {n : Nat} :
    parallelismOf c key = .ok n ↔
      match c.hint? key with
      | none => n = 0
      | some raw => Text.Writes raw.stripped n := by
  rw [parallelismOf_eq paired]
  cases hinted : c.hint? key with
  | none => simpa using eq_comm
  | some raw =>
      dsimp only
      rw [readParallelism_eq (hasText_of_hint? paired hinted)]
      by_cases numeral : Text.isPlainNumeral raw.stripped = true
      · obtain ⟨value, written⟩ := Text.isPlainNumeral_iff.mp numeral
        rw [if_pos numeral, written.readNatural (short raw hinted numeral)]
        constructor
        · intro same
          cases same
          exact written
        · intro alsoWritten
          rw [written.unique alsoWritten]
          rfl
      · rw [if_neg numeral]
        constructor
        · nofun
        · exact fun written => absurd (Text.isPlainNumeral_iff.mpr ⟨n, written⟩) numeral

/-- The parallelism of a component cannot be read only where the value that decides is no
number. -/
theorem faultOf?_parallelismOf : faultOf? (parallelismOf c key) = parallelismFault? key c := by
  rw [parallelismFault?]
  cases hinted : c.hint? key with
  | none => rw [parallelismOf_eq paired, hinted]; rfl
  | some raw =>
      rw [Option.bind_some]
      by_cases numeral : Text.isPlainNumeral raw.stripped = true
      · obtain ⟨n, written⟩ := Text.isPlainNumeral_iff.mp numeral
        rw [if_pos numeral, faultOf?_eq_none]
        refine ⟨n, (parallelismOf_eq_ok paired short).mpr ?_⟩
        rw [hinted]
        exact written
      · rw [if_neg numeral, parallelismOf_eq paired, hinted, faultOf?_eq_some]
        dsimp only
        rw [readParallelism_eq (hasText_of_hint? paired hinted), if_neg numeral]

end Component

end TaskGraph
