/-
Module: TaskGraph.Proofs.Topology.LastWrite
Purpose: What is read as the parallelism of a component is what was written last under the key:
  by its configuration, by its hint after that, or by the settings of later calls.
Main exports:
  Write, lastUnder?, Config.writes, hintWrites, ReadsAs, Topology.Call.writesTo,
  Topology.resolve?_run, Topology.ReadsLast, Topology.reads_last_write
-/
import TaskGraph.Proofs.Topology.Parallelism
import TaskGraph.Proofs.Topology.RoundTrip

namespace TaskGraph

/-! ### Writes -/

/-- A key, and the text that is written under it. -/
structure Write where
  key : Value
  text : Text
deriving Repr, Inhabited

/-- The setting that a write leaves. -/
def Write.setting (write : Write) : Setting :=
  .entry write.key (.text write.text)

/-- The text that was written last under a key. -/
def lastUnder? (key : Value) (writes : List Write) : Option Text :=
  (writes.reverse.find? fun write => write.key.equal key).map (·.text)

/-- Later writes decide, if one of them is under the key. -/
theorem lastUnder?_append (key : Value) (before after : List Write) :
    lastUnder? key (before ++ after) = (lastUnder? key after).or (lastUnder? key before) := by
  rw [lastUnder?, List.reverse_append, List.find?_append, Option.map_or]
  rfl

theorem lastUnder?_singleton (key : Value) (write : Write) :
    lastUnder? key [write] = if write.key.equal key then some write.text else none := by
  rw [lastUnder?, List.reverse_singleton, List.find?_singleton]
  split <;> rfl

theorem winning?_map_setting (writes : List Write) (key : Value) :
    Config.winning? (writes.map (·.setting)) key = (lastUnder? key writes).map .text := by
  induction writes using List.reverseRecOn with
  | nil => rfl
  | append_singleton before write inductionHypothesis =>
      rw [List.map_append, List.map_singleton, Write.setting, Config.winning?_append,
        inductionHypothesis, lastUnder?_append, lastUnder?_singleton]
      split <;> rfl

/-! ### What a declaration writes -/

/-- The key and the value of an item that has two parts. -/
def Config.pair? (item : Value) : Option (Value × Value) :=
  match item.items? with
  | some [key, value] => some (key, value)
  | _ => none

/-- The pairs of a configuration: the entries of a mapping, or the items of a sequence of pairs.
What counts as false has none. -/
def Config.pairs (data : Value) : List (Value × Value) :=
  if data.isTrue then
    match data.reveal with
    | .map entries => entries
    | _ => (data.items?.getD []).filterMap Config.pair?
  else []

/-- What a configuration writes: the texts of its pairs, in their order. -/
def Config.writes (data : Value) : List Write :=
  (Config.pairs data).map fun pair => { key := .text pair.1.plain, text := pair.2.plain }

/-- What a hint writes under the key of a topology.  A hint that is left out writes nothing. -/
def hintWrites (key : Value) : Value → List Write
  | .null => []
  | hint => [{ key, text := hint.plain }]

theorem hintWrites_of_ne_null {key hint : Value} (present : hint ≠ .null) :
    hintWrites key hint = [{ key, text := hint.plain }] := by
  cases hint with
  | null => exact absurd rfl present
  | bool | int | float | text | bytes | date | moment | list | tuple | set | map | web | link =>
      rfl

theorem Config.pairs_of_mapping {data : Value} {entries : List (Value × Value)}
    (counts : data.isTrue = true) (revealed : data.reveal = .map entries) :
    Config.pairs data = entries := by
  rw [Config.pairs, if_pos counts, revealed]

theorem Config.pairs_of_items {data : Value} {items : List Value} (counts : data.isTrue = true)
    (noMapping : ∀ entries, data.reveal ≠ .map entries) (walked : data.items? = some items) :
    Config.pairs data = items.filterMap Config.pair? := by
  rw [Config.pairs, if_pos counts, walked]
  split
  · exact absurd ‹_› (noMapping _)
  · rfl

/-- The settings that are read are what the configuration writes. -/
theorem Config.eq_of_ofValue {data : Value} {config : Config}
    (read : Config.ofValue data = .ok config) :
    config = (Config.writes data).map (·.setting) := by
  have texts {pair : Value × Value} {setting : Setting}
      (given : Setting.ofTexts pair = .ok setting) :
      setting = .entry (.text pair.1.plain) (.text pair.2.plain) := by
    obtain ⟨key, value, keyed, written, rfl⟩ := Setting.ofTexts_eq_ok.mp given
    rw [Value.plain_of_asPlain keyed, Value.plain_of_asPlain written]
  rw [Config.writes, List.map_map]
  unfold Config.ofValue at read
  cases counts : data.isTrue with
  | false =>
      rw [counts] at read
      cases read
      rw [Config.pairs, if_neg (by simp [counts])]
      rfl
  | true =>
      rw [counts, if_neg (by simp)] at read
      split at read
      · rename_i entries revealed
        rw [pairs_of_mapping counts revealed, ← List.filterMap_eq_map]
        exact (filterMap_of_mapM_eq_ok read fun _ _ given => congrArg some (texts given).symm).symm
      · rename_i noMapping
        obtain ⟨items, walked, run⟩ := bind_eq_ok.mp read
        rw [pairs_of_items counts noMapping (Value.walk_eq_ok.mp walked), List.map_filterMap]
        refine (filterMap_of_mapM_eq_ok run fun item setting given => ?_).symm
        obtain ⟨pair, parted, given⟩ := bind_eq_ok.mp given
        rw [Config.pair?, Value.asPair_eq_ok.mp parted, Option.map_some, texts given]
        rfl

/-- A declaration writes its configuration, and its hint after that. -/
theorem Topology.eq_of_settings {t : Topology} {hint config : Value} {settings : Config}
    (run : t.settings hint config = .ok settings) :
    settings = (Config.writes config ++ hintWrites t.parallelismKey hint).map (·.setting) ∧
      hint.HasText := by
  obtain ⟨written, read, ⟨rfl, rfl⟩ | ⟨present, text, shown, rfl⟩⟩ := settings_eq_ok.mp run
  · exact ⟨by rw [hintWrites, List.append_nil, ← Config.eq_of_ofValue read], ⟨_, rfl⟩⟩
  · refine ⟨?_, text, shown⟩
    rw [hintWrites_of_ne_null present, List.map_append, ← Config.eq_of_ofValue read,
      Value.plain_of_asPlain shown]
    rfl

/-! ### What is read -/

/-- What is read as the parallelism of the component with a name, by the text that was written
last under the key, if one was: the number that it writes, unless it is no number or has too many
digits. -/
inductive ReadsAs (name : Value) : Option Text → Except Error Nat → Prop
  | unwritten : ReadsAs name none (.ok 0)
  | number {s : Text} {n : Nat} (written : Text.Writes (Text.strip s.toList) n)
      (short : (Text.strip s.toList).length ≤ Text.maxDigits) : ReadsAs name (some s) (.ok n)
  | malformed {s : Text} (noNumber : ∀ n, ¬Text.Writes (Text.strip s.toList) n) :
      ReadsAs name (some s) (.error (.malformedParallelism name (.text s)))
  | tooLong {s : Text} {n : Nat} (written : Text.Writes (Text.strip s.toList) n)
      (long : Text.maxDigits < (Text.strip s.toList).length) :
      ReadsAs name (some s) (.error (.numeral (.tooLong (Text.strip s.toList).length)))

/-- What was written last leaves nothing open. -/
theorem ReadsAs.deterministic {name : Value} {last : Option Text} {first second : Except Error Nat}
    (one : ReadsAs name last first) (two : ReadsAs name last second) : first = second := by
  cases one with
  | unwritten =>
      cases two
      rfl
  | number written short =>
      cases two with
      | number again => rw [written.unique again]
      | malformed noNumber => exact absurd written (noNumber _)
      | tooLong _ long => omega
  | malformed noNumber =>
      cases two with
      | number written | tooLong written => exact absurd written (noNumber _)
      | malformed => rfl
  | tooLong written long =>
      cases two with
      | number _ short => omega
      | malformed noNumber => exact absurd written (noNumber _)
      | tooLong => rfl

theorem readParallelism_readsAs (name : Value) (s : Text) :
    ReadsAs name (some s) (readParallelism name (.text s)) := by
  rw [readParallelism_eq ⟨s, rfl⟩, Value.stripped, Value.plain_text]
  by_cases numeral : Text.isPlainNumeral (Text.strip s.toList) = true
  · obtain ⟨n, written⟩ := Text.isPlainNumeral_iff.mp numeral
    rw [if_pos numeral]
    by_cases short : (Text.strip s.toList).length ≤ Text.maxDigits
    · rw [written.readNatural short]
      exact .number written short
    · rw [written.readNatural_of_long (not_le.mp short)]
      exact .tooLong written (not_le.mp short)
  · rw [if_neg numeral]
    exact .malformed fun n written => numeral (Text.isPlainNumeral_iff.mpr ⟨n, written⟩)

/-- A component of which all settings were written reads as the last of the writes. -/
theorem Component.readsAs {c : Component} {writes : List Write}
    (written : c.config = writes.map (·.setting)) (key : Value) :
    ReadsAs c.name (lastUnder? key writes) (parallelismOf c key) := by
  have paired : c.config.Paired := by
    rw [written]
    intro setting member
    obtain ⟨write, -, rfl⟩ := List.mem_map.mp member
    exact ⟨write.key, .text write.text, rfl, write.text, rfl⟩
  have decides : c.hint? key = (lastUnder? key writes).map .text := by
    rw [Component.hint?, written, winning?_map_setting]
    cases lastUnder? key writes with
    | none => rfl
    | some s => rfl
  rw [parallelismOf_eq paired, decides]
  cases lastUnder? key writes with
  | none => exact .unwritten
  | some s => exact readParallelism_readsAs c.name s

/-- A number is written with its digits, so that it is read back. -/
theorem readsAs_natCast {name : Value} {p : Nat} {s : Text}
    (shown : (Value.int p).asPlain = .ok s) : ReadsAs name (some s) (.ok p) := by
  have short := Value.lt_of_asPlain_int shown
  rw [Value.asPlain_int short] at shown
  cases shown
  have digits : (Text.ofString (toString (p : Int))).toList = Text.symbols (Text.digitsOf p) := rfl
  refine .number ?_ ?_
  · rw [digits, Text.strip_digitsOf]
    exact .digitsOf p
  · rw [digits, Text.strip_digitsOf, Text.length_symbols, Text.length_digitsOf_le_iff (by decide),
      ← Value.digitBound_eq]
    simpa using short

/-- The parallelism of a component is what was written last: by a configuration, by a hint under
the key of the topology, or by settings after them.  A hint that is a number is read back whatever
the configuration wrote, and matters under no other key. -/
structure Component.ReadsLast (c : Component) (parallelismKey hint : Value)
    (config settings : List Write) : Prop where
  last : ∀ key, ReadsAs c.name
    (lastUnder? key (config ++ hintWrites parallelismKey hint ++ settings)) (parallelismOf c key)
  number : ∀ key (p : Nat), hint = .int p → parallelismKey.equal key = true →
    lastUnder? key settings = none → parallelismOf c key = .ok p
  other : ∀ key, parallelismKey.equal key = false →
    ReadsAs c.name (lastUnder? key (config ++ settings)) (parallelismOf c key)

theorem Component.readsLast {c : Component} {parallelismKey hint : Value}
    {config settings : List Write} (texted : hint.HasText)
    (written : c.config =
      (config ++ hintWrites parallelismKey hint ++ settings).map (·.setting)) :
    c.ReadsLast parallelismKey hint config settings where
  last key := Component.readsAs written key
  number key p isNumber same untouched := by
    subst isNumber
    obtain ⟨s, shown⟩ := texted
    have present : Value.int p ≠ .null := nofun
    have read := Component.readsAs written key
    rw [lastUnder?_append, untouched, Option.none_or, lastUnder?_append,
      hintWrites_of_ne_null present, lastUnder?_singleton, if_pos same, Option.some_or,
      Value.plain_of_asPlain shown] at read
    exact read.deterministic (readsAs_natCast shown)
  other key different := by
    have unheard : lastUnder? key (hintWrites parallelismKey hint) = none := by
      by_cases absent : hint = .null
      · rw [absent]
        rfl
      · rw [hintWrites_of_ne_null absent, lastUnder?_singleton, if_neg (by simp [different])]
    have read := Component.readsAs written key
    rw [lastUnder?_append, lastUnder?_append, unheard, Option.none_or, ← lastUnder?_append] at read
    exact read

namespace Topology

/-! ### Changes of the component that is found -/

/-- What is found first is changed, and nothing else that is found is. -/
theorem exists_modifyFirst {α : Type} (test : α → Bool) {change : α → Except Error α}
    {changed : α → α} (xs : List α) (each : ∀ x, change x = .ok (changed x))
    (kept : ∀ x, test (changed x) = test x) :
    ∃ ys, modifyFirst test change xs = .ok ys ∧ ys.find? test = (xs.find? test).map changed ∧
      ∀ other : α → Bool, (∀ x, other (changed x) = other x) →
        (∀ x, test x = true → other x = false) → ys.find? other = xs.find? other := by
  induction xs with
  | nil => exact ⟨[], rfl, rfl, fun _ _ _ => rfl⟩
  | cons x rest inductionHypothesis =>
      obtain ⟨ys, run, found, others⟩ := inductionHypothesis
      by_cases passed : test x = true
      · refine ⟨changed x :: rest, ?_, ?_, fun other same disjoint => ?_⟩
        · rw [modifyFirst, if_pos passed, each]
          rfl
        · rw [List.find?_cons_of_pos passed, List.find?_cons_of_pos ((kept x).trans passed)]
          rfl
        · rw [List.find?_cons, List.find?_cons, same, disjoint x passed]
      · refine ⟨x :: ys, ?_, ?_, fun other same disjoint => ?_⟩
        · rw [modifyFirst, if_neg passed, run]
          rfl
        · rw [List.find?_cons_of_neg passed, List.find?_cons_of_neg passed, found]
        · rw [List.find?_cons, List.find?_cons, others other same disjoint]

theorem resolve?_eq_spout {t : Topology} {name : Value} {s : Spout} :
    t.resolve? name = some (.spout s) ↔ t.spouts.find? (·.name.equal name) = some s := by
  unfold resolve?
  cases t.spouts.find? (·.name.equal name) with
  | none => simp
  | some found => simp

theorem resolve?_eq_bolt {t : Topology} {name : Value} {b : Bolt} :
    t.resolve? name = some (.bolt b) ↔
      t.spouts.find? (·.name.equal name) = none ∧ t.bolts.find? (·.name.equal name) = some b := by
  unfold resolve?
  cases t.spouts.find? (·.name.equal name) with
  | none => simp
  | some found => simp

theorem equal_text_of_ne {v : Value} {name other : Text} (different : name ≠ other)
    (same : v.equal (.text other) = true) : v.equal (.text name) = false := by
  rw [Value.equal_text_iff.mp same, Bool.eq_false_iff, ne_eq, Value.equal_text_iff]
  exact fun alike => different (Value.text.inj alike).symm

section Modify

variable {t : Topology} {other : Text}

/-- The spout that a name resolves to is changed, and no other component that is found. -/
theorem exists_modifySpouts {change : Spout → Except Error Spout} (changed : Spout → Spout)
    {s : Spout} (each : ∀ s, change s = .ok (changed s)) (kept : ∀ s, (changed s).name = s.name)
    (resolved : t.resolve? (.text other) = some (.spout s)) :
    ∃ spouts, modifyFirst (·.name.equal (.text other)) change t.spouts = .ok spouts ∧
      { t with spouts : Topology }.resolve? (.text other) = some (.spout (changed s)) ∧
      ∀ name, name ≠ other →
        { t with spouts : Topology }.resolve? (.text name) = t.resolve? (.text name) := by
  obtain ⟨spouts, run, found, others⟩ :=
    exists_modifyFirst (·.name.equal (.text other)) t.spouts each fun s => by rw [kept]
  refine ⟨spouts, run, ?_, fun name different => ?_⟩
  · rw [resolve?_eq_spout, found, resolve?_eq_spout.mp resolved]
    rfl
  · rw [resolve?, resolve?, others (·.name.equal (.text name)) (fun s => by rw [kept]) fun s same =>
      equal_text_of_ne different same]

/-- The bolt that a name resolves to is changed, and no other component that is found. -/
theorem exists_modifyBolts {change : Bolt → Except Error Bolt} (changed : Bolt → Bolt)
    {b : Bolt} (each : ∀ b, change b = .ok (changed b)) (kept : ∀ b, (changed b).name = b.name)
    (resolved : t.resolve? (.text other) = some (.bolt b)) :
    ∃ bolts, modifyFirst (·.name.equal (.text other)) change t.bolts = .ok bolts ∧
      { t with bolts : Topology }.resolve? (.text other) = some (.bolt (changed b)) ∧
      ∀ name, name ≠ other →
        { t with bolts : Topology }.resolve? (.text name) = t.resolve? (.text name) := by
  obtain ⟨bolts, run, found, others⟩ :=
    exists_modifyFirst (·.name.equal (.text other)) t.bolts each fun b => by rw [kept]
  obtain ⟨noSpout, isBolt⟩ := resolve?_eq_bolt.mp resolved
  refine ⟨bolts, run, ?_, fun name different => ?_⟩
  · rw [resolve?_eq_bolt, found, isBolt]
    exact ⟨noSpout, rfl⟩
  · rw [resolve?, resolve?, others (·.name.equal (.text name)) (fun b => by rw [kept]) fun b same =>
      equal_text_of_ne different same]

end Modify

/-! ### What a call writes -/

/-- What a call writes for the component with a name: a setting that is meant for it, if its value
has a text. -/
def Call.writesTo (name : Text) : Call → List Write
  | .set other key value =>
    match value.asPlain with
    | .ok text => if other = name then [{ key := .text key, text }] else []
    | .error _ => []
  | _ => []

/-- A component after writes has its name, and its settings with the writes after them. -/
structure After (writes : List Write) (c d : Component) : Prop where
  name : d.name = c.name
  config : d.config = c.config ++ writes.map (·.setting)

theorem After.refl (c : Component) : After [] c c := ⟨rfl, (List.append_nil _).symm⟩

theorem After.trans {first second : List Write} {c d e : Component} (one : After first c d)
    (two : After second d e) : After (first ++ second) c e :=
  ⟨two.name.trans one.name, by rw [two.config, one.config, List.map_append, List.append_assoc]⟩

theorem resolve?_addSpout {t : Topology} {name : Text} {s : Spout}
    (different : s.name ≠ .text name) :
    { t with spouts := t.spouts ++ [s] : Topology }.resolve? (.text name) =
      t.resolve? (.text name) := by
  have unfound : [s].find? (·.name.equal (.text name)) = none := by
    simpa [Value.equal_text_iff] using different
  rw [resolve?, resolve?, List.find?_append, unfound, Option.or_none]

theorem resolve?_addBolt {t : Topology} {name : Text} {b : Bolt}
    (different : b.name ≠ .text name) :
    { t with bolts := t.bolts ++ [b] : Topology }.resolve? (.text name) =
      t.resolve? (.text name) := by
  have unfound : [b].find? (·.name.equal (.text name)) = none := by
    simpa [Value.equal_text_iff] using different
  rw [resolve?, resolve?, List.find?_append, unfound, Option.or_none]

/-- A name that may be declared is the name of no component. -/
theorem ne_of_declarable {t : Topology} {name other : Text} {c : Component}
    (resolved : t.resolve? (.text name) = some c) (declarable : t.Declarable other) :
    (.text other : Value) ≠ .text name := by
  intro same
  obtain ⟨member, named⟩ := mem_of_resolve?_eq_some resolved
  refine declarable.2 ?_
  rw [same, ← Value.equal_text_iff.mp named]
  exact name_mem_componentNames member

/-- A setting with a text is written for the component that its name resolves to. -/
theorem exists_set {t : Topology} {name text : Text} (key : Text) {value : Value} {c : Component}
    (shown : value.asPlain = .ok text) (resolved : t.resolve? (.text name) = some c) :
    ∃ next d, t.set (.text name) (.text key) value = .ok next ∧
      next.resolve? (.text name) = some d ∧ After [{ key := .text key, text }] c d ∧
      ∀ other, other ≠ name → next.resolve? (.text other) = t.resolve? (.text other) := by
  cases c with
  | spout s =>
      have each (s : Spout) : s.set (.text key) value =
          .ok { s with config := s.config ++ [.entry (.text key) (.text text)] } := by
        rw [Spout.set, Config.set, shown]
        rfl
      obtain ⟨spouts, run, here, others⟩ := exists_modifySpouts _ each (fun _ => rfl) resolved
      refine ⟨{ t with spouts }, _, ?_, here, ⟨rfl, rfl⟩, others⟩
      rw [Topology.set, resolved]
      simp only [run, ok_bind]
  | bolt b =>
      have each (b : Bolt) : b.set (.text key) value =
          .ok { b with config := b.config ++ [.entry (.text key) (.text text)] } := by
        rw [Bolt.set, Config.set, shown]
        rfl
      obtain ⟨bolts, run, here, others⟩ := exists_modifyBolts _ each (fun _ => rfl) resolved
      refine ⟨{ t with bolts }, _, ?_, here, ⟨rfl, rfl⟩, others⟩
      rw [Topology.set, resolved]
      simp only [run, ok_bind]

/-- A setting without a text is not written. -/
theorem fst_step_set_of_error {t : Topology} {name key : Text} {value : Value} {e : Error}
    (failed : value.asPlain = .error e) : (t.step (.set name key value)).1 = t := by
  have unwritten (config : Config) : config.set (.text key) value = .error e := by
    rw [Config.set, failed]
    rfl
  have noSpout {s changed : Spout} : s.set (.text key) value ≠ .ok changed := by
    rw [Spout.set, unwritten]
    intro written
    cases written
  have noBolt {b changed : Bolt} : b.set (.text key) value ≠ .ok changed := by
    rw [Bolt.set, unwritten]
    intro written
    cases written
  rw [step]
  cases run : t.setting name key value with
  | error _ => rfl
  | ok result =>
      obtain ⟨next, set, returned⟩ := bind_eq_ok.mp run
      split at returned
      · cases returned
        unfold Topology.set at set
        split at set
        · obtain ⟨spouts, changed, ⟨⟩⟩ := bind_eq_ok.mp set
          rcases modifyFirst_eq_ok changed with rfl | ⟨_, _, _, _, _, written, _⟩
          · rfl
          · exact absurd written noSpout
        · obtain ⟨bolts, changed, ⟨⟩⟩ := bind_eq_ok.mp set
          rcases modifyFirst_eq_ok changed with rfl | ⟨_, _, _, _, _, written, _⟩
          · rfl
          · exact absurd written noBolt
        · cases set
          rfl
      · cases returned

/-- A setting that is written for a component changes that one alone. -/
theorem resolve?_step_set {t : Topology} {name other key text : Text} {value : Value}
    {c : Component} (shown : value.asPlain = .ok text)
    (resolved : t.resolve? (.text name) = some c) :
    ∃ d, (t.step (.set other key value)).1.resolve? (.text name) = some d ∧
      After (if other = name then [{ key := .text key, text }] else []) c d := by
  cases found : t.resolve? (.text other) with
  | none =>
      have different : other ≠ name := by
        rintro rfl
        cases found.symm.trans resolved
      have unchanged : (t.step (.set other key value)).1 = t := by
        rw [step, setting, Topology.set, found, ok_bind]
        simp only [found]
        rfl
      rw [unchanged, if_neg different]
      exact ⟨c, resolved, .refl c⟩
  | some b =>
      obtain ⟨next, d, set, here, after, others⟩ := exists_set key shown found
      have changed : (t.step (.set other key value)).1 = next := by
        rw [step, setting, set, ok_bind]
        simp only [here]
        rfl
      rw [changed]
      by_cases same : other = name
      · subst same
        cases found.symm.trans resolved
        rw [if_pos rfl]
        exact ⟨d, here, after⟩
      · rw [if_neg same, others name (Ne.symm same)]
        exact ⟨c, resolved, .refl c⟩

/-- A stream that a bolt reads from then on changes no settings. -/
theorem resolve?_step_addInput {t : Topology} {name bolt source : Text} {grouping : Grouping}
    {stream fields : Value} {c : Component} (resolved : t.resolve? (.text name) = some c) :
    ∃ d, (t.step (.addInput bolt source grouping stream fields)).1.resolve? (.text name) = some d ∧
      After [] c d := by
  rw [step]
  cases run : t.reading bolt source grouping stream fields with
  | error e => exact ⟨c, resolved, .refl c⟩
  | ok result =>
      unfold reading at run
      split at run
      · rename_i b found
        simp only [bind_eq_ok] at run
        obtain ⟨input, -, next, added, ⟨⟩⟩ := run
        obtain ⟨bolts, changed, here, others⟩ := exists_modifyBolts (·.addInput input)
          (fun _ => rfl) (fun _ => rfl) found
        rw [Topology.addInput, found] at added
        simp only [changed, ok_bind] at added
        cases added
        by_cases same : name = bolt
        · subst same
          cases found.symm.trans resolved
          exact ⟨_, here, rfl, (List.append_nil _).symm⟩
        · exact ⟨c, (others name same).trans resolved, .refl c⟩
      · cases run

/-- After a call, a name that has resolved resolves to its component, after what the call wrote for
it. -/
theorem resolve?_step {t : Topology} {name : Text} {c : Component}
    (resolved : t.resolve? (.text name) = some c) (call : Call) :
    ∃ d, (t.step call).1.resolve? (.text name) = some d ∧ After (call.writesTo name) c d := by
  cases call with
  | addSpout other parallelism config =>
      rw [step, outcome_addSpout]
      cases declared : t.declaredSpout (.text other) parallelism config with
      | error e => exact ⟨c, resolved, .refl c⟩
      | ok s =>
          obtain ⟨declarable, _, -, rfl⟩ := declaredSpout_eq_ok.mp declared
          refine ⟨c, ?_, .refl c⟩
          exact (resolve?_addSpout (ne_of_declarable resolved declarable)).trans resolved
  | addBolt other parallelism config inputs =>
      rw [step, outcome_addBolt]
      cases declared : t.declaredBolt (.text other) parallelism config inputs with
      | error e => exact ⟨c, resolved, .refl c⟩
      | ok b =>
          obtain ⟨declarable, _, -, _, -, rfl⟩ := declaredBolt_eq_ok.mp declared
          refine ⟨c, ?_, .refl c⟩
          exact (resolve?_addBolt (ne_of_declarable resolved declarable)).trans resolved
  | set other key value =>
      rw [Call.writesTo]
      cases shown : value.asPlain with
      | error e =>
          rw [fst_step_set_of_error shown]
          exact ⟨c, resolved, .refl c⟩
      | ok text => exact resolve?_step_set shown resolved
  | addInput bolt source grouping stream fields => exact resolve?_step_addInput resolved

/-- After calls, a name that has resolved resolves to its component, after all that they wrote for
it. -/
theorem resolve?_run {t : Topology} {name : Text} {c : Component}
    (resolved : t.resolve? (.text name) = some c) (calls : List Call) :
    ∃ d, (t.run calls).resolve? (.text name) = some d ∧
      After (calls.flatMap (·.writesTo name)) c d := by
  induction calls generalizing t c with
  | nil => exact ⟨c, resolved, .refl c⟩
  | cons call rest inductionHypothesis =>
      obtain ⟨d, first, one⟩ := resolve?_step resolved call
      obtain ⟨e, last, two⟩ := inductionHypothesis first
      exact ⟨e, last, one.trans two⟩

/-! ### Declared components -/

/-- A component has the settings that its declaration wrote. -/
structure Declared (parallelismKey hint config : Value) (c : Component) : Prop where
  texted : hint.HasText
  settings : c.config =
    (Config.writes config ++ hintWrites parallelismKey hint).map (·.setting)

/-- A call declares a component with a name, a hint and a configuration. -/
inductive Call.Declares (name : Text) (hint config : Value) : Call → Prop
  | spout : Declares name hint config (.addSpout name hint config)
  | bolt (inputs : DeclaredInputs) : Declares name hint config (.addBolt name hint config inputs)

theorem declared_of_spout {t : Topology} {name : Text} {hint config : Value} {s : Spout}
    (run : t.declaredSpout (.text name) hint config = .ok s) :
    t.Declarable name ∧ s.name = .text name ∧
      Declared t.parallelismKey hint config (.spout s) := by
  obtain ⟨declarable, settings, read, rfl⟩ := declaredSpout_eq_ok.mp run
  obtain ⟨rfl, texted⟩ := eq_of_settings read
  exact ⟨declarable, rfl, texted, rfl⟩

theorem declared_of_bolt {t : Topology} {name : Text} {hint config : Value}
    {inputs : DeclaredInputs} {b : Bolt}
    (run : t.declaredBolt (.text name) hint config inputs = .ok b) :
    t.Declarable name ∧ b.name = .text name ∧
      Declared t.parallelismKey hint config (.bolt b) := by
  obtain ⟨declarable, settings, read, _, -, rfl⟩ := declaredBolt_eq_ok.mp run
  obtain ⟨rfl, texted⟩ := eq_of_settings read
  exact ⟨declarable, rfl, texted, rfl⟩

/-- Nothing is found under a name that may be declared. -/
theorem find?_of_declarable {t : Topology} {name : Text} (declarable : t.Declarable name) :
    t.spouts.find? (·.name.equal (.text name)) = none ∧
      t.bolts.find? (·.name.equal (.text name)) = none := by
  obtain ⟨-, isNew⟩ := declarable
  rw [componentNames_eq, List.mem_append, not_or, ← any_equal_text, ← any_equal_text] at isNew
  simpa [List.find?_eq_none] using isNew

/-- The name that a call declares resolves to the component that it wrote. -/
theorem resolve?_of_declares {t : Topology} {name : Text} {hint config : Value} {call : Call}
    {c : Component} (declares : call.Declares name hint config)
    (returned : (t.step call).2 = .ok c) :
    (t.step call).1.resolve? (.text name) = some c ∧ c.name = .text name ∧
      Declared t.parallelismKey hint config c := by
  cases declares with
  | spout =>
      obtain ⟨s, run, rfl⟩ := snd_step_addSpout_eq_ok.mp returned
      obtain ⟨declarable, named, declared⟩ := declared_of_spout run
      refine ⟨?_, named, declared⟩
      rw [step, outcome_addSpout, run]
      change { t with spouts := t.spouts ++ [s] : Topology }.resolve? (.text name) = _
      rw [resolve?_eq_spout, List.find?_append, (find?_of_declarable declarable).1, Option.none_or,
        List.find?_singleton, named, Value.equal_text_iff.mpr rfl]
      rfl
  | bolt inputs =>
      obtain ⟨b, run, rfl⟩ := snd_step_addBolt_eq_ok.mp returned
      obtain ⟨declarable, named, declared⟩ := declared_of_bolt run
      obtain ⟨noSpout, noBolt⟩ := find?_of_declarable declarable
      refine ⟨?_, named, declared⟩
      rw [step, outcome_addBolt, run]
      change { t with bolts := t.bolts ++ [b] : Topology }.resolve? (.text name) = _
      rw [resolve?_eq_bolt, List.find?_append, noBolt, Option.none_or, List.find?_singleton, named,
        Value.equal_text_iff.mpr rfl]
      exact ⟨noSpout, rfl⟩

/-! ### Stored components -/

/-- A component is declared as a stored one says. -/
def DeclaredAs (parallelismKey stored : Value) (c : Component) : Prop :=
  Declared parallelismKey ((stored.part? "parallelism").getD .null)
    ((stored.part? "config").getD .null) c

theorem addStoredSpout_eq_ok {t next : Topology} {data : Value}
    (added : (t.addStoredSpout data).outcome = .ok next) :
    ∃ s, next = { t with spouts := t.spouts ++ [s] } ∧
      DeclaredAs t.parallelismKey data (.spout s) := by
  simp only [addStoredSpout, Logged.outcome_bind, Logged.outcome_liftM, bind_eq_ok,
    outcome_addSpout, map_eq_ok, Value.asMapping_eq_ok] at added
  obtain ⟨name, -, entries, revealed, plain, -, _, ⟨s, run, rfl⟩, ⟨⟩⟩ := added
  refine ⟨s, rfl, ?_⟩
  rw [DeclaredAs, Value.part?_of_reveal revealed, Value.part?_of_reveal revealed]
  exact (declared_of_spout run).2.2

theorem addStoredBolt_eq_ok {t next : Topology} {data : Value}
    (added : (t.addStoredBolt data).outcome = .ok next) :
    ∃ b, next = { t with bolts := t.bolts ++ [b] } ∧
      DeclaredAs t.parallelismKey data (.bolt b) := by
  simp only [addStoredBolt, Logged.outcome_bind, Logged.outcome_liftM, bind_eq_ok,
    outcome_addBolt, map_eq_ok, Value.asMapping_eq_ok] at added
  obtain ⟨name, -, entries, revealed, plain, -, _, ⟨b, run, rfl⟩, ⟨⟩⟩ := added
  refine ⟨b, rfl, ?_⟩
  rw [DeclaredAs, Value.part?_of_reveal revealed, Value.part?_of_reveal revealed]
  exact (declared_of_bolt run).2.2

section Stored

variable {t next : Topology} {stored : List Value} (valid : t.validate = .ok ())

include valid

/-- Stored spouts are added one by one, each declared as it is stored. -/
theorem declared_of_addStoredSpouts
    (run : stored.foldlM (fun t data => (t.addStoredSpout data).outcome) t = .ok next) :
    (next.parallelismKey = t.parallelismKey ∧ next.bolts = t.bolts ∧ next.validate = .ok ()) ∧
      ∃ spouts, next.spouts = t.spouts ++ spouts ∧
        List.Forall₂ (fun data s => DeclaredAs t.parallelismKey data (.spout s)) stored spouts := by
  refine exists_forall₂_of_foldlM (·.spouts) _
    (fun u => u.parallelismKey = t.parallelismKey ∧ u.bolts = t.bolts ∧ u.validate = .ok ())
    (fun u data after kept added => ?_) ⟨rfl, rfl, valid⟩ run
  obtain ⟨keyed, sameBolts, before⟩ := kept
  have afterValid := (change_addStoredSpout added).validate before
  obtain ⟨s, rfl, declared⟩ := addStoredSpout_eq_ok added
  rw [keyed] at declared
  exact ⟨⟨keyed, sameBolts, afterValid⟩, s, rfl, declared⟩

/-- Stored bolts are added one by one, each declared as it is stored. -/
theorem declared_of_addStoredBolts
    (run : stored.foldlM (fun t data => (t.addStoredBolt data).outcome) t = .ok next) :
    (next.parallelismKey = t.parallelismKey ∧ next.spouts = t.spouts ∧ next.validate = .ok ()) ∧
      ∃ bolts, next.bolts = t.bolts ++ bolts ∧
        List.Forall₂ (fun data b => DeclaredAs t.parallelismKey data (.bolt b)) stored bolts := by
  refine exists_forall₂_of_foldlM (·.bolts) _
    (fun u => u.parallelismKey = t.parallelismKey ∧ u.spouts = t.spouts ∧ u.validate = .ok ())
    (fun u data after kept added => ?_) ⟨rfl, rfl, valid⟩ run
  obtain ⟨keyed, sameSpouts, before⟩ := kept
  have afterValid := (change_addStoredBolt added).validate before
  obtain ⟨b, rfl, declared⟩ := addStoredBolt_eq_ok added
  rw [keyed] at declared
  exact ⟨⟨keyed, sameSpouts, afterValid⟩, b, rfl, declared⟩

end Stored

/-- A topology that is read has valid names, and one component for each stored one, declared as
that says. -/
theorem declared_of_ofValue {data key : Value} {t : Topology}
    (loaded : (ofValue data key).outcome = .ok t) :
    t.validate = .ok () ∧ ∃ spouts bolts,
      ((data.part? "spouts").getD (.list [])).walkIfTrue = .ok spouts ∧
      ((data.part? "bolts").getD (.list [])).walkIfTrue = .ok bolts ∧
      List.Forall₂ (DeclaredAs key) (spouts ++ bolts) t.components := by
  simp only [outcome_ofValue, bind_eq_ok, Value.asMapping_eq_ok] at loaded
  obtain ⟨entries, revealed, spouts, spoutsWalked, half, spoutsAdded, bolts, boltsWalked, whole,
    boltsAdded, title, -, ⟨⟩⟩ := loaded
  obtain ⟨⟨keyed, noBolts, halfValid⟩, declaredSpouts, allSpouts, asSpouts⟩ :=
    declared_of_addStoredSpouts rfl spoutsAdded
  obtain ⟨⟨-, sameSpouts, valid⟩, declaredBolts, allBolts, asBolts⟩ :=
    declared_of_addStoredBolts halfValid boltsAdded
  rw [keyed] at asBolts
  refine ⟨valid, spouts, bolts, ?_, ?_, ?_⟩
  · rw [Value.part?_of_reveal revealed]
    exact spoutsWalked
  · rw [Value.part?_of_reveal revealed]
    exact boltsWalked
  · rw [components, sameSpouts, allSpouts, allBolts, noBolts]
    exact List.rel_append (List.forall₂_map_right_iff.mpr asSpouts)
      (List.forall₂_map_right_iff.mpr asBolts)

/-! ### After any calls -/

/-- After any further calls, the component with a name reads as what was written last: by its
configuration, its hint, or a setting of one of the calls. -/
def ReadsLast (t : Topology) (name : Text) (parallelismKey hint config : Value) : Prop :=
  ∀ later : List Call, ∃ c, (t.run later).resolve? (.text name) = some c ∧ c.name = .text name ∧
    c.ReadsLast parallelismKey hint (Config.writes config) (later.flatMap (·.writesTo name))

theorem readsLast_of_declared {t : Topology} {name : Text} {parallelismKey hint config : Value}
    {c : Component} (resolved : t.resolve? (.text name) = some c) (named : c.name = .text name)
    (declared : Declared parallelismKey hint config c) :
    t.ReadsLast name parallelismKey hint config := by
  intro later
  obtain ⟨d, found, after⟩ := resolve?_run resolved later
  refine ⟨d, found, after.name.trans named, Component.readsLast declared.texted ?_⟩
  rw [after.config, declared.settings, ← List.map_append]

/-- The parallelism of every component that has been declared, by a call or in a stored topology,
is what was written last, whatever the calls after that. -/
theorem reads_last_write :
    (∀ (t : Topology) (call : Call) (name : Text) (hint config : Value) (c : Component),
      call.Declares name hint config → (t.step call).2 = .ok c →
      (t.step call).1.ReadsLast name t.parallelismKey hint config) ∧
    ∀ (data key : Value) (t : Topology), (ofValue data key).outcome = .ok t →
      ∃ spouts bolts, ((data.part? "spouts").getD (.list [])).walkIfTrue = .ok spouts ∧
        ((data.part? "bolts").getD (.list [])).walkIfTrue = .ok bolts ∧
        List.Forall₂ (fun stored c => ∃ name, c.name = .text name ∧
          t.ReadsLast name key ((stored.part? "parallelism").getD .null)
            ((stored.part? "config").getD .null)) (spouts ++ bolts) t.components := by
  constructor
  · intro t call name hint config c declares returned
    obtain ⟨resolved, named, declared⟩ := resolve?_of_declares declares returned
    exact readsLast_of_declared resolved named declared
  · intro data key t loaded
    obtain ⟨valid, spouts, bolts, spoutsWalked, boltsWalked, declared⟩ := declared_of_ofValue loaded
    refine ⟨spouts, bolts, spoutsWalked, boltsWalked, ?_⟩
    have members := forall₂_and_right.mpr ⟨declared, fun c member => member⟩
    refine members.imp fun stored c both => ?_
    obtain ⟨asStored, member⟩ := both
    obtain ⟨name, named⟩ := exists_name_eq_text valid member
    refine ⟨name, named, readsLast_of_declared ?_ named asStored⟩
    rw [← named]
    exact resolve?_name valid member

/-- A topology that writes hints under a short key. -/
def hinting : Topology := { name := .text "words", parallelismKey := .text "p" }

/-- Settings that are written before a hint: one under the key of the hint, which is no number, and
one under another key. -/
def counting : Value := .map [(.text "p", .text "many"), (.text "q", .text " 07 ")]

/-- A bolt with settings and a hint. -/
def addCounter : Call := .addBolt "count" (.int 3) counting (.items [])

/-- The stored form of a bolt with the same settings and hint. -/
def storedBolt : Value :=
  .map [(.text "name", .text "count"), (.text "parallelism", .int 3), (.text "config", counting)]

/-- The stored form of a topology with one bolt. -/
def storedCounter : Value := .map [(.text "bolts", .list [storedBolt])]

/-- The hint is read in place of the setting before it, the other setting as the number that it
writes, and a later setting that is no number is refused. -/
theorem reads_last_write_counter :
    (∃ c, (hinting.step addCounter).2 = .ok c) ∧
      (∃ c, ((hinting.step addCounter).1.run [.set "count" "r" (.text "x")]).resolve?
          (.text "count") = some c ∧
        parallelismOf c (.text "p") = .ok 3 ∧ parallelismOf c (.text "q") = .ok 7 ∧
        parallelismOf c (.text "r") =
          .error (.malformedParallelism (.text "count") (.text "x"))) ∧
      ∃ t, (ofValue storedCounter (.text "p")).outcome = .ok t ∧
        ∃ c name, t.components = [c] ∧ c.name = .text name ∧
          t.ReadsLast name (.text "p") (.int 3) counting := by
  obtain ⟨c, returned⟩ : ∃ c, (hinting.step addCounter).2.toOption = some c :=
    Option.isSome_iff_exists.mp (by decide +kernel)
  obtain ⟨t, read⟩ : ∃ t, (ofValue storedCounter (.text "p")).outcome.toOption = some t :=
    Option.isSome_iff_exists.mp (by decide +kernel)
  have added := toOption_eq_some.mp returned
  have loaded := toOption_eq_some.mp read
  refine ⟨⟨c, added⟩, ?_, t, loaded, ?_⟩
  · obtain ⟨d, found, named, reads⟩ := reads_last_write.1 hinting addCounter "count" (.int 3)
      counting c (.bolt _) added [.set "count" "r" (.text "x")]
    have read {key : Value} {text : Text} (last : lastUnder? key (Config.writes counting ++
        hintWrites (.text "p") (.int 3) ++ [{ key := .text "r", text := "x" }]) = some text) :
        ReadsAs (.text "count") (some text) (parallelismOf d key) := by
      rw [← last, ← named]
      exact reads.last key
    have seven : Text.Writes (Text.strip (Text.toList " 07 ")) 7 := ⟨1, by decide +kernel⟩
    have noNumber : ∀ n, ¬Text.Writes (Text.strip (Text.toList "x")) n := fun n written =>
      absurd (Text.isPlainNumeral_iff.mpr ⟨n, written⟩) (by decide)
    refine ⟨d, found, reads.number (.text "p") 3 rfl (by decide +kernel) (by decide +kernel),
      ?_, ?_⟩
    · exact (read (by decide +kernel)).deterministic (.number seven (by decide +kernel))
    · exact (read (by decide +kernel)).deterministic (.malformed noNumber)
  · obtain ⟨spouts, bolts, noSpouts, oneBolt, declared⟩ := reads_last_write.2 _ _ t loaded
    have none : ((storedCounter.part? "spouts").getD (.list [])).walkIfTrue = .ok [] := by
      simp [storedCounter, Value.part?, Value.reveal, Value.walkIfTrue_list]
    have one : ((storedCounter.part? "bolts").getD (.list [])).walkIfTrue = .ok [storedBolt] := by
      simp [storedCounter, Value.part?, Value.reveal, Value.walkIfTrue_list]
    cases none.symm.trans noSpouts
    cases one.symm.trans oneBolt
    obtain ⟨c, others, ⟨name, named, reads⟩, noOther, components⟩ :=
      List.forall₂_cons_left_iff.mp declared
    cases noOther
    have hint : (storedBolt.part? "parallelism").getD .null = .int 3 := by
      simp [storedBolt, Value.part?, Value.reveal]
    have config : (storedBolt.part? "config").getD .null = counting := by
      simp [storedBolt, Value.part?, Value.reveal]
    rw [hint, config] at reads
    exact ⟨c, name, components, named, reads⟩

/-- A run of digits that is one digit too long. -/
def endless : Text := ⟨List.replicate (Text.maxDigits + 1) (.char '1')⟩

/-- A spout whose parallelism is such a run. -/
def addEndless : Call := .addSpout "ticks" .null (.map [(.text "p", .text endless)])

/-- The spout of this call. -/
def ticks : Component :=
  .spout { name := .text "ticks", config := [.entry (.text "p") (.text endless)] }

/-- A run of digits that is too long is no number that is read, and no malformed one either. -/
theorem parallelismOf_ticks :
    (hinting.step addEndless).2 = .ok ticks ∧
      (¬∃ n, Text.Writes (Text.strip endless.toList) n ∧
        (Text.strip endless.toList).length ≤ Text.maxDigits) ∧
      parallelismOf ticks (.text "p") ≠
        .error (.malformedParallelism (.text "ticks") (.text endless)) := by
  have one : ∀ s ∈ endless.toList, s = .char '1' := fun s member => List.eq_of_mem_replicate member
  have bare : Text.strip endless.toList = endless.toList := by
    apply Text.strip_eq_self
    intro s member
    rw [one s member]
    decide
  have long : Text.maxDigits < endless.toList.length := by
    rw [endless, List.length_replicate]
    exact Nat.lt_succ_self _
  have numeral : Text.isPlainNumeral endless.toList = true := by
    simp [Text.isPlainNumeral, endless, Symbol.is, Text.isPlainDigit]
  obtain ⟨n, written⟩ := Text.isPlainNumeral_iff.mp numeral
  have settings : ticks.config =
      [({ key := .text "p", text := endless } : Write)].map (·.setting) := rfl
  have read := Component.readsAs settings (.text "p")
  rw [lastUnder?_singleton, if_pos (Value.text_equal_iff.mpr rfl)] at read
  refine ⟨rfl, ?_, fun malformed => ?_⟩
  · rw [bare]
    rintro ⟨_, -, short⟩
    exact absurd long (not_lt.mpr short)
  · rw [malformed] at read
    cases read with
    | malformed noNumber =>
        rw [bare] at noNumber
        exact noNumber n written

end Topology

end TaskGraph
