/-
Module: TaskGraph.Proofs.Topology.Shape
Purpose: The shape that a stored topology has to have, whatever its parts say.  One of this shape is
  read, or refused with an error that a command reports.
Main exports:
  Error.Reported, Value.Shallow, Value.Walked, Config.Shaped, InputStream.Shaped,
  Topology.Shaped, Topology.failsOnly_ofValue
-/
import TaskGraph.Proofs.Topology.Parallelism
import TaskGraph.Proofs.Topology.RoundTrip

namespace TaskGraph

/-- The errors that a command reports: those in a definition, in a graph or in what is written,
missing files, and malformed texts and values. -/
def Error.Reported (e : Error) : Prop :=
  (e.isOwn || e.isMissingFile || e.isMalformedValue) = true

/-! ### Shapes -/

/-- A value that has a text, or has none only for a number with too many digits. -/
def Value.Shallow (v : Value) : Prop :=
  v.plain? ≠ .error .tooDeep

/-- A value that counts as false, or can be walked through, each item being of some kind. -/
def Value.Walked (v : Value) (Kind : Value → Prop) : Prop :=
  v.isTrue = true → ∃ items, v.items? = some items ∧ ∀ item ∈ items, Kind item

/-- A value that is one by itself, and present. -/
def Value.Scalar : Value → Prop
  | bool _ | int _ | float _ | text _ => True
  | _ => False

/-- Settings: a mapping, or collections of any length in place of pairs. -/
def Config.Shaped (data : Value) : Prop :=
  data.isTrue = true →
    match data.reveal with
    | .map entries => ∀ entry ∈ entries, entry.1.Shallow ∧ entry.2.Shallow
    | _ => ∃ items, data.items? = some items ∧
      ∀ item ∈ items, ∃ parts, item.items? = some parts ∧ ∀ part ∈ parts, part.Shallow

/-- A stream: a name, or a mapping in which the source and the grouping have texts of any kind. -/
def InputStream.Shaped (data : Value) : Prop :=
  (∃ s, data = .text s) ∨ ∃ entries : Value.Entries, data.reveal = .map entries ∧
    ((entries.get? "component").getD ((entries.get? "source").getD (.text ""))).Shallow ∧
    ((entries.get? "grouping").getD (.text "SHUFFLE")).Shallow ∧
    ∃ fields, ((entries.get? "fields").getD (.list [])).items? = some fields

/-- A stored component: a mapping with a name. -/
structure Component.Shaped (entries : Value.Entries) : Prop where
  name : ∃ name, entries.get? "name" = some name ∧ name.Shallow
  parallelism : ((entries.get? "parallelism").getD .null).Shallow
  config : Config.Shaped ((entries.get? "config").getD .null)

/-- A stored spout. -/
def Spout.Shaped (data : Value) : Prop :=
  ∃ entries, data.reveal = .map entries ∧ Component.Shaped entries

/-- A stored bolt: a component, perhaps with inputs. -/
def Bolt.Shaped (data : Value) : Prop :=
  ∃ entries : Value.Entries, data.reveal = .map entries ∧ Component.Shaped entries ∧
    ((entries.get? "inputs").getD .null).Walked InputStream.Shaped

/-- The name of a stored topology. -/
def Topology.titleOf (entries : Value.Entries) : Value :=
  (entries.get? "name").getD (.text "topology")

/-- A stored topology: a mapping, perhaps with a name, spouts and bolts. -/
structure Topology.Shaped (entries : Value.Entries) : Prop where
  name : (titleOf entries).Scalar
  spouts : ((entries.get? "spouts").getD (.list [])).Walked Spout.Shaped
  bolts : ((entries.get? "bolts").getD (.list [])).Walked Bolt.Shaped

/-! ### Values -/

section Values

variable {v : Value}

theorem Value.failsOnly_asPlain (shallow : v.Shallow) : FailsOnly Error.Reported v.asPlain := by
  intro e failed
  obtain ⟨fault, none, rfl⟩ := mapError_eq_error.mp failed
  cases fault with
  | tooDeep => exact absurd none shallow
  | tooManyDigits => rfl

theorem Value.Scalar.shallow (scalar : v.Scalar) : v.Shallow := by
  cases v with
  | bool b => nofun
  | int n =>
      change integerText? n ≠ _
      unfold integerText?
      split <;> nofun
  | float x => nofun
  | text s => nofun
  | null | bytes | date | moment | list | tuple | set | map | web | link => cases scalar

theorem Value.failsOnly_walk {items : List Value} (walked : v.items? = some items) :
    FailsOnly Error.Reported v.walk := by
  rw [Value.walk_eq_ok.mpr walked]
  exact .ok items

theorem Value.Walked.failsOnly_walkIfTrue {Kind : Value → Prop} (walked : v.Walked Kind) :
    FailsOnly Error.Reported v.walkIfTrue := by
  unfold Value.walkIfTrue
  split
  · obtain ⟨items, found, -⟩ := walked ‹_›
    exact failsOnly_walk found
  · exact .ok []

theorem Value.Walked.each {Kind : Value → Prop} (walked : v.Walked Kind) {items : List Value}
    (run : v.walkIfTrue = .ok items) : ∀ item ∈ items, Kind item := by
  unfold Value.walkIfTrue at run
  split at run
  · obtain ⟨found, walk, each⟩ := walked ‹_›
    rw [Value.walk_eq_ok, walk] at run
    cases run
    exact each
  · cases run
    nofun

theorem Value.failsOnly_pairOf (parts : List Value) :
    FailsOnly Error.Reported (Value.pairOf parts) := by
  unfold Value.pairOf
  split
  · exact .ok _
  · intro e failed
    cases failed
    split <;> rfl

end Values

/-! ### Settings and streams -/

theorem Setting.failsOnly_ofTexts {pair : Value × Value} (key : pair.1.Shallow)
    (value : pair.2.Shallow) : FailsOnly Error.Reported (Setting.ofTexts pair) :=
  .bind (Value.failsOnly_asPlain key) fun _ _ =>
    .bind (Value.failsOnly_asPlain value) fun _ _ => .ok _

theorem Setting.failsOnly_ofPair {item : Value} {parts : List Value}
    (parted : item.items? = some parts) (shallow : ∀ part ∈ parts, part.Shallow) :
    FailsOnly Error.Reported (item.asPair >>= Setting.ofTexts) := by
  refine .bind (.bind (Value.failsOnly_walk parted) fun _ _ => Value.failsOnly_pairOf _) ?_
  intro pair paired
  have both : parts = [pair.1, pair.2] :=
    Option.some.inj (parted.symm.trans (Value.asPair_eq_ok.mp paired))
  subst both
  exact failsOnly_ofTexts (shallow _ (by simp)) (shallow _ (by simp))

theorem Config.failsOnly_ofValue {data : Value} (shaped : Config.Shaped data) :
    FailsOnly Error.Reported (Config.ofValue data) := by
  unfold Config.ofValue
  unfold Config.Shaped at shaped
  cases counts : data.isTrue with
  | false => exact .ok []
  | true =>
      have shape := shaped counts
      simp only [Bool.not_true, Bool.false_eq_true, if_false]
      split
      · rename_i entries revealed
        rw [revealed] at shape
        exact .mapM fun entry member =>
          Setting.failsOnly_ofTexts (shape entry member).1 (shape entry member).2
      · rename_i other
        split at shape
        · exact absurd ‹_› (other _)
        · obtain ⟨items, walked, each⟩ := shape
          refine .bind (Value.failsOnly_walk walked) fun found run => .mapM fun item member => ?_
          rw [Value.walk_eq_ok, walked] at run
          cases run
          obtain ⟨parts, parted, shallow⟩ := each item member
          exact Setting.failsOnly_ofPair parted shallow

theorem InputStream.failsOnly_groupingOf {v : Value} (shallow : v.Shallow) :
    FailsOnly Error.Reported (groupingOf v) := by
  refine .bind (Value.failsOnly_asPlain shallow) fun s _ => ?_
  cases named : Grouping.ofName? s.toUpper with
  | some grouping =>
      simp only [groupingNamed, named]
      exact .ok grouping
  | none =>
      simp only [groupingNamed, named]
      intro e failed
      cases failed
      rfl

theorem InputStream.failsOnly_ofValue {data : Value} (shaped : InputStream.Shaped data) :
    FailsOnly Error.Reported (InputStream.ofValue data) := by
  unfold InputStream.ofValue
  split
  · exact .ok _
  · rename_i noText
    rcases shaped with ⟨s, same⟩ | ⟨entries, revealed, source, grouping, fields, walked⟩
    · exact absurd same (noText s)
    · rw [Value.asMapping_eq_ok.mpr revealed, ok_bind]
      exact .bind (Value.failsOnly_asPlain source) fun _ _ =>
        .bind (failsOnly_groupingOf grouping) fun _ _ =>
          .bind (Value.failsOnly_walk walked) fun _ _ => .ok _

theorem DeclaredInputs.failsOnly_read {data : Value} (shaped : data.Walked InputStream.Shaped) :
    FailsOnly Error.Reported (DeclaredInputs.value data).read :=
  .bind shaped.failsOnly_walkIfTrue fun _ run =>
    .mapM fun item member => InputStream.failsOnly_ofValue (shaped.each run item member)

/-! ### Declarations -/

namespace Topology

variable {t : Topology} {name : Text} {parallelism config : Value}

theorem failsOnly_checkName : FailsOnly Error.Reported (t.checkName (.text name)) := by
  refine .bind (fun e failed => ?_) fun _ _ => ?_
  · have first := faultOf?_checkCharacters name
    rw [failed, faultOf?_error, eq_comm, Option.map_eq_some_iff] at first
    obtain ⟨c, -, rfl⟩ := first
    rfl
  · split
    · intro e failed
      cases failed
      rfl
    · split
      · intro e failed
        cases failed
        rfl
      · exact .ok ()

theorem failsOnly_settings (hint : parallelism.Shallow) (shaped : Config.Shaped config) :
    FailsOnly Error.Reported (t.settings parallelism config) := by
  refine .bind (Config.failsOnly_ofValue shaped) fun written _ => ?_
  split
  · exact .ok _
  · exact .bind (Value.failsOnly_asPlain hint) fun _ _ => .ok _

theorem failsOnly_addStoredSpout {data : Value} (shaped : Spout.Shaped data) :
    FailsOnly Error.Reported (t.addStoredSpout data).outcome := by
  obtain ⟨entries, revealed, shape⟩ := shaped
  obtain ⟨name, named, shallow⟩ := shape.name
  have found : data.require "name" = .ok name := by
    rw [Value.require_eq_ok, Value.part?_of_reveal revealed, named]
  simp only [addStoredSpout, Logged.outcome_bind, Logged.outcome_liftM, outcome_addSpout, found,
    Value.asMapping_eq_ok.mpr revealed, ok_bind]
  refine .bind (Value.failsOnly_asPlain shallow) fun _ _ => .bind ?_ fun _ _ => .ok _
  refine .map (.bind failsOnly_checkName fun _ _ => ?_)
  exact .bind (failsOnly_settings shape.parallelism shape.config) fun _ _ => .ok _

theorem failsOnly_addStoredBolt {data : Value} (shaped : Bolt.Shaped data) :
    FailsOnly Error.Reported (t.addStoredBolt data).outcome := by
  obtain ⟨entries, revealed, shape, inputs⟩ := shaped
  obtain ⟨name, named, shallow⟩ := shape.name
  have found : data.require "name" = .ok name := by
    rw [Value.require_eq_ok, Value.part?_of_reveal revealed, named]
  simp only [addStoredBolt, Logged.outcome_bind, Logged.outcome_liftM, outcome_addBolt, found,
    Value.asMapping_eq_ok.mpr revealed, ok_bind]
  refine .bind (Value.failsOnly_asPlain shallow) fun _ _ => .bind ?_ fun _ _ => .ok _
  refine .map (.bind failsOnly_checkName fun _ _ => ?_)
  refine .bind (failsOnly_settings shape.parallelism shape.config) fun _ _ => ?_
  exact .bind (DeclaredInputs.failsOnly_read inputs) fun _ _ => .ok _

/-- A topology with a name, which is valid, and whose settings are pairs with texts. -/
structure Written (title : Value) (t : Topology) : Prop where
  name : t.name = title
  valid : t.validate = .ok ()
  spouts : ∀ s ∈ t.spouts, s.config.Paired
  bolts : ∀ b ∈ t.bolts, b.config.Paired

theorem paired_of_textual {written : Config} (textual : written.Textual) : written.Paired := by
  intro setting member
  obtain ⟨key, value, rfl⟩ := textual setting member
  exact ⟨_, _, rfl, value, rfl⟩

theorem paired_of_settings {written : Config}
    (run : t.settings parallelism config = .ok written) : written.Paired := by
  obtain ⟨read, found, ⟨-, rfl⟩ | ⟨-, hint, -, rfl⟩⟩ := settings_eq_ok.mp run
  · exact paired_of_textual (Config.textual_of_ofValue found)
  · exact forall_mem_snoc (paired_of_textual (Config.textual_of_ofValue found))
      ⟨_, _, rfl, hint, rfl⟩

theorem paired_set {written changed : Config} (paired : written.Paired) {key value : Value}
    (run : written.set key value = .ok changed) : changed.Paired := by
  obtain ⟨shown, -, ⟨⟩⟩ := bind_eq_ok.mp run
  exact forall_mem_snoc paired ⟨_, _, rfl, shown, rfl⟩

/-- A declaration or a setting keeps the settings pairs. -/
theorem Change.written {next : Topology} {title : Value} (change : Change t next)
    (written : t.Written title) : next.Written title := by
  have name := change.name.trans written.name
  have valid := change.validate written.valid
  cases change with
  | none => exact written
  | spout declared =>
      obtain ⟨-, settings, run, rfl⟩ := declaredSpout_eq_ok.mp declared
      exact ⟨name, valid, forall_mem_snoc written.spouts (paired_of_settings run), written.bolts⟩
  | bolt declared =>
      obtain ⟨-, settings, run, streams, -, rfl⟩ := declaredBolt_eq_ok.mp declared
      exact ⟨name, valid, written.spouts, forall_mem_snoc written.bolts (paired_of_settings run)⟩
  | setSpout split run =>
      obtain ⟨config, set, ⟨⟩⟩ := bind_eq_ok.mp run
      exact ⟨name, valid,
        forall_mem_changed written.spouts split fun paired => paired_set paired set,
        written.bolts⟩
  | setBolt split run =>
      obtain ⟨config, set, ⟨⟩⟩ := bind_eq_ok.mp run
      exact ⟨name, valid, written.spouts,
        forall_mem_changed written.bolts split fun paired => paired_set paired set⟩
  | addInput split made =>
      exact ⟨name, valid, written.spouts, forall_mem_changed written.bolts split id⟩

theorem Written.addSpouts {title : Value} {start final : Topology} (written : start.Written title)
    {stored : List Value}
    (added : stored.foldlM (fun t data => (t.addStoredSpout data).outcome) start = .ok final) :
    final.Written title :=
  foldlM_invariant (fun _ _ _ _ kept step => (change_addStoredSpout step).written kept) written
    added

theorem Written.addBolts {title : Value} {start final : Topology} (written : start.Written title)
    {stored : List Value}
    (added : stored.foldlM (fun t data => (t.addStoredBolt data).outcome) start = .ok final) :
    final.Written title :=
  foldlM_invariant (fun _ _ _ _ kept step => (change_addStoredBolt step).written kept) written
    added

theorem written_start (title key : Value) :
    Written title { name := title, parallelismKey := key } where
  name := rfl
  valid := rfl
  spouts := List.forall_mem_nil _
  bolts := List.forall_mem_nil _

/-- What is read from a stored topology has its name, which has a text, and settings that are
pairs. -/
theorem written_of_ofValue {data : Value} {entries : Value.Entries}
    (revealed : data.reveal = .map entries) {key : Value}
    (loaded : (ofValue data key).outcome = .ok t) :
    t.Written (titleOf entries) ∧ t.name.HasText := by
  simp only [outcome_ofValue, Value.asMapping_eq_ok.mpr revealed, ok_bind, bind_eq_ok] at loaded
  obtain ⟨spouts, -, declared, spoutsAdded, bolts, -, _, boltsAdded, title, titled, ⟨⟩⟩ := loaded
  exact ⟨((written_start _ key).addSpouts spoutsAdded).addBolts boltsAdded, title, titled⟩

/-- A stored topology of the right shape is read, or refused with an error that is reported. -/
theorem failsOnly_ofValue {data : Value} {entries : Value.Entries}
    (revealed : data.reveal = .map entries) (shaped : Shaped entries) (key : Value) :
    FailsOnly Error.Reported (ofValue data key).outcome := by
  rw [outcome_ofValue, Value.asMapping_eq_ok.mpr revealed, ok_bind]
  refine .bind shaped.spouts.failsOnly_walkIfTrue fun spouts walked => ?_
  refine .bind (.foldlM fun t item member =>
    failsOnly_addStoredSpout (shaped.spouts.each walked item member)) fun declared added => ?_
  refine .bind shaped.bolts.failsOnly_walkIfTrue fun bolts walkedToo => ?_
  refine .bind (.foldlM fun t item member =>
    failsOnly_addStoredBolt (shaped.bolts.each walkedToo item member)) fun t addedToo => ?_
  rw [(((written_start _ key).addSpouts added).addBolts addedToo).name]
  exact .bind (Value.failsOnly_asPlain shaped.name.shallow) fun _ _ => .ok t

end Topology

end TaskGraph
