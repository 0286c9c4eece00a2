/-
Module: TaskGraph.Proofs.Topology.RoundTrip
Purpose: A topology that declarations and settings have made is read back from its stored form as
  it was, so that its expansions stay the same.
Main exports:
  Topology.Reachable, Topology.Storable, Topology.Reachable.storable,
  Topology.Storable.outcome_ofValue, Topology.ofValue_toValue
-/
import TaskGraph.Proofs.Topology.Registration
import TaskGraph.Topology.Stored

namespace TaskGraph

/-! ### Items of a list -/

/-- What holds of all items holds of all where one more comes last. -/
theorem forall_mem_snoc {α : Type} {Kept : α → Prop} {xs : List α} {y : α}
    (each : ∀ x ∈ xs, Kept x) (last : Kept y) : ∀ x ∈ xs ++ [y], Kept x := by
  rw [List.forall_mem_append, List.forall_mem_singleton]
  exact ⟨each, last⟩

/-- What holds of all items holds of all where one of them is changed. -/
theorem forall_mem_changed {α : Type} {Kept : α → Prop} {xs before after : List α} {x y : α}
    (each : ∀ z ∈ xs, Kept z) (split : xs = before ++ x :: after) (kept : Kept x → Kept y) :
    ∀ z ∈ before ++ y :: after, Kept z := by
  rw [split, List.forall_mem_append, List.forall_mem_cons] at each
  rw [List.forall_mem_append, List.forall_mem_cons]
  obtain ⟨earlier, here, later⟩ := each
  exact ⟨earlier, kept here, later⟩

/-! ### Settings -/

/-- The settings are pairs of texts. -/
def Config.Textual (config : Config) : Prop :=
  ∀ setting ∈ config, ∃ key value : Text, setting = .entry (.text key) (.text value)

namespace Config

/-- What is read are texts. -/
theorem textual_of_ofValue {data : Value} {config : Config}
    (read : Config.ofValue data = .ok config) : config.Textual := by
  have texts {pair : Value × Value} {setting : Setting}
      (given : Setting.ofTexts pair = .ok setting) :
      ∃ key value : Text, setting = .entry (.text key) (.text value) := by
    obtain ⟨key, value, -, -, rfl⟩ := Setting.ofTexts_eq_ok.mp given
    exact ⟨key, value, rfl⟩
  unfold Config.ofValue at read
  split at read
  · cases read
    exact List.forall_mem_nil _
  · split at read
    · exact forall_mem_of_mapM_eq_ok read fun _ _ _ given => texts given
    · obtain ⟨items, -, run⟩ := bind_eq_ok.mp read
      refine forall_mem_of_mapM_eq_ok run fun item _ setting given => ?_
      obtain ⟨pair, -, given⟩ := bind_eq_ok.mp given
      exact texts given

theorem Textual.append {config : Config} (textual : config.Textual) (key value : Text) :
    Textual (config ++ [.entry (.text key) (.text value)]) :=
  forall_mem_snoc textual ⟨key, value, rfl⟩

/-- A setting that is written is a text. -/
theorem Textual.set {config changed : Config} (textual : config.Textual) {key : Text}
    {value : Value} (written : config.set (.text key) value = .ok changed) : changed.Textual := by
  obtain ⟨shown, -, ⟨⟩⟩ := bind_eq_ok.mp written
  exact textual.append key shown

/-- Settings that are texts are read back. -/
theorem Textual.read_toValue {config : Config} (textual : config.Textual) :
    Config.ofValue config.toValue = .ok config := by
  have each : ∀ setting ∈ config,
      (setting.toValue.asPair >>= Setting.ofTexts) = .ok setting := by
    intro setting member
    obtain ⟨key, value, rfl⟩ := textual setting member
    rfl
  have run : (config.map (·.toValue)).mapM (fun item => item.asPair >>= Setting.ofTexts) =
      .ok config := by
    rw [mapM_eq_ok, List.forall₂_map_left_iff, List.forall₂_same]
    exact each
  cases config with
  | nil => rfl
  | cons setting rest => exact run

end Config

/-! ### Streams -/

namespace InputStream

/-- The component that is read has a text for a name. -/
def Named (input : InputStream) : Prop :=
  ∃ s : Text, input.component = .text s

theorem named_of_ofValue {data : Value} {input : InputStream}
    (read : InputStream.ofValue data = .ok input) : input.Named := by
  unfold InputStream.ofValue at read
  split at read
  · cases read
    exact ⟨_, rfl⟩
  · simp only [bind_eq_ok] at read
    obtain ⟨_, _, source, _, _, _, _, _, ⟨⟩⟩ := read
    exact ⟨source, rfl⟩

theorem named_of_make {source : Text} {grouping : Grouping} {stream fields : Value}
    {input : InputStream}
    (made : InputStream.make (.text source) grouping stream fields = .ok input) :
    input.Named := by
  obtain ⟨_, -, ⟨⟩⟩ := bind_eq_ok.mp made
  exact ⟨source, rfl⟩

theorem groupingOf_name (grouping : Grouping) :
    groupingOf (.text grouping.name) = .ok grouping := by
  apply groupingOf_eq_ok.mpr
  refine ⟨_, rfl, ?_⟩
  cases grouping <;> rfl

theorem ofValue_map {entries : Value.Entries} (source : Text) (grouping : Grouping)
    (fields : List Value)
    (named : (entries.get? "component").getD ((entries.get? "source").getD (.text "")) =
      .text source)
    (grouped : (entries.get? "grouping").getD (.text "SHUFFLE") = .text grouping.name)
    (listed : (entries.get? "fields").getD (.list []) = .list fields) :
    InputStream.ofValue (.map entries) =
      .ok
        { component := .text source
          stream := (entries.get? "stream").getD (.text "default")
          grouping
          fields } := by
  simp only [InputStream.ofValue, Value.asMapping, Value.reveal, ok_bind, named, grouped, listed,
    Value.asPlain_text, groupingOf_name, Value.walk, Value.items?]

/-- A stream is read back, with its fields if it has any. -/
theorem Named.read_toValue {input : InputStream} (named : input.Named) :
    InputStream.ofValue input.toValue = .ok input := by
  obtain ⟨component, stream, grouping, fields⟩ := input
  obtain ⟨s, rfl⟩ := named
  cases fields with
  | nil => simp [toValue, ofValue_map s grouping []]
  | cons field rest => simp [toValue, ofValue_map s grouping (field :: rest)]

end InputStream

/-- The streams of a declaration come from components with texts for names. -/
theorem DeclaredInputs.named_of_read {inputs : DeclaredInputs} {streams : List InputStream}
    (read : inputs.read = .ok streams) : ∀ input ∈ streams, input.Named := by
  cases inputs with
  | items given =>
      refine forall_mem_of_mapM_eq_ok read fun item _ input returned => ?_
      cases item with
      | stream component name grouping fields =>
          cases returned
          exact ⟨component, rfl⟩
      | stored data => exact InputStream.named_of_ofValue returned
  | value data =>
      obtain ⟨items, -, run⟩ := bind_eq_ok.mp read
      exact forall_mem_of_mapM_eq_ok run fun _ _ _ returned => InputStream.named_of_ofValue returned

theorem DeclaredInputs.read_toValue {streams : List InputStream}
    (named : ∀ input ∈ streams, input.Named) :
    (DeclaredInputs.value (.list (streams.map (·.toValue)))).read = .ok streams := by
  have run : (streams.map (·.toValue)).mapM InputStream.ofValue = .ok streams := by
    rw [mapM_eq_ok, List.forall₂_map_left_iff, List.forall₂_same]
    exact fun input member => (named input member).read_toValue
  cases streams with
  | nil => rfl
  | cons input rest => exact run

namespace Topology

/-! ### What calls keep -/

/-- A topology has texts for all that is written as text. -/
structure Storable (t : Topology) : Prop where
  key : ∃ s : Text, t.parallelismKey = .text s
  valid : t.validate = .ok ()
  spouts : ∀ s ∈ t.spouts, s.config.Textual
  bolts : ∀ b ∈ t.bolts, b.config.Textual
  inputs : ∀ b ∈ t.bolts, ∀ input ∈ b.inputs, input.Named

theorem Storable.settings {t : Topology} (storable : t.Storable) {parallelism config : Value}
    {written : Config} (run : t.settings parallelism config = .ok written) : written.Textual := by
  obtain ⟨read, found, ⟨-, rfl⟩ | ⟨-, hint, -, rfl⟩⟩ := settings_eq_ok.mp run
  · exact Config.textual_of_ofValue found
  · obtain ⟨key, keyed⟩ := storable.key
    rw [keyed]
    exact (Config.textual_of_ofValue found).append key hint

theorem Change.name {t next : Topology} (change : Change t next) : next.name = t.name := by
  cases change with
  | none | spout | bolt | setSpout | setBolt | addInput => rfl

/-- What is written as text has a text after every change. -/
theorem Change.storable {t next : Topology} (change : Change t next) (storable : t.Storable) :
    next.Storable := by
  have valid := change.validate storable.valid
  cases change with
  | none => exact storable
  | spout declared =>
      obtain ⟨-, settings, run, rfl⟩ := declaredSpout_eq_ok.mp declared
      exact
        { storable with
          valid
          spouts := forall_mem_snoc storable.spouts (storable.settings run) }
  | bolt declared =>
      obtain ⟨-, settings, run, streams, read, rfl⟩ := declaredBolt_eq_ok.mp declared
      exact
        { storable with
          valid
          bolts := forall_mem_snoc storable.bolts (storable.settings run)
          inputs := forall_mem_snoc storable.inputs (DeclaredInputs.named_of_read read) }
  | setSpout split written =>
      obtain ⟨config, set, ⟨⟩⟩ := bind_eq_ok.mp written
      exact
        { storable with
          valid
          spouts := forall_mem_changed storable.spouts split fun textual => textual.set set }
  | setBolt split written =>
      obtain ⟨config, set, ⟨⟩⟩ := bind_eq_ok.mp written
      exact
        { storable with
          valid
          bolts := forall_mem_changed storable.bolts split fun textual => textual.set set
          inputs := forall_mem_changed storable.inputs split id }
  | addInput split made =>
      exact
        { storable with
          valid
          bolts := forall_mem_changed storable.bolts split id
          inputs := forall_mem_changed storable.inputs split fun named =>
            forall_mem_snoc named (InputStream.named_of_make made) }

/-! ### Stored components -/

theorem change_addStoredSpout {t next : Topology} {data : Value}
    (added : (t.addStoredSpout data).outcome = .ok next) : Change t next := by
  simp only [addStoredSpout, Logged.outcome_bind, Logged.outcome_liftM, bind_eq_ok,
    outcome_addSpout, map_eq_ok] at added
  obtain ⟨name, -, entries, -, plain, -, _, ⟨s, declared, rfl⟩, ⟨⟩⟩ := added
  exact .spout declared

theorem change_addStoredBolt {t next : Topology} {data : Value}
    (added : (t.addStoredBolt data).outcome = .ok next) : Change t next := by
  simp only [addStoredBolt, Logged.outcome_bind, Logged.outcome_liftM, bind_eq_ok,
    outcome_addBolt, map_eq_ok] at added
  obtain ⟨name, -, entries, -, plain, -, _, ⟨b, declared, rfl⟩, ⟨⟩⟩ := added
  exact .bolt declared

theorem outcome_ofValue (data key : Value) :
    (ofValue data key).outcome = (do
      let entries ← data.asMapping
      let spouts ← ((entries.get? "spouts").getD (.list [])).walkIfTrue
      let t ← spouts.foldlM (fun t stored => (t.addStoredSpout stored).outcome)
        { name := (entries.get? "name").getD (.text "topology"), parallelismKey := key }
      let bolts ← ((entries.get? "bolts").getD (.list [])).walkIfTrue
      let t ← bolts.foldlM (fun t stored => (t.addStoredBolt stored).outcome) t
      let _ ← t.name.asPlain
      .ok t : Except Error Topology) := by
  simp only [ofValue, Logged.outcome_bind, Logged.outcome_liftM, Logged.outcome_foldlM,
    Logged.outcome_entry, Logged.outcome_pure, ok_bind]

/-- What is read from a stored topology has texts. -/
theorem storable_of_ofValue {data : Value} {key : Text} {t : Topology}
    (loaded : (ofValue data (.text key)).outcome = .ok t) : t.Storable ∧ t.name.HasText := by
  simp only [outcome_ofValue, bind_eq_ok] at loaded
  obtain ⟨entries, -, spouts, -, declared, spoutsAdded, bolts, -, _, boltsAdded, title, titled,
    ⟨⟩⟩ := loaded
  have begins : Storable
      { name := (Value.Entries.get? entries "name").getD (.text "topology"),
        parallelismKey := .text key } :=
    { key := ⟨key, rfl⟩
      valid := rfl
      spouts := List.forall_mem_nil _
      bolts := List.forall_mem_nil _
      inputs := List.forall_mem_nil _ }
  have half : declared.Storable := foldlM_invariant
    (fun _ _ _ _ kept added => (change_addStoredSpout added).storable kept) begins spoutsAdded
  have whole : t.Storable := foldlM_invariant
    (fun _ _ _ _ kept added => (change_addStoredBolt added).storable kept) half boltsAdded
  exact ⟨whole, title, titled⟩

/-! ### Reading back -/

/-- A name of a valid topology may be declared where the names are others. -/
theorem exists_declarable {t whole : Topology} {name : Value} {before after : List Value}
    (valid : whole.validate = .ok ()) (split : whole.componentNames = before ++ name :: after)
    (known : t.componentNames ⊆ before ++ after) :
    ∃ s : Text, name = .text s ∧ t.Declarable s := by
  obtain ⟨distinct, texts⟩ := validate_eq_ok.mp valid
  rw [split] at distinct texts
  obtain ⟨s, rfl, unreserved⟩ := texts name (by simp)
  have isNew := (List.nodup_cons.mp (List.nodup_middle.mp distinct)).1
  exact ⟨s, rfl, unreserved, fun member => isNew (known member)⟩

theorem outcome_addStoredSpout {t : Topology} {s : Spout} {name : Text}
    (named : s.name = .text name) (declarable : t.Declarable name)
    (textual : s.config.Textual) :
    (t.addStoredSpout s.toValue).outcome = .ok { t with spouts := t.spouts ++ [s] } := by
  have declared : t.declaredSpout (.text name) .null s.config.toValue = .ok s := by
    refine declaredSpout_eq_ok.mpr ⟨declarable, s.config, ?_, by rw [← named]⟩
    exact settings_eq_ok.mpr ⟨_, textual.read_toValue, .inl ⟨rfl, rfl⟩⟩
  simp [addStoredSpout, Spout.toValue, named, Value.require, Value.asMapping, Value.reveal, ok_bind,
    outcome_addSpout, declared, Except.map]

theorem outcome_addStoredBolt {t : Topology} {b : Bolt} {name : Text}
    (named : b.name = .text name) (declarable : t.Declarable name)
    (textual : b.config.Textual) (sources : ∀ input ∈ b.inputs, input.Named) :
    (t.addStoredBolt b.toValue).outcome = .ok { t with bolts := t.bolts ++ [b] } := by
  have declared : t.declaredBolt (.text name) .null b.config.toValue
      (.value (.list (b.inputs.map (·.toValue)))) = .ok b := by
    refine declaredBolt_eq_ok.mpr ⟨declarable, b.config, ?_, b.inputs, ?_, by rw [← named]⟩
    · exact settings_eq_ok.mpr ⟨_, textual.read_toValue, .inl ⟨rfl, rfl⟩⟩
    · exact DeclaredInputs.read_toValue sources
  simp [addStoredBolt, Bolt.toValue, named, Value.require, Value.asMapping, Value.reveal, ok_bind,
    outcome_addBolt, declared, Except.map]

/-- Stored spouts are declared one after the other, where their names stay different. -/
theorem foldlM_addStoredSpout {rest : List Spout} {t : Topology}
    (valid : { t with spouts := t.spouts ++ rest : Topology }.validate = .ok ())
    (textual : ∀ s ∈ rest, s.config.Textual) :
    (rest.map (·.toValue)).foldlM (fun t stored => (t.addStoredSpout stored).outcome) t =
      .ok { t with spouts := t.spouts ++ rest } := by
  induction rest generalizing t with
  | nil => simp [pure, Except.pure]
  | cons s rest inductionHypothesis =>
      have split : { t with spouts := t.spouts ++ s :: rest : Topology }.componentNames =
          t.spouts.map (·.name) ++ s.name :: (rest.map (·.name) ++ t.bolts.map (·.name)) := by
        simp [componentNames_eq]
      have known : t.componentNames ⊆
          t.spouts.map (·.name) ++ (rest.map (·.name) ++ t.bolts.map (·.name)) := by
        rw [componentNames_eq]
        exact ((List.sublist_append_right _ _).append_left _).subset
      obtain ⟨name, named, declarable⟩ := exists_declarable valid split known
      obtain ⟨first, later⟩ := List.forall_mem_cons.mp textual
      have regrouped : t.spouts ++ s :: rest = t.spouts ++ [s] ++ rest := by simp
      rw [List.map_cons, List.foldlM_cons, outcome_addStoredSpout named declarable first, ok_bind]
      rw [regrouped] at valid ⊢
      exact inductionHypothesis valid later

/-- Stored bolts are declared one after the other, where their names stay different. -/
theorem foldlM_addStoredBolt {rest : List Bolt} {t : Topology}
    (valid : { t with bolts := t.bolts ++ rest : Topology }.validate = .ok ())
    (textual : ∀ b ∈ rest, b.config.Textual)
    (sources : ∀ b ∈ rest, ∀ input ∈ b.inputs, input.Named) :
    (rest.map (·.toValue)).foldlM (fun t stored => (t.addStoredBolt stored).outcome) t =
      .ok { t with bolts := t.bolts ++ rest } := by
  induction rest generalizing t with
  | nil => simp [pure, Except.pure]
  | cons b rest inductionHypothesis =>
      have split : { t with bolts := t.bolts ++ b :: rest : Topology }.componentNames =
          t.componentNames ++ b.name :: rest.map (·.name) := by
        simp [componentNames_eq]
      have known : t.componentNames ⊆ t.componentNames ++ rest.map (·.name) :=
        List.subset_append_left _ _
      obtain ⟨name, named, declarable⟩ := exists_declarable valid split known
      obtain ⟨first, later⟩ := List.forall_mem_cons.mp textual
      obtain ⟨source, others⟩ := List.forall_mem_cons.mp sources
      have regrouped : t.bolts ++ b :: rest = t.bolts ++ [b] ++ rest := by simp
      rw [List.map_cons, List.foldlM_cons, outcome_addStoredBolt named declarable first source,
        ok_bind]
      rw [regrouped] at valid ⊢
      exact inductionHypothesis valid later others

theorem validate_of_spouts {t : Topology} (valid : t.validate = .ok ()) (key : Value) :
    { t with parallelismKey := key, bolts := [] : Topology }.validate = .ok () := by
  obtain ⟨distinct, texts⟩ := validate_eq_ok.mp valid
  have fewer : { t with parallelismKey := key, bolts := [] : Topology }.componentNames.Sublist
      t.componentNames := by
    simp [componentNames_eq]
  exact validate_eq_ok.mpr
    ⟨fewer.nodup distinct, fun name member => texts name (fewer.subset member)⟩

/-- The stored form of a topology is read back, under any key. -/
theorem Storable.outcome_ofValue {t : Topology} (storable : t.Storable) (titled : t.name.HasText)
    (key : Value) : (ofValue t.toValue key).outcome = .ok { t with parallelismKey := key } := by
  have spouts : (t.spouts.map (·.toValue)).foldlM
      (fun (t : Topology) stored => (t.addStoredSpout stored).outcome)
      { name := t.name, parallelismKey := key } =
        .ok { name := t.name, parallelismKey := key, spouts := t.spouts } :=
    foldlM_addStoredSpout (validate_of_spouts storable.valid key) storable.spouts
  have bolts : (t.bolts.map (·.toValue)).foldlM
      (fun (t : Topology) stored => (t.addStoredBolt stored).outcome)
      { name := t.name, parallelismKey := key, spouts := t.spouts } =
        .ok { t with parallelismKey := key } :=
    foldlM_addStoredBolt storable.valid storable.bolts storable.inputs
  obtain ⟨title, titled⟩ := titled
  simp [Topology.outcome_ofValue, toValue, Value.asMapping, Value.reveal, ok_bind,
    Value.walkIfTrue_list, spouts, bolts, titled]

/-! ### Topologies that can be made -/

/-- The topologies that can be made: new ones, those that are read, and what calls make of them. -/
inductive Reachable : Topology → Prop
  | new (name key : Text) : Reachable { name := .text name, parallelismKey := .text key }
  | ofValue {data : Value} {key : Text} {t : Topology}
      (loaded : (Topology.ofValue data (.text key)).outcome = .ok t) : Reachable t
  | step {t : Topology} (reached : Reachable t) (call : Call) : Reachable (t.step call).1

theorem Reachable.run {t : Topology} (reached : t.Reachable) (calls : List Call) :
    (t.run calls).Reachable := by
  induction calls generalizing t with
  | nil => exact reached
  | cons call rest inductionHypothesis => exact inductionHypothesis (reached.step call)

/-- What can be made can be stored. -/
theorem Reachable.storable {t : Topology} (reached : t.Reachable) :
    t.Storable ∧ t.name.HasText := by
  induction reached with
  | new name key =>
      refine ⟨⟨⟨key, rfl⟩, rfl, ?_, ?_, ?_⟩, ⟨name, rfl⟩⟩
      all_goals exact List.forall_mem_nil _
  | ofValue loaded => exact storable_of_ofValue loaded
  | @step t _ call inductionHypothesis =>
      obtain ⟨storable, titled⟩ := inductionHypothesis
      have change := step_change t call
      exact ⟨change.storable storable, change.name ▸ titled⟩

/-- A topology is read back from its stored form as it was, and with it its expansions; under
another key the stored form stays the same. -/
theorem ofValue_toValue {t : Topology} (reached : t.Reachable) :
    (ofValue t.toValue t.parallelismKey).outcome = .ok t ∧
      (∀ key, (ofValue t.toValue key).outcome.map toValue = .ok t.toValue) ∧
      ∀ reloaded, (ofValue t.toValue t.parallelismKey).outcome = .ok reloaded →
        ∀ key, (∀ labels, expand reloaded key labels = expand t key labels) ∧
          expectedCounts reloaded key = expectedCounts t key := by
  obtain ⟨storable, titled⟩ := reached.storable
  have readBack := storable.outcome_ofValue titled
  refine ⟨readBack t.parallelismKey, fun key => ?_, fun reloaded loaded key => ?_⟩
  · rw [readBack key]
    rfl
  · rw [readBack t.parallelismKey] at loaded
    cases loaded
    exact ⟨fun _ => rfl, rfl⟩

/-- A bolt with two settings that reads the fields of one stream, and another stream that is
declared later. -/
def wordCount : Topology :=
  run { name := .text "words", parallelismKey := .text "p" }
    [.addSpout "lines" (.int 2) .null,
      .addBolt "count" (.int 3) (.map [(.text "limit", .int 10)])
        (.items [.stored (.map [(.text "source", .text "lines"), (.text "grouping", .text "fields"),
          (.text "fields", .list [.text "word"])])]),
      .addBolt "lines" .null .null (.items []),
      .set "count" "p" (.int 4),
      .addInput "count" "count" .global (.text "ticks") .null]

theorem ofValue_toValue_wordCount :
    wordCount.Reachable ∧
      wordCount.bolts.map (fun b => (b.config.length, b.inputs.length)) = [(3, 2)] ∧
      (ofValue wordCount.toValue wordCount.parallelismKey).outcome = .ok wordCount := by
  have reached : wordCount.Reachable := (Reachable.new "words" "p").run _
  exact ⟨reached, by decide +kernel, (ofValue_toValue reached).1⟩

end Topology

end TaskGraph
