/-
Module: TaskGraph.Proofs.Topology.Registration
Purpose: What holds of a topology after any calls, also where some of them failed: its components
  have different names, so that it is valid and every name resolves; and calls that fail leave it
  as it was.
Main exports:
  Topology.Declarable, Topology.Change, Topology.step_change, Topology.Change.validate,
  Topology.Registered, Topology.run_registered
-/
import TaskGraph.Proofs.Expansion.Names
import TaskGraph.Proofs.Failure
import TaskGraph.Proofs.Topology.Reading
import TaskGraph.Topology.Call

namespace TaskGraph

/-! ### Names -/

/-- A test that always has an answer finds what the answers say. -/
theorem findM?_ok {ε α : Type} {test : α → Bool} {xs : List α} :
    xs.findM? (fun x => (.ok (test x) : Except ε Bool)) = .ok (xs.find? test) := by
  induction xs with
  | nil => rfl
  | cons x rest inductionHypothesis =>
      rw [List.findM?, ok_bind, List.find?_cons]
      cases test x with
      | true => rfl
      | false => exact inductionHypothesis

theorem faultOf?_checkCharacters (s : Text) : faultOf? (checkCharacters (.text s)) =
    (reservedCharacters.find? fun c => Symbol.char c ∈ s.toList).map
      (.reservedCharacter · (.text s)) := by
  have tested : nameContains (.text s) = fun c => .ok (decide (Symbol.char c ∈ s.toList)) := by
    funext c
    rw [nameContains, List.any_beq', List.contains_eq_mem]
  rw [checkCharacters, tested, findM?_ok, ok_bind]
  cases reservedCharacters.find? fun c => Symbol.char c ∈ s.toList with
  | none => rfl
  | some c => rfl

namespace Topology

/-- A name that a component may still be declared under. -/
def Declarable (t : Topology) (name : Text) : Prop :=
  name.Unreserved ∧ Value.text name ∉ t.componentNames

theorem any_equal_text {α : Type} {xs : List α} {nameOf : α → Value} {name : Text} :
    (xs.any fun x => (nameOf x).equal (.text name)) = true ↔ Value.text name ∈ xs.map nameOf := by
  simp only [List.any_eq_true, Value.equal_text_iff, List.mem_map]

theorem componentNames_eq (t : Topology) :
    t.componentNames = t.spouts.map (·.name) ++ t.bolts.map (·.name) := by
  simp only [componentNames, components, List.map_append, List.map_map]
  rfl

theorem checkName_eq_ok {t : Topology} {name : Text} :
    t.checkName (.text name) = .ok () ↔ t.Declarable name := by
  rw [checkName, check_bind_eq_ok, checkCharacters_text, Declarable, componentNames_eq,
    List.mem_append, ← any_equal_text, ← any_equal_text, not_or]
  cases t.bolts.any fun b => b.name.equal (.text name) with
  | true => simp
  | false =>
      cases t.spouts.any fun s => s.name.equal (.text name) with
      | true => simp
      | false => simp

/-! ### Resolving -/

theorem resolve?_eq_find? (t : Topology) (name : Value) :
    t.resolve? name = t.components.find? (·.name.equal name) := by
  rw [components, List.find?_append, List.find?_map, List.find?_map, resolve?]
  change _ = ((t.spouts.find? (·.name.equal name)).map Component.spout).or
    ((t.bolts.find? (·.name.equal name)).map Component.bolt)
  cases t.spouts.find? (·.name.equal name) with
  | none => rfl
  | some s => rfl

/-- Where components have different texts for names, the name of a component resolves to the
component. -/
theorem resolve?_of_distinct {t : Topology} (distinct : t.componentNames.Nodup)
    (texts : ∀ name ∈ t.componentNames, ∃ s : Text, name = .text s) {c : Component}
    (member : c ∈ t.components) : t.resolve? c.name = some c := by
  obtain ⟨s, named⟩ := texts c.name (name_mem_componentNames member)
  cases resolved : t.resolve? c.name with
  | none =>
      rw [resolve?_eq_find?, List.find?_eq_none] at resolved
      refine absurd ?_ (resolved c member)
      rw [named, Value.equal_text_iff]
  | some d =>
      obtain ⟨inside, same⟩ := mem_of_resolve?_eq_some resolved
      rw [named, Value.equal_text_iff, ← named] at same
      rw [List.inj_on_of_nodup_map distinct inside member same]

section Valid

variable {t : Topology} (valid : t.validate = .ok ())

include valid

/-- The name of a component resolves to the component. -/
theorem resolve?_name {c : Component} (member : c ∈ t.components) :
    t.resolve? c.name = some c := by
  obtain ⟨distinct, texts⟩ := validate_eq_ok.mp valid
  refine resolve?_of_distinct distinct (fun name inside => ?_) member
  obtain ⟨s, named, -⟩ := texts name inside
  exact ⟨s, named⟩

/-- No other name resolves to anything. -/
theorem resolve?_eq_none {name : Value} (other : name ∉ t.componentNames) :
    t.resolve? name = none := by
  rw [resolve?_eq_find?, List.find?_eq_none]
  intro c member same
  obtain ⟨s, named⟩ := exists_name_eq_text valid member
  rw [named, Value.text_equal_iff, ← named] at same
  exact other (same ▸ name_mem_componentNames member)

end Valid

/-! ### Declarations -/

section Declarations

variable {t : Topology} {name : Text} {parallelism config : Value}

/-- The hint, if it is there, is written after the configuration. -/
theorem settings_eq_ok {settings : Config} : t.settings parallelism config = .ok settings ↔
    ∃ written, Config.ofValue config = .ok written ∧
      (parallelism = .null ∧ settings = written ∨ parallelism ≠ .null ∧
        ∃ hint, parallelism.asPlain = .ok hint ∧
          settings = written ++ [.entry t.parallelismKey (.text hint)]) := by
  rw [Topology.settings, bind_eq_ok]
  refine exists_congr fun written => and_congr_right fun _ => ?_
  split
  · simp [eq_comm]
  · rename_i present
    have absent : ¬parallelism = .null := present
    simp only [absent, Config.set, bind_eq_ok, Except.ok.injEq, false_and, false_or, ne_eq,
      not_false_iff, true_and, eq_comm (a := settings)]

/-- A hint that is left out has a text as well. -/
theorem exists_settings_eq_ok : (∃ settings, t.settings parallelism config = .ok settings) ↔
    Config.WellFormed config ∧ parallelism.HasText := by
  simp only [← Config.exists_ofValue_eq_ok, settings_eq_ok]
  constructor
  · intro given
    obtain ⟨_, written, read, ⟨rfl, -⟩ | ⟨-, hint, shown, -⟩⟩ := given
    · exact ⟨⟨written, read⟩, ⟨_, rfl⟩⟩
    · exact ⟨⟨written, read⟩, ⟨hint, shown⟩⟩
  · intro given
    obtain ⟨⟨written, read⟩, ⟨hint, shown⟩⟩ := given
    by_cases absent : parallelism = .null
    · exact ⟨_, written, read, .inl ⟨absent, rfl⟩⟩
    · exact ⟨_, written, read, .inr ⟨absent, hint, shown, rfl⟩⟩

theorem declaredSpout_eq_ok {s : Spout} :
    t.declaredSpout (.text name) parallelism config = .ok s ↔ t.Declarable name ∧
      ∃ settings, t.settings parallelism config = .ok settings ∧
        s = { name := .text name, config := settings } := by
  rw [declaredSpout, check_bind_eq_ok, checkName_eq_ok]
  simp only [bind_eq_ok, Except.ok.injEq, eq_comm (a := s)]

theorem declaredBolt_eq_ok {inputs : DeclaredInputs} {b : Bolt} :
    t.declaredBolt (.text name) parallelism config inputs = .ok b ↔ t.Declarable name ∧
      ∃ settings, t.settings parallelism config = .ok settings ∧
        ∃ streams, inputs.read = .ok streams ∧
          b = { name := .text name, config := settings, inputs := streams } := by
  rw [declaredBolt, check_bind_eq_ok, checkName_eq_ok]
  simp only [bind_eq_ok, Except.ok.injEq, eq_comm (a := b)]

theorem outcome_addSpout :
    (t.addSpout (.text name) parallelism config).outcome =
      (t.declaredSpout (.text name) parallelism config).map
        fun s => ({ t with spouts := t.spouts ++ [s] }, s) := by
  rw [addSpout, Logged.outcome_bind, Logged.outcome_liftM]
  cases t.declaredSpout (.text name) parallelism config with
  | error e => rfl
  | ok s => rfl

theorem outcome_addBolt {inputs : DeclaredInputs} :
    (t.addBolt (.text name) parallelism config inputs).outcome =
      (t.declaredBolt (.text name) parallelism config inputs).map
        fun b => ({ t with bolts := t.bolts ++ [b] }, b) := by
  rw [addBolt, Logged.outcome_bind, Logged.outcome_liftM]
  cases t.declaredBolt (.text name) parallelism config inputs with
  | error e => rfl
  | ok b => rfl

end Declarations

/-! ### Changes in a list -/

/-- One item that passes the test is changed, if there is one. -/
theorem modifyFirst_eq_ok {α : Type} {test : α → Bool} {change : α → Except Error α}
    {xs ys : List α} (run : modifyFirst test change xs = .ok ys) :
    ys = xs ∨ ∃ before x y after, xs = before ++ x :: after ∧ change x = .ok y ∧
      ys = before ++ y :: after := by
  induction xs generalizing ys with
  | nil =>
      cases run
      exact .inl rfl
  | cons x rest inductionHypothesis =>
      rw [modifyFirst] at run
      split at run
      · obtain ⟨y, changed, rfl⟩ := map_eq_ok.mp run
        exact .inr ⟨[], x, y, rest, rfl, changed, rfl⟩
      · obtain ⟨others, later, rfl⟩ := map_eq_ok.mp run
        rcases inductionHypothesis later with rfl | ⟨before, z, y, after, rfl, changed, rfl⟩
        · exact .inl rfl
        · exact .inr ⟨x :: before, z, y, after, rfl, changed, rfl⟩

/-! ### One call -/

/-- What a call does to a topology: it does nothing, declares a component at the end of its list,
or changes one component where it stands. -/
inductive Change (t : Topology) : Topology → Prop
  | none : Change t t
  | spout {name : Text} {parallelism config : Value} {s : Spout}
      (declared : t.declaredSpout (.text name) parallelism config = .ok s) :
      Change t { t with spouts := t.spouts ++ [s] }
  | bolt {name : Text} {parallelism config : Value} {inputs : DeclaredInputs} {b : Bolt}
      (declared : t.declaredBolt (.text name) parallelism config inputs = .ok b) :
      Change t { t with bolts := t.bolts ++ [b] }
  | setSpout {before after : List Spout} {s changed : Spout} {key : Text} {value : Value}
      (split : t.spouts = before ++ s :: after) (written : s.set (.text key) value = .ok changed) :
      Change t { t with spouts := before ++ changed :: after }
  | setBolt {before after : List Bolt} {b changed : Bolt} {key : Text} {value : Value}
      (split : t.bolts = before ++ b :: after) (written : b.set (.text key) value = .ok changed) :
      Change t { t with bolts := before ++ changed :: after }
  | addInput {before after : List Bolt} {b : Bolt} {source : Text} {grouping : Grouping}
      {stream fields : Value} {input : InputStream}
      (split : t.bolts = before ++ b :: after)
      (made : InputStream.make (.text source) grouping stream fields = .ok input) :
      Change t { t with bolts := before ++ b.addInput input :: after }

theorem change_set {t next : Topology} {name : Value} {key : Text} {value : Value}
    (run : t.set name (.text key) value = .ok next) : Change t next := by
  unfold Topology.set at run
  split at run
  · obtain ⟨spouts, changed, ⟨⟩⟩ := bind_eq_ok.mp run
    rcases modifyFirst_eq_ok changed with rfl | ⟨before, s, s', after, split, written, rfl⟩
    · exact .none
    · exact .setSpout split written
  · obtain ⟨bolts, changed, ⟨⟩⟩ := bind_eq_ok.mp run
    rcases modifyFirst_eq_ok changed with rfl | ⟨before, b, b', after, split, written, rfl⟩
    · exact .none
    · exact .setBolt split written
  · cases run
    exact .none

theorem change_addInput {t next : Topology} {name : Value} {source : Text} {grouping : Grouping}
    {stream fields : Value} {input : InputStream}
    (made : InputStream.make (.text source) grouping stream fields = .ok input)
    (added : t.addInput name input = .ok next) : Change t next := by
  unfold Topology.addInput at added
  split at added
  · obtain ⟨bolts, changed, ⟨⟩⟩ := bind_eq_ok.mp added
    rcases modifyFirst_eq_ok changed with rfl | ⟨before, b, b', after, split, ⟨⟩, rfl⟩
    · exact .none
    · exact .addInput split made
  · cases added
    exact .none

theorem step_change (t : Topology) (call : Call) : Change t (t.step call).1 := by
  cases call with
  | addSpout name parallelism config =>
      rw [step, outcome_addSpout]
      cases declared : t.declaredSpout (.text name) parallelism config with
      | error e => exact .none
      | ok s => exact .spout declared
  | addBolt name parallelism config inputs =>
      rw [step, outcome_addBolt]
      cases declared : t.declaredBolt (.text name) parallelism config inputs with
      | error e => exact .none
      | ok b => exact .bolt declared
  | set name key value =>
      rw [step]
      cases written : t.setting name key value with
      | error e => exact .none
      | ok result =>
          obtain ⟨next, set, returned⟩ := bind_eq_ok.mp written
          split at returned
          · cases returned
            exact change_set set
          · cases returned
  | addInput bolt source grouping stream fields =>
      rw [step]
      cases added : t.reading bolt source grouping stream fields with
      | error e => exact .none
      | ok result =>
          unfold reading at added
          split at added
          · simp only [bind_eq_ok] at added
            obtain ⟨input, made, next, added, ⟨⟩⟩ := added
            exact change_addInput made added
          · cases added

/-! ### Names after a call -/

theorem name_of_setSpout {s changed : Spout} {key value : Value}
    (written : s.set key value = .ok changed) : changed.name = s.name := by
  obtain ⟨config, -, ⟨⟩⟩ := bind_eq_ok.mp written
  rfl

theorem name_of_setBolt {b changed : Bolt} {key value : Value}
    (written : b.set key value = .ok changed) : changed.name = b.name := by
  obtain ⟨config, -, ⟨⟩⟩ := bind_eq_ok.mp written
  rfl

/-- A name that may be declared keeps a topology valid, wherever it is put. -/
theorem validate_of_declarable {t next : Topology} {name : Text} (declarable : t.Declarable name)
    (names : next.componentNames.Perm (.text name :: t.componentNames))
    (valid : t.validate = .ok ()) : next.validate = .ok () := by
  obtain ⟨distinct, texts⟩ := validate_eq_ok.mp valid
  refine validate_eq_ok.mpr ⟨?_, fun other member => ?_⟩
  · exact names.nodup_iff.mpr (List.nodup_cons.mpr ⟨declarable.2, distinct⟩)
  · rcases List.mem_cons.mp (names.mem_iff.mp member) with rfl | earlier
    · exact ⟨name, rfl, declarable.1⟩
    · exact texts other earlier

theorem validate_of_names {t next : Topology} (names : next.componentNames = t.componentNames)
    (valid : t.validate = .ok ()) : next.validate = .ok () := by
  rw [validate, names]
  exact valid

/-- A topology stays valid. -/
theorem Change.validate {t next : Topology} (change : Change t next)
    (valid : t.validate = .ok ()) : next.validate = .ok () := by
  cases change with
  | none => exact valid
  | spout declared =>
      obtain ⟨declarable, _, -, rfl⟩ := declaredSpout_eq_ok.mp declared
      refine validate_of_declarable declarable ?_ valid
      simp [componentNames_eq]
  | bolt declared =>
      obtain ⟨declarable, _, -, _, -, rfl⟩ := declaredBolt_eq_ok.mp declared
      refine validate_of_declarable declarable ?_ valid
      simp only [componentNames_eq, List.map_append, List.map_cons, List.map_nil,
        ← List.append_assoc]
      exact List.perm_append_singleton _ _
  | setSpout split written =>
      refine validate_of_names ?_ valid
      simp [componentNames_eq, split, name_of_setSpout written]
  | setBolt split written =>
      refine validate_of_names ?_ valid
      simp [componentNames_eq, split, name_of_setBolt written]
  | addInput split made =>
      refine validate_of_names ?_ valid
      simp [componentNames_eq, split, Bolt.addInput]

/-- What every change keeps holds after calls. -/
theorem run_invariant {Kept : Topology → Prop}
    (kept : ∀ {t next}, Change t next → Kept t → Kept next) (calls : List Call) {t : Topology}
    (begins : Kept t) : Kept (t.run calls) := by
  induction calls generalizing t with
  | nil => exact begins
  | cons call rest inductionHypothesis =>
      exact inductionHypothesis (kept (step_change t call) begins)

/-! ### What holds after all calls -/

section Declaring

variable {t : Topology} {name : Text} {parallelism config : Value} {inputs : DeclaredInputs}
  {c : Component}

theorem snd_step_addSpout_eq_ok :
    (t.step (.addSpout name parallelism config)).2 = .ok c ↔
      ∃ s, t.declaredSpout (.text name) parallelism config = .ok s ∧ c = .spout s := by
  rw [step, snd_settle_eq_ok, outcome_addSpout]
  cases t.declaredSpout (.text name) parallelism config with
  | error e => simp [Except.map]
  | ok s => simp [Except.map, eq_comm]

theorem snd_step_addBolt_eq_ok :
    (t.step (.addBolt name parallelism config inputs)).2 = .ok c ↔
      ∃ b, t.declaredBolt (.text name) parallelism config inputs = .ok b ∧ c = .bolt b := by
  rw [step, snd_settle_eq_ok, outcome_addBolt]
  cases t.declaredBolt (.text name) parallelism config inputs with
  | error e => simp [Except.map]
  | ok b => simp [Except.map, eq_comm]

theorem fst_step_addSpout_of_ok (added : (t.step (.addSpout name parallelism config)).2 = .ok c) :
    ∃ s : Spout, s.name = .text name ∧ c = .spout s ∧
      (t.step (.addSpout name parallelism config)).1 = { t with spouts := t.spouts ++ [s] } := by
  obtain ⟨s, declared, rfl⟩ := snd_step_addSpout_eq_ok.mp added
  refine ⟨s, ?_, rfl, ?_⟩
  · obtain ⟨-, _, -, rfl⟩ := declaredSpout_eq_ok.mp declared
    rfl
  · rw [step, outcome_addSpout, declared]
    rfl

theorem fst_step_addBolt_of_ok
    (added : (t.step (.addBolt name parallelism config inputs)).2 = .ok c) :
    ∃ b : Bolt, b.name = .text name ∧ c = .bolt b ∧
      (t.step (.addBolt name parallelism config inputs)).1 =
        { t with bolts := t.bolts ++ [b] } := by
  obtain ⟨b, declared, rfl⟩ := snd_step_addBolt_eq_ok.mp added
  refine ⟨b, ?_, rfl, ?_⟩
  · obtain ⟨-, _, -, _, -, rfl⟩ := declaredBolt_eq_ok.mp declared
    rfl
  · rw [step, outcome_addBolt, declared]
    rfl

theorem exists_step_addSpout_eq_ok :
    (∃ c, (t.step (.addSpout name parallelism config)).2 = .ok c) ↔
      t.Declarable name ∧ Config.WellFormed config ∧ parallelism.HasText := by
  simp only [snd_step_addSpout_eq_ok, declaredSpout_eq_ok]
  rw [← exists_settings_eq_ok (t := t)]
  constructor
  · intro added
    obtain ⟨_, _, ⟨declarable, settings, read, -⟩, -⟩ := added
    exact ⟨declarable, settings, read⟩
  · intro given
    obtain ⟨declarable, settings, read⟩ := given
    exact ⟨_, _, ⟨declarable, settings, read, rfl⟩, rfl⟩

theorem exists_step_addBolt_eq_ok :
    (∃ c, (t.step (.addBolt name parallelism config inputs)).2 = .ok c) ↔
      t.Declarable name ∧ Config.WellFormed config ∧ parallelism.HasText ∧ inputs.WellFormed := by
  simp only [snd_step_addBolt_eq_ok, declaredBolt_eq_ok, ← DeclaredInputs.exists_read_eq_ok]
  rw [← and_assoc (a := Config.WellFormed config), ← exists_settings_eq_ok (t := t)]
  constructor
  · intro added
    obtain ⟨_, _, ⟨declarable, settings, written, streams, read, -⟩, -⟩ := added
    exact ⟨declarable, ⟨settings, written⟩, streams, read⟩
  · intro given
    obtain ⟨declarable, ⟨settings, written⟩, streams, read⟩ := given
    exact ⟨_, _, ⟨declarable, settings, written, streams, read, rfl⟩, rfl⟩

end Declaring

/-- A call that fails leaves the topology as it was. -/
theorem fst_step_of_error {t : Topology} {call : Call} {e : Error}
    (failed : (t.step call).2 = .error e) : (t.step call).1 = t := by
  cases call with
  | addSpout | addBolt | set | addInput => exact settle_of_error failed

/-- The names of a topology are in order, and it takes another component exactly where they stay
so. -/
structure Registered (t : Topology) : Prop where
  distinct : t.componentNames.Nodup
  named : ∀ name ∈ t.componentNames, ∃ s : Text, name = .text s ∧ s.Unreserved
  valid : t.validate = .ok ()
  resolved : ∀ c ∈ t.components, t.resolve? c.name = some c
  unresolved : ∀ name, name ∉ t.componentNames → t.resolve? name = .none
  addsSpout : ∀ name parallelism config,
    (∃ c, (t.step (.addSpout name parallelism config)).2 = .ok c) ↔
      t.Declarable name ∧ Config.WellFormed config ∧ parallelism.HasText
  addsBolt : ∀ name parallelism config inputs,
    (∃ c, (t.step (.addBolt name parallelism config inputs)).2 = .ok c) ↔
      t.Declarable name ∧ Config.WellFormed config ∧ parallelism.HasText ∧ inputs.WellFormed
  spoutAdded : ∀ name parallelism config c,
    (t.step (.addSpout name parallelism config)).2 = .ok c →
      ∃ s : Spout, s.name = .text name ∧ c = .spout s ∧
        (t.step (.addSpout name parallelism config)).1 = { t with spouts := t.spouts ++ [s] }
  boltAdded : ∀ name parallelism config inputs c,
    (t.step (.addBolt name parallelism config inputs)).2 = .ok c →
      ∃ b : Bolt, b.name = .text name ∧ c = .bolt b ∧
        (t.step (.addBolt name parallelism config inputs)).1 = { t with bolts := t.bolts ++ [b] }
  kept : ∀ call e, (t.step call).2 = .error e → (t.step call).1 = t

/-- After any calls on a topology that starts without components, its names are in order. -/
theorem run_registered (name parallelismKey : Value) (calls : List Call) :
    (run { name, parallelismKey } calls).Registered := by
  have valid : (run { name, parallelismKey } calls).validate = .ok () :=
    run_invariant Change.validate calls rfl
  exact {
    distinct := (validate_eq_ok.mp valid).1
    named := (validate_eq_ok.mp valid).2
    valid
    resolved := fun c member => resolve?_name valid member
    unresolved := fun other unknown => resolve?_eq_none valid unknown
    addsSpout := fun _ _ _ => exists_step_addSpout_eq_ok
    addsBolt := fun _ _ _ _ => exists_step_addBolt_eq_ok
    spoutAdded := fun _ _ _ _ added => fst_step_addSpout_of_ok added
    boltAdded := fun _ _ _ _ _ added => fst_step_addBolt_of_ok added
    kept := fun _ _ failed => fst_step_of_error failed }

end Topology

end TaskGraph
