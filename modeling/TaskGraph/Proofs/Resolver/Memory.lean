/-
Module: TaskGraph.Proofs.Resolver.Memory
Purpose: What a resolver answers that is kept while its topology changes: for every name what was
  first read for it, as soon as something was, and until then what the topology says.
Main exports:
  Resolver.Session.ask_eq, Resolver.Session.firstRead?, Resolver.Session.known?_run,
  Resolver.Session.Remembering, Resolver.Session.run_remembering
-/
import TaskGraph.Proofs.Expansion.Direct
import TaskGraph.Proofs.Topology.Registration
import TaskGraph.Resolver.Session

namespace TaskGraph

/-! ### Names that stay -/

namespace Topology

theorem isSome_resolve?_iff {t : Topology} {name : Text} :
    (t.resolve? (.text name)).isSome = true ↔ Value.text name ∈ t.componentNames := by
  rw [resolve?_eq_find?, List.find?_isSome, componentNames, ← any_equal_text, List.any_eq_true]

theorem Change.mem_names {t next : Topology} (change : Change t next) {name : Value}
    (member : name ∈ t.componentNames) : name ∈ next.componentNames := by
  have names : next.componentNames = t.componentNames ∨
      ∃ new, next.componentNames.Perm (new :: t.componentNames) := by
    cases change with
    | none => exact .inl rfl
    | @spout _ _ _ s declared => exact .inr ⟨s.name, by simp [componentNames_eq]⟩
    | @bolt _ _ _ _ b declared =>
        refine .inr ⟨b.name, ?_⟩
        simp only [componentNames_eq, List.map_append, List.map_cons, List.map_nil,
          ← List.append_assoc]
        exact List.perm_append_singleton _ _
    | setSpout split written =>
        exact .inl (by simp [componentNames_eq, split, name_of_setSpout written])
    | setBolt split written =>
        exact .inl (by simp [componentNames_eq, split, name_of_setBolt written])
    | addInput split made => exact .inl (by simp [componentNames_eq, split, Bolt.addInput])
  rcases names with same | ⟨new, more⟩
  · exact same ▸ member
  · exact more.mem_iff.mpr (List.mem_cons_of_mem _ member)

theorem map_name_modifyAt {α : Type} {nameOf : α → Value} {place : Nat}
    {change : α → Except Error α} {items changed : List α}
    (keeps : ∀ item next, change item = .ok next → nameOf next = nameOf item)
    (run : modifyAt place change items = .ok changed) :
    changed.map nameOf = items.map nameOf := by
  unfold modifyAt at run
  split at run
  · rename_i item found
    obtain ⟨next, written, rfl⟩ := map_eq_ok.mp run
    obtain ⟨inside, rfl⟩ := List.getElem?_eq_some_iff.mp found
    have bound : place < (items.map nameOf).length := by rwa [List.length_map]
    have same : nameOf items[place] = (items.map nameOf)[place] := (List.getElem_map _).symm
    rw [List.map_set, keeps _ next written, same, List.set_getElem_self]
  · cases run
    rfl

/-- Names are never given up. -/
theorem mem_names_alter {t : Topology} {name : Value} (member : name ∈ t.componentNames)
    (alteration : Alteration) : name ∈ (t.alter alteration).componentNames := by
  cases alteration with
  | call call => exact (step_change t call).mem_names member
  | append component =>
      rw [componentNames_eq, List.mem_append] at member
      cases component with
      | spout s => simp only [alter, componentNames_eq, List.map_append, List.mem_append]; tauto
      | bolt b => simp only [alter, componentNames_eq, List.map_append, List.mem_append]; tauto
  | setAt kind place key value =>
      rw [componentNames_eq] at member
      cases kind with
      | spout =>
          rw [alter]
          split
          · rename_i spouts changed
            rw [componentNames_eq, map_name_modifyAt (fun _ _ => name_of_setSpout) changed]
            exact member
          · rwa [componentNames_eq]
      | bolt =>
          rw [alter]
          split
          · rename_i bolts changed
            rw [componentNames_eq, map_name_modifyAt (fun _ _ => name_of_setBolt) changed]
            exact member
          · rwa [componentNames_eq]

/-- What can be read of a name. -/
def read? (t : Topology) (name : Text) (key : Value) : Option Nat :=
  (t.resolve? (.text name)).bind fun c => (parallelismOf c key).toOption

end Topology

namespace Resolver.Session

/-! ### One question -/

/-- A question for a name that is not declared is answered with zero, one for a name that is
remembered with what is remembered, and any other one by reading the settings, which are then
remembered if they could be read. -/
theorem ask_eq (s : Session) (name : Text) :
    s.ask name =
      match s.topology.resolve? (.text name), s.known? name with
      | none, _ => (s, .ok 0)
      | some _, some n => (s, .ok n)
      | some c, none =>
        match parallelismOf c s.resolver.key with
        | .ok n =>
          ({ s with resolver := { s.resolver with known := (.text name, n) :: s.resolver.known } },
            .ok n)
        | .error e => (s, .error e) := by
  rw [ask, Resolver.parallelismByName]
  cases resolved : s.topology.resolve? (.text name) with
  | none => rfl
  | some c =>
      have named := Value.equal_text_iff.mp (Topology.mem_of_resolve?_eq_some resolved).2
      have keyed : c.name.asKey = .ok (.text name) := by rw [named]; rfl
      simp only [Resolver.parallelism, keyed, Logged.outcome_bind, Logged.outcome_liftM, ok_bind,
        known?]
      cases s.resolver.known.lookup (.text name) with
      | some n => rfl
      | none =>
          simp only [Logged.outcome_bind, Logged.outcome_liftM, Logged.outcome_entry,
            Logged.outcome_pure]
          cases parallelismOf c s.resolver.key with
          | error e => rfl
          | ok n => rfl

/-- The answer is decided by the topology, by what is remembered of the name, and by the key. -/
theorem snd_ask (s : Session) (name : Text) :
    (s.ask name).2 =
      match s.topology.resolve? (.text name), s.known? name with
      | none, _ => .ok 0
      | some _, some n => .ok n
      | some c, none => parallelismOf c s.resolver.key := by
  rw [ask_eq]
  cases s.topology.resolve? (.text name) with
  | none => rfl
  | some c =>
      cases s.known? name with
      | some n => rfl
      | none => cases read : parallelismOf c s.resolver.key <;> simp [read]

theorem snd_ask_eq_map (s : Session) (name : Text) :
    (s.ask name).2 =
      (s.resolver.parallelismByName s.topology (.text name)).outcome.map Prod.fst := by
  rw [ask]
  cases (s.resolver.parallelismByName s.topology (.text name)).outcome with
  | error e => rfl
  | ok result => rfl

/-- A question changes nothing but what is remembered. -/
theorem topology_ask (s : Session) (name : Text) : (s.ask name).1.topology = s.topology := rfl

theorem key_ask (s : Session) (name : Text) : (s.ask name).1.resolver.key = s.resolver.key := by
  rw [ask_eq]
  split
  · rfl
  · rfl
  · split <;> rfl

/-- What is remembered of a name after a question: what was remembered of it before, or else what
could be read, if it is this name that was asked for. -/
theorem known?_ask (s : Session) (other name : Text) :
    (s.ask other).1.known? name =
      (s.known? name).or
        (if other = name then s.topology.read? name s.resolver.key else none) := by
  rw [ask_eq, Topology.read?]
  by_cases same : other = name
  · subst same
    rw [if_pos rfl]
    cases s.topology.resolve? (.text other) with
    | none => simp
    | some c =>
        cases known : s.known? other with
        | some n => simpa using known
        | none =>
            cases read : parallelismOf c s.resolver.key with
            | error e => simpa [read, Except.toOption] using known
            | ok n => simp [known?, Except.toOption, read]
  · rw [if_neg same, Option.or_none]
    split
    · rfl
    · rfl
    · split
      · have differ : (Key.text name == Key.text other) = false := by simpa using Ne.symm same
        rw [known?, List.lookup_cons, differ]
        rfl
      · rfl

/-- A question that fails changes nothing. -/
theorem fst_ask_of_error {s : Session} {name : Text} {e : Error}
    (failed : (s.ask name).2 = .error e) : (s.ask name).1 = s := by
  rw [ask_eq] at failed ⊢
  split at failed
  · cases failed
  · cases failed
  · split at failed
    · cases failed
    · rfl

/-! ### Many events -/

/-- The topology after the changes among some events. -/
def follow (t : Topology) (events : List Event) : Topology :=
  events.foldl
    (fun t event =>
      match event with
      | .change alteration => t.alter alteration
      | .query _ => t)
    t

/-- What the first question for a name reads that can be answered from the settings. -/
def firstRead? (key : Value) (name : Text) (t : Topology) : List Event → Option Nat
  | [] => none
  | .change alteration :: rest => firstRead? key name (t.alter alteration) rest
  | .query other :: rest =>
    (if other = name then t.read? name key else none).or (firstRead? key name t rest)

theorem topology_run (s : Session) (events : List Event) :
    (s.run events).topology = follow s.topology events := by
  induction events generalizing s with
  | nil => rfl
  | cons event rest inductionHypothesis =>
      cases event with
      | change alteration => exact inductionHypothesis _
      | query name => exact inductionHypothesis (s.ask name).1

theorem key_run (s : Session) (events : List Event) :
    (s.run events).resolver.key = s.resolver.key := by
  induction events generalizing s with
  | nil => rfl
  | cons event rest inductionHypothesis =>
      cases event with
      | change alteration => exact inductionHypothesis _
      | query name => exact (inductionHypothesis (s.ask name).1).trans (key_ask s name)

/-- What is remembered of a name after events is what was first read for it. -/
theorem known?_run (s : Session) (events : List Event) (name : Text) :
    (s.run events).known? name =
      (s.known? name).or (firstRead? s.resolver.key name s.topology events) := by
  induction events generalizing s with
  | nil => exact (Option.or_none).symm
  | cons event rest inductionHypothesis =>
      cases event with
      | change alteration => exact inductionHypothesis _
      | query other =>
          have later := inductionHypothesis (s.ask other).1
          rw [known?_ask, key_ask, Option.or_assoc] at later
          exact later

/-- What is remembered of names is remembered of names that are declared. -/
def Declares (s : Session) : Prop :=
  ∀ name, (s.known? name).isSome = true → Value.text name ∈ s.topology.componentNames

theorem Declares.step {s : Session} (declares : s.Declares) (event : Event) :
    (s.step event).Declares := by
  intro name known
  cases event with
  | change alteration => exact Topology.mem_names_alter (declares name known) alteration
  | query other =>
      change ((s.ask other).1.known? name).isSome = true at known
      rw [known?_ask, Option.isSome_or, Bool.or_eq_true] at known
      rcases known with known | read
      · exact declares name known
      · split at read
        · rw [Topology.read?, Option.isSome_bind, Option.any_eq_true] at read
          obtain ⟨c, resolved, -⟩ := read
          have found : (s.topology.resolve? (.text name)).isSome = true := by rw [resolved]; rfl
          exact Topology.isSome_resolve?_iff.mp found
        · cases read

theorem Declares.run {s : Session} (declares : s.Declares) (events : List Event) :
    (s.run events).Declares := by
  induction events generalizing s with
  | nil => exact declares
  | cons event rest inductionHypothesis => exact inductionHypothesis (declares.step event)

theorem known?_start (t : Topology) (key : Option Value) (name : Text) :
    (start t key).known? name = none := by
  have nothing : (Resolver.new t key).known = [] := by
    unfold Resolver.new
    cases key <;> rfl
  rw [start, known?, nothing]
  rfl

theorem declares_start (t : Topology) (key : Option Value) : (start t key).Declares := by
  intro name known
  rw [known?_start] at known
  cases known

/-- Where the topology does not change, what is read for a name is what it says. -/
theorem firstRead?_of_queries {key : Value} {name : Text} {t : Topology} {queries : List Text}
    {n : Nat} (read : firstRead? key name t (queries.map .query) = some n) :
    t.read? name key = some n := by
  induction queries with
  | nil => cases read
  | cons other rest inductionHypothesis =>
      rw [List.map_cons, firstRead?, Option.or_eq_some_iff] at read
      rcases read with first | ⟨-, later⟩
      · split at first
        · exact first
        · cases first
      · exact inductionHypothesis later

theorem follow_queries (t : Topology) (queries : List Text) :
    follow t (queries.map .query) = t := by
  induction queries with
  | nil => rfl
  | cons name rest inductionHypothesis => exact inductionHypothesis

/-! ### What a resolver remembers -/

/-- How a session with a key goes on: a question for a declared name of which nothing is
remembered is answered by its settings, and what they say is remembered; what is remembered stays
and is the answer whatever happens; a question for another name, or one that fails, changes
nothing; and questions for one name make no difference to another one. -/
structure Remembering (key : Value) (s : Session) : Prop where
  reads : ∀ name c, s.topology.resolve? (.text name) = some c → s.known? name = none →
    (s.ask name).2 = parallelismOf c key ∧
      (s.ask name).1.known? name = (parallelismOf c key).toOption
  repeats : ∀ name n, s.known? name = some n → ∀ later,
    (s.run later).known? name = some n ∧ ((s.run later).ask name).2 = .ok n
  undeclared : ∀ name, s.topology.resolve? (.text name) = none → s.ask name = (s, .ok 0)
  refused : ∀ name e, (s.ask name).2 = .error e → (s.ask name).1 = s
  apart : ∀ name other, other ≠ name → ∀ later,
    (((s.ask other).1.run later).ask name).2 = ((s.run later).ask name).2

theorem Declares.remembering {s : Session} (declares : s.Declares) {key : Value}
    (keyed : s.resolver.key = key) : s.Remembering key where
  reads name c resolved unknown := by
    subst keyed
    constructor
    · rw [snd_ask, resolved, unknown]
    · rw [known?_ask, unknown, if_pos rfl, Option.none_or, Topology.read?, resolved,
        Option.bind_some]
  repeats name n known later := by
    have kept : (s.run later).known? name = some n := by rw [known?_run, known, Option.some_or]
    have declared := declares.run later name (by rw [kept]; rfl)
    obtain ⟨c, resolved⟩ := Option.isSome_iff_exists.mp (Topology.isSome_resolve?_iff.mpr declared)
    refine ⟨kept, ?_⟩
    rw [snd_ask, resolved, kept]
  undeclared name missing := by rw [ask_eq, missing]
  refused name e failed := fst_ask_of_error failed
  apart name other differ later := by
    rw [snd_ask, snd_ask, topology_run, topology_run, topology_ask, known?_run, known?_run,
      known?_ask, if_neg differ, Option.or_none, topology_ask, key_run, key_run, key_ask]

theorem parallelismByName_of_read? {t : Topology} {name : Text} {key : Value} {n : Nat}
    (read : t.read? name key = some n) :
    TaskGraph.parallelismByName t (.text name) key = .ok n := by
  obtain ⟨c, resolved, found⟩ := Option.bind_eq_some_iff.mp read
  rw [TaskGraph.parallelismByName, resolved]
  exact toOption_eq_some.mp found

theorem answer_run (t : Topology) (key : Option Value) (history : List Event) (name : Text) :
    (((start t key).run history).ask name).2 =
      match firstRead? (t.effectiveKey key) name t history with
      | some n => .ok n
      | none =>
        TaskGraph.parallelismByName (follow t history) (.text name) (t.effectiveKey key) := by
  have known : ((start t key).run history).known? name =
      firstRead? (t.effectiveKey key) name t history := by
    rw [known?_run, known?_start, Option.none_or]
    rfl
  have keyed : ((start t key).run history).resolver.key = t.effectiveKey key := key_run _ history
  have followed : ((start t key).run history).topology = follow t history := topology_run _ history
  have declares := (declares_start t key).run history name
  rw [known, followed] at declares
  rw [snd_ask, known, keyed, followed, TaskGraph.parallelismByName]
  cases read : firstRead? (t.effectiveKey key) name t history with
  | none => cases (follow t history).resolve? (.text name) <;> rfl
  | some n =>
      have declared := Topology.isSome_resolve?_iff.mpr (declares (by rw [read]; rfl))
      obtain ⟨c, resolved⟩ := Option.isSome_iff_exists.mp declared
      rw [resolved]

/-- A resolver that is kept for a topology answers for every name with what was first read for it,
and until something was, with what the topology says.  While the topology does not change, every
answer is what its settings say, also where the resolver is asked for the components
themselves. -/
theorem run_remembering (t : Topology) (key : Option Value) :
    (∀ history, ((start t key).run history).Remembering (t.effectiveKey key) ∧
      ∀ name, (((start t key).run history).ask name).2 =
        match firstRead? (t.effectiveKey key) name t history with
        | some n => .ok n
        | none =>
          TaskGraph.parallelismByName (follow t history) (.text name) (t.effectiveKey key)) ∧
    ∀ queries : List Text,
      (∀ name, (((start t key).run (queries.map .query)).ask name).2 =
        TaskGraph.parallelismByName t (.text name) (t.effectiveKey key)) ∧
      (t.componentNames.Nodup → (∀ name ∈ t.componentNames, ∃ s : Text, name = .text s) →
        ∀ c ∈ t.components,
          (((start t key).run (queries.map .query)).resolver.parallelism c).outcome.map Prod.fst =
            parallelismOf c (t.effectiveKey key)) := by
  refine ⟨fun history => ⟨?_, fun name => ?_⟩, fun queries => ?_⟩
  · exact ((declares_start t key).run history).remembering (key_run _ history)
  · exact answer_run t key history name
  have answered : ∀ name, (((start t key).run (queries.map .query)).ask name).2 =
      TaskGraph.parallelismByName t (.text name) (t.effectiveKey key) := by
    intro name
    rw [answer_run, follow_queries]
    split
    · rename_i n read
      exact (parallelismByName_of_read? (firstRead?_of_queries read)).symm
    · rfl
  refine ⟨answered, fun distinct texts c member => ?_⟩
  obtain ⟨name, named⟩ := texts c.name (Topology.name_mem_componentNames member)
  have resolved := Topology.resolve?_of_distinct distinct texts member
  have same := answered name
  rw [snd_ask_eq_map, topology_run, follow_queries, ← named] at same
  change ((_ : Resolver).parallelismByName t c.name).outcome.map Prod.fst = _ at same
  rw [Resolver.parallelismByName, TaskGraph.parallelismByName, resolved] at same
  exact same

/-- A spout with a hint and a bolt without one. -/
def hinted : Topology where
  spouts := [{ name := .text "lines", config := [.entry (.text defaultParallelismKey) (.int 2)] }]
  bolts := [{ name := .text "count" }]

theorem run_remembering_hinted :
    hinted.componentNames.Nodup ∧
      (∀ name ∈ hinted.componentNames, ∃ s : Text, name = .text s) ∧
      ∀ c ∈ hinted.components,
        (((start hinted none).run (["count", "lines", "count"].map .query)).resolver.parallelism
            c).outcome.map Prod.fst = parallelismOf c (hinted.effectiveKey none) := by
  have names : hinted.componentNames = [.text "lines", .text "count"] := rfl
  have distinct : hinted.componentNames.Nodup := by
    rw [names]
    simp [Text.ofString_inj]
  have texts : ∀ name ∈ hinted.componentNames, ∃ s : Text, name = .text s := by
    rw [names]
    simp
  exact ⟨distinct, texts, ((run_remembering hinted none).2 _).2 distinct texts⟩

/-- A name that is not declared and a setting that is no number leave no trace, and the first
number stays. -/
example :
    (((start {} none).run
      [.query "map", .change (.call (.addBolt "map" (.text "many") .null (.items []))),
        .query "map", .change (.call (.set "map" defaultParallelismKey (.int 4))), .query "map",
        .change (.call (.set "map" defaultParallelismKey (.int 7)))]).ask "map").2.toOption =
      some 4 := by
  decide +kernel

end Resolver.Session

end TaskGraph
