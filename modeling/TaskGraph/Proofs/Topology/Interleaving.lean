/-
Module: TaskGraph.Proofs.Topology.Interleaving
Purpose: Spouts and bolts may be declared in any order between the kinds: what comes of it, and
  whether it succeeds, depends on the order within each kind alone.
Main exports:
  Topology.Interleaving, Topology.Completes, Topology.Interleaving.completes_iff,
  Topology.Interleaving.completes_of_completes
-/
import TaskGraph.Proofs.Expansion.Declared
import TaskGraph.Proofs.Topology.Registration

namespace TaskGraph.Topology

/-! ### Declarations of two kinds -/

/-- What a call gives to declare a spout. -/
structure SpoutDeclaration where
  name : Text
  parallelism : Value := .null
  config : Value := .null

/-- What a call gives to declare a bolt. -/
structure BoltDeclaration where
  name : Text
  parallelism : Value := .null
  config : Value := .null
  inputs : DeclaredInputs := .items []

/-- Calls that declare some spouts and some bolts, the spouts in their order and the bolts in
theirs. -/
inductive Interleaving : List SpoutDeclaration → List BoltDeclaration → List Call → Prop
  | nil : Interleaving [] [] []
  | spout (s : SpoutDeclaration) {spouts : List SpoutDeclaration} {bolts : List BoltDeclaration}
      {calls : List Call} (later : Interleaving spouts bolts calls) :
      Interleaving (s :: spouts) bolts (.addSpout s.name s.parallelism s.config :: calls)
  | bolt (b : BoltDeclaration) {spouts : List SpoutDeclaration} {bolts : List BoltDeclaration}
      {calls : List Call} (later : Interleaving spouts bolts calls) :
      Interleaving spouts (b :: bolts) (.addBolt b.name b.parallelism b.config b.inputs :: calls)

/-- Calls that all succeed lead from one topology to another. -/
inductive Completes : Topology → List Call → Topology → Prop
  | nil (t : Topology) : Completes t [] t
  | cons {t next final : Topology} {call : Call} {c : Component} {rest : List Call}
      (step : t.step call = (next, .ok c)) (later : Completes next rest final) :
      Completes t (call :: rest) final

theorem Completes.run_eq {t final : Topology} {calls : List Call}
    (completes : t.Completes calls final) : t.run calls = final := by
  induction completes with
  | nil t => rfl
  | cons step _ inductionHypothesis =>
      rw [run, List.foldl_cons, step]
      exact inductionHypothesis

/-! ### What is declared -/

/-- A declaration gives a spout. -/
def SpoutDeclaration.Gives (t : Topology) (d : SpoutDeclaration) (s : Spout) : Prop :=
  ∃ settings, t.settings d.parallelism d.config = .ok settings ∧
    s = { name := .text d.name, config := settings }

/-- A declaration gives a bolt. -/
def BoltDeclaration.Gives (t : Topology) (d : BoltDeclaration) (b : Bolt) : Prop :=
  ∃ settings, t.settings d.parallelism d.config = .ok settings ∧
    ∃ streams, d.inputs.read = .ok streams ∧
      b = { name := .text d.name, config := settings, inputs := streams }

theorem SpoutDeclaration.Gives.name {t : Topology} {d : SpoutDeclaration} {s : Spout}
    (gives : d.Gives t s) : s.name = .text d.name := by
  obtain ⟨settings, -, rfl⟩ := gives
  rfl

theorem BoltDeclaration.Gives.name {t : Topology} {d : BoltDeclaration} {b : Bolt}
    (gives : d.Gives t b) : b.name = .text d.name := by
  obtain ⟨settings, -, streams, -, rfl⟩ := gives
  rfl

/-- Components with these names may be declared one after the other, in any order. -/
structure Admits (t : Topology) (names : List Text) : Prop where
  unreserved : ∀ name ∈ names, name.Unreserved
  distinct : names.Nodup
  fresh : ∀ name ∈ names, Value.text name ∉ t.componentNames

section Admits

variable {t next : Topology} {name : Text} {names others : List Text}

theorem Admits.perm (admits : t.Admits names) (same : names.Perm others) : t.Admits others where
  unreserved name member := admits.unreserved name (same.mem_iff.mpr member)
  distinct := same.nodup_iff.mp admits.distinct
  fresh name member := admits.fresh name (same.mem_iff.mpr member)

theorem admits_congr (same : names.Perm others) : t.Admits names ↔ t.Admits others :=
  ⟨fun admits => admits.perm same, fun admits => admits.perm same.symm⟩

/-- Names may be declared if the first one may, and after it the others. -/
theorem admits_cons (declared : ∀ other, other ∈ next.componentNames ↔
      other ∈ t.componentNames ∨ other = .text name) :
    t.Admits (name :: names) ↔ t.Declarable name ∧ next.Admits names := by
  constructor
  · intro admits
    obtain ⟨isFirst, distinct⟩ := List.nodup_cons.mp admits.distinct
    refine ⟨⟨admits.unreserved name (by simp), admits.fresh name (by simp)⟩,
      fun other member => admits.unreserved other (by simp [member]), distinct, ?_⟩
    intro other member known
    rcases (declared _).mp known with earlier | same
    · exact admits.fresh other (by simp [member]) earlier
    · cases same
      exact isFirst member
  · intro admits
    obtain ⟨⟨unreserved, isNew⟩, later⟩ := admits
    have isFirst : name ∉ names := fun member =>
      later.fresh name member ((declared _).mpr (.inr rfl))
    refine ⟨?_, List.nodup_cons.mpr ⟨isFirst, later.distinct⟩, ?_⟩
    · exact List.forall_mem_cons.mpr ⟨unreserved, later.unreserved⟩
    · exact List.forall_mem_cons.mpr ⟨isNew, fun other member known =>
        later.fresh other member ((declared _).mpr (.inl known))⟩

/-- A spout that is declared takes its name. -/
theorem admits_cons_spout {s : Spout} (named : s.name = .text name) :
    t.Admits (name :: names) ↔
      t.Declarable name ∧ Admits { t with spouts := t.spouts ++ [s] } names := by
  refine admits_cons fun other => ?_
  simp only [componentNames_eq, List.map_append, List.map_cons, List.map_nil, List.mem_append,
    List.mem_singleton, named]
  exact or_right_comm

/-- A bolt that is declared takes its name. -/
theorem admits_cons_bolt {b : Bolt} (named : b.name = .text name) :
    t.Admits (name :: names) ↔
      t.Declarable name ∧ Admits { t with bolts := t.bolts ++ [b] } names := by
  refine admits_cons fun other => ?_
  simp only [componentNames_eq, List.map_append, List.map_cons, List.map_nil, List.mem_append,
    List.mem_singleton, named]
  exact or_assoc.symm

end Admits

/-! ### One declaration -/

section Steps

variable {t final : Topology} {rest : List Call}

theorem completes_nil_iff : t.Completes [] final ↔ final = t := by
  constructor
  · intro completes
    cases completes
    rfl
  · rintro rfl
    exact .nil final

theorem completes_addSpout_iff (d : SpoutDeclaration) :
    t.Completes (.addSpout d.name d.parallelism d.config :: rest) final ↔
      t.Declarable d.name ∧ ∃ s, d.Gives t s ∧
        Completes { t with spouts := t.spouts ++ [s] } rest final := by
  constructor
  · intro completes
    rcases completes with _ | ⟨step, later⟩
    obtain ⟨s, declared, -⟩ := snd_step_addSpout_eq_ok.mp (congrArg Prod.snd step)
    obtain ⟨declarable, gives⟩ := declaredSpout_eq_ok.mp declared
    rw [Topology.step, outcome_addSpout, declared] at step
    cases step
    exact ⟨declarable, s, gives, later⟩
  · intro given
    obtain ⟨declarable, s, gives, later⟩ := given
    have declared := declaredSpout_eq_ok.mpr ⟨declarable, gives⟩
    have step : t.step (.addSpout d.name d.parallelism d.config) =
        ({ t with spouts := t.spouts ++ [s] }, .ok (.spout s)) := by
      rw [Topology.step, outcome_addSpout, declared]
      rfl
    exact .cons step later

theorem completes_addBolt_iff (d : BoltDeclaration) :
    t.Completes (.addBolt d.name d.parallelism d.config d.inputs :: rest) final ↔
      t.Declarable d.name ∧ ∃ b, d.Gives t b ∧
        Completes { t with bolts := t.bolts ++ [b] } rest final := by
  constructor
  · intro completes
    rcases completes with _ | ⟨step, later⟩
    obtain ⟨b, declared, -⟩ := snd_step_addBolt_eq_ok.mp (congrArg Prod.snd step)
    obtain ⟨declarable, gives⟩ := declaredBolt_eq_ok.mp declared
    rw [Topology.step, outcome_addBolt, declared] at step
    cases step
    exact ⟨declarable, b, gives, later⟩
  · intro given
    obtain ⟨declarable, b, gives, later⟩ := given
    have declared := declaredBolt_eq_ok.mpr ⟨declarable, gives⟩
    have step : t.step (.addBolt d.name d.parallelism d.config d.inputs) =
        ({ t with bolts := t.bolts ++ [b] }, .ok (.bolt b)) := by
      rw [Topology.step, outcome_addBolt, declared]
      rfl
    exact .cons step later

end Steps

/-! ### All declarations -/

/-- The spouts and the bolts that declarations give are put at the ends of their lists. -/
def Declares (t : Topology) (spouts : List SpoutDeclaration) (bolts : List BoltDeclaration)
    (final : Topology) : Prop :=
  t.Admits (spouts.map (·.name) ++ bolts.map (·.name)) ∧
    ∃ ss bs, List.Forall₂ (SpoutDeclaration.Gives t) spouts ss ∧
      List.Forall₂ (BoltDeclaration.Gives t) bolts bs ∧
      final = { t with spouts := t.spouts ++ ss, bolts := t.bolts ++ bs }

section Declares

variable {t final : Topology} {spouts : List SpoutDeclaration} {bolts : List BoltDeclaration}

theorem declares_nil_iff : t.Declares [] [] final ↔ final = t := by
  constructor
  · rintro ⟨-, _, _, ⟨⟩, ⟨⟩, rfl⟩
    simp
  · rintro rfl
    exact ⟨⟨by simp, .nil, by simp⟩, [], [], .nil, .nil, by simp⟩

/-- The first spout may be declared first. -/
theorem declares_cons_spout_iff {d : SpoutDeclaration} :
    t.Declares (d :: spouts) bolts final ↔ t.Declarable d.name ∧ ∃ s, d.Gives t s ∧
      Declares { t with spouts := t.spouts ++ [s] } spouts bolts final := by
  rw [Declares, List.map_cons, List.cons_append]
  constructor
  · rintro ⟨admits, _, bs, _ | ⟨gives, others⟩, given, rfl⟩
    obtain ⟨declarable, later⟩ := (admits_cons_spout gives.name).mp admits
    exact ⟨declarable, _, gives, later, _, bs, others, given, by simp⟩
  · rintro ⟨declarable, s, gives, later, ss, bs, others, given, rfl⟩
    have admits := (admits_cons_spout gives.name).mpr ⟨declarable, later⟩
    exact ⟨admits, _, bs, .cons gives others, given, by simp⟩

/-- The first bolt may be declared first, before all spouts. -/
theorem declares_cons_bolt_iff {d : BoltDeclaration} :
    t.Declares spouts (d :: bolts) final ↔ t.Declarable d.name ∧ ∃ b, d.Gives t b ∧
      Declares { t with bolts := t.bolts ++ [b] } spouts bolts final := by
  rw [Declares, List.map_cons, admits_congr List.perm_middle]
  constructor
  · rintro ⟨admits, ss, _, given, _ | ⟨gives, others⟩, rfl⟩
    obtain ⟨declarable, later⟩ := (admits_cons_bolt gives.name).mp admits
    exact ⟨declarable, _, gives, later, ss, _, given, others, by simp⟩
  · rintro ⟨declarable, b, gives, later, ss, bs, given, others, rfl⟩
    have admits := (admits_cons_bolt gives.name).mpr ⟨declarable, later⟩
    exact ⟨admits, ss, _, given, .cons gives others, by simp⟩

end Declares

/-- Calls that declare spouts and bolts succeed where all names may be declared and everything that
is given can be read, and lead to the topology that has what is declared.  Nothing of this depends
on how the calls for spouts stand among those for bolts. -/
theorem Interleaving.completes_iff {spouts : List SpoutDeclaration} {bolts : List BoltDeclaration}
    {calls : List Call} (interleaving : Interleaving spouts bolts calls) {t final : Topology} :
    t.Completes calls final ↔ t.Declares spouts bolts final := by
  -- The topology is general, as each call leaves a larger one to the calls after it.
  induction interleaving generalizing t with
  | nil => rw [completes_nil_iff, declares_nil_iff]
  | spout d _ inductionHypothesis =>
      rw [completes_addSpout_iff, declares_cons_spout_iff]
      simp only [inductionHypothesis]
  | bolt d _ inductionHypothesis =>
      rw [completes_addBolt_iff, declares_cons_bolt_iff]
      simp only [inductionHypothesis]

/-- Where calls that declare spouts and bolts all succeed, so do the same calls in any other order
that keeps the spouts in their order and the bolts in theirs, and they lead to the same topology,
and so to the same stored form, expansion, counts and graph file.  It names the spouts, and after
them the bolts, in these orders. -/
theorem Interleaving.completes_of_completes {spouts : List SpoutDeclaration}
    {bolts : List BoltDeclaration} {first second : List Call} {t final : Topology}
    (one : Interleaving spouts bolts first) (other : Interleaving spouts bolts second)
    (completes : t.Completes first final) :
    t.Completes second final ∧ t.run first = final ∧ t.run second = final ∧
      final.componentNames =
        (t.spouts.map (·.name) ++ spouts.map fun d => .text d.name) ++
          (t.bolts.map (·.name) ++ bolts.map fun d => .text d.name) := by
  have declares := one.completes_iff.mp completes
  have again := other.completes_iff.mpr declares
  refine ⟨again, completes.run_eq, again.run_eq, ?_⟩
  obtain ⟨-, ss, bs, spoutsGiven, boltsGiven, rfl⟩ := declares
  have spoutNames : (spouts.map fun d => .text d.name) = ss.map (·.name) :=
    map_eq_map_iff_forall₂.mpr (spoutsGiven.imp fun _ _ gives =>
      (SpoutDeclaration.Gives.name gives).symm)
  have boltNames : (bolts.map fun d => .text d.name) = bs.map (·.name) :=
    map_eq_map_iff_forall₂.mpr (boltsGiven.imp fun _ _ gives =>
      (BoltDeclaration.Gives.name gives).symm)
  rw [componentNames_eq, List.map_append, List.map_append, spoutNames, boltNames]

/-- The declaration of the spout of the relay. -/
def relayReader : SpoutDeclaration where
  name := "reader"
  parallelism := .int 2

/-- The declaration of the bolt of the relay. -/
def relayCounter : BoltDeclaration where
  name := "counter"
  parallelism := .int 3
  inputs := .items [.stored (.text "reader")]

theorem settings_of_hint {hint : Value} {s : Text} (present : hint ≠ .null)
    (plain : hint.asPlain = .ok s) :
    settings {} hint .null = .ok [.entry (.text defaultParallelismKey) (.text s)] :=
  settings_eq_ok.mpr ⟨[], rfl, .inr ⟨present, s, plain, rfl⟩⟩

theorem declares_relay : Declares {} [relayReader] [relayCounter] relay := by
  refine ⟨⟨?_, ?_, ?_⟩, relay.spouts, relay.bolts, ?_, ?_, rfl⟩
  · have reader : Text.Unreserved "reader" := checkCharacters_text.mp rfl
    have counter : Text.Unreserved "counter" := checkCharacters_text.mp rfl
    exact List.forall_mem_cons.mpr ⟨reader, List.forall_mem_singleton.mpr counter⟩
  · decide +kernel
  · intro name _ declared
    cases declared
  · have two : (Value.int 2).asPlain = .ok "2" := toOption_eq_some.mp (by decide +kernel)
    exact .cons ⟨_, settings_of_hint nofun two, rfl⟩ .nil
  · have three : (Value.int 3).asPlain = .ok "3" := toOption_eq_some.mp (by decide +kernel)
    exact .cons ⟨_, settings_of_hint nofun three, _, rfl, rfl⟩ .nil

/-- The calls that declare the relay, the bolt before the spout that it reads. -/
def boltFirst : List Call :=
  [.addBolt "counter" (.int 3) .null (.items [.stored (.text "reader")]),
    .addSpout "reader" (.int 2) .null]

theorem completes_boltFirst :
    Interleaving [relayReader] [relayCounter] boltFirst.reverse ∧
      Interleaving [relayReader] [relayCounter] boltFirst ∧ Completes {} boltFirst.reverse relay ∧
      Completes {} boltFirst relay ∧
      relay.componentNames = [.text "reader", .text "counter"] := by
  have one : Interleaving [relayReader] [relayCounter] boltFirst.reverse :=
    .spout relayReader (.bolt relayCounter .nil)
  have other : Interleaving [relayReader] [relayCounter] boltFirst :=
    .bolt relayCounter (.spout relayReader .nil)
  have completes := one.completes_iff.mpr declares_relay
  obtain ⟨again, -, -, names⟩ := one.completes_of_completes other completes
  exact ⟨one, other, completes, again, names⟩

end TaskGraph.Topology
