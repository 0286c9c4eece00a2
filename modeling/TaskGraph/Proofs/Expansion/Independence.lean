/-
Module: TaskGraph.Proofs.Expansion.Independence
Purpose: What an expansion depends on: names, the parallelism of the components, and the sources
  of the inputs.  Groupings, names of streams, fields and all other settings have no part in it.
Main exports:
  Component.LooksLike, Bolt.LooksLike, Topology.LooksLike, expand_eq_of_looksLike
-/
import TaskGraph.Proofs.Expansion.Printed
import TaskGraph.Proofs.Topology.Parallelism

namespace TaskGraph

/-! ### What an expansion sees -/

/-- Two components look alike: they have one name, and their parallelism, each under a key of its
own, is the same or cannot be read for the same reason. -/
structure Component.LooksLike (key other : Value) (c d : Component) : Prop where
  name : c.name = d.name
  parallelism : parallelismOf c key = parallelismOf d other

/-- Two bolts look alike, and they read from the same sources in the same order. -/
structure Bolt.LooksLike (key other : Value) (b b' : Bolt) : Prop
    extends Component.LooksLike key other (.bolt b) (.bolt b') where
  sources : b.inputs.map (·.component) = b'.inputs.map (·.component)

/-- Two topologies look alike: they have one name, and their spouts and their bolts look alike one
by one. -/
structure Topology.LooksLike (key other : Value) (t u : Topology) : Prop where
  name : t.name = u.name
  spouts : List.Forall₂ (fun s s' => Component.LooksLike key other (.spout s) (.spout s'))
    t.spouts u.spouts
  bolts : List.Forall₂ (Bolt.LooksLike key other) t.bolts u.bolts

/-- Components look alike that have one name and the same deciding value, whatever else is written
among their settings. -/
theorem Component.LooksLike.of_hint? {key : Value} {c d : Component} (paired : c.config.Paired)
    (otherPaired : d.config.Paired) (name : c.name = d.name) (hint : c.hint? key = d.hint? key) :
    Component.LooksLike key key c d where
  name := name
  parallelism := by rw [parallelismOf_eq paired, parallelismOf_eq otherPaired, name, hint]

namespace Topology.LooksLike

variable {key other : Value} {t u : Topology} (alike : LooksLike key other t u)

include alike

theorem components :
    List.Forall₂ (Component.LooksLike key other) t.components u.components := by
  refine List.rel_append ?_ ?_
  · rw [List.forall₂_map_left_iff, List.forall₂_map_right_iff]
    exact alike.spouts
  · rw [List.forall₂_map_left_iff, List.forall₂_map_right_iff]
    exact alike.bolts.imp fun _ _ bolt => bolt.toLooksLike

theorem componentNames_eq : t.componentNames = u.componentNames := by
  rw [Topology.componentNames, Topology.componentNames, map_eq_map_iff_forall₂]
  exact alike.components.imp fun _ _ component => component.name

theorem validate_eq : t.validate = u.validate := by
  rw [validate, validate, alike.componentNames_eq]

/-- A name resolves to components that look alike, or in both topologies to none. -/
theorem resolve? (name : Value) :
    Option.Rel (Component.LooksLike key other) (t.resolve? name) (u.resolve? name) := by
  rw [resolve?_eq_find?, resolve?_eq_find?]
  have components := alike.components
  generalize t.components = found, u.components = others at components
  -- The search stops at the same place in both lists, so what is found looks alike.
  induction components with
  | nil => exact .none
  | cons first _ inductionHypothesis =>
      rw [List.find?_cons, List.find?_cons, first.name]
      split
      · exact .some first
      · exact inductionHypothesis

end Topology.LooksLike

/-! ### Traversals of topologies that look alike -/

namespace Expansion.Direct

variable {key other : Value} {t u : Topology}

theorem addComponent_eq {c d : Component} (alike : Component.LooksLike key other c d) (g : Graph) :
    addComponent {} key g c = addComponent {} other g d := by
  simp only [addComponent, addInstances, vertexOf, alike.parallelism, alike.name]

section Inputs

variable (alike : Topology.LooksLike key other t u)

include alike

/-- An input adds the same edges wherever it has the same source. -/
theorem addInput_eq {b b' : Bolt} (named : b.name = b'.name) {input input' : InputStream}
    (source : input.component = input'.component) (boltCount : Nat) (g : Graph) :
    addInput {} t key b boltCount g input = addInput {} u other b' boltCount g input' := by
  unfold addInput
  rw [named, source]
  have resolved := alike.resolve? input'.component
  generalize t.resolve? input'.component = found, u.resolve? input'.component = others at resolved
  cases resolved with
  | none => rfl
  | some found => simp only [found.name, found.parallelism, addLinks]

theorem addInputs_eq {b b' : Bolt} (bolts : Bolt.LooksLike key other b b') (g : Graph) :
    addInputs {} t key g b = addInputs {} u other g b' := by
  have sources := map_eq_map_iff_forall₂.mp bolts.sources
  simp only [addInputs, bolts.parallelism]
  refine bind_congr fun boltCount => ?_
  exact foldlM_eq_of_forall₂ sources
    (fun g _ _ source => addInput_eq alike bolts.name source boltCount g) g

theorem build_eq : build {} t key = build {} u other := by
  unfold build
  rw [alike.name, foldlM_eq_of_forall₂ alike.components fun g _ _ same => addComponent_eq same g]
  refine bind_congr fun g => ?_
  exact foldlM_eq_of_forall₂ alike.bolts (fun g _ _ same => addInputs_eq alike same g) g

theorem graph_eq : graph {} t key = graph {} u other := by
  have gathered : (t.components.mapM fun c => (parallelismOf c key).map fun n => (c.name, n)) =
      u.components.mapM fun c => (parallelismOf c other).map fun n => (c.name, n) :=
    mapM_eq_of_forall₂ alike.components fun _ _ same => by rw [same.name, same.parallelism]
  simp only [graph, build_eq alike, gathered, alike.name, metadataOf]

end Inputs

end Expansion.Direct

/-- Topologies that look alike are expanded to one graph, or fail with one error. -/
theorem expand_eq_of_looksLike {t u : Topology} {key other : Option Value}
    (alike : Topology.LooksLike (t.effectiveKey key) (u.effectiveKey other) t u) :
    (expand t key).outcome = (expand u other).outcome := by
  cases valid : t.validate with
  | error e =>
      have alsoInvalid := alike.validate_eq.symm.trans valid
      rw [expand_outcome_of_invalid {} valid, expand_outcome_of_invalid {} alsoInvalid]
  | ok _ =>
      have alsoValid := alike.validate_eq.symm.trans valid
      rw [expand_outcome valid, expand_outcome alsoValid, Expansion.Direct.graph_eq alike]

/-- The relay with another grouping of another stream, with settings under other keys, and with a
word that the number of its spout overrides. -/
def tunedRelay : Topology where
  spouts :=
    [{ name := .text "reader"
       config :=
         [.entry (.text defaultParallelismKey) (.text "many"),
          .entry (.text defaultParallelismKey) (.text "2"), .entry (.text "memory") (.text "-1")] }]
  bolts :=
    [{ name := .text "counter"
       config :=
         [.entry (.text "workers") (.text "1"), .entry (.text defaultParallelismKey) (.text "3")]
       inputs :=
         [{ component := .text "reader", stream := .text "lines", grouping := .fields,
            fields := [.text "word"] }] }]

/-- Settings that are texts under keys are pairs whose values have texts. -/
theorem Config.paired_of_texts (written : List (Value × Text)) :
    Config.Paired (written.map fun pair => .entry pair.1 (.text pair.2)) := by
  intro setting member
  obtain ⟨pair, -, rfl⟩ := List.mem_map.mp member
  exact ⟨_, _, rfl, _, rfl⟩

theorem looksLike_tunedRelay :
    Topology.LooksLike (relay.effectiveKey none) (tunedRelay.effectiveKey none) relay
      tunedRelay where
  name := rfl
  spouts := by
    refine .cons (.of_hint? ?_ ?_ rfl (by cbv)) .nil
    · exact Config.paired_of_texts [(.text defaultParallelismKey, "2")]
    · exact Config.paired_of_texts [(.text defaultParallelismKey, "many"),
        (.text defaultParallelismKey, "2"), (.text "memory", "-1")]
  bolts := by
    refine .cons ⟨.of_hint? ?_ ?_ rfl (by cbv), rfl⟩ .nil
    · exact Config.paired_of_texts [(.text defaultParallelismKey, "3")]
    · exact Config.paired_of_texts [(.text "workers", "1"), (.text defaultParallelismKey, "3")]

theorem exists_expand_relay : ∃ g, (expand relay none).outcome = .ok g := by
  have read : ∀ c ∈ relay.components, parallelismOf c (relay.effectiveKey none) =
      .ok (if c.kind = .spout then 2 else 3) := by
    intro c member
    apply toOption_eq_some.mp
    revert c
    decide +kernel
  exact Expansion.exists_expand rfl rfl Labels.textual_none
    (Expansion.plan_eq_ok read {} (by decide +kernel))

theorem expand_eq_of_looksLike_relay :
    Topology.LooksLike (relay.effectiveKey none) (tunedRelay.effectiveKey none) relay tunedRelay ∧
      ∃ g, (expand relay none).outcome = .ok g ∧ (expand tunedRelay none).outcome = .ok g := by
  obtain ⟨g, built⟩ := exists_expand_relay
  have same := expand_eq_of_looksLike looksLike_tunedRelay
  exact ⟨looksLike_tunedRelay, g, built, same.symm.trans built⟩

end TaskGraph
