/-
Module: TaskGraph.Proofs.Expansion.Printed
Purpose: The graph file of an expansion: how many vertices and edges it has for what a topology
  declares, and that all its sizes and weights are ones.
Main exports:
  Expansion.properCount, Expansion.loopCount, Expansion.countP_declaredEdges,
  parse_render_expand
-/
import TaskGraph.Proofs.Expansion.Counting
import TaskGraph.Proofs.Expansion.Declared
import TaskGraph.Proofs.Metis.Unlabelled
import TaskGraph.Proofs.Topology.Registration

namespace TaskGraph

namespace Expansion

open Metis

/-! ### Edges between different instances -/

/-- An edge joins an instance with itself if the names of the components are the same, and the
numbers are. -/
theorem isProper_linkEdge (labels : Labels) (input : InputStream) {source bolt : Component}
    {a b : Text} (sourceNamed : source.name = .text a) (boltNamed : bolt.name = .text b)
    (i j : Nat) :
    isProper (linkEdge labels input source bolt i j) = true ↔ ¬(b = a ∧ j = i) := by
  rw [isProper, linkEdge, sourceNamed, boltNamed]
  simp only [Value.same, Bool.not_eq_true', beq_eq_false_iff_ne, ne_eq]
  constructor
  · rintro different ⟨rfl, rfl⟩
    exact different rfl
  · exact fun different same => different (instanceName_inj same.symm)

/-- All but one of the instances are others. -/
theorem countP_others {n i : Nat} (member : i ∈ instances n) :
    (instances n).countP (fun j => decide (j ≠ i)) = n - 1 := by
  have once : (instances n).countP (fun j => decide (j = i)) = 1 := by
    rw [← List.count_eq_one_of_mem List.nodup_range' member, List.count_eq_countP]
    exact List.countP_congr fun j _ => by simp
  have all := List.length_eq_countP_add_countP (fun j => decide (j = i)) (l := instances n)
  have total : (instances n).length = n := List.length_range'
  simp only [decide_eq_true_eq] at all
  simp only [ne_eq]
  omega

theorem countP_linkEdges (labels : Labels) (input : InputStream) (source bolt : Component)
    (n m : Nat) :
    (linkEdges labels input source bolt n m).countP isProper = ((instances n).map fun i =>
      (instances m).countP fun j => isProper (linkEdge labels input source bolt i j)).sum := by
  simp only [linkEdges, List.countP_flatMap, Function.comp_def, List.countP_map]

/-- Between two components all edges join different instances. -/
theorem countP_linkEdges_of_ne (labels : Labels) (input : InputStream) {source bolt : Component}
    {a b : Text} (sourceNamed : source.name = .text a) (boltNamed : bolt.name = .text b)
    (others : a ≠ b) (n m : Nat) :
    (linkEdges labels input source bolt n m).countP isProper = n * m := by
  rw [← length_linkEdges labels input source bolt n m, List.countP_eq_length]
  intro e member
  obtain ⟨i, -, inside⟩ := List.mem_flatMap.mp member
  obtain ⟨j, -, rfl⟩ := List.mem_map.mp inside
  exact (isProper_linkEdge labels input sourceNamed boltNamed i j).mpr fun same =>
    others same.1.symm

/-- From a component to itself each instance is joined to all others. -/
theorem countP_linkEdges_self (labels : Labels) (input : InputStream) {c : Component} {a : Text}
    (named : c.name = .text a) (n : Nat) :
    (linkEdges labels input c c n n).countP isProper = n * (n - 1) := by
  have each : ∀ i ∈ instances n,
      ((instances n).countP fun j => isProper (linkEdge labels input c c i j)) = n - 1 := by
    intro i member
    rw [← countP_others member]
    refine List.countP_congr fun j _ => ?_
    rw [isProper_linkEdge labels input named named]
    simp
  rw [countP_linkEdges, List.map_congr_left each, List.map_const', List.sum_replicate, instances,
    List.length_range', smul_eq_mul]

/-! ### Edges that a topology declares -/

/-- An input names the bolt itself. -/
def isLoop (bolt : Bolt) (input : InputStream) : Bool :=
  bolt.name.equal input.component

/-- The number of the instances that an input comes from. -/
def sourceCount (t : Topology) (parallelism : Component → Nat) (input : InputStream) : Nat :=
  (t.resolve? input.component).elim 0 parallelism

/-- The number of edges between different instances: for an input that names the bolt itself each
instance is joined to all others, and for another one all instances to all. -/
def properCount (t : Topology) (parallelism : Component → Nat) : Nat :=
  (t.bolts.map fun bolt => (bolt.inputs.map fun input =>
    if isLoop bolt input then parallelism (.bolt bolt) * (parallelism (.bolt bolt) - 1)
    else sourceCount t parallelism input * parallelism (.bolt bolt)).sum).sum

/-- The number of edges that join an instance with itself. -/
def loopCount (t : Topology) (parallelism : Component → Nat) : Nat :=
  (t.bolts.map fun bolt => (bolt.inputs.map fun input =>
    if isLoop bolt input then parallelism (.bolt bolt) else 0).sum).sum

/-- Sums over all inputs are the same if their terms are. -/
theorem sum_inputs_congr {bolts : List Bolt} {f g : Bolt → InputStream → Nat}
    (each : ∀ bolt ∈ bolts, ∀ input ∈ bolt.inputs, f bolt input = g bolt input) :
    (bolts.map fun bolt => (bolt.inputs.map (f bolt)).sum).sum =
      (bolts.map fun bolt => (bolt.inputs.map (g bolt)).sum).sum := by
  refine congrArg List.sum (List.map_congr_left fun bolt member => ?_)
  exact congrArg List.sum (List.map_congr_left (each bolt member))

/-- An input that does not name the bolt leads to a component with another name. -/
theorem ne_of_not_isLoop {t : Topology} {bolt : Bolt} {input : InputStream} {source : Component}
    {a b : Text}
    (other : isLoop bolt input = false) (found : t.resolve? input.component = some source)
    (sourceNamed : source.name = .text a) (boltNamed : bolt.name = .text b) : a ≠ b := by
  rintro rfl
  have same := (Topology.mem_of_resolve?_eq_some found).2
  rw [sourceNamed, ← boltNamed] at same
  rw [isLoop, same] at other
  cases other

section Declared

variable {t : Topology} (valid : t.validate = .ok ()) {bolt : Bolt} (member : bolt ∈ t.bolts)

include valid member

/-- An input that names the bolt itself leads to it. -/
theorem resolve?_of_isLoop {input : InputStream} (loop : isLoop bolt input = true) :
    t.resolve? input.component = some (.bolt bolt) := by
  have inside := Topology.bolt_mem_components member
  obtain ⟨a, named⟩ := Topology.exists_name_eq_text valid inside
  have boltNamed : bolt.name = .text a := named
  rw [isLoop, boltNamed, Value.text_equal_iff] at loop
  rw [loop, ← named]
  exact Topology.resolve?_name valid inside

theorem countP_input (labels : Labels) (parallelism : Component → Nat) {input : InputStream}
    (resolved : (t.resolve? input.component).isSome) :
    ((t.resolve? input.component).toList.flatMap fun source =>
      linkEdges labels input source (.bolt bolt) (parallelism source)
        (parallelism (.bolt bolt))).countP isProper =
      if isLoop bolt input then parallelism (.bolt bolt) * (parallelism (.bolt bolt) - 1)
      else sourceCount t parallelism input * parallelism (.bolt bolt) := by
  obtain ⟨source, found⟩ := Option.isSome_iff_exists.mp resolved
  obtain ⟨b, boltNamed⟩ :=
    Topology.exists_name_eq_text valid (Topology.bolt_mem_components member)
  rw [sourceCount, found]
  simp only [Option.toList_some, List.flatMap_singleton, Option.elim_some]
  split
  · rename_i loop
    have same := resolve?_of_isLoop valid member loop
    rw [found] at same
    cases same
    exact countP_linkEdges_self labels input boltNamed _
  · rename_i other
    obtain ⟨a, sourceNamed⟩ :=
      Topology.exists_name_eq_text valid (Topology.mem_of_resolve?_eq_some found).1
    have different := ne_of_not_isLoop (by simpa using other) found sourceNamed boltNamed
    exact countP_linkEdges_of_ne labels input sourceNamed boltNamed different _ _

/-- The edges of an input join different instances, or an instance of the bolt with itself. -/
theorem length_input (labels : Labels) (parallelism : Component → Nat) {input : InputStream}
    (resolved : (t.resolve? input.component).isSome) :
    ((t.resolve? input.component).toList.flatMap fun source =>
      linkEdges labels input source (.bolt bolt) (parallelism source)
        (parallelism (.bolt bolt))).length =
      (if isLoop bolt input then parallelism (.bolt bolt) * (parallelism (.bolt bolt) - 1)
      else sourceCount t parallelism input * parallelism (.bolt bolt)) +
        if isLoop bolt input then parallelism (.bolt bolt) else 0 := by
  obtain ⟨source, found⟩ := Option.isSome_iff_exists.mp resolved
  rw [sourceCount, found]
  simp only [Option.toList_some, List.flatMap_singleton, Option.elim_some, length_linkEdges]
  split
  · rename_i loop
    have same := resolve?_of_isLoop valid member loop
    rw [found] at same
    cases same
    cases parallelism (.bolt bolt) with
    | zero => rfl
    | succ n => rfl
  · rfl

end Declared

section Counts

variable {t : Topology} (valid : t.validate = .ok ())
  (resolved : ∀ bolt ∈ t.bolts, ∀ input ∈ bolt.inputs, (t.resolve? input.component).isSome)
  (labels : Labels) (parallelism : Component → Nat)

include valid resolved

theorem countP_declaredEdges :
    (declaredEdges labels t parallelism).countP isProper = properCount t parallelism := by
  simp only [declaredEdges, properCount, List.countP_flatMap, Function.comp_def]
  refine sum_inputs_congr fun bolt member input inside => ?_
  rw [← countP_input valid member labels parallelism (resolved bolt member input inside),
    List.countP_flatMap]
  rfl

theorem length_declaredEdges :
    (declaredEdges labels t parallelism).length =
      properCount t parallelism + loopCount t parallelism := by
  simp only [declaredEdges, properCount, loopCount, List.length_flatMap, ← List.sum_map_add]
  refine sum_inputs_congr fun bolt member input inside => ?_
  rw [← length_input valid member labels parallelism (resolved bolt member input inside),
    List.length_flatMap]

end Counts

/-- What can be planned is expanded, if the topology has a text for a name. -/
theorem exists_expand {t : Topology} {key : Option Value} {labels : Labels} {title : Text}
    {planned : List Vertex × List Edge} (valid : t.validate = .ok ())
    (titled : t.name.asPlain = .ok title) (textual : labels.Textual)
    (run : plan labels t (t.effectiveKey key) = .ok planned) :
    ∃ g, (expand t key labels).outcome = .ok g := by
  have alike := build_alike valid textual (t.effectiveKey key)
  rw [run] at alike
  obtain ⟨g, returned, -⟩ := alike.exists_of_ok
  obtain ⟨entries, gathered⟩ := exists_gathered labels t (t.effectiveKey key) run
  rw [expand_outcome valid, Direct.graph, returned, ok_bind, gathered, ok_bind, titled]
  exact ⟨_, rfl⟩

theorem vertexCount_of_declared {labels : Labels} {t : Topology} {parallelism : Component → Nat}
    {g : Graph} {es : List Edge} (holds : g.Holds (declaredVertices labels t parallelism) es) :
    g.vertexCount = (t.components.map parallelism).sum := by
  rw [holds.vertexCount_eq, declaredVertices, List.length_flatMap]
  simp only [length_instanceVertices]

theorem unlabelled_of_declared {t : Topology} {parallelism : Component → Nat} {g : Graph}
    (holds : g.Holds (declaredVertices {} t parallelism) (declaredEdges {} t parallelism)) :
    Unlabelled g := by
  have vertex : ∀ v ∈ g.vertices, ∃ c i, v = instanceVertex {} c i := by
    intro v member
    rw [holds.vertices] at member
    obtain ⟨c, -, inside⟩ := List.mem_flatMap.mp member
    obtain ⟨i, -, rfl⟩ := List.mem_map.mp inside
    exact ⟨c, i, rfl⟩
  have edge : ∀ e ∈ g.edgeList, ∃ input source bolt i j,
      e = linkEdge {} input source bolt i j := by
    intro e member
    rw [holds.edges] at member
    obtain ⟨bolt, -, ofBolt⟩ := List.mem_flatMap.mp member
    obtain ⟨input, -, ofInput⟩ := List.mem_flatMap.mp ofBolt
    obtain ⟨source, -, ofSource⟩ := List.mem_flatMap.mp ofInput
    obtain ⟨i, -, ofInstance⟩ := List.mem_flatMap.mp ofSource
    obtain ⟨j, -, rfl⟩ := List.mem_map.mp ofInstance
    exact ⟨input, source, _, i, j, rfl⟩
  refine ⟨fun v member => ?_, fun v member => ?_, fun v member => ?_, fun e member => ?_,
    fun e member => ?_⟩
  · obtain ⟨c, i, rfl⟩ := vertex v member
    exact ⟨_, rfl⟩
  · obtain ⟨c, i, rfl⟩ := vertex v member
    rfl
  · obtain ⟨c, i, rfl⟩ := vertex v member
    rfl
  · obtain ⟨input, source, bolt, i, j, rfl⟩ := edge e member
    exact ⟨_, _, rfl, rfl⟩
  · obtain ⟨input, source, bolt, i, j, rfl⟩ := edge e member
    rfl

end Expansion

open Expansion Metis in
/-- The graph file of an expansion without labels can be printed unless it is too large, and is
read back: it has a vertex for each instance, the edges between different instances, no vertex
that lists itself, and ones for all sizes and weights.  What is left out are the edges that join
an instance with itself. -/
theorem parse_render_expand (memory : Nat) {t : Topology} {key : Option Value} {g : Graph}
    (built : (expand t key).outcome = .ok g) :
    ∃ parallelism : Component → Nat,
      (∀ c ∈ t.components, parallelismOf c (t.effectiveKey key) = .ok (parallelism c)) ∧
      g.edgeCount = properCount t parallelism + loopCount t parallelism ∧
      ∀ format : Format,
        ((∃ text, (render memory g (.ofFormat format)).outcome = .ok text) ↔
          Printable memory format (t.components.map parallelism).sum
            (properCount t parallelism)) ∧
        ∀ text, (render memory g (.ofFormat format)).outcome = .ok text →
          ∃ summary, parse (Text.symbols text) = .ok summary ∧
            summary.vertexCount = (t.components.map parallelism).sum ∧
            summary.edgeCount = properCount t parallelism ∧
            summary.vertices.length = summary.vertexCount ∧
            summary.adjacencyEntries = 2 * summary.edgeCount ∧
            ∀ entry ∈ summary.numbered, entry.1 ∉ entry.2.neighbors ∧ entry.2.Ones format := by
  obtain ⟨valid, parallelism, read, resolved, holds⟩ := holds_of_expand Labels.textual_none built
  have bare := unlabelled_of_declared holds
  have vertexCount := vertexCount_of_declared holds
  have proper : (properLinks g).length = properCount t parallelism := by
    rw [← countP_isProper holds.sound, holds.edges, countP_declaredEdges valid resolved]
  refine ⟨parallelism, read, ?_, fun format => ⟨?_, fun text rendered => ?_⟩⟩
  · rw [holds.edgeCount_eq, length_declaredEdges valid resolved]
  · rw [← vertexCount, ← proper]
    exact exists_render_iff holds.sound bare format
  · obtain ⟨summary, parsed, vertices, edges, others⟩ :=
      parse_render_unlabelled holds.sound bare rendered
    exact ⟨summary, parsed, vertices.trans vertexCount, edges.trans proper, others⟩

/-- A bolt with three instances that reads itself. -/
def echo : Topology where
  bolts :=
    [{ name := .text "echo"
       config := [.entry (.text defaultParallelismKey) (.text "3")]
       inputs := [{ component := .text "echo" }] }]

theorem parallelismOf_echo :
    ∀ c ∈ echo.components, parallelismOf c (echo.effectiveKey none) = .ok 3 := by
  intro c member
  apply toOption_eq_some.mp
  revert c
  decide +kernel

theorem exists_expand_echo : ∃ g, (expand echo none).outcome = .ok g :=
  Expansion.exists_expand rfl rfl Labels.textual_none
    (Expansion.plan_eq_ok parallelismOf_echo {} (by decide +kernel))

theorem isLoop_echo :
    ∀ bolt ∈ echo.bolts, ∀ input ∈ bolt.inputs, Expansion.isLoop bolt input = true := by
  decide +kernel

section Echo

open Expansion

variable {parallelism : Component → Nat}
  (three : ∀ c ∈ echo.components, parallelism c = 3)

include three

theorem sum_echo : (echo.components.map parallelism).sum = 3 := by
  rw [List.map_congr_left three]
  rfl

theorem properCount_echo : properCount echo parallelism = 6 := by
  refine (sum_inputs_congr (g := fun _ _ => 6) fun bolt member input inside => ?_).trans rfl
  rw [if_pos (isLoop_echo bolt member input inside), three _ (Topology.bolt_mem_components member)]

theorem loopCount_echo : loopCount echo parallelism = 3 := by
  refine (sum_inputs_congr (g := fun _ _ => 3) fun bolt member input inside => ?_).trans rfl
  rw [if_pos (isLoop_echo bolt member input inside), three _ (Topology.bolt_mem_components member)]

end Echo

open Metis in
theorem parse_render_expand_echo :
    ∃ g, (expand echo none).outcome = .ok g ∧ g.edgeCount = 9 ∧
      ∃ text summary,
        (render 64 g
          (.ofFormat { vertexWeights := true, ncon := 2, ncon_pos := by decide })).outcome =
            .ok text ∧
        parse (Text.symbols text) = .ok summary ∧ summary.vertexCount = 3 ∧
        summary.edgeCount = 6 := by
  obtain ⟨g, built⟩ := exists_expand_echo
  obtain ⟨parallelism, read, edges, files⟩ := parse_render_expand 64 built
  have three : ∀ c ∈ echo.components, parallelism c = 3 := fun c member =>
    Except.ok.inj ((read c member).symm.trans (parallelismOf_echo c member))
  rw [properCount_echo three, loopCount_echo three] at edges
  obtain ⟨printed, readBack⟩ :=
    files { vertexWeights := true, ncon := 2, ncon_pos := by decide }
  rw [sum_echo three, properCount_echo three] at printed
  obtain ⟨text, rendered⟩ := printed.mpr
    { vertices := by decide +kernel
      edges := by decide +kernel
      ncon := fun _ _ => by decide +kernel
      room := fun _ _ => ⟨by decide +kernel, by decide +kernel⟩ }
  obtain ⟨summary, parsed, vertices, proper, -⟩ := readBack text rendered
  rw [sum_echo three] at vertices
  rw [properCount_echo three] at proper
  exact ⟨g, built, edges, text, summary, rendered, parsed, vertices, proper⟩

open Metis in
/-- With more ones for a vertex than any sequence can have there is no file, however much memory
there is. -/
theorem render_echo_tooLarge :
    ∃ g, (expand echo none).outcome = .ok g ∧
      ∀ memory text, (render memory g
        (.ofFormat { vertexWeights := true, ncon := 2 ^ 63, ncon_pos := by decide })).outcome ≠
          .ok text := by
  obtain ⟨g, built⟩ := exists_expand_echo
  obtain ⟨-, parallelism, read, resolved, holds⟩ :=
    Expansion.holds_of_expand Labels.textual_none built
  refine ⟨g, built, fun memory text rendered => ?_⟩
  have printable := (exists_render_iff holds.sound (Expansion.unlabelled_of_declared holds) _).mp
    ⟨text, rendered⟩
  have three : ∀ c ∈ echo.components, parallelism c = 3 := fun c member =>
    Except.ok.inj ((read c member).symm.trans (parallelismOf_echo c member))
  have some : 0 < g.vertexCount := by
    rw [Expansion.vertexCount_of_declared holds, sum_echo three]
    decide
  have room : (2 : Nat) ^ 63 < sequenceBound := (printable.room rfl some).2
  revert room
  decide +kernel

end TaskGraph
