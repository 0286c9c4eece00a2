/-
Module: TaskGraph.Proofs.Expansion.Degrees
Purpose: How many edges leave and enter the instances of a component, told from the parallelism of
  the components alone, and with it the statistics of what an expansion returns.
Main exports:
  Expansion.outDegree, Expansion.inDegree, Expansion.declaredStatistics,
  Expansion.leaving_declaredEnds, Expansion.entering_declaredEnds, degrees_of_expand
-/
import TaskGraph.Proofs.Expansion.Instances
import TaskGraph.Proofs.Graph.Degrees

namespace TaskGraph

/-! ### Lists of pairs and of numbers -/

section Pairs

variable {α β : Type} (xs : List α) (ys : List β)

/-- The pairs whose first item passes are as many as such items, each with all second ones. -/
theorem countP_product_fst (p : α → Bool) :
    (xs ×ˢ ys).countP (fun pair => p pair.1) = xs.countP p * ys.length := by
  induction xs with
  | nil => simp
  | cons x rest inductionHypothesis =>
      have first : (ys.map (Prod.mk x)).countP (fun pair => p pair.1) =
          if p x then ys.length else 0 := by
        cases passes : p x with
        | true => simp [List.countP_map, Function.comp_def, passes]
        | false => simp [List.countP_map, Function.comp_def, passes]
      rw [List.product_cons, List.countP_append, first, inductionHypothesis, List.countP_cons,
        Nat.add_mul, Nat.add_comm, ite_mul, Nat.one_mul, Nat.zero_mul]

/-- The pairs whose second item passes are as many as such items, each with all first ones. -/
theorem countP_product_snd (p : β → Bool) :
    (xs ×ˢ ys).countP (fun pair => p pair.2) = xs.length * ys.countP p := by
  induction xs with
  | nil => simp
  | cons x rest inductionHypothesis =>
      have first : (ys.map (Prod.mk x)).countP (fun pair => p pair.2) = ys.countP p := by
        rw [List.countP_map]
        rfl
      rw [List.product_cons, List.countP_append, first, inductionHypothesis, List.length_cons,
        Nat.add_mul, Nat.add_comm, Nat.one_mul]

end Pairs

/-- A maximum, which is zero where there are no numbers, is bounded as all numbers are. -/
theorem max?_getD_le_iff {xs : List Nat} {bound : Nat} :
    xs.max?.getD 0 ≤ bound ↔ ∀ x ∈ xs, x ≤ bound := by
  cases greatest : xs.max? with
  | none => simp [List.max?_eq_none_iff.mp greatest]
  | some n => exact List.max?_le_iff greatest

theorem foldl_max_eq_max? (xs : List Nat) : xs.foldl max 0 = xs.max?.getD 0 := by
  rw [List.foldl_max, Nat.zero_max]

section Repeated

variable {α β : Type} (xs : List α) (size : α → Nat) (f : α → β)

/-- What is repeated passes as often as it is repeated. -/
theorem countP_flatMap_replicate (p : β → Bool) :
    (xs.flatMap fun x => List.replicate (size x) (f x)).countP p =
      ((xs.filter fun x => p (f x)).map size).sum := by
  have each : ∀ x ∈ xs, (List.replicate (size x) (f x)).countP p =
      if p (f x) then size x else 0 := by
    intro x _
    rw [List.countP_replicate]
  rw [List.countP_flatMap]
  simp only [Function.comp_def]
  rw [List.map_congr_left each, List.sum_map_ite]
  simp

theorem sum_flatMap_replicate (f : α → Nat) :
    (xs.flatMap fun x => List.replicate (size x) (f x)).sum =
      (xs.map fun x => size x * f x).sum := by
  simp [List.flatMap_def, List.sum_flatten, Function.comp_def]

/-- Of what is repeated, the maximum is that of what is repeated at least once. -/
theorem max?_flatMap_replicate (f : α → Nat) :
    (xs.flatMap fun x => List.replicate (size x) (f x)).max?.getD 0 =
      ((xs.filter fun x => 0 < size x).map f).max?.getD 0 := by
  refine eq_of_forall_ge_iff fun bound => ?_
  simp only [max?_getD_le_iff, List.forall_mem_flatMap, List.forall_mem_map, List.mem_filter,
    List.mem_replicate, decide_eq_true_eq, Nat.pos_iff_ne_zero]
  constructor
  · exact fun bounded x entry => bounded x entry.1 _ ⟨entry.2, rfl⟩
  · rintro bounded x member _ ⟨repeats, rfl⟩
    exact bounded x ⟨member, repeats⟩

end Repeated

open TaskGraph.Graph

/-! ### Components by name -/

/-- Components of a valid topology have equal names where they are one component. -/
theorem Topology.name_equal_iff {t : Topology} (valid : t.validate = .ok ()) {c d : Component}
    (first : c ∈ t.components) (second : d ∈ t.components) :
    c.name.equal d.name = true ↔ c = d := by
  obtain ⟨s, named⟩ := Topology.exists_name_eq_text valid first
  rw [named, Value.text_equal_iff, ← named]
  constructor
  · exact fun same => Topology.eq_of_name_eq valid first second same.symm
  · exact fun same => by rw [same]

/-- Of a sum over the components, the terms of those with the name of one are its term alone. -/
theorem Topology.sum_named {t : Topology} (valid : t.validate = .ok ()) {c : Component}
    (declared : c ∈ t.components) (term : Component → Nat) :
    (t.components.map fun d => if c.name.equal d.name then term d else 0).sum = term c := by
  classical
  have others : ∀ d, d ≠ c → d ∈ t.components →
      (if c.name.equal d.name then term d else 0) = 0 := by
    intro d different member
    refine if_neg fun same => different ?_
    exact ((name_equal_iff valid declared member).mp same).symm
  have distinct : t.components.Nodup := .of_map _ (nodup_names valid)
  rw [List.sum_map_eq_nsmul_single c _ others, List.count_eq_one_of_mem distinct declared,
    one_smul, if_pos ((name_equal_iff valid declared declared).mpr rfl)]

namespace Expansion

/-! ### What a topology says of degrees -/

/-- The number of edges that leave each instance of a component: for every input that names the
component, one to each instance of the bolt. -/
def outDegree (t : Topology) (parallelism : Component → Nat) (c : Component) : Nat :=
  (t.bolts.map fun bolt => (bolt.inputs.map fun input =>
    if c.name.equal input.component then parallelism (.bolt bolt) else 0).sum).sum

/-- The number of edges that enter each instance of a component: for every input of a bolt, one
from each instance of the source, and none for a spout. -/
def inDegree (t : Topology) (parallelism : Component → Nat) : Component → Nat
  | .spout _ => 0
  | .bolt bolt => (bolt.inputs.map (sourceCount t parallelism)).sum

/-- The statistics of the graph that a topology declares. -/
def declaredStatistics (t : Topology) (parallelism : Component → Nat) : Statistics where
  vertices := (t.components.map parallelism).sum
  edges := (t.components.map fun c => parallelism c * outDegree t parallelism c).sum
  maxOutDegree :=
    ((t.components.filter fun c => 0 < parallelism c).map (outDegree t parallelism)).max?.getD 0
  maxInDegree :=
    ((t.components.filter fun c => 0 < parallelism c).map (inDegree t parallelism)).max?.getD 0
  isolated :=
    ((t.components.filter fun c => outDegree t parallelism c = 0 ∧ inDegree t parallelism c = 0).map
      parallelism).sum

section Congruence

variable {t : Topology} {parallelism other : Component → Nat}
  (same : ∀ c ∈ t.components, parallelism c = other c)

include same

theorem outDegree_congr (c : Component) :
    outDegree t parallelism c = outDegree t other c :=
  sum_inputs_congr fun bolt member _ _ => by rw [same _ (Topology.bolt_mem_components member)]

theorem inDegree_congr (c : Component) : inDegree t parallelism c = inDegree t other c := by
  cases c with
  | spout s => rfl
  | bolt bolt =>
      refine congrArg List.sum (List.map_congr_left fun input _ => ?_)
      unfold sourceCount
      cases found : t.resolve? input.component with
      | none => rfl
      | some source => exact same source (Topology.mem_of_resolve?_eq_some found).1

/-- Only the parallelism of the components of a topology counts. -/
theorem declaredStatistics_congr :
    declaredStatistics t parallelism = declaredStatistics t other := by
  have outward := funext (outDegree_congr same)
  have inward := funext (inDegree_congr same)
  have present : (t.components.filter fun c => 0 < parallelism c) =
      t.components.filter fun c => 0 < other c :=
    List.filter_congr fun c member => by rw [same c member]
  have edges : (t.components.map fun c => parallelism c * outDegree t other c) =
      t.components.map fun c => other c * outDegree t other c :=
    List.map_congr_left fun c member => by rw [same c member]
  have apart (p : Component → Bool) :
      (t.components.filter p).map parallelism = (t.components.filter p).map other :=
    List.map_congr_left fun c member => same c (List.mem_filter.mp member).1
  simp only [declaredStatistics, outward, inward, present, edges, apart,
    List.map_congr_left same]

end Congruence

/-- The names at the ends of the edges of an input: each instance of the source with each instance
of the bolt. -/
def inputEnds (t : Topology) (parallelism : Component → Nat) (bolt : Bolt) (input : InputStream) :
    List (Value × Value) :=
  (t.resolve? input.component).toList.flatMap fun source =>
    instanceNames source (parallelism source) ×ˢ
      instanceNames (.bolt bolt) (parallelism (.bolt bolt))

/-- The names at the ends of the edges that a topology declares. -/
def declaredEnds (t : Topology) (parallelism : Component → Nat) : List (Value × Value) :=
  t.bolts.flatMap fun bolt => bolt.inputs.flatMap (inputEnds t parallelism bolt)

theorem length_instanceNames (c : Component) (count : Nat) :
    (instanceNames c count).length = count := by
  simp [instanceNames, instances]

theorem countP_declaredEnds (t : Topology) (parallelism : Component → Nat)
    (p : Value × Value → Bool) :
    (declaredEnds t parallelism).countP p =
      (t.bolts.map fun bolt =>
        (bolt.inputs.map fun input => (inputEnds t parallelism bolt input).countP p).sum).sum := by
  simp only [declaredEnds, List.countP_flatMap, Function.comp_def]

/-! ### The ends of what is built -/

section Built

variable {t : Topology} {labels : Labels} {key : Value} {parallelism : Component → Nat}
  {g next : Graph}

theorem ends_addComponent {c : Component} (added : Direct.addComponent labels key g c = .ok next) :
    next.ends = g.ends := by
  let Kept (state : Graph) : Prop := state.ends = g.ends
  have unchanged : Kept next := by
    refine kept_addComponent ?_ rfl added
    intro state after v kept step
    obtain ⟨key, -, isNew, rfl⟩ := addVertex_eq_ok.mp step
    exact (congrArg _ (edgeList_push state v key isNew)).trans kept
  exact unchanged

/-- Each instance of the source is joined to each instance of the bolt, whatever the labels. -/
theorem ends_addLinks {input : InputStream} {source : Component} {bolt : Bolt} {n m : Nat}
    (added : addLinks labels input source.name bolt.name n m g = .ok next) :
    next.ends = g.ends ++ instanceNames source n ×ˢ instanceNames (.bolt bolt) m := by
  have rows : instanceNames source n ×ˢ instanceNames (.bolt bolt) m =
      (instances n).flatMap fun i => (instances m).flatMap fun j =>
        [(.text (instanceName source.name i), .text (instanceName bolt.name j))] := by
    simp only [SProd.sprod, List.product, instanceNames, List.flatMap_map, List.map_map,
      ← List.map_eq_flatMap]
    rfl
  rw [rows]
  refine foldlM_appends (fun i _ state after row => ?_) added
  refine foldlM_appends (fun j _ state after link => ?_) row
  obtain ⟨weights, -, link⟩ := bind_eq_ok.mp link
  obtain ⟨_, _, -, -, rfl⟩ := addEdge_eq_ok.mp link
  simp [ends]

variable (read : ∀ c ∈ t.components, parallelismOf c key = .ok (parallelism c))

include read

theorem ends_addInputs {bolt : Bolt} (member : bolt ∈ t.bolts)
    (added : Direct.addInputs labels t key g bolt = .ok next) :
    next.ends = g.ends ++ bolt.inputs.flatMap (inputEnds t parallelism bolt) := by
  rw [Direct.addInputs, read _ (Topology.bolt_mem_components member), ok_bind] at added
  refine foldlM_appends (fun input _ state after step => ?_) added
  unfold Direct.addInput at step
  unfold inputEnds
  split at step
  · cases step
  · rename_i source found
    rw [read source (Topology.mem_of_resolve?_eq_some found).1, ok_bind] at step
    rw [found, Option.toList_some, List.flatMap_singleton]
    exact ends_addLinks step

/-- What is built has the ends that are declared. -/
theorem ends_build (built : Direct.build labels t key = .ok g) :
    g.ends = declaredEnds t parallelism := by
  obtain ⟨middle, vertices, edges⟩ := bind_eq_ok.mp built
  let Kept (state : Graph) : Prop := state.ends = []
  have bare : Kept middle := by
    refine foldlM_invariant ?_ rfl vertices
    exact fun state c after _ kept step => (ends_addComponent step).trans kept
  have grown := foldlM_appends (fun bolt member state after step =>
    ends_addInputs read member step) edges
  rw [grown, bare, List.nil_append, declaredEnds]

omit read in
theorem ends_of_expand {key : Option Value} (built : (expand t key labels).outcome = .ok g)
    (read : ∀ c ∈ t.components, parallelismOf c (t.effectiveKey key) = .ok (parallelism c)) :
    g.ends = declaredEnds t parallelism := by
  rw [expand_outcome (validate_of_expand labels built), Direct.graph] at built
  simp only [bind_eq_ok] at built
  obtain ⟨bare, returned, -, -, -, -, ⟨⟩⟩ := built
  have built := ends_build read returned
  exact built

end Built

/-! ### Counting ends -/

section Counted

variable {t : Topology} (valid : t.validate = .ok ()) {parallelism : Component → Nat}
  {c : Component} (declared : c ∈ t.components) {i : Nat} (number : i ∈ instances (parallelism c))

include valid declared

/-- Names of instances are one name where component and number are the same. -/
theorem same_instanceName_iff {d : Component} (member : d ∈ t.components) {j : Nat} :
    (Value.text (instanceName d.name j)).same (.text (instanceName c.name i)) = true ↔
      d = c ∧ j = i := by
  obtain ⟨s, cNamed⟩ := Topology.exists_name_eq_text valid declared
  obtain ⟨u, dNamed⟩ := Topology.exists_name_eq_text valid member
  rw [Value.same, beq_iff_eq]
  constructor
  · intro same
    rw [cNamed, dNamed] at same
    obtain ⟨names, numbers⟩ := instanceName_inj same
    exact ⟨Topology.eq_of_name_eq valid member declared (by rw [cNamed, dNamed, names]), numbers⟩
  · rintro ⟨rfl, rfl⟩
    rfl

include number

/-- Among the names of the instances of a component, one of its instances is found once, and an
instance of another component is not found. -/
theorem countP_instanceNames {d : Component} (member : d ∈ t.components) :
    (instanceNames d (parallelism d)).countP (·.same (.text (instanceName c.name i))) =
      if c.name.equal d.name then 1 else 0 := by
  rw [instanceNames, List.countP_map]
  split
  · rename_i same
    cases (Topology.name_equal_iff valid declared member).mp same
    rw [← List.count_eq_one_of_mem List.nodup_range' number]
    refine List.countP_congr fun j _ => ?_
    rw [Function.comp_apply, same_instanceName_iff valid declared member, beq_iff_eq]
    exact and_iff_right rfl
  · rename_i different
    rw [List.countP_eq_zero]
    intro j _ same
    have one := ((same_instanceName_iff valid declared member).mp same).1
    exact different ((Topology.name_equal_iff valid declared member).mpr one.symm)

/-- An input that names a component has for each of its instances an edge to every instance of the
bolt, and any other input has none. -/
theorem leaving_inputEnds (bolt : Bolt) (input : InputStream) :
    (inputEnds t parallelism bolt input).countP
        (fun pair => pair.1.same (.text (instanceName c.name i))) =
      if c.name.equal input.component then parallelism (.bolt bolt) else 0 := by
  cases found : t.resolve? input.component with
  | none =>
      have unnamed : c.name.equal input.component = false := by
        rw [Topology.resolve?_eq_find?, List.find?_eq_none] at found
        simpa using found c declared
      simp [inputEnds, found, unnamed]
  | some source =>
      obtain ⟨inside, same⟩ := Topology.mem_of_resolve?_eq_some found
      obtain ⟨u, named⟩ := Topology.exists_name_eq_text valid inside
      rw [named, Value.text_equal_iff, ← named] at same
      rw [inputEnds, found, Option.toList_some, List.flatMap_singleton, same,
        countP_product_fst _ _ fun name : Value => name.same (.text (instanceName c.name i)),
        countP_instanceNames valid declared number inside, length_instanceNames, ite_mul,
        Nat.one_mul, Nat.zero_mul]

/-- An input of a bolt has for each instance of the bolt an edge from every instance of the source,
and for an instance of another component none. -/
theorem entering_inputEnds {bolt : Bolt} (member : bolt ∈ t.bolts) (input : InputStream) :
    (inputEnds t parallelism bolt input).countP
        (fun pair => pair.2.same (.text (instanceName c.name i))) =
      if c.name.equal bolt.name then sourceCount t parallelism input else 0 := by
  cases found : t.resolve? input.component with
  | none => simp [inputEnds, sourceCount, found]
  | some source =>
      have counted :=
        countP_instanceNames valid declared number (Topology.bolt_mem_components member)
      rw [inputEnds, sourceCount, found, Option.toList_some, List.flatMap_singleton,
        Option.elim_some,
        countP_product_snd _ _ fun name : Value => name.same (.text (instanceName c.name i)),
        counted, length_instanceNames, mul_ite, Nat.mul_one, Nat.mul_zero]
      rfl

/-- The edges that leave an instance are those of the inputs that name its component. -/
theorem leaving_declaredEnds :
    (declaredEnds t parallelism).countP
        (fun pair => pair.1.same (.text (instanceName c.name i))) =
      outDegree t parallelism c := by
  rw [countP_declaredEnds, outDegree]
  exact sum_inputs_congr fun bolt _ input _ =>
    leaving_inputEnds valid declared number bolt input

/-- The edges that enter an instance are those of the inputs of its component. -/
theorem entering_declaredEnds :
    (declaredEnds t parallelism).countP
        (fun pair => pair.2.same (.text (instanceName c.name i))) =
      inDegree t parallelism c := by
  let share (d : Component) : Nat := if c.name.equal d.name then inDegree t parallelism d else 0
  have ofBolt : ∀ bolt ∈ t.bolts,
      (bolt.inputs.map fun input => (inputEnds t parallelism bolt input).countP
        fun pair => pair.2.same (.text (instanceName c.name i))).sum = share (.bolt bolt) := by
    intro bolt member
    simp only [entering_inputEnds valid declared number member]
    change _ = if c.name.equal bolt.name then inDegree t parallelism (.bolt bolt) else 0
    split
    · rfl
    · simp
  -- No edges enter a spout, so the sum over the bolts is one over all components.
  have ofSpouts : ((t.spouts.map Component.spout).map share).sum = 0 := by
    simp [share, Function.comp_def, inDegree]
  calc (declaredEnds t parallelism).countP
        (fun pair => pair.2.same (.text (instanceName c.name i)))
      = (t.bolts.map fun bolt => share (.bolt bolt)).sum := by
        rw [countP_declaredEnds, List.map_congr_left ofBolt]
    _ = (t.components.map share).sum := by
        rw [Topology.components, List.map_append, List.sum_append, ofSpouts, Nat.zero_add,
          List.map_map]
        rfl
    _ = inDegree t parallelism c := Topology.sum_named valid declared (inDegree t parallelism)

end Counted

/-! ### Statistics -/

/-- What is the same for all instances of a component is repeated for each of them. -/
theorem map_vertices_eq {t : Topology} {parallelism : Component → Nat} {g : Graph}
    (names : g.vertices.map (·.name) =
      t.components.flatMap fun c => instanceNames c (parallelism c))
    {β : Type} (view : Value → β) {f : Component → β}
    (each : ∀ c ∈ t.components, ∀ i ∈ instances (parallelism c),
      view (.text (instanceName c.name i)) = f c) :
    (g.vertices.map fun v => view v.name) =
      t.components.flatMap fun c => List.replicate (parallelism c) (f c) := by
  have ofComponent : ∀ c ∈ t.components,
      (instanceNames c (parallelism c)).map view = List.replicate (parallelism c) (f c) := by
    intro c declared
    rw [List.eq_replicate_iff, List.length_map, length_instanceNames]
    refine ⟨rfl, fun b listed => ?_⟩
    obtain ⟨name, member, rfl⟩ := List.mem_map.mp listed
    obtain ⟨i, number, rfl⟩ := List.mem_map.mp member
    exact each c declared i number
  calc (g.vertices.map fun v => view v.name)
      = (g.vertices.map (·.name)).map view := by rw [List.map_map]; rfl
    _ = t.components.flatMap fun c => List.replicate (parallelism c) (f c) := by
        rw [names, List.map_flatMap, List.flatMap_congr ofComponent]

section Statistics

variable {t : Topology} (valid : t.validate = .ok ()) {parallelism : Component → Nat} {g : Graph}
  (ends : g.ends = declaredEnds t parallelism)

include valid ends

theorem leaving_eq {c : Component} (declared : c ∈ t.components) {i : Nat}
    (number : i ∈ instances (parallelism c)) :
    g.leaving (.text (instanceName c.name i)) = outDegree t parallelism c := by
  rw [leaving, ends, leaving_declaredEnds valid declared number]

theorem entering_eq {c : Component} (declared : c ∈ t.components) {i : Nat}
    (number : i ∈ instances (parallelism c)) :
    g.entering (.text (instanceName c.name i)) = inDegree t parallelism c := by
  rw [entering, ends, entering_declaredEnds valid declared number]

variable (names : g.vertices.map (·.name) =
  t.components.flatMap fun c => instanceNames c (parallelism c))

include names

theorem outDegrees_eq_declared (consistent : g.Consistent) :
    g.outDegrees = t.components.flatMap fun c =>
      List.replicate (parallelism c) (outDegree t parallelism c) := by
  rw [consistent.outDegrees_eq]
  exact map_vertices_eq names g.leaving fun c declared i number =>
    leaving_eq valid ends declared number

theorem inDegrees_eq_declared (consistent : g.Consistent) :
    g.inDegrees = t.components.flatMap fun c =>
      List.replicate (parallelism c) (inDegree t parallelism c) := by
  rw [consistent.inDegrees_eq]
  exact map_vertices_eq names g.entering fun c declared i number =>
    entering_eq valid ends declared number

/-- Counted at the sources and counted at the targets, the edges that a topology declares are as
many as the graph has. -/
theorem edgeCount_eq (consistent : g.Consistent) :
    g.edgeCount = (t.components.map fun c => parallelism c * outDegree t parallelism c).sum ∧
      g.edgeCount = (t.components.map fun c => parallelism c * inDegree t parallelism c).sum := by
  obtain ⟨outSum, inSum⟩ := consistent.sum_degrees
  rw [outDegrees_eq_declared valid ends names consistent, sum_flatMap_replicate] at outSum
  rw [inDegrees_eq_declared valid ends names consistent, sum_flatMap_replicate] at inSum
  exact ⟨outSum.symm, inSum.symm⟩

/-- No edge starts or ends at the instances of components with both degrees zero, and at no other
vertices. -/
theorem isolated_eq (consistent : g.Consistent) :
    g.statistics.isolated = (declaredStatistics t parallelism).isolated := by
  have degrees : g.outDegrees.zip g.inDegrees = t.components.flatMap fun c =>
      List.replicate (parallelism c) (outDegree t parallelism c, inDegree t parallelism c) := by
    rw [consistent.outDegrees_eq, consistent.inDegrees_eq, List.zip_map']
    refine map_vertices_eq names (fun name => (g.leaving name, g.entering name)) ?_
    intro c declared i number
    rw [leaving_eq valid ends declared number, entering_eq valid ends declared number]
  rw [Graph.statistics, degrees, declaredStatistics]
  exact countP_flatMap_replicate _ _ _ _

/-- The statistics are those that the topology declares. -/
theorem statistics_eq_declared (consistent : g.Consistent) :
    g.statistics = declaredStatistics t parallelism := by
  have vertices : g.vertexCount = (t.components.map parallelism).sum := by
    rw [← length_vertices, ← List.length_map, names, List.length_flatMap]
    simp only [length_instanceNames]
  have greatestOut : g.outDegrees.foldl max 0 =
      (declaredStatistics t parallelism).maxOutDegree := by
    rw [foldl_max_eq_max?, outDegrees_eq_declared valid ends names consistent,
      max?_flatMap_replicate]
    rfl
  have greatestIn : g.inDegrees.foldl max 0 = (declaredStatistics t parallelism).maxInDegree := by
    rw [foldl_max_eq_max?, inDegrees_eq_declared valid ends names consistent,
      max?_flatMap_replicate]
    rfl
  rw [Statistics.mk.injEq]
  exact ⟨vertices, (edgeCount_eq valid ends names consistent).1, greatestOut, greatestIn,
    isolated_eq valid ends names consistent⟩

end Statistics

end Expansion

open Expansion in
/-- In what an expansion returns, all instances of a component have the same number of outgoing
and the same number of incoming edges, which the parallelism of the components says, and so it does
for the statistics.  The edges are the same number counted at their sources and at their
targets. -/
theorem degrees_of_expand {t : Topology} {key : Option Value} {labels : Labels} {g : Graph}
    (built : (expand t key labels).outcome = .ok g) :
    ∃ parallelism : Component → Nat,
      (∀ c ∈ t.components, parallelismOf c (t.effectiveKey key) = .ok (parallelism c)) ∧
      g.vertices.map (·.name) =
        t.components.flatMap (fun c => instanceNames c (parallelism c)) ∧
      (∀ c ∈ t.components, ∀ i ∈ instances (parallelism c), ∃ outgoing incoming,
        g.outgoing (.text (instanceName c.name i)) = .ok outgoing ∧
        outgoing.length = outDegree t parallelism c ∧
        g.incoming (.text (instanceName c.name i)) = .ok incoming ∧
        incoming.length = inDegree t parallelism c) ∧
      g.statistics = declaredStatistics t parallelism ∧
      (t.components.map fun c => parallelism c * outDegree t parallelism c).sum =
        (t.components.map fun c => parallelism c * inDegree t parallelism c).sum := by
  obtain ⟨valid, consistent, parallelism, read, names⟩ := names_of_expand built
  have ends := ends_of_expand built read
  obtain ⟨fromSources, fromTargets⟩ := edgeCount_eq valid ends names consistent
  refine ⟨parallelism, read, names, fun c declared i number => ?_,
    statistics_eq_declared valid ends names consistent, fromSources.symm.trans fromTargets⟩
  refine ⟨_, _, consistent.outgoing_eq_ok rfl, ?_, consistent.incoming_eq_ok rfl, ?_⟩
  · rw [length_filter_src, leaving_eq valid ends declared number]
  · rw [length_filter_dest, entering_eq valid ends declared number]

/-- A spout and a bolt that joins all its instances with themselves and with each other, reads the
spout twice, and reads a spout without instances.  One bolt has no instances and would have the
most edges, and one spout is read by nobody. -/
def workshop : Topology where
  spouts :=
    [{ name := .text "source", config := [.entry (.text defaultParallelismKey) (.text "2")] },
     { name := .text "idle" },
     { name := .text "alone", config := [.entry (.text defaultParallelismKey) (.text "3")] }]
  bolts :=
    [{ name := .text "worker"
       config := [.entry (.text defaultParallelismKey) (.text "3")]
       inputs :=
         [{ component := .text "source" }, { component := .text "worker" },
          { component := .text "idle" }, { component := .text "source", grouping := .all }] },
     { name := .text "sink"
       config := [.entry (.text defaultParallelismKey) (.text "1")]
       inputs := [{ component := .text "worker" }] },
     { name := .text "unused"
       inputs :=
         [{ component := .text "worker" }, { component := .text "worker" },
          { component := .text "worker" }] }]

/-- The instances of the components of the workshop. -/
def workshopSizes (c : Component) : Nat :=
  if c.name.plain = "source" then 2
  else if c.name.plain = "alone" ∨ c.name.plain = "worker" then 3
  else if c.name.plain = "sink" then 1
  else 0

theorem degrees_of_expand_workshop :
    ∃ g, (expand workshop none).outcome = .ok g ∧
      g.statistics =
        { vertices := 9, edges := 24, maxOutDegree := 6, maxInDegree := 7, isolated := 3 } ∧
      ∃ outgoing incoming, g.outgoing (.text "worker-2") = .ok outgoing ∧ outgoing.length = 4 ∧
        g.incoming (.text "worker-2") = .ok incoming ∧ incoming.length = 7 := by
  have read : ∀ c ∈ workshop.components, parallelismOf c (workshop.effectiveKey none) =
      .ok (workshopSizes c) := by
    intro c member
    apply toOption_eq_some.mp
    revert c
    decide +kernel
  obtain ⟨g, built⟩ : ∃ g, (expand workshop none).outcome = .ok g :=
    Expansion.exists_expand rfl rfl Labels.textual_none
      (Expansion.plan_eq_ok read {} (by decide +kernel))
  obtain ⟨parallelism, alsoRead, -, degrees, statistics, -⟩ := degrees_of_expand built
  have same : ∀ c ∈ workshop.components, parallelism c = workshopSizes c := by
    intro c member
    exact Except.ok.inj ((alsoRead c member).symm.trans (read c member))
  have member : .bolt workshop.bolts[0] ∈ workshop.components :=
    Topology.bolt_mem_components (List.getElem_mem _)
  have number : 2 ∈ instances (parallelism (.bolt workshop.bolts[0])) := by
    rw [same _ member]
    decide +kernel
  obtain ⟨outgoing, incoming, left, leftCount, entered, enteredCount⟩ := degrees _ member 2 number
  refine ⟨g, built, ?_, outgoing, incoming, left, ?_, entered, ?_⟩
  · rw [statistics, Expansion.declaredStatistics_congr same]
    decide +kernel
  · rw [leftCount, Expansion.outDegree_congr same]
    decide +kernel
  · rw [enteredCount, Expansion.inDegree_congr same]
    decide +kernel

end TaskGraph
