/-
Module: TaskGraph.Proofs.Metis.Incidence
Purpose: Links at a vertex: by places they are the edges that names tell, both ends list each
  other equally often, and every link is listed twice.
Main exports:
  Metis.count_neighbors_comm, Metis.sum_length_incident, Metis.incidentEdges_eq,
  Metis.mapM_indexOf_farEnd
-/
import TaskGraph.Metis.Printer
import TaskGraph.Proofs.Graph.Reachable
import TaskGraph.Proofs.Metis.Contents

namespace TaskGraph.Metis

/-! ### Links by places -/

/-- The neighbors of a vertex are the other ends of the links at it. -/
theorem map_fst_incident (links : List Link) (place : Nat) :
    (incident links place).map (·.1) = links.filterMap (otherEnd? place) := by
  rw [incident, List.map_filterMap]
  congr 1
  funext link
  cases otherEnd? place link with
  | none => rfl
  | some other => rfl

/-- A link makes two places neighbors of each other. -/
theorem otherEnd?_comm (link : Link) (u v : Nat) :
    otherEnd? u link = some v ↔ otherEnd? v link = some u := by
  unfold otherEnd?
  grind

/-- Two vertices list each other equally often. -/
theorem count_neighbors_comm (links : List Link) (u v : Nat) :
    ((incident links u).map (·.1)).count v = ((incident links v).map (·.1)).count u := by
  rw [map_fst_incident, map_fst_incident, List.count_filterMap, List.count_filterMap]
  refine List.countP_congr fun link _ => ?_
  rw [beq_iff_eq, beq_iff_eq]
  exact otherEnd?_comm link u v

theorem ne_of_mem_properLinks {g : Graph} {link : Link} (member : link ∈ properLinks g) :
    link.source ≠ link.target := by
  simpa [properLinks] using (List.mem_filter.mp member).2

/-- A vertex is not its own neighbor. -/
theorem not_mem_neighbors {links : List Link}
    (proper : ∀ link ∈ links, link.source ≠ link.target) (place : Nat) :
    place ∉ (incident links place).map (·.1) := by
  rw [map_fst_incident, List.mem_filterMap]
  intro found
  rcases found with ⟨link, member, other⟩
  have different := proper link member
  unfold otherEnd? at other
  grind

/-- Neighbors lie where links end. -/
theorem lt_of_mem_neighbors {links : List Link} {count place other : Nat}
    (within : ∀ link ∈ links, link.source < count ∧ link.target < count)
    (member : other ∈ (incident links place).map (·.1)) : other < count := by
  rw [map_fst_incident, List.mem_filterMap] at member
  obtain ⟨link, inside, found⟩ := member
  obtain ⟨source, target⟩ := within link inside
  unfold otherEnd? at found
  grind

/-- A place lies at one end of a link, and counts once in the sum over all places. -/
theorem sum_range_indicator {place count : Nat} (within : place < count) :
    ((List.range count).map fun other => if place = other then 1 else 0).sum = 1 := by
  induction count with
  | zero => omega
  | succ count inductionHypothesis =>
      rw [List.range_succ, List.map_append, List.sum_append]
      rcases Nat.lt_succ_iff_lt_or_eq.mp within with earlier | rfl
      · simp [inductionHypothesis earlier, Nat.ne_of_lt earlier]
      · have before : ((List.range place).map fun other => if place = other then 1 else 0) =
            (List.range place).map fun _ => 0 := by
          refine List.map_congr_left fun other member => if_neg ?_
          have := List.mem_range.mp member
          omega
        simp [before]

/-- Every link is listed at both its ends. -/
theorem sum_length_incident {links : List Link} {count : Nat}
    (proper : ∀ link ∈ links, link.source ≠ link.target)
    (within : ∀ link ∈ links, link.source < count ∧ link.target < count) :
    ((List.range count).map fun place => (incident links place).length).sum =
      2 * links.length := by
  induction links with
  | nil => simp [incident]
  | cons link rest inductionHypothesis =>
      have later := inductionHypothesis (fun other member => proper other (by simp [member]))
        fun other member => within other (by simp [member])
      have different := proper link (by simp)
      obtain ⟨source, target⟩ := within link (by simp)
      have each : ∀ place, (incident (link :: rest) place).length =
          (incident rest place).length +
            ((if link.source = place then 1 else 0) + if link.target = place then 1 else 0) := by
        intro place
        simp only [incident, List.filterMap_cons, otherEnd?]
        grind
      simp only [each, List.sum_map_add, later, sum_range_indicator source,
        sum_range_indicator target, List.length_cons]
      omega

/-- A link starts or ends at a place. -/
def isAt (place : Nat) (link : Link) : Bool :=
  link.source == place || link.target == place

theorem incident_eq_map (links : List Link) (place : Nat) :
    incident links place = (links.filter (isAt place)).map fun link =>
      (if link.source = place then link.target else link.source, link.edge) := by
  induction links with
  | nil => rfl
  | cons link rest inductionHypothesis =>
      simp only [incident, List.filterMap_cons, otherEnd?, List.filter_cons, isAt] at *
      grind

theorem incident_properLinks (g : Graph) (place : Nat) :
    incident (properLinks g) place =
      (g.links.toList.filter fun link => link.source != link.target && isAt place link).map
        fun link => (if link.source = place then link.target else link.source, link.edge) := by
  rw [incident_eq_map, properLinks, List.filter_filter]
  simp only [Bool.and_comm]

/-- The edges at a place are edges of the graph. -/
theorem mem_edgeList_of_incident {g : Graph} {place : Nat} {pair : Nat × Edge}
    (member : pair ∈ incident (properLinks g) place) : pair.2 ∈ g.edgeList := by
  obtain ⟨link, inside, found⟩ := List.mem_filterMap.mp member
  obtain ⟨other, -, rfl⟩ := Option.map_eq_some_iff.mp found
  exact List.mem_map.mpr ⟨link, (List.mem_filter.mp inside).1, rfl⟩

/-! ### Links by names -/

section Names

variable {g : Graph} (sound : g.Sound)

include sound

/-- The places of a link lie in the graph. -/
theorem lt_of_mem_properLinks {link : Link} (member : link ∈ properLinks g) :
    link.source < g.vertexCount ∧ link.target < g.vertexCount := by
  obtain ⟨source, target⟩ := sound.link link (List.mem_filter.mp member).1
  exact ⟨Graph.lt_vertexCount source, Graph.lt_vertexCount target⟩

theorem lt_of_incident {place : Nat} {pair : Nat × Edge}
    (member : pair ∈ incident (properLinks g) place) : pair.1 < g.vertexCount :=
  lt_of_mem_neighbors (fun _ inside => lt_of_mem_properLinks sound inside)
    (List.mem_map.mpr ⟨pair, member, rfl⟩)

/-- A link joins two places if its edge joins two names. -/
theorem isProper_eq {link : Link} (member : link ∈ g.links.toList) :
    isProper link.edge = (link.source != link.target) := by
  obtain ⟨source, target⟩ := sound.link link member
  rw [isProper, bne, Bool.not_inj_iff, Bool.eq_iff_iff, beq_iff_eq]
  exact Graph.same_iff_place_eq source target

theorem countP_isProper : g.edgeList.countP isProper = (properLinks g).length := by
  rw [Graph.edgeList, List.countP_map, properLinks, ← List.countP_eq_length_filter]
  exact List.countP_congr fun link member => by rw [Function.comp, isProper_eq sound member]

variable {name : Value} {place : Nat} (found : g.place? name = .ok (some place))

include found

/-- The edges at a name are those of the links at its place. -/
theorem incidentEdges_eq :
    incidentEdges g name = (incident (properLinks g) place).map (·.2) := by
  rw [incidentEdges, Graph.edgeList, List.filter_map, incident_properLinks, List.map_map]
  refine congrArg (List.map Link.edge) (List.filter_congr fun link member => ?_)
  obtain ⟨source, target⟩ := sound.link link member
  have atSource := Graph.same_iff_place_eq source found
  have atTarget := Graph.same_iff_place_eq target found
  rw [Function.comp, isProper_eq sound member, isAt, Bool.eq_iff_iff]
  simp only [Bool.and_eq_true, Bool.or_eq_true, atSource, atTarget, beq_iff_eq]

/-- The name at the far end of an edge leads to the other end of its link. -/
theorem mapM_indexOf_farEnd :
    ((incidentEdges g name).mapM fun e => (g.indexOf (farEnd name e)).toOption) =
      some ((incident (properLinks g) place).map (·.1 + 1)) := by
  rw [incidentEdges_eq sound found, mapM_eq_some, List.forall₂_map_left_iff,
    List.forall₂_map_right_iff, incident_properLinks, List.forall₂_map_left_iff,
    List.forall₂_map_right_iff, List.forall₂_same]
  intro link member
  obtain ⟨source, target⟩ := sound.link link (List.mem_filter.mp member).1
  rw [toOption_eq_some, farEnd]
  by_cases here : link.source = place
  · rw [if_pos ((Graph.same_iff_place_eq source found).mpr here), if_pos here]
    exact Graph.indexOf_eq_ok target
  · rw [if_neg fun same => here ((Graph.same_iff_place_eq source found).mp same), if_neg here]
    exact Graph.indexOf_eq_ok source

end Names

end TaskGraph.Metis
