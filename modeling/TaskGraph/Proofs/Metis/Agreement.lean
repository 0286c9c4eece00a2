/-
Module: TaskGraph.Proofs.Metis.Agreement
Purpose: The final check of a graph file looks only at pairs that are listed; it passes exactly
  where all vertices agree, and then the number of edges is a sum over pairs of vertices.
Main exports:
  Metis.checkAgreement_eq_ok, Metis.edgeCount_eq_sum
-/
import TaskGraph.Proofs.Metis.LineReading

namespace TaskGraph.Metis

/-! ### Listed pairs -/

theorem Summary.multiplicity_succ (summary : Summary) (i v : Nat) :
    summary.multiplicity (i + 1) v =
      ((summary.vertices[i]?).map fun vertex => vertex.neighbors.count v).getD 0 := rfl

/-- A pair is listed if and only if its multiplicity is not zero. -/
theorem mem_listedPairs {summary : Summary} {u v : Nat} :
    (u, v) ∈ listedPairs summary ↔ summary.multiplicity u v ≠ 0 := by
  simp only [listedPairs, Summary.numbered, List.mem_flatMap, List.mem_map, Prod.exists,
    List.mem_zipIdx_iff_getElem?, Prod.mk.injEq]
  constructor
  · intro listed
    rcases listed with ⟨_, vertex, ⟨_, i, found, rfl, rfl⟩, w, member, rfl, rfl⟩
    rw [Summary.multiplicity_succ, found]
    exact Nat.ne_of_gt (List.count_pos_iff.mpr member)
  · intro listed
    cases u with
    | zero => exact absurd rfl listed
    | succ i =>
        rw [Summary.multiplicity_succ] at listed
        cases found : summary.vertices[i]? with
        | none => simp [found] at listed
        | some vertex =>
            rw [found] at listed
            exact ⟨i + 1, vertex, ⟨vertex, i, found, rfl, rfl⟩, v,
              List.count_pos_iff.mp (Nat.pos_of_ne_zero listed), rfl, rfl⟩

/-- The check passes exactly where the number of entries is right, no vertex lists itself, and
any two vertices list each other equally often.  Pairs that neither side lists agree with
nothing said about them. -/
theorem checkAgreement_eq_ok (summary : Summary) :
    checkAgreement summary = .ok () ↔
      summary.adjacencyEntries = 2 * summary.edgeCount ∧
        (∀ u, summary.multiplicity u u = 0) ∧
        ∀ u v, summary.multiplicity u v = summary.multiplicity v u := by
  unfold checkAgreement
  split
  · rename_i wrong
    exact ⟨fun passed => (nomatch passed), fun right => absurd right.1 wrong⟩
  · rename_i right
    rw [ne_eq, not_not] at right
    simp only [right, true_and]
    split
    · rename_i u v found
      have listed := mem_listedPairs.mp (List.mem_of_find?_eq_some found)
      have same : u = v := by simpa using List.find?_some found
      subst same
      exact ⟨fun passed => (nomatch passed), fun agree => absurd (agree.1 u) listed⟩
    · rename_i none
      have loopless (u : Nat) : summary.multiplicity u u = 0 := by
        by_contra listed
        have differ := List.find?_eq_none.mp none (u, u) (mem_listedPairs.mpr listed)
        simp at differ
      split
      · rename_i u v found
        have differ := List.find?_some found
        simp only [ne_eq, decide_eq_true_eq] at differ
        exact ⟨fun passed => (nomatch passed), fun agree => absurd (agree.2 u v) differ⟩
      · rename_i equal
        refine ⟨fun _ => ⟨loopless, fun u v => ?_⟩, fun _ => rfl⟩
        have listed {a b : Nat} (nonzero : summary.multiplicity a b ≠ 0) :
            summary.multiplicity a b = summary.multiplicity b a := by
          simpa using List.find?_eq_none.mp equal _ (mem_listedPairs.mpr nonzero)
        by_cases forward : summary.multiplicity u v = 0
        · by_cases backward : summary.multiplicity v u = 0
          · rw [forward, backward]
          · exact (listed backward).symm
        · exact listed forward

theorem checkAgreement_refuses (summary : Summary) : Refuses (checkAgreement summary) := by
  unfold checkAgreement
  split
  · exact .refuse _
  · simp only
    split
    · exact .refuse _
    · split
      · exact .refuse _
      · exact .ok _

/-! ### The number of edges -/

/-- The sum over all pairs of a symmetric function that is zero on equal numbers counts every
pair of different numbers twice. -/
theorem sum_pairs_eq_two_mul {f : Nat → Nat → Nat} (symmetric : ∀ u v, f u v = f v u)
    (loopless : ∀ u, f u u = 0) (n : Nat) :
    ∑ u ∈ Finset.Icc 1 n, ∑ v ∈ Finset.Icc 1 n, f u v =
      2 * ∑ u ∈ Finset.Icc 1 n, ∑ v ∈ Finset.Ioc u n, f u v := by
  induction n with
  | zero => simp
  | succ n inductionHypothesis =>
      have above : ∑ u ∈ Finset.Icc 1 n, ∑ v ∈ Finset.Ioc u (n + 1), f u v =
          ∑ u ∈ Finset.Icc 1 n, ∑ v ∈ Finset.Ioc u n, f u v +
            ∑ u ∈ Finset.Icc 1 n, f u (n + 1) := by
        rw [← Finset.sum_add_distrib]
        refine Finset.sum_congr rfl fun u member => ?_
        exact Finset.sum_Ioc_succ_top (Finset.mem_Icc.mp member).2 _
      have last : ∑ v ∈ Finset.Icc 1 n, f (n + 1) v = ∑ u ∈ Finset.Icc 1 n, f u (n + 1) :=
        Finset.sum_congr rfl fun u _ => symmetric (n + 1) u
      simp only [Finset.sum_Icc_succ_top (Nat.le_add_left 1 n), Finset.sum_add_distrib,
        inductionHypothesis, above, last, loopless, Finset.Ioc_self, Finset.sum_empty]
      ring

/-- The length of a list of vertex numbers is the sum of how often each of them occurs. -/
theorem length_eq_sum_count {neighbors : List Nat} {n : Nat}
    (inRange : ∀ v ∈ neighbors, 1 ≤ v ∧ v ≤ n) :
    neighbors.length = ∑ v ∈ Finset.Icc 1 n, neighbors.count v := by
  rw [← List.sum_toFinset_count_eq_length]
  refine Finset.sum_subset (fun v member => ?_) fun v _ absent => ?_
  · exact Finset.mem_Icc.mpr (inRange v (List.mem_toFinset.mp member))
  · exact List.count_eq_zero.mpr fun member => absent (List.mem_toFinset.mpr member)

/-- The sum over a list is a sum over the numbers of its items. -/
theorem sum_map_eq_sum_Icc {α : Type} (xs : List α) (g : α → Nat) :
    (xs.map g).sum = ∑ u ∈ Finset.Icc 1 xs.length, ((xs[u - 1]?).map g).getD 0 := by
  induction xs using List.reverseRecOn with
  | nil => simp
  | append_singleton before x inductionHypothesis =>
      rw [List.map_append, List.sum_append, inductionHypothesis, List.length_append,
        List.length_singleton, Finset.sum_Icc_succ_top (Nat.le_add_left 1 _)]
      congr 1
      · refine Finset.sum_congr rfl fun u member => ?_
        have within := Finset.mem_Icc.mp member
        rw [List.getElem?_append_left (by omega)]
      · simp

/-- Every edge is a pair of vertices with a multiplicity, counted from its smaller end. -/
theorem edgeCount_eq_sum {summary : Summary}
    (complete : summary.vertices.length = summary.vertexCount)
    (inRange : ∀ vertex ∈ summary.vertices, ∀ neighbor ∈ vertex.neighbors,
      1 ≤ neighbor ∧ neighbor ≤ summary.vertexCount)
    (agree : checkAgreement summary = .ok ()) :
    summary.edgeCount =
      ∑ u ∈ Finset.Icc 1 summary.vertexCount, ∑ v ∈ Finset.Ioc u summary.vertexCount,
        summary.multiplicity u v := by
  obtain ⟨entries, loopless, symmetric⟩ := (checkAgreement_eq_ok summary).mp agree
  have counted : summary.adjacencyEntries =
      ∑ u ∈ Finset.Icc 1 summary.vertexCount, ∑ v ∈ Finset.Icc 1 summary.vertexCount,
        summary.multiplicity u v := by
    rw [Summary.adjacencyEntries, List.length_flatMap, sum_map_eq_sum_Icc, complete]
    refine Finset.sum_congr rfl fun u member => ?_
    have within := Finset.mem_Icc.mp member
    obtain ⟨i, rfl⟩ : ∃ i, u = i + 1 := ⟨u - 1, by omega⟩
    have found : summary.vertices[i]? = some summary.vertices[i] :=
      List.getElem?_eq_getElem (by omega)
    simp only [Nat.add_sub_cancel, Summary.multiplicity_succ, found, Option.map_some,
      Option.getD_some]
    exact length_eq_sum_count (inRange _ (List.getElem_mem _))
  rw [sum_pairs_eq_two_mul symmetric loopless] at counted
  omega

end TaskGraph.Metis
