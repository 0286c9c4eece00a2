/-
Module: TaskGraph.Proofs.Network.Numbering
Purpose: Items that have keys: numbered by how many items of one key come before them, put into
  groups by key, and the keys themselves in the order in which they first occur.
Main exports:
  eraseDups_append_singleton, numbered, filter_numbered, nodup_numbered, perm_flatMap_filter
-/
import Mathlib

namespace TaskGraph

/-! ### First occurrences -/

section FirstOccurrences

variable {α : Type} [DecidableEq α]

/-- An item at the end stays if it did not occur before. -/
theorem eraseDups_append_singleton (xs : List α) (x : α) :
    (xs ++ [x]).eraseDups = if x ∈ xs then xs.eraseDups else xs.eraseDups ++ [x] := by
  rw [List.eraseDups_append, List.removeAll]
  by_cases known : x ∈ xs
  · simp [known]
  · simp [known, List.eraseDups_cons]

theorem nodup_eraseDups (xs : List α) : xs.eraseDups.Nodup := by
  induction xs using List.reverseRecOn with
  | nil => exact List.nodup_nil
  | append_singleton earlier x inductionHypothesis =>
      rw [eraseDups_append_singleton]
      split
      · exact inductionHypothesis
      · rename_i isNew
        rw [← List.mem_eraseDups] at isNew
        exact List.nodup_append.mpr ⟨inductionHypothesis, List.nodup_singleton x,
          fun y seen z last same => isNew (List.mem_singleton.mp last ▸ same ▸ seen)⟩

end FirstOccurrences

section Keyed

variable {α κ : Type} [DecidableEq κ] (key : α → κ)

/-! ### Numbers -/

/-- Each item with the number of items before it that have its key. -/
def numbered (xs : List α) : List (α × Nat) :=
  xs.zipIdx.map fun entry => (entry.1, (xs.take entry.2).countP fun y => key y = key entry.1)

theorem map_fst_numbered (xs : List α) : (numbered key xs).map (·.1) = xs := by
  rw [numbered, List.map_map]
  exact List.zipIdx_map_fst 0 xs

theorem numbered_append_singleton (xs : List α) (x : α) :
    numbered key (xs ++ [x]) = numbered key xs ++ [(x, xs.countP fun y => key y = key x)] := by
  rw [numbered, List.zipIdx_append, List.map_append]
  congr 1
  · refine List.map_congr_left fun entry member => ?_
    have within : entry.2 < xs.length :=
      (List.getElem?_eq_some_iff.mp (List.mem_zipIdx_iff_getElem?.mp member)).1
    rw [List.take_append_of_le_length within.le]
  · simp

/-- The items with one key are numbered from zero on. -/
theorem filter_numbered (xs : List α) (k : κ) :
    (numbered key xs).filter (fun entry => key entry.1 = k) =
      (xs.filter fun x => key x = k).zipIdx := by
  induction xs using List.reverseRecOn with
  | nil => rfl
  | append_singleton earlier x inductionHypothesis =>
      rw [numbered_append_singleton, List.filter_append, List.filter_append, inductionHypothesis,
        List.zipIdx_append]
      by_cases same : key x = k
      · subst same
        simp [List.countP_eq_length_filter]
      · simp [same]

theorem mem_numbered_iff {xs : List α} {x : α} {n : Nat} :
    (x, n) ∈ numbered key xs ↔ (xs.filter fun y => key y = key x)[n]? = some x := by
  rw [← List.mem_zipIdx_iff_getElem? (x := (x, n)), ← filter_numbered, List.mem_filter]
  simp

/-- No two items have one key and one number. -/
theorem nodup_numbered (xs : List α) :
    ((numbered key xs).map fun entry => (key entry.1, entry.2)).Nodup := by
  induction xs using List.reverseRecOn with
  | nil => exact List.nodup_nil
  | append_singleton earlier x inductionHypothesis =>
      rw [numbered_append_singleton, List.map_append, List.map_singleton]
      refine List.nodup_append.mpr ⟨inductionHypothesis, List.nodup_singleton _, ?_⟩
      intro pair among last isLast same
      obtain ⟨⟨y, n⟩, member, rfl⟩ := List.mem_map.mp among
      rw [List.mem_singleton.mp isLast] at same
      obtain ⟨alike, number⟩ := Prod.ext_iff.mp same
      obtain ⟨within, -⟩ := List.getElem?_eq_some_iff.mp ((mem_numbered_iff key).mp member)
      dsimp only at alike number
      rw [alike, ← List.countP_eq_length_filter, number] at within
      exact Nat.lt_irrefl _ within

/-! ### Groups -/

/-- Groups by different keys are the items, in another order, if every item has one of the keys. -/
theorem perm_flatMap_filter {keys : List κ} {xs : List α} (different : keys.Nodup)
    (covered : ∀ x ∈ xs, key x ∈ keys) :
    (keys.flatMap fun k => xs.filter fun x => key x = k).Perm xs := by
  induction keys generalizing xs with
  | nil =>
      rw [List.eq_nil_iff_forall_not_mem.mpr fun x member => List.not_mem_nil (covered x member)]
      rfl
  | cons k rest inductionHypothesis =>
      obtain ⟨isNew, others⟩ := List.nodup_cons.mp different
      have elsewhere : ∀ x ∈ xs.filter (fun x => !decide (key x = k)), key x ∈ rest := by
        intro x member
        obtain ⟨inside, other⟩ := List.mem_filter.mp member
        exact (List.mem_cons.mp (covered x inside)).resolve_left (by simpa using other)
      have narrowed : ∀ k' ∈ rest, (xs.filter fun x => key x = k') =
          (xs.filter fun x => !decide (key x = k)).filter fun x => key x = k' := by
        intro k' member
        rw [List.filter_filter]
        refine List.filter_congr fun x _ => ?_
        have apart : k' ≠ k := fun same => isNew (same ▸ member)
        by_cases same : key x = k'
        · simp [same, apart]
        · simp [same]
      rw [List.flatMap_cons, List.flatMap_congr narrowed]
      exact ((inductionHypothesis others elsewhere).append_left _).trans
        (List.filter_append_perm _ xs)

end Keyed

end TaskGraph
