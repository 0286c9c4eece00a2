/-
Module: TaskGraph.Proofs.Files.Path
Purpose: The places that paths name, and the paths that stay below any directory they are joined
  to.
Main exports:
  Files.Path.placeIn, Files.Below, Files.Tree.eq_placeIn_of_locate, Files.Path.placeIn_join,
  Files.Path.Confined, Files.Path.Stays, Files.Path.stays_iff, Files.Path.exists_parts_concat,
  Files.Path.stays_of_slashless
-/
import Mathlib.Data.Set.Finite.Basic
import TaskGraph.Proofs.Files.Tree
import TaskGraph.Proofs.Text.Lines

namespace TaskGraph.Files

/-! ### The places that paths name -/

/-- The place that a path names in a working directory, where each name for the directory above
takes back the name before it. -/
def Path.placeIn (working : Place) (p : Path) : Place :=
  climb (if p.root.isEmpty then working else []) p.parts

/-- A place is in a directory, however deep. -/
def Below (directory place : Place) : Prop :=
  directory <+: place ∧ place ≠ directory

instance (directory place : Place) : Decidable (Below directory place) :=
  inferInstanceAs (Decidable (_ ∧ _))

/-- A walk ends where its names lead without a look at the tree. -/
theorem Tree.eq_climb_of_walk {t : Tree} {place found : Place} {names : List Text}
    (walked : t.walk place names = .ok found) : found = Path.climb place names := by
  induction names generalizing place with
  | nil =>
      cases walked
      rfl
  | cons name rest inductionHypothesis =>
      rw [walk] at walked
      rw [Path.climb]
      split at walked
      · cases walked
      · cases walked
      · split at walked
        · rw [if_pos ‹_›]
          exact inductionHypothesis walked
        · rw [if_neg ‹_›]
          split at walked
          · cases walked
          · exact inductionHypothesis walked

theorem Tree.eq_placeIn_of_locate {t : Tree} {path : Path} {place : Place}
    (located : t.locate path = .ok place) : place = path.placeIn t.working := by
  rw [locate] at located
  split at located
  · cases located
  · exact eq_climb_of_walk located

namespace Path

theorem climb_append (found names more : List Text) :
    climb found (names ++ more) = climb (climb found names) more := by
  induction names generalizing found with
  | nil => rfl
  | cons name rest inductionHypothesis =>
      rw [List.cons_append, climb, climb]
      split
      · exact inductionHypothesis _
      · exact inductionHypothesis _

/-- A last name that leads down is the last of the place. -/
theorem climb_concat (found names : List Text) {last : Text} (down : last ≠ "..") :
    climb found (names ++ [last]) = climb found names ++ [last] := by
  rw [climb_append, climb, if_neg down, climb]

theorem mem_climb {found names : List Text} {name : Text} (member : name ∈ climb found names) :
    name ∈ found ∨ name ∈ names := by
  induction names generalizing found with
  | nil => exact .inl member
  | cons first rest inductionHypothesis =>
      rw [climb] at member
      split at member
      · rcases inductionHypothesis member with earlier | later
        · exact .inl (List.mem_of_mem_dropLast earlier)
        · exact .inr (List.mem_cons_of_mem first later)
      · rcases inductionHypothesis member with earlier | later
        · rcases List.mem_append.mp earlier with earlier | here
          · exact .inl earlier
          · exact .inr (by rw [List.mem_singleton.mp here]; exact List.mem_cons_self)
        · exact .inr (List.mem_cons_of_mem first later)

/-- A path with a root leads where it says, and any other goes on from the path before it. -/
theorem placeIn_join (working : Place) (p q : Path) :
    (p.join q).placeIn working =
      climb (if q.root.isEmpty then p.placeIn working else []) q.parts := by
  rw [join]
  split
  · exact climb_append _ _ _
  · rename_i rooted
    rw [placeIn, if_neg rooted]

/-! ### Paths that stay below a directory -/

/-- From so many names down, some names never lead above the start. -/
def staysBelow (depth : Nat) : List Text → Bool
  | [] => true
  | name :: rest =>
    if name = ".." then 0 < depth && staysBelow (depth - 1) rest else staysBelow (depth + 1) rest

/-- From any working directory, a path leads to a place in any directory that it is joined to. -/
def Confined (p : Path) : Prop :=
  ∀ (directory : Text) (working : Place),
    Below ((ofText directory).placeIn working) (((ofText directory).join p).placeIn working)

/-- A path has no root, and it never leads above its start on the way. -/
def Stays (p : Path) : Prop :=
  p.root.isEmpty = true ∧ staysBelow 0 p.parts = true

instance (p : Path) : Decidable p.Stays :=
  inferInstanceAs (Decidable (_ ∧ _))

/-- Names that never lead above the start leave what is before it as it is. -/
theorem climb_of_staysBelow (base below : List Text) {names : List Text}
    (stays : staysBelow below.length names = true) :
    climb (base ++ below) names = base ++ climb below names := by
  induction names generalizing below with
  | nil => rfl
  | cons name rest inductionHypothesis =>
      rw [staysBelow] at stays
      rw [climb, climb]
      by_cases up : name = ".."
      · rw [if_pos up] at stays
        rw [if_pos up, if_pos up]
        cases below with
        | nil => cases stays
        | cons first others =>
            rw [List.dropLast_append_cons]
            exact inductionHypothesis _ (by simpa using stays)
      · rw [if_neg up] at stays
        rw [if_neg up, if_neg up, List.append_assoc]
        exact inductionHypothesis _ (by simpa using stays)

/-- Names that lead above the start take back the name before it, which comes back only if it is
among them. -/
theorem not_mem_climb_of_climbs {start : Text} (below : List Text) {names : List Text}
    (climbs : staysBelow below.length names = false) (notBelow : start ∉ below)
    (notNamed : start ∉ names) : start ∉ climb (start :: below) names := by
  -- `below` is what stands under the start so far; once it is used up, one more step up takes the
  -- start itself.
  induction names generalizing below with
  | nil => cases climbs
  | cons name rest inductionHypothesis =>
      rw [List.mem_cons, not_or] at notNamed
      rw [staysBelow] at climbs
      rw [climb]
      by_cases up : name = ".."
      · rw [if_pos up] at climbs ⊢
        cases below with
        | nil =>
            intro member
            rcases mem_climb member with earlier | later
            · cases earlier
            · exact notNamed.2 later
        | cons first others =>
            rw [List.dropLast_cons_cons]
            exact inductionHypothesis _ (by simpa using climbs)
              (fun member => notBelow (List.mem_of_mem_dropLast member)) notNamed.2
      · rw [if_neg up] at climbs ⊢
        rw [List.cons_append]
        refine inductionHypothesis _ (by simpa using climbs) (fun member => ?_) notNamed.2
        rcases List.mem_append.mp member with earlier | here
        · exact notBelow earlier
        · exact notNamed.1 (List.mem_singleton.mp here)

/-- A text without slashes that does not stand for the place itself writes one name. -/
theorem ofText_of_slashless {name : Text} (slashless : ∀ c ∈ name.toList, isSlash c = false)
    (named : isIdle name.toList = false) : ofText name = { root := "", parts := [name] } := by
  have unrooted : rootOf name.toList = "" := by
    have none : name.toList.takeWhile isSlash = [] := by
      cases symbols : name.toList with
      | nil => rfl
      | cons c rest =>
          rw [List.takeWhile_cons_of_neg]
          simp [slashless c (by rw [symbols]; exact List.mem_cons_self)]
    rw [rootOf, none]
    rfl
  rw [ofText, unrooted, Text.pieces_eq_singleton _ slashless, List.filter_singleton, named]
  rfl

/-- A name of one or more letters. -/
def letters (n : Nat) : Text :=
  .ofChars (List.replicate (n + 1) 'd')

theorem letters_injective : Function.Injective letters := by
  intro m n same
  have lengths := congrArg (·.toList.length) same
  simpa [letters, Text.ofChars] using lengths

/-- A directory has a name that is not among given ones, however many they are. -/
theorem exists_fresh (names : List Text) :
    ∃ d, d ∉ names ∧ d ≠ ".." ∧ ofText d = { root := "", parts := [d] } := by
  classical
  obtain ⟨d, ⟨n, rfl⟩, fresh⟩ :=
    (Set.infinite_range_of_injective letters_injective).exists_notMem_finset names.toFinset
  have symbols : (letters n).toList = .char 'd' :: Text.symbols (List.replicate n 'd') := rfl
  refine ⟨letters n, by simpa using fresh, fun above => ?_, ofText_of_slashless ?_ ?_⟩
  · have first := congrArg (·.toList.head?) above
    rw [symbols] at first
    cases first
  · intro c member
    obtain ⟨letter, repeated, rfl⟩ := List.mem_map.mp member
    rw [List.eq_of_mem_replicate repeated]
    decide
  · rw [symbols]
    rfl

/-- A path that leads down in the end is confined to any directory exactly if it has no root and
never leads above its start. -/
theorem stays_iff {file : Path} {init : List Text} {last : Text}
    (parts : file.parts = init ++ [last]) (down : last ≠ "..") : file.Stays ↔ file.Confined := by
  constructor
  · intro stays directory working
    have kept := climb_of_staysBelow ((ofText directory).placeIn working) [] stays.2
    rw [List.append_nil, parts, climb_concat [] init down] at kept
    rw [placeIn_join, if_pos stays.1, parts, kept]
    refine ⟨List.prefix_append .., ?_⟩
    simp
  · intro confined
    -- A directory with a fresh name tells by that name whether a place is in it.
    obtain ⟨d, fresh, lower, start⟩ := exists_fresh file.parts
    have place : (ofText d).placeIn [] = [d] := by
      rw [start]
      exact climb_concat [] [] lower
    have inside := (confined d []).1
    rw [placeIn_join, place] at inside
    have member := inside.subset List.mem_cons_self
    by_cases unrooted : file.root.isEmpty = true
    · rw [if_pos unrooted] at member
      refine ⟨unrooted, ?_⟩
      by_contra climbs
      exact not_mem_climb_of_climbs [] (by simpa using climbs) (by simp) fresh member
    · rw [if_neg unrooted] at member
      rcases mem_climb member with earlier | later
      · cases earlier
      · exact absurd later fresh

/-! ### Paths with an extension -/

/-- A name of three or more symbols leads down. -/
theorem leads_down_of_length (name : List Symbol) (long : 3 ≤ name.length) :
    isIdle name = false ∧ Text.ofList name ≠ ".." := by
  constructor
  · refine Bool.eq_false_iff.mpr fun idle => ?_
    rcases Bool.or_eq_true_iff.mp idle with none | point
    · rw [beq_iff_eq.mp none] at long
      cases long
    · rw [beq_iff_eq.mp point] at long
      simp at long
  · intro above
    have symbols : name = [.char '.', .char '.'] := congrArg Text.toList above
    rw [symbols] at long
    simp at long

section Extension

variable {name extension : Text}

theorem toList_withExtension : (name ++ "." ++ extension).toList =
    name.toList ++ Symbol.char '.' :: extension.toList := by
  simp [Text.ofString, Text.ofChars]

variable (slashless : ∀ c ∈ extension.toList, isSlash c = false)
  (long : 2 ≤ extension.toList.length)

include slashless long

variable (name) in
/-- With an extension of two or more symbols, the last name leads down. -/
theorem exists_parts_concat : ∃ (init : List Text) (last : Text),
    (ofText (name ++ "." ++ extension)).parts = init ++ [last] ∧ last ≠ ".." := by
  have ending : ∀ c ∈ Symbol.char '.' :: extension.toList, isSlash c = false :=
    List.forall_mem_cons.mpr ⟨by decide, slashless⟩
  obtain ⟨init, last, -, cut⟩ := Text.exists_pieces_append name.toList ending
  obtain ⟨busy, down⟩ :=
    leads_down_of_length (last ++ Symbol.char '.' :: extension.toList) (by simp; omega)
  refine ⟨(init.filter (!isIdle ·)).map .ofList, .ofList (last ++ .char '.' :: extension.toList),
    ?_, down⟩
  rw [ofText, toList_withExtension, cut, List.filter_append, List.filter_singleton, busy,
    List.map_append]
  rfl

/-- With an extension, a name without slashes stays below any directory. -/
theorem stays_of_slashless (single : ∀ c ∈ name.toList, isSlash c = false) :
    (ofText (name ++ "." ++ extension)).Stays := by
  obtain ⟨busy, down⟩ := leads_down_of_length (name ++ "." ++ extension).toList (by
    rw [toList_withExtension]
    simp
    omega)
  rw [ofText_of_slashless ?_ busy]
  · refine ⟨rfl, ?_⟩
    rw [staysBelow, if_neg down]
    rfl
  · rw [toList_withExtension]
    exact List.forall_mem_append.mpr ⟨single, List.forall_mem_cons.mpr ⟨by decide, slashless⟩⟩

end Extension

end Path

end TaskGraph.Files
