/-
Module: TaskGraph.Proofs.Files.Tree
Purpose: What operations on a tree of files do to the places of the tree.
Main exports:
  Files.Tree.file?, Files.Tree.entry?_put, Files.Tree.entry?_erase, Files.Tree.OnlyAt,
  Files.Tree.Keeps, Files.Tree.locate_of_directories, Files.Tree.write_eq_ok,
  Files.Tree.rename_eq_ok, Files.Tree.failsOnly_withPlace
-/
import TaskGraph.Files.Tree
import TaskGraph.Proofs.Failure

namespace TaskGraph.Files.Tree

/-! ### Places -/

/-- The bytes and the mode of the file at a place. -/
def file? (t : Tree) (place : Place) : Option (List UInt8 × Nat) :=
  match t.entry? place with
  | some (.file content mode) => some (content, mode)
  | _ => none

theorem file?_congr {t t' : Tree} {place : Place} (same : t'.entry? place = t.entry? place) :
    t'.file? place = t.file? place := by
  rw [file?, file?, same]

@[simp] theorem entry?_root (t : Tree) : t.entry? [] = some .directory := rfl

theorem ne_root_of_other {t : Tree} {place : Place} (other : t.entry? place ≠ some .directory) :
    place ≠ [] := by
  rintro rfl
  exact other (entry?_root t)

theorem entry?_of_ne {t : Tree} {place : Place} (below : place ≠ []) :
    t.entry? place = t.entries.lookup place := by
  cases place with
  | nil => exact absurd rfl below
  | cons name rest => rfl

theorem lookup_cons_ite (here other : Place) (entry : Entry) (rest : List (Place × Entry)) :
    ((here, entry) :: rest).lookup other =
      if other = here then some entry else rest.lookup other := by
  rw [List.lookup_cons]
  by_cases same : other = here
  · rw [if_pos same, beq_iff_eq.mpr same]
  · rw [if_neg same, beq_eq_false_iff_ne.mpr same]

theorem lookup_map_put {entries : List (Place × Entry)} {place : Place} {entry : Entry}
    (present : entries.any (·.1 == place) = true) (other : Place) :
    (entries.map fun old => if old.1 == place then (place, entry) else old).lookup other =
      if other = place then some entry else entries.lookup other := by
  induction entries with
  | nil => cases present
  | cons first rest inductionHypothesis =>
      obtain ⟨here, old⟩ := first
      have others : other ≠ place → (rest.map fun old => if old.1 == place then (place, entry)
          else old).lookup other = rest.lookup other := by
        intro differ
        by_cases more : rest.any (·.1 == place) = true
        · rw [inductionHypothesis more, if_neg differ]
        · have same :
              (rest.map fun old => if old.1 == place then (place, entry) else old) = rest := by
            refine (List.map_congr_left fun found member => ?_).trans (List.map_id' rest)
            exact if_neg fun hit => more (List.any_eq_true.mpr ⟨found, member, hit⟩)
          rw [same]
      rw [List.map_cons]
      by_cases same : here = place
      · subst same
        rw [if_pos (beq_self_eq_true here), lookup_cons_ite, lookup_cons_ite]
        by_cases asked : other = here
        · rw [if_pos asked, if_pos asked]
        · rw [if_neg asked, if_neg asked, if_neg asked, others asked]
      · have later : rest.any (·.1 == place) = true := by simpa [same] using present
        rw [if_neg (by simpa using same), lookup_cons_ite, lookup_cons_ite,
          inductionHypothesis later]
        by_cases asked : other = here
        · subst asked
          rw [if_pos rfl, if_neg same, if_pos rfl]
        · rw [if_neg asked, if_neg asked]

/-- An entry that is put at a place is there, and nothing else has changed. -/
theorem entry?_put {t : Tree} {place : Place} (below : place ≠ []) (entry : Entry)
    (other : Place) :
    Tree.entry? (t.put place entry) other =
      if other = place then some entry else t.entry? other := by
  by_cases root : other = []
  · subst root
    rw [if_neg (Ne.symm below), entry?_root, entry?_root]
  · rw [entry?_of_ne root, entry?_of_ne root, put]
    by_cases present : t.entries.any (·.1 == place) = true
    · rw [if_pos present]
      exact lookup_map_put present other
    · rw [if_neg present, List.lookup_append, lookup_cons_ite, List.lookup_nil]
      by_cases asked : other = place
      · subst asked
        have absent : t.entries.lookup other = none := by
          rw [List.lookup_eq_none_iff]
          intro found member
          refine bne_iff_ne.mpr fun same => present (List.any_eq_true.mpr ⟨found, member, ?_⟩)
          exact beq_iff_eq.mpr same.symm
        rw [absent, Option.none_or, if_pos rfl]
      · rw [if_neg asked, if_neg asked, Option.or_none]

/-- Nothing is at a place that was cleared, and nothing else has changed. -/
theorem entry?_erase {t : Tree} {place : Place} (below : place ≠ []) (other : Place) :
    Tree.entry? (t.erase place) other = if other = place then none else t.entry? other := by
  by_cases root : other = []
  · subst root
    rw [if_neg (Ne.symm below), entry?_root, entry?_root]
  · rw [entry?_of_ne root, entry?_of_ne root, erase]
    dsimp only
    induction t.entries with
    | nil => simp
    | cons first rest inductionHypothesis =>
        obtain ⟨here, entry⟩ := first
        rw [List.filter_cons, lookup_cons_ite]
        by_cases same : here = place
        · subst same
          rw [if_neg (by simp), inductionHypothesis]
          by_cases asked : other = here
          · rw [if_pos asked, if_pos asked]
          · rw [if_neg asked, if_neg asked, if_neg asked]
        · rw [if_pos (by simpa using same), lookup_cons_ite, inductionHypothesis]
          by_cases asked : other = here
          · subst asked
            rw [if_pos rfl, if_neg same, if_pos rfl]
          · rw [if_neg asked, if_neg asked]

/-! ### Trees that differ in one file -/

/-- A tree after which only the file at a place may have changed.  Directories may have come. -/
structure OnlyAt (place : Place) (before after : Tree) : Prop where
  working : after.working = before.working
  directories : ∀ other, before.entry? other = some .directory →
    after.entry? other = some .directory
  files : ∀ other, other ≠ place → after.file? other = before.file? other

/-- A tree after which all files are as they were, and no others have come. -/
structure Keeps (before after : Tree) : Prop where
  working : after.working = before.working
  directories : ∀ other, before.entry? other = some .directory →
    after.entry? other = some .directory
  files : ∀ other, after.file? other = before.file? other

theorem Keeps.refl (t : Tree) : t.Keeps t :=
  ⟨rfl, fun _ found => found, fun _ => rfl⟩

theorem Keeps.trans {t u v : Tree} (first : t.Keeps u) (second : u.Keeps v) : t.Keeps v where
  working := second.working.trans first.working
  directories other found := second.directories other (first.directories other found)
  files other := (second.files other).trans (first.files other)

theorem Keeps.onlyAt {t u : Tree} (keeps : t.Keeps u) (place : Place) : OnlyAt place t u where
  working := keeps.working
  directories := keeps.directories
  files other _ := keeps.files other

theorem OnlyAt.trans {place : Place} {t u v : Tree} (first : OnlyAt place t u)
    (second : OnlyAt place u v) : OnlyAt place t v where
  working := second.working.trans first.working
  directories other found := second.directories other (first.directories other found)
  files other differ := (second.files other differ).trans (first.files other differ)

/-- Where the file at the place is as it was, nothing has changed. -/
theorem OnlyAt.keeps {place : Place} {t u : Tree} (only : OnlyAt place t u)
    (same : u.file? place = t.file? place) : t.Keeps u where
  working := only.working
  directories := only.directories
  files other := by
    by_cases here : other = place
    · rw [here, same]
    · exact only.files other here

theorem working_put (t : Tree) (place : Place) (entry : Entry) :
    (t.put place entry).working = t.working := by
  unfold put
  split <;> rfl

/-- A file is put where no directory is. -/
theorem onlyAt_put {t : Tree} {place : Place} (free : t.entry? place ≠ some .directory)
    (content : List UInt8) (mode : Nat) : OnlyAt place t (t.put place (.file content mode)) where
  working := working_put ..
  directories other found := by
    rw [entry?_put (ne_root_of_other free), if_neg, found]
    rintro rfl
    exact free found
  files other differ := file?_congr (by rw [entry?_put (ne_root_of_other free), if_neg differ])

theorem onlyAt_erase {t : Tree} {place : Place} (free : t.entry? place ≠ some .directory) :
    OnlyAt place t (t.erase place) where
  working := rfl
  directories other found := by
    rw [entry?_erase (ne_root_of_other free), if_neg, found]
    rintro rfl
    exact free found
  files other differ :=
    file?_congr (by rw [entry?_erase (ne_root_of_other free), if_neg differ])

theorem file?_erase {t : Tree} {place : Place} (free : t.entry? place ≠ some .directory) :
    (t.erase place).file? place = none := by
  rw [file?, entry?_erase (ne_root_of_other free), if_pos rfl]

theorem keeps_putDirectory {t : Tree} {place : Place} (free : t.entry? place = none) :
    t.Keeps (t.put place .directory) := by
  have below : place ≠ [] := by
    rintro rfl
    cases free
  refine ⟨working_put .., fun other found => ?_, fun other => ?_⟩
  · rw [entry?_put below, found, ite_self]
  · by_cases here : other = place
    · rw [file?, file?, entry?_put below, if_pos here, here, free]
    · exact file?_congr (by rw [entry?_put below, if_neg here])

/-! ### Ways to a place -/

theorem walk_of_directories {t u : Tree} {place found : Place} {names : List Text}
    (directories : ∀ other, t.entry? other = some .directory → u.entry? other = some .directory)
    (walked : t.walk place names = .ok found) : u.walk place names = .ok found := by
  induction names generalizing place with
  | nil => exact walked
  | cons name rest inductionHypothesis =>
      rw [walk] at walked ⊢
      split at walked
      · cases walked
      · cases walked
      · rename_i inside
        rw [directories place inside]
        dsimp only
        split
        · rw [if_pos ‹_›] at walked
          exact inductionHypothesis walked
        · rw [if_neg ‹_›] at walked
          split
          · rw [if_pos ‹_›] at walked
            cases walked
          · rw [if_neg ‹_›] at walked
            exact inductionHypothesis walked

/-- A path leads to the same place where the directories are still there. -/
theorem locate_of_directories {t u : Tree} {place : Place} {path : Path}
    (working : u.working = t.working)
    (directories : ∀ other, t.entry? other = some .directory → u.entry? other = some .directory)
    (located : t.locate path = .ok place) : u.locate path = .ok place := by
  rw [locate] at located ⊢
  split at located
  · cases located
  · rw [if_neg ‹_›, working]
    exact walk_of_directories directories located

/-! ### Operations -/

section Operations

variable {t u : Tree} {path : Path}

theorem withPlace_eq_ok {α : Type} {act : Place → Except Fault α} {a : α} :
    t.withPlace path act = .ok a ↔
      checkPath path path = .ok () ∧ ∃ place, t.locate path = .ok place ∧ act place = .ok a := by
  rw [withPlace, check_bind_eq_ok]
  refine and_congr_right fun _ => ?_
  cases t.locate path with
  | error problem => simp [refuse]
  | ok place => simp

theorem makeDirectory_eq_ok : t.makeDirectory path = .ok u ↔
    checkPath path path = .ok () ∧ ∃ place, t.locate path = .ok place ∧
      t.entry? place = none ∧ u = t.put place .directory := by
  rw [makeDirectory, withPlace_eq_ok]
  refine and_congr_right fun _ => exists_congr fun place => and_congr_right fun _ => ?_
  cases t.entry? place with
  | none => simp [eq_comm]
  | some entry => simp [refuse]

theorem read_eq_ok {content : List UInt8} : t.read path = .ok content ↔
    checkPath path path = .ok () ∧ ∃ place, t.locate path = .ok place ∧
      ∃ mode, t.entry? place = some (.file content mode) := by
  rw [read, withPlace_eq_ok]
  refine and_congr_right fun _ => exists_congr fun place => and_congr_right fun _ => ?_
  cases t.entry? place with
  | none => simp [refuse]
  | some entry => cases entry <;> simp [refuse]

theorem write_eq_ok {content : List UInt8} : t.write path content = .ok u ↔
    checkPath path path = .ok () ∧ ∃ place, t.locate path = .ok place ∧
      ∃ old mode, t.entry? place = some (.file old mode) ∧
        u = t.put place (.file content mode) := by
  rw [write, withPlace_eq_ok]
  refine and_congr_right fun _ => exists_congr fun place => and_congr_right fun _ => ?_
  cases t.entry? place with
  | none => simp [refuse]
  | some entry => cases entry <;> simp [refuse, eq_comm]

theorem publish_of_file {place : Place} {content : List UInt8} {mode : Nat}
    (located : t.locate path = .ok place) (found : t.entry? place = some (.file content mode))
    (published : t.publish path = .ok u) : u = t.put place (.file content 0o644) := by
  obtain ⟨-, other, again, done⟩ := withPlace_eq_ok.mp published
  rw [located] at again
  cases again
  rw [found] at done
  cases done
  rfl

theorem rename_eq_ok {source target : Path} (renamed : t.rename source target = .ok u) :
    checkPath target target = .ok () ∧ ∃ old new content mode, t.locate source = .ok old ∧
      t.locate target = .ok new ∧ t.entry? old = some (.file content mode) ∧
        t.entry? new ≠ some .directory ∧ u = (t.erase old).put new (.file content mode) := by
  unfold rename at renamed
  dsimp only at renamed
  split at renamed
  · cases renamed
  · cases renamed
  · rename_i passed
    split at renamed
    · cases renamed
    · cases renamed
    · rename_i old new fromPlace toPlace
      split at renamed
      · cases renamed
      · split at renamed
        · cases renamed
        · rename_i content mode found other
          cases renamed
          exact ⟨passed, old, new, content, mode, fromPlace, toPlace, found, other, rfl⟩
        · cases renamed

end Operations

/-! ### Failures

The steps from directory to directory can be too many.  An operation on one path does not fail in
that way. -/

section Failures

variable {α : Type} (t : Tree) (path : Path)

theorem failsOnly_refuse (problem : Problem) :
    FailsOnly (· ≠ .tooDeep) (refuse problem path : Except Fault α) := by
  intro e failed
  cases failed
  nofun

theorem failsOnly_checkPath (written : Path) :
    FailsOnly (· ≠ .tooDeep) (checkPath written path) := by
  unfold checkPath
  intro e failed
  split at failed
  · cases failed
    nofun
  · split at failed
    · cases failed
      nofun
    · cases failed

theorem failsOnly_withPlace {act : Place → Except Fault α}
    (each : ∀ place, FailsOnly (· ≠ .tooDeep) (act place)) :
    FailsOnly (· ≠ .tooDeep) (t.withPlace path act) := by
  refine .bind (failsOnly_checkPath path path) fun _ _ => ?_
  split
  · exact failsOnly_refuse path _
  · exact each _

theorem failsOnly_makeTemporary (name : Text) :
    FailsOnly (· ≠ .tooDeep) (t.makeTemporary path name) := by
  refine .bind (failsOnly_checkPath _ _) fun _ _ => failsOnly_withPlace t path fun place => ?_
  dsimp only
  split
  · exact failsOnly_refuse _ _
  · exact .ok _

theorem failsOnly_write (content : List UInt8) :
    FailsOnly (· ≠ .tooDeep) (t.write path content) := by
  refine failsOnly_withPlace t path fun place => ?_
  split
  · exact .ok _
  · exact failsOnly_refuse path _
  · exact failsOnly_refuse path _

theorem failsOnly_publish : FailsOnly (· ≠ .tooDeep) (t.publish path) := by
  refine failsOnly_withPlace t path fun place => ?_
  split
  · exact .ok _
  · exact .ok _
  · exact failsOnly_refuse path _

theorem failsOnly_rename (target : Path) : FailsOnly (· ≠ .tooDeep) (t.rename path target) := by
  intro e failed
  unfold rename at failed
  dsimp only at failed
  split at failed
  · cases failed
    exact failsOnly_checkPath _ _ _ ‹_›
  · cases failed
    exact failsOnly_checkPath _ _ _ ‹_›
  · split at failed
    · cases failed
      nofun
    · cases failed
      nofun
    · split at failed
      · cases failed
        nofun
      · split at failed
        · cases failed
          nofun
        · cases failed
        · cases failed
          nofun

end Failures

end TaskGraph.Files.Tree
