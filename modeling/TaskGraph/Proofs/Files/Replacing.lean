/-
Module: TaskGraph.Proofs.Files.Replacing
Purpose: Putting a file in place on a disk, whichever step fails: afterwards the whole file is
  there, or all files are as they were.
Main exports:
  Files.Disk, Files.Tree.Replaced, Files.System.placing, Files.Disk.Delivers, Files.Disk.delivers
-/
import TaskGraph.Proofs.Files.Tree

namespace TaskGraph.Files

/-! ### Disks -/

/-- What an operation does to a tree: what is intended if it succeeds, and else nothing. -/
def Tree.Becomes (before after : Tree) (result : Except Fault Unit)
    (intended : Except Fault Tree) : Prop :=
  match result with
  | .ok () => intended = .ok after
  | .error _ => after = before

/-- A file system whose state shows a tree of files.  Any operation may fail at any time, and
then changes nothing, but for filling a file: that may leave anything in the file.  So a file is
moved as a whole or not at all.  A new temporary file is put at some place where nothing is, and it
can be removed. -/
structure Disk (σ : Type) where
  system : System (StateM σ)
  tree : σ → Tree
  holds : ∀ {path s result next}, (system.holds path).run s = (result, next) →
    tree next = tree s
  isDirectory : ∀ {path s result next}, (system.isDirectory path).run s = (result, next) →
    tree next = tree s
  read : ∀ {path s result next}, (system.read path).run s = (result, next) →
    tree next = tree s ∧ ∀ content, result = .ok content → (tree s).read path = .ok content
  makeDirectory : ∀ {path s result next}, (system.makeDirectory path).run s = (result, next) →
    (tree s).Becomes (tree next) result ((tree s).makeDirectory path)
  makeTemporary : ∀ {parent name s result next},
    (system.makeTemporary parent name).run s = (result, next) →
      match result with
      | .ok path => ∃ place mode, (tree s).locate path = .ok place ∧
          Tree.entry? (tree s) place = none ∧ tree next = (tree s).put place (.file [] mode)
      | .error _ => tree next = tree s
  write : ∀ {path content s result next}, (system.write path content).run s = (result, next) →
    match result with
    | .ok () => (tree s).write path content = .ok (tree next)
    | .error _ => tree next = tree s ∨ ∃ left, (tree s).write path left = .ok (tree next)
  publish : ∀ {path s result next}, (system.publish path).run s = (result, next) →
    (tree s).Becomes (tree next) result ((tree s).publish path)
  rename : ∀ {source target s result next},
    (system.rename source target).run s = (result, next) →
      (tree s).Becomes (tree next) result ((tree s).rename source target)
  discard : ∀ {path s next}, (system.discard path).run s = ((), next) →
    tree next = (tree s).discard path

/-! ### Files in place -/

/-- A path leads to a place with a file of some content, which all may read and the owner may
write, and all other files are as they were. -/
structure Tree.Replaced (before after : Tree) (path : Path) (content : List UInt8)
    (place : Place) : Prop where
  located : after.locate path = .ok place
  written : after.entry? place = some (.file content 0o644)
  readable : after.read path = .ok content
  others : Tree.OnlyAt place before after

theorem Tree.Replaced.of_keeps {first before after : Tree} {path : Path} {content : List UInt8}
    {place : Place} (replaced : before.Replaced after path content place)
    (keeps : first.Keeps before) : first.Replaced after path content place where
  located := replaced.located
  written := replaced.written
  readable := replaced.readable
  others := (keeps.onlyAt place).trans replaced.others

/-- The steps of putting a file in place, as far as they succeed.  Nothing is cleared away after
a failure. -/
def System.placing {m : Type → Type} [Monad m] (fs : System m) (path : Path)
    (content : List UInt8) : m (Except Fault Unit) := do
  match ← fs.makeParents System.maxMissing path.parent with
  | .error fault => pure (.error fault)
  | .ok () =>
    match ← fs.makeTemporary path.parent path.name with
    | .error fault => pure (.error fault)
    | .ok temporary => fs.fillAndMove temporary path content

section Steps

variable {σ α β : Type}

theorem run_bind_eq {first : StateM σ α} {next : α → StateM σ β} {s t : σ} {b : β} :
    (first >>= next).run s = (b, t) ↔
      ∃ a middle, first.run s = (a, middle) ∧ (next a).run middle = (b, t) := by
  constructor
  · exact fun run => ⟨_, _, rfl, run⟩
  · intro steps
    obtain ⟨a, middle, started, finished⟩ := steps
    change (next (first.run s).1).run (first.run s).2 = (b, t)
    rw [started]
    exact finished

theorem run_pure_eq {s t : σ} {a b : α} :
    (pure a : StateM σ α).run s = (b, t) ↔ a = b ∧ s = t :=
  Prod.mk.injEq .. ▸ Iff.rfl

end Steps

namespace Disk

variable {σ : Type} (disk : Disk σ)

/-- Steps after which all files are as they were. -/
def Keeping {α : Type} (steps : StateM σ α) : Prop :=
  ∀ {s result next}, steps.run s = (result, next) → (disk.tree s).Keeps (disk.tree next)

variable {disk}

namespace Keeping

theorem pure {α : Type} (a : α) : disk.Keeping (Pure.pure a) := by
  intro s result next run
  obtain ⟨-, rfl⟩ := run_pure_eq.mp run
  exact .refl _

theorem bind {α β : Type} {first : StateM σ α} {next : α → StateM σ β}
    (before : disk.Keeping first) (after : ∀ a, disk.Keeping (next a)) :
    disk.Keeping (first >>= next) := by
  intro s result last run
  obtain ⟨a, middle, started, finished⟩ := run_bind_eq.mp run
  exact (before started).trans (after a finished)

theorem of_eq {α : Type} {steps : StateM σ α}
    (same : ∀ {s result next}, steps.run s = (result, next) → disk.tree next = disk.tree s) :
    disk.Keeping steps := by
  intro s result next run
  rw [same run]
  exact .refl _

end Keeping

theorem keeping_makeDirectory (path : Path) : disk.Keeping (disk.system.makeDirectory path) := by
  intro s result next run
  have becomes := disk.makeDirectory run
  cases result with
  | error fault =>
      rw [show disk.tree next = disk.tree s from becomes]
      exact .refl _
  | ok done =>
      obtain ⟨-, place, -, free, made⟩ := Tree.makeDirectory_eq_ok.mp becomes
      rw [made]
      exact Tree.keeps_putDirectory free

theorem keeping_settle (path : Path) (outcome : Except Fault Unit) :
    disk.Keeping (disk.system.settle path outcome) := by
  unfold System.settle
  split
  · exact Keeping.bind (Keeping.of_eq disk.isDirectory) fun _ => Keeping.pure _
  · exact Keeping.pure _

theorem keeping_makeParents (missing : Nat) (path : Path) :
    disk.Keeping (disk.system.makeParents missing path) := by
  induction missing generalizing path with
  | zero => exact Keeping.pure _
  | succ missing inductionHypothesis =>
      unfold System.makeParents
      refine Keeping.bind (keeping_makeDirectory path) fun outcome => ?_
      split
      · split
        · split
          · exact Keeping.pure _
          · refine Keeping.bind (inductionHypothesis path.parent) fun above => ?_
            split
            · exact Keeping.pure _
            · refine Keeping.bind (keeping_makeDirectory path) fun again => ?_
              split
              · split
                · exact Keeping.pure _
                · exact keeping_settle path _
              · exact Keeping.pure _
        · exact keeping_settle path _
      · exact Keeping.pure _

/-! ### A temporary file -/

/-- A temporary file at a place where nothing was, which differs from how the tree was at that
place alone. -/
structure Temporary (before now : Tree) (path : Path) (place : Place) : Prop where
  located : before.locate path = .ok place
  free : before.entry? place = none
  only : Tree.OnlyAt place before now
  present : ∃ content mode, now.entry? place = some (.file content mode)

namespace Temporary

variable {before now : Tree} {path : Path} {place : Place}

theorem locate (temporary : Temporary before now path place) : now.locate path = .ok place :=
  Tree.locate_of_directories temporary.only.working temporary.only.directories temporary.located

theorem not_directory (temporary : Temporary before now path place) :
    now.entry? place ≠ some .directory := by
  obtain ⟨content, mode, found⟩ := temporary.present
  rw [found]
  nofun

theorem below (temporary : Temporary before now path place) : place ≠ [] :=
  Tree.ne_root_of_other temporary.not_directory

theorem put (temporary : Temporary before now path place) (content : List UInt8) (mode : Nat) :
    Temporary before (now.put place (.file content mode)) path place where
  located := temporary.located
  free := temporary.free
  only := temporary.only.trans (Tree.onlyAt_put temporary.not_directory content mode)
  present := ⟨content, mode, by rw [Tree.entry?_put temporary.below, if_pos rfl]⟩

theorem of_free (located : before.locate path = .ok place) (free : before.entry? place = none)
    (content : List UInt8) (mode : Nat) :
    Temporary before (before.put place (.file content mode)) path place := by
  have below : place ≠ [] := by
    rintro rfl
    cases free
  refine ⟨located, free, Tree.onlyAt_put (by rw [free]; nofun) content mode, content, mode, ?_⟩
  rw [Tree.entry?_put below, if_pos rfl]

/-- Without the temporary file all files are as they were. -/
theorem keeps_erase (temporary : Temporary before now path place) :
    before.Keeps (now.erase place) := by
  refine (temporary.only.trans (Tree.onlyAt_erase temporary.not_directory)).keeps ?_
  rw [Tree.file?_erase temporary.not_directory, Tree.file?, temporary.free]

theorem keeps_discard (temporary : Temporary before now path place) :
    before.Keeps (now.discard path) := by
  obtain ⟨content, mode, found⟩ := temporary.present
  rw [Tree.discard, temporary.locate]
  dsimp only
  rw [found]
  exact temporary.keeps_erase

theorem write {after : Tree} {content : List UInt8}
    (temporary : Temporary before now path place) (written : now.write path content = .ok after) :
    ∃ mode, after = now.put place (.file content mode) := by
  obtain ⟨-, other, located, old, mode, -, rfl⟩ := Tree.write_eq_ok.mp written
  cases temporary.locate.symm.trans located
  exact ⟨mode, rfl⟩

theorem rename {after : Tree} {target : Path} {content : List UInt8}
    (temporary : Temporary before now path place)
    (complete : now.entry? place = some (.file content 0o644))
    (renamed : now.rename path target = .ok after) :
    ∃ new, before.Replaced after target content new := by
  obtain ⟨passed, old, new, found, mode, fromPlace, toPlace, file, free, rfl⟩ :=
    Tree.rename_eq_ok renamed
  cases temporary.locate.symm.trans fromPlace
  cases complete.symm.trans file
  have cleared := Tree.onlyAt_erase temporary.not_directory
  have stillFree : Tree.entry? (now.erase place) new ≠ some .directory := by
    rw [Tree.entry?_erase temporary.below]
    split
    · nofun
    · exact free
  have moved := Tree.onlyAt_put stillFree content 0o644
  have located := Tree.locate_of_directories moved.working moved.directories
    (Tree.locate_of_directories cleared.working cleared.directories toPlace)
  have written : Tree.entry? ((now.erase place).put new (.file content 0o644)) new =
      some (.file content 0o644) := by
    rw [Tree.entry?_put (Tree.ne_root_of_other stillFree), if_pos rfl]
  exact ⟨new, located, written, Tree.read_eq_ok.mpr ⟨passed, new, located, _, written⟩,
    (temporary.keeps_erase.onlyAt new).trans moved⟩

/-- After the steps on a temporary file it is in place as a whole, or it is still a temporary
file. -/
theorem fillAndMove {before : Tree} {disk : Disk σ} {path target : Path} {place : Place}
    {content : List UInt8} {s next : σ} {result : Except Fault Unit}
    (temporary : Temporary before (disk.tree s) path place)
    (run : (disk.system.fillAndMove path target content).run s = (result, next)) :
    match result with
    | .ok () => ∃ new, before.Replaced (disk.tree next) target content new
    | .error _ => Temporary before (disk.tree next) path place := by
  obtain ⟨filled, middle, filling, run⟩ := run_bind_eq.mp run
  have wrote := disk.write filling
  cases filled with
  | error fault =>
      obtain ⟨rfl, rfl⟩ := run_pure_eq.mp run
      obtain same | ⟨left, partly⟩ := wrote
      · rwa [same]
      · obtain ⟨mode, put⟩ := temporary.write partly
        rw [put]
        exact temporary.put left mode
  | ok done =>
      obtain ⟨mode, put⟩ := temporary.write wrote
      replace temporary := temporary.put content mode
      rw [← put] at temporary
      obtain ⟨shared, last, publishing, run⟩ := run_bind_eq.mp run
      have published := disk.publish publishing
      cases shared with
      | error fault =>
          obtain ⟨rfl, rfl⟩ := run_pure_eq.mp run
          rwa [show disk.tree last = _ from published]
      | ok done =>
          have present : Tree.entry? (disk.tree middle) place = some (.file content mode) := by
            rw [put, Tree.entry?_put temporary.below, if_pos rfl]
          have shown := Tree.publish_of_file temporary.locate present published
          have renamed := disk.rename run
          cases result with
          | error fault =>
              rw [show disk.tree next = _ from renamed, shown]
              exact temporary.put content 0o644
          | ok done =>
              have complete := temporary.put content 0o644
              rw [← shown] at complete
              exact complete.rename (by rw [shown, Tree.entry?_put temporary.below, if_pos rfl])
                renamed

end Temporary

/-! ### The whole replacement -/

/-- How a failure to put a file in place is reported: what the system refuses as an error of the
export, which has the path in its context, and anything else as it is. -/
def Reports (path : Path) (fault : Fault) (error : Error) : Prop :=
  match fault with
  | .refused _ _ _ => error = .unwritable path.toText fault ∧
      error.context = [("path", .text path.toText)]
  | .tooDeep => error = .tooDeep
  | _ => error = .file fault

theorem reports_exportError (path : Path) (fault : Fault) :
    Reports path fault (System.exportError path fault) := by
  cases fault with
  | refused problem shown target => exact ⟨rfl, rfl⟩
  | unencodable fault => rfl
  | nulInPath => rfl
  | tooDeep => rfl

variable (disk) in
/-- What comes of putting a file in place from a state.  If all steps succeed, then the whole file
is there.  If one of them fails, then all files are as they were, and the failure is reported. -/
def Delivers (path : Path) (content : List UInt8) (s : σ) (result : Except Error Text)
    (next : σ) : Prop :=
  match ((disk.system.placing path content).run s).1 with
  | .ok () => result = .ok path.toText ∧
      ∃ place, (disk.tree s).Replaced (disk.tree next) path content place
  | .error fault => (∃ error, result = .error error ∧ Reports path fault error) ∧
      (disk.tree s).Keeps (disk.tree next)

variable {path : Path} {content : List UInt8} {s next : σ} {result : Except Error Text}

theorem delivers (replacing : (disk.system.replace path content).run s = (result, next)) :
    disk.Delivers path content s result next := by
  rw [Delivers]
  obtain ⟨⟨outcome, placed⟩, placing⟩ : ∃ ended, (disk.system.placing path content).run s = ended :=
    ⟨_, rfl⟩
  rw [placing]
  dsimp only
  obtain ⟨parents, s, making, placing⟩ := run_bind_eq.mp placing
  obtain ⟨parents', s', making', replacing⟩ := run_bind_eq.mp replacing
  cases making.symm.trans making'
  have kept := keeping_makeParents _ _ making
  cases parents with
  | error fault =>
      obtain ⟨rfl, rfl⟩ := run_pure_eq.mp placing
      obtain ⟨rfl, rfl⟩ := run_pure_eq.mp replacing
      exact ⟨⟨_, rfl, reports_exportError path fault⟩, kept⟩
  | ok done =>
      obtain ⟨opened, s, opening, placing⟩ := run_bind_eq.mp placing
      obtain ⟨opened', s', opening', replacing⟩ := run_bind_eq.mp replacing
      cases opening.symm.trans opening'
      have made := disk.makeTemporary opening
      cases opened with
      | error fault =>
          obtain ⟨rfl, rfl⟩ := run_pure_eq.mp placing
          obtain ⟨rfl, rfl⟩ := run_pure_eq.mp replacing
          rw [show disk.tree s = _ from made]
          exact ⟨⟨_, rfl, reports_exportError path fault⟩, kept⟩
      | ok temporary =>
          obtain ⟨place, mode, located, free, created⟩ := made
          have started := Temporary.of_free located free [] mode
          rw [← created] at started
          obtain ⟨moved, s', moving, replacing⟩ := run_bind_eq.mp replacing
          cases placing.symm.trans moving
          have finished := started.fillAndMove placing
          cases outcome with
          | error fault =>
              obtain ⟨done, s', discarding, replacing⟩ := run_bind_eq.mp replacing
              obtain ⟨rfl, rfl⟩ := run_pure_eq.mp replacing
              rw [disk.discard discarding]
              exact ⟨⟨_, rfl, reports_exportError path fault⟩, kept.trans finished.keeps_discard⟩
          | ok done =>
              obtain ⟨rfl, rfl⟩ := run_pure_eq.mp replacing
              obtain ⟨new, inPlace⟩ := finished
              exact ⟨rfl, new, inPlace.of_keeps kept⟩

namespace Delivers

theorem replaced {shown : Text} (delivers : disk.Delivers path content s (.ok shown) next) :
    shown = path.toText ∧ ∃ place, (disk.tree s).Replaced (disk.tree next) path content place := by
  rw [Delivers] at delivers
  split at delivers
  · obtain ⟨⟨⟩, inPlace⟩ := delivers
    exact ⟨rfl, inPlace⟩
  · obtain ⟨⟨error, ⟨⟩, -⟩, -⟩ := delivers

theorem keeps {error : Error} (delivers : disk.Delivers path content s (.error error) next) :
    (disk.tree s).Keeps (disk.tree next) := by
  rw [Delivers] at delivers
  split at delivers
  · obtain ⟨⟨⟩, -⟩ := delivers
  · exact delivers.2

end Delivers

end Disk

end TaskGraph.Files
