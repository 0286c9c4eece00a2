/-
Module: TaskGraph.Proofs.Files.Interruption
Purpose: Disks to work on: a tree of files on which all goes well, and any disk with a plan of
  the steps that fail.
Main exports:
  Files.Tree.exists_free, Files.Tree.disk, Files.Interruption, Files.Disk.interrupted
-/
import TaskGraph.Proofs.Files.Replacing
import TaskGraph.Proofs.Text.Numeral

namespace TaskGraph.Files

/-! ### A tree of files -/

namespace Tree

theorem toList_temporaryName (name : Text) (index : Nat) :
    (temporaryName name index).toList = Text.symbols ".".toList ++ name.toList ++
      Text.symbols ".".toList ++ Text.symbols (Text.padded 8 index).toList ++
        Text.symbols ".tmp".toList := by
  simp only [temporaryName, Text.toList_append, Text.ofString, Text.ofChars]

/-- The name of a temporary file tells its index. -/
theorem temporaryName_inj {name : Text} {i j : Nat}
    (same : temporaryName name i = temporaryName name j) : i = j := by
  have lists := congrArg Text.toList same
  rw [toList_temporaryName, toList_temporaryName] at lists
  have digits := List.append_cancel_left (List.append_cancel_right lists)
  have writesToo := Text.Writes.padded 8 j
  rw [← digits] at writesToo
  exact (Text.Writes.padded 8 i).unique writesToo

/-- There are more candidates for the name of a temporary file than entries. -/
theorem exists_free (t : Tree) (place : Place) (name : Text) :
    ∃ index ∈ List.range (t.entries.length + 1),
      (t.entry? (place ++ [temporaryName name index])).isNone = true := by
  by_contra none
  have taken : ∀ index ∈ List.range (t.entries.length + 1),
      place ++ [temporaryName name index] ∈ t.entries.map (·.1) := by
    intro index member
    by_contra absent
    refine none ⟨index, member, ?_⟩
    rw [entry?_of_ne (by simp), Option.isNone_iff_eq_none, List.lookup_eq_none_iff]
    intro found inside
    refine bne_iff_ne.mpr fun same => absent ?_
    rw [same]
    exact List.mem_map_of_mem inside
  have different : ((List.range (t.entries.length + 1)).map fun index =>
      place ++ [temporaryName name index]).Nodup := by
    refine List.Nodup.map (fun i j same => ?_) List.nodup_range
    exact temporaryName_inj (by simpa using same)
  have within := different.subperm (List.forall_mem_map.mpr taken)
  have few := within.length_le
  rw [List.length_map, List.length_map, List.length_range] at few
  omega

theorem walk_append {t : Tree} {start place : Place} {names : List Text}
    (walked : t.walk start names = .ok place) (more : List Text) :
    t.walk start (names ++ more) = t.walk place more := by
  induction names generalizing start with
  | nil =>
      cases walked
      rfl
  | cons name rest inductionHypothesis =>
      rw [List.cons_append]
      rw [walk] at walked ⊢
      split at walked
      · cases walked
      · cases walked
      · split at walked
        · rw [if_pos ‹_›]
          exact inductionHypothesis walked
        · rw [if_neg ‹_›]
          split at walked
          · cases walked
          · rw [if_neg ‹_›]
            exact inductionHypothesis walked

theorem temporaryName_ne_up (name : Text) (index : Nat) : temporaryName name index ≠ ".." := by
  intro same
  have lengths := congrArg (fun t : Text => t.toList.length) same
  simp only [toList_temporaryName, List.length_append, Text.length_symbols] at lengths
  change _ = 2 at lengths
  simp at lengths

/-- The place of a temporary file is right below that of its directory. -/
theorem locate_temporary {t : Tree} {parent : Path} {name : Text} {index : Nat}
    {above place : Place} (located : t.locate parent = .ok above)
    (found : t.locate (parent.child (temporaryName name index)) = .ok place) :
    place = above ++ [temporaryName name index] := by
  rw [locate] at located found
  split at located
  · cases located
  · split at found
    · cases found
    · rw [Path.child, walk_append located, walk] at found
      split at found
      · cases found
      · cases found
      · rw [if_neg (temporaryName_ne_up name index)] at found
        split at found
        · cases found
        · cases found
          rfl

/-- A temporary file that is made stands where nothing was. -/
theorem makeTemporary_eq_ok {t u : Tree} {parent path : Path} {name : Text}
    (made : t.makeTemporary parent name = .ok (path, u)) :
    ∃ place, t.locate path = .ok place ∧ t.entry? place = none ∧
      u = t.put place (.file [] 0o600) := by
  obtain ⟨-, -, made⟩ := bind_eq_ok.mp made
  obtain ⟨-, above, located, made⟩ := withPlace_eq_ok.mp made
  dsimp only at made
  split at made
  · cases made
  · rename_i place found
    cases made
    refine ⟨place, found, ?_, rfl⟩
    rw [locate_temporary located found]
    obtain ⟨index, chosen⟩ := Option.isSome_iff_exists.mp
      (List.find?_isSome.mpr (t.exists_free above name))
    rw [chosen, Option.getD_some]
    have free := List.find?_some chosen
    exact Option.isNone_iff_eq_none.mp free

section Steps

variable {t u : Tree} {result : Except Fault Unit}

theorem run_ask {α : Type} {question : Tree → α} {answer : α} :
    (ask question).run t = (answer, u) ↔ question t = answer ∧ t = u :=
  Prod.mk.injEq .. ▸ Iff.rfl

theorem becomes_of_change {operation : Tree → Except Fault Tree}
    (run : (change operation).run t = (result, u)) : t.Becomes u result (operation t) := by
  unfold change at run
  obtain ⟨now, middle, asked, run⟩ := run_bind_eq.mp run
  cases asked
  split at run
  · rename_i changed
    cases run
    exact changed
  · cases run
    rfl

end Steps

/-- The disk that is a tree of files.  A step fails on it only where it has to. -/
def disk : Disk Tree where
  system := system
  tree t := t
  holds run := (run_ask.mp run).2.symm
  isDirectory run := (run_ask.mp run).2.symm
  read run := by
    obtain ⟨answer, rfl⟩ := run_ask.mp run
    exact ⟨rfl, fun content found => answer.trans found⟩
  makeDirectory run := becomes_of_change run
  makeTemporary run := by
    obtain ⟨now, middle, asked, run⟩ := run_bind_eq.mp run
    cases asked
    split at run
    · rename_i made
      cases run
      obtain ⟨place, located, free, rfl⟩ := makeTemporary_eq_ok made
      exact ⟨place, _, located, free, rfl⟩
    · cases run
      rfl
  write {path content s result next} run := by
    have becomes := becomes_of_change run
    cases result with
    | error fault => exact .inl becomes
    | ok done => exact becomes
  publish run := becomes_of_change run
  rename run := becomes_of_change run
  discard run := by
    cases run
    rfl

end Tree

/-! ### Failures by plan -/

/-- The failure of a step.  A file that was to be filled is left with some bytes. -/
structure Interruption where
  fault : Fault
  left : List UInt8 := []
deriving DecidableEq, Repr, Inhabited

section Plans

variable {σ α : Type}

/-- Let a step fail if that is next in the plan.  A step that fails still does `partly`. -/
def interrupting (step : StateM σ (Except Fault α)) (partly : Interruption → StateM σ Unit) :
    StateM (σ × List (Option Interruption)) (Except Fault α) := fun (s, plan) =>
  match plan with
  | some interruption :: rest =>
    (.error interruption.fault, ((partly interruption).run s).2, rest)
  | _ =>
    let (result, next) := step.run s
    (result, next, plan.tail)

/-- Let a step fail before it does anything if that is next in the plan. -/
def halting (step : StateM σ (Except Fault α)) :
    StateM (σ × List (Option Interruption)) (Except Fault α) :=
  interrupting step fun _ => pure ()

/-- Take a step that is not in the plan. -/
def uninterrupted (step : StateM σ α) : StateM (σ × List (Option Interruption)) α :=
  fun (s, plan) =>
    let (result, next) := step.run s
    (result, next, plan)

theorem run_interrupting {step : StateM σ (Except Fault α)} {partly : Interruption → StateM σ Unit}
    {s next : σ × List (Option Interruption)} {result : Except Fault α}
    (run : (interrupting step partly).run s = (result, next)) :
    step.run s.1 = (result, next.1) ∨
      ∃ interruption, result = .error interruption.fault ∧
        (partly interruption).run s.1 = ((), next.1) := by
  obtain ⟨s, plan⟩ := s
  change interrupting step partly (s, plan) = _ at run
  unfold interrupting at run
  dsimp only at run
  split at run
  · cases run
    exact .inr ⟨_, rfl, rfl⟩
  · cases run
    exact .inl rfl

theorem run_halting {step : StateM σ (Except Fault α)} {s next : σ × List (Option Interruption)}
    {result : Except Fault α} (run : (halting step).run s = (result, next)) :
    step.run s.1 = (result, next.1) ∨ ∃ fault, result = .error fault ∧ next.1 = s.1 := by
  obtain went | ⟨interruption, failed, stopped⟩ := run_interrupting run
  · exact .inl went
  · exact .inr ⟨_, failed, (run_pure_eq.mp stopped).2.symm⟩

theorem run_uninterrupted {step : StateM σ α} {s next : σ × List (Option Interruption)} {result : α}
    (run : (uninterrupted step).run s = (result, next)) : step.run s.1 = (result, next.1) := by
  cases run
  rfl

end Plans

/-- A disk whose steps fail by a plan; only temporary files are always removed, and looking for a
directory never fails.  A step that fails has done nothing, but for filling a file. -/
def Disk.interrupted {σ : Type} (disk : Disk σ) : Disk (σ × List (Option Interruption)) where
  system := {
    holds path := halting (disk.system.holds path)
    isDirectory path := uninterrupted (disk.system.isDirectory path)
    read path := halting (disk.system.read path)
    makeDirectory path := halting (disk.system.makeDirectory path)
    makeTemporary parent name := halting (disk.system.makeTemporary parent name)
    write path content := interrupting (disk.system.write path content) fun interruption => do
      let _ ← disk.system.write path interruption.left
    publish path := halting (disk.system.publish path)
    rename source target := halting (disk.system.rename source target)
    discard path := uninterrupted (disk.system.discard path) }
  tree s := disk.tree s.1
  holds run := by
    obtain went | ⟨fault, -, same⟩ := run_halting run
    · exact disk.holds went
    · exact congrArg disk.tree same
  isDirectory run := disk.isDirectory (run_uninterrupted run)
  read run := by
    obtain went | ⟨fault, rfl, same⟩ := run_halting run
    · exact disk.read went
    · exact ⟨congrArg disk.tree same, nofun⟩
  makeDirectory run := by
    obtain went | ⟨fault, rfl, same⟩ := run_halting run
    · exact disk.makeDirectory went
    · exact congrArg disk.tree same
  makeTemporary run := by
    obtain went | ⟨fault, rfl, same⟩ := run_halting run
    · exact disk.makeTemporary went
    · exact congrArg disk.tree same
  write run := by
    obtain went | ⟨interruption, rfl, stopped⟩ := run_interrupting run
    · exact disk.write went
    · obtain ⟨outcome, middle, wrote, stopped⟩ := run_bind_eq.mp stopped
      cases stopped
      have law := disk.write wrote
      cases outcome with
      | error fault => exact law
      | ok done => exact .inr ⟨_, law⟩
  publish run := by
    obtain went | ⟨fault, rfl, same⟩ := run_halting run
    · exact disk.publish went
    · exact congrArg disk.tree same
  rename run := by
    obtain went | ⟨fault, rfl, same⟩ := run_halting run
    · exact disk.rename went
    · exact congrArg disk.tree same
  discard run := disk.discard (run_uninterrupted run)

end TaskGraph.Files
