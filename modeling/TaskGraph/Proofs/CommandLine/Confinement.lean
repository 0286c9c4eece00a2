/-
Module: TaskGraph.Proofs.CommandLine.Confinement
Purpose: Where an export goes for which no path is given: the place of its file, and the names of
  topologies that keep it in the output directory.
Main exports:
  CommandLine.fileNamed, CommandLine.fileNamed_confined_iff, CommandLine.default_export_place,
  CommandLine.exports_outside
-/
import TaskGraph.Proofs.CommandLine.Effect
import TaskGraph.Proofs.Files.Path

namespace TaskGraph.CommandLine

open Files

/-! ### Files that are named after a topology -/

/-- The path of a file that is named after a topology, without the output directory. -/
def fileNamed (name : Text) (form : FormatName) : Path :=
  .ofText (name ++ "." ++ form.extension)

theorem slashless_extension (form : FormatName) :
    ∀ c ∈ (Text.ofString form.extension).toList, Path.isSlash c = false := by
  cases form <;> decide

theorem two_le_length_extension (form : FormatName) :
    2 ≤ (Text.ofString form.extension).toList.length := by
  cases form <;> decide

/-- The name of a topology keeps its file in every output directory exactly if it writes a path
without a root that never leads above its start. -/
theorem fileNamed_confined_iff (name : Text) (form : FormatName) :
    (fileNamed name form).Stays ↔ (fileNamed name form).Confined := by
  obtain ⟨init, last, parts, down⟩ :=
    Path.exists_parts_concat name (slashless_extension form) (two_le_length_extension form)
  exact Path.stays_iff parts down

/-! ### Exports without a path -/

/-- On any disk, a command that was given no path and returns zero has put its file at the place
that the name of the topology names in the output directory.  This is a place in the output
directory if the name writes a path without a root that never leads above its start, and such names
are exactly those that are confined to every output directory; names without slashes are among
them. -/
theorem default_export_place {σ : Type} {host : Host σ} {environment : String → Option Text}
    {arguments : List Text} {o : Options} {s : σ}
    (parsed : Options.parse (Settings.ofEnvironment environment) arguments = .ok (some o))
    (unasked : o.output = none)
    (returned : ((run host.platform environment arguments).run s).1.ending = .returned 0) :
    let directory := Path.ofText (Settings.ofEnvironment environment).outputDirectory
    let before := host.tree s
    ∃ bytes t g format path text place form name,
      Exported host.memory (Settings.ofEnvironment environment) o before
        (host.tree ((run host.platform environment arguments).run s).2)
        bytes t g format path text place ∧
      o.format = some form ∧ t.name.asPlain = .ok name ∧
      place = (directory.join (fileNamed name form)).placeIn before.working ∧
      ((fileNamed name form).Stays → Below (directory.placeIn before.working) place) ∧
      ((fileNamed name form).Stays ↔ (fileNamed name form).Confined) ∧
      ((∀ c ∈ name.toList, Path.isSlash c = false) → (fileNamed name form).Stays) := by
  intro directory before
  obtain ⟨bytes, t, g, format, path, text, place, exported, -⟩ :=
    exported_of_settled (run_asked parsed rfl) returned
  have target := exported.target
  rw [Options.GoesTo, unasked] at target
  obtain ⟨form, name, chosen, plain, rfl⟩ := target
  have reached : place = (directory.join (fileNamed name form)).placeIn before.working := by
    have named := Tree.eq_placeIn_of_locate exported.inPlace.located
    rwa [exported.inPlace.others.working] at named
  refine ⟨bytes, t, g, format, _, text, place, form, name, exported, chosen, plain, reached,
    fun stays => ?_, fileNamed_confined_iff name form, fun single => ?_⟩
  · rw [reached]
    exact (fileNamed_confined_iff name form).mp stays _ _
  · exact Path.stays_of_slashless (slashless_extension form) (two_le_length_extension form) single

/-! ### Names that lead out -/

/-- A name that leads up and down again stays in the output directory. -/
theorem default_export_place_words :
    (ranNamed takesAll "a/../words").1.ending = .returned 0 ∧
    (fileNamed "a/../words" .metis).Stays ∧
    ∃ bytes t g format path text place,
      Exported 64 (Settings.ofEnvironment fun _ => none) bareOptions (treeNamed "a/../words")
        (ranNamed takesAll "a/../words").2 bytes t g format path text place ∧
      place = ["work", "output", "words.graph"] ∧ Below ["work", "output"] place := by
  have returned : (ranNamed takesAll "a/../words").1.ending = .returned 0 :=
    Ending.eq_returned_of_code? (by decide +kernel)
  have stays : (fileNamed "a/../words" .metis).Stays := by decide +kernel
  obtain ⟨bytes, t, g, format, path, text, place, form, name, exported, chosen, plain, reached,
    kept, -⟩ := default_export_place parse_bareArguments rfl returned
  cases chosen
  have contents : bytes = Utf8.encode (textNamed "a/../words") := by
    have read : (treeNamed "a/../words").read bareOptions.topology =
        .ok (Utf8.encode (textNamed "a/../words")) := by decide +kernel
    cases read.symm.trans exported.read
    rfl
  have titled : name = "a/../words" := by
    have loaded := exported.loaded
    rw [contents] at loaded
    have named : (Topology.ofBytes bareOptions.topology.toText bareOptions.topology
        (.ok (Utf8.encode (textNamed "a/../words")))
        (parallelismKey bareOptions)).outcome.toOption.bind (·.name.asPlain.toOption) =
          some "a/../words" := by decide +kernel
    rw [loaded] at named
    simpa [Except.toOption, plain] using named
  rw [titled] at reached kept
  exact ⟨returned, stays, bytes, t, g, format, path, text, place, exported,
    reached.trans (by decide +kernel), kept stays⟩

/-- The command returns zero and makes a file that is not in the output directory. -/
def Escapes (name : String) (place : Place) : Prop :=
  (ranNamed takesAll name).1.ending.code? = some 0 ∧ (treeNamed name).file? place = none ∧
    (ranNamed takesAll name).2.file? place = some (Utf8.encode "0 0\n", 0o644) ∧
    ¬ Below ((Path.ofText (Settings.ofEnvironment fun _ => none).outputDirectory).placeIn
      (treeNamed name).working) place

instance (name : String) (place : Place) : Decidable (Escapes name place) :=
  inferInstanceAs (Decidable (_ ∧ _))

/-- A name with a root, and one that leads up, take the export out of the output directory. -/
theorem exports_outside :
    Escapes "/tmp/outside" ["tmp", "outside.graph"] ∧
      Escapes "../outside" ["work", "outside.graph"] := by
  decide +kernel

end TaskGraph.CommandLine
