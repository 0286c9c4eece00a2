/-
Module: TaskGraph.Proofs.CommandLine.Handling
Purpose: Which topology files a command comes to terms with: it returns zero, or one and a message
  about a failed export.
Main exports:
  readJson_fails, Report.Handled, handled_failed, Options.Workable, CommandLine.handled_perform,
  CommandLine.run_handles
-/
import TaskGraph.Proofs.CommandLine.Effect
import TaskGraph.Proofs.Export.Bare
import TaskGraph.Proofs.Yaml.Reading

namespace TaskGraph

/-! ### Reading a file -/

/-- A text that is not read as JSON is reported, unless its values stand too deep. -/
theorem readJson_fails {text : List Char} {e : Error} (failed : readJson text = .error e) :
    e.Reported ∨ e = .tooDeep := by
  unfold readJson at failed
  split at failed
  · cases failed
  · cases failed
    exact .inr rfl
  · cases failed
    exact .inl rfl
  · cases failed
    exact .inl rfl

/-- The errors of texts in YAML that a command does not report. -/
inductive Yaml.Unreported : Error → Prop
  | notYaml : Unreported .notYaml
  | tooDeep : Unreported .tooDeep
  | tooLarge : Unreported .tooLarge
  | emptyScalar : Unreported .emptyScalar
  | missingKey (word : Text) : Unreported (.missingKey word)
  | wrongShape : Unreported .wrongShape
  | illTyped : Unreported .illTyped

theorem Yaml.Fault.unreported_iff {e : Error} (fault : Yaml.Fault e) :
    Yaml.Unreported e ↔ ¬e.Reported := by
  constructor
  · intro unreported
    cases unreported <;> exact nofun
  · intro unreported
    cases fault with
    | notYaml => exact .notYaml
    | tooDeep => exact .tooDeep
    | tooLarge => exact .tooLarge
    | emptyScalar => exact .emptyScalar
    | missingKey word => exact .missingKey word
    | wrongShape => exact .wrongShape
    | illTyped => exact .illTyped
    | notACodePoint | numeral | notNumber | calendar => exact absurd rfl unreported

/-- Bytes that are not read as JSON are reported, unless their values stand too deep. -/
theorem Topology.readDefinition_fails {bytes : List UInt8} {e : Error}
    (failed : readDefinition false bytes = .error e) : e.Reported ∨ e = .tooDeep := by
  rcases bind_eq_error.mp failed with undecoded | ⟨text, -, unread⟩
  · obtain ⟨fault, -, rfl⟩ := mapError_eq_error.mp undecoded
    exact .inl rfl
  · exact readJson_fails unread

/-- Bytes that are not read as YAML are reported, but for some errors. -/
theorem Topology.readDefinition_yaml_fails {bytes : List UInt8} {e : Error}
    (failed : readDefinition true bytes = .error e) : Yaml.Unreported e ↔ ¬e.Reported := by
  rcases bind_eq_error.mp failed with undecoded | ⟨text, -, unread⟩
  · obtain ⟨fault, -, rfl⟩ := mapError_eq_error.mp undecoded
    exact iff_of_false nofun fun unreported => unreported rfl
  · exact (Yaml.failsOnly_read _ e unread).unreported_iff

theorem Topology.outcome_ofBytes (shown : Text) (path : Files.Path) (bytes : List UInt8)
    (key : Value) :
    (ofBytes shown path (.ok bytes) key).outcome =
      readDefinition (isYamlPath path) bytes >>= fun data =>
        (ofValue (if data.isTrue then data else .map []) key).outcome := by
  simp only [ofBytes, Logged.outcome_bind, Logged.outcome_entry, Logged.outcome_liftM]
  rfl

/-! ### Reports -/

/-- A command has returned zero, or one and a message about a failed export. -/
def Report.Handled (report : Report) : Prop :=
  report.ending.code? = some 0 ∨ report.ending.code? = some 1 ∧
    ∃ error : Error, error.Reported ∧ report.failure = CommandLine.failureMessage error

theorem Report.Handled.returns {report : Report} (handled : report.Handled) :
    report.ending.code? ≠ none := by
  rcases handled with zero | ⟨one, -⟩
  · rw [zero]
    nofun
  · rw [one]
    nofun

open Files in
/-- A failed export is handled exactly if its error is reported, where standard error takes every
message. -/
theorem CommandLine.handled_failed {σ : Type} {host : Host σ}
    (heard : ∀ text refusal, ¬host.Refuses .errors text refusal) {log : List LogEntry}
    {error : Error} {report : Report} {s next : σ}
    (run : (failed host.platform log error).run s = (report, next)) :
    report.Handled ↔ error.Reported := by
  unfold failed at run
  split at run
  · rename_i reported
    obtain ⟨⟨failure, printed⟩, last, printing, run⟩ := run_bind_eq.mp run
    obtain ⟨rfl, rfl⟩ := run_pure_eq.mp run
    rcases (Host.prints printing).2.single with ⟨rfl, rfl⟩ | ⟨refusal, -, refuses⟩
    · exact ⟨fun _ => reported, fun _ => .inr ⟨rfl, error, reported, rfl⟩⟩
    · exact absurd refuses (heard _ _)
  · rename_i unreported
    obtain ⟨rfl, rfl⟩ := run_pure_eq.mp run
    exact ⟨fun handled => absurd rfl handled.returns, fun reported => absurd reported unreported⟩

open Files in
/-- A file is put in place, or this fails with an error that is reported, unless too many
directories are missing. -/
theorem Files.Disk.Delivers.reported {σ : Type} {disk : Disk σ} {path : Path}
    {content : List UInt8} {s next : σ} {error : Error}
    (delivers : disk.Delivers path content s (.error error) next)
    (attainable : ((disk.system.placing path content).run s).1 ≠ .error .tooDeep) :
    error.Reported := by
  rw [Disk.Delivers] at delivers
  split at delivers
  · cases delivers.1
  · rename_i fault failed
    obtain ⟨⟨_, ⟨⟩, reports⟩, -⟩ := delivers
    cases fault with
    | refused problem shown target =>
        rw [reports.1]
        rfl
    | unencodable fault =>
        rw [show error = _ from reports]
        rfl
    | nulInPath =>
        rw [show error = _ from reports]
        rfl
    | tooDeep => exact absurd failed attainable

/-! ### Options -/

/-- Options that do not keep an export from coming about: the level of the log is one, there is a
path or a form, and a graph file is asked for with a number of weights, for which there is room if
weights are written. -/
structure Options.Workable (memory : Nat) (o : Options) : Prop where
  level : ∃ rank, CommandLine.threshold o.logLevel = .ok rank
  aimed : o.output ≠ none ∨ o.format ≠ none
  counted : o.format = some .metis → ∃ n : Int, o.ncon = some n ∧
    (o.vertexWeights = true → Metis.Fits memory n.toNat)

namespace CommandLine

open Files

section Options

variable {memory : Nat} {settings : Settings} {o : Options} (workable : o.Workable memory)

include workable

theorem failsOnly_target {t : Topology} (shallow : t.name.Shallow) :
    FailsOnly Error.Reported (target settings o t) := by
  unfold target
  split
  · exact .ok _
  · rename_i noPath noForm
    exact absurd workable.aimed (by simp [noPath, noForm])
  · exact .bind (Value.failsOnly_asPlain shallow) fun _ _ => .ok _

theorem failsOnly_exportFormat : FailsOnly Error.Reported (exportFormat o) := by
  unfold exportFormat
  split
  · rename_i form
    obtain ⟨n, count, -⟩ := workable.counted form
    rw [count]
    refine .bind (fun e failed => ?_) fun _ _ => .ok _
    unfold Metis.Request.make at failed
    split at failed
    · cases failed
    · cases failed
      rfl
    · rename_i incomparable
      simp [Value.lt?_int] at incomparable
  · exact .ok _
  · exact .ok _

theorem roomy_of_exportFormat {format : ExportFormat} (asked : exportFormat o = .ok format) :
    format.Roomy memory := by
  unfold exportFormat at asked
  split at asked
  · rename_i form
    obtain ⟨n, count, room⟩ := workable.counted form
    rw [count] at asked
    obtain ⟨request, made, ⟨⟩⟩ := bind_eq_ok.mp asked
    obtain ⟨format, rfl, weighted, ncon⟩ := Metis.Request.exists_format made
    refine ⟨format, rfl, fun asks => ?_⟩
    rw [ncon]
    exact room (weighted.symm.trans asks)
  · cases asked
    trivial
  · cases asked
    trivial

theorem failsOnly_prepare {loaded : Logged Topology}
    (fails : FailsOnly Error.Reported loaded.outcome)
    (typed : ∀ t, loaded.outcome = .ok t → t.Typed ∧ t.name.Scalar) :
    FailsOnly Error.Reported (prepare settings o loaded).outcome := by
  simp only [prepare, Logged.outcome_bind, Logged.outcome_liftM, Logged.outcome_pure]
  refine .bind fails fun t read => ?_
  obtain ⟨types, scalar⟩ := typed t read
  exact .bind (failsOnly_expand types _) fun _ _ =>
    .bind (failsOnly_target workable scalar.shallow) fun _ _ =>
      .bind (failsOnly_exportFormat workable) fun _ _ => .ok _

end Options

/-! ### Runs -/

section Running

variable {σ : Type} {host : Host σ} (heard : ∀ text refusal, ¬host.Refuses .errors text refusal)
  {settings : Settings} {o : Options} {s next middle : σ} {report : Report}
  {loaded : Logged Topology}

include heard

/-- What comes of a topology that is read, or refused with an error that is reported, is handled if
the path of the export can be reached, and standard output takes each line about its success. -/
theorem handled_perform (workable : o.Workable host.memory) {rank : Nat}
    (run : (perform host.platform settings o rank).run s = (report, next))
    (loading : (Topology.load host.system o.topology.toText o.topology (parallelismKey o)).run s =
      (loaded, middle))
    (fails : FailsOnly Error.Reported loaded.outcome)
    (typed : ∀ t, loaded.outcome = .ok t → t.Typed ∧ t.name.Scalar)
    (attainable : ∀ t path content, loaded.outcome = .ok t → target settings o t = .ok path →
      ((host.system.placing path content).run middle).1 ≠ .error .tooDeep)
    (printable : ∀ t g path, loaded.outcome = .ok t →
      (expand t (some (parallelismKey o))).outcome = .ok g → target settings o t = .ok path →
        ∀ line ∈ success path.toText g.statistics, ∀ error, ¬host.Refuses .output line error) :
    report.Handled := by
  obtain ⟨read, after, reading, ended⟩ := run_perform_cases run
  cases loading.symm.trans reading
  -- The graph is not made, it has no text, or its text is not put in place.
  rcases ended with
    ⟨error, log, failure, reporting⟩ | ⟨job, exported, last, prepared, exporting, ended⟩
  · exact (handled_failed heard reporting).mpr
      (failsOnly_prepare workable fails typed error failure)
  · obtain ⟨t, read, expanded, aimed, asked⟩ := prepare_eq_ok.mp prepared
    have scalar := (typed t read).2
    have roomy := roomy_of_exportFormat workable asked
    rcases ended with ⟨error, log, failure, reporting⟩ | ⟨shown, printed, written, printing, ending⟩
    · refine (handled_failed heard reporting).mpr ?_
      rcases Graph.exportFile_fails exporting failure with ⟨unrendered, -⟩ | ⟨text, delivers⟩
      · exact (bare_of_expand expanded).failsOnly_exportText scalar roomy _ error unrendered
      · exact delivers.reported (attainable t _ _ read aimed)
    · obtain ⟨rfl, -⟩ := Graph.exportFile_succeeds exporting written
      rw [(Host.prints printing).2.eq_ok (printable t job.graph job.path read expanded aimed)]
        at ending
      exact .inl (by rw [ending]; rfl)

/-- Where no topology comes of a file, the command ends with the error of that. -/
theorem handled_iff_of_unloaded {rank : Nat} {e : Error}
    (run : (perform host.platform settings o rank).run s = (report, next))
    (loading : (Topology.load host.system o.topology.toText o.topology (parallelismKey o)).run s =
      (loaded, middle))
    (unloaded : loaded.outcome = .error e) : report.Handled ↔ e.Reported := by
  obtain ⟨read, after, reading, ended⟩ := run_perform_cases run
  cases loading.symm.trans reading
  have unprepared : (prepare settings o loaded).outcome = .error e := by
    simp only [prepare, Logged.outcome_bind, unloaded]
    rfl
  rcases ended with ⟨error, log, failure, reporting⟩ | ⟨job, exported, last, prepared, -⟩
  · cases unprepared.symm.trans failure
    exact handled_failed heard reporting
  · cases unprepared.symm.trans prepared

end Running

/-! ### Trees of files -/

section Trees

variable {tree : Tree} {path : Path}

/-- A file that is there is read, and nothing changes. -/
theorem run_load_of_read {shown : Text} {bytes : List UInt8} {key : Value}
    (present : tree.read path = .ok bytes) :
    (Topology.load Tree.system shown path key).run tree =
      (Topology.ofBytes shown path (.ok bytes) key, tree) := by
  obtain ⟨passed, place, located, mode, found⟩ := Tree.read_eq_ok.mp present
  have there : tree.holds path = .ok true := by
    rw [Tree.holds, passed, located]
    dsimp only
    rw [found]
    rfl
  refine run_bind_eq.mpr ⟨.ok true, tree, ?_, run_bind_eq.mpr ⟨.ok bytes, tree, ?_, rfl⟩⟩
  · rw [← there]
    rfl
  · rw [← present]
    rfl

/-- A change of a tree fails as the operation does. -/
theorem eq_error_of_change {operation : Tree → Except Fault Tree} {fault : Fault} {next : Tree}
    (run : (Tree.change operation).run tree = (.error fault, next)) :
    operation tree = .error fault := by
  obtain ⟨now, middle, asked, run⟩ := run_bind_eq.mp run
  cases asked
  split at run
  · cases run
  · rename_i failed
    cases run
    exact failed

/-- Once the directories above a path are there, no step is one too many. -/
theorem placing_ne_tooDeep {content : List UInt8}
    (attainable : ((Tree.system.makeParents System.maxMissing path.parent).run tree).1 ≠
      .error .tooDeep) :
    ((System.placing Tree.system path content).run tree).1 ≠ .error .tooDeep := by
  obtain ⟨⟨outcome, placed⟩, placing⟩ :
      ∃ ended, (System.placing Tree.system path content).run tree = ended := ⟨_, rfl⟩
  rw [placing]
  rintro rfl
  obtain ⟨parents, afterParents, making, placing⟩ := run_bind_eq.mp placing
  cases parents with
  | error fault =>
      obtain ⟨same, -⟩ := run_pure_eq.mp placing
      rw [making] at attainable
      exact attainable same
  | ok done =>
      obtain ⟨opened, afterOpening, opening, placing⟩ := run_bind_eq.mp placing
      cases opened with
      | error fault =>
          obtain ⟨⟨⟩, -⟩ := run_pure_eq.mp placing
          obtain ⟨now, middle, asked, opening⟩ := run_bind_eq.mp opening
          cases asked
          split at opening
          · cases opening
          · rename_i failed
            cases opening
            exact Tree.failsOnly_makeTemporary _ _ _ _ failed rfl
      | ok temporary =>
          obtain ⟨filled, afterFilling, filling, placing⟩ := run_bind_eq.mp placing
          cases filled with
          | error fault =>
              obtain ⟨⟨⟩, -⟩ := run_pure_eq.mp placing
              exact Tree.failsOnly_write _ _ _ _ (eq_error_of_change filling) rfl
          | ok done =>
              obtain ⟨shared, afterSharing, sharing, placing⟩ := run_bind_eq.mp placing
              cases shared with
              | error fault =>
                  obtain ⟨⟨⟩, -⟩ := run_pure_eq.mp placing
                  exact Tree.failsOnly_publish _ _ _ (eq_error_of_change sharing) rfl
              | ok done => exact Tree.failsOnly_rename _ _ _ _ (eq_error_of_change placing) rfl

end Trees

/-! ### What a command comes to terms with -/

/-- For all bytes in the file of a topology: where no topology comes of them, the failure is handled
exactly if its error is reported.  This is so for every text that is not JSON, unless values stand
too deep, and for a text that is not YAML unless its error is one of a few.  And where the bytes are
read as a value with the shape of a stored topology, whatever its parts say, the command returns
zero, or one and a message, if standard output takes what is printed about its success.  Standard
error, which escapes what it cannot encode, takes every message here. -/
theorem run_handles {accepts : Text → Except Error Unit} {memory : Nat}
    {environment : String → Option Text} {arguments : List Text} {o : Options}
    (parsed : Options.parse (Settings.ofEnvironment environment) arguments = .ok (some o))
    (workable : o.Workable memory) {tree : Tree} {bytes : List UInt8}
    (present : tree.read o.topology = .ok bytes)
    (attainable : ∀ t path, target (Settings.ofEnvironment environment) o t = .ok path →
      ((Tree.system.makeParents System.maxMissing path.parent).run tree).1 ≠ .error .tooDeep) :
    let report := ((run (Tree.host accepts memory).platform environment arguments).run tree).1
    let yaml := Topology.isYamlPath o.topology
    let loaded := Topology.ofBytes o.topology.toText o.topology (.ok bytes) (parallelismKey o)
    (∀ e, loaded.outcome = .error e → (report.Handled ↔ e.Reported)) ∧
      (∀ e, yaml = false → Topology.readDefinition yaml bytes = .error e →
        e.Reported ∨ e = .tooDeep) ∧
      (∀ e, yaml = true → Topology.readDefinition yaml bytes = .error e →
        (Yaml.Unreported e ↔ ¬e.Reported)) ∧
      ∀ data entries, Topology.readDefinition yaml bytes = .ok data →
        (if data.isTrue then data else .map []).reveal = .map entries →
          Topology.Shaped entries →
            (∀ t g path, loaded.outcome = .ok t →
              (expand t (some (parallelismKey o))).outcome = .ok g →
                target (Settings.ofEnvironment environment) o t = .ok path →
                  ∀ line ∈ success path.toText g.statistics, accepts line = .ok ()) →
              report.Handled := by
  intro report yaml loaded
  obtain ⟨rank, level⟩ := workable.level
  let host := Tree.host accepts memory
  have ran : (perform host.platform (Settings.ofEnvironment environment) o rank).run tree =
      (report, ((run host.platform environment arguments).run tree).2) := by
    simp only [report, run, parsed, level]
    rfl
  have loading : (Topology.load host.system o.topology.toText o.topology
      (parallelismKey o)).run tree = (loaded, tree) := run_load_of_read present
  have heard (text : Text) (refusal : Error) : ¬host.Refuses .errors text refusal :=
    Tree.not_refuses_host
  refine ⟨fun e => handled_iff_of_unloaded heard ran loading, fun e plain failed => ?_,
    fun e isYaml failed => ?_, fun data entries read revealed shaped printable => ?_⟩
  · rw [plain] at failed
    exact Topology.readDefinition_fails failed
  · rw [isYaml] at failed
    exact Topology.readDefinition_yaml_fails failed
  · have outcome : loaded.outcome =
        (Topology.ofValue (if data.isTrue then data else .map []) (parallelismKey o)).outcome := by
      rw [Topology.outcome_ofBytes, read, ok_bind]
    refine handled_perform heard workable ran loading ?_ (fun t built => ?_)
      (fun t path content _ aimed => placing_ne_tooDeep (attainable t path aimed))
      fun t g path built expanded aimed line among error refuses => ?_
    · rw [outcome]
      exact Topology.failsOnly_ofValue revealed shaped _
    · rw [outcome] at built
      obtain ⟨written, titled⟩ := Topology.written_of_ofValue revealed built
      exact ⟨written.typed titled, by rw [written.name]; exact shaped.name⟩
    · have refused := Tree.refuses_host_iff.mp refuses
      cases (printable t g path built expanded aimed line among).symm.trans refused

/-- The arguments of a command on a file, with a path for the export. -/
def argumentsFor (name : Text) : List Text :=
  [name, "--output", "o/g", "--log-level", "WARNING"]

/-- The report of a command that finds a file with some text under a name, and nothing else. -/
def reportOn (name : Text) (text : String) : Report :=
  let tree : Tree := { entries := [([name], .file (Utf8.encode text) 0o644)] }
  ((run (Tree.host takesAll 64).platform (fun _ => none) (argumentsFor name)).run tree).1

/-- The text of a stored topology with one spout, whose name has a comma in it. -/
def commaText : String := "\x7b\"spouts\": [\x7b\"name\": \"a,b\"\x7d]\x7d"

/-- What that text says. -/
def commaEntries : Value.Entries :=
  [(.text "spouts", .list [.map [(.text "name", .text "a,b")]])]

theorem shaped_commaEntries : Topology.Shaped commaEntries where
  name := by simp [Topology.titleOf, commaEntries, Value.Scalar]
  spouts := by
    have spouts : (commaEntries.get? "spouts").getD (.list []) =
        .list [.map [(.text "name", .text "a,b")]] := by simp [commaEntries]
    rw [spouts]
    refine fun _ => ⟨_, rfl, List.forall_mem_singleton.mpr ⟨_, rfl, ?_, ?_, ?_⟩⟩
    · exact ⟨.text "a,b", by simp, Value.Scalar.shallow trivial⟩
    · simp [Value.Shallow, Value.plain?, Value.shown?, Value.shownIn, Value.maxLevels]
    · have config : Value.Entries.get? [(.text "name", .text "a,b")] "config" = none := by simp
      rw [config]
      nofun
  bolts := by
    have bolts : (commaEntries.get? "bolts").getD (.list []) = .list [] := by simp [commaEntries]
    rw [bolts]
    nofun

theorem readDefinition_commaText :
    Topology.readDefinition false (Utf8.encode commaText) = .ok (.map commaEntries) := by
  have decoded : Utf8.decode (Utf8.encode commaText) = .ok commaText.toList := by decide +kernel
  have breaks : Text.unifyBreaks commaText.toList = commaText.toList := by decide +kernel
  have written : Json.write .inline (.map commaEntries) = .ok commaText := by decide +kernel
  have plain : Json.Plain Json.maxLevels (.map commaEntries) := by
    refine Json.plain_record [("spouts", _)] (by simp) (List.forall_mem_singleton.mpr ?_)
    refine .list (List.forall_mem_singleton.mpr ?_)
    exact Json.plain_record [("name", _)] (by simp)
      (List.forall_mem_singleton.mpr (.text _ (Text.whole_ofString "a,b")))
  have blank : Json.Layout.inline.Blank := trivial
  obtain ⟨text, wrote, reads⟩ := plain.read_write blank
  cases written.symm.trans wrote
  have read := reads [] nofun
  rw [List.append_nil] at read
  simp only [Topology.readDefinition, Bool.false_eq_true, if_false, decoded, Except.mapError,
    ok_bind, breaks, readJson, read]

theorem run_handles_comma : (reportOn "t.json" commaText).Handled := by
  have parsed : Options.parse (Settings.ofEnvironment fun _ => none) (argumentsFor "t.json") =
      .ok (some
        { topology := .ofText "t.json", output := some (.ofText "o/g")
          parallelismKey := some (Settings.ofEnvironment fun _ => none).parallelismKey
          logLevel := some "WARNING" }) := by
    decide +kernel
  let tree : Tree := { entries := [([("t.json" : Text)], .file (Utf8.encode commaText) 0o644)] }
  have present : tree.read (.ofText "t.json") = .ok (Utf8.encode commaText) := by decide +kernel
  refine (run_handles parsed ⟨⟨30, rfl⟩, .inl nofun, fun _ => ⟨1, rfl, nofun⟩⟩ present ?_).2.2.2 _
    commaEntries readDefinition_commaText rfl shaped_commaEntries
    (fun _ _ _ _ _ _ _ _ => rfl)
  intro t path aimed
  cases aimed
  decide +kernel

/-- A text that is no YAML is not handled, while the same text is handled where JSON is expected.
Nor is a spout without a name. -/
theorem not_handled_brace : ¬ (reportOn "t.yaml" "\x7bbad").Handled ∧
    (reportOn "t.json" "\x7bbad").ending.code? = some 1 ∧
      ¬ (reportOn "t.json" "\x7b\"spouts\":[\x7b\x7d]\x7d").Handled := by
  refine ⟨fun handled => handled.returns ?_, ?_, fun handled => handled.returns ?_⟩
  · decide +kernel
  · decide +kernel
  · decide +kernel

end CommandLine

end TaskGraph
