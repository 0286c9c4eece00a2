/-
Module: TaskGraph.Proofs.CommandLine.Effect
Purpose: What the command does to files: it puts the one file that was asked for in place, or
  leaves all files as they were; and how it ends in either case.
Main exports:
  Options.Asks, Options.GoesTo, CommandLine.Exported, CommandLine.prepare_eq_ok,
  CommandLine.run_load, CommandLine.Settled, CommandLine.run_perform,
  CommandLine.run_all_or_nothing
-/
import TaskGraph.Proofs.CommandLine.Printing
import TaskGraph.Proofs.Export.Atomicity

namespace TaskGraph

/-! ### Endings -/

namespace Ending

/-- The exit code that a command returns, if it returns one. -/
def code? : Ending → Option Nat
  | returned code => some code
  | _ => none

/-- An error has left the command. -/
def isRaised : Ending → Bool
  | raised _ => true
  | _ => false

theorem eq_returned_of_code? {ending : Ending} {code : Nat} (coded : ending.code? = some code) :
    ending = .returned code := by
  cases ending with
  | returned other =>
      cases coded
      rfl
  | stopped other => cases coded
  | raised error => cases coded

theorem afterUsage_cases (printed : Except Error Unit) (code : Nat) :
    afterUsage printed code = .stopped code ∨
      ∃ error, printed = .error error ∧ afterUsage printed code = .raised error := by
  unfold afterUsage
  split
  · exact .inl rfl
  · cases printed with
    | ok done => exact .inl rfl
    | error error => exact .inr ⟨error, rfl, rfl⟩

end Ending

/-! ### What options ask for -/

/-- The form of export that options ask for: a graph file with the numbers that the flags name,
indented JSON, or else GraphML. -/
def Options.Asks (o : Options) (format : ExportFormat) : Prop :=
  match o.format with
  | some .metis => ∃ request ncon, format = .metis request ∧ o.ncon = some ncon ∧
      request.ncon = .int ncon ∧ request.vertexSizes = .bool o.vertexSizes ∧
      request.vertexWeights = .bool o.vertexWeights ∧ request.edgeWeights = .bool o.edgeWeights
  | some .json => format = .json (.indented "  ")
  | _ => format = .graphMl

/-- The path that options ask for, or else the name of the topology in the output directory, with
the extension of the form. -/
def Options.GoesTo (o : Options) (settings : Settings) (t : Topology) (path : Files.Path) : Prop :=
  match o.output with
  | some given => path = given
  | none => ∃ form name, o.format = some form ∧ t.name.asPlain = .ok name ∧
      path = (Files.Path.ofText settings.outputDirectory).join
        (Files.Path.ofText (name ++ "." ++ form.extension))

namespace CommandLine

open Files

/-- A file with the text of the graph of a topology, in the form and at the path that options ask
for, was put in place; the topology was read from its file, and read and expanded under one key. -/
structure Exported (memory : Nat) (settings : Settings) (o : Options) (before after : Tree)
    (bytes : List UInt8) (t : Topology) (g : Graph) (format : ExportFormat) (path : Path)
    (text : String) (place : Place) : Prop where
  read : before.read o.topology = .ok bytes
  loaded : (Topology.ofBytes o.topology.toText o.topology (.ok bytes) (parallelismKey o)).outcome =
    .ok t
  expanded : (expand t (some (parallelismKey o))).outcome = .ok g
  asked : o.Asks format
  target : o.GoesTo settings t path
  written : (g.exportText memory format path.toText).outcome = .ok text
  inPlace : before.Replaced after path (Utf8.encode text) place

section Preparing

variable {settings : Settings} {o : Options}

/-- A request that exists has the flags and the number of weights that it was made from. -/
theorem make_eq_ok {sizes weights edges ncon : Value} {request : Metis.Request}
    (made : Metis.Request.make sizes weights edges ncon = .ok request) :
    request.vertexSizes = sizes ∧ request.vertexWeights = weights ∧
      request.edgeWeights = edges ∧ request.ncon = ncon := by
  unfold Metis.Request.make at made
  split at made
  · cases made
    exact ⟨rfl, rfl, rfl, rfl⟩
  · cases made
  · cases made

theorem asks_of_exportFormat {format : ExportFormat} (asked : exportFormat o = .ok format) :
    o.Asks format := by
  unfold exportFormat at asked
  unfold Options.Asks
  cases chosen : o.format with
  | none =>
      rw [chosen] at asked
      cases asked
      rfl
  | some form =>
      rw [chosen] at asked
      cases form with
      | metis =>
          obtain ⟨request, made, ⟨⟩⟩ := bind_eq_ok.mp asked
          cases given : o.ncon with
          | none =>
              rw [given] at made
              cases made
          | some ncon =>
              rw [given] at made
              obtain ⟨sizes, weights, edges, count⟩ := make_eq_ok made
              exact ⟨request, ncon, rfl, rfl, count, sizes, weights, edges⟩
      | json =>
          cases asked
          rfl
      | graphMl =>
          cases asked
          rfl

theorem goesTo_of_target {t : Topology} {path : Path} (aimed : target settings o t = .ok path) :
    o.GoesTo settings t path := by
  unfold target at aimed
  unfold Options.GoesTo
  cases output : o.output with
  | some given =>
      rw [output] at aimed
      cases aimed
      rfl
  | none =>
      rw [output] at aimed
      cases chosen : o.format with
      | none =>
          rw [chosen] at aimed
          cases aimed
      | some form =>
          simp only [chosen] at aimed
          obtain ⟨name, plain, ⟨⟩⟩ := bind_eq_ok.mp aimed
          exact ⟨form, name, rfl, plain, rfl⟩

theorem prepare_eq_ok {loaded : Logged Topology} {job : Job} :
    (prepare settings o loaded).outcome = .ok job ↔
      ∃ t, loaded.outcome = .ok t ∧ (expand t (some (parallelismKey o))).outcome = .ok job.graph ∧
        target settings o t = .ok job.path ∧ exportFormat o = .ok job.format := by
  unfold prepare
  simp only [Logged.outcome_bind, Logged.outcome_liftM, Logged.outcome_pure, bind_eq_ok]
  constructor
  · intro prepared
    obtain ⟨t, loaded, g, expanded, path, aimed, format, asked, ⟨⟩⟩ := prepared
    exact ⟨t, loaded, expanded, aimed, asked⟩
  · intro parts
    obtain ⟨t, loaded, expanded, aimed, asked⟩ := parts
    exact ⟨t, loaded, job.graph, expanded, job.path, aimed, job.format, asked, rfl⟩

end Preparing

section Running

variable {σ : Type} {host : Host σ} {settings : Settings} {o : Options} {s next : σ}

/-- How an export as options ask for can go: it fails before there is something to export, it fails
to export that, or it succeeds, and then its success is printed. -/
theorem run_perform_cases {rank : Nat} {report : Report}
    (run : (perform host.platform settings o rank).run s = (report, next)) :
    ∃ loaded middle,
      (Topology.load host.system o.topology.toText o.topology (parallelismKey o)).run s =
        (loaded, middle) ∧
      ((∃ error log, (prepare settings o loaded).outcome = .error error ∧
          (failed host.platform log error).run middle = (report, next)) ∨
        ∃ job exported after, (prepare settings o loaded).outcome = .ok job ∧
          (job.graph.exportFile host.system host.memory job.format job.path.toText job.path).run
            middle = (exported, after) ∧
          ((∃ error log, exported.outcome = .error error ∧
              (failed host.platform log error).run after = (report, next)) ∨
            ∃ shown printed, exported.outcome = .ok shown ∧
              (host.platform.printAll .output (success shown job.graph.statistics)).run after =
                ((report.output, printed), next) ∧
              report.ending = .afterPrinting printed (.returned 0))) := by
  obtain ⟨loaded, middle, loading, preparing⟩ := run_bind_eq.mp run
  refine ⟨loaded, middle, loading, ?_⟩
  dsimp only at preparing
  cases prepared : (prepare settings o loaded).outcome with
  | error error =>
      simp only [prepared] at preparing
      exact .inl ⟨error, _, rfl, preparing⟩
  | ok job =>
      simp only [prepared] at preparing
      obtain ⟨exported, after, exporting, finishing⟩ := run_bind_eq.mp preparing
      refine .inr ⟨job, exported, after, rfl, exporting, ?_⟩
      cases outcome : exported.outcome with
      | error error =>
          simp only [outcome] at finishing
          exact .inl ⟨error, _, rfl, finishing⟩
      | ok shown =>
          simp only [outcome] at finishing
          obtain ⟨⟨output, printed⟩, last, printing, finishing⟩ := run_bind_eq.mp finishing
          obtain ⟨rfl, rfl⟩ := run_pure_eq.mp finishing
          exact .inr ⟨shown, printed, rfl, printing, rfl⟩

theorem run_load {disk : Disk σ} {shown : Text} {path : Path} {key : Value}
    {loaded : Logged Topology}
    (run : (Topology.load disk.system shown path key).run s = (loaded, next)) :
    disk.tree next = disk.tree s ∧ ∀ t, loaded.outcome = .ok t → ∃ bytes,
      (disk.tree s).read path = .ok bytes ∧
        (Topology.ofBytes shown path (.ok bytes) key).outcome = .ok t := by
  obtain ⟨found, s, looking, run⟩ := run_bind_eq.mp run
  have still := disk.holds looking
  split at run
  · obtain ⟨rfl, rfl⟩ := run_pure_eq.mp run
    exact ⟨still, nofun⟩
  · obtain ⟨rfl, rfl⟩ := run_pure_eq.mp run
    exact ⟨still, nofun⟩
  · obtain ⟨bytes, s, reading, run⟩ := run_bind_eq.mp run
    obtain ⟨rfl, rfl⟩ := run_pure_eq.mp run
    obtain ⟨same, contents⟩ := disk.read reading
    refine ⟨same.trans still, fun t loaded => ?_⟩
    cases bytes with
    | error fault =>
        unfold Topology.ofBytes at loaded
        cases loaded
    | ok bytes => exact ⟨bytes, still ▸ contents bytes rfl, loaded⟩

variable (host settings o) in
/-- What has become of the files at the end of a command with options.  If it returns zero, the one
file that was asked for is in place, and its success was printed.  If it returns anything else,
that is one, and all files are as they were.  If an error leaves it, then all files are as they
were as well, but for one case: the file is in place, and standard output has refused to print the
success. -/
def Settled (before after : Tree) (report : Report) : Prop :=
  match report.ending with
  | .returned code => if code = 0 then
      ∃ bytes t g format path text place,
        Exported host.memory settings o before after bytes t g format path text place ∧
          host.Prints .output (success path.toText g.statistics) report.output (.ok ())
    else code = 1 ∧ before.Keeps after
  | .raised error => before.Keeps after ∨
      ∃ bytes t g format path text place,
        Exported host.memory settings o before after bytes t g format path text place ∧
          host.Prints .output (success path.toText g.statistics) report.output (.error error)
  | .stopped _ => False

theorem exported_of_settled {before after : Tree} {report : Report}
    (settled : Settled host settings o before after report)
    (returned : report.ending = .returned 0) :
    ∃ bytes t g format path text place,
      Exported host.memory settings o before after bytes t g format path text place ∧
        host.Prints .output (success path.toText g.statistics) report.output (.ok ()) := by
  rw [Settled, returned] at settled
  exact settled

/-- The report on a failure leaves the files alone, whether it is printed or not. -/
theorem settled_failed {log : List LogEntry} {error : Error} {report : Report}
    (run : (failed host.platform log error).run s = (report, next)) {before : Tree}
    (keeps : before.Keeps (host.tree s)) :
    Settled host settings o before (host.tree next) report := by
  unfold failed at run
  split at run
  · obtain ⟨⟨failure, printed⟩, last, printing, run⟩ := run_bind_eq.mp run
    obtain ⟨rfl, rfl⟩ := run_pure_eq.mp run
    rw [← (Host.prints printing).1] at keeps
    cases printed with
    | ok _ => exact ⟨rfl, keeps⟩
    | error _ => exact .inl keeps
  · obtain ⟨rfl, rfl⟩ := run_pure_eq.mp run
    exact .inl keeps

theorem run_perform {rank : Nat} {report : Report}
    (run : (perform host.platform settings o rank).run s = (report, next)) :
    Settled host settings o (host.tree s) (host.tree next) report := by
  obtain ⟨loaded, middle, loading, ended⟩ := run_perform_cases run
  obtain ⟨same, contents⟩ := run_load loading
  rcases ended with ⟨error, log, -, reporting⟩ | ⟨job, exported, after, prepared, exporting, ended⟩
  · exact settled_failed reporting (same ▸ .refl _)
  · obtain ⟨t, read, expanded, aimed, asked⟩ := prepare_eq_ok.mp prepared
    obtain ⟨bytes, found, fromBytes⟩ := contents t read
    rcases ended with
      ⟨error, log, failure, reporting⟩ | ⟨shown, printed, succeeded, printing, ending⟩
    · exact settled_failed reporting (same ▸ Graph.keeps_exportFile exporting failure)
    · -- The file is in place by now, whatever comes of printing.
      obtain ⟨rfl, text, place, rendered, inPlace⟩ :=
        Graph.exportFile_succeeds exporting succeeded
      obtain ⟨still, prints⟩ := Host.prints printing
      rw [same, ← still] at inPlace
      have done : Exported host.memory settings o (host.tree s) (host.tree next) bytes t
          job.graph job.format job.path text place :=
        ⟨found, fromBytes, expanded, asks_of_exportFormat asked, goesTo_of_target aimed,
          rendered, inPlace⟩
      rw [Settled, ending]
      cases printed with
      | ok _ => exact ⟨bytes, t, job.graph, job.format, job.path, text, place, done, prints⟩
      | error error =>
          exact .inr ⟨bytes, t, job.graph, job.format, job.path, text, place, done, prints⟩

/-- A command with options is over at once if there is no such level of the log. -/
theorem run_asked {environment : String → Option Text} {arguments : List Text} {report : Report}
    (parsed : Options.parse (Settings.ofEnvironment environment) arguments = .ok (some o))
    (run : (CommandLine.run host.platform environment arguments).run s = (report, next)) :
    Settled host (Settings.ofEnvironment environment) o (host.tree s) (host.tree next) report := by
  unfold CommandLine.run at run
  simp only [parsed] at run
  cases level : threshold o.logLevel with
  | error error =>
      simp only [level] at run
      obtain ⟨rfl, rfl⟩ := run_pure_eq.mp run
      exact .inl (.refl _)
  | ok rank =>
      simp only [level] at run
      exact run_perform run

/-- A command that ends with the reading of its arguments prints one text, and leaves the files
alone. -/
theorem run_usage {stream : Stream} {text : Text} {code : Nat}
    {reportOf : Text × Except Error Unit → Report} {report : Report}
    (ends : ∀ printed, (reportOf printed).ending = .afterUsage printed.2 code)
    (run : (host.platform.printAll stream [text] >>= fun printed =>
      pure (reportOf printed)).run s = (report, next)) :
    host.tree next = host.tree s ∧ (report.ending = .stopped code ∨
      ∃ error, report.ending = .raised error ∧ host.Refuses stream text error) := by
  obtain ⟨⟨taken, printed⟩, last, printing, run⟩ := run_bind_eq.mp run
  obtain ⟨rfl, rfl⟩ := run_pure_eq.mp run
  obtain ⟨still, prints⟩ := Host.prints printing
  rw [ends]
  refine ⟨still, ?_⟩
  rcases Ending.afterUsage_cases printed code with stopped | ⟨error, rfl, raised⟩
  · exact .inl stopped
  · rcases prints.single with ⟨⟨⟩, -⟩ | ⟨_, ⟨⟩, refuses⟩
    exact .inr ⟨error, raised, refuses⟩

end Running

/-- On any disk, whichever of its steps fail, and with streams that may refuse any text, the command
returns zero only after it has put one file in place, the one that its options ask for, with all
other files as they were, and has printed its success.  However else it ends, all files are as they
were, unless the success could not be printed.  Where the arguments are wrong, or ask for help, it
does not return, and touches nothing. -/
theorem run_all_or_nothing {σ : Type} (host : Host σ) (environment : String → Option Text)
    (arguments : List Text) (s : σ) :
    let settings := Settings.ofEnvironment environment
    let ran := (run host.platform environment arguments).run s
    match Options.parse settings arguments with
    | .ok (some o) => Settled host settings o (host.tree s) (host.tree ran.2) ran.1
    | .ok none => host.tree ran.2 = host.tree s ∧ (ran.1.ending = .stopped 0 ∨
        ∃ error, ran.1.ending = .raised error ∧
          host.Refuses .output (Text.ofString help) error)
    | .error wrong => host.tree ran.2 = host.tree s ∧ (ran.1.ending = .stopped 2 ∨
        ∃ error, ran.1.ending = .raised error ∧
          host.Refuses .errors (usageMessage wrong) error) := by
  intro settings ran
  have ranEq : (run host.platform environment arguments).run s = (ran.1, ran.2) := rfl
  cases parsed : Options.parse settings arguments with
  | error wrong =>
      unfold run at ranEq
      simp only [settings] at parsed
      simp only [parsed] at ranEq
      exact run_usage (fun _ => rfl) ranEq
  | ok asked =>
      cases asked with
      | some o => exact run_asked parsed ranEq
      | none =>
          unfold run at ranEq
          simp only [settings] at parsed
          simp only [parsed] at ranEq
          exact run_usage (fun _ => rfl) ranEq

/-- The text of a stored topology that has a name and nothing else. -/
def textNamed (name : String) : String :=
  "\x7b\"name\": \"" ++ name ++ "\"\x7d"

/-- A working directory with nothing but the file of a topology that has a name and nothing
else. -/
def treeNamed (name : String) : Tree where
  entries := [(["work"], .directory),
    (["work", "t.json"], .file (Utf8.encode (textNamed name)) 0o644)]
  working := ["work"]

/-- The arguments of a command without a path for the export. -/
def bareArguments : List Text :=
  ["t.json", "--log-level", "WARNING"]

/-- What those arguments ask for. -/
def bareOptions : Options where
  topology := .ofText "t.json"
  parallelismKey := some (Settings.ofEnvironment fun _ => none).parallelismKey
  logLevel := some "WARNING"

theorem parse_bareArguments :
    Options.parse (Settings.ofEnvironment fun _ => none) bareArguments =
      .ok (some bareOptions) := by
  decide +kernel

/-- Standard output takes every text. -/
def takesAll (_ : Text) : Except Error Unit :=
  .ok ()

/-- Standard output takes no text: the device that it goes to is full. -/
def takesNone (_ : Text) : Except Error Unit :=
  .error (.file (.refused (.other 28 "No space left on device") "<stdout>" none))

/-- What the command leaves behind where a topology has a name and nothing else. -/
def ranNamed (accepts : Text → Except Error Unit) (name : String) : Report × Tree :=
  (run (Tree.host accepts 64).platform (fun _ => none) bareArguments).run (treeNamed name)

/-- The command returns zero after it has put a file in place where none was. -/
theorem run_all_or_nothing_words :
    (ranNamed takesAll "words").1.ending = .returned 0 ∧
      (treeNamed "words").file? ["work", "output", "words.graph"] = none ∧
      (ranNamed takesAll "words").2.file? ["work", "output", "words.graph"] =
        some (Utf8.encode "0 0\n", 0o644) ∧
      ∃ bytes t g format path text place,
        Exported 64 (Settings.ofEnvironment fun _ => none) bareOptions (treeNamed "words")
          (ranNamed takesAll "words").2 bytes t g format path text place ∧
        (ranNamed takesAll "words").1.output = Text.concat (success path.toText g.statistics) := by
  have returned : (ranNamed takesAll "words").1.ending = .returned 0 :=
    Ending.eq_returned_of_code? (by decide +kernel)
  have settled := run_all_or_nothing (Tree.host takesAll 64) (fun _ => none) bareArguments
    (treeNamed "words")
  simp only [parse_bareArguments] at settled
  exact ⟨returned, by decide +kernel, by decide +kernel, exported_of_settled settled returned⟩

/-- Where standard output is full an error leaves the command although the file is in place.  And
the name of a topology may take the file away from the output directory. -/
theorem not_all_or_nothing :
    ((ranNamed takesNone "words").1.ending.isRaised = true ∧
      (treeNamed "words").file? ["work", "output", "words.graph"] = none ∧
      (ranNamed takesNone "words").2.file? ["work", "output", "words.graph"] =
        some (Utf8.encode "0 0\n", 0o644)) ∧
    (ranNamed takesAll "/tmp/outside").1.ending.code? = some 0 ∧
      (ranNamed takesAll "/tmp/outside").2.file? ["work", "output", "tmp", "outside.graph"] =
        none := by
  decide +kernel

end CommandLine

end TaskGraph
