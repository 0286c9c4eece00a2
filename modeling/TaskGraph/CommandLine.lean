/-
Module: TaskGraph.CommandLine
Purpose: The command that expands the topology in a file and exports its graph.
Main exports:
  Ending, Report, CommandLine.run
-/
import TaskGraph.Expansion
import TaskGraph.Export
import TaskGraph.Options
import TaskGraph.Platform
import TaskGraph.Topology.Loading

namespace TaskGraph

/-- How a command ends. -/
inductive Ending where
  /-- It returns an exit code. -/
  | returned (code : Nat)
  /-- The reading of its arguments ends it with an exit code: they are wrong, or ask for help. -/
  | stopped (code : Nat)
  /-- An error leaves it that it does not handle. -/
  | raised (error : Error)
deriving Repr, Inhabited

/-- The ending after something was printed, which may have been refused. -/
def Ending.afterPrinting (printed : Except Error Unit) (ending : Ending) : Ending :=
  match printed with
  | .ok () => ending
  | .error error => .raised error

/-- The ending after help was printed, or what is wrong with the arguments.  Where the system
refuses to write it, this is passed over. -/
def Ending.afterUsage (printed : Except Error Unit) (code : Nat) : Ending :=
  match printed with
  | .error (.file (.refused _ _ _)) => .stopped code
  | _ => .afterPrinting printed (.stopped code)

/-- What a command leaves behind apart from files. -/
structure Report where
  ending : Ending
  /-- The text that standard output has taken. -/
  output : Text := ""
  /-- The entries of the log that are shown.  It is passed over where one cannot be. -/
  log : List LogEntry := []
  /-- The message about a failure that standard error has taken. -/
  failure : Text := ""
deriving Repr, Inhabited

/-- An entry of the log as a line. -/
def LogEntry.line (entry : LogEntry) : Text :=
  s!"{entry.source.name} - {entry.level.name} - " ++ entry.message ++ "\n"

/-- All messages of a command, as they come. -/
def Report.messages (report : Report) : Text :=
  Text.concat (report.log.map (·.line)) ++ report.failure

namespace CommandLine

/-- The name of the command. -/
def program : String := "topograph-export"

/-- The levels that may be set, by name. -/
def levels : List (String × Nat) :=
  [("DEBUG", 10), ("INFO", 20), ("WARNING", 30), ("WARN", 30), ("ERROR", 40), ("CRITICAL", 50),
    ("FATAL", 50), ("NOTSET", 0)]

/-- The layout of a line of the log that has no other layout. -/
def lineLayout : String := "%(levelname)s:%(name)s:%(message)s"

/-- Names that stand for no level, with what is wrong when one is set. -/
def misnomers : List (String × Error) :=
  [("BASIC_FORMAT", .unknownLevel lineLayout), ("_STYLES", .illTyped)]

/-- The rank from which entries of the log are shown, by name; a name that stands for nothing
counts as `INFO`. -/
def threshold (level : Option Text) : Except Error Nat :=
  match level with
  | none => .error .wrongShape
  | some level =>
    let name := Text.toUpper level
    match misnomers.find? (Text.ofString ·.1 == name) with
    | some (_, error) => .error error
    | none => .ok (((levels.find? (Text.ofString ·.1 == name)).map (·.2)).getD 20)

/-- The entries of a log that are shown. -/
def shownEntries (rank : Nat) (log : List LogEntry) : List LogEntry :=
  log.filter fun entry => rank ≤ entry.level.rank

/-- The key that options ask for. -/
def parallelismKey (o : Options) : Value :=
  (o.parallelismKey.map Value.text).getD (.list [])

/-- The form of export that options ask for. -/
def exportFormat (o : Options) : Except Error ExportFormat :=
  match o.format with
  | some .metis => do
    let ncon := (o.ncon.map Value.int).getD (.list [])
    let request ← Metis.Request.make (.bool o.vertexSizes) (.bool o.vertexWeights)
      (.bool o.edgeWeights) ncon
    .ok (.metis request)
  | some .json => .ok (.json (.indented "  "))
  | _ => .ok .graphMl

/-- The path to export to: the one that was asked for, or the name of the topology in
the output directory. -/
def target (settings : Settings) (o : Options) (t : Topology) : Except Error Files.Path :=
  match o.output, o.format with
  | some path, _ => .ok path
  | none, none => .error .illTyped
  | none, some format => do
    let name ← t.name.asPlain
    .ok ((Files.Path.ofText settings.outputDirectory).join
      (Files.Path.ofText (name ++ "." ++ format.extension)))

/-- A graph with the form of its export and the path to export it to. -/
structure Job where
  graph : Graph
  format : ExportFormat
  path : Files.Path
deriving Repr, Inhabited

/-- What is to be exported, given the topology. -/
def prepare (settings : Settings) (o : Options) (loaded : Logged Topology) : Logged Job := do
  let t ← loaded
  let graph ← expand t (some (parallelismKey o))
  let path ← target settings o t
  let format ← exportFormat o
  pure { graph, format, path }

/-- A number in at least four places. -/
def inFour (n : Nat) : String :=
  let digits := Text.digitsOf n
  String.ofList (List.replicate (4 - digits.length) ' ' ++ digits)

/-- A line of dashes. -/
def rule : String :=
  String.ofList (List.replicate 30 '-') ++ "\n"

/-- What is printed after a successful export, line by line. -/
def success (path : Text) (s : Statistics) : List Text :=
  ["Success! Saved to " ++ path ++ "\n", rule, s!"  Vertices:      {s.vertices}\n",
    s!"  Edges:         {s.edges}\n", s!"  Max out-degree:{inFour s.maxOutDegree}\n",
    s!"  Max in-degree: {inFour s.maxInDegree}\n", rule]

/-- The message about a failed export. -/
def failureMessage (error : Error) : Text :=
  "Export failed: " ++ error.message ++ "\n"

/-- The message about wrong arguments. -/
def usageMessage (error : UsageError) : Text :=
  s!"{program}: error: " ++ error.message ++ "\n"

variable {m : Type → Type} [Monad m]

/-- Report a failed export.  Errors in the definition, the graph, the format or the target end the
command with a message; other errors are not handled, nor is one of printing the message. -/
def failed (platform : Platform m) (log : List LogEntry) (error : Error) : m Report :=
  if error.isOwn || error.isMissingFile || error.isMalformedValue then do
    let (failure, printed) ← platform.printAll .errors [failureMessage error]
    pure { ending := .afterPrinting printed (.returned 1), log, failure }
  else
    pure { ending := .raised error, log }

/-- Export as options ask for; entries of the log are shown from a rank on.  The file is in place
before anything is printed, and an error of printing is not handled. -/
def perform (platform : Platform m) (settings : Settings) (o : Options) (rank : Nat) :
    m Report := do
  let loaded ← Topology.load platform.files o.topology.toText o.topology (parallelismKey o)
  let prepared := prepare settings o loaded
  match prepared.outcome with
  | .error error => failed platform (shownEntries rank prepared.log) error
  | .ok job =>
    let exported ← job.graph.exportFile platform.files platform.memory job.format
      job.path.toText job.path
    let log := shownEntries rank (prepared.log ++ exported.log)
    match exported.outcome with
    | .error error => failed platform log error
    | .ok path =>
      let (output, printed) ← platform.printAll .output (success path job.graph.statistics)
      pure { ending := .afterPrinting printed (.returned 0), output, log }

/-- What is printed when help is asked for. -/
def help : String :=
  s!"usage: {program} [options] topology\n"

/-- Run the command under an environment on some arguments. -/
def run (platform : Platform m) (environment : String → Option Text) (arguments : List Text) :
    m Report := do
  let settings := Settings.ofEnvironment environment
  match Options.parse settings arguments with
  | .error error =>
    let (failure, printed) ← platform.printAll .errors [usageMessage error]
    pure { ending := .afterUsage printed 2, failure }
  | .ok none =>
    let (output, printed) ← platform.printAll .output [Text.ofString help]
    pure { ending := .afterUsage printed 0, output }
  | .ok (some options) =>
    match threshold options.logLevel with
    | .error error => pure { ending := .raised error }
    | .ok rank => perform platform settings options rank

end CommandLine

end TaskGraph
