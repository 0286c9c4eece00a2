/-
Module: TaskGraph.Topology.Loading
Purpose: Reading topologies and graph files from files.
Main exports:
  Topology.isYamlPath, Topology.ofBytes, Topology.load, Metis.load
-/
import TaskGraph.Files.System
import TaskGraph.Json.Reader
import TaskGraph.Metis.Parser
import TaskGraph.Text.Lines
import TaskGraph.Topology.Stored
import TaskGraph.Yaml.Reader

namespace TaskGraph

/-- Read JSON.  The place of a fault is given by line and column. -/
def readJson (text : List Char) : Except Error Value :=
  match Json.read text with
  | .ok value => .ok value
  | .error .tooDeep => .error .tooDeep
  | .error (.numeral fault) => .error (.numeral fault)
  | .error (.problem what left) =>
    let position := text.length - left
    let (line, column) := Json.lineColumn (text.take position)
    .error (.notJson what line column position)

namespace Topology

/-- A file whose name ends in `.yaml` or `.yml`, in letters of either case, holds
YAML.  No letter beyond ASCII has one of these letters as its lower case. -/
def isYamlPath (path : Files.Path) : Bool :=
  let ending := path.suffix.toList.map fun
    | .char c => Symbol.char c.toLower
    | half => half
  ending == Text.symbols ".yaml".toList || ending == Text.symbols ".yml".toList

/-- Read the bytes of a definition as a value. -/
def readDefinition (yaml : Bool) (bytes : List UInt8) : Except Error Value :=
  if yaml then do
    let text ← (Utf8.decodePortions bytes).mapError .notText
    Yaml.read (Text.unifyBreaks text)
  else do
    let text ← (Utf8.decode bytes).mapError .notText
    readJson (Text.unifyBreaks text)

/-- Read a definition, given the outcome of reading the bytes of its file.  A value
that counts as false is an empty definition.  `shown` is the path for messages. -/
def ofBytes (shown : Text) (path : Files.Path) (bytes : Except Files.Fault (List UInt8))
    (key : Value) : Logged Topology := do
  Logged.entry .info .definition ("Loading topology from: " ++ shown)
  let bytes ← bytes.mapError Error.file
  let data ← readDefinition (isYamlPath path) bytes
  Topology.ofValue (if data.isTrue then data else .map []) key

end Topology

section Loading

variable {m : Type → Type} [Monad m]

/-- Go on with the bytes of a file, if something is at its path. -/
def withFile {α : Type} (fs : Files.System m) (shown : Text) (path : Files.Path)
    (next : Except Files.Fault (List UInt8) → Logged α) : m (Logged α) := do
  match ← fs.holds path with
  | .error fault => pure (Logged.fail (.file fault))
  | .ok false => pure (Logged.fail (.fileMissing shown))
  | .ok true => return next (← fs.read path)

/-- Read the topology in a file.  `shown` is the path for messages. -/
def Topology.load (fs : Files.System m) (shown : Text) (path : Files.Path) (key : Value) :
    m (Logged Topology) :=
  withFile fs shown path fun bytes => Topology.ofBytes shown path bytes key

/-- Read the graph file at a path.  `shown` is the path for messages. -/
def Metis.load (fs : Files.System m) (shown : Text) (path : Files.Path) :
    m (Logged Metis.Summary) :=
  withFile fs shown path fun bytes => do
    Logged.entry .info .reader ("Reading METIS file: " ++ shown)
    let bytes ← bytes.mapError Error.file
    let text ← (Utf8.decode bytes).mapError Error.notText
    Logged.ofExcept (Metis.parse (Text.symbols (Text.unifyBreaks text)))

end Loading

end TaskGraph
