/-
Module: TaskGraph.Export
Purpose: The texts in which graphs are exported, and putting them into files.
Main exports:
  ExportFormat, Graph.exportText, Graph.exportFile, Graph.exportStream
-/
import TaskGraph.Files.System
import TaskGraph.Graph.Stored
import TaskGraph.GraphMl
import TaskGraph.Json.Writer
import TaskGraph.Metis.Printer

namespace TaskGraph

/-- The forms in which a graph is exported. -/
inductive ExportFormat where
  /-- A graph file for a partitioner. -/
  | metis (request : Metis.Request)
  /-- The stored form of the graph as JSON. -/
  | json (layout : Json.Layout)
  /-- The network of the graph as GraphML. -/
  | graphMl
deriving Repr, Inhabited

namespace ExportFormat

/-- The name of a form in the log. -/
def title : ExportFormat → String
  | metis _ => "METIS"
  | json _ => "JSON"
  | graphMl => "GraphML"

end ExportFormat

namespace Graph

/-- The error where a value is not written as JSON. -/
def writeError : Json.WriteFault → Error
  | .notAName => .illTyped
  | .circular => .circular
  | .noText fault => fault.error

/-- The stored form of a graph as JSON. -/
def jsonText (g : Graph) (layout : Json.Layout) : Except Error String := do
  let text ← (Json.write layout (← g.toValue)).mapError writeError
  .ok (text ++ "\n")

/-- The network of a graph as GraphML. -/
def graphMlText (g : Graph) : Except Error String := do
  GraphMl.write (← Network.ofGraph g)

/-- Note where an export goes. -/
def announce (format : ExportFormat) (path : Text) : Logged Unit :=
  Logged.entry .info .exporter (s!"Exporting to {format.title}: " ++ path)

/-- The text of a graph for the file at a path.  A graph file is made before the
export is noted in the log, the other forms after that. -/
def exportText (memory : Nat) (g : Graph) (format : ExportFormat) (path : Text) :
    Logged String := do
  match format with
  | .metis request =>
    let text ← Metis.render memory g request
    announce format path
    pure (String.ofList text)
  | .json layout =>
    announce format path
    Logged.ofExcept (g.jsonText layout)
  | .graphMl =>
    announce format path
    Logged.ofExcept g.graphMlText

/-- Put the text of a graph into the file at a path.  No file is touched unless there is
a text.  `shown` is the path for messages. -/
def exportFile {m : Type → Type} [Monad m] (fs : Files.System m) (memory : Nat) (g : Graph)
    (format : ExportFormat) (shown : Text) (path : Files.Path) : m (Logged Text) := do
  let text := exportText memory g format shown
  match text.outcome with
  | .error error => return { outcome := .error error, log := text.log }
  | .ok content =>
    return { outcome := ← fs.replace path (Utf8.encode content), log := text.log }

/-- The graph file of a graph for an open stream. -/
def exportStream (memory : Nat) (g : Graph) (request : Metis.Request) : Logged String := do
  let text ← Metis.render memory g request
  Logged.entry .info .exporter s!"Exporting to METIS stream: {g.vertexCount} vertices"
  pure (String.ofList text)

end Graph

end TaskGraph
