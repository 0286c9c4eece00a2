/-
Module: TaskGraph.Yaml.Reader
Purpose: Reading YAML documents as values.
Main exports:
  Yaml.read
-/
import TaskGraph.Yaml.Assembly
import TaskGraph.Yaml.Document

namespace TaskGraph.Yaml

/-- Read a text that holds one document; a text without one is the absent value. -/
def read (text : List Char) : Except Error Value :=
  if text.all isAllowed then do
    match ← Document.read (tokens text) with
    | some document =>
      let (part, contents) ← document.nodes.construct document.root
      return Assembly.value part contents
    | none => return .null
  else .error .notYaml

end TaskGraph.Yaml
