/-
Module: TaskGraph.Yaml.Node
Purpose: The nodes that a YAML document is made of, before its scalars are read as values.
Main exports:
  Yaml.Node, Yaml.Nodes, Nodes.node, Nodes.scalarText
-/
import TaskGraph.Error
import TaskGraph.Yaml.Tag

namespace TaskGraph.Yaml

/-! Nodes are numbered in the order in which they start, and name their parts by number.  An
alias is the number of the node that it names, so that a node may stand at several places, and
also inside itself. -/

/-- The number of a node. -/
abbrev NodeId := Nat

/-- A node of a document. -/
inductive Node where
  | scalar (tag : Tag) (text : List Symbol)
  | sequence (tag : Tag) (items : List NodeId)
  | mapping (tag : Tag) (entries : List (NodeId × NodeId))
deriving Repr, Inhabited

namespace Node

/-- The node that is left out. -/
def absent : Node := scalar .null []

/-- The kind of value that a node is meant to be. -/
def tag : Node → Tag
  | scalar tag _ => tag
  | sequence tag _ => tag
  | mapping tag _ => tag

/-- The same node, meant to be of another kind. -/
def withTag (tag : Tag) : Node → Node
  | scalar _ text => scalar tag text
  | sequence _ items => sequence tag items
  | mapping _ entries => mapping tag entries

/-- The entries of a mapping; other nodes have none. -/
def entries : Node → List (NodeId × NodeId)
  | mapping _ entries => entries
  | _ => []

/-- The same mapping with other entries. -/
def withEntries (entries : List (NodeId × NodeId)) : Node → Node
  | mapping tag _ => mapping tag entries
  | node => node

/-- A node that holds entries. -/
def isMapping : Node → Bool
  | mapping _ _ => true
  | _ => false

end Node

/-- The nodes of a document by number. -/
abbrev Nodes := Array Node

namespace Nodes

/-- The node with a number. -/
def node (nodes : Nodes) (id : NodeId) : Node :=
  nodes.getD id .absent

/-- The kind of value that the node with a number is meant to be. -/
def tag (nodes : Nodes) (id : NodeId) : Tag :=
  (nodes.node id).tag

/-- Change the node with a number. -/
def update (nodes : Nodes) (id : NodeId) (change : Node → Node) : Nodes :=
  nodes.modify id change

/-! ### Texts -/

/-- The text of a node where a scalar is needed: that of a scalar, or for a mapping that of
the value under its first key for a default.  Such values stand inside each other at fewer
than `levels` levels. -/
def scalarText (nodes : Nodes) : Nat → NodeId → Except Error (List Symbol)
  | 0, _ => .error .tooDeep
  | levels + 1, id =>
    match nodes.node id with
    | .scalar _ text => .ok text
    | .sequence _ _ => .error .notYaml
    | .mapping _ entries =>
      match entries.find? fun entry => nodes.tag entry.1 == .default with
      | some (_, value) => nodes.scalarText levels value
      | none => .error .notYaml

/-- The number of levels at which defaults stand inside each other. -/
def maxDefaults : Nat := 985

end Nodes

end TaskGraph.Yaml
