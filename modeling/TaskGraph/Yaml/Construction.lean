/-
Module: TaskGraph.Yaml.Construction
Purpose: What the collections of a YAML document hold, once its scalars are read as values.
Main exports:
  Yaml.Part, Yaml.Contents, Yaml.Construction, Nodes.construct
-/
import TaskGraph.Yaml.Merge
import TaskGraph.Yaml.Scalar.Meaning

namespace TaskGraph.Yaml

/-! ### Parts and contents -/

/-- A part of a collection: a value, or the collection that a node stands for. -/
inductive Part where
  | value (value : Value)
  | collection (id : NodeId)
deriving Repr, Inhabited

/-- What a collection holds. -/
inductive Contents where
  | list (items : List Part)
  | map (entries : List (Value × Part))
  | set (items : List Value)
  | pairs (entries : List (Part × Part))
deriving Repr, Inhabited

/-! ### Construction

Collections are filled in the order in which they are come upon: scalars are read when the
collection around them is filled, collections only wait then.  So of two faults the one in the
outer collection is found first.  Every node is read once.  What merging does to the nodes
stays, and shows wherever they are looked at later. -/

/-- The state of a construction: the nodes, what those stand for that have been come upon, the
collections in the order of filling, and what the filled ones hold. -/
structure Construction where
  nodes : Nodes
  /-- The number of merge keys at the most. -/
  merges : Nat
  known : Array (Option Part)
  order : Array NodeId := #[]
  contents : Array (Option Contents)
deriving Repr, Inhabited

/-- Steps of a construction. -/
abbrev Construct := StateT Construction (Except Error)

namespace Construct

/-- The value of a node that is meant to be a scalar.  Only the text of a scalar itself
can be a moment. -/
def scalarValue (nodes : Nodes) (id : NodeId) : Except Error Value := do
  let text ← nodes.scalarText Nodes.maxDefaults id
  if nodes.tag id == .timestamp && (nodes.node id).isMapping then .error .illTyped
  else Scalar.value (nodes.tag id) (id + 1) text

/-- What a node stands for.  A collection that is come upon for the first time is to be
filled. -/
def part (id : NodeId) : Construct Part := do
  let state ← get
  match state.known.getD id none with
  | some part => pure part
  | none =>
    if (state.nodes.tag id).isCollection then
      let part := Part.collection id
      set { state with known := state.known.setIfInBounds id part, order := state.order.push id }
      pure part
    else
      let value ← scalarValue state.nodes id
      let part := Part.value value
      set { state with known := state.known.setIfInBounds id part }
      pure part

/-- The key that a node is; no collection can be one. -/
def key (id : NodeId) : Construct Value := do
  match ← part id with
  | .value value => pure value
  | .collection _ => throw .notYaml

/-- The entries of a mapping, with what is merged into it. -/
def mapEntries (id : NodeId) : Construct (List (Value × Part)) := do
  let state ← get
  if (state.nodes.node id).isMapping then
    let nodes ← state.nodes.flatten state.merges id
    set { state with nodes }
    (nodes.node id).entries.mapM fun (keyId, valueId) => do
      let key ← key keyId
      let value ← part valueId
      pure (key, value)
  else throw .notYaml

/-- The one entry of a mapping that is an item of a sequence of entries. -/
def pairOf (id : NodeId) : Construct (Part × Part) := do
  match (← get).nodes.node id with
  | .mapping _ [(keyId, valueId)] =>
    let key ← part keyId
    let value ← part valueId
    pure (key, value)
  | _ => throw .notYaml

/-- What the collection at a node holds. -/
def contentsOf (id : NodeId) : Construct Contents := do
  let nodes := (← get).nodes
  match nodes.tag id, nodes.node id with
  | .sequence, .sequence _ items => return .list (← items.mapM part)
  | .mapping, _ => return .map (← mapEntries id)
  | .set, _ => return .set ((← mapEntries id).map (·.1))
  | .entries, .sequence _ items => return .pairs (← items.mapM pairOf)
  | _, _ => throw .notYaml

/-- Fill the collections from the one at a place of the order on.  Every collection is filled
once, so the number of nodes is fuel enough. -/
def fillFrom : Nat → Nat → Construct Unit
  | 0, _ => pure ()
  | fuel + 1, place => do
    match (← get).order[place]? with
    | none => pure ()
    | some id =>
      let contents ← contentsOf id
      modify fun state =>
        { state with contents := state.contents.setIfInBounds id contents }
      fillFrom fuel (place + 1)

end Construct

/-- What the node with a number stands for, and what all the collections hold that it leads
to. -/
def Nodes.construct (nodes : Nodes) (root : NodeId) :
    Except Error (Part × Array (Option Contents)) := do
  let start : Construction :=
    { nodes
      merges := nodes.mergeCount
      known := Array.replicate nodes.size none
      contents := Array.replicate nodes.size none }
  let steps : Construct Part := do
    let part ← Construct.part root
    Construct.fillFrom nodes.size 0
    pure part
  let (part, state) ← steps.run start
  .ok (part, state.contents)

end TaskGraph.Yaml
