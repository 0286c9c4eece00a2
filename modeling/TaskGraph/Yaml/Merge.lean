/-
Module: TaskGraph.Yaml.Merge
Purpose: Mappings whose entries are merged into other mappings.
Main exports:
  Yaml.Nodes.flatten
-/
import TaskGraph.Yaml.Node

namespace TaskGraph.Yaml.Nodes

/-! The entries of mappings under a merge key come before the other entries, so that these
overwrite them.  Of several mappings under one merge key, the first overwrites the others.  A
mapping that is merged into another one is flattened itself, and stays so.  It may be the same
one again, which has one merge key less by then. -/

/-- Entries of a mapping. -/
abbrev Entries := List (NodeId × NodeId)

/-- Inside a mapping the key for a default is a text. -/
def keyAsText (nodes : Nodes) (key : NodeId) : Nodes :=
  if nodes.tag key = .default then nodes.update key (·.withTag .text) else nodes

/-- Put entries in front of those of a mapping, which has no merge key any more. -/
def putInFront (nodes : Nodes) (id : NodeId) (merged : Entries) : Nodes :=
  let entries := (nodes.node id).entries
  let nodes := entries.foldl (fun nodes entry => nodes.keyAsText entry.1) nodes
  if merged.isEmpty then nodes else nodes.update id (·.withEntries (merged ++ entries))

/-- Take the merge keys out of a mapping and put the entries under them, those in `merged`
first, in front of its own.  Every step takes one merge key out of some mapping, so the number
of all of them is fuel enough.  At most `levels` mappings are merged through each other. -/
def flattenFrom : Nat → Nat → NodeId → Entries → Nodes → Except Error Nodes
  | 0, _, _, _, _ => .error .notYaml
  | fuel + 1, levels, id, merged, nodes =>
    let entries := (nodes.node id).entries
    match entries.findIdx? (fun entry => nodes.tag entry.1 == .merge) with
    | none => .ok (nodes.putInFront id merged)
    | some place =>
      let nodes := nodes.update id (·.withEntries (entries.eraseIdx place))
      let source (nodes : Nodes) (id : NodeId) : Except Error (Entries × Nodes) :=
        if levels = 0 then .error .tooDeep
        else if (nodes.node id).isMapping then do
          let nodes ← flattenFrom fuel (levels - 1) id [] nodes
          .ok ((nodes.node id).entries, nodes)
        else .error .notYaml
      match entries[place]?.map (·.2) with
      | none => .error .notYaml
      | some value =>
        match nodes.node value with
        | .scalar _ _ => .error .notYaml
        | .mapping _ _ => do
          let (found, nodes) ← source nodes value
          flattenFrom fuel levels id (merged ++ found) nodes
        | .sequence _ items => do
          let (sources, nodes) ← items.foldlM
            (fun (state : List Entries × Nodes) item => do
              let (found, nodes) ← source state.2 item
              .ok (found :: state.1, nodes))
            ([], nodes)
          flattenFrom fuel levels id (merged ++ sources.flatten) nodes

/-- The number of mappings that are merged through each other at the most. -/
def maxMerges : Nat := 986

/-- The number of all merge keys. -/
def mergeCount (nodes : Nodes) : Nat :=
  nodes.foldl
    (fun count node => count + node.entries.countP fun entry => nodes.tag entry.1 == .merge) 0

/-- Take the merge keys out of a mapping and put the entries under them in front of its own.
There are at most `merges` merge keys in all. -/
def flatten (nodes : Nodes) (merges : Nat) (id : NodeId) : Except Error Nodes :=
  flattenFrom (merges + 1) maxMerges id [] nodes

end TaskGraph.Yaml.Nodes
