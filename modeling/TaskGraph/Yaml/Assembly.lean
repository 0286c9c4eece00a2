/-
Module: TaskGraph.Yaml.Assembly
Purpose: The value that collections make together.
Main exports:
  Yaml.Assembly.value
-/
import TaskGraph.Value.Slots
import TaskGraph.Yaml.Construction

namespace TaskGraph.Yaml.Assembly

/-! Collections are settled from the inside out: first those that hold no other ones, then
those that hold settled ones only.  What is left over holds itself in some way, and becomes the
cells of one web. -/

/-- The values of the collections that are settled, by node. -/
abbrev Settled := Array (Option Value)

/-- The value of a part, if it is settled. -/
def settled? (settled : Settled) : Part → Option Value
  | .value value => some value
  | .collection id => settled.getD id none

/-- The items of a set, each once. -/
def setOf (items : List Value) : Value :=
  .set (Value.arranged (Value.distinct items))

/-- The value of a collection, if all its parts are settled. -/
def valueOf? (settled : Settled) : Contents → Option Value
  | .list items => (items.mapM (settled? settled)).map .list
  | .map entries => do
    let entries ← entries.mapM fun (key, part) => (settled? settled part).map (key, ·)
    some (.map (Value.Entries.ofList entries))
  | .set items => some (setOf items)
  | .pairs entries => do
    let tuples ← entries.mapM fun (key, part) => do
      some (Value.tuple [← settled? settled key, ← settled? settled part])
    some (.list tuples)

/-- Settle a collection if it can be. -/
def settleOne (contents : Array (Option Contents)) (id : NodeId) (settled : Settled) :
    Settled :=
  match settled.getD id none, contents.getD id none with
  | none, some held =>
    match valueOf? settled held with
    | some value => settled.setIfInBounds id (some value)
    | none => settled
  | _, _ => settled

/-- The number of collections that are settled. -/
def countSettled (settled : Settled) : Nat :=
  settled.foldl (fun count value => if value.isSome then count + 1 else count) 0

/-- Settle collections as long as more of them can be, in every round the inner ones first. -/
def settle (contents : Array (Option Contents)) : Nat → Settled → Settled
  | 0, settled => settled
  | fuel + 1, settled =>
    let next := (List.range contents.size).foldr (settleOne contents) settled
    if countSettled next = countSettled settled then next else settle contents fuel next

/-! ### Webs -/

/-- The cells of a web for the collections that are not settled, which are numbered by their
place among `openIds`, with those that were found behind these. -/
structure Weave where
  settled : Settled
  openIds : List NodeId
  /-- Tuples that hold cells, each a cell of its own. -/
  tuples : List Value := []

namespace Weave

/-- The value of a part, or a link to its cell. -/
def attach (weave : Weave) (part : Part) : Value :=
  match settled? weave.settled part, part with
  | some value, _ => value
  | none, .collection id => .link (weave.openIds.idxOf id)
  | none, .value value => value

/-- The tuple of two parts, which is a cell if one of them is. -/
def attachPair (weave : Weave) (key part : Part) : Value × Weave :=
  let tuple := Value.tuple [weave.attach key, weave.attach part]
  if (settled? weave.settled key).isSome && (settled? weave.settled part).isSome then
    (tuple, weave)
  else
    (.link (weave.openIds.length + weave.tuples.length),
      { weave with tuples := weave.tuples ++ [tuple] })

/-- The cell of a collection. -/
def cell (weave : Weave) : Contents → Value × Weave
  | .list items => (.list (items.map weave.attach), weave)
  | .map entries =>
    (.map (Value.Entries.ofList (entries.map fun (key, part) => (key, weave.attach part))), weave)
  | .set items => (setOf items, weave)
  | .pairs entries =>
    let (items, weave) := entries.foldl
      (fun (state : List Value × Weave) (key, part) =>
        let (item, weave) := state.2.attachPair key part
        (state.1 ++ [item], weave))
      ([], weave)
    (.list items, weave)

end Weave

/-- The cells of the collections that are not settled. -/
def cells (contents : Array (Option Contents)) (settled : Settled) (openIds : List NodeId) :
    List Value :=
  let (cells, weave) := openIds.foldl
    (fun (state : List Value × Weave) id =>
      match contents.getD id none with
      | some held =>
        let (cell, weave) := state.2.cell held
        (state.1 ++ [cell], weave)
      | none => (state.1 ++ [.null], state.2))
    ([], { settled, openIds })
  cells ++ weave.tuples

/-- The value of a part, given what all collections hold. -/
def value (part : Part) (contents : Array (Option Contents)) : Value :=
  let settled := settle contents (contents.size + 1) (Array.replicate contents.size none)
  match settled? settled part, part with
  | some value, _ => value
  | none, .value value => value
  | none, .collection id =>
    let openIds := (List.range contents.size).filter fun id =>
      (contents.getD id none).isSome && (settled.getD id none).isNone
    .web (cells contents settled openIds) (openIds.idxOf id)

end TaskGraph.Yaml.Assembly
