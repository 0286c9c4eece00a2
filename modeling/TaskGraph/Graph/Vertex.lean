/-
Module: TaskGraph.Graph.Vertex
Purpose: Vertices, which stand for single instances of a component.
Main exports:
  Vertex, Vertex.lt?, Vertex.sorted, Vertex.weightsText, Vertex.toValue,
  Vertex.ofValue
-/
import TaskGraph.Sorting.Runs
import TaskGraph.Value.Access

namespace TaskGraph

/-- The distance of a vertex that no search has reached. -/
def unreached : Nat := Nat.pow 2 31 - 1

/-- A vertex.  All but its name are attributes that other tools fill in, with values of any
kind. -/
structure Vertex where
  name : Value
  distance : Value := .int unreached
  /-- The name of the vertex before it on a shortest path. -/
  predecessor : Value := .null
  centrality : Value := .float (Binary64.zero false)
  weights : Value := .list []
  size : Value := .int 1
deriving Repr, Inhabited

namespace Vertex

/-! ### Weights -/

/-- The weight labels between brackets, nothing if there are none. -/
def weightsText (v : Vertex) : Except Error Text :=
  if v.weights.isTrue then do
    let labels ← Value.labelTexts (← v.weights.walk)
    .ok ("(" ++ Text.join "," labels ++ ")")
  else
    .ok Text.empty

/-- Add labels, as texts, at the end of the weights, which have to be a list. -/
def addWeights (v : Vertex) (labels : Value) : Except Error Vertex :=
  match v.weights with
  | .list weights => do
    let items ← labels.walk
    let added ← items.mapM Value.asPlain
    .ok { v with weights := .list (weights ++ added.map .text) }
  | _ => .error .wrongShape

/-! ### Changes -/

/-- A change of one attribute of a vertex. -/
inductive Edit where
  | name (value : Value)
  | distance (value : Value)
  | predecessor (value : Value)
  | centrality (value : Value)
  | weights (value : Value)
  | size (value : Value)
  | addWeights (labels : Value)
deriving Repr, Inhabited

/-- The vertex after a change. -/
def edit (v : Vertex) : Edit → Except Error Vertex
  | .name value => .ok { v with name := value }
  | .distance value => .ok { v with distance := value }
  | .predecessor value => .ok { v with predecessor := value }
  | .centrality value => .ok { v with centrality := value }
  | .weights value => .ok { v with weights := value }
  | .size value => .ok { v with size := value }
  | .addWeights labels => v.addWeights labels

/-- What has been done of a change when it fails: labels are added one after the other, so
those before the first one that has no text are. -/
def Edit.begun? : Edit → Option Edit
  | .addWeights labels =>
    labels.items?.map fun items => .addWeights (.list (items.takeWhile fun item => item.plain?.isOk))
  | _ => none

/-! ### Equality and order

Vertices are the same if their names are equal.  They are ordered by distance, and by name
where the distances are the same. -/

/-- Two vertices have equal names. -/
def same (a b : Vertex) : Bool :=
  a.name.equal b.name

/-- The first of the vertices with each name; names have to be keys. -/
def distinct (vertices : List Vertex) : Except Error (List Vertex) := do
  let keys ← vertices.mapM fun v => v.name.asKey
  let keyed := (vertices.zip keys).foldl
    (fun seen (entry : Vertex × Key) =>
      if seen.any (·.2 == entry.2) then seen else seen ++ [entry])
    []
  .ok (keyed.map (·.1))

/-- Strict order; absent where distances or names cannot be compared. -/
def lt? (a b : Vertex) : Option Bool :=
  if a.distance.same b.distance then
    if a.name.same b.name then some false else a.name.lt? b.name
  else
    a.distance.lt? b.distance

/-- Before or the same. -/
def le? (a b : Vertex) : Option Bool :=
  (a.lt? b).map (· || a.same b)

/-- Neither before nor the same. -/
def gt? (a b : Vertex) : Option Bool :=
  (a.lt? b).map (!· && !a.same b)

/-- Not before. -/
def ge? (a b : Vertex) : Option Bool :=
  (a.lt? b).map (!·)

/-- Whether a vertex is before another one, which has to be decidable. -/
def before (a b : Vertex) : Except Error Bool :=
  match a.lt? b with
  | some answer => .ok answer
  | none => .error .illTyped

/-- Vertices in order, those of equal rank in their given order. -/
def sorted (vertices : List Vertex) : Except Error (List Vertex) :=
  Sorting.sort before vertices

/-! ### Extremes -/

/-- Keep the first of the vertices that no other one beats. -/
def pick (beats : Vertex → Vertex → Option Bool) : Vertex → List Vertex → Vertex
  | best, [] => best
  | best, v :: rest => pick beats (if beats v best = some true then v else best) rest

/-- The first of the least vertices. -/
def least? : List Vertex → Option Vertex
  | [] => none
  | v :: rest => some (pick lt? v rest)

/-- The first of the greatest vertices. -/
def greatest? : List Vertex → Option Vertex
  | [] => none
  | v :: rest => some (pick gt? v rest)

/-! ### Stored form -/

/-- The stored form of a vertex, whose weights have to be a collection. -/
def toValue (v : Vertex) : Except Error Value := do
  let weights ← v.weights.walk
  .ok (.map
    [(.text "name", v.name), (.text "distance", v.distance),
     (.text "predecessor", v.predecessor), (.text "centrality", v.centrality),
     (.text "weights", .list weights), (.text "size", v.size)])

/-- Read a stored vertex; all but the name may be left out. -/
def ofValue (data : Value) : Except Error Vertex := do
  let name ← data.require "name"
  let entries ← data.asMapping
  let weights ← ((entries.get? "weights").getD (.list [])).walk
  .ok
    { name
      distance := (entries.get? "distance").getD (.int unreached)
      predecessor := (entries.get? "predecessor").getD .null
      centrality := (entries.get? "centrality").getD (.float (Binary64.zero false))
      weights := .list weights
      size := (entries.get? "size").getD (.int 1) }

end Vertex

end TaskGraph
