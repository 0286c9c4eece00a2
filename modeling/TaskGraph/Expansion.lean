/-
Module: TaskGraph.Expansion
Purpose: Expanding a topology into the graph of its task instances.
Main exports:
  Labels, instanceName, expand, expectedCounts
-/
import TaskGraph.Graph.Statistics
import TaskGraph.Parallelism

namespace TaskGraph

/-! Every component becomes as many vertices as its parallelism says, spouts before
bolts, in the order of declaration.  For every input of a bolt, each instance of the
source is joined to each instance of the bolt, whatever the grouping.  An edge is
thus there wherever some grouping could send data. -/

/-- The name of the instance of a component with a number. -/
def instanceName (component : Value) (index : Nat) : Text :=
  component.plain ++ "-" ++ toString index

/-- What an expansion attaches to vertices and edges: labels for the instance of a
component with a number, and labels for an input and the numbers of the two
instances that it joins. -/
structure Labels where
  ofVertex : Component → Nat → List Value := fun _ _ => []
  ofEdge : InputStream → Nat → Nat → List Value := fun _ _ _ => []

instance : Inhabited Labels := ⟨{}⟩

/-- The numbers of `count` instances. -/
def instances (count : Nat) : List Nat :=
  List.range' 1 count

namespace Expansion

/-! ### Vertices -/

/-- The vertex of an instance. -/
def vertexOf (labels : Labels) (component : Component) (index : Nat) : Except Error Vertex :=
  ({ name := .text (instanceName component.name index) : Vertex }).addWeights
    (.list (labels.ofVertex component index))

/-- Add the instances of a component. -/
def addInstances (labels : Labels) (component : Component) (count : Nat) (g : Graph) :
    Except Error Graph :=
  (instances count).foldlM
    (fun g i => do g.addVertex (← vertexOf labels component i)) g

/-- Expand a component. -/
def expandComponent (labels : Labels) (state : Graph × Resolver) (component : Component) :
    Logged (Graph × Resolver) := do
  let (g, r) := state
  let (count, r) ← r.parallelism component
  let g ← addInstances labels component count g
  if count = 0 then
    Logged.entry .warning .expansion
      (s!"{component.kind.name} '" ++ component.name.plain ++
        "' has parallelism 0, no instances added")
  pure (g, r)

/-! ### Edges -/

/-- Join each instance of a source to each instance of a bolt. -/
def addLinks (labels : Labels) (input : InputStream) (source bolt : Value)
    (sourceCount boltCount : Nat) (g : Graph) : Except Error Graph :=
  (instances sourceCount).foldlM
    (fun g i =>
      (instances boltCount).foldlM
        (fun g j => do
          let weights ← (labels.ofEdge input i j).mapM Value.asPlain
          g.addEdge (.text (instanceName source i)) (.text (instanceName bolt j)) weights)
        g)
    g

/-- Expand one input of a bolt. -/
def expandInput (labels : Labels) (t : Topology) (bolt : Bolt) (boltCount : Nat)
    (state : Graph × Resolver) (input : InputStream) : Logged (Graph × Resolver) := do
  let (g, r) := state
  match t.resolve? input.component with
  | none => Logged.fail (.danglingInput bolt.name input.component)
  | some source =>
    let (sourceCount, r) ← r.parallelism source
    let g ← addLinks labels input source.name bolt.name sourceCount boltCount g
    Logged.entry .debug .expansion
      ("Input " ++ source.name.plain ++ " -> " ++ bolt.name.plain ++
        (s!" ({input.grouping.name}): {sourceCount} x {boltCount} = " ++
          s!"{sourceCount * boltCount} edges"))
    pure (g, r)

/-- Expand the inputs of a bolt. -/
def expandInputs (labels : Labels) (t : Topology) (state : Graph × Resolver) (bolt : Bolt) :
    Logged (Graph × Resolver) := do
  let (g, r) := state
  let (boltCount, r) ← r.parallelism (.bolt bolt)
  bolt.inputs.foldlM (expandInput labels t bolt boltCount) (g, r)

/-! ### The graph -/

/-- The parallelism of components one after the other, by name. -/
def gather (r : Resolver) : List Component → Logged (List (Value × Nat))
  | [] => pure []
  | component :: rest => do
    let (count, r) ← r.parallelism component
    let others ← gather r rest
    pure ((component.name, count) :: others)

/-- What a graph remembers of the topology that it came from. -/
def metadataOf (t : Topology) (parallelism : List (Value × Nat)) : Value.Entries :=
  [(.text "topology", t.name),
   (.text "parallelism",
     .map (Value.Entries.ofList (parallelism.map fun (name, count) => (name, .int count))))]

end Expansion

open Expansion in
/-- The graph of the task instances of a topology.  The parallelism is looked up
under `key`, or under the key of the topology where that is absent or counts as false. -/
def expand (t : Topology) (key : Option Value) (labels : Labels := {}) : Logged Graph := do
  Logged.ofExcept t.validate
  let start : Graph × Resolver := ({ name := t.name }, Resolver.new t key)
  let state ← t.components.foldlM (expandComponent labels) start
  let (g, r) ← t.bolts.foldlM (expandInputs labels t) state
  let parallelism ← gather r t.components
  let g := { g with metadata := metadataOf t parallelism }
  Logged.entry .info .expansion
    ("Built instance graph '" ++ (← t.name.asPlain) ++
      (s!"': {t.spouts.length} spouts, {t.bolts.length} bolts, " ++
        s!"{g.vertexCount} vertices, {g.edgeCount} edges"))
  pure g

/-! ### Counting beforehand -/

namespace Expansion

/-- Add up the parallelism of components. -/
def countVertices (state : Nat × Resolver) (component : Component) : Logged (Nat × Resolver) := do
  let (n, r) ← state.2.parallelism component
  pure (state.1 + n, r)

/-- Add the number of edges of an input. -/
def countInput (t : Topology) (bolt : Bolt) (boltCount : Nat) (state : Nat × Resolver)
    (input : InputStream) : Logged (Nat × Resolver) := do
  match t.resolve? input.component with
  | none => Logged.fail (.danglingInput bolt.name input.component)
  | some source =>
    let (n, r) ← state.2.parallelism source
    pure (state.1 + n * boltCount, r)

/-- Add the number of edges of the inputs of a bolt. -/
def countInputs (t : Topology) (state : Nat × Resolver) (bolt : Bolt) :
    Logged (Nat × Resolver) := do
  let (boltCount, r) ← state.2.parallelism (.bolt bolt)
  bolt.inputs.foldlM (countInput t bolt boltCount) (state.1, r)

end Expansion

/-- The numbers of vertices and edges that an expansion will have. -/
structure Counts where
  vertices : Nat
  edges : Nat
deriving DecidableEq, Repr, Inhabited

open Expansion in
/-- Count the vertices and the edges of an expansion without making them.  Names are
not checked. -/
def expectedCounts (t : Topology) (key : Option Value) : Logged Counts := do
  let (vertices, r) ← t.components.foldlM countVertices (0, Resolver.new t key)
  let (edges, _) ← t.bolts.foldlM (countInputs t) (0, r)
  pure { vertices, edges }

end TaskGraph
