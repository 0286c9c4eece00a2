/-
Module: TaskGraph.Topology.Basic
Purpose: Topologies as ordered registries of spouts and bolts, with the rules for
  names.
Main exports:
  Topology, Topology.addSpout, Topology.addBolt, Topology.validate,
  Topology.resolve?, Topology.set
-/
import TaskGraph.Log
import TaskGraph.Topology.Component

namespace TaskGraph

/-- The key under which the parallelism of a component is written unless another
one is asked for. -/
def defaultParallelismKey : String := "topology.component.parallelism"

/-- A topology.  Spouts and bolts keep the order in which they were declared. -/
structure Topology where
  name : Value := .text "topology"
  /-- The key under which parallelism hints are written. -/
  parallelismKey : Value := .text defaultParallelismKey
  spouts : List Spout := []
  bolts : List Bolt := []
deriving Repr, Inhabited

/-- The characters that component names must not contain, in the order in which
they are looked for. -/
def reservedCharacters : List Char := [',', ':']

/-- A name contains a character: as a text, or as a collection of texts.  Other values
contain nothing. -/
def nameContains (name : Value) (c : Char) : Except Error Bool :=
  match name with
  | .text s => .ok (s.toList.any (· == .char c))
  | .list items => .ok (items.any (·.equal (.text (Text.singleton c))))
  | .map entries => .ok (entries.any (·.1.equal (.text (Text.singleton c))))
  | _ => .error .illTyped

/-- Refuse a name with a reserved character. -/
def checkCharacters (name : Value) : Except Error Unit := do
  match ← reservedCharacters.findM? (nameContains name) with
  | some c => .error (.reservedCharacter c name)
  | none => .ok ()

namespace Topology

/-! ### Queries -/

/-- All components: the spouts, then the bolts. -/
def components (t : Topology) : List Component :=
  t.spouts.map .spout ++ t.bolts.map .bolt

/-- The names of all components. -/
def componentNames (t : Topology) : List Value :=
  t.components.map (·.name)

/-- The number of components. -/
def size (t : Topology) : Nat :=
  t.spouts.length + t.bolts.length

/-- The first component with a name; spouts come before bolts. -/
def resolve? (t : Topology) (name : Value) : Option Component :=
  match t.spouts.find? (·.name.equal name) with
  | some s => some (.spout s)
  | none => (t.bolts.find? (·.name.equal name)).map .bolt

/-- A short text that tells a topology from others. -/
def shown (t : Topology) : Text :=
  "TopologyDefinition(name=" ++ t.name.shown ++
    s!", spouts={t.spouts.length}, bolts={t.bolts.length})"

/-! ### Names -/

/-- Refuse a name that has a reserved character or is already declared. -/
def checkName (t : Topology) (name : Value) : Except Error Unit := do
  checkCharacters name
  if t.bolts.any (·.name.equal name) then .error (.alreadyDeclared .bolt name)
  else if t.spouts.any (·.name.equal name) then .error (.alreadyDeclared .spout name)
  else .ok ()

/-- Refuse the first name that has a reserved character, cannot be a key, or was met
before. -/
def validateNames (seen : List Key) : List Value → Except Error Unit
  | [] => .ok ()
  | name :: rest => do
    checkCharacters name
    let key ← name.asKey
    if key ∈ seen then .error (.declaredTwice name)
    else validateNames (key :: seen) rest

/-- Check all names of a topology, also of one that was put together by hand. -/
def validate (t : Topology) : Except Error Unit :=
  validateNames [] t.componentNames

/-! ### Registration -/

/-- The settings that a declaration gives: its configuration, and after it the
parallelism hint, if there is one. -/
def settings (t : Topology) (parallelism config : Value) : Except Error Config := do
  let written ← Config.ofValue config
  match parallelism with
  | .null => .ok written
  | hint => written.set t.parallelismKey hint

/-- The spout of a declaration. -/
def declaredSpout (t : Topology) (name : Value) (parallelism config : Value) :
    Except Error Spout := do
  t.checkName name
  let config ← t.settings parallelism config
  .ok { name, config }

/-- The bolt of a declaration. -/
def declaredBolt (t : Topology) (name : Value) (parallelism config : Value)
    (inputs : DeclaredInputs) : Except Error Bolt := do
  t.checkName name
  let config ← t.settings parallelism config
  let inputs ← inputs.read
  .ok { name, config, inputs }

/-- Declare a spout. -/
def addSpout (t : Topology) (name : Value) (parallelism config : Value := .null) :
    Logged (Topology × Spout) := do
  let s ← t.declaredSpout name parallelism config
  Logged.entry .debug .definition ("Registered spout '" ++ (← name.asPlain) ++ "'")
  pure ({ t with spouts := t.spouts ++ [s] }, s)

/-- Declare a bolt. -/
def addBolt (t : Topology) (name : Value) (parallelism config : Value := .null)
    (inputs : DeclaredInputs := .items []) : Logged (Topology × Bolt) := do
  let b ← t.declaredBolt name parallelism config inputs
  Logged.entry .debug .definition ("Registered bolt '" ++ (← name.asPlain) ++ "'")
  pure ({ t with bolts := t.bolts ++ [b] }, b)

/-! ### Changes -/

/-- Change the first item that passes a test. -/
def modifyFirst {α : Type} (test : α → Bool) (change : α → Except Error α) :
    List α → Except Error (List α)
  | [] => .ok []
  | x :: rest =>
    if test x then (change x).map (· :: rest)
    else (modifyFirst test change rest).map (x :: ·)

/-- Write a setting of the component that a name resolves to. -/
def set (t : Topology) (name key value : Value) : Except Error Topology :=
  match t.resolve? name with
  | some (.spout _) => do
    .ok { t with spouts := ← modifyFirst (·.name.equal name) (·.set key value) t.spouts }
  | some (.bolt _) => do
    .ok { t with bolts := ← modifyFirst (·.name.equal name) (·.set key value) t.bolts }
  | none => .ok t

/-- Let the bolt that a name resolves to read one more stream. -/
def addInput (t : Topology) (name : Value) (input : InputStream) : Except Error Topology :=
  match t.resolve? name with
  | some (.bolt _) => do
    let bolts ← modifyFirst (·.name.equal name) (fun b => .ok (b.addInput input)) t.bolts
    .ok { t with bolts }
  | _ => .ok t

end Topology

end TaskGraph
