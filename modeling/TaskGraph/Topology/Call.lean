/-
Module: TaskGraph.Topology.Call
Purpose: Calls on a topology one after the other, of which some may fail: declarations, settings,
  and streams that bolts read.
Main exports:
  Topology.Call, Topology.step, Topology.run
-/
import TaskGraph.Topology.Basic

namespace TaskGraph.Topology

/-- A call on a topology, or on a component of it that is given by its name. -/
inductive Call where
  | addSpout (name : Text) (parallelism config : Value)
  | addBolt (name : Text) (parallelism config : Value) (inputs : DeclaredInputs)
  | set (name key : Text) (value : Value)
  | addInput (bolt source : Text) (grouping : Grouping) (stream fields : Value)
deriving Repr, Inhabited

/-- Write a setting of a component, which has to be there. -/
def setting (t : Topology) (name key : Text) (value : Value) :
    Except Error (Topology × Component) := do
  let t ← t.set (.text name) (.text key) value
  match t.resolve? (.text name) with
  | some c => .ok (t, c)
  | none => .error .wrongShape

/-- Let a bolt, which has to be there, read one more stream. -/
def reading (t : Topology) (bolt source : Text) (grouping : Grouping) (stream fields : Value) :
    Except Error (Topology × Component) :=
  match t.resolve? (.text bolt) with
  | some (.bolt b) => do
    let input ← InputStream.make (.text source) grouping stream fields
    .ok (← t.addInput (.text bolt) input, .bolt (b.addInput input))
  | _ => .error .wrongShape

/-- The topology after a call, and the component that the call returned. -/
def step (t : Topology) : Call → Topology × Except Error Component
  | .addSpout name parallelism config =>
    settle t ((t.addSpout (.text name) parallelism config).outcome.map fun (t, s) => (t, .spout s))
  | .addBolt name parallelism config inputs =>
    settle t
      ((t.addBolt (.text name) parallelism config inputs).outcome.map fun (t, b) => (t, .bolt b))
  | .set name key value => settle t (t.setting name key value)
  | .addInput bolt source grouping stream fields =>
    settle t (t.reading bolt source grouping stream fields)

/-- The topology after calls one after the other, also where some of them failed. -/
def run (t : Topology) (calls : List Call) : Topology :=
  calls.foldl (fun t call => (t.step call).1) t

end TaskGraph.Topology
