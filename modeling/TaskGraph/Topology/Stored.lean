/-
Module: TaskGraph.Topology.Stored
Purpose: The stored form of topologies.
Main exports:
  Topology.toValue, Topology.ofValue
-/
import TaskGraph.Topology.Basic

namespace TaskGraph.Topology

/-- The stored form of a topology. -/
def toValue (t : Topology) : Value :=
  .map
    [(.text "name", t.name), (.text "spouts", .list (t.spouts.map (·.toValue))),
     (.text "bolts", .list (t.bolts.map (·.toValue)))]

/-- Declare a stored spout. -/
def addStoredSpout (t : Topology) (data : Value) : Logged Topology := do
  let name ← data.require "name"
  let entries ← data.asMapping
  let (t, _) ← t.addSpout (.text (← name.asPlain)) ((entries.get? "parallelism").getD .null)
    ((entries.get? "config").getD .null)
  pure t

/-- Declare a stored bolt. -/
def addStoredBolt (t : Topology) (data : Value) : Logged Topology := do
  let name ← data.require "name"
  let entries ← data.asMapping
  let (t, _) ← t.addBolt (.text (← name.asPlain)) ((entries.get? "parallelism").getD .null)
    ((entries.get? "config").getD .null) (.value ((entries.get? "inputs").getD .null))
  pure t

/-- Read a stored topology.  The name, the spouts and the bolts may be left out. -/
def ofValue (data parallelismKey : Value) : Logged Topology := do
  let entries ← data.asMapping
  let start : Topology := { name := (entries.get? "name").getD (.text "topology"), parallelismKey }
  let spouts ← ((entries.get? "spouts").getD (.list [])).walkIfTrue
  let t ← spouts.foldlM addStoredSpout start
  let bolts ← ((entries.get? "bolts").getD (.list [])).walkIfTrue
  let t ← bolts.foldlM addStoredBolt t
  Logged.entry .info .definition
    ("Loaded topology '" ++ (← t.name.asPlain) ++
      s!"': {t.spouts.length} spouts, {t.bolts.length} bolts")
  pure t

end TaskGraph.Topology
