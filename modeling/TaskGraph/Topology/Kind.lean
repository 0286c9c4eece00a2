/-
Module: TaskGraph.Topology.Kind
Purpose: The kinds of components, and the policies by which a stream is spread over
  the instances of its reader.
Main exports:
  Kind, Grouping, Grouping.ofName?
-/
import TaskGraph.Text.Symbol

namespace TaskGraph

/-- What a component is: a source of streams, or a reader that may also be a
source. -/
inductive Kind where
  | spout
  | bolt
deriving DecidableEq, Repr, Inhabited

/-- The name of a kind. -/
def Kind.name : Kind → String
  | .spout => "spout"
  | .bolt => "bolt"

/-- The kind with a name. -/
def Kind.ofName? (name : Text) : Option Kind :=
  [Kind.spout, Kind.bolt].find? fun kind => Text.ofString kind.name == name

/-- The name of a kind at the start of a sentence. -/
def Kind.capitalName : Kind → String
  | .spout => "Spout"
  | .bolt => "Bolt"

/-- How the items of a stream are spread over the instances of a bolt. -/
inductive Grouping where
  | shuffle
  | fields
  | all
  | global
  | direct
  | none
  | custom
  | localOrShuffle
deriving DecidableEq, Repr, Inhabited

namespace Grouping

/-- All groupings. -/
def every : List Grouping :=
  [shuffle, fields, all, global, direct, none, custom, localOrShuffle]

/-- The name of a grouping. -/
def name : Grouping → String
  | shuffle => "SHUFFLE"
  | fields => "FIELDS"
  | all => "ALL"
  | global => "GLOBAL"
  | direct => "DIRECT"
  | none => "NONE"
  | custom => "CUSTOM"
  | localOrShuffle => "LOCAL_OR_SHUFFLE"

/-- The grouping with a name. -/
def ofName? (name : Text) : Option Grouping :=
  every.find? fun grouping => Text.ofString grouping.name == name

end Grouping

end TaskGraph
