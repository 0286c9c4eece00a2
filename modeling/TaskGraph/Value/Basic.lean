/-
Module: TaskGraph.Value.Basic
Purpose: The values that definition files and stored graphs are made of.
Main exports:
  Value, Value.reveal, Value.isTrue, Value.items?, Value.Entries
-/
import TaskGraph.Calendar
import TaskGraph.Decimal.Binary64
import TaskGraph.Text.Symbol

namespace TaskGraph

/-- A value of a definition file or of a stored graph.  Mappings keep the order
in which their keys were first written.

Collections that contain themselves are kept as a web: its cells are collections, and a
link among the parts of a cell stands for the cell at a place. -/
inductive Value where
  | null
  | bool (b : Bool)
  | int (n : Int)
  | float (x : Binary64)
  | text (s : Text)
  | bytes (data : List UInt8)
  | date (d : Date)
  | moment (m : Moment)
  | list (items : List Value)
  | tuple (items : List Value)
  | set (items : List Value)
  | map (entries : List (Value × Value))
  | web (cells : List Value) (place : Nat)
  | link (place : Nat)
deriving Repr, Inhabited

namespace Value

/-- The entries of a mapping, in the order in which the keys were first written. -/
abbrev Entries := List (Value × Value)

/-! ### Webs -/

/-- A part of a cell as a value of its own. -/
def attach (cells : List Value) : Value → Value
  | link place => web cells place
  | value => value

/-- The collection at a place of a web. -/
def cell (cells : List Value) (place : Nat) : Value :=
  match cells[place]? with
  | some (list items) => list (items.map (attach cells))
  | some (tuple items) => tuple (items.map (attach cells))
  | some (map entries) => map (entries.map fun (key, value) => (key, attach cells value))
  | _ => null

/-- A value with its parts in the open. -/
def reveal : Value → Value
  | web cells place => cell cells place
  | value => value

/-! ### Truth -/

/-- A value counts as true unless it is absent, zero or empty. -/
def isTrue (value : Value) : Bool :=
  match value.reveal with
  | null => false
  | bool b => b
  | int n => n != 0
  | float x => x.magnitude != 0
  | text s => !s.isEmpty
  | bytes data => !data.isEmpty
  | list items => !items.isEmpty
  | tuple items => !items.isEmpty
  | set items => !items.isEmpty
  | map entries => !entries.isEmpty
  | _ => true

/-! ### Walking through a value -/

/-- The values that a walk through a value meets: the items of a collection, the
keys of a mapping, the symbols of a text.  Other values cannot be walked. -/
def items? (value : Value) : Option (List Value) :=
  match value.reveal with
  | text s => some (s.toList.map fun c => text (Text.singleton c))
  | bytes data => some (data.map fun b => int b.toNat)
  | list items => some items
  | tuple items => some items
  | set items => some items
  | map entries => some (entries.map (·.1))
  | _ => none

end Value

end TaskGraph
