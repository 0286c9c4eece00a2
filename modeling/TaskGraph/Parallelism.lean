/-
Module: TaskGraph.Parallelism
Purpose: The parallelism of components, and resolvers that remember it.
Main exports:
  parallelismOf, Resolver
-/
import TaskGraph.Topology.Basic
import TaskGraph.Text.Blank

namespace TaskGraph

/-- Read the setting of a component as a number.  The text of the setting, without
white space around it, has to be a run of ASCII digits. -/
def readParallelism (component raw : Value) : Except Error Nat := do
  let text ← raw.asPlain
  let token := Text.strip text.toList
  if Text.isPlainNumeral token then (Text.readNatural token).mapError .numeral
  else .error (.malformedParallelism component raw)

/-- The parallelism of a component: what was written last under the key, zero if
nothing was. -/
def parallelismOf (component : Component) (key : Value) : Except Error Nat := do
  match ← component.config.last? key with
  | none => .ok 0
  | some .null => .ok 0
  | some raw => readParallelism component.name raw

/-- The parallelism of a component that may be missing, zero if it is. -/
def parallelismIfAny (component : Option Component) (key : Value) : Except Error Nat :=
  match component with
  | none => .ok 0
  | some component => parallelismOf component key

/-- The parallelism of the component that a name resolves to, zero if there is
none. -/
def parallelismByName (t : Topology) (name key : Value) : Except Error Nat :=
  parallelismIfAny (t.resolve? name) key

/-- A resolver: the key that it looks under, and what it has found so far, by
name of the component. -/
structure Resolver where
  key : Value
  known : List (Key × Nat) := []
deriving Repr, Inhabited

namespace Resolver

/-- A resolver for a topology.  Without a key, or with one that counts as false, it takes
that of the topology. -/
def new (t : Topology) (key : Option Value) : Resolver :=
  match key with
  | none => { key := t.parallelismKey }
  | some key => { key := if key.isTrue then key else t.parallelismKey }

/-- The parallelism of a component.  It is read once for every name. -/
def parallelism (r : Resolver) (component : Component) : Logged (Nat × Resolver) := do
  let name ← component.name.asKey
  match r.known.lookup name with
  | some n => pure (n, r)
  | none => do
    let n ← parallelismOf component r.key
    Logged.entry .debug .resolver
      (s!"{component.kind.name} '" ++ component.name.plain ++ s!"' parallelism={n}")
    pure (n, { r with known := (name, n) :: r.known })

/-- The parallelism of the component that a name resolves to, zero if there is
none. -/
def parallelismByName (r : Resolver) (t : Topology) (name : Value) : Logged (Nat × Resolver) :=
  match t.resolve? name with
  | none => pure (0, r)
  | some component => r.parallelism component

end Resolver

end TaskGraph
