/-
Module: TaskGraph.Resolver.Session
Purpose: A resolver that is kept for a topology while the topology changes.
Main exports:
  Topology.Alteration, Topology.alter, Resolver.Session, Resolver.Event, Resolver.Session.run
-/
import TaskGraph.Parallelism
import TaskGraph.Topology.Call

namespace TaskGraph

namespace Topology

/-- A change of a topology: by a call, or by hand. -/
inductive Alteration where
  | call (call : Call)
  /-- A component is put at the end of its list as it is. -/
  | append (component : Component)
  /-- A setting of the component at a place among those of its kind, also of one that its name
  does not resolve to. -/
  | setAt (kind : Kind) (place : Nat) (key : Text) (value : Value)
deriving Repr, Inhabited

/-- Change the item at a place, if there is one. -/
def modifyAt {α : Type} (place : Nat) (change : α → Except Error α) (items : List α) :
    Except Error (List α) :=
  match items[place]? with
  | some item => (change item).map (items.set place)
  | none => .ok items

/-- The topology after a change; one that failed has left it as it was. -/
def alter (t : Topology) : Alteration → Topology
  | .call call => (t.step call).1
  | .append (.spout s) => { t with spouts := t.spouts ++ [s] }
  | .append (.bolt b) => { t with bolts := t.bolts ++ [b] }
  | .setAt .spout place key value =>
    match modifyAt place (·.set (.text key) value) t.spouts with
    | .ok spouts => { t with spouts }
    | .error _ => t
  | .setAt .bolt place key value =>
    match modifyAt place (·.set (.text key) value) t.bolts with
    | .ok bolts => { t with bolts }
    | .error _ => t

end Topology

namespace Resolver

/-- A topology and the resolver that is kept for it. -/
structure Session where
  topology : Topology
  resolver : Resolver
deriving Repr, Inhabited

/-- What happens one after the other: the topology changes, or the resolver is asked for the
parallelism of the component with a name. -/
inductive Event where
  | change (alteration : Topology.Alteration)
  | query (name : Text)
deriving Repr, Inhabited

namespace Session

/-- The session of a new resolver for a topology. -/
def start (t : Topology) (key : Option Value) : Session :=
  { topology := t, resolver := new t key }

/-- The session after a question, and the answer. -/
def ask (s : Session) (name : Text) : Session × Except Error Nat :=
  let answer := (s.resolver.parallelismByName s.topology (.text name)).outcome.map Prod.swap
  let (resolver, outcome) := settle s.resolver answer
  ({ s with resolver }, outcome)

/-- The session after an event. -/
def step (s : Session) : Event → Session
  | .change alteration => { s with topology := s.topology.alter alteration }
  | .query name => (s.ask name).1

/-- The session after events one after the other. -/
def run (s : Session) (events : List Event) : Session :=
  events.foldl step s

/-- What the resolver remembers of a name. -/
def known? (s : Session) (name : Text) : Option Nat :=
  s.resolver.known.lookup (.text name)

end Session

end Resolver

end TaskGraph
