/-
Module: TaskGraph.Log
Purpose: Computations that may fail and that keep a log, which survives a failure.
Main exports:
  LogLevel, LogSource, LogEntry, Logged
-/
import TaskGraph.Error

namespace TaskGraph

/-- How much an entry matters. -/
inductive LogLevel where
  | debug
  | info
  | warning
deriving DecidableEq, Repr, Inhabited

/-- The name of a level. -/
def LogLevel.name : LogLevel → String
  | .debug => "DEBUG"
  | .info => "INFO"
  | .warning => "WARNING"

/-- The rank of a level; entries below a threshold are not shown. -/
def LogLevel.rank : LogLevel → Nat
  | .debug => 10
  | .info => 20
  | .warning => 30

/-- The part of the program that an entry comes from. -/
inductive LogSource where
  | definition
  | resolver
  | expansion
  | exporter
  | reader
deriving DecidableEq, Repr, Inhabited

/-- The name under which a part logs. -/
def LogSource.name : LogSource → String
  | .definition => "topograph.core.topology"
  | .resolver => "topograph.core.component_resolver"
  | .expansion => "topograph.core.graph_builder"
  | .exporter => "topograph.core.graph_exporter"
  | .reader => "topograph.core.metis_reader"

/-- An entry of the log. -/
structure LogEntry where
  level : LogLevel
  source : LogSource
  message : Text
deriving DecidableEq, Repr, Inhabited

/-- The outcome of a computation, with the entries that it logged up to there. -/
structure Logged (α : Type) where
  outcome : Except Error α
  log : List LogEntry := []

namespace Logged

/-- A computation that logs nothing. -/
def ofExcept {α : Type} (outcome : Except Error α) : Logged α :=
  { outcome }

/-- A failure that logs nothing. -/
def fail {α : Type} (error : Error) : Logged α :=
  ofExcept (.error error)

/-- Log one entry. -/
def entry (level : LogLevel) (source : LogSource) (message : Text) : Logged Unit :=
  { outcome := .ok (), log := [{ level, source, message }] }

/-- Go on with the result of a computation; its log comes first. -/
def andThen {α β : Type} (first : Logged α) (next : α → Logged β) : Logged β :=
  match first.outcome with
  | .error error => { outcome := .error error, log := first.log }
  | .ok a =>
    let second := next a
    { outcome := second.outcome, log := first.log ++ second.log }

instance : Monad Logged where
  pure a := ofExcept (.ok a)
  bind := andThen

instance : MonadLift (Except Error) Logged where
  monadLift := ofExcept

/-- The outcome of two computations in sequence. -/
@[simp] theorem outcome_bind {α β : Type} (first : Logged α) (next : α → Logged β) :
    (first >>= next).outcome = first.outcome >>= fun a => (next a).outcome := by
  change (andThen first next).outcome = _
  unfold andThen
  cases first.outcome <;> rfl

@[simp] theorem outcome_pure {α : Type} (a : α) : (pure a : Logged α).outcome = .ok a := rfl

@[simp] theorem outcome_entry (level : LogLevel) (source : LogSource) (message : Text) :
    (entry level source message).outcome = .ok () := rfl

@[simp] theorem outcome_ofExcept {α : Type} (outcome : Except Error α) :
    (ofExcept outcome).outcome = outcome := rfl

@[simp] theorem outcome_liftM {α : Type} (outcome : Except Error α) :
    (liftM outcome : Logged α).outcome = outcome := rfl

end Logged

end TaskGraph
