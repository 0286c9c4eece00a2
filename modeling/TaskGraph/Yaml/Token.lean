/-
Module: TaskGraph.Yaml.Token
Purpose: The marks and scalars that a YAML text is made of.
Main exports:
  Yaml.Token, Token.fault
-/
import TaskGraph.Error

namespace TaskGraph.Yaml

/-- A part of a YAML text.  The starts of block collections and all block ends come from
indentation, and keys also from a colon behind them. -/
inductive Token where
  -- Directives
  | version (major minor : Nat)
  | handle (name stem : String)
  | otherDirective
  -- Documents
  | documentStart
  | documentEnd
  | streamEnd
  -- Collections
  | blockSequence
  | blockMapping
  | blockEnd
  | flowSequence
  | flowSequenceEnd
  | flowMapping
  | flowMappingEnd
  -- Parts of collections
  | entry
  | separator
  | key
  | value
  -- Nodes
  | alias (name : String)
  | anchor (name : String)
  | tag (handle : Option String) (suffix : String)
  | scalar (text : List Symbol) (isPlain : Bool)
  /-- The text is faulty from here on. -/
  | broken (error : Error)
deriving Repr, Inhabited

/-- The error where a token of another kind was needed. -/
def Token.fault : Token → Error
  | broken error => error
  | _ => .notYaml

end TaskGraph.Yaml
