/-
Module: TaskGraph.Value.Access
Purpose: Looking into values whose shape is not known, and what is wrong where the
  shape is not the one that is needed.
Main exports:
  Value.walk, Value.asKey, Value.require, Value.asMapping, Value.asPair,
  Value.asEntries, Value.labelTexts
-/
import TaskGraph.Error

namespace TaskGraph.Value

/-! ### Texts -/

/-- The plain text of a value, which has to have one. -/
def asPlain (value : Value) : Except Error Text :=
  value.plain?.mapError TextFault.error

@[simp] theorem asPlain_text (s : Text) : (text s).asPlain = .ok s := rfl

/-- The texts that values are; other values are none. -/
def labelTexts : List Value → Except Error (List Text)
  | [] => .ok []
  | text s :: rest => (labelTexts rest).map (s :: ·)
  | _ :: _ => .error .illTyped

/-! ### Parts -/

/-- The items of a value that is walked through. -/
def walk (value : Value) : Except Error (List Value) :=
  match value.items? with
  | some items => .ok items
  | none => .error .illTyped

/-- The items of a value, none if it counts as false. -/
def walkIfTrue (value : Value) : Except Error (List Value) :=
  if value.isTrue then value.walk else .ok []

/-- The key that a value has to be. -/
def asKey (value : Value) : Except Error Key :=
  match value.key? with
  | some key => .ok key
  | none => .error .illTyped

/-- The value under a key that has to be there. -/
def require (value : Value) (key : String) : Except Error Value :=
  match value.reveal with
  | map entries =>
    match Entries.get? entries key with
    | some found => .ok found
    | none => .error (.missingKey key)
  | _ => .error .illTyped

/-- The entries of a value that is looked into by key. -/
def asMapping (value : Value) : Except Error Entries :=
  match value.reveal with
  | map entries => .ok entries
  | _ => .error .wrongShape

/-- The first and the second of some parts, of which there have to be two. -/
def pairOf (parts : List Value) : Except Error (Value × Value) :=
  match parts with
  | [first, second] => .ok (first, second)
  | _ => .error (if parts.length < 2 then .tooFewParts parts.length else .tooManyParts)

/-- The two items of a value that is walked through. -/
def asPair (value : Value) : Except Error (Value × Value) := do
  pairOf (← value.walk)

/-- Write the entries that values with two items each give, from the position
`index` on, into a mapping. -/
def insertPairs (index : Nat) (entries : Entries) : List Value → Except Error Entries
  | [] => .ok entries
  | item :: rest => do
    let parts ← item.walk
    match parts with
    | [key, value] =>
      if key.isKey then insertPairs (index + 1) (entries.insert key value) rest
      else .error .illTyped
    | _ => .error (.entryLength index parts.length)

/-- A value as a mapping: it is one, or a sequence of entries. -/
def asEntries (value : Value) : Except Error Entries :=
  match value.reveal with
  | map entries => .ok entries
  | _ => do insertPairs 0 [] (← value.walk)

end TaskGraph.Value
