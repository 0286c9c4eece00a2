/-
Module: TaskGraph.Topology.Component
Purpose: The components of a topology, their configuration, and the streams that
  bolts read.
Main exports:
  InputStream, DeclaredInputs, Setting, Config, Spout, Bolt, Component
-/
import TaskGraph.Text.Capital
import TaskGraph.Value.Access

namespace TaskGraph

/-! ### Input streams -/

/-- A stream that a bolt reads from another component. -/
structure InputStream where
  component : Value
  stream : Value := .text "default"
  grouping : Grouping := .shuffle
  fields : List Value := []
deriving Repr, Inhabited

namespace InputStream

/-- The stored form of an input; the fields are left out if there are none. -/
def toValue (input : InputStream) : Value :=
  .map
    ([(.text "component", input.component), (.text "stream", input.stream),
      (.text "grouping", .text input.grouping.name)] ++
      if input.fields.isEmpty then [] else [(.text "fields", .list input.fields)])

/-- The grouping that a value names, which has to be one. -/
def groupingNamed (name : Value) : Except Error Grouping :=
  match name with
  | .text found =>
    match Grouping.ofName? found with
    | some grouping => .ok grouping
    | none => .error (.unknownGrouping name)
  | _ => .error (.unknownGrouping name)

/-- The grouping that the text of a value names, in letters of either case. -/
def groupingOf (value : Value) : Except Error Grouping := do
  groupingNamed (.text (Text.toUpper (← value.asPlain)))

/-- The input that a bolt is given by hand.  Fields that count as false are none. -/
def make (component : Value) (grouping : Grouping) (stream fields : Value) :
    Except Error InputStream := do
  let fields ← fields.walkIfTrue
  .ok { component, stream, grouping, fields }

/-- Read a stored input: the name of a component, or a mapping in which `source`
stands for a missing `component`. -/
def ofValue (data : Value) : Except Error InputStream :=
  match data with
  | .text component => .ok { component := .text component }
  | _ => do
    let entries ← data.asMapping
    let named := (entries.get? "component").getD ((entries.get? "source").getD (.text ""))
    let component ← named.asPlain
    let grouping ← groupingOf ((entries.get? "grouping").getD (.text "SHUFFLE"))
    let fields ← ((entries.get? "fields").getD (.list [])).walk
    .ok
      { component := .text component
        stream := (entries.get? "stream").getD (.text "default")
        grouping
        fields }

end InputStream

/-- An input as a declaration gives it: a stream from the component with a name, or the stored
form of one. -/
inductive InputItem where
  | stream (component : Text) (name : Value) (grouping : Grouping) (fields : List Value)
  | stored (data : Value)
deriving Repr, Inhabited

/-- The stream that is given. -/
def InputItem.read : InputItem → Except Error InputStream
  | stream component name grouping fields =>
    .ok { component := .text component, stream := name, grouping, fields }
  | stored data => InputStream.ofValue data

/-- The inputs of a declaration: items of either kind, or a value that is walked through for
stored ones. -/
inductive DeclaredInputs where
  | items (items : List InputItem)
  | value (data : Value)
deriving Repr, Inhabited

/-- The streams that are given, in their order. -/
def DeclaredInputs.read : DeclaredInputs → Except Error (List InputStream)
  | .items given => given.mapM InputItem.read
  | .value data => do (← data.walkIfTrue).mapM InputStream.ofValue

/-! ### Configuration -/

/-- A setting of a component. -/
inductive Setting where
  | entry (key value : Value)
  /-- What was put among the settings by hand and is no pair. -/
  | odd (parts : List Value)
deriving Repr, Inhabited

namespace Setting

/-- The setting with some parts. -/
def ofParts (parts : List Value) : Setting :=
  match parts with
  | [key, value] => entry key value
  | _ => odd parts

/-- The key and the value of a setting. -/
def pair : Setting → Except Error (Value × Value)
  | entry key value => .ok (key, value)
  | odd parts => Value.pairOf parts

/-- The stored form of a setting. -/
def toValue : Setting → Value
  | entry key value => .list [key, value]
  | odd parts => .list parts

/-- The setting that a key and a value give as texts. -/
def ofTexts (pair : Value × Value) : Except Error Setting := do
  let key ← pair.1.asPlain
  let value ← pair.2.asPlain
  .ok (entry (.text key) (.text value))

end Setting

/-- The settings of a component in the order in which they were written.  A key may
be written more than once. -/
abbrev Config := List Setting

namespace Config

/-- The last value written under a key.  All settings have to be pairs. -/
def last? (config : Config) (key : Value) : Except Error (Option Value) :=
  config.foldlM
    (fun found setting => do
      let (written, value) ← setting.pair
      pure (if written.equal key then some value else found))
    none

/-- Write a value, as text, under a key. -/
def set (config : Config) (key value : Value) : Except Error Config := do
  .ok (config ++ [.entry key (.text (← value.asPlain))])

/-- The stored form of a configuration. -/
def toValue (config : Config) : Value :=
  .list (config.map (·.toValue))

/-- Read a stored configuration; what counts as false has no settings.  The entries of a
mapping and the items of a sequence of pairs become texts. -/
def ofValue (data : Value) : Except Error Config :=
  if !data.isTrue then .ok []
  else
    match data.reveal with
    | .map entries => entries.mapM Setting.ofTexts
    | _ => do
      let items ← data.walk
      items.mapM fun item => do Setting.ofTexts (← item.asPair)

end Config

/-! ### Components -/

/-- A component that is a source of streams. -/
structure Spout where
  name : Value
  config : Config := []
deriving Repr, Inhabited

/-- A component that reads streams. -/
structure Bolt where
  name : Value
  config : Config := []
  inputs : List InputStream := []
deriving Repr, Inhabited

/-- The stored form of a spout. -/
def Spout.toValue (s : Spout) : Value :=
  .map [(.text "name", s.name), (.text "config", s.config.toValue)]

/-- The stored form of a bolt. -/
def Bolt.toValue (b : Bolt) : Value :=
  .map
    [(.text "name", b.name), (.text "config", b.config.toValue),
     (.text "inputs", .list (b.inputs.map (·.toValue)))]

/-- Write a setting of a spout. -/
def Spout.set (s : Spout) (key value : Value) : Except Error Spout := do
  .ok { s with config := ← s.config.set key value }

/-- Write a setting of a bolt. -/
def Bolt.set (b : Bolt) (key value : Value) : Except Error Bolt := do
  .ok { b with config := ← b.config.set key value }

/-- Let a bolt read one more stream. -/
def Bolt.addInput (b : Bolt) (input : InputStream) : Bolt :=
  { b with inputs := b.inputs ++ [input] }

/-- A component of either kind. -/
inductive Component where
  | spout (s : Spout)
  | bolt (b : Bolt)
deriving Repr, Inhabited

namespace Component

/-- The kind of a component. -/
def kind : Component → Kind
  | spout _ => .spout
  | bolt _ => .bolt

/-- A component without inputs, of the kind with a name. -/
def ofKind (kind name : Value) (config : Config) : Except Error Component :=
  match kind with
  | .text given =>
    match Kind.ofName? given with
    | some .spout => .ok (spout { name, config })
    | some .bolt => .ok (bolt { name, config })
    | none => .error (.unsupportedKind kind)
  | _ => .error (.unsupportedKind kind)

/-- The name of a component. -/
def name : Component → Value
  | spout s => s.name
  | bolt b => b.name

/-- The settings of a component. -/
def config : Component → Config
  | spout s => s.config
  | bolt b => b.config

/-- The stored form of a component. -/
def toValue : Component → Value
  | spout s => s.toValue
  | bolt b => b.toValue

end Component

end TaskGraph
