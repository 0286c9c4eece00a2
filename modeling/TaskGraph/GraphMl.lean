/-
Module: TaskGraph.GraphMl
Purpose: Writing networks as GraphML documents.
Main exports:
  GraphMl.write
-/
import TaskGraph.Network

namespace TaskGraph.GraphMl

/-! A document first declares a key for every kind of attribute that occurs, the
last one first, and then lists nodes and edges, each with its data.  The data of
the graph itself come last. -/

/-! ### Attributes -/

/-- What an attribute belongs to. -/
inductive Scope where
  | graph
  | node
  | edge
deriving DecidableEq, Repr, Inhabited

/-- The name of a scope. -/
def Scope.name : Scope → String
  | .graph => "graph"
  | .node => "node"
  | .edge => "edge"

/-- A declaration: attributes of one name and type in one scope share a key. -/
structure Key where
  scope : Scope
  label : String
  type : String
deriving DecidableEq, Repr, Inhabited

/-- The type that a value of an attribute has in a document; for a value that has
none, the name of what it is. -/
def typeOf : Value → Except String String
  | .text _ => .ok "string"
  | .int _ => .ok "long"
  | .float _ => .ok "double"
  | .bool _ => .ok "boolean"
  | .null => .error "NoneType"
  | .bytes _ => .error "bytes"
  | .date _ => .error "datetime.date"
  | .moment _ => .error "datetime.datetime"
  | .list _ => .error "list"
  | .tuple _ => .error "tuple"
  | .set _ => .error "set"
  | _ => .error "dict"

/-- A datum: the key of an attribute and the text of its value. -/
structure Datum where
  key : Key
  text : Text
deriving DecidableEq, Repr, Inhabited

/-- The datum of an attribute. -/
def datum (scope : Scope) (label : String) (value : Value) : Except Error Datum := do
  let text ← value.asPlain
  match typeOf value.reveal with
  | .ok type => .ok { key := { scope, label, type }, text }
  | .error what => .error (.unsupportedAttribute what)

/-- The data of a node. -/
def nodeData (node : NetworkNode) : Except Error (List Datum) :=
  [("index", .int node.index), ("size", node.size), ("weights", .text node.weights),
    ("centrality", node.centrality)].mapM fun (label, value) => datum .node label value

/-- The data of a link. -/
def linkData (link : NetworkLink) : Except Error (List Datum) :=
  [("name", .text link.name), ("weights", .text link.weights)].mapM
    fun (label, value) => datum .edge label value

/-! ### Markup -/

/-- A character of a text. -/
def textChar (c : Char) : List Char :=
  match c with
  | '&' => "&amp;".toList
  | '<' => "&lt;".toList
  | '>' => "&gt;".toList
  | _ => [c]

/-- A character of the value of a markup attribute. -/
def attributeChar (c : Char) : List Char :=
  match c with
  | '"' => "&quot;".toList
  | '\r' => "&#13;".toList
  | '\n' => "&#10;".toList
  | '\t' => "&#09;".toList
  | _ => textChar c

/-- Half of a character, which no encoding has, by its number. -/
def numbered (offset : Fin 0x800) : List Char :=
  s!"&#{(Symbol.half offset).code};".toList

/-- A text in which every character is written in some way. -/
def escaped (write : Char → List Char) (s : Text) : String :=
  String.ofList (s.toList.flatMap fun
    | .char c => write c
    | .half offset => numbered offset)

/-- A text with escapes for what markup would take otherwise. -/
def escapeText (s : Text) : String :=
  escaped textChar s

/-- The value of a markup attribute between quotes. -/
def attributeValue (s : Text) : String :=
  "\"" ++ escaped attributeChar s ++ "\""

/-- The start of a line at a depth. -/
def margin (depth : Nat) : String :=
  String.ofList (List.replicate (2 * depth) ' ')

/-- The position of a key among the declared ones. -/
def keyId (keys : List Key) (key : Key) : String :=
  s!"d{keys.findIdx (· == key)}"

/-- The line of a datum. -/
def datumLine (keys : List Key) (depth : Nat) (d : Datum) : String :=
  let opening := margin depth ++ "<data key=" ++ attributeValue (keyId keys d.key)
  if d.text.isEmpty then opening ++ " />\n"
  else opening ++ ">" ++ escapeText d.text ++ "</data>\n"

/-- The lines of an element that holds data. -/
def elementLines (keys : List Key) (name opening : String) (data : List Datum) : String :=
  margin 2 ++ "<" ++ opening ++ ">\n" ++ String.join (data.map (datumLine keys 3)) ++
    margin 2 ++ "</" ++ name ++ ">\n"

/-- The line that declares the key at a position. -/
def keyLine (key : Key) (position : Nat) : String :=
  margin 1 ++ s!"<key id=\"d{position}\" for=\"{key.scope.name}\" " ++
    s!"attr.name=\"{key.label}\" attr.type=\"{key.type}\" />\n"

/-- The two lines at the start of a document. -/
def preamble : String :=
  "<?xml version='1.0' encoding='utf-8'?>\n" ++
    "<graphml xmlns=\"http://graphml.graphdrawing.org/xmlns\" " ++
    "xmlns:xsi=\"http://www.w3.org/2001/XMLSchema-instance\" " ++
    "xsi:schemaLocation=\"http://graphml.graphdrawing.org/xmlns " ++
    "http://graphml.graphdrawing.org/xmlns/1.0/graphml.xsd\">\n"

/-- The document of a network. -/
def write (network : Network) : Except Error String := do
  let own ← datum .graph "name" network.name
  let nodes ← network.nodes.mapM fun node => (nodeData node).map fun data => (node, data)
  let links ← network.links.mapM fun link => (linkData link).map fun data => (link, data)
  let keys := (own.key :: (nodes.flatMap fun entry => entry.2.map (·.key)) ++
    links.flatMap fun entry => entry.2.map (·.key)).eraseDups
  let nodeText := nodes.map fun (node, data) =>
    elementLines keys "node" ("node id=" ++ attributeValue node.name.plain) data
  let linkText := links.map fun (link, data) =>
    elementLines keys "edge"
      ("edge source=" ++ attributeValue link.src.plain ++
        " target=" ++ attributeValue link.dest.plain ++
        " id=" ++ attributeValue (toString link.key))
      data
  .ok
    (preamble ++ String.join ((keys.zipIdx.map fun (key, i) => keyLine key i).reverse) ++
      margin 1 ++ "<graph edgedefault=\"directed\">\n" ++
      String.join nodeText ++ String.join linkText ++ datumLine keys 2 own ++
      margin 1 ++ "</graph>\n</graphml>\n")

end TaskGraph.GraphMl
