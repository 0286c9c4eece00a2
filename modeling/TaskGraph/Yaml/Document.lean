/-
Module: TaskGraph.Yaml.Document
Purpose: Putting the tokens of a YAML text together to the nodes of its one document.
Main exports:
  Yaml.Document, Document.read
-/
import TaskGraph.Yaml.Lexer
import TaskGraph.Yaml.Node

namespace TaskGraph.Yaml

/-- A document: its nodes, and the number of the one that stands in no other. -/
structure Document where
  nodes : Nodes
  root : NodeId
deriving Repr, Inhabited

namespace Document

/-! ### State -/

/-- The tokens still to be read, the nodes that have been given names, all the nodes that
have started, and the number of collections that are open. -/
structure State where
  tokens : List Token
  anchors : List (String × NodeId) := []
  nodes : Nodes := #[]
  depth : Nat := 0
deriving Inhabited

/-- The number of collections that may be open at the same time. -/
def maxDepth : Nat := 489

namespace State

/-- The state with other tokens still to be read. -/
def goto (s : State) (tokens : List Token) : State := { s with tokens }

/-- The error where the next token does not fit. -/
def fault (s : State) : Error :=
  match s.tokens with
  | token :: _ => token.fault
  | [] => .notYaml

/-- The next token fits a test. -/
def next (s : State) (p : Token → Bool) : Bool :=
  s.tokens.head?.any p

/-- One more node.  It may be referred to by its name from here on. -/
def add (s : State) (name : Option String) (node : Node) : NodeId × State :=
  let id := s.nodes.size
  (id,
    { s with
      nodes := s.nodes.push node
      anchors := (name.map (·, id)).toList ++ s.anchors })

/-- One more collection, which is empty as long as it is open. -/
def enter (s : State) (name : Option String) (node : Node) :
    Except Error (NodeId × State) :=
  if s.depth < maxDepth then
    let (id, s) := s.add name node
    .ok (id, { s with depth := s.depth + 1 })
  else .error .tooDeep

/-- Close a collection, with what it holds. -/
def leave (s : State) (id : NodeId) (node : Node) : State :=
  { s with nodes := s.nodes.update id fun _ => node, depth := s.depth - 1 }

end State

/-- A token is one of those that end an entry of a block mapping. -/
def endsBlockPart : Token → Bool
  | .key => true
  | .value => true
  | .blockEnd => true
  | _ => false

/-- A token is one of those that end an item of a flow sequence. -/
def endsFlowItem : Token → Bool
  | .separator => true
  | .flowSequenceEnd => true
  | _ => false

/-- A token is one of those that end an entry of a flow mapping. -/
def endsFlowEntry : Token → Bool
  | .separator => true
  | .flowMappingEnd => true
  | _ => false

/-- The mark before a value. -/
def isValue : Token → Bool
  | .value => true
  | _ => false

/-- The mark before an item of a block sequence. -/
def isEntry : Token → Bool
  | .entry => true
  | _ => false

/-! ### Names and tags of nodes -/

/-- What stands before a node: a name and a tag, each perhaps absent. -/
structure Properties where
  anchor : Option String := none
  tag : Option String := none
deriving Repr, Inhabited

/-- What the handles of tags stand for. -/
abbrev Handles := List (String × String)

/-- What handles stand for where no directive says otherwise. -/
def standardHandles : Handles := [("!", "!"), ("!!", Tag.stem)]

/-- The full name of a tag. -/
def tagName (handles : Handles) (handle : Option String) (suffix : String) :
    Except Error String :=
  match handle with
  | none => .ok suffix
  | some handle =>
    match handles.lookup handle with
    | some stem => .ok (stem ++ suffix)
    | none => .error .notYaml

/-- Read the name and the tag before a node, in either order.  A fault right behind them is
found first, but for a tag that follows a name. -/
def readProperties (handles : Handles) (s : State) : Except Error (Properties × State) :=
  match s.tokens with
  | .anchor anchor :: .tag handle suffix :: rest => do
    let tag ← tagName handles handle suffix
    return ({ anchor := some anchor, tag := some tag }, s.goto rest)
  | .anchor anchor :: rest => .ok ({ anchor := some anchor }, s.goto rest)
  | .tag handle suffix :: .anchor anchor :: rest => do
    let tag ← tagName handles handle suffix
    return ({ anchor := some anchor, tag := some tag }, s.goto rest)
  | .tag _ _ :: .broken error :: _ => .error error
  | .tag handle suffix :: rest => do
    let tag ← tagName handles handle suffix
    return ({ tag := some tag }, s.goto rest)
  | _ => .ok ({}, s)

namespace Properties

/-- The kind of a node, `standard` where the tag leaves it open. -/
def kind (p : Properties) (standard : Tag) : Tag :=
  match p.tag with
  | none => standard
  | some name => if name = "!" then standard else Tag.ofName name

/-- The kind of a scalar.  The form of the text decides where the scalar is plain and
has no tag, or where its tag is a lone exclamation mark. -/
def scalarKind (p : Properties) (text : List Symbol) (isPlain : Bool) : Tag :=
  p.kind (if isPlain || p.tag.isSome then Tag.ofPlain text else .text)

/-- Nothing stands before the node. -/
def isEmpty (p : Properties) : Bool :=
  p.anchor.isNone && p.tag.isNone

end Properties

/-! ### Nodes

At most three of the functions that follow call each other before a token is read, so
three times the number of tokens is fuel enough. -/

mutual

/-- Read a node.  Block collections are nodes only outside brackets; the items of an
indentless sequence start at the column of the mapping around it. -/
def readNode (handles : Handles) (block indentless : Bool) :
    Nat → State → Except Error (NodeId × State)
  | 0, s => .error s.fault
  | fuel + 1, s =>
    match s.tokens with
    | .alias name :: rest =>
      match s.anchors.lookup name with
      | some id => .ok (id, s.goto rest)
      | none => .error .notYaml
    | _ => do
      let (properties, s) ← readProperties handles s
      let isTaken := properties.anchor.any fun name => (s.anchors.lookup name).isSome
      if isTaken then .error s.fault
      else readContent handles block indentless fuel properties s

/-- Read a node after its name and tag.  Inside a collection its name stands for the
collection itself. -/
def readContent (handles : Handles) (block indentless : Bool) :
    Nat → Properties → State → Except Error (NodeId × State)
  | 0, _, s => .error s.fault
  | fuel + 1, properties, s =>
    let sequence (rest : List Token)
        (read : State → Except Error (List NodeId × State)) : Except Error (NodeId × State) := do
      let kind := properties.kind .sequence
      let (id, s) ← (s.goto rest).enter properties.anchor (.sequence kind [])
      let (items, s) ← read s
      return (id, s.leave id (.sequence kind items))
    let mapping (rest : List Token)
        (read : State → Except Error (List (NodeId × NodeId) × State)) :
        Except Error (NodeId × State) := do
      let kind := properties.kind .mapping
      let (id, s) ← (s.goto rest).enter properties.anchor (.mapping kind [])
      let (entries, s) ← read s
      return (id, s.leave id (.mapping kind entries))
    let scalar (rest : List Token) (text : List Symbol) (isPlain : Bool) : NodeId × State :=
      (s.goto rest).add properties.anchor (.scalar (properties.scalarKind text isPlain) text)
    match s.tokens, block, indentless with
    | .entry :: _, _, true => sequence s.tokens fun s => readIndentless handles fuel [] s
    | .scalar text isPlain :: rest, _, _ => .ok (scalar rest text isPlain)
    | .flowSequence :: rest, _, _ => sequence rest fun s => readFlowItems handles fuel [] s
    | .flowMapping :: rest, _, _ => mapping rest fun s => readFlowEntries handles fuel [] s
    | .blockSequence :: rest, true, _ => sequence rest fun s => readBlockItems handles fuel [] s
    | .blockMapping :: rest, true, _ => mapping rest fun s => readBlockEntries handles fuel [] s
    | .broken error :: _, _, _ => .error error
    | _, _, _ =>
      if properties.isEmpty then .error s.fault else .ok (scalar s.tokens [] true)

/-- Read a node unless the next token shows that it is left out. -/
def readOptional (handles : Handles) (block indentless : Bool) (isEnd : Token → Bool) :
    Nat → State → Except Error (NodeId × State)
  | 0, s => .error s.fault
  | fuel + 1, s =>
    if s.next isEnd then .ok (s.add none .absent)
    else readNode handles block indentless fuel s

/-- Read the items of a block sequence; `found` holds those before in reverse. -/
def readBlockItems (handles : Handles) :
    Nat → List NodeId → State → Except Error (List NodeId × State)
  | 0, _, s => .error s.fault
  | fuel + 1, found, s =>
    match s.tokens with
    | .entry :: rest => do
      let (item, s) ← readOptional handles true false
        (fun token => isEntry token || token matches .blockEnd) fuel (s.goto rest)
      readBlockItems handles fuel (item :: found) s
    | .blockEnd :: rest => .ok (found.reverse, s.goto rest)
    | _ => .error s.fault

/-- Read the items of a sequence that has no indentation of its own. -/
def readIndentless (handles : Handles) :
    Nat → List NodeId → State → Except Error (List NodeId × State)
  | 0, _, s => .error s.fault
  | fuel + 1, found, s =>
    match s.tokens with
    | .entry :: rest => do
      let (item, s) ← readOptional handles true false
        (fun token => isEntry token || endsBlockPart token) fuel (s.goto rest)
      readIndentless handles fuel (item :: found) s
    | _ => .ok (found.reverse, s)

/-- Read the entries of a block mapping. -/
def readBlockEntries (handles : Handles) :
    Nat → List (NodeId × NodeId) → State →
      Except Error (List (NodeId × NodeId) × State)
  | 0, _, s => .error s.fault
  | fuel + 1, found, s =>
    match s.tokens with
    | .key :: rest => do
      let (key, s) ← readOptional handles true true endsBlockPart fuel (s.goto rest)
      let (value, s) ← readValue handles true endsBlockPart fuel s
      readBlockEntries handles fuel ((key, value) :: found) s
    | .blockEnd :: rest => .ok (found.reverse, s.goto rest)
    | _ => .error s.fault

/-- Read the value behind a key, which is left out where its mark is. -/
def readValue (handles : Handles) (block : Bool) (isEnd : Token → Bool) :
    Nat → State → Except Error (NodeId × State)
  | 0, s => .error s.fault
  | fuel + 1, s =>
    match s.tokens with
    | .value :: rest => readOptional handles block block isEnd fuel (s.goto rest)
    | _ => .ok (s.add none .absent)

/-- Read the items of a sequence between brackets.  A key among them makes an item that
is a mapping with one entry. -/
def readFlowItems (handles : Handles) :
    Nat → List NodeId → State → Except Error (List NodeId × State)
  | 0, _, s => .error s.fault
  | fuel + 1, found, s =>
    match s.tokens with
    | .flowSequenceEnd :: rest => .ok (found.reverse, s.goto rest)
    | .key :: rest => do
      let (id, s) ← (s.goto rest).enter none (.mapping .mapping [])
      let (key, s) ← readOptional handles false false
        (fun token => isValue token || endsFlowItem token) fuel s
      let (value, s) ← readValue handles false endsFlowItem fuel s
      readFlowRest handles fuel (id :: found) (s.leave id (.mapping .mapping [(key, value)]))
    | _ => do
      let (item, s) ← readNode handles false false fuel s
      readFlowRest handles fuel (item :: found) s

/-- Go on with the items of a sequence between brackets after an item. -/
def readFlowRest (handles : Handles) :
    Nat → List NodeId → State → Except Error (List NodeId × State)
  | 0, _, s => .error s.fault
  | fuel + 1, found, s =>
    match s.tokens with
    | .flowSequenceEnd :: rest => .ok (found.reverse, s.goto rest)
    | .separator :: rest => readFlowItems handles fuel found (s.goto rest)
    | _ => .error s.fault

/-- Read the entries of a mapping between brackets.  A node that is no key is an entry
without a value. -/
def readFlowEntries (handles : Handles) :
    Nat → List (NodeId × NodeId) → State →
      Except Error (List (NodeId × NodeId) × State)
  | 0, _, s => .error s.fault
  | fuel + 1, found, s =>
    match s.tokens with
    | .flowMappingEnd :: rest => .ok (found.reverse, s.goto rest)
    | .key :: rest => do
      let (key, s) ← readOptional handles false false
        (fun token => isValue token || endsFlowEntry token) fuel (s.goto rest)
      let (value, s) ← readValue handles false endsFlowEntry fuel s
      readFlowEntriesRest handles fuel ((key, value) :: found) s
    | _ => do
      let (key, s) ← readNode handles false false fuel s
      let (value, s) := s.add none .absent
      readFlowEntriesRest handles fuel ((key, value) :: found) s

/-- Go on with the entries of a mapping between brackets after an entry. -/
def readFlowEntriesRest (handles : Handles) :
    Nat → List (NodeId × NodeId) → State →
      Except Error (List (NodeId × NodeId) × State)
  | 0, _, s => .error s.fault
  | fuel + 1, found, s =>
    match s.tokens with
    | .flowMappingEnd :: rest => .ok (found.reverse, s.goto rest)
    | .separator :: rest => readFlowEntries handles fuel found (s.goto rest)
    | _ => .error s.fault

end

/-! ### Documents -/

/-- Read the directives before a document.  A version is given once at the most and is
of the first generation; no handle is given twice. -/
def readDirectives (seenVersion : Bool) (handles : Handles) :
    List Token → Except Error (Handles × List Token)
  | .version major _ :: rest =>
    if seenVersion || major != 1 then .error .notYaml else readDirectives true handles rest
  | .handle name stem :: rest =>
    if (handles.lookup name).isSome then .error .notYaml
    else readDirectives seenVersion ((name, stem) :: handles) rest
  | .otherDirective :: rest => readDirectives seenVersion handles rest
  | rest => .ok (handles ++ standardHandles, rest)

/-- Tokens without the marks in front that end documents. -/
def dropEnds : List Token → List Token
  | .documentEnd :: rest => dropEnds rest
  | tokens => tokens

/-- A document that is not announced, or has ended, has no content here. -/
def endsContent : Token → Bool
  | .version _ _ => true
  | .handle _ _ => true
  | .otherDirective => true
  | .documentStart => true
  | .documentEnd => true
  | .streamEnd => true
  | _ => false

/-- Nothing may follow the document.  What does is read up to the start of its content. -/
def finish (root : NodeId) (s : State) : Except Error (Option Document) :=
  match dropEnds s.tokens with
  | .streamEnd :: _ => .ok (some { nodes := s.nodes, root })
  | rest => do
    let (_, rest) ← readDirectives false [] rest
    .error (s.goto rest).fault

/-- Read the one document that tokens make, if there is one. -/
def read (tokens : List Token) : Except Error (Option Document) :=
  let fuel := 3 * tokens.length + 3
  match tokens with
  | [] => .error .notYaml
  | .streamEnd :: _ => .ok none
  | first :: _ =>
    if endsContent first && !(first matches .documentEnd) then do
      let (handles, rest) ← readDirectives false [] tokens
      match rest with
      | .documentStart :: rest => do
        let (root, s) ← readOptional handles true false endsContent fuel { tokens := rest }
        finish root s
      | _ => .error (State.fault { tokens := rest })
    else do
      let (root, s) ← readNode standardHandles true false fuel { tokens }
      finish root s

end Document

end TaskGraph.Yaml
