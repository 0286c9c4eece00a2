/-
Module: TaskGraph.Options
Purpose: Reading the arguments of a command line.
Main exports:
  Flag, UsageError, Options, Options.parse
-/
import TaskGraph.Files.Path
import TaskGraph.Settings
import TaskGraph.Text.Numeral

namespace TaskGraph

/-! ### Flags -/

/-- The names that arguments with a dash in front may have. -/
inductive Flag where
  | help
  | output
  | format
  | vertexSizes
  | vertexWeights
  | ncon
  | edgeWeights
  | parallelismKey
  | logLevel
deriving DecidableEq, Repr, Inhabited

namespace Flag

/-- All spellings of flags. -/
def spellings : List (String × Flag) :=
  [("-h", help), ("--help", help), ("--output", output), ("--format", format),
   ("--vertex-sizes", vertexSizes), ("--vertex-weights", vertexWeights), ("--ncon", ncon),
   ("--edge-weights", edgeWeights), ("--parallelism-key", parallelismKey),
   ("--log-level", logLevel)]

/-- The name of a flag in messages: all its spellings. -/
def title (flag : Flag) : String :=
  "/".intercalate ((spellings.filter (·.2 = flag)).map (·.1))

/-- A flag that is followed by a value. -/
def takesValue : Flag → Bool
  | help => false
  | vertexSizes => false
  | vertexWeights => false
  | edgeWeights => false
  | _ => true

end Flag

/-- Why the arguments of a command line are refused. -/
inductive UsageError where
  | ambiguous (argument : Text) (spellings : List String)
  | noValue (flag : Flag)
  | ignoredValue (flag : Flag) (value : Text)
  | notAnInteger (flag : Flag) (value : Text)
  | notAChoice (flag : Flag) (value : Text) (choices : List String)
  | noTopology
  | unrecognized (arguments : List Text)
deriving DecidableEq, Repr, Inhabited

/-- What a message says about refused arguments. -/
def UsageError.message : UsageError → Text
  | .ambiguous argument spellings =>
    "ambiguous option: " ++ argument ++ (" could match " ++ ", ".intercalate spellings : String)
  | .noValue flag => s!"argument {flag.title}: expected one argument"
  | .ignoredValue flag value =>
    s!"argument {flag.title}: ignored explicit argument " ++ Text.quoted value
  | .notAnInteger flag value =>
    s!"argument {flag.title}: invalid int value: " ++ Text.quoted value
  | .notAChoice flag value choices =>
    s!"argument {flag.title}: invalid choice: " ++ Text.quoted value ++ " (choose from " ++
      Text.join ", " (choices.map fun choice => Text.quoted (Text.ofString choice)) ++ ")"
  | .noTopology => "the following arguments are required: topology"
  | .unrecognized arguments => "unrecognized arguments: " ++ Text.join " " arguments

/-! ### Arguments -/

/-- An argument as it stands on the command line. -/
inductive Argument where
  /-- A value of its own, or of the flag before it. -/
  | value (text : Text)
  /-- The two dashes after which no argument is a flag. -/
  | separator
  /-- A flag, perhaps with a value attached. -/
  | flag (flag : Flag) (attached : Option Text)
  /-- The short spelling of the flag for help with letters run together with it. -/
  | shortHelp (tail : Text)
  /-- An argument that looks like a flag and is none. -/
  | unknown (text : Text)
deriving DecidableEq, Repr, Inhabited

namespace Argument

/-- The two dashes that stand for the separator, or for no value at all. -/
def dashes : Text := "--"

/-- The symbols before the first equals sign, and the text after it if there is one. -/
def splitAttached (symbols : List Symbol) : List Symbol × Option Text :=
  let before := symbols.takeWhile (· ≠ .char '=')
  match symbols.drop before.length with
  | [] => (symbols, none)
  | _ :: after => (before, some ⟨after⟩)

/-- The flag with a spelling. -/
def spelled? (spelling : List Symbol) : Option Flag :=
  (Flag.spellings.find? fun entry => Text.ofString entry.1 == ⟨spelling⟩).map (·.2)

/-- The spellings of flags that start with some symbols. -/
def candidates (start : List Symbol) : List (String × Flag) :=
  Flag.spellings.filter fun entry => start.isPrefixOf (Text.ofString entry.1).toList

/-- A decimal digit of any script. -/
def isDecimal (c : Symbol) : Bool :=
  c.is fun c => (Text.decimal? c).isSome

/-- A dash and a number, whole or with a point; a line break may end it. -/
def isNegativeNumber (symbols : List Symbol) : Bool :=
  match if symbols.getLast? = some '\n' then symbols.dropLast else symbols with
  | .char '-' :: number =>
    match number.dropWhile isDecimal with
    | [] => !number.isEmpty
    | .char '.' :: fraction => !fraction.isEmpty && fraction.all isDecimal
    | _ => false
  | _ => false

/-- An argument that is no spelling of a flag. -/
def ofOther (text : Text) : Argument :=
  if isNegativeNumber text.toList || text.toList.contains ' ' then .value text else .unknown text

/-- What an argument is.  The spelling of a flag may be cut short as long as only one
flag starts like this. -/
def ofText (text : Text) : Except UsageError Argument :=
  let (start, attached) := splitAttached text.toList
  match text.toList, spelled? start with
  | .char '-' :: .char 'h' :: _, some found =>
    .ok (match attached with
      | some tail => .shortHelp tail
      | none => .flag found none)
  | .char '-' :: _ :: _, some found => .ok (.flag found attached)
  | .char '-' :: .char '-' :: _, none =>
    match candidates start with
    | [] => .ok (ofOther text)
    | [(_, found)] => .ok (.flag found attached)
    | many => .error (.ambiguous text (many.map (·.1)))
  | .char '-' :: .char 'h' :: tail, none => .ok (.shortHelp ⟨tail⟩)
  | .char '-' :: _ :: _, none => .ok (ofOther text)
  | _, _ => .ok (.value text)

/-- What all arguments are.  After the separator they are values. -/
def ofTexts : List Text → Except UsageError (List Argument)
  | [] => .ok []
  | text :: rest =>
    if text = dashes then .ok (.separator :: rest.map .value)
    else do
      let first ← ofText text
      let others ← ofTexts rest
      .ok (first :: others)

end Argument

/-! ### Results -/

/-- The names of the forms of export. -/
inductive FormatName where
  | metis
  | json
  | graphMl
deriving DecidableEq, Repr, Inhabited

namespace FormatName

/-- All forms. -/
def every : List FormatName := [metis, json, graphMl]

/-- The name of a form. -/
def name : FormatName → String
  | metis => "metis"
  | json => "json"
  | graphMl => "graphml"

/-- The ending of the names of files of a form. -/
def extension : FormatName → String
  | metis => "graph"
  | json => "json"
  | graphMl => "graphml"

end FormatName

/-- The levels that may be asked for. -/
def levelChoices : List String := ["DEBUG", "INFO", "WARNING", "ERROR"]

/-- What a command line asks for.  A flag that is given two dashes as its value leaves what
it decides without one. -/
structure Options where
  topology : Files.Path
  output : Option Files.Path := none
  format : Option FormatName := some .metis
  vertexSizes : Bool := false
  vertexWeights : Bool := false
  edgeWeights : Bool := false
  ncon : Option Int := some 1
  parallelismKey : Option Text
  logLevel : Option Text
deriving DecidableEq, Repr, Inhabited

namespace Options

/-- A command line that is partly read: the topology may still be missing, and
arguments that nothing asks for are collected. -/
structure Progress where
  options : Options
  hasTopology : Bool := false
  extras : List Text := []
  /-- Help was asked for; nothing after that matters. -/
  wantsHelp : Bool := false
deriving Repr, Inhabited

/-- Take up a value of a flag. -/
def setValue (o : Options) (flag : Flag) (value : Text) : Except UsageError Options :=
  match flag with
  | .output => .ok { o with output := some (Files.Path.ofText value) }
  | .format =>
    match FormatName.every.find? (Text.ofString ·.name == value) with
    | some format => .ok { o with format := some format }
    | none => .error (.notAChoice flag value (FormatName.every.map (·.name)))
  | .ncon =>
    match Text.readInteger 10 value.toList with
    | .ok ncon => .ok { o with ncon := some ncon }
    | .error _ => .error (.notAnInteger flag value)
  | .parallelismKey => .ok { o with parallelismKey := some value }
  | .logLevel =>
    if value ∈ levelChoices.map Text.ofString then .ok { o with logLevel := some value }
    else .error (.notAChoice flag value levelChoices)
  | _ => .ok o

/-- Leave a flag without a value. -/
def clearValue (o : Options) (flag : Flag) : Options :=
  match flag with
  | .output => { o with output := none }
  | .format => { o with format := none }
  | .ncon => { o with ncon := none }
  | .parallelismKey => { o with parallelismKey := none }
  | .logLevel => { o with logLevel := none }
  | _ => o

/-- Take up a flag without a value. -/
def setFlag (o : Options) (flag : Flag) : Options :=
  match flag with
  | .vertexSizes => { o with vertexSizes := true }
  | .vertexWeights => { o with vertexWeights := true }
  | .edgeWeights => { o with edgeWeights := true }
  | _ => o

/-- Take up a value of a flag on the way. -/
def Progress.withValue (p : Progress) (flag : Flag) (value : Text) :
    Except UsageError Progress := do
  if value = Argument.dashes then .ok { p with options := p.options.clearValue flag }
  else .ok { p with options := ← p.options.setValue flag value }

/-- Take up letters run together with the short spelling of the flag for help.  The flag may
be repeated; anything else would be a value, which it does not have. -/
def checkShortHelp (tail : Text) : Except UsageError Unit :=
  let value := tail.toList.dropWhile (· == .char 'h')
  if tail.isEmpty || !value.isEmpty then .error (.ignoredValue .help ⟨value⟩) else .ok ()

/-- Take up a flag that has no value. -/
def Progress.withFlag (p : Progress) (flag : Flag) (attached : Option Text) :
    Except UsageError Progress :=
  match attached with
  | none =>
    .ok (if flag = .help then { p with wantsHelp := true }
      else { p with options := p.options.setFlag flag })
  | some value => .error (.ignoredValue flag value)

/-- Take up a value that no flag asks for: the first one is the path of the topology. -/
def Progress.withBare (p : Progress) (value : Text) : Progress :=
  if p.hasTopology then { p with extras := p.extras ++ [value] }
  else
    { p with
      options := { p.options with topology := Files.Path.ofText value }
      hasTopology := true }

/-- Read arguments one after the other. -/
def consume (p : Progress) : List Argument → Except UsageError Progress
  | [] => .ok p
  | .unknown text :: rest => consume { p with extras := p.extras ++ [text] } rest
  | .value text :: .separator :: rest =>
    if p.hasTopology then consume { p with extras := p.extras ++ [text, Argument.dashes] } rest
    else consume (p.withBare text) rest
  | .value text :: rest => consume (p.withBare text) rest
  | .separator :: .value text :: rest =>
    if p.hasTopology then consume { p with extras := p.extras ++ [Argument.dashes, text] } rest
    else consume (p.withBare text) rest
  | .separator :: rest => consume { p with extras := p.extras ++ [Argument.dashes] } rest
  | .shortHelp tail :: _ => do
    checkShortHelp tail
    .ok { p with wantsHelp := true }
  | .flag flag attached :: rest =>
    if flag.takesValue then
      match attached with
      | some value => do consume (← p.withValue flag value) rest
      | none =>
        match rest with
        | .value value :: rest => do consume (← p.withValue flag value) rest
        | _ => .error (.noValue flag)
    else do
      let p ← p.withFlag flag attached
      if p.wantsHelp then .ok p else consume p rest

/-- Read a command line; absent if it asks for help. -/
def parse (settings : Settings) (arguments : List Text) : Except UsageError (Option Options) := do
  let arguments ← Argument.ofTexts arguments
  let start : Options :=
    { topology := {}
      parallelismKey := some settings.parallelismKey
      logLevel := some settings.logLevel }
  let p ← consume { options := start } arguments
  if p.wantsHelp then .ok none
  else if !p.hasTopology then .error .noTopology
  else if !p.extras.isEmpty then .error (.unrecognized p.extras)
  else .ok (some p.options)

end Options

end TaskGraph
