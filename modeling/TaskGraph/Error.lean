/-
Module: TaskGraph.Error
Purpose: The causes for which a definition, an expansion or an export fails, and
  what messages say about them.
Main exports:
  Error, Error.message, Error.component?, Error.context, settle
-/
import TaskGraph.Files.Fault
import TaskGraph.Json.Fault
import TaskGraph.Metis.Fault
import TaskGraph.Text.Utf8
import TaskGraph.Topology.Kind
import TaskGraph.Value.Text

namespace TaskGraph

/-- What a vertex is to whoever names it. -/
inductive VertexRole where
  | subject
  | source
  | destination
deriving DecidableEq, Repr, Inhabited

/-- What a number of a graph file belongs to, by name. -/
inductive Measure where
  | vertexSize (vertex : Text)
  | vertexWeight (vertex : Text)
  | edgeWeight (edge : Text)
deriving Repr, Inhabited

/-- A measure at the start of a sentence. -/
def Measure.describe : Measure → Text
  | .vertexSize vertex => "Size of vertex '" ++ vertex ++ "'"
  | .vertexWeight vertex => "Weight of vertex '" ++ vertex ++ "'"
  | .edgeWeight edge => "Weight of edge '" ++ edge ++ "'"

/-- Why a computation failed.  Components and vertices are given by their names. -/
inductive Error where
  -- Names of components
  | reservedCharacter (character : Char) (component : Value)
  | alreadyDeclared (kind : Kind) (component : Value)
  | declaredTwice (component : Value)
  -- Expansion
  | malformedParallelism (component raw : Value)
  | danglingInput (bolt source : Value)
  | unsupportedKind (kind : Value)
  -- Graphs
  | duplicateVertex (name : Value)
  | unknownVertex (role : VertexRole) (name : Value)
  -- Export
  | malformedWeight (measure : Measure) (value : Value)
  | tooManyWeights (vertex : Text) (count : Nat) (limit : Value)
  | unwritable (path : Text) (fault : Files.Fault)
  | unsupportedAttribute (type : String)
  | absentNode
  | circular
  -- Graph files
  | graphFile (fault : Metis.Fault)
  | format (fault : Metis.FormatFault)
  -- Values of the wrong shape
  | illTyped
  | wrongShape
  | missingKey (key : Text)
  | tooFewParts (count : Nat)
  | tooManyParts
  | entryLength (index length : Nat)
  | unknownGrouping (name : Value)
  | unknownLevel (name : String)
  | emptyScalar
  -- Values beyond a limit
  | tooLarge
  | outOfMemory
  | tooDeep
  | tooManyDigits
  | notACodePoint
  | notAWholeNumber
  -- Texts
  | numeral (fault : Text.NumeralError)
  | notNumber (text : Text)
  | calendar (fault : CalendarFault)
  | notJson (what : Json.Problem) (line column position : Nat)
  | notYaml
  | notText (fault : Utf8.Fault)
  -- Files
  | fileMissing (path : Text)
  | file (fault : Files.Fault)
deriving Repr, Inhabited

/-- The error where a value has no text. -/
def Value.TextFault.error : Value.TextFault → Error
  | .tooDeep => .tooDeep
  | .tooManyDigits => .tooManyDigits

/-- The words for the characters that component names must not contain. -/
def reservedWord (c : Char) : String :=
  if c = ',' then "comma" else "colon"

/-- What a message says about a text that is no number. -/
def Text.NumeralError.message : Text.NumeralError → Text
  | .tooLong digits =>
    s!"Exceeds the limit ({Text.maxDigits} digits) for integer string conversion: " ++
      s!"value has {digits} digits; use sys.set_int_max_str_digits() to increase the limit"
  | .malformed base text =>
    s!"invalid literal for int() with base {base}: " ++ ⟨(Text.quoted text).toList.take 200⟩

namespace Error

/-- What a message says about an error. -/
def message : Error → Text
  | reservedCharacter character _ =>
    s!"Component name should not contain {reservedWord character}({character})"
  | alreadyDeclared kind component =>
    s!"{kind.capitalName} has already been declared for name " ++ component.plain
  | declaredTwice component =>
    "Component name '" ++ component.plain ++ "' is declared more than once"
  | malformedParallelism component raw =>
    "Parallelism of component '" ++ component.plain ++
      "' is not a non-negative integer: " ++ raw.shown
  | danglingInput bolt source =>
    "Bolt '" ++ bolt.plain ++ "' declares an input from unknown component '" ++
      source.plain ++ "'"
  | unsupportedKind kind => "Unsupported component kind: " ++ kind.shown
  | duplicateVertex name => "Vertex '" ++ name.plain ++ "' already exists"
  | unknownVertex .subject name => "Vertex '" ++ name.plain ++ "' does not exist"
  | unknownVertex .source name => "Source vertex '" ++ name.plain ++ "' does not exist"
  | unknownVertex .destination name =>
    "Destination vertex '" ++ name.plain ++ "' does not exist"
  | malformedWeight measure value =>
    measure.describe ++ " must be a non-negative integer, got " ++ value.shown
  | tooManyWeights vertex count limit =>
    "Vertex '" ++ vertex ++ s!"' has {count} weights, but the format allows " ++
      limit.plain
  | unwritable path fault => "Failed to write " ++ path ++ ": " ++ fault.message
  | unsupportedAttribute type =>
    s!"GraphML writer does not support <class '{type}'> as data values."
  | absentNode => "None cannot be a node"
  | circular => "Circular reference detected"
  | graphFile fault => fault.message
  | format fault => fault.message
  | illTyped => "the value has the wrong type"
  | wrongShape => "the value has the wrong shape"
  | missingKey key => Text.quoted key
  | tooFewParts count => s!"not enough values to unpack (expected 2, got {count})"
  | tooManyParts => "too many values to unpack (expected 2)"
  | entryLength index length =>
    s!"dictionary update sequence element #{index} has length {length}; 2 is required"
  | unknownGrouping name => name.shown ++ " is not a valid Grouping"
  | unknownLevel name => "Unknown level: " ++ Text.quoted name
  | emptyScalar => "the scalar is empty"
  | tooLarge => "the number is too large"
  | outOfMemory => "the value is too large"
  | tooDeep => "the value has too many levels"
  | tooManyDigits =>
    s!"Exceeds the limit ({Text.maxDigits} digits) for integer string conversion; " ++
      "use sys.set_int_max_str_digits() to increase the limit"
  | notACodePoint => "chr() arg not in range(0x110000)"
  | notAWholeNumber => "cannot convert float NaN to integer"
  | numeral fault => fault.message
  | notNumber text => "could not convert string to float: " ++ Text.quoted text
  | calendar fault => fault.message
  | notJson what line column position =>
    s!"{what.message}: line {line} column {column} (char {position})"
  | notYaml => "the text is not YAML"
  | notText fault => fault.message
  | fileMissing path => "File not found: " ++ path
  | file fault => fault.message

/-- The name of the component that an error is about, if it is about one. -/
def component? : Error → Option Value
  | reservedCharacter _ component => some component
  | alreadyDeclared _ component => some component
  | declaredTwice component => some component
  | malformedParallelism component _ => some component
  | danglingInput bolt _ => some bolt
  | _ => none

/-- What else an error carries, by name. -/
def context : Error → List (String × Value)
  | malformedParallelism _ raw => [("raw_value", raw)]
  | danglingInput _ source => [("source", source)]
  | unwritable path _ => [("path", .text path)]
  | _ => []

/-- Errors in a definition, in a graph or in what is written; these a command
reports as a failed export. -/
def isOwn : Error → Bool
  | reservedCharacter _ _ => true
  | alreadyDeclared _ _ => true
  | declaredTwice _ => true
  | malformedParallelism _ _ => true
  | danglingInput _ _ => true
  | duplicateVertex _ => true
  | unknownVertex _ _ => true
  | malformedWeight _ _ => true
  | tooManyWeights _ _ _ => true
  | unwritable _ _ => true
  | graphFile _ => true
  | _ => false

/-- Texts and values that are not of the kind that is asked for. -/
def isMalformedValue : Error → Bool
  | absentNode => true
  | circular => true
  | format _ => true
  | tooFewParts _ => true
  | tooManyParts => true
  | entryLength _ _ => true
  | unknownGrouping _ => true
  | tooManyDigits => true
  | notACodePoint => true
  | notAWholeNumber => true
  | numeral _ => true
  | notNumber _ => true
  | calendar _ => true
  | notJson _ _ _ _ => true
  | notText _ => true
  | file (.unencodable _) => true
  | file .nulInPath => true
  | _ => false

/-- Files that are not there. -/
def isMissingFile : Error → Bool
  | fileMissing _ => true
  | file (.refused .notFound _ _) => true
  | _ => false

end Error

/-! ### Attempts -/

/-- The state after an attempt to change it, with what the attempt returned.  One that failed
has left the state as it was. -/
def settle {σ α : Type} (state : σ) (attempt : Except Error (σ × α)) : σ × Except Error α :=
  match attempt with
  | .ok (next, a) => (next, .ok a)
  | .error e => (state, .error e)

end TaskGraph
