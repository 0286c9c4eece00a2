/-
Module: TaskGraph.Json.Writer
Purpose: Writing values as JSON in ASCII.
Main exports:
  Json.Layout, Json.WriteFault, Json.write
-/
import TaskGraph.Value.Text

namespace TaskGraph.Json

/-! ### Texts -/

/-- An escape by number. -/
def numbered (n : Nat) : List Char :=
  '\\' :: 'u' :: Text.hexDigits 4 n

/-- How a character is written between quotes.  Beyond the basic plane it is
written as two halves. -/
def writtenChar (c : Char) : List Char :=
  let n := c.toNat
  match c with
  | '"' => ['\\', '"']
  | '\\' => ['\\', '\\']
  | '\n' => ['\\', 'n']
  | '\r' => ['\\', 'r']
  | '\t' => ['\\', 't']
  | '\x08' => ['\\', 'b']
  | '\x0c' => ['\\', 'f']
  | _ =>
    if 0x20 ≤ n ∧ n < 0x7f then [c]
    else if n < 0x10000 then numbered n
    else
      let (high, low) := Text.splitHalves n
      numbered high ++ numbered low

/-- How a symbol is written between quotes. -/
def writtenSymbol : Symbol → List Char
  | .char c => writtenChar c
  | .half offset => numbered (Symbol.half offset).code

/-- A text between quotes. -/
def writtenText (s : Text) : String :=
  String.ofList ('"' :: s.toList.flatMap writtenSymbol ++ ['"'])

/-- The text of a number. -/
def numberStyle : Decimal.Style :=
  { Decimal.standard with notANumber := "NaN", infinite := "Infinity" }

/-! ### Faults -/

/-- Why a value is not written. -/
inductive WriteFault where
  /-- The key of a mapping is no name. -/
  | notAName
  /-- A collection contains itself. -/
  | circular
  /-- Some part of the value has no text. -/
  | noText (fault : Value.TextFault)
deriving DecidableEq, Repr, Inhabited

/-- The digits of a whole number. -/
def integer (n : Int) : Except WriteFault String :=
  if Value.digitBound ≤ n.natAbs then .error (.noText .tooManyDigits) else .ok (toString n)

/-- The text that stands for a value which JSON has no form for. -/
def substitute (value : Value) : Except WriteFault String :=
  match value.plain? with
  | .ok text => .ok (writtenText text)
  | .error fault => .error (.noText fault)

/-- The name of a member.  Names are texts, numbers, truth values or null. -/
def memberName : Value → Except WriteFault String
  | .text s => .ok (writtenText s)
  | .int n => (integer n).map fun digits => writtenText digits
  | .float x => .ok (writtenText (Decimal.writeIn numberStyle x))
  | .bool b => .ok (writtenText (if b then "true" else "false"))
  | .null => .ok (writtenText "null")
  | _ => .error .notAName

/-! ### Layout -/

/-- How the parts of a value are spread over lines. -/
inductive Layout where
  /-- All on one line. -/
  | inline
  /-- Every part on its own line, after one more `step` than what it belongs to. -/
  | indented (step : String)
deriving DecidableEq, Repr, Inhabited

/-- What stands before a part at a depth. -/
def Layout.break (layout : Layout) (depth : Nat) : String :=
  match layout with
  | .inline => ""
  | .indented step => "\n" ++ String.join (List.replicate depth step)

/-- What stands between two parts. -/
def Layout.comma (layout : Layout) : String :=
  match layout with
  | .inline => ", "
  | .indented _ => ","

/-- Parts between brackets, `depth` being that of the brackets. -/
def enclose (layout : Layout) (depth : Nat) (opening closing : String) (parts : List String) :
    String :=
  if parts.isEmpty then opening ++ closing
  else
    opening ++ layout.break (depth + 1) ++
      (layout.comma ++ layout.break (depth + 1)).intercalate parts ++
      layout.break depth ++ closing

/-! ### Values -/

/-- The JSON text of a value at a depth, with at most `levels` levels.  What JSON has no
form for is written as the text that stands for it.  `inside` holds the places of the web
that the value stands inside of. -/
def writeIn (layout : Layout) : Nat → List Nat → Nat → Value → Except WriteFault String
  | 0, _, _, _ => .error (.noText .tooDeep)
  | levels + 1, inside, depth, value =>
    let part (inside : List Nat) := writeIn layout levels inside (depth + 1)
    let collection (inside : List Nat) : Value → Except WriteFault String
      | .list items => (items.mapM (part inside)).map (enclose layout depth "[" "]")
      | .tuple items => (items.mapM (part inside)).map (enclose layout depth "[" "]")
      | .map entries => do
        let members ← entries.mapM fun (key, value) => do
          let name ← memberName key
          let value ← part inside value
          .ok (name ++ ": " ++ value)
        .ok (enclose layout depth "\x7b" "\x7d" members)
      | value => substitute value
    match value with
    | .null => .ok "null"
    | .bool b => .ok (if b then "true" else "false")
    | .int n => integer n
    | .float x => .ok (Decimal.writeIn numberStyle x)
    | .text s => .ok (writtenText s)
    | .web cells place =>
      if place ∈ inside then .error .circular
      else collection (place :: inside) (Value.cell cells place)
    | value => collection inside value

/-- The number of levels that are written at the most. -/
def maxWritten : Nat := 990

/-- The JSON text of a value. -/
def write (layout : Layout) (value : Value) : Except WriteFault String :=
  writeIn layout maxWritten [] 0 value

end TaskGraph.Json
