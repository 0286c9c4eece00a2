/-
Module: TaskGraph.Yaml.Scalar.Meaning
Purpose: The values that texts of scalars write, by the kind of value they are meant to
  be.
Main exports:
  Yaml.Scalar.value
-/
import TaskGraph.Text.Base64
import TaskGraph.Text.Lower
import TaskGraph.Yaml.Tag

namespace TaskGraph.Yaml.Scalar

/-! ### Numbers -/

/-- A text without underscores. -/
def dropUnderscores (text : List Symbol) : List Symbol :=
  text.filter (· != .char '_')

/-- The value of digits of base sixty, the last digit first, whose unit is `unit`. -/
def sixtieths (unit : Nat) : List Int → Int
  | [] => 0
  | digit :: rest => digit * unit + sixtieths (60 * unit) rest

/-- The whole number that a text without a sign writes: the mark of a base or a zero in
front decides the base, colons stand between the digits of base sixty. -/
def unsigned (text : List Symbol) : Except Error Int :=
  let inBase (base : Nat) (digits : List Symbol) : Except Error Int :=
    (Text.readInteger base digits).mapError .numeral
  match text with
  | [] => .error .emptyScalar
  | [.char '0'] => .ok 0
  | .char '0' :: .char 'b' :: digits => inBase 2 digits
  | .char '0' :: .char 'x' :: digits => inBase 16 digits
  | .char '0' :: _ => inBase 8 text
  | _ =>
    if .char ':' ∈ text then do
      let digits ← (Text.pieces (· == .char ':') text).mapM (inBase 10)
      return sixtieths 1 digits.reverse
    else inBase 10 text

/-- The whole number that a text writes. -/
def int (text : List Symbol) : Except Error Value :=
  match dropUnderscores text with
  | [] => .error .emptyScalar
  | .char '-' :: rest => (unsigned rest).map fun n => .int (-n)
  | .char '+' :: rest => (unsigned rest).map .int
  | symbols => (unsigned symbols).map .int

/-- The number with a fraction that a text writes. -/
def decimal (text : List Symbol) : Except Error Binary64 :=
  match Decimal.read? text with
  | some x => .ok x
  | none => .error (.notNumber ⟨text⟩)

/-- Add up digits of base sixty, the last digit first, each rounded after it is
multiplied by its unit. -/
def addSixtieths (unit : Nat) (sum : Binary64) : List Binary64 → Except Error Binary64
  | [] => .ok sum
  | digit :: rest =>
    match Binary64.ofNat? unit with
    | some factor => addSixtieths (60 * unit) (sum.add (digit.mul factor)) rest
    | none => .error .tooLarge

/-- A number as the scalar with a mark makes it.  What is not a number keeps the mark, which
tells it from those that other scalars make. -/
def marked (mark : Nat) (x : Binary64) : Binary64 :=
  if x.isNaN then Binary64.nan mark else x

/-- The number that a text without a sign writes, with words for infinity and for what
is no number, and colons between the digits of base sixty.  The word for what is no number
always stands for the same one. -/
def unsignedFloat (mark : Nat) (text : List Symbol) : Except Error Binary64 :=
  if text = Text.symbols ".inf".toList then .ok (Binary64.infinity false)
  else if text = Text.symbols ".nan".toList then .ok (Binary64.nan 0)
  else if .char ':' ∈ text then do
    let digits ← (Text.pieces (· == .char ':') text).mapM decimal
    let sum ← addSixtieths 1 (Binary64.zero false) digits.reverse
    return marked mark sum
  else (decimal text).map (marked mark)

/-- The number that a text writes, in letters of either case. -/
def float (mark : Nat) (text : List Symbol) : Except Error Value :=
  let signed (negative : Bool) (x : Binary64) : Value :=
    .float (if negative && !x.isNaN then x.neg else x)
  match (Text.toLower ⟨dropUnderscores text⟩).toList with
  | [] => .error .emptyScalar
  | .char '-' :: rest => (unsignedFloat mark rest).map (signed true)
  | .char '+' :: rest => (unsignedFloat mark rest).map (signed false)
  | symbols => (unsignedFloat mark symbols).map (signed false)

/-! ### Other scalars -/

/-- The truth values by their words. -/
def truths : List (String × Bool) :=
  [("yes", true), ("no", false), ("true", true), ("false", false), ("on", true), ("off", false)]

/-- The truth value that a word stands for, in letters of either case. -/
def bool (text : List Symbol) : Except Error Value :=
  let word := Text.toLower ⟨text⟩
  match truths.find? (Text.ofString ·.1 == word) with
  | some (_, truth) => .ok (.bool truth)
  | none => .error (.missingKey word)

/-- The bytes that a text writes. -/
def binary (text : List Symbol) : Except Error Value :=
  match Text.charsOf? text with
  | none => .error .notYaml
  | some cs =>
    if cs.all (·.toNat < 0x80) then
      match Base64.decode? cs with
      | some bytes => .ok (.bytes bytes)
      | none => .error .notYaml
    else .error .notYaml

/-- The day or the moment that a text writes. -/
def timestamp (text : List Symbol) : Except Error Value :=
  match (Text.charsOf? text).bind Timestamp.parse? with
  | some t => t.value.mapError .calendar
  | none => .error .wrongShape

/-- The value that a text writes where it is meant to be of a kind.  The mark is that of the
scalar. -/
def value (tag : Tag) (mark : Nat) (text : List Symbol) : Except Error Value :=
  match tag with
  | .null => .ok .null
  | .bool => bool text
  | .int => int text
  | .float => float mark text
  | .binary => binary text
  | .timestamp => timestamp text
  | .text => .ok (.text ⟨text⟩)
  | _ => .error .notYaml

end TaskGraph.Yaml.Scalar
