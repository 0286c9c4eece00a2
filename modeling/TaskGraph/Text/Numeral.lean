/-
Module: TaskGraph.Text.Numeral
Purpose: Reading numbers from runs of digits, with a bound on their length, and
  writing them.
Main exports:
  Text.NumeralError, Text.readNatural, Text.readInteger, Text.digitsOf, Text.padded
-/
import TaskGraph.Text.Blank
import TaskGraph.Text.Digit

namespace TaskGraph.Text

/-- The longest run of digits that is read as a number. -/
def maxDigits : Nat := 4300

/-- Why a run of digits is not read as a number. -/
inductive NumeralError where
  /-- The run has more digits than `maxDigits`. -/
  | tooLong (digits : Nat)
  /-- The text does not write a number in the given base. -/
  | malformed (base : Nat) (text : Text)
deriving Repr, Inhabited, DecidableEq

/-- The number that digit values write in a base, the first the most significant. -/
def ofDigitValues (base : Nat) (values : List Nat) : Nat :=
  values.foldl (fun n d => base * n + d) 0

/-- The value of a symbol that is a decimal digit. -/
def decimalSymbol? (c : Symbol) : Option Nat :=
  c.char?.bind decimal?

/-- Read a run of digits.  The length of the decimal digits at its start is
checked before the rest is looked at. -/
def readNatural (token : List Symbol) : Except NumeralError Nat :=
  let values := (token.takeWhile fun c => (decimalSymbol? c).isSome).filterMap decimalSymbol?
  if maxDigits < values.length then .error (.tooLong values.length)
  else if values.length < token.length then .error (.malformed 10 ⟨token⟩)
  else .ok (ofDigitValues 10 values)

/-! ### Whole numbers as a person would type them -/

/-- The value of a digit in a base: decimal digits of any system, then letters. -/
def digitIn? (base : Nat) (c : Char) : Option Nat :=
  let n := c.toNat
  let value := match decimal? c with
    | some d => some d
    | none =>
      if 0x41 ≤ n ∧ n ≤ 0x5a then some (n - 0x37)
      else if 0x61 ≤ n ∧ n ≤ 0x7a then some (n - 0x57)
      else none
  value.filter (· < base)

/-- The value of a symbol that is a digit in a base. -/
def digitSymbol? (base : Nat) (c : Symbol) : Option Nat :=
  c.char?.bind (digitIn? base)

/-- Only bases that are no power of two have a longest numeral. -/
def hasLimit (base : Nat) : Bool :=
  base != 2 && base != 8 && base != 16

/-- Digits in which single underscores may stand between two digits. `text` is what
a message quotes. -/
def readGrouped (base : Nat) (text digits : List Symbol) : Except NumeralError Nat :=
  let run := digits.takeWhile fun c => c == .char '_' || (digitSymbol? base c).isSome
  let groups := pieces (· == .char '_') run
  let values := groups.flatten.filterMap (digitSymbol? base)
  if groups.any (·.isEmpty) then .error (.malformed base ⟨text⟩)
  else if hasLimit base && maxDigits < values.length then .error (.tooLong values.length)
  else if run.length < digits.length then .error (.malformed base ⟨text⟩)
  else .ok (ofDigitValues base values)

/-- The letters that, after a zero, may announce a base. -/
def baseMarks (base : Nat) : List Char :=
  if base = 2 then ['b', 'B'] else if base = 8 then ['o', 'O']
  else if base = 16 then ['x', 'X'] else []

/-- The digits after a zero and the letter of the base, if these stand in front.  An
underscore may follow the letter. -/
def dropBaseMark (base : Nat) (digits : List Symbol) : List Symbol :=
  match digits with
  | .char '0' :: .char c :: rest =>
    if c ∈ baseMarks base then
      match rest with
      | .char '_' :: rest => rest
      | _ => rest
    else digits
  | _ => digits

/-- Read a whole number in a base: white space around it, a sign, the mark of the
base, and underscores between digits are allowed. -/
def readInteger (base : Nat) (text : List Symbol) : Except NumeralError Int :=
  let magnitude (digits : List Symbol) : Except NumeralError Int :=
    (readGrouped base text (dropBaseMark base digits)).map fun n => (n : Int)
  match trim (Symbol.is isNumberPadding) text with
  | .char '-' :: digits => (magnitude digits).map fun n => -n
  | .char '+' :: digits => magnitude digits
  | digits => magnitude digits

/-! ### Writing -/

/-- The decimal digits of a natural number. -/
def digitsOf (n : Nat) : List Char :=
  (toString n).toList

/-- A natural number in at least `width` digits. -/
def padded (width n : Nat) : String :=
  let digits := digitsOf n
  String.ofList (List.replicate (width - digits.length) '0' ++ digits)

end TaskGraph.Text
