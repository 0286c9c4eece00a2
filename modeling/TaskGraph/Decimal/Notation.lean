/-
Module: TaskGraph.Decimal.Notation
Purpose: How double-precision numbers are written and read as text.
Main exports:
  Decimal.write, Decimal.read?
-/
import TaskGraph.Decimal.Shortest
import TaskGraph.Text.Numeral

namespace TaskGraph.Decimal

/-! ### Writing -/

/-- The decisions behind the text of a number. -/
structure Style where
  /-- The smallest power of ten of a first digit that is written in place. -/
  leastPlain : Int
  /-- The smallest power of ten of a first digit that needs an exponent again. -/
  leastExponent : Int
  /-- The least number of digits of an exponent. -/
  exponentWidth : Nat
  notANumber : String
  infinite : String
deriving Repr, Inhabited, DecidableEq

/-- Numbers from `1e-4` to below `1e16` are written in place, always with a
fraction; an exponent has a sign and at least two digits. -/
def standard : Style :=
  { leastPlain := -4, leastExponent := 16, exponentWidth := 2
    notANumber := "nan", infinite := "inf" }

/-- Digits with a point after the first `before` of them, with zeros where the
digits do not reach. -/
def placed (digits : List Char) (before : Int) : String :=
  if before ≤ 0 then
    "0." ++ String.ofList (List.replicate (-before).toNat '0' ++ digits)
  else
    let whole := digits.take before.toNat
    let fraction := digits.drop before.toNat
    String.ofList (whole ++ List.replicate (before.toNat - whole.length) '0') ++ "." ++
      (if fraction.isEmpty then "0" else String.ofList fraction)

/-- Digits with a point after the first, and an exponent. -/
def withExponent (style : Style) (digits : List Char) (first : Int) : String :=
  String.ofList (digits.take 1) ++
    (if digits.length ≤ 1 then "" else "." ++ String.ofList (digits.drop 1)) ++
    (if first < 0 then "e-" else "e+") ++ Text.padded style.exponentWidth first.natAbs

/-- The text of a number in a style. -/
def writeIn (style : Style) (x : Binary64) : String :=
  let sign := if x.isNegative then "-" else ""
  if x.isNaN then style.notANumber
  else if x.isInfinite then sign ++ style.infinite
  else
    let (digits, power) := shortest x
    let text := (toString digits).toList
    let first := power + text.length - 1
    sign ++
      if style.leastPlain ≤ first ∧ first < style.leastExponent then placed text (first + 1)
      else withExponent style text first

/-- The text of a number: the fewest digits that read back. -/
def write (x : Binary64) : String :=
  writeIn standard x

/-! ### Reading -/

/-- The value of a run of ASCII digits. -/
def plainValue (digits : List Char) : Nat :=
  digits.foldl (fun n c => 10 * n + (c.toNat - 0x30)) 0

/-- The value of a run of ASCII digits that is all of a text. -/
def plainValue? (digits : List Char) : Option Int :=
  if Text.isPlainRun digits then some (plainValue digits) else none

/-- The exponent part of a number, zero where the text is empty. -/
def readExponent? : List Char → Option Int
  | [] => some 0
  | c :: rest =>
    if c = 'e' ∨ c = 'E' then
      match rest with
      | '-' :: digits => (plainValue? digits).map (-·)
      | '+' :: digits => plainValue? digits
      | digits => plainValue? digits
    else
      none

/-- An unsigned number: digits, perhaps a point and more digits, perhaps an
exponent.  There is at least one digit before the exponent. -/
def readUnsigned? (negative : Bool) (cs : List Char) : Option Binary64 := do
  let whole := cs.takeWhile Text.isPlainDigit
  let rest := cs.dropWhile Text.isPlainDigit
  let (fraction, rest) := match rest with
    | '.' :: more => (more.takeWhile Text.isPlainDigit, more.dropWhile Text.isPlainDigit)
    | _ => ([], rest)
  if whole.isEmpty && fraction.isEmpty then
    none
  else
    let exponent ← readExponent? rest
    some (Binary64.ofDecimal negative (plainValue (whole ++ fraction)) (exponent - fraction.length))

/-- A number with an optional sign, or one of the words for infinity and for a
value that is not a number.  White space around it, digits of any decimal system
and letters of either case are allowed. -/
def readChars? (text : List Char) : Option Binary64 :=
  let cs := (Text.trim Text.isNumberPadding text).map Text.plainDigit
  let (negative, body) := match cs with
    | '-' :: rest => (true, rest)
    | '+' :: rest => (false, rest)
    | _ => (false, cs)
  let word := String.ofList (body.map Char.toLower)
  if word = "inf" ∨ word = "infinity" then some (Binary64.infinity negative)
  else if word = "nan" then some (Binary64.nan 0)
  else readUnsigned? negative body

/-- The number that symbols write.  None of them may be half of a character. -/
def read? (symbols : List Symbol) : Option Binary64 :=
  (Text.charsOf? symbols).bind readChars?

end TaskGraph.Decimal
