/-
Module: TaskGraph.Json.Reader
Purpose: Reading JSON, with the names `NaN`, `Infinity` and `-Infinity` as numbers.
Main exports:
  Json.read
-/
import TaskGraph.Decimal.Notation
import TaskGraph.Json.Fault
import TaskGraph.Value.Key

namespace TaskGraph.Json

/-- The result of reading a part of a text, with what is left to read. -/
abbrev Step (α : Type) := Except Fault (α × List Char)

/-- Stop with a problem at the start of `rest`. -/
def stop {α : Type} (what : Problem) (rest : List Char) : Except Fault α :=
  .error (.problem what rest.length)

/-- The four characters that may stand between the parts of a value. -/
def isSpace (c : Char) : Bool :=
  c == ' ' || c == '\t' || c == '\n' || c == '\r'

/-- What follows the space at the start of a text. -/
def skipSpace (cs : List Char) : List Char :=
  cs.dropWhile isSpace

/-! ### Texts -/

/-- The character behind a short escape. -/
def shortEscape? (c : Char) : Option Char :=
  match c with
  | '"' => some '"'
  | '\\' => some '\\'
  | '/' => some '/'
  | 'b' => some '\x08'
  | 'f' => some '\x0c'
  | 'n' => some '\n'
  | 'r' => some '\r'
  | 't' => some '\t'
  | _ => none

/-- The second half of a code point at the start of a text.  It is looked for
only where more than the six characters of an escape are left. -/
def lowHalf? : List Char → Except Fault (Option Nat)
  | '\\' :: 'u' :: a :: b :: c :: d :: e :: rest =>
    match Text.hexNumber? [a, b, c, d] with
    | some n => .ok (if Text.isLowHalf n then some n else none)
    | none => stop .badUnicodeEscape ('u' :: a :: b :: c :: d :: e :: rest)
  | _ => .ok none

/-- The symbol behind an escape that names a code point, and the number of
characters it takes up after the backslash and the `u`. -/
def codeEscape (start : List Char) : List Char → Except Fault (Symbol × Nat)
  | a :: b :: c :: d :: rest =>
    match Text.hexNumber? [a, b, c, d] with
    | none => stop .badUnicodeEscape start
    | some n =>
      if rest.isEmpty then stop .badUnicodeEscape start
      else if Text.isHighHalf n then
        match lowHalf? rest with
        | .error fault => .error fault
        | .ok none => .ok (Symbol.ofCode n, 4)
        | .ok (some low) => .ok (.char (Text.joinHalves n low), 10)
      else .ok (Symbol.ofCode n, 4)
  | _ => stop .badUnicodeEscape start

/-- The symbol behind an escape, and the number of characters it takes up after
the backslash.  `opening` is the text from the opening quote on. -/
def readEscape (opening rest : List Char) : Except Fault (Symbol × Nat) :=
  match rest with
  | [] => stop .unterminated opening
  | c :: more =>
    if c = 'u' then (codeEscape rest more).map fun (found, taken) => (found, taken + 1)
    else match shortEscape? c with
      | some found => .ok (.char found, 1)
      | none => stop .badEscape ('\\' :: rest)

/-- Read the characters of a text up to its closing quote.  `opening` is the text from the
opening quote on, `taken` the number of characters still to be passed over because an
escape took them up, and `found` holds the symbols read so far in reverse. -/
def readText (opening : List Char) (taken : Nat) (found : List Symbol) : List Char → Step Text
  | [] => stop .unterminated opening
  | c :: rest =>
    if taken ≠ 0 then readText opening (taken - 1) found rest
    else if c = '"' then .ok (⟨found.reverse⟩, rest)
    else if c = '\\' then
      match readEscape opening rest with
      | .error fault => .error fault
      | .ok (d, taken) => readText opening taken (d :: found) rest
    else if c.toNat < 0x20 then stop .controlCharacter (c :: rest)
    else readText opening 0 (.char c :: found) rest

/-! ### Numbers -/

/-- The digits of a whole number at the start of a text: a zero, or a run of
digits that does not start with one. -/
def wholeDigits : List Char → List Char × List Char
  | '0' :: rest => (['0'], rest)
  | cs => (cs.takeWhile Text.isPlainDigit, cs.dropWhile Text.isPlainDigit)

/-- The digits of a fraction at the start of a text, if a point and a digit stand
there. -/
def fractionDigits : List Char → List Char × List Char
  | '.' :: c :: rest =>
    if Text.isPlainDigit c then
      (c :: rest.takeWhile Text.isPlainDigit, rest.dropWhile Text.isPlainDigit)
    else
      ([], '.' :: c :: rest)
  | cs => ([], cs)

/-- The exponent at the start of a text, if there is one with a digit. -/
def exponent? (cs : List Char) : Option (Int × List Char) :=
  match cs with
  | c :: rest =>
    if c = 'e' ∨ c = 'E' then
      let (negative, rest) : Bool × List Char := match rest with
        | '-' :: rest => (true, rest)
        | '+' :: rest => (false, rest)
        | _ => (false, rest)
      let digits := rest.takeWhile Text.isPlainDigit
      let n : Int := Decimal.plainValue digits
      if digits.isEmpty then none
      else some (if negative then -n else n, rest.dropWhile Text.isPlainDigit)
    else
      none
  | [] => none

/-- Read a number after its sign; `whole` is the text from the sign on. -/
def readNumber (negative : Bool) (whole cs : List Char) : Step Value :=
  let (digits, rest) := wholeDigits cs
  if digits.isEmpty then stop .noValue whole
  else
    let (fraction, rest) := fractionDigits rest
    match fraction, exponent? rest with
    | [], none =>
      match Text.readNatural (Text.symbols digits) with
      | .ok n => .ok (.int (if negative then -(n : Int) else n), rest)
      | .error error => .error (.numeral error)
    | _, some (exponent, rest) =>
      let x := Binary64.ofDecimal negative (Decimal.plainValue (digits ++ fraction))
        (exponent - fraction.length)
      .ok (.float x, rest)
    | _, none =>
      let x := Binary64.ofDecimal negative (Decimal.plainValue (digits ++ fraction))
        (-(fraction.length : Int))
      .ok (.float x, rest)

/-! ### Values -/

/-- Names that stand for values. -/
def names : List (List Char × Value) :=
  [("null".toList, .null), ("true".toList, .bool true), ("false".toList, .bool false),
   ("NaN".toList, .float (Binary64.nan 0)), ("Infinity".toList, .float (Binary64.infinity false)),
   ("-Infinity".toList, .float (Binary64.infinity true))]

/-- A name at the start of a text, with what follows it. -/
def readName? (cs : List Char) : Option (Value × List Char) :=
  (names.find? fun entry => entry.1.isPrefixOf cs).map fun entry =>
    (entry.2, cs.drop entry.1.length)

/-- The number of levels at which values may stand inside each other. -/
def maxLevels : Nat := 989

mutual

/-- Read one value, with at most `levels` levels.  Every nested value is shorter than the
one around it, so the length of the text is fuel enough. -/
def readValue (levels : Nat) : Nat → List Char → Step Value
  | 0, cs => stop .noValue cs
  | fuel + 1, cs =>
    match cs with
    | '"' :: rest =>
      match readText cs 0 [] rest with
      | .ok (s, rest) => .ok (.text s, rest)
      | .error fault => .error fault
    | '[' :: rest =>
      if levels = 0 then .error .tooDeep
      else match skipSpace rest with
        | ']' :: rest => .ok (.list [], rest)
        | rest => readItems (levels - 1) fuel [] rest
    | '\x7b' :: rest =>
      if levels = 0 then .error .tooDeep
      else match skipSpace rest with
        | '\x7d' :: rest => .ok (.map [], rest)
        | rest => readMembers (levels - 1) fuel [] rest
    | _ =>
      match readName? cs with
      | some found => .ok found
      | none =>
        match cs with
        | '-' :: rest => readNumber true cs rest
        | _ => readNumber false cs cs

/-- Read the items of a list from the start of an item on; `items` holds those
read before in reverse. -/
def readItems (levels : Nat) : Nat → List Value → List Char → Step Value
  | 0, _, cs => stop .noValue cs
  | fuel + 1, items, cs =>
    match readValue levels fuel cs with
    | .error fault => .error fault
    | .ok (item, rest) =>
      match skipSpace rest with
      | ']' :: rest => .ok (.list (item :: items).reverse, rest)
      | ',' :: rest => readItems levels fuel (item :: items) (skipSpace rest)
      | rest => stop .noComma rest

/-- Read the members of an object from the start of a name on; a name that occurs
again keeps its place and gets the new value. -/
def readMembers (levels : Nat) : Nat → Value.Entries → List Char → Step Value
  | 0, _, cs => stop .noValue cs
  | fuel + 1, entries, cs =>
    match cs with
    | '"' :: rest =>
      match readText cs 0 [] rest with
      | .error fault => .error fault
      | .ok (name, rest) =>
        match skipSpace rest with
        | ':' :: rest =>
          match readValue levels fuel (skipSpace rest) with
          | .error fault => .error fault
          | .ok (value, rest) =>
            let entries := entries.insert (.text name) value
            match skipSpace rest with
            | '\x7d' :: rest => .ok (.map entries, rest)
            | ',' :: rest => readMembers levels fuel entries (skipSpace rest)
            | rest => stop .noComma rest
        | rest => stop .noColon rest
    | _ => stop .noPropertyName cs

end

/-- Read a text that holds one value and nothing else but space. -/
def read (cs : List Char) : Except Fault Value :=
  if cs.head? = some '\ufeff' then stop .byteOrderMark cs
  else
    match readValue maxLevels (cs.length + 1) (skipSpace cs) with
    | .error fault => .error fault
    | .ok (value, rest) =>
      match skipSpace rest with
      | [] => .ok value
      | rest => stop .extraData rest

end TaskGraph.Json
