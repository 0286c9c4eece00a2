/-
Module: TaskGraph.Yaml.Tag
Purpose: What kind of value a node is meant to be, by its tag or, where it has none, by
  the form of its text.
Main exports:
  Yaml.Tag, Tag.ofName, Tag.ofPlain
-/
import TaskGraph.Text.Blank
import TaskGraph.Text.CodePoint
import TaskGraph.Text.Digit
import TaskGraph.Yaml.Timestamp

namespace TaskGraph.Yaml

/-- The kind of value that a node is meant to be. -/
inductive Tag where
  | null
  | bool
  | int
  | float
  | binary
  | timestamp
  | text
  | sequence
  | mapping
  | set
  /-- A sequence of entries, each a mapping with one key. -/
  | entries
  /-- The key whose value is merged into the mapping around it. -/
  | merge
  /-- The key whose value stands for the mapping around it. -/
  | default
  /-- A tag without a meaning here. -/
  | unknown
deriving DecidableEq, Repr, Inhabited

namespace Tag

/-- What the names of the usual tags start with. -/
def stem : String := "tag:yaml.org,2002:"

/-- The usual tags by the ends of their names. -/
def names : List (String × Tag) :=
  [("null", .null), ("bool", .bool), ("int", .int), ("float", .float), ("binary", .binary),
   ("timestamp", .timestamp), ("str", .text), ("seq", .sequence), ("map", .mapping),
   ("set", .set), ("omap", .entries), ("pairs", .entries), ("merge", .merge),
   ("value", .default)]

/-- The tag with a full name. -/
def ofName (name : String) : Tag :=
  match names.find? fun entry => stem ++ entry.1 == name with
  | some (_, tag) => tag
  | none => .unknown

/-- Values of these kinds are collections. -/
def isCollection : Tag → Bool
  | sequence => true
  | mapping => true
  | set => true
  | entries => true
  | _ => false

/-! ### Forms of plain texts -/

/-- The text after a sign, if one stands in front. -/
def dropSign (cs : List Char) : List Char :=
  match cs with
  | '+' :: rest => rest
  | '-' :: rest => rest
  | _ => cs

/-- Characters of a kind or underscores, at least one. -/
def isRun (p : Char → Bool) (cs : List Char) : Bool :=
  !cs.isEmpty && cs.all fun c => p c || c == '_'

/-- A digit, then digits and underscores. -/
def isGrouped (cs : List Char) : Bool :=
  match cs with
  | c :: rest => Text.isPlainDigit c && rest.all fun d => Text.isPlainDigit d || d == '_'
  | [] => false

/-- One or two digits that write a number below sixty. -/
def isSixtieth (cs : List Char) : Bool :=
  match cs with
  | [c] => Text.isPlainDigit c
  | [c, d] => '0' ≤ c && c ≤ '5' && Text.isPlainDigit d
  | _ => false

/-- A whole number without its sign: in base ten without a zero in front, in base two,
eight or sixteen after a mark, or in base sixty between colons. -/
def isWhole (cs : List Char) : Bool :=
  match cs with
  | ['0'] => true
  | '0' :: 'b' :: digits => isRun (fun c => c == '0' || c == '1') digits
  | '0' :: 'x' :: digits => isRun (fun c => (Text.hexValue? c).isSome) digits
  | '0' :: digits => isRun (fun c => '0' ≤ c && c ≤ '7') digits
  | _ =>
    match Text.pieces (· == ':') cs with
    | first :: rest => isGrouped first && rest.all isSixtieth
    | [] => false

/-- An exponent with a sign, or nothing. -/
def isExponent (cs : List Char) : Bool :=
  match cs with
  | [] => true
  | e :: sign :: digits =>
    (e == 'e' || e == 'E') && (sign == '+' || sign == '-') && Text.isPlainRun digits
  | _ => false

/-- The digits and underscores after a point, perhaps none, then an exponent. -/
def isFraction (cs : List Char) : Bool :=
  isExponent (cs.dropWhile fun c => Text.isPlainDigit c || c == '_')

/-- The part before the point of a number in base sixty, and the part after it. -/
def isSexagesimal (whole fraction : List Char) : Bool :=
  match Text.pieces (· == ':') whole with
  | first :: second :: rest =>
    isGrouped first && isSixtieth second && rest.all isSixtieth &&
      fraction.all fun c => Text.isPlainDigit c || c == '_'
  | _ => false

/-- A number with a point, or a word for infinity or for what is no number. -/
def isFractional (cs : List Char) : Bool :=
  let body := dropSign cs
  let whole := body.takeWhile (· != '.')
  match body.dropWhile (· != '.') with
  | [] => false
  | _ :: fraction =>
    if whole.isEmpty then
      ["inf", "Inf", "INF"].any (·.toList == fraction) ||
        (body == cs && (["nan", "NaN", "NAN"].any (·.toList == fraction) ||
          (fraction.head?.any Text.isPlainDigit && isFraction fraction)))
    else (isGrouped whole && isFraction fraction) || isSexagesimal whole fraction

/-- Words for truth values. -/
def truthWords : List String :=
  ["yes", "Yes", "YES", "no", "No", "NO", "true", "True", "TRUE", "false", "False", "FALSE",
   "on", "On", "ON", "off", "Off", "OFF"]

/-- Words for the absent value. -/
def nullWords : List String :=
  ["~", "null", "Null", "NULL"]

/-- A text without a break at its end, unless it is nothing else. -/
def dropLastBreak (text : List Char) : List Char :=
  if 1 < text.length ∧ text.getLast? = some '\n' then text.dropLast else text

/-- The kind of value that characters without quotes are meant to be.  Behind a day or a
moment no further break may stand. -/
def ofChars (text : List Char) : Tag :=
  let cs := dropLastBreak text
  let word := String.ofList cs
  if cs.isEmpty ∨ word ∈ nullWords then .null
  else if word ∈ truthWords then .bool
  else if isFractional cs then .float
  else if isWhole (dropSign cs) then .int
  else if word = "<<" then .merge
  else if cs.getLast? ≠ some '\n' ∧ (Timestamp.parse? cs).any (·.isUsual) then .timestamp
  else if word = "=" then .default
  else if word ∈ ["!", "&", "*"] then .unknown
  else .text

/-- The kind of value that a text without quotes is meant to be.  With a half of a
character in it, it is nothing but a text. -/
def ofPlain (text : List Symbol) : Tag :=
  match Text.charsOf? text with
  | some cs => ofChars cs
  | none => .text

end Tag

end TaskGraph.Yaml
