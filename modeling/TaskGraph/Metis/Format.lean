/-
Module: TaskGraph.Metis.Format
Purpose: Which optional numbers a graph file for a partitioner carries, and how its
  header says so.
Main exports:
  Metis.Format, Metis.FormatFault, Metis.Format.make, Metis.Format.ofCode,
  Metis.Format.code, Metis.Format.headerFields
-/
import TaskGraph.Value.Text

namespace TaskGraph.Metis

/-- The optional numbers of a graph file: a size and weights for every vertex, and
a weight for every edge. -/
structure Format where
  vertexSizes : Bool := false
  vertexWeights : Bool := false
  edgeWeights : Bool := false
  /-- The number of weights of a vertex. -/
  ncon : Nat := 1
  ncon_pos : 0 < ncon := by exact Nat.one_pos
deriving DecidableEq, Repr

instance : Inhabited Format := ⟨{}⟩

/-- Why a format does not exist. -/
inductive FormatFault where
  | tooFewWeights (ncon : Value)
  | unknownCode (code : Text)
deriving Repr, Inhabited

/-- What a message says about a format that does not exist. -/
def FormatFault.message : FormatFault → Text
  | .tooFewWeights ncon => "ncon must be at least 1, got " ++ ncon.plain
  | .unknownCode code => "Invalid METIS fmt code: " ++ Text.quoted code

namespace Format

/-- The format with these numbers, if a vertex has at least one weight. -/
def make (vertexSizes vertexWeights edgeWeights : Bool) (ncon : Int) :
    Except FormatFault Format :=
  if h : 0 < ncon.toNat then
    .ok { vertexSizes, vertexWeights, edgeWeights, ncon := ncon.toNat, ncon_pos := h }
  else
    .error (.tooFewWeights (.int ncon))

/-- The digit of a flag. -/
def flagDigit (flag : Bool) : Char :=
  if flag then '1' else '0'

/-- The three digits that tell which numbers are there: vertex sizes, vertex
weights, edge weights. -/
def code (format : Format) : List Char :=
  [flagDigit format.vertexSizes, flagDigit format.vertexWeights, flagDigit format.edgeWeights]

/-- Some optional number is there. -/
def hasAttributes (format : Format) : Bool :=
  format.vertexSizes || format.vertexWeights || format.edgeWeights

/-- The fields of a header after the two counts.  The number of weights is written
only where there are weights and more than one of them. -/
def headerFields (format : Format) : List (List Char) :=
  if format.hasAttributes then
    format.code ::
      (if format.vertexWeights && 1 < format.ncon then [(toString format.ncon).toList] else [])
  else
    []

/-- A code with zeros in front up to three symbols; a sign stays in front. -/
def fillCode (code : List Symbol) : List Symbol :=
  let zeros := List.replicate (3 - code.length) (.char '0')
  match code with
  | .char '+' :: rest => .char '+' :: zeros ++ rest
  | .char '-' :: rest => .char '-' :: zeros ++ rest
  | _ => zeros ++ code

/-- The flags that a code gives, whose leading zeros may be left out. -/
def flagsOf (code : List Symbol) : Except FormatFault (Bool × Bool × Bool) :=
  let filled := fillCode code
  match filled with
  | [sizes, weights, edges] =>
    if filled.all fun c => c == .char '0' || c == .char '1' then
      .ok (sizes == .char '1', weights == .char '1', edges == .char '1')
    else
      .error (.unknownCode ⟨filled⟩)
  | _ => .error (.unknownCode ⟨filled⟩)

/-- The format with a code. -/
def ofCode (code : List Symbol) (ncon : Int) : Except FormatFault Format := do
  let (sizes, weights, edges) ← flagsOf code
  make sizes weights edges ncon

end Format

end TaskGraph.Metis
