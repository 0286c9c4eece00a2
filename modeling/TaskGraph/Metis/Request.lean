/-
Module: TaskGraph.Metis.Request
Purpose: The optional numbers of a graph file as they are asked for, with values of any
  kind, and the columns that a file gets by them.
Main exports:
  Metis.numberToken, Metis.Columns, Metis.Format.columns, Metis.Request,
  Metis.Request.make, Metis.Request.ofCode, Metis.Request.ofFormat,
  Metis.Request.columns
-/
import TaskGraph.Value.Access

namespace TaskGraph.Metis

/-- The digits of a whole number, of which there must not be too many. -/
def numberToken (n : Int) : Except Error (List Char) :=
  if Value.digitBound ≤ n.natAbs then .error .tooManyDigits else .ok (toString n).toList

/-! ### Columns -/

/-- What a graph file holds beside the two counts and the neighbors. -/
structure Columns where
  /-- The fields of the header after the two counts. -/
  header : List (List Char) := []
  sizes : Bool := false
  /-- The number of weights of a vertex, if there are weights. -/
  weights : Option Value := none
  edgeWeights : Bool := false
deriving Repr, Inhabited

/-- The columns of a format. -/
def Format.columns (format : Format) : Columns :=
  { header := format.headerFields
    sizes := format.vertexSizes
    weights := if format.vertexWeights then some (.int format.ncon) else none
    edgeWeights := format.edgeWeights }

/-! ### Requests -/

/-- What is asked for.  A flag is any value, and is set if the value counts as true.  The
number of weights is a number that is not below one. -/
structure Request where
  vertexSizes : Value := .bool false
  vertexWeights : Value := .bool false
  edgeWeights : Value := .bool false
  ncon : Value := .int 1
  ncon_pos : ncon.lt? (.int 1) = some false := by decide
deriving Repr

instance : Inhabited Request := ⟨{}⟩

namespace Request

/-- The request with these flags, if the number of weights is one that a vertex can have. -/
def make (vertexSizes vertexWeights edgeWeights ncon : Value) : Except Error Request :=
  match h : ncon.lt? (.int 1) with
  | some false => .ok { vertexSizes, vertexWeights, edgeWeights, ncon, ncon_pos := h }
  | some true => .error (.format (.tooFewWeights ncon))
  | none => .error .illTyped

/-- The request that a code stands for. -/
def ofCode (code ncon : Value) : Except Error Request :=
  match code with
  | .text code => do
    let (sizes, weights, edges) ← (Format.flagsOf code.toList).mapError .format
    make (.bool sizes) (.bool weights) (.bool edges) ncon
  | _ => .error .wrongShape

/-- The request for the numbers of a format. -/
def ofFormat (format : Format) : Request where
  vertexSizes := .bool format.vertexSizes
  vertexWeights := .bool format.vertexWeights
  edgeWeights := .bool format.edgeWeights
  ncon := .int format.ncon
  ncon_pos := by
    have positive := format.ncon_pos
    simp [Value.lt?, Value.isNumeric, Value.ltNumber, Value.extent?, Binary64.Extent.lt]
    omega

/-- The whole number that a flag is as a digit of the code.  A number loses its fraction, and
a text is read. -/
def flagNumber (flag : Value) : Except Error Int :=
  match flag with
  | .bool b => .ok (if b then 1 else 0)
  | .int n => .ok n
  | .float x =>
    match x.toRatio? with
    | some (num, den) => .ok (num.tdiv den)
    | none => .error (if x.isNaN then .notAWholeNumber else .tooLarge)
  | .text s => (Text.readInteger 10 s.toList).mapError .numeral
  | _ => .error .illTyped

/-- The code: vertex sizes, vertex weights, edge weights. -/
def code (request : Request) : Except Error (List Char) := do
  let sizes ← numberToken (← flagNumber request.vertexSizes)
  let weights ← numberToken (← flagNumber request.vertexWeights)
  let edges ← numberToken (← flagNumber request.edgeWeights)
  .ok (sizes ++ weights ++ edges)

/-- The first flag that is set; the last one if none is. -/
def attributes (request : Request) : Value :=
  if request.vertexSizes.isTrue then request.vertexSizes
  else if request.vertexWeights.isTrue then request.vertexWeights
  else request.edgeWeights

/-- The text of the number of weights. -/
def nconText (request : Request) : Except Error (List Char) :=
  match request.ncon with
  | .int n => numberToken n
  | ncon => ncon.asPlain.map fun text => text.toList.filterMap Symbol.char?

/-- The fields of a header after the two counts.  The number of weights is written only
where there are weights and more than one of them. -/
def headerFields (request : Request) : Except Error (List (List Char)) :=
  if request.attributes.isTrue then do
    let code ← request.code
    if request.vertexWeights.isTrue && Value.lt? (.int 1) request.ncon == some true then do
      .ok [code, ← request.nconText]
    else
      .ok [code]
  else
    .ok []

/-- The columns of a file that is asked for. -/
def columns (request : Request) : Except Error Columns := do
  let header ← request.headerFields
  .ok
    { header
      sizes := request.vertexSizes.isTrue
      weights := if request.vertexWeights.isTrue then some request.ncon else none
      edgeWeights := request.edgeWeights.isTrue }

end Request

end TaskGraph.Metis
