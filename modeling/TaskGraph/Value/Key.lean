/-
Module: TaskGraph.Value.Key
Purpose: When two values are the same: keys of mappings, equality, and order.
Main exports:
  Key, Value.key?, Value.same, Value.equal, Value.Entries.insert, Value.lt?
-/
import TaskGraph.Value.Basic

namespace TaskGraph

/-! ### Keys -/

/-- What two values have in common that are the same as keys.  Numbers are the same by
value, whatever their kind; what is not a number is the same as itself alone; moments are
the same if they are at one instant and both or neither tell the distance of their clock. -/
inductive Key where
  | null
  | number (num : Int) (den : Nat)
  | infinite (negative : Bool)
  | undefined (bits : UInt64)
  | text (s : Text)
  | bytes (data : List UInt8)
  | date (year month day : Nat)
  | moment (isAware : Bool) (instant : Int)
deriving DecidableEq, Repr, Hashable, Inhabited

namespace Key

/-- The key of a ratio. -/
def ofRatio (num : Int) (den : Nat) : Key :=
  let divisor := Nat.gcd num.natAbs den
  number (num / divisor) (den / divisor)

/-- The key of a number with a fraction. -/
def ofFloat (x : Binary64) : Key :=
  if x.isNaN then undefined x.bits
  else match x.toRatio? with
    | some (num, den) => ofRatio num den
    | none => infinite x.isNegative

end Key

namespace Value

/-- The key that a value is.  Only values without parts serve as keys of a mapping or as
items of a set. -/
def key? : Value → Option Key
  | null => some .null
  | bool b => some (.number (if b then 1 else 0) 1)
  | int n => some (.number n 1)
  | float x => some (Key.ofFloat x)
  | text s => some (.text s)
  | bytes data => some (.bytes data)
  | date d => some (.date d.year d.month d.day)
  | moment m => some (.moment m.offset.isSome m.instant)
  | _ => none

/-- A value can serve as a key. -/
def isKey (value : Value) : Bool :=
  value.key?.isSome

/-! ### Equality -/

mutual

/-- Two values are the same as parts of collections: sequences item by item, mappings and
sets without regard to order, all else as keys. -/
def same : Value → Value → Bool
  | text s, text t => s == t
  | list xs, list ys => sameAll xs ys
  | tuple xs, tuple ys => sameAll xs ys
  | set xs, set ys => xs.length == ys.length && subset xs ys
  | map xs, map ys => xs.length == ys.length && subentries xs ys
  | web xs i, web ys j => i == j && sameAll xs ys
  | link i, link j => i == j
  | a, b =>
    match a.key?, b.key? with
    | some k, some l => k == l
    | _, _ => false

/-- Equality of two sequences, item by item. -/
def sameAll : List Value → List Value → Bool
  | [], [] => true
  | x :: xs, y :: ys => same x y && sameAll xs ys
  | _, _ => false

/-- Every item of the first sequence occurs in the second. -/
def subset : List Value → List Value → Bool
  | [], _ => true
  | x :: xs, ys => ys.any (fun y => same x y) && subset xs ys

/-- Every entry of the first mapping occurs in the second. -/
def subentries : List (Value × Value) → List (Value × Value) → Bool
  | [], _ => true
  | (k, v) :: rest, ys =>
    ys.any (fun (l, w) => same k l && same v w) && subentries rest ys

end

/-- A value that is not a number although it is of that kind. -/
def isUndefined : Value → Bool
  | float x => x.isNaN
  | _ => false

/-- Two values are equal.  What is not a number does not equal itself. -/
def equal (a b : Value) : Bool :=
  !a.isUndefined && a.same b

/-! ### Mappings -/

/-- Write an entry: a key that is already there keeps its place and gets the new
value, another one goes to the end. -/
def Entries.insert (entries : Entries) (key value : Value) : Entries :=
  match entries with
  | [] => [(key, value)]
  | (k, v) :: rest => if same k key then (k, value) :: rest else (k, v) :: insert rest key value

/-- The value under a key. -/
def Entries.find? (entries : Entries) (key : Value) : Option Value :=
  (List.find? (fun entry => same entry.1 key) entries).map (·.2)

/-- The value under a text key. -/
def Entries.get? (entries : Entries) (key : String) : Option Value :=
  entries.find? (text key)

/-- The mapping that writing entries one after the other makes. -/
def Entries.ofList (written : List (Value × Value)) : Entries :=
  written.foldl (fun entries entry => Entries.insert entries entry.1 entry.2) []

/-- The first of the values that are the same. -/
def distinct (values : List Value) : List Value :=
  values.foldl (fun seen x => if seen.any (same x) then seen else seen ++ [x]) []

/-! ### Order -/

/-- Where a numeric value lies on the line of all ratios.  Truth values count as
zero and one. -/
def extent? : Value → Option Binary64.Extent
  | bool b => some (.ratio (if b then 1 else 0) 1)
  | int n => some (.ratio n 1)
  | float x => x.extent?
  | _ => none

/-- A value that is a number, or a truth value that counts as one. -/
def isNumeric : Value → Bool
  | bool _ => true
  | int _ => true
  | float _ => true
  | _ => false

/-- Strict order of numeric values; what is not a number is in no order. -/
def ltNumber (a b : Value) : Bool :=
  match a.extent?, b.extent? with
  | some x, some y => x.lt y
  | _, _ => false

mutual

/-- Strict order of values; absent between values that have no order. -/
def lt? : Value → Value → Option Bool
  | text s, text t => some (s.lt t)
  | list xs, list ys => ltAll? xs ys
  | tuple xs, tuple ys => ltAll? xs ys
  | a, b => if a.isNumeric && b.isNumeric then some (ltNumber a b) else none

/-- Order of sequences: the first items that differ decide, else the length. -/
def ltAll? : List Value → List Value → Option Bool
  | [], ys => some (!ys.isEmpty)
  | _ :: _, [] => some false
  | x :: xs, y :: ys => if same x y then ltAll? xs ys else lt? x y

end

end Value

end TaskGraph
