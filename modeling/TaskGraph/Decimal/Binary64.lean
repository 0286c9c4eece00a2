/-
Module: TaskGraph.Decimal.Binary64
Purpose: Double-precision numbers by their bits, with exact conversion from
  ratios and decimals, and exact comparison.
Main exports:
  Binary64, Binary64.ofRatio, Binary64.ofDecimal, Binary64.toRatio?, Binary64.add,
  Binary64.mul, Binary64.extent?
-/

namespace TaskGraph

/-- A double-precision number, given by its sixty-four bits. -/
structure Binary64 where
  bits : UInt64
deriving DecidableEq, Repr, Inhabited

namespace Binary64

/-! ### Parts of a number

A number has a sign bit, eleven exponent bits and fifty-two fraction bits.  A
finite one is `± significand · 2 ^ scale` with whole `significand` and `scale`. -/

/-- The sign bit is set. -/
def isNegative (x : Binary64) : Bool :=
  Nat.pow 2 63 ≤ x.bits.toNat

/-- The number without its sign, as the number that its bits write. -/
def magnitude (x : Binary64) : Nat :=
  x.bits.toNat % Nat.pow 2 63

/-- The bits of positive infinity. -/
def infinityBits : Nat := 0x7ff * Nat.pow 2 52

/-- Not a number. -/
def isNaN (x : Binary64) : Bool :=
  infinityBits < x.magnitude

/-- One of the two infinities. -/
def isInfinite (x : Binary64) : Bool :=
  x.magnitude == infinityBits

/-- Neither infinite nor without a value. -/
def isFinite (x : Binary64) : Bool :=
  x.magnitude < infinityBits

/-- The whole number that the fraction bits write, with the leading bit that
normal numbers leave out. -/
def significand (x : Binary64) : Nat :=
  if x.magnitude < Nat.pow 2 52 then x.magnitude else Nat.pow 2 52 + x.magnitude % Nat.pow 2 52

/-- The power of two that scales the significand. -/
def scale (x : Binary64) : Int :=
  if x.magnitude < Nat.pow 2 52 then -1074 else (x.magnitude / Nat.pow 2 52 : Nat) - 1075

/-- The number with sign bit `negative` and the given magnitude bits. -/
def ofMagnitude (negative : Bool) (magnitude : Nat) : Binary64 :=
  ⟨UInt64.ofNat (magnitude + if negative then Nat.pow 2 63 else 0)⟩

/-- Zero with a sign. -/
def zero (negative : Bool) : Binary64 := ofMagnitude negative 0

/-- Infinity with a sign. -/
def infinity (negative : Bool) : Binary64 := ofMagnitude negative infinityBits

/-- A value that is not a number.  Its mark, of which fifty-one bits count, tells it from
others of its kind. -/
def nan (mark : Nat) : Binary64 :=
  ofMagnitude false (infinityBits + Nat.pow 2 51 + mark % Nat.pow 2 51)

/-- The number with the other sign. -/
def neg (x : Binary64) : Binary64 := ofMagnitude (!x.isNegative) x.magnitude

/-! ### Rounding a ratio -/

/-- The whole number nearest to `num / den`; a half goes to the even neighbour. -/
def roundHalfEven (num den : Nat) : Nat :=
  let quotient := num / den
  let rest := 2 * (num % den)
  if rest < den then quotient
  else if den < rest then quotient + 1
  else quotient + quotient % 2

/-- Numerator and denominator of `num / den / 2 ^ scale`. -/
def scaled (num den : Nat) (scale : Int) : Nat × Nat :=
  if 0 ≤ scale then (num, den * Nat.pow 2 scale.toNat) else (num * Nat.pow 2 (-scale).toNat, den)

/-- The number nearest to `num / den`; a half goes to the even significand, and
what exceeds the largest finite number becomes infinite. -/
def ofRatio (negative : Bool) (num den : Nat) : Binary64 :=
  if num = 0 then zero negative
  else
    let estimate : Int := (Nat.log2 num : Int) - Nat.log2 den - 52
    let (n, d) := scaled num den estimate
    let scale := max (-1074) (if n < d * Nat.pow 2 52 then estimate - 1 else estimate)
    let (n, d) := scaled num den scale
    let magnitude := (scale + 1074).toNat * Nat.pow 2 52 + roundHalfEven n d
    ofMagnitude negative (min magnitude infinityBits)

/-- The number nearest to `digits · 10 ^ exponent`. -/
def ofDecimal (negative : Bool) (digits : Nat) (exponent : Int) : Binary64 :=
  let size : Int := (toString digits).length + exponent
  if digits = 0 ∨ size < -330 then zero negative
  else if 310 < size then infinity negative
  else if 0 ≤ exponent then ofRatio negative (digits * Nat.pow 10 exponent.toNat) 1
  else ofRatio negative digits (Nat.pow 10 (-exponent).toNat)

/-! ### Exact values -/

/-- A finite number as a signed numerator over a denominator. -/
def toRatio? (x : Binary64) : Option (Int × Nat) :=
  if x.isFinite then
    let (num, den) :=
      if 0 ≤ x.scale then (x.significand * Nat.pow 2 x.scale.toNat, 1)
      else (x.significand, Nat.pow 2 (-x.scale).toNat)
    some (if x.isNegative then -(num : Int) else num, den)
  else
    none

/-- The number nearest to a signed ratio. -/
def ofSignedRatio (num : Int) (den : Nat) : Binary64 :=
  ofRatio (num < 0) num.natAbs den

/-! ### Arithmetic -/

/-- The sum of two numbers, rounded once.  Infinite summands of both signs have no
sum; two negative zeros add up to a negative zero. -/
def add (x y : Binary64) : Binary64 :=
  match x.toRatio?, y.toRatio? with
  | some (a, b), some (c, d) =>
    if x.magnitude = 0 ∧ y.magnitude = 0 then zero (x.isNegative && y.isNegative)
    else ofSignedRatio (a * d + c * b) (b * d)
  | none, some _ => x
  | some _, none => y
  | none, none => if x = y then x else nan 0

/-- The product of two numbers, rounded once.  Zero times infinity is not a number. -/
def mul (x y : Binary64) : Binary64 :=
  let negative := x.isNegative != y.isNegative
  match x.toRatio?, y.toRatio? with
  | some (a, b), some (c, d) => ofRatio negative (a.natAbs * c.natAbs) (b * d)
  | _, _ =>
    if x.isNaN || y.isNaN || x.magnitude == 0 || y.magnitude == 0 then nan 0
    else infinity negative

/-- The number nearest to a whole number, if that is not beyond the finite ones. -/
def ofNat? (n : Nat) : Option Binary64 :=
  let x := ofRatio false n 1
  if x.isFinite then some x else none

/-! ### Comparison

Numbers compare by value, so the two zeros are equal and a value that is not a
number is in no relation to any other. -/

/-- A number on the line of all ratios with its two ends. -/
inductive Extent where
  | below
  | ratio (num : Int) (den : Nat)
  | above
deriving Repr, Inhabited, DecidableEq

/-- Where a number lies; nowhere if it is not a number. -/
def extent? (x : Binary64) : Option Extent :=
  if x.isNaN then none
  else match x.toRatio? with
    | some (num, den) => some (.ratio num den)
    | none => some (if x.isNegative then .below else .above)

/-- Strict order of positions on the line. -/
def Extent.lt : Extent → Extent → Bool
  | .below, .below => false
  | .below, _ => true
  | .ratio a b, .ratio c d => a * d < c * b
  | .ratio _ _, .above => true
  | _, _ => false

end Binary64

end TaskGraph
