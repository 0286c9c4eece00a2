/-
Module: TaskGraph.Decimal.Shortest
Purpose: The fewest decimal digits that read back as a given double-precision
  number.
Main exports:
  Decimal.shortest
-/
import TaskGraph.Decimal.Binary64

namespace TaskGraph.Decimal

/-! ### Decimal grids

The numbers with `n` significant digits near `x` form a grid with one step
`10 ^ k`.  If any of them reads back as `x`, one of the two around `x` does, so
only these are tried, for growing `n`. -/

/-- The digit count of a number in decimal. -/
def digitCount (n : Nat) : Nat :=
  (toString n).length

/-- The power of ten of the first significant digit of a positive ratio. -/
def leadingPower (num den : Nat) : Int :=
  if den ≤ num then (digitCount (num / den) : Int) - 1
  else
    match (List.range 400).find? fun j => den ≤ num * Nat.pow 10 j with
    | some j => -(j : Int)
    | none => -400

/-- Numerator and denominator of `num / den / 10 ^ power`. -/
def onGrid (num den : Nat) (power : Int) : Nat × Nat :=
  if 0 ≤ power then (num, den * Nat.pow 10 power.toNat)
  else (num * Nat.pow 10 (-power).toNat, den)

/-- Of the two grid points around the ratio, the one that reads back as `x`; of
two that do, the nearer, and the even one if both are equally near. -/
def gridPoint? (x : Binary64) (num den : Nat) (power : Int) : Option (Nat × Int) :=
  let (n, d) := onGrid num den power
  let low := n / d
  let reads (c : Nat) : Bool := (Binary64.ofDecimal false c power).magnitude == x.magnitude
  match reads low, reads (low + 1) with
  | true, true => some (Binary64.roundHalfEven n d, power)
  | true, false => some (low, power)
  | false, true => some (low + 1, power)
  | false, false => none

/-- Drop the zeros at the end of a whole number of at most eighteen digits,
raising the power of ten. -/
def dropZeros (digits : Nat) (power : Int) : Nat × Int :=
  (List.range 18).foldl (fun (d, p) _ => if d ≠ 0 ∧ d % 10 = 0 then (d / 10, p + 1) else (d, p))
    (digits, power)

/-- The fewest digits that read back as the finite number `x`, and the power of
ten of the last of them.  The sign is left out. -/
def shortest (x : Binary64) : Nat × Int :=
  match x.toRatio? with
  | none => (0, 0)
  | some (num, den) =>
    let num := num.natAbs
    if num = 0 then (0, 0)
    else
      let first := leadingPower num den
      match (List.range 17).findSome? fun (n : Nat) => gridPoint? x num den (first - n) with
      | some (digits, power) => dropZeros digits power
      | none => (0, 0)

end TaskGraph.Decimal
