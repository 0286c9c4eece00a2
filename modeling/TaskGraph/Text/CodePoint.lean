/-
Module: TaskGraph.Text.CodePoint
Purpose: The numbers of characters: hexadecimal numerals, and code points that are
  written in two halves.
Main exports:
  Text.hexValue?, Text.hexNumber?, Text.isHighHalf, Text.isLowHalf, Text.joinHalves
-/

namespace TaskGraph.Text

/-- The value of a hexadecimal digit. -/
def hexValue? (c : Char) : Option Nat :=
  let n := c.toNat
  if 0x30 ≤ n ∧ n ≤ 0x39 then some (n - 0x30)
  else if 0x41 ≤ n ∧ n ≤ 0x46 then some (n - 0x37)
  else if 0x61 ≤ n ∧ n ≤ 0x66 then some (n - 0x57)
  else none

/-- The number that a run of hexadecimal digits writes. -/
def hexNumber? (digits : List Char) : Option Nat :=
  (digits.mapM hexValue?).map fun values => values.foldl (fun n d => 16 * n + d) 0

/-- `width` hexadecimal digits of a number, lower case, most significant first. -/
def hexDigits (width n : Nat) : List Char :=
  (List.range width).reverse.map fun place =>
    Nat.digitChar (n / Nat.pow 16 place % 16)

/-! ### Halves

The numbers from `0xd800` to `0xdfff` are no characters.  A first and a second half
after each other write one character beyond the first `0x10000`. -/

/-- The first half of a code point that is written in two. -/
def isHighHalf (n : Nat) : Bool := 0xd800 ≤ n && n ≤ 0xdbff

/-- The second half of a code point that is written in two. -/
def isLowHalf (n : Nat) : Bool := 0xdc00 ≤ n && n ≤ 0xdfff

/-- The code point that two halves write. -/
def joinHalves (high low : Nat) : Char :=
  Char.ofNat (0x10000 + (high - 0xd800) * 0x400 + (low - 0xdc00))

/-- The two halves of the number of a character beyond the first `0x10000`. -/
def splitHalves (n : Nat) : Nat × Nat :=
  (0xd800 + (n - 0x10000) / 0x400, 0xdc00 + (n - 0x10000) % 0x400)

end TaskGraph.Text
