/-
Module: TaskGraph.Text.Digit
Purpose: Digit characters and their values.
Main exports:
  Text.decimal?, Text.isDigit, Text.isNumeral, Text.isPlainDigit, Text.isPlainNumeral
-/
import TaskGraph.Text.Symbol

namespace TaskGraph.Text

/-! ### Decimal digits and other digits

Two properties of Unicode 14 are told apart.  A *decimal* digit is one of ten
consecutive characters that write the numbers of a positional system.  A *digit*
is a decimal digit or a character such as a superscript, which denotes a digit
but does not take part in positional numbers. -/

/-- The zeros of the decimal systems above ASCII.  The nine characters after a
zero are the other digits of its system. -/
def decimalZeros : List Nat :=
  [
    0x660, 0x6f0, 0x7c0, 0x966, 0x9e6, 0xa66, 0xae6, 0xb66, 0xbe6, 0xc66,
    0xce6, 0xd66, 0xde6, 0xe50, 0xed0, 0xf20, 0x1040, 0x1090, 0x17e0, 0x1810,
    0x1946, 0x19d0, 0x1a80, 0x1a90, 0x1b50, 0x1bb0, 0x1c40, 0x1c50, 0xa620, 0xa8d0,
    0xa900, 0xa9d0, 0xa9f0, 0xaa50, 0xabf0, 0xff10, 0x104a0, 0x10d30, 0x11066, 0x110f0,
    0x11136, 0x111d0, 0x112f0, 0x11450, 0x114d0, 0x11650, 0x116c0, 0x11730, 0x118e0, 0x11950,
    0x11c50, 0x11d50, 0x11da0, 0x16a60, 0x16ac0, 0x16b50, 0x1d7ce, 0x1d7d8, 0x1d7e2, 0x1d7ec,
    0x1d7f6, 0x1e140, 0x1e2f0, 0x1e950, 0x1fbf0
  ]

/-- Ranges of digits that are not decimal. -/
def otherDigits : List (Nat × Nat) :=
  [
    (0xb2, 0xb3), (0xb9, 0xb9), (0x1369, 0x1371), (0x19da, 0x19da), (0x2070, 0x2070),
    (0x2074, 0x2079), (0x2080, 0x2089), (0x2460, 0x2468), (0x2474, 0x247c), (0x2488, 0x2490),
    (0x24ea, 0x24ea), (0x24f5, 0x24fd), (0x24ff, 0x24ff), (0x2776, 0x277e), (0x2780, 0x2788),
    (0x278a, 0x2792), (0x10a40, 0x10a43), (0x10e60, 0x10e68), (0x11052, 0x1105a), (0x1f100, 0x1f10a)
  ]

/-- The value of a decimal digit. -/
def decimal? (c : Char) : Option Nat :=
  let n := c.toNat
  if n < 0x80 then
    if 0x30 ≤ n ∧ n ≤ 0x39 then some (n - 0x30) else none
  else
    (decimalZeros.find? fun start => start ≤ n && n < start + 10).map (n - ·)

/-- A digit of any kind. -/
def isDigit (c : Char) : Bool :=
  let n := c.toNat
  if n < 0x80 then 0x30 ≤ n && n ≤ 0x39
  else (decimal? c).isSome || otherDigits.any fun range => range.1 ≤ n && n ≤ range.2

/-- A non-empty run of digits of any kind. -/
def isNumeral (token : List Symbol) : Bool :=
  !token.isEmpty && token.all (Symbol.is isDigit)

/-- One of the ten ASCII digits. -/
def isPlainDigit (c : Char) : Bool :=
  0x30 ≤ c.toNat && c.toNat ≤ 0x39

/-- The ASCII digit with the value of a decimal digit; any other character as it is. -/
def plainDigit (c : Char) : Char :=
  match decimal? c with
  | some value => Char.ofNat (0x30 + value)
  | none => c

/-- A non-empty run of ASCII digits, as characters. -/
def isPlainRun (cs : List Char) : Bool :=
  !cs.isEmpty && cs.all isPlainDigit

/-- A non-empty run of ASCII digits. -/
def isPlainNumeral (token : List Symbol) : Bool :=
  !token.isEmpty && token.all (Symbol.is isPlainDigit)

end TaskGraph.Text
