/-
Module: TaskGraph.Text.Base64
Purpose: Reading bytes that are written as text in base 64.
Main exports:
  Base64.decode?
-/

namespace TaskGraph.Base64

/-- The six bits that a character stands for. -/
def sextet? (c : Char) : Option Nat :=
  let n := c.toNat
  if 0x41 ≤ n ∧ n ≤ 0x5a then some (n - 0x41)
  else if 0x61 ≤ n ∧ n ≤ 0x7a then some (n - 0x61 + 26)
  else if 0x30 ≤ n ∧ n ≤ 0x39 then some (n - 0x30 + 52)
  else if c = '+' then some 62
  else if c = '/' then some 63
  else none

/-- The byte that two neighbouring sextets complete, where `place` counts the
sextets of the group before the second one. -/
def byteAt (place previous sextet : Nat) : List UInt8 :=
  match place with
  | 1 => [UInt8.ofNat (previous * 4 + sextet / 16)]
  | 2 => [UInt8.ofNat (previous % 16 * 16 + sextet / 4)]
  | 3 => [UInt8.ofNat (previous % 4 * 64 + sextet)]
  | _ => []

/-- Read groups of four characters.  `place` counts the sextets of the group, the
last of which is `previous`, `pads` the padding signs after it, and `found` holds the
bytes in reverse.  A padding that completes a group ends the data; characters that
stand for nothing are passed over. -/
def decodeFrom (place previous pads : Nat) (found : List UInt8) : List Char → Option (List UInt8)
  | [] => if place = 0 then some found.reverse else none
  | c :: rest =>
    if c = '=' then
      if 2 ≤ place then
        if 4 ≤ place + pads + 1 then some found.reverse
        else decodeFrom place previous (pads + 1) found rest
      else decodeFrom place previous pads found rest
    else match sextet? c with
      | none => decodeFrom place previous pads found rest
      | some sextet =>
        decodeFrom ((place + 1) % 4) sextet 0 (byteAt place previous sextet ++ found) rest

/-- The bytes that a text writes, unless its last group is not complete. -/
def decode? (text : List Char) : Option (List UInt8) :=
  decodeFrom 0 0 0 [] text

end TaskGraph.Base64
