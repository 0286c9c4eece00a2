/-
Module: TaskGraph.Value.Slots
Purpose: The order in which a set keeps numbers.
Main exports:
  Value.arranged
-/
import TaskGraph.Value.Key

namespace TaskGraph.Value.Slots

/-! ### Words

Every number has a word of sixty-four bits: its remainder by a prime, below zero as the
complement.  Numbers that are the same have the same word. -/

/-- The prime, of which two to the power of sixty-one is one more. -/
def prime : Nat := Nat.pow 2 61 - 1

/-- The word of a remainder with a sign.  The word of minus one is that of minus two. -/
def word (isNegative : Bool) (remainder : Nat) : Nat :=
  if isNegative then (Nat.pow 2 64 - (if remainder = 1 then 2 else remainder)) % Nat.pow 2 64
  else remainder

/-- The remainder of a ratio whose denominator is a power of two.  Halving is the same as
doubling sixty times. -/
def remainder (num den : Nat) : Nat :=
  num * Nat.pow 2 (60 * Nat.log2 den % 61) % prime

/-- The word of a key that is a number. -/
def word? : Key → Option Nat
  | .number num den => some (word (num < 0) (remainder num.natAbs den))
  | .infinite isNegative => some (word isNegative 314159)
  | _ => none

/-! ### Slots

A set has a power of two of slots, eight or else more than twice as many as items.  An item
goes to the slot that the last bits of its word number, and if that is taken to one of the
next nine, or to where the other bits of the word lead. -/

/-- The number of slots for some items. -/
def slotCount (items : Nat) : Nat :=
  if items ≤ 4 then 8 else Nat.pow 2 (Nat.log2 (2 * items) + 1)

/-- The first free slot from `start` on, among as many as are looked at in a row.  Slots
near the end are looked at alone. -/
def nearFree? {α : Type} (slots : Array (Option α)) (start : Nat) : Option Nat :=
  let count := if start + 9 < slots.size then 10 else 1
  (List.range' start count).find? fun place => (slots.getD place none).isNone

/-- The slot for an item, where `bits` are the bits of its word that still count.  After
these the search comes by every slot. -/
def freeFrom {α : Type} (slots : Array (Option α)) : Nat → Nat → Nat → Nat
  | 0, _, start => start
  | fuel + 1, bits, start =>
    match nearFree? slots start with
    | some place => place
    | none =>
      let bits := bits / 32
      freeFrom slots fuel bits ((start * 5 + 1 + bits) % slots.size)

/-- Put an item with a word into its slot. -/
def put {α : Type} (slots : Array (Option α)) (item : Nat × α) : Array (Option α) :=
  let place := freeFrom slots (slots.size + 13) item.1 (item.1 % slots.size)
  slots.setIfInBounds place (some item.2)

/-- Items by slot. -/
def order {α : Type} (items : List (Nat × α)) : List α :=
  (items.foldl put (Array.replicate (slotCount items.length) none)).toList.filterMap id

end TaskGraph.Value.Slots

namespace TaskGraph

/-- The items of a set in order.  Numbers are in the order of their slots; where other items
are among them, all stay in the order in which they were written. -/
def Value.arranged (items : List Value) : List Value :=
  match items.mapM fun item => (item.key?.bind Slots.word?).map (·, item) with
  | some numbers => Slots.order numbers
  | none => items

end TaskGraph
