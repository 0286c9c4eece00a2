/-
Module: TaskGraph.Graph.Register
Purpose: Keys in the order in which they were added, with a fast way from a key to its
  place.  The table of places agrees with a search through the keys.
Main exports:
  Register, Register.find?, Register.push, Register.find?_eq
-/
import Std.Data.HashMap
import TaskGraph.Value.Key

namespace TaskGraph

/-- Keys in the order in which they were added, with the place of each. -/
structure Register where
  keys : Array Key := #[]
  places : Std.HashMap Key Nat := {}
  places_eq : ∀ key, places[key]? = keys.findIdx? (· == key) := by intro key; simp

namespace Register

/-- No keys. -/
def empty : Register := {}

instance : Inhabited Register := ⟨empty⟩

instance : Repr Register := ⟨fun register prec => reprPrec register.keys prec⟩

/-- The number of keys. -/
def size (register : Register) : Nat :=
  register.keys.size

theorem size_empty {α : Type} : (#[] : Array α).size = empty.size := rfl

/-- The place of a key, counted from zero. -/
def find? (register : Register) (key : Key) : Option Nat :=
  register.places[key]?

/-- The place of a key is that of the first key that equals it. -/
theorem find?_eq (register : Register) (key : Key) :
    register.find? key = register.keys.findIdx? (· == key) :=
  register.places_eq key

/-- Add a key that is not there. -/
def push (register : Register) (key : Key) (isNew : register.find? key = none) : Register where
  keys := register.keys.push key
  places := register.places.insert key register.keys.size
  places_eq := by
    intro other
    have found := register.places_eq other
    rw [find?, register.places_eq] at isNew
    rw [Std.HashMap.getElem?_insert, Array.findIdx?_push]
    by_cases h : key = other
    · subst h
      simp [isNew]
    · simp [h, found]

@[simp] theorem size_push (register : Register) (key : Key)
    (isNew : register.find? key = none) : (register.push key isNew).size = register.size + 1 := by
  simp [size, push]

/-- A new key is found at the end, and all others where they were. -/
theorem find?_push (register : Register) (key : Key) (isNew : register.find? key = none)
    (other : Key) :
    (register.push key isNew).find? other =
      if key = other then some register.size else register.find? other := by
  simp [find?, push, size, Std.HashMap.getElem?_insert]

/-- A place that is found lies within the keys. -/
theorem lt_size_of_find? {register : Register} {key : Key} {place : Nat}
    (found : register.find? key = some place) : place < register.size := by
  rw [find?_eq, Array.findIdx?_eq_some_iff_getElem] at found
  exact found.1

end Register

end TaskGraph
