/-
Module: TaskGraph.Proofs.Failure
Purpose: The error with which a computation fails: of a sequence that of its first part that
  fails, of a map over a list that of the first item that fails.
Main exports:
  bind_eq_error, mapM_eq_error, FailsOnly, Ends, faultOf?, faultOf?_bind, faultOf?_mapM,
  Alike.faultOf?_eq
-/
import TaskGraph.Proofs.Outcome

namespace TaskGraph

section Except

variable {ε α β : Type}

/-! ### Which part fails -/

/-- A sequence fails in its first part, or after it. -/
theorem bind_eq_error {first : Except ε α} {next : α → Except ε β} {e : ε} :
    first >>= next = .error e ↔ first = .error e ∨ ∃ a, first = .ok a ∧ next a = .error e := by
  cases first with
  | error other => simp [bind, Except.bind]
  | ok a => simp [bind, Except.bind]

theorem mapError_eq_error {ε' : Type} {f : ε → ε'} {x : Except ε α} {e : ε'} :
    x.mapError f = .error e ↔ ∃ other, x = .error other ∧ f other = e := by
  cases x with
  | error other => simp [Except.mapError]
  | ok a => simp [Except.mapError]

/-- A map over a list fails at the first item for which the function fails. -/
theorem mapM_eq_error {f : α → Except ε β} {xs : List α} {e : ε} :
    xs.mapM f = .error e ↔ ∃ before x after, xs = before ++ x :: after ∧
      (∀ y ∈ before, ∃ z, f y = .ok z) ∧ f x = .error e := by
  induction xs with
  | nil =>
      rw [List.mapM_nil]
      constructor
      · nofun
      · intro failed
        obtain ⟨before, x, after, split, -⟩ := failed
        simp at split
  | cons x rest inductionHypothesis =>
      simp only [List.mapM_cons, bind_eq_error, inductionHypothesis]
      constructor
      · intro failed
        rcases failed with first | ⟨y, first, ⟨before, z, after, rfl, earlier, later⟩ | last⟩
        · exact ⟨[], x, rest, rfl, by simp, first⟩
        · exact ⟨x :: before, z, after, rfl, List.forall_mem_cons.mpr ⟨⟨y, first⟩, earlier⟩, later⟩
        · obtain ⟨ys, -, ⟨⟩⟩ := last
      · intro failed
        obtain ⟨before, z, after, split, earlier, later⟩ := failed
        cases before with
        | nil =>
            obtain ⟨rfl, rfl⟩ := List.cons.inj split
            exact .inl later
        | cons w others =>
            obtain ⟨rfl, rfl⟩ := List.cons.inj split
            obtain ⟨⟨y, first⟩, earlier⟩ := List.forall_mem_cons.mp earlier
            exact .inr ⟨y, first, .inl ⟨others, z, after, rfl, earlier, later⟩⟩

/-- A computation fails only with errors that are allowed. -/
def FailsOnly (allowed : ε → Prop) (x : Except ε α) : Prop :=
  ∀ e, x = .error e → allowed e

namespace FailsOnly

variable {allowed : ε → Prop}

theorem ok (a : α) : FailsOnly allowed (.ok a : Except ε α) := by
  intro e failed
  cases failed

theorem error {e : ε} (allows : allowed e) : FailsOnly allowed (.error e : Except ε α) := by
  intro other failed
  cases failed
  exact allows

theorem bind {first : Except ε α} {next : α → Except ε β} (before : FailsOnly allowed first)
    (after : ∀ a, first = .ok a → FailsOnly allowed (next a)) :
    FailsOnly allowed (first >>= next) := by
  intro e failed
  rcases bind_eq_error.mp failed with early | ⟨a, returned, late⟩
  · exact before e early
  · exact after a returned e late

theorem mapM {f : α → Except ε β} {xs : List α} (each : ∀ x ∈ xs, FailsOnly allowed (f x)) :
    FailsOnly allowed (xs.mapM f) := by
  intro e failed
  obtain ⟨before, x, after, rfl, -, failure⟩ := mapM_eq_error.mp failed
  exact each x (by simp) e failure

theorem map {f : α → β} {x : Except ε α} (fails : FailsOnly allowed x) :
    FailsOnly allowed (x.map f) := by
  intro e failed
  cases x with
  | error other =>
      cases failed
      exact fails e rfl
  | ok a => cases failed

theorem ite {condition : Prop} [Decidable condition] {x y : Except ε α}
    (first : FailsOnly allowed x) (second : FailsOnly allowed y) :
    FailsOnly allowed (if condition then x else y) := by
  split
  · exact first
  · exact second

/-- A computation whose errors are told in another way. -/
theorem mapError {ε' : Type} {f : ε' → ε} {x : Except ε' α} (each : ∀ e, allowed (f e)) :
    FailsOnly allowed (x.mapError f) := by
  intro e failed
  obtain ⟨other, -, rfl⟩ := mapError_eq_error.mp failed
  exact each other

theorem foldlM {f : β → α → Except ε β} {xs : List α} {start : β}
    (each : ∀ state, ∀ x ∈ xs, FailsOnly allowed (f state x)) :
    FailsOnly allowed (xs.foldlM f start) := by
  induction xs generalizing start with
  | nil => exact .ok start
  | cons x rest inductionHypothesis =>
      rw [List.foldlM_cons]
      exact .bind (each start x (by simp)) fun next _ =>
        inductionHypothesis fun state y member => each state y (by simp [member])

/-- What returns something does not fail. -/
theorem of_exists {x : Except ε α} (returns : ∃ a, x = .ok a) : FailsOnly allowed x := by
  obtain ⟨a, rfl⟩ := returns
  exact .ok a

theorem imp {weaker : ε → Prop} {x : Except ε α} (fails : FailsOnly allowed x)
    (weaken : ∀ e, allowed e → weaker e) : FailsOnly weaker x :=
  fun e failed => weaken e (fails e failed)

end FailsOnly

/-- A computation returns something good, or fails with an error that is allowed. -/
def Ends (allowed : ε → Prop) (good : α → Prop) : Except ε α → Prop
  | .ok a => good a
  | .error e => allowed e

namespace Ends

variable {allowed : ε → Prop} {good : α → Prop}

theorem bind {better : β → Prop} {first : Except ε α} {next : α → Except ε β}
    (before : Ends allowed good first) (after : ∀ a, good a → Ends allowed better (next a)) :
    Ends allowed better (first >>= next) := by
  cases first with
  | ok a => exact after a before
  | error e => exact before

/-- What comes before has nothing to do with what is good. -/
theorem of_failsOnly {better : β → Prop} {first : Except ε α} {next : α → Except ε β}
    (before : FailsOnly allowed first) (after : ∀ a, Ends allowed better (next a)) :
    Ends allowed better (first >>= next) := by
  cases first with
  | ok a => exact after a
  | error e => exact before e rfl

theorem ite {condition : Prop} [Decidable condition] {x y : Except ε α}
    (first : Ends allowed good x) (second : Ends allowed good y) :
    Ends allowed good (if condition then x else y) := by
  split
  · exact first
  · exact second

end Ends

/-- A sequence fails as it may if its second part does after what is good. -/
theorem FailsOnly.of_ends {allowed : ε → Prop} {good : α → Prop} {first : Except ε α}
    {next : α → Except ε β} (before : Ends allowed good first)
    (after : ∀ a, good a → FailsOnly allowed (next a)) : FailsOnly allowed (first >>= next) := by
  cases first with
  | ok a => exact after a before
  | error e => exact .error before

/-! ### The error -/

/-- The error of a computation that failed. -/
def faultOf? : Except ε α → Option ε
  | .error e => some e
  | .ok _ => none

@[simp] theorem faultOf?_error (e : ε) : faultOf? (.error e : Except ε α) = some e := rfl

@[simp] theorem faultOf?_ok (a : α) : faultOf? (.ok a : Except ε α) = none := rfl

theorem faultOf?_eq_some {x : Except ε α} {e : ε} : faultOf? x = some e ↔ x = .error e := by
  cases x with
  | error other => simp
  | ok a => simp

theorem faultOf?_eq_none {x : Except ε α} : faultOf? x = none ↔ ∃ a, x = .ok a := by
  cases x with
  | error e => simp
  | ok a => simp

@[simp] theorem faultOf?_map {f : α → β} {x : Except ε α} :
    faultOf? (x.map f) = faultOf? x := by
  cases x with
  | error e => rfl
  | ok a => rfl

/-- A sequence whose second part fails in one way, whatever comes out of the first part. -/
theorem faultOf?_bind {x : Except ε α} {next : α → Except ε β} {later : Option ε}
    (each : ∀ a, x = .ok a → faultOf? (next a) = later) :
    faultOf? (x >>= next) = (faultOf? x).or later := by
  cases x with
  | error e => rfl
  | ok a => exact each a rfl

/-- A sequence whose second part cannot fail. -/
theorem faultOf?_bind_ok {f : α → β} {x : Except ε α} :
    faultOf? (x >>= fun a => .ok (f a)) = faultOf? x := by
  cases x with
  | error e => rfl
  | ok a => rfl

/-- A map over a list fails at the first item for which the function fails. -/
theorem faultOf?_mapM {f : α → Except ε β} {fault? : α → Option ε} {xs : List α}
    (each : ∀ x ∈ xs, faultOf? (f x) = fault? x) :
    faultOf? (xs.mapM f) = xs.findSome? fault? := by
  induction xs with
  | nil => rfl
  | cons x rest inductionHypothesis =>
      rw [List.mapM_cons, List.findSome?_cons, ← each x (by simp),
        ← inductionHypothesis fun y member => each y (by simp [member])]
      cases f x with
      | error e => rfl
      | ok y => exact faultOf?_bind_ok

/-- Computations that are alike fail alike. -/
theorem Alike.faultOf?_eq {Related : α → β → Prop} {x : Except ε α} {y : Except ε β}
    (alike : Alike Related x y) : faultOf? x = faultOf? y := by
  cases alike with
  | error e => rfl
  | ok related => rfl

end Except

end TaskGraph
