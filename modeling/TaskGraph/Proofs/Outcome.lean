/-
Module: TaskGraph.Proofs.Outcome
Purpose: When computations that may fail succeed: sequences, maps over lists, and folds; and
  when two of them fail alike or return related results.
Main exports:
  bind_eq_ok, mapM_eq_ok, mapM_eq_some, foldlM_invariant, foldlM_read_eq_ok, Alike, Alike.foldlM,
  Alike.foldlM_mapM, exists_foldlM_eq_ok
-/
import Mathlib
import TaskGraph.Log

namespace TaskGraph

section Except

variable {ε α β : Type}

theorem ok_bind (a : α) (next : α → Except ε β) : (.ok a : Except ε α) >>= next = next a := rfl

/-- A sequence succeeds through its first part. -/
theorem bind_eq_ok {first : Except ε α} {next : α → Except ε β} {b : β} :
    first >>= next = .ok b ↔ ∃ a, first = .ok a ∧ next a = .ok b := by
  cases first with
  | error e => simp [bind, Except.bind]
  | ok a => simp [bind, Except.bind]

/-- A sequence that starts with a check succeeds through it. -/
theorem check_bind_eq_ok {check : Except ε Unit} {next : Unit → Except ε β} {b : β} :
    check >>= next = .ok b ↔ check = .ok () ∧ next () = .ok b := by
  rw [bind_eq_ok]
  exact ⟨fun ⟨(), passed, later⟩ => ⟨passed, later⟩, fun ⟨passed, later⟩ => ⟨(), passed, later⟩⟩

theorem map_eq_ok {f : α → β} {x : Except ε α} {b : β} :
    x.map f = .ok b ↔ ∃ a, x = .ok a ∧ f a = b := by
  cases x with
  | error e => simp [Except.map]
  | ok a => simp [Except.map]

theorem mapError_eq_ok {ε' : Type} {f : ε → ε'} {x : Except ε α} {a : α} :
    x.mapError f = .ok a ↔ x = .ok a := by
  cases x with
  | error e => simp [Except.mapError]
  | ok b => simp [Except.mapError]

theorem toOption_eq_some {x : Except ε α} {a : α} : x.toOption = some a ↔ x = .ok a := by
  cases x with
  | error e => simp [Except.toOption]
  | ok b => simp [Except.toOption]

theorem toOption_map {f : α → β} {x : Except ε α} : (x.map f).toOption = x.toOption.map f := by
  cases x with
  | error e => rfl
  | ok a => rfl

theorem toOption_bind {x : Except ε α} {next : α → Except ε β} :
    (x >>= next).toOption = x.toOption.bind fun a => (next a).toOption := by
  cases x with
  | error e => rfl
  | ok a => rfl

/-- A map over a list succeeds item by item. -/
theorem mapM_eq_ok {f : α → Except ε β} {xs : List α} {ys : List β} :
    xs.mapM f = .ok ys ↔ List.Forall₂ (fun x y => f x = .ok y) xs ys := by
  induction xs generalizing ys with
  | nil =>
      rw [List.mapM_nil]
      constructor
      · intro same
        cases same
        exact .nil
      · intro same
        cases same
        rfl
  | cons x rest inductionHypothesis =>
      simp only [List.mapM_cons, bind_eq_ok, inductionHypothesis]
      constructor
      · intro steps
        rcases steps with ⟨y, first, others, later, ⟨⟩⟩
        exact .cons first later
      · intro related
        rcases related with _ | ⟨first, later⟩
        exact ⟨_, first, _, later, rfl⟩

/-- A map over a list of which every item succeeds returns the results. -/
theorem mapM_eq_ok_map {f : α → Except ε β} {result : α → β} {xs : List α}
    (each : ∀ x ∈ xs, f x = .ok (result x)) : xs.mapM f = .ok (xs.map result) := by
  rw [mapM_eq_ok, List.forall₂_map_right_iff, List.forall₂_same]
  exact each

/-- A map over a list of which every item succeeds returns something. -/
theorem exists_mapM_eq_ok {f : α → Except ε β} {xs : List α}
    (each : ∀ x ∈ xs, ∃ y, f x = .ok y) : ∃ ys, xs.mapM f = .ok ys := by
  induction xs with
  | nil => exact ⟨[], List.mapM_nil⟩
  | cons x rest inductionHypothesis =>
      obtain ⟨y, first⟩ := each x (by simp)
      obtain ⟨ys, later⟩ := inductionHypothesis fun z member => each z (by simp [member])
      exact ⟨y :: ys, mapM_eq_ok.mpr (.cons first (mapM_eq_ok.mp later))⟩

/-- Where a map over a list succeeds, it does so for every item. -/
theorem exists_of_mapM_eq_ok {f : α → Except ε β} {xs : List α} {ys : List β}
    (run : xs.mapM f = .ok ys) {x : α} (member : x ∈ xs) : ∃ y ∈ ys, f x = .ok y := by
  induction mapM_eq_ok.mp run with
  | nil => cases member
  | cons first _ inductionHypothesis =>
      rcases List.mem_cons.mp member with rfl | later
      · exact ⟨_, by simp, first⟩
      · obtain ⟨y, inside, returned⟩ := inductionHypothesis (mapM_eq_ok.mpr ‹_›) later
        exact ⟨y, by simp [inside], returned⟩

/-- A map over a list succeeds where a relation holds item by item, if the function
succeeds on the items of the list where the relation holds. -/
theorem mapM_eq_ok_iff_of_mem {f : α → Except ε β} {Related : α → β → Prop} {xs : List α}
    {ys : List β} (each : ∀ x ∈ xs, ∀ y, f x = .ok y ↔ Related x y) :
    xs.mapM f = .ok ys ↔ List.Forall₂ Related xs ys := by
  rw [mapM_eq_ok]
  induction xs generalizing ys with
  | nil => simp
  | cons x rest inductionHypothesis =>
      have later {others : List β} : List.Forall₂ (fun y z => f y = .ok z) rest others ↔
          List.Forall₂ Related rest others :=
        inductionHypothesis fun y member => each y (by simp [member])
      simp only [List.forall₂_cons_left_iff, each x (by simp), later]

/-- What holds of each result of a function holds item by item after a map. -/
theorem forall₂_of_mapM_eq_ok {f : α → Except ε β} {Related : α → β → Prop} {xs : List α}
    {ys : List β} (run : xs.mapM f = .ok ys)
    (each : ∀ x ∈ xs, ∀ y, f x = .ok y → Related x y) : List.Forall₂ Related xs ys := by
  have both := (mapM_eq_ok_iff_of_mem fun x member y =>
    ⟨fun returned => And.intro returned (each x member y returned), And.left⟩).mp run
  exact both.imp fun _ _ => And.right

/-- A map over a list of which every item succeeds returns results that are related to the items
where each of them is. -/
theorem exists_mapM_related {f : α → Except ε β} {Related : α → β → Prop} {xs : List α}
    (each : ∀ x ∈ xs, ∃ y, f x = .ok y ∧ Related x y) :
    ∃ ys, xs.mapM f = .ok ys ∧ List.Forall₂ Related xs ys := by
  obtain ⟨ys, run⟩ := exists_mapM_eq_ok fun x member => (each x member).imp fun _ => And.left
  refine ⟨ys, run, forall₂_of_mapM_eq_ok run fun x member y returned => ?_⟩
  obtain ⟨z, again, related⟩ := each x member
  cases returned.symm.trans again
  exact related

/-- A map over a list succeeds where it does so for every item. -/
theorem exists_mapM_eq_ok_iff {f : α → Except ε β} {xs : List α} :
    (∃ ys, xs.mapM f = .ok ys) ↔ ∀ x ∈ xs, ∃ y, f x = .ok y := by
  refine ⟨fun succeeds x member => ?_, exists_mapM_eq_ok⟩
  obtain ⟨ys, run⟩ := succeeds
  obtain ⟨y, -, returned⟩ := exists_of_mapM_eq_ok run member
  exact ⟨y, returned⟩

/-- A map over a list that succeeds keeps what is found in each item. -/
theorem filterMap_of_mapM_eq_ok {f : α → Except ε β} {found? : α → Option β}
    {xs : List α} {ys : List β} (run : xs.mapM f = .ok ys)
    (each : ∀ x y, f x = .ok y → found? x = some y) : xs.filterMap found? = ys := by
  induction mapM_eq_ok.mp run with
  | nil => rfl
  | cons first later inductionHypothesis =>
      rw [List.filterMap_cons_some (each _ _ first), inductionHypothesis (mapM_eq_ok.mpr later)]

/-- Maps over lists whose items are related are one if the functions agree on related items. -/
theorem mapM_eq_of_forall₂ {γ : Type} {f : α → Except ε γ} {g : β → Except ε γ}
    {Related : α → β → Prop} {xs : List α} {ys : List β} (related : List.Forall₂ Related xs ys)
    (each : ∀ x y, Related x y → f x = g y) : xs.mapM f = ys.mapM g := by
  induction related with
  | nil => rfl
  | cons first _ inductionHypothesis =>
      rw [List.mapM_cons, List.mapM_cons, each _ _ first, inductionHypothesis]

/-- Maps over lists succeed alike if the functions do so item by item. -/
theorem toOption_mapM_eq {γ : Type} {f : α → Except ε γ} {g : β → Except ε γ} {xs : List α}
    {ys : List β} (related : List.Forall₂ (fun x y => (f x).toOption = (g y).toOption) xs ys) :
    (xs.mapM f).toOption = (ys.mapM g).toOption := by
  induction related with
  | nil => rfl
  | cons first _ inductionHypothesis =>
      simp only [List.mapM_cons, toOption_bind, first, inductionHypothesis]

/-- Folds over lists whose items are related are one if the steps agree on related items. -/
theorem foldlM_eq_of_forall₂ {σ : Type} {step : σ → α → Except ε σ} {other : σ → β → Except ε σ}
    {Related : α → β → Prop} {xs : List α} {ys : List β} (related : List.Forall₂ Related xs ys)
    (each : ∀ state x y, Related x y → step state x = other state y) (start : σ) :
    xs.foldlM step start = ys.foldlM other start := by
  induction related generalizing start with
  | nil => rfl
  | cons first _ inductionHypothesis =>
      rw [List.foldlM_cons, List.foldlM_cons, each start _ _ first]
      exact bind_congr inductionHypothesis

/-- What the steps of a fold each add at the end of a view of the state is added by the fold, one
after the other. -/
theorem foldlM_appends {σ : Type} {step : σ → α → Except ε σ} {view : σ → List β}
    {block : α → List β} {xs : List α} {start final : σ}
    (each : ∀ x ∈ xs, ∀ state next, step state x = .ok next → view next = view state ++ block x)
    (run : xs.foldlM step start = .ok final) : view final = view start ++ xs.flatMap block := by
  induction xs generalizing start with
  | nil =>
      cases run
      simp
  | cons x rest inductionHypothesis =>
      rw [List.foldlM_cons, bind_eq_ok] at run
      obtain ⟨next, first, later⟩ := run
      rw [inductionHypothesis (fun y member => each y (by simp [member])) later,
        each x (by simp) start next first, List.flatMap_cons, List.append_assoc]

/-- What every step keeps holds after all steps. -/
theorem foldlM_invariant {f : β → α → Except ε β} {Kept : β → Prop} {xs : List α} {start final : β}
    (step : ∀ state x next, x ∈ xs → Kept state → f state x = .ok next → Kept next)
    (begins : Kept start) (run : xs.foldlM f start = .ok final) : Kept final := by
  induction xs generalizing start with
  | nil =>
      cases run
      exact begins
  | cons x rest inductionHypothesis =>
      rw [List.foldlM_cons, bind_eq_ok] at run
      obtain ⟨next, first, later⟩ := run
      exact inductionHypothesis (fun state y next member => step state y next (by simp [member]))
        (step start x next (by simp) begins first) later

/-- Where every step of a fold adds one item that is related to what it is given, the items that
are added are related to what the steps are given, one by one. -/
theorem exists_forall₂_of_foldlM {σ : Type} {step : σ → α → Except ε σ} (view : σ → List β)
    (Related : α → β → Prop) (Kept : σ → Prop) {xs : List α} {start final : σ}
    (each : ∀ state x next, Kept state → step state x = .ok next →
      Kept next ∧ ∃ y, view next = view state ++ [y] ∧ Related x y)
    (begins : Kept start) (run : xs.foldlM step start = .ok final) :
    Kept final ∧ ∃ ys, view final = view start ++ ys ∧ List.Forall₂ Related xs ys := by
  induction xs generalizing start with
  | nil =>
      cases run
      exact ⟨begins, [], (List.append_nil _).symm, .nil⟩
  | cons x rest inductionHypothesis =>
      rw [List.foldlM_cons, bind_eq_ok] at run
      obtain ⟨next, first, later⟩ := run
      obtain ⟨kept, y, added, related⟩ := each start x next begins first
      obtain ⟨ends, ys, others, all⟩ := inductionHypothesis kept later
      exact ⟨ends, y :: ys, by rw [others, added, List.append_assoc]; rfl, .cons related all⟩

/-- A fold in which all items are read does not fail. -/
theorem foldlM_eq_ok_foldl {σ γ : Type} {read : α → Except ε γ} {value : α → γ}
    {step : σ → α → γ → σ} {xs : List α} (each : ∀ x ∈ xs, read x = .ok (value x)) (start : σ) :
    xs.foldlM (fun state x => do .ok (step state x (← read x))) start =
      .ok (xs.foldl (fun state x => step state x (value x)) start) := by
  induction xs generalizing start with
  | nil => rfl
  | cons x rest inductionHypothesis =>
      obtain ⟨first, later⟩ := List.forall_mem_cons.mp each
      rw [List.foldlM_cons, first, ok_bind, ok_bind, inductionHypothesis later, List.foldl_cons]

/-- A fold that reads each item before a step is one over what is read, where all is read. -/
theorem foldlM_read_eq_ok {γ : Type} {read : α → Except ε γ} {step : β → γ → Except ε β}
    {xs : List α} {start final : β} :
    xs.foldlM (fun state x => read x >>= step state) start = .ok final ↔
      ∃ ys, xs.mapM read = .ok ys ∧ ys.foldlM step start = .ok final := by
  induction xs generalizing start with
  | nil =>
      rw [List.mapM_nil]
      constructor
      · exact fun run => ⟨[], rfl, run⟩
      · intro run
        obtain ⟨ys, ⟨⟩, run⟩ := run
        exact run
  | cons x rest inductionHypothesis =>
      simp only [List.foldlM_cons, List.mapM_cons, bind_eq_ok, inductionHypothesis]
      constructor
      · intro run
        obtain ⟨next, ⟨y, first, stepped⟩, ys, later, run⟩ := run
        refine ⟨y :: ys, ⟨y, first, ys, later, rfl⟩, ?_⟩
        rw [List.foldlM_cons, stepped]
        exact run
      · intro run
        obtain ⟨_, ⟨y, first, ys, later, ⟨⟩⟩, run⟩ := run
        rw [List.foldlM_cons, bind_eq_ok] at run
        obtain ⟨next, stepped, run⟩ := run
        exact ⟨next, ⟨y, first, stepped⟩, ys, later, run⟩

/-- Two computations fail with one error, or return related results. -/
inductive Alike (Related : α → β → Prop) : Except ε α → Except ε β → Prop where
  | error (e : ε) : Alike Related (.error e) (.error e)
  | ok {a : α} {b : β} (related : Related a b) : Alike Related (.ok a) (.ok b)

namespace Alike

theorem bind {α' β' : Type} {Before : α → β → Prop} {After : α' → β' → Prop} {x : Except ε α}
    {y : Except ε β} {f : α → Except ε α'} {g : β → Except ε β'} (first : Alike Before x y)
    (later : ∀ a b, Before a b → Alike After (f a) (g b)) : Alike After (x >>= f) (y >>= g) := by
  cases first with
  | error e => exact .error e
  | ok related => exact later _ _ related

/-- Steps that are alike make runs that are alike. -/
theorem foldlM {γ : Type} {Related : α → β → Prop} {step : α → γ → Except ε α}
    {other : β → γ → Except ε β} {xs : List γ} {a : α} {b : β}
    (each : ∀ a b x, x ∈ xs → Related a b → Alike Related (step a x) (other b x))
    (start : Related a b) : Alike Related (xs.foldlM step a) (xs.foldlM other b) := by
  induction xs generalizing a b with
  | nil => exact .ok start
  | cons x rest inductionHypothesis =>
      rw [List.foldlM_cons, List.foldlM_cons]
      apply bind (each a b x (by simp) start)
      intro next after related
      exact inductionHypothesis (fun a b y member => each a b y (by simp [member])) related

theorem map_right {γ : Type} {Before : α → β → Prop} {After : α → γ → Prop} {f : β → γ}
    {x : Except ε α} {y : Except ε β} (alike : Alike Before x y)
    (later : ∀ a b, Before a b → After a (f b)) : Alike After x (y.map f) := by
  cases alike with
  | error e => exact .error e
  | ok related => exact .ok (later _ _ related)

/-- Results that are related by a function are its values. -/
theorem map_eq {f : α → β} {x : Except ε α} {y : Except ε β}
    (alike : Alike (fun a b => f a = b) x y) : x.map f = y := by
  cases alike with
  | error e => rfl
  | ok related => exact congrArg Except.ok related

theorem eq {x y : Except ε α} (alike : Alike (fun a b => a = b) x y) : x = y := by
  cases alike with
  | error e => rfl
  | ok related => exact congrArg Except.ok related

theorem imp {Related Weaker : α → β → Prop} {x : Except ε α} {y : Except ε β}
    (alike : Alike Related x y) (weaken : ∀ a b, Related a b → Weaker a b) :
    Alike Weaker x y := by
  cases alike with
  | error e => exact .error e
  | ok related => exact .ok (weaken _ _ related)

/-- What is related to a result is related to what the computation returns. -/
theorem with_result {Related : α → β → Prop} {x : Except ε α} {y : Except ε β}
    (alike : Alike Related x y) :
    Alike (fun a b => Related a b ∧ y = .ok b) x y := by
  cases alike with
  | error e => exact .error e
  | ok related => exact .ok ⟨related, rfl⟩

/-- What is alike to a computation that returns a result returns a related one. -/
theorem exists_of_ok {Related : α → β → Prop} {x : Except ε α} {b : β}
    (alike : Alike Related x (.ok b)) : ∃ a, x = .ok a ∧ Related a b := by
  cases alike with
  | ok related => exact ⟨_, rfl, related⟩

/-- A computation is alike only to one that returns a related result, if it returns one. -/
theorem exists_right {Related : α → β → Prop} {a : α} {y : Except ε β}
    (alike : Alike Related (.ok a) y) : ∃ b, y = .ok b ∧ Related a b := by
  cases alike with
  | ok related => exact ⟨_, rfl, related⟩

theorem of_exists {Related : α → β → Prop} {x : Except ε α} {b : β}
    (returns : ∃ a, x = .ok a ∧ Related a b) : Alike Related x (.ok b) := by
  obtain ⟨a, rfl, related⟩ := returns
  exact .ok related

/-- Two computations that are alike to a third one are alike. -/
theorem join {γ : Type} {Left : α → γ → Prop} {Right : β → γ → Prop} {Both : α → β → Prop}
    {x : Except ε α} {y : Except ε β} {z : Except ε γ} (first : Alike Left x z)
    (second : Alike Right y z) (both : ∀ a b c, Left a c → Right b c → Both a b) :
    Alike Both x y := by
  cases first with
  | error e =>
      cases second with
      | error e => exact .error e
  | ok left =>
      cases second with
      | ok right => exact .ok (both _ _ _ left right)

/-- A fold whose steps each add a block to what is collected is alike to the blocks, one
after the other.  What is known of the state may speak of the items that are left. -/
theorem foldlM_mapM {σ γ : Type} (Collected : List γ → σ → List β → Prop)
    {step : σ → γ → Except ε σ} {block : γ → Except ε (List β)} {xs : List γ} {state : σ}
    {done : List β}
    (each : ∀ x rest state done, Collected (x :: rest) state done →
      Alike (fun next added => Collected rest next (done ++ added)) (step state x) (block x))
    (start : Collected xs state done) :
    Alike (fun final blocks => Collected [] final (done ++ blocks.flatten))
      (xs.foldlM step state) (xs.mapM block) := by
  induction xs generalizing state done with
  | nil =>
      rw [List.mapM_nil, List.foldlM_nil]
      exact .ok (by simpa using start)
  | cons x rest inductionHypothesis =>
      rw [List.foldlM_cons, List.mapM_cons]
      apply bind (each x rest state done start)
      intro next added collected
      rw [← bind_pure (rest.foldlM step next)]
      apply bind (inductionHypothesis collected)
      intro final blocks collected
      exact .ok (by simpa only [List.flatten_cons, List.append_assoc] using collected)

/-- The same where what is known of the state does not depend on the items that are left. -/
theorem foldlM_mapM_of_mem {σ γ : Type} (Collected : σ → List β → Prop)
    {step : σ → γ → Except ε σ} {block : γ → Except ε (List β)} {xs : List γ} {state : σ}
    {done : List β}
    (each : ∀ x, x ∈ xs → ∀ state done, Collected state done →
      Alike (fun next added => Collected next (done ++ added)) (step state x) (block x))
    (start : Collected state done) :
    Alike (fun final blocks => Collected final (done ++ blocks.flatten))
      (xs.foldlM step state) (xs.mapM block) := by
  apply (foldlM_mapM (fun rest state done => (∀ x ∈ rest, x ∈ xs) ∧ Collected state done) ?_
    ⟨fun x member => member, start⟩).imp
  · intro final blocks whole
    exact whole.2
  · intro x rest state done known
    rcases known with ⟨inside, collected⟩
    apply (each x (inside x (by simp)) state done collected).imp
    intro next added collected
    exact ⟨fun y member => inside y (by simp [member]), collected⟩

end Alike

/-- A fold whose steps succeed and each add a block to what is collected collects all blocks. -/
theorem exists_foldlM_eq_ok {σ γ : Type} (Collected : σ → List β → Prop)
    {step : σ → γ → Except ε σ} {block : γ → List β} {xs : List γ} {state : σ} {done : List β}
    (each : ∀ x, x ∈ xs → ∀ state done, Collected state done →
      ∃ next, step state x = .ok next ∧ Collected next (done ++ block x))
    (start : Collected state done) :
    ∃ final, xs.foldlM step state = .ok final ∧ Collected final (done ++ xs.flatMap block) := by
  have blocks : xs.mapM (fun x => (.ok (block x) : Except ε (List β))) = .ok (xs.map block) :=
    List.mapM_pure
  have run := Alike.foldlM_mapM_of_mem Collected
    (fun x member state done collected => .of_exists (each x member state done collected)) start
  rw [blocks] at run
  exact run.exists_of_ok

end Except

/-- A fold that logs has the outcome of the fold of the outcomes. -/
theorem Logged.outcome_foldlM {α β : Type} (step : β → α → Logged β) (xs : List α) (start : β) :
    (xs.foldlM step start).outcome = xs.foldlM (fun state x => (step state x).outcome) start := by
  induction xs generalizing start with
  | nil => rfl
  | cons x rest inductionHypothesis =>
      simp only [List.foldlM_cons, Logged.outcome_bind, inductionHypothesis]

/-- An attempt that failed has left the state as it was. -/
theorem settle_of_error {σ α : Type} {state : σ} {attempt : Except Error (σ × α)} {e : Error}
    (failed : (settle state attempt).2 = .error e) : (settle state attempt).1 = state := by
  cases attempt with
  | error _ => rfl
  | ok _ => cases failed

theorem snd_settle_eq_ok {σ α : Type} {state : σ} {attempt : Except Error (σ × α)} {a : α} :
    (settle state attempt).2 = .ok a ↔ ∃ next, attempt = .ok (next, a) := by
  cases attempt with
  | error e => simp [settle]
  | ok result => simp [settle, Prod.ext_iff]

/-- Items that are related through something between them are related to a list of that. -/
theorem exists_between {α β γ : Type} {Before : α → γ → Prop} {After : γ → β → Prop} {xs : List α}
    {ys : List β} (related : List.Forall₂ (fun x y => ∃ z, Before x z ∧ After z y) xs ys) :
    ∃ zs, List.Forall₂ Before xs zs ∧ List.Forall₂ After zs ys := by
  induction related with
  | nil => exact ⟨[], .nil, .nil⟩
  | cons first _ inductionHypothesis =>
      obtain ⟨z, before, after⟩ := first
      obtain ⟨zs, allBefore, allAfter⟩ := inductionHypothesis
      exact ⟨z :: zs, .cons before allBefore, .cons after allAfter⟩

theorem forall₂_and_right {α β : Type} {Related : α → β → Prop} {holds : β → Prop}
    {xs : List α} {ys : List β} :
    List.Forall₂ (fun x y => Related x y ∧ holds y) xs ys ↔
      List.Forall₂ Related xs ys ∧ ∀ y ∈ ys, holds y := by
  induction ys generalizing xs with
  | nil => simp
  | cons y rest inductionHypothesis =>
      simp only [List.forall₂_cons_right_iff, inductionHypothesis, List.forall_mem_cons]
      constructor
      · intro both
        rcases both with ⟨x, others, ⟨related, first⟩, ⟨later, all⟩, rfl⟩
        exact ⟨⟨x, others, related, later, rfl⟩, first, all⟩
      · intro both
        rcases both with ⟨⟨x, others, related, later, rfl⟩, first, all⟩
        exact ⟨x, others, ⟨related, first⟩, ⟨later, all⟩, rfl⟩

/-- Two lists have the same images where their items have. -/
theorem map_eq_map_iff_forall₂ {α β γ : Type} {f : α → γ} {g : β → γ} {xs : List α}
    {ys : List β} : xs.map f = ys.map g ↔ List.Forall₂ (fun x y => f x = g y) xs ys := by
  rw [← List.forall₂_eq_eq_eq, List.forall₂_map_left_iff, List.forall₂_map_right_iff]

/-- Items that are related are so at the same places. -/
theorem forall₂_zipIdx {α β : Type} {Related : α → β → Prop} {xs : List α} {ys : List β}
    (related : List.Forall₂ Related xs ys) (start : Nat) :
    List.Forall₂ (fun x y => Related x.1 y.1 ∧ x.2 = y.2) (xs.zipIdx start) (ys.zipIdx start) := by
  induction related generalizing start with
  | nil => exact .nil
  | cons first _ inductionHypothesis =>
      rw [List.zipIdx_cons, List.zipIdx_cons]
      exact .cons ⟨first, rfl⟩ (inductionHypothesis (start + 1))

/-- What holds of each result of a function holds of all results of a map. -/
theorem forall_mem_of_mapM_eq_ok {ε α β : Type} {f : α → Except ε β} {holds : β → Prop}
    {xs : List α} {ys : List β} (run : xs.mapM f = .ok ys)
    (each : ∀ x ∈ xs, ∀ y, f x = .ok y → holds y) : ∀ y ∈ ys, holds y := by
  have both := forall₂_of_mapM_eq_ok run fun x member y returned =>
    And.intro returned (each x member y returned)
  exact (forall₂_and_right.mp both).2

/-- A map over a list into optional values succeeds item by item. -/
theorem mapM_eq_some {α β : Type} {f : α → Option β} {xs : List α} {ys : List β} :
    xs.mapM f = some ys ↔ List.Forall₂ (fun x y => f x = some y) xs ys := by
  induction xs generalizing ys with
  | nil =>
      rw [List.mapM_nil]
      constructor
      · intro same
        cases same
        exact .nil
      · intro same
        cases same
        rfl
  | cons x rest inductionHypothesis =>
      simp only [List.mapM_cons, Option.bind_eq_bind, Option.bind_eq_some_iff,
        inductionHypothesis]
      constructor
      · intro steps
        rcases steps with ⟨y, first, others, later, ⟨⟩⟩
        exact .cons first later
      · intro related
        rcases related with _ | ⟨first, later⟩
        exact ⟨_, first, _, later, rfl⟩

end TaskGraph
