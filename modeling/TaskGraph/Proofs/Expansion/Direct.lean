/-
Module: TaskGraph.Proofs.Expansion.Direct
Purpose: The expansion and the counting of a valid topology without a memory for parallelism:
  what is remembered of a component is what its settings say.
Main exports:
  Resolver.Faithful, Resolver.parallelism_alike, Expansion.Direct.build,
  Expansion.Direct.count, expand_outcome, expectedCounts_outcome
-/
import TaskGraph.Proofs.Expansion.Names

namespace TaskGraph

/-! ### What a resolver remembers -/

/-- The key under which parallelism is looked up. -/
def Topology.effectiveKey (t : Topology) (key : Option Value) : Value :=
  (Resolver.new t key).key

/-- A resolver looks under a key, and has remembered nothing but what is there. -/
structure Resolver.Faithful (t : Topology) (key : Value) (r : Resolver) : Prop where
  key_eq : r.key = key
  known : ∀ c ∈ t.components, ∀ name n, c.name.key? = some name →
    r.known.lookup name = some n → parallelismOf c key = .ok n

/-- A result that comes with a faithful resolver is the one without it. -/
def Remembers {α : Type} (t : Topology) (key : Value) (state : α × Resolver) (a : α) : Prop :=
  state.1 = a ∧ state.2.Faithful t key

theorem Resolver.faithful_new (t : Topology) (key : Option Value) :
    (Resolver.new t key).Faithful t (t.effectiveKey key) where
  key_eq := rfl
  known c _ name n _ found := by
    have nothing : (Resolver.new t key).known = [] := by
      unfold Resolver.new
      cases key <;> rfl
    rw [nothing] at found
    cases found

/-- The parallelism of a component that is asked of a resolver is the one of its settings. -/
theorem Resolver.parallelism_alike {t : Topology} (valid : t.validate = .ok ()) {key : Value}
    {r : Resolver} (faithful : r.Faithful t key) {c : Component} (member : c ∈ t.components) :
    Alike (Remembers t key) (r.parallelism c).outcome (parallelismOf c key) := by
  obtain ⟨s, named⟩ := Topology.exists_name_eq_text valid member
  have keyed : c.name.asKey = .ok (.text s) := by rw [named]; rfl
  simp only [Resolver.parallelism, keyed, Logged.outcome_bind, Logged.outcome_liftM, ok_bind]
  cases found : r.known.lookup (.text s) with
  | some n =>
      rw [faithful.known c member _ n (by rw [named]; rfl) found]
      exact .ok ⟨rfl, faithful⟩
  | none =>
      simp only [Logged.outcome_bind, Logged.outcome_liftM, Logged.outcome_entry, ok_bind,
        Logged.outcome_pure, faithful.key_eq]
      cases read : parallelismOf c key with
      | error e => exact .error e
      | ok n =>
          refine .ok ⟨rfl, ⟨rfl, ?_⟩⟩
          intro d other name m dKeyed looked
          rw [List.lookup_cons] at looked
          split at looked
          · rename_i same
            cases looked
            obtain ⟨u, dNamed⟩ := Topology.exists_name_eq_text valid other
            rw [eq_of_beq same, dNamed] at dKeyed
            cases dKeyed
            rw [Topology.eq_of_name_eq valid other member (dNamed.trans named.symm), read]
          · exact faithful.known d other name m dKeyed looked

/-! ### Traversals without a resolver -/

namespace Expansion.Direct

/-- Add the instances of a component. -/
def addComponent (labels : Labels) (key : Value) (g : Graph) (c : Component) :
    Except Error Graph := do
  addInstances labels c (← parallelismOf c key) g

/-- Add the edges of an input. -/
def addInput (labels : Labels) (t : Topology) (key : Value) (bolt : Bolt) (boltCount : Nat)
    (g : Graph) (input : InputStream) : Except Error Graph :=
  match t.resolve? input.component with
  | none => .error (.danglingInput bolt.name input.component)
  | some source => do
    addLinks labels input source.name bolt.name (← parallelismOf source key) boltCount g

/-- Add the edges of the inputs of a bolt. -/
def addInputs (labels : Labels) (t : Topology) (key : Value) (g : Graph) (bolt : Bolt) :
    Except Error Graph := do
  let boltCount ← parallelismOf (.bolt bolt) key
  bolt.inputs.foldlM (addInput labels t key bolt boltCount) g

/-- The vertices and the edges of an expansion. -/
def build (labels : Labels) (t : Topology) (key : Value) : Except Error Graph := do
  let g ← t.components.foldlM (addComponent labels key) { name := t.name }
  t.bolts.foldlM (addInputs labels t key) g

/-- The graph of an expansion, with what it remembers of the topology. -/
def graph (labels : Labels) (t : Topology) (key : Value) : Except Error Graph := do
  let g ← build labels t key
  let parallelism ← t.components.mapM fun c => (parallelismOf c key).map fun n => (c.name, n)
  let _ ← t.name.asPlain
  .ok { g with metadata := metadataOf t parallelism }

/-- Count the instances of a component. -/
def countComponent (key : Value) (n : Nat) (c : Component) : Except Error Nat := do
  .ok (n + (← parallelismOf c key))

/-- Count the edges of an input. -/
def countInput (t : Topology) (key : Value) (bolt : Bolt) (boltCount n : Nat)
    (input : InputStream) : Except Error Nat :=
  match t.resolve? input.component with
  | none => .error (.danglingInput bolt.name input.component)
  | some source => do .ok (n + (← parallelismOf source key) * boltCount)

/-- Count the edges of the inputs of a bolt. -/
def countInputs (t : Topology) (key : Value) (n : Nat) (bolt : Bolt) : Except Error Nat := do
  let boltCount ← parallelismOf (.bolt bolt) key
  bolt.inputs.foldlM (countInput t key bolt boltCount) n

/-- The numbers of vertices and edges of an expansion. -/
def count (t : Topology) (key : Value) : Except Error Counts := do
  let vertices ← t.components.foldlM (countComponent key) 0
  let edges ← t.bolts.foldlM (countInputs t key) 0
  .ok { vertices, edges }

end Expansion.Direct

/-! ### The traversals agree with those that remember -/

section Agreement

open Expansion

variable {t : Topology} (valid : t.validate = .ok ()) {key : Value} (labels : Labels)

include valid

theorem expandComponent_alike {state : Graph × Resolver} {g : Graph} {c : Component}
    (member : c ∈ t.components) (remembers : Remembers t key state g) :
    Alike (Remembers t key) (expandComponent labels state c).outcome
      (Direct.addComponent labels key g c) := by
  obtain ⟨g, r⟩ := state
  obtain ⟨rfl, faithful⟩ := remembers
  simp only [expandComponent, Logged.outcome_bind, Direct.addComponent]
  apply Alike.bind (r.parallelism_alike valid faithful member)
  rintro ⟨n, after⟩ _ ⟨rfl, later⟩
  simp only [Logged.outcome_liftM]
  cases addInstances labels c n g with
  | error e => exact .error e
  | ok next =>
      rw [ok_bind]
      split
      · exact .ok ⟨rfl, later⟩
      · exact .ok ⟨rfl, later⟩

theorem expandInput_alike {state : Graph × Resolver} {g : Graph} (bolt : Bolt) (boltCount : Nat)
    (input : InputStream) (remembers : Remembers t key state g) :
    Alike (Remembers t key) (expandInput labels t bolt boltCount state input).outcome
      (Direct.addInput labels t key bolt boltCount g input) := by
  obtain ⟨g, r⟩ := state
  obtain ⟨rfl, faithful⟩ := remembers
  simp only [expandInput, Direct.addInput]
  cases resolved : t.resolve? input.component with
  | none => exact .error _
  | some source =>
      have member := (Topology.mem_of_resolve?_eq_some resolved).1
      simp only [Logged.outcome_bind]
      apply Alike.bind (r.parallelism_alike valid faithful member)
      rintro ⟨n, after⟩ _ ⟨rfl, later⟩
      simp only [Logged.outcome_liftM]
      cases addLinks labels input source.name bolt.name n boltCount g with
      | error e => exact .error e
      | ok next => exact .ok ⟨rfl, later⟩

theorem expandInputs_alike {state : Graph × Resolver} {g : Graph} {bolt : Bolt}
    (member : bolt ∈ t.bolts) (remembers : Remembers t key state g) :
    Alike (Remembers t key) (expandInputs labels t state bolt).outcome
      (Direct.addInputs labels t key g bolt) := by
  obtain ⟨g, r⟩ := state
  obtain ⟨rfl, faithful⟩ := remembers
  simp only [expandInputs, Logged.outcome_bind, Direct.addInputs]
  apply Alike.bind (r.parallelism_alike valid faithful (Topology.bolt_mem_components member))
  rintro ⟨n, after⟩ _ ⟨rfl, later⟩
  simp only [Logged.outcome_foldlM]
  apply Alike.foldlM _ ⟨rfl, later⟩
  intro state g input _ remembers
  exact expandInput_alike valid labels bolt n input remembers

theorem gather_alike {r : Resolver} (faithful : r.Faithful t key) {components : List Component}
    (members : ∀ c ∈ components, c ∈ t.components) :
    Alike (fun a b => a = b) (gather r components).outcome
      (components.mapM fun c => (parallelismOf c key).map fun n => (c.name, n)) := by
  induction components generalizing r with
  | nil => exact .ok rfl
  | cons c rest inductionHypothesis =>
      rw [gather, Logged.outcome_bind, List.mapM_cons]
      have first : Alike (fun state entry => (c.name, state.1) = entry ∧ state.2.Faithful t key)
          (r.parallelism c).outcome ((parallelismOf c key).map fun n => (c.name, n)) := by
        apply (r.parallelism_alike valid faithful (members c (by simp))).map_right
        rintro state n ⟨rfl, later⟩
        exact ⟨rfl, later⟩
      apply Alike.bind first
      rintro ⟨n, after⟩ _ ⟨rfl, later⟩
      rw [Logged.outcome_bind]
      apply Alike.bind (inductionHypothesis later fun d member => members d (by simp [member]))
      rintro others _ rfl
      exact .ok rfl

/-- An expansion returns the graph that it makes when parallelism is read anew each time. -/
theorem expand_outcome (key : Option Value) :
    (expand t key labels).outcome = Direct.graph labels t (t.effectiveKey key) := by
  apply Alike.eq
  simp only [expand, Direct.graph, Logged.outcome_bind, Logged.outcome_ofExcept, valid, ok_bind,
    Logged.outcome_foldlM, Direct.build, bind_assoc]
  have start : Remembers t (t.effectiveKey key) (({ name := t.name } : Graph), Resolver.new t key)
      ({ name := t.name } : Graph) := ⟨rfl, Resolver.faithful_new t key⟩
  apply Alike.bind (Alike.foldlM (fun _ _ _ => expandComponent_alike valid labels) start)
  intro expanded g remembers
  apply Alike.bind (Alike.foldlM (fun _ _ _ => expandInputs_alike valid labels) remembers)
  rintro ⟨g, r⟩ _ ⟨rfl, faithful⟩
  apply Alike.bind (gather_alike valid faithful fun c member => member)
  rintro parallelism _ rfl
  rw [Logged.outcome_liftM]
  cases t.name.asPlain with
  | error e => exact .error e
  | ok title => exact .ok rfl

omit valid in
/-- What is expanded is valid. -/
theorem validate_of_expand {key : Option Value} {g : Graph}
    (built : (expand t key labels).outcome = .ok g) : t.validate = .ok () := by
  simp only [expand, Logged.outcome_bind, Logged.outcome_ofExcept, check_bind_eq_ok] at built
  exact built.1

omit valid in
/-- What is not valid is not expanded. -/
theorem expand_outcome_of_invalid {e : Error} (invalid : t.validate = .error e)
    (key : Option Value) : (expand t key labels).outcome = .error e := by
  simp only [expand, Logged.outcome_bind, Logged.outcome_ofExcept, invalid]
  rfl

theorem countVertices_alike {state : Nat × Resolver} {n : Nat} {c : Component}
    (member : c ∈ t.components) (remembers : Remembers t key state n) :
    Alike (Remembers t key) (countVertices state c).outcome (Direct.countComponent key n c) := by
  obtain ⟨n, r⟩ := state
  obtain ⟨rfl, faithful⟩ := remembers
  simp only [countVertices, Logged.outcome_bind, Direct.countComponent]
  apply Alike.bind (r.parallelism_alike valid faithful member)
  rintro ⟨count, after⟩ _ ⟨rfl, later⟩
  exact .ok ⟨rfl, later⟩

theorem countInput_alike {state : Nat × Resolver} {n : Nat} (bolt : Bolt) (boltCount : Nat)
    (input : InputStream) (remembers : Remembers t key state n) :
    Alike (Remembers t key) (countInput t bolt boltCount state input).outcome
      (Direct.countInput t key bolt boltCount n input) := by
  obtain ⟨n, r⟩ := state
  obtain ⟨rfl, faithful⟩ := remembers
  simp only [countInput, Direct.countInput]
  cases resolved : t.resolve? input.component with
  | none => exact .error _
  | some source =>
      have member := (Topology.mem_of_resolve?_eq_some resolved).1
      simp only [Logged.outcome_bind]
      apply Alike.bind (r.parallelism_alike valid faithful member)
      rintro ⟨count, after⟩ _ ⟨rfl, later⟩
      exact .ok ⟨rfl, later⟩

theorem countInputs_alike {state : Nat × Resolver} {n : Nat} {bolt : Bolt}
    (member : bolt ∈ t.bolts) (remembers : Remembers t key state n) :
    Alike (Remembers t key) (countInputs t state bolt).outcome
      (Direct.countInputs t key n bolt) := by
  obtain ⟨n, r⟩ := state
  obtain ⟨rfl, faithful⟩ := remembers
  simp only [countInputs, Logged.outcome_bind, Direct.countInputs]
  apply Alike.bind (r.parallelism_alike valid faithful (Topology.bolt_mem_components member))
  rintro ⟨count, after⟩ _ ⟨rfl, later⟩
  simp only [Logged.outcome_foldlM]
  apply Alike.foldlM _ ⟨rfl, later⟩
  intro state n input _ remembers
  exact countInput_alike valid bolt count input remembers

theorem expectedCounts_outcome (key : Option Value) :
    (expectedCounts t key).outcome = Direct.count t (t.effectiveKey key) := by
  apply Alike.eq
  simp only [expectedCounts, Direct.count, Logged.outcome_bind, Logged.outcome_foldlM]
  have start : Remembers t (t.effectiveKey key) (0, Resolver.new t key) 0 :=
    ⟨rfl, Resolver.faithful_new t key⟩
  apply Alike.bind (Alike.foldlM (fun _ _ _ => countVertices_alike valid) start)
  rintro ⟨vertices, r⟩ _ ⟨rfl, faithful⟩
  have restart : Remembers t (t.effectiveKey key) (0, r) 0 := ⟨rfl, faithful⟩
  apply Alike.bind (Alike.foldlM (fun _ _ _ => countInputs_alike valid) restart)
  rintro ⟨edges, r'⟩ _ ⟨rfl, _⟩
  exact .ok rfl

end Agreement

end TaskGraph
