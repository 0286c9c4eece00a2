/-
Module: TaskGraph.Proofs.Expansion.Violations
Purpose: What can be wrong with a topology, in the order in which an expansion looks for it:
  names, then values of parallelism, then inputs.  An expansion fails with the first of these,
  and without them it returns a graph.
Main exports:
  Topology.Typed, Topology.Expandable, Topology.violations, faultOf?_expand,
  expand_first_violation
-/
import TaskGraph.Proofs.Expansion.Declared
import TaskGraph.Proofs.Topology.Parallelism
import TaskGraph.Proofs.Topology.Registration

namespace TaskGraph

/-! ### What can be wrong -/

/-- What is wrong with a name that comes after others: the first of the reserved characters that
it contains, or else that it is one of the others. -/
def nameFault? (earlier : List Text) (name : Text) : Option Error :=
  match reservedCharacters.find? fun c => Symbol.char c ∈ name.toList with
  | some c => some (.reservedCharacter c (.text name))
  | none => if name ∈ earlier then some (.declaredTwice (.text name)) else none

/-- What is wrong with names, of each in turn. -/
def nameFaults (names : List Text) : List Error :=
  names.zipIdx.filterMap fun entry => nameFault? (names.take entry.2) entry.1

namespace Topology

/-- The names of the components as texts. -/
def names (t : Topology) : List Text :=
  t.components.map (·.name.plain)

/-- What is wrong with an input of a bolt: no component has its name. -/
def danglingFault? (t : Topology) (bolt : Bolt) (input : InputStream) : Option Error :=
  if t.componentNames.any (·.equal input.component) then none
  else some (.danglingInput bolt.name input.component)

/-- All that is wrong with a topology: with the names, then with the parallelism of the
components under a key, then with the inputs of the bolts. -/
def violations (t : Topology) (key : Value) : List Error :=
  nameFaults t.names ++ t.components.filterMap (parallelismFault? key) ++
    t.bolts.flatMap fun bolt => bolt.inputs.filterMap (t.danglingFault? bolt)

/-- The parts of a topology are of the declared types: names are texts, and settings are pairs.
Nothing is said of which names and which settings there are. -/
structure Typed (t : Topology) : Prop where
  title : t.name.HasText
  names : ∀ c ∈ t.components, ∃ s, c.name = .text s
  settings : ∀ c ∈ t.components, c.config.Paired

/-- Nothing is wrong with a topology: names have no reserved characters and are all different,
what decides the parallelism of a component writes a number, and every input of a bolt, whatever
its parallelism, names a component. -/
structure Expandable (t : Topology) (key : Value) : Prop where
  unreserved : ∀ name ∈ t.names, name.Unreserved
  distinct : t.names.Nodup
  parallelism : ∀ c ∈ t.components, ∀ raw, c.hint? key = some raw →
    ∃ n, Text.Writes raw.stripped n
  inputs : ∀ bolt ∈ t.bolts, ∀ input ∈ bolt.inputs, input.component ∈ t.componentNames

/-- The values that decide are not too long to be read, where they write numbers. -/
def ShortParallelism (t : Topology) (key : Value) : Prop :=
  ∀ c ∈ t.components, ∀ raw, c.hint? key = some raw → Text.isPlainNumeral raw.stripped = true →
    raw.stripped.length ≤ Text.maxDigits

end Topology

/-! ### Names -/

/-- The check of the names that are left fails at the first one with which something is wrong
after those that have been seen. -/
theorem faultOf?_validateNames {earlier rest : List Text} {seen : List Key}
    (known : ∀ s, Key.text s ∈ seen ↔ s ∈ earlier) :
    faultOf? (Topology.validateNames seen (rest.map .text)) =
      (rest.zipIdx earlier.length).findSome? fun entry =>
        nameFault? ((earlier ++ rest).take entry.2) entry.1 := by
  induction rest generalizing earlier seen with
  | nil => rfl
  | cons s rest inductionHypothesis =>
      have knownNext : ∀ u, Key.text u ∈ Key.text s :: seen ↔ u ∈ earlier ++ [s] := by
        intro u
        rw [List.mem_cons, List.mem_append, List.mem_singleton, known, Key.text.injEq, or_comm]
      have later := inductionHypothesis knownNext
      rw [List.length_append, List.length_singleton, List.append_assoc] at later
      have checked := faultOf?_checkCharacters s
      rw [List.map_cons, Topology.validateNames, List.zipIdx_cons, List.findSome?_cons,
        List.take_left, nameFault?]
      cases found : reservedCharacters.find? fun c => Symbol.char c ∈ s.toList with
      | some c =>
          rw [found] at checked
          rw [faultOf?_eq_some.mp checked]
          rfl
      | none =>
          rw [found] at checked
          obtain ⟨_, passed⟩ := faultOf?_eq_none.mp checked
          rw [passed, ok_bind]
          change faultOf? (if Key.text s ∈ seen then _ else _) = _
          by_cases again : s ∈ earlier
          · rw [if_pos ((known s).mpr again), if_pos again]
            rfl
          · rw [if_neg (fun member => again ((known s).mp member)), if_neg again]
            exact later

namespace Topology

variable {t : Topology}

theorem componentNames_eq_map (typed : ∀ c ∈ t.components, ∃ s, c.name = .text s) :
    t.componentNames = t.names.map .text := by
  rw [componentNames, names, List.map_map]
  apply List.map_congr_left
  intro c member
  obtain ⟨s, named⟩ := typed c member
  rw [Function.comp_apply, named]
  rfl

/-- A topology is found invalid for the first thing that is wrong with its names. -/
theorem faultOf?_validate (typed : ∀ c ∈ t.components, ∃ s, c.name = .text s) :
    faultOf? t.validate = (nameFaults t.names).head? := by
  have start : ∀ s, Key.text s ∈ ([] : List Key) ↔ s ∈ ([] : List Text) := by simp
  rw [validate, componentNames_eq_map typed, nameFaults, List.head?_filterMap]
  exact faultOf?_validateNames start

theorem danglingFault?_eq_none (typed : ∀ c ∈ t.components, ∃ s, c.name = .text s) {bolt : Bolt}
    {input : InputStream} :
    t.danglingFault? bolt input = none ↔ input.component ∈ t.componentNames := by
  have present : t.componentNames.any (·.equal input.component) = true ↔
      input.component ∈ t.componentNames := by
    rw [componentNames_eq_map typed, List.any_eq_true]
    constructor
    · intro found
      obtain ⟨name, member, same⟩ := found
      obtain ⟨s, -, rfl⟩ := List.mem_map.mp member
      rw [Value.text_equal_iff.mp same]
      exact member
    · intro member
      refine ⟨_, member, ?_⟩
      obtain ⟨s, -, named⟩ := List.mem_map.mp member
      rw [← named, Value.text_equal_iff]
  rw [danglingFault?, ← present]
  split <;> simp [*]

/-- Nothing is wrong with a topology that can be expanded, and only with such a one. -/
theorem violations_eq_nil (typed : ∀ c ∈ t.components, ∃ s, c.name = .text s) {key : Value} :
    t.violations key = [] ↔ t.Expandable key := by
  have named : nameFaults t.names = [] ↔ t.names.Nodup ∧ ∀ name ∈ t.names, name.Unreserved := by
    rw [← List.head?_eq_none_iff, ← faultOf?_validate typed, faultOf?_eq_none]
    have valid : (∃ done, t.validate = .ok done) ↔ t.validate = .ok () :=
      ⟨fun ⟨(), passed⟩ => passed, fun passed => ⟨(), passed⟩⟩
    rw [valid, validate_eq_ok, componentNames_eq_map typed,
      List.nodup_map_iff fun _ _ same => Value.text.inj same]
    simp
  simp only [violations, List.append_eq_nil_iff, named, List.filterMap_eq_nil_iff,
    List.flatMap_eq_nil_iff, parallelismFault?_eq_none, danglingFault?_eq_none typed]
  constructor
  · intro nothing
    obtain ⟨⟨⟨distinct, unreserved⟩, parallelism⟩, inputs⟩ := nothing
    exact ⟨unreserved, distinct, parallelism, inputs⟩
  · intro expandable
    exact ⟨⟨⟨expandable.distinct, expandable.unreserved⟩, expandable.parallelism⟩,
      expandable.inputs⟩

end Topology

/-! ### Plans -/

namespace Expansion

variable {t : Topology} {labels : Labels} {key : Value}

/-- The plan for an input fails where no component has its name. -/
theorem faultOf?_plannedLinks (read : ∀ c ∈ t.components, ∃ n, parallelismOf c key = .ok n)
    (bolt : Bolt) (boltCount : Nat) (input : InputStream) :
    faultOf? (plannedLinks labels t key bolt boltCount input) = t.danglingFault? bolt input := by
  rw [plannedLinks, Topology.danglingFault?, Topology.resolve?_eq_find?, Topology.componentNames,
    List.any_map]
  cases found : t.components.find? (·.name.equal input.component) with
  | none =>
      rw [if_neg]
      · rfl
      · simpa using found
  | some source =>
      obtain ⟨n, known⟩ := read source (List.mem_of_find?_eq_some found)
      rw [if_pos]
      · simp [known]
      · exact List.any_eq_true.mpr
          ⟨source, List.mem_of_find?_eq_some found, List.find?_some found⟩

theorem faultOf?_plannedEdges (read : ∀ c ∈ t.components, ∃ n, parallelismOf c key = .ok n)
    {bolt : Bolt} (member : bolt ∈ t.bolts) :
    faultOf? (plannedEdges labels t key bolt) =
      (bolt.inputs.filterMap (t.danglingFault? bolt)).head? := by
  obtain ⟨n, known⟩ := read _ (Topology.bolt_mem_components member)
  rw [plannedEdges, known, ok_bind, faultOf?_bind_ok, List.head?_filterMap]
  exact faultOf?_mapM fun input _ => faultOf?_plannedLinks read bolt n input

/-- A plan fails at the first value of parallelism that is no number, or else at the first input
that no component provides. -/
theorem faultOf?_plan (settings : ∀ c ∈ t.components, c.config.Paired)
    (short : t.ShortParallelism key) :
    faultOf? (plan labels t key) =
      (t.components.filterMap (parallelismFault? key) ++
        t.bolts.flatMap fun bolt => bolt.inputs.filterMap (t.danglingFault? bolt)).head? := by
  have vertices : faultOf? (t.components.mapM (plannedVertices labels key)) =
      (t.components.filterMap (parallelismFault? key)).head? := by
    rw [List.head?_filterMap]
    apply faultOf?_mapM
    intro c member
    rw [plannedVertices, faultOf?_map]
    exact faultOf?_parallelismOf (settings c member) (short c member)
  rw [plan, List.head?_append, ← vertices]
  apply faultOf?_bind
  intro blocks run
  have read : ∀ c ∈ t.components, ∃ n, parallelismOf c key = .ok n := by
    intro c member
    obtain ⟨block, -, planned⟩ := exists_of_mapM_eq_ok run member
    obtain ⟨n, known, -⟩ := map_eq_ok.mp planned
    exact ⟨n, known⟩
  rw [faultOf?_bind_ok, List.head?_flatMap]
  exact faultOf?_mapM fun bolt member => faultOf?_plannedEdges read member

/-- Where all parallelism is read, an expansion fails as its plan does. -/
theorem faultOf?_graph (valid : t.validate = .ok ()) (textual : labels.Textual)
    (titled : t.name.HasText) :
    faultOf? (Direct.graph labels t key) = faultOf? (plan labels t key) := by
  have alike := build_alike valid textual key
  rw [← alike.faultOf?_eq, Direct.graph]
  cases built : Direct.build labels t key with
  | error e => rfl
  | ok g =>
      rw [built] at alike
      obtain ⟨planned, run, -⟩ := alike.exists_right
      obtain ⟨parallelism, read, -⟩ := exists_parallelism run
      obtain ⟨title, written⟩ := titled
      have gathered : t.components.mapM (fun c => (parallelismOf c key).map fun n => (c.name, n)) =
          .ok (t.components.map fun c => (c.name, parallelism c)) := by
        apply mapM_eq_ok_map
        intro c member
        rw [read c member]
        rfl
      rw [ok_bind, gathered, ok_bind, written]
      rfl

end Expansion

/-! ### Expansions -/

section Expand

variable {t : Topology} (typed : t.Typed) {key : Option Value}
  (short : t.ShortParallelism (t.effectiveKey key))

include typed short

/-- An expansion fails with the first thing that is wrong. -/
theorem faultOf?_expand :
    faultOf? (expand t key).outcome = (t.violations (t.effectiveKey key)).head? := by
  rw [Topology.violations, List.append_assoc, List.head?_append,
    ← Topology.faultOf?_validate typed.names]
  cases valid : t.validate with
  | error e =>
      rw [expand_outcome_of_invalid {} valid]
      rfl
  | ok _ =>
      rw [expand_outcome valid, Expansion.faultOf?_graph valid Labels.textual_none typed.title,
        Expansion.faultOf?_plan typed.settings short]
      rfl

/-- An expansion returns a graph exactly where nothing is wrong with the topology, and it fails
with an error exactly where that is the first thing that is wrong. -/
theorem expand_first_violation :
    ((∃ g, (expand t key).outcome = .ok g) ↔ t.Expandable (t.effectiveKey key)) ∧
      ∀ e, (expand t key).outcome = .error e ↔
        (t.violations (t.effectiveKey key)).head? = some e := by
  rw [← faultOf?_eq_none, faultOf?_expand typed short, List.head?_eq_none_iff,
    Topology.violations_eq_nil typed.names]
  refine ⟨Iff.rfl, fun e => ?_⟩
  rw [← faultOf?_eq_some, faultOf?_expand typed short]

end Expand

/-- A topology with which much is wrong: the second bolt has a name that is taken and a word for
its parallelism, the spout has an empty text, and the first bolt reads from nowhere. -/
def tangled : Topology where
  spouts := [{ name := .text "feed", config := [.entry (.text defaultParallelismKey) (.text "")] }]
  bolts :=
    [{ name := .text "sink", inputs := [{ component := .text "nowhere" }] },
     { name := .text "feed", config := [.entry (.text defaultParallelismKey) (.text "two")] }]

theorem typed_tangled : tangled.Typed := by
  refine ⟨⟨_, rfl⟩, ?_, ?_⟩
  · intro c member
    simp only [tangled, Topology.components, List.map_cons, List.map_nil, List.cons_append,
      List.nil_append, List.mem_cons, List.not_mem_nil, or_false] at member
    rcases member with rfl | rfl | rfl <;> exact ⟨_, rfl⟩
  · intro c member setting inside
    simp only [tangled, Topology.components, List.map_cons, List.map_nil, List.cons_append,
      List.nil_append, List.mem_cons, List.not_mem_nil, or_false] at member
    rcases member with rfl | rfl | rfl
    · rw [List.mem_singleton.mp inside]
      exact ⟨_, _, rfl, _, rfl⟩
    · cases inside
    · rw [List.mem_singleton.mp inside]
      exact ⟨_, _, rfl, _, rfl⟩

/-- No value of that topology writes a number, so that none is too long. -/
theorem shortParallelism_tangled :
    tangled.ShortParallelism (tangled.effectiveKey none) := by
  have none : ∀ c ∈ tangled.components,
      (c.hint? (tangled.effectiveKey none)).all (!Text.isPlainNumeral ·.stripped) = true := by
    decide +kernel
  intro c member raw hinted numeral
  have plain := none c member
  rw [hinted, Option.all_some, numeral] at plain
  cases plain

theorem expand_first_violation_tangled :
    (tangled.violations (tangled.effectiveKey none)).filterMap
        (fun e => e.component?.map Value.plain) = ["feed", "feed", "feed", "sink"] ∧
      (expand tangled none).outcome = .error (.declaredTwice (.text "feed")) := by
  have first : (tangled.violations (tangled.effectiveKey none)).head? =
      some (.declaredTwice (.text "feed")) := rfl
  exact ⟨by decide +kernel,
    ((expand_first_violation typed_tangled shortParallelism_tangled).2 _).mpr first⟩

end TaskGraph
