/-
Module: TaskGraph.Proofs.Expansion.Names
Purpose: Names of instances tell the component and the number, whatever the component is called,
  and a valid topology has texts for names, all of them different.
Main exports:
  instanceName_inj, Topology.exists_name_eq_text, Topology.eq_of_name_eq,
  Topology.mem_of_resolve?_eq_some
-/
import TaskGraph.Expansion
import TaskGraph.Proofs.Outcome
import TaskGraph.Proofs.Text.Numeral

namespace TaskGraph

/-! ### Names of instances -/

/-- What stands around the last separator is determined by the whole. -/
theorem append_cons_inj_of_not_mem {α : Type} {x : α} {before others after rest : List α}
    (last : x ∉ after) (alsoLast : x ∉ rest) (same : before ++ x :: after = others ++ x :: rest) :
    before = others ∧ after = rest := by
  rcases List.append_eq_append_iff.mp same with ⟨middle, rfl, right⟩ | ⟨middle, rfl, right⟩
  · cases middle with
    | nil => exact ⟨by simp, (List.cons.inj right).2⟩
    | cons y tail =>
        have tailEq := (List.cons.inj right).2
        exact absurd (by rw [tailEq]; simp) last
  · cases middle with
    | nil => exact ⟨by simp, (List.cons.inj right).2.symm⟩
    | cons y tail =>
        have tailEq := (List.cons.inj right).2
        exact absurd (by rw [tailEq]; simp) alsoLast

theorem toList_instanceName (component : Value) (i : Nat) :
    (instanceName component i).toList =
      component.plain.toList ++ .char '-' :: Text.symbols (Text.digitsOf i) := by
  simp only [instanceName, Text.toList_append, List.append_assoc]
  rfl

theorem not_mem_digits (i : Nat) : Symbol.char '-' ∉ Text.symbols (Text.digitsOf i) := by
  intro member
  obtain ⟨c, inside, same⟩ := List.mem_map.mp member
  cases same
  exact absurd (Text.isPlainDigit_of_mem_digitsOf inside) (by decide)

theorem digitsOf_inj {i j : Nat} (same : Text.digitsOf i = Text.digitsOf j) : i = j :=
  (Text.Writes.digitsOf i).unique (by rw [same]; exact .digitsOf j)

/-- The name of an instance tells the name of the component and the number, also where the
name of the component ends in a dash and digits. -/
theorem instanceName_inj {a b : Text} {i j : Nat}
    (same : instanceName (.text a) i = instanceName (.text b) j) : a = b ∧ i = j := by
  have lists := congrArg Text.toList same
  rw [toList_instanceName, toList_instanceName] at lists
  obtain ⟨names, digits⟩ :=
    append_cons_inj_of_not_mem (not_mem_digits i) (not_mem_digits j) lists
  constructor
  · cases a
    cases b
    exact congrArg Text.ofList names
  · exact digitsOf_inj (Text.symbols_inj.mp digits)

/-! ### Valid names -/

/-- A text has no character that names must not contain. -/
def Text.Unreserved (s : Text) : Prop :=
  ∀ c ∈ reservedCharacters, Symbol.char c ∉ s.toList

/-- Nothing is found where the test fails for every item. -/
theorem findM?_eq_ok_none {ε α : Type} {test : α → Except ε Bool} {xs : List α} :
    xs.findM? test = .ok none ↔ ∀ x ∈ xs, test x = .ok false := by
  induction xs with
  | nil => simp [List.findM?, pure, Except.pure]
  | cons x rest inductionHypothesis =>
      rw [List.findM?, List.forall_mem_cons, ← inductionHypothesis]
      cases test x with
      | error e => simp [bind, Except.bind]
      | ok passes => cases passes <;> simp [bind, Except.bind, pure, Except.pure]

theorem checkCharacters_eq_ok {name : Value} : checkCharacters name = .ok () ↔
    ∀ c ∈ reservedCharacters, nameContains name c = .ok false := by
  rw [checkCharacters, bind_eq_ok, ← findM?_eq_ok_none]
  constructor
  · intro checked
    obtain ⟨found, searched, passed⟩ := checked
    cases found with
    | none => exact searched
    | some c => cases passed
  · exact fun searched => ⟨none, searched, rfl⟩

theorem checkCharacters_text {s : Text} : checkCharacters (.text s) = .ok () ↔ s.Unreserved := by
  rw [checkCharacters_eq_ok]
  refine forall₂_congr fun c _ => ?_
  simp only [nameContains, Except.ok.injEq, List.any_eq_false, beq_iff_eq]
  constructor
  · exact fun others member => others _ member rfl
  · exact fun absent _ member same => absent (same ▸ member)

/-- A name that passes is a text: other keys have no characters to look at, and collections
are no keys. -/
theorem exists_text_of_checked {name : Value} {key : Key}
    (characters : checkCharacters name = .ok ()) (keyed : name.asKey = .ok key) :
    ∃ s, name = .text s := by
  cases name with
  | text s => exact ⟨s, rfl⟩
  | list items | tuple items | set items | map entries | web cells place | link place => cases keyed
  | null | bool b | int n | float x | bytes data | date d | moment m => cases characters

theorem validateNames_cons_eq_ok {name : Value} {rest : List Value} {seen : List Key} :
    Topology.validateNames seen (name :: rest) = .ok () ↔
      ∃ s : Text, name = .text s ∧ s.Unreserved ∧ Key.text s ∉ seen ∧
        Topology.validateNames (.text s :: seen) rest = .ok () := by
  simp only [Topology.validateNames, bind_eq_ok]
  constructor
  · intro passed
    obtain ⟨_, characters, key, keyed, passed⟩ := passed
    obtain ⟨s, rfl⟩ := exists_text_of_checked characters keyed
    cases keyed
    split at passed
    · cases passed
    · exact ⟨s, rfl, checkCharacters_text.mp characters, ‹_›, passed⟩
  · intro passed
    obtain ⟨s, rfl, unreserved, isNew, passed⟩ := passed
    refine ⟨(), checkCharacters_text.mpr unreserved, .text s, rfl, ?_⟩
    rw [if_neg isNew]
    exact passed

/-- Names pass that are different texts without reserved characters. -/
theorem validateNames_eq_ok {names : List Value} {seen : List Key} :
    Topology.validateNames seen names = .ok () ↔ names.Nodup ∧
      ∀ name ∈ names, ∃ s : Text, name = .text s ∧ s.Unreserved ∧ Key.text s ∉ seen := by
  induction names generalizing seen with
  | nil => simp [Topology.validateNames]
  | cons name rest inductionHypothesis =>
      rw [validateNames_cons_eq_ok, List.nodup_cons, List.forall_mem_cons]
      simp only [inductionHypothesis]
      constructor
      · intro passed
        obtain ⟨s, rfl, unreserved, isNew, distinct, later⟩ := passed
        refine ⟨⟨fun again => ?_, distinct⟩, ⟨s, rfl, unreserved, isNew⟩, fun other member => ?_⟩
        · obtain ⟨_, ⟨⟩, -, fresh⟩ := later _ again
          exact fresh (by simp)
        · obtain ⟨u, rfl, allowed, fresh⟩ := later other member
          exact ⟨u, rfl, allowed, fun known => fresh (by simp [known])⟩
      · intro passed
        obtain ⟨⟨isFirst, distinct⟩, ⟨s, rfl, unreserved, isNew⟩, later⟩ := passed
        refine ⟨s, rfl, unreserved, isNew, distinct, fun other member => ?_⟩
        obtain ⟨u, rfl, allowed, fresh⟩ := later other member
        refine ⟨u, rfl, allowed, fun known => ?_⟩
        rcases List.mem_cons.mp known with same | earlier
        · cases same
          exact isFirst member
        · exact fresh earlier

namespace Topology

/-- A topology is valid whose components have different texts without reserved characters for
names. -/
theorem validate_eq_ok {t : Topology} :
    t.validate = .ok () ↔ t.componentNames.Nodup ∧
      ∀ name ∈ t.componentNames, ∃ s : Text, name = .text s ∧ s.Unreserved := by
  simp [validate, validateNames_eq_ok]

theorem name_mem_componentNames {t : Topology} {c : Component} (member : c ∈ t.components) :
    c.name ∈ t.componentNames :=
  List.mem_map.mpr ⟨c, member, rfl⟩

variable {t : Topology} (valid : t.validate = .ok ())

include valid

/-- The name of a component is a text. -/
theorem exists_name_eq_text {c : Component} (member : c ∈ t.components) :
    ∃ s, c.name = .text s := by
  obtain ⟨s, named, -⟩ := (validate_eq_ok.mp valid).2 c.name (name_mem_componentNames member)
  exact ⟨s, named⟩

theorem nodup_names : (t.components.map (·.name)).Nodup :=
  (validate_eq_ok.mp valid).1

/-- Components with one name are one component. -/
theorem eq_of_name_eq {c d : Component} (first : c ∈ t.components) (second : d ∈ t.components)
    (same : c.name = d.name) : c = d :=
  List.inj_on_of_nodup_map (nodup_names valid) first second same

end Topology

theorem Topology.bolt_mem_components {t : Topology} {bolt : Bolt} (member : bolt ∈ t.bolts) :
    Component.bolt bolt ∈ t.components :=
  List.mem_append_right _ (List.mem_map.mpr ⟨bolt, member, rfl⟩)

/-- A name resolves to a component of the topology with that name. -/
theorem Topology.mem_of_resolve?_eq_some {t : Topology} {name : Value} {c : Component}
    (resolved : t.resolve? name = some c) : c ∈ t.components ∧ c.name.equal name = true := by
  unfold Topology.resolve? at resolved
  rw [Topology.components, List.mem_append, List.mem_map, List.mem_map]
  split at resolved
  · rename_i s found
    cases resolved
    have passed := List.find?_some found
    exact ⟨.inl ⟨s, List.mem_of_find?_eq_some found, rfl⟩, passed⟩
  · obtain ⟨b, found, rfl⟩ := Option.map_eq_some_iff.mp resolved
    have passed := List.find?_some found
    exact ⟨.inr ⟨b, List.mem_of_find?_eq_some found, rfl⟩, passed⟩

end TaskGraph
