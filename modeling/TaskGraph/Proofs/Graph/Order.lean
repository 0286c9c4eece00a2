/-
Module: TaskGraph.Proofs.Graph.Order
Purpose: How vertices compare: one comes before another by distance and then by name, and two are
  the same by name alone.  The two fit together but for copies of one vertex at different
  distances.
Main exports:
  Text.lt_eq, Vertex.Placed, Vertex.lt?_eq, Vertex.NearerCopy, Vertex.Compared, Vertex.compared
-/
import TaskGraph.Graph.Vertex
import TaskGraph.Proofs.Graph.Growth
import TaskGraph.Proofs.Value.Access

namespace TaskGraph

/-! ### Order of texts -/

theorem Symbol.code_injective : Function.Injective Symbol.code := by
  intro a b same
  cases a with
  | char c =>
      cases b with
      | char d => exact congrArg Symbol.char (Char.toNat_inj.mp same)
      | half offset =>
          -- The numbers of the halves are those that no character has.
          have valid : c.toNat < 0xd800 ∨ 0xdfff < c.toNat ∧ c.toNat < 0x110000 := c.valid
          have bound := offset.isLt
          simp only [Symbol.code] at same
          omega
  | half offset =>
      cases b with
      | char d =>
          have valid : d.toNat < 0xd800 ∨ 0xdfff < d.toNat ∧ d.toNat < 0x110000 := d.valid
          have bound := offset.isLt
          simp only [Symbol.code] at same
          omega
      | half other => exact congrArg Symbol.half (Fin.ext (Nat.add_left_cancel same))

namespace Text

/-- The numbers of the symbols of a text. -/
def codes (s : Text) : List Nat :=
  s.toList.map Symbol.code

theorem codes_inj {s t : Text} : s.codes = t.codes ↔ s = t := by
  rw [codes, codes, List.map_inj_right fun _ _ same => Symbol.code_injective same]
  cases s
  cases t
  simp

theorem ltSymbols_eq (as bs : List Symbol) :
    ltSymbols as bs = decide (as.map Symbol.code < bs.map Symbol.code) := by
  induction as generalizing bs with
  | nil =>
      cases bs with
      | nil => rfl
      | cons b rest => simp [ltSymbols]
  | cons a others inductionHypothesis =>
      cases bs with
      | nil => simp [ltSymbols]
      | cons b rest =>
          rw [ltSymbols, inductionHypothesis, beq_eq_decide]
          simp [List.cons_lt_cons_iff]

/-- Texts are ordered as the numbers of their symbols. -/
theorem lt_eq (s t : Text) : s.lt t = decide (s.codes < t.codes) :=
  ltSymbols_eq s.toList t.toList

end Text

namespace Vertex

/-! ### Comparisons -/

/-- A vertex has a whole number as its distance and a text as its name. -/
structure Placed (v : Vertex) (distance : Int) (name : Text) : Prop where
  distance : v.distance = .int distance
  name : v.name = .text name

/-- Where a vertex stands among others. -/
def rank (distance : Int) (name : Text) : Int ×ₗ List Nat :=
  toLex (distance, name.codes)

theorem rank_lt_iff {m n : Int} {s t : Text} :
    rank m s < rank n t ↔ m < n ∨ m = n ∧ s.codes < t.codes :=
  Prod.Lex.toLex_lt_toLex

/-- Copies of a vertex stand as far from each other as their distances. -/
theorem rank_lt_rank_self {m n : Int} {s : Text} : rank m s < rank n s ↔ m < n := by
  simp [rank_lt_iff]

theorem rank_ne {m n : Int} {s t : Text} (other : s ≠ t) : rank m s ≠ rank n t := by
  intro same
  exact other (Text.codes_inj.mp (Prod.ext_iff.mp (toLex_inj.mp same)).2)

/-- A vertex is a copy of another one, at a smaller distance. -/
def NearerCopy (a b : Vertex) : Prop :=
  a.same b = true ∧ a.distance.lt? b.distance = some true

section Pair

variable {a b : Vertex} {m n : Int} {s t : Text} (first : a.Placed m s) (second : b.Placed n t)

include first second

theorem same_eq : a.same b = decide (s = t) := by
  rw [same, first.name, second.name, Bool.eq_iff_iff, Value.equal_text_iff]
  simp

theorem lt?_eq : a.lt? b = some (decide (rank m s < rank n t)) := by
  have distances : a.distance.same b.distance = decide (m = n) := by
    rw [first.distance, second.distance, Bool.eq_iff_iff, Value.same_iff_of_key? rfl rfl]
    simp
  have names : a.name.same b.name = decide (s = t) := by
    rw [first.name, second.name, Bool.eq_iff_iff, Value.text_same_iff]
    simp [eq_comm]
  rw [lt?, distances, names, first.distance, second.distance, first.name, second.name,
    Value.lt?_int, Value.lt?, Text.lt_eq]
  simp only [rank_lt_iff]
  by_cases near : m = n
  · subst near
    by_cases named : s = t
    · simp [named]
    · simp [named]
  · simp [near]

theorem le?_eq : a.le? b = some (decide (rank m s < rank n t ∨ s = t)) := by
  rw [le?, lt?_eq first second, same_eq first second]
  simp

theorem gt?_eq : a.gt? b = some (decide (¬rank m s < rank n t ∧ s ≠ t)) := by
  rw [gt?, lt?_eq first second, same_eq first second, Option.map_some]
  simp only [← decide_not, ← Bool.decide_and, ne_eq]

theorem ge?_eq : a.ge? b = some (decide (¬rank m s < rank n t)) := by
  rw [ge?, lt?_eq first second, Option.map_some, ← decide_not]

theorem nearerCopy_iff : a.NearerCopy b ↔ s = t ∧ m < n := by
  rw [NearerCopy, same_eq first second, first.distance, second.distance, Value.lt?_int]
  simp

end Pair

/-! ### How they fit together -/

/-- Exactly one of three holds. -/
def OneOf (p q r : Prop) : Prop :=
  p ∧ ¬q ∧ ¬r ∨ ¬p ∧ q ∧ ¬r ∨ ¬p ∧ ¬q ∧ r

/-- Two vertices stand alike to a third one, from either side. -/
structure Alike (a b c : Vertex) : Prop where
  lt : a.lt? c = b.lt? c ∧ c.lt? a = c.lt? b
  le : a.le? c = b.le? c ∧ c.le? a = c.le? b
  gt : a.gt? c = b.gt? c ∧ c.gt? a = c.gt? b
  ge : a.ge? c = b.ge? c ∧ c.ge? a = c.ge? b
  same : a.same c = b.same c ∧ c.same a = c.same b

/-- How three vertices compare.  Copies of one vertex at different distances come one before the
other although they are the same; all that is said of an order holds but for these. -/
structure Compared (a b c : Vertex) : Prop where
  answered : ∃ lt le gt ge, a.lt? b = some lt ∧ a.le? b = some le ∧ a.gt? b = some gt ∧
    a.ge? b = some ge
  oneOf : OneOf (a.lt? b = some true) (a.same b = true) (a.gt? b = some true) ↔ ¬a.NearerCopy b
  le_iff : a.le? b = some true ↔ a.lt? b = some true ∨ a.same b = true
  ge_iff : (a.ge? b = some true ↔ b.le? a = some true) ↔ ¬a.NearerCopy b
  le_refl : a.le? a = some true
  le_antisymm : a.le? b = some true → b.le? a = some true → a.same b = true
  le_total : a.le? b = some true ∨ b.le? a = some true
  le_trans : ¬b.NearerCopy a → ¬c.NearerCopy b → a.le? b = some true → b.le? c = some true →
    a.le? c = some true
  alike : a.same b = true →
    ((∀ d m s, d.Placed m s → a.Alike b d) ↔ ¬a.NearerCopy b ∧ ¬b.NearerCopy a)

section Compared

variable {a b c : Vertex} {m n k : Int} {s t u : Text} (first : a.Placed m s)
  (second : b.Placed n t) (third : c.Placed k u)

include first second

/-- Two vertices are ordered, unless one is a copy of the other. -/
theorem oneOf_iff : OneOf (a.lt? b = some true) (a.same b = true) (a.gt? b = some true) ↔
    ¬a.NearerCopy b := by
  rw [lt?_eq first second, same_eq first second, gt?_eq first second,
    nearerCopy_iff first second]
  simp only [OneOf, Option.some.injEq, decide_eq_true_eq]
  by_cases named : s = t
  · subst named
    rw [rank_lt_rank_self]
    tauto
  · tauto

theorem ge?_iff : (a.ge? b = some true ↔ b.le? a = some true) ↔ ¬a.NearerCopy b := by
  rw [ge?_eq first second, le?_eq second first, nearerCopy_iff first second]
  simp only [Option.some.injEq, decide_eq_true_eq, not_lt]
  by_cases named : s = t
  · subst named
    rw [← not_lt, rank_lt_rank_self]
    tauto
  · have other : rank n t ≤ rank m s ↔ rank n t < rank m s :=
      ⟨fun before => lt_of_le_of_ne before (rank_ne (Ne.symm named)), le_of_lt⟩
    simp only [other, named, Ne.symm named, or_false, false_and, not_false_iff]

theorem same_of_le? (before : a.le? b = some true) (after : b.le? a = some true) :
    a.same b = true := by
  rw [le?_eq first second, Option.some.injEq, decide_eq_true_eq] at before
  rw [le?_eq second first, Option.some.injEq, decide_eq_true_eq] at after
  rw [same_eq first second, decide_eq_true_eq]
  rcases before with before | same
  · rcases after with after | same
    · exact absurd before after.not_gt
    · exact same.symm
  · exact same

theorem le?_total : a.le? b = some true ∨ b.le? a = some true := by
  rw [le?_eq first second, le?_eq second first]
  simp only [Option.some.injEq, decide_eq_true_eq]
  by_cases named : s = t
  · exact .inl (.inr named)
  · rcases lt_or_gt_of_ne (rank_ne (m := m) (n := n) named) with before | after
    · exact .inl (.inl before)
    · exact .inr (.inl after)

/-- A vertex that is before or the same, and no copy at a greater distance, does not stand
after. -/
theorem rank_le_of_le? (before : a.le? b = some true) (noCopy : ¬b.NearerCopy a) :
    rank m s ≤ rank n t := by
  rw [le?_eq first second, Option.some.injEq, decide_eq_true_eq] at before
  rw [nearerCopy_iff second first] at noCopy
  rcases before with before | same
  · exact le_of_lt before
  · subst same
    rw [← not_lt, rank_lt_rank_self]
    exact fun after => noCopy ⟨rfl, after⟩

include third in
theorem le?_trans (noCopy : ¬b.NearerCopy a) (noOther : ¬c.NearerCopy b)
    (before : a.le? b = some true) (after : b.le? c = some true) : a.le? c = some true := by
  have whole := (rank_le_of_le? first second before noCopy).trans
    (rank_le_of_le? second third after noOther)
  rw [le?_eq first third, Option.some.injEq, decide_eq_true_eq]
  rcases lt_or_eq_of_le whole with before | same
  · exact .inl before
  · by_contra neither
    exact rank_ne (fun named => neither (.inr named)) same

/-- Copies stand alike to all vertices if they have one distance: else the nearer one of them
comes before the other and not before itself. -/
theorem alike_iff (named : a.same b = true) :
    (∀ d m s, d.Placed m s → a.Alike b d) ↔ ¬a.NearerCopy b ∧ ¬b.NearerCopy a := by
  rw [same_eq first second, decide_eq_true_eq] at named
  subst named
  rw [nearerCopy_iff first second, nearerCopy_iff second first]
  simp only [true_and, not_lt]
  constructor
  · intro alike
    have ahead := (alike b n s second).lt.1
    have behind := (alike a m s first).lt.1
    rw [lt?_eq first second, lt?_eq second second, Option.some.injEq, decide_eq_decide,
      rank_lt_rank_self, rank_lt_rank_self] at ahead
    rw [lt?_eq first first, lt?_eq second first, Option.some.injEq, decide_eq_decide,
      rank_lt_rank_self, rank_lt_rank_self] at behind
    omega
  · intro noCopies d k u third
    have near : m = n := by omega
    subst near
    constructor
    · simp only [lt?_eq first third, lt?_eq second third, lt?_eq third first, lt?_eq third second,
        and_self]
    · simp only [le?_eq first third, le?_eq second third, le?_eq third first, le?_eq third second,
        and_self]
    · simp only [gt?_eq first third, gt?_eq second third, gt?_eq third first, gt?_eq third second,
        and_self]
    · simp only [ge?_eq first third, ge?_eq second third, ge?_eq third first, ge?_eq third second,
        and_self]
    · simp only [same_eq first third, same_eq second third, same_eq third first,
        same_eq third second, and_self]

end Compared

/-- Vertices with texts for names and whole numbers for distances compare as an order does, but for
copies of one vertex at different distances. -/
theorem compared {a b c : Vertex} {m n k : Int} {s t u : Text} (first : a.Placed m s)
    (second : b.Placed n t) (third : c.Placed k u) : Compared a b c where
  answered := ⟨_, _, _, _, lt?_eq first second, le?_eq first second, gt?_eq first second,
    ge?_eq first second⟩
  oneOf := oneOf_iff first second
  le_iff := by
    rw [le?_eq first second, lt?_eq first second, same_eq first second]
    simp
  ge_iff := ge?_iff first second
  le_refl := by
    rw [le?_eq first first]
    simp
  le_antisymm before after := same_of_le? first second before after
  le_total := le?_total first second
  le_trans noCopy noOther before after := le?_trans first second third noCopy noOther before after
  alike named := alike_iff first second named

/-- A vertex at which a search starts. -/
def root : Vertex := { name := .text "a", distance := .int 0 }

/-- A copy of the root that has been reached again. -/
def rootAgain : Vertex := { name := .text "a", distance := .int 2 }

/-- A vertex between the root and its copy. -/
def middle : Vertex := { name := .text "b", distance := .int 1 }

theorem placed_root : root.Placed 0 "a" := ⟨rfl, rfl⟩

theorem placed_rootAgain : rootAgain.Placed 2 "a" := ⟨rfl, rfl⟩

theorem placed_middle : middle.Placed 1 "b" := ⟨rfl, rfl⟩

/-- The root, the vertex between and the copy stand in a row. -/
theorem compared_root : root.Placed 0 "a" ∧ middle.Placed 1 "b" ∧ rootAgain.Placed 2 "a" ∧
    Compared root middle rootAgain ∧ root.le? rootAgain = some true := by
  have whole := compared placed_root placed_middle placed_rootAgain
  have firstStep : ¬middle.NearerCopy root := by
    rw [nearerCopy_iff placed_middle placed_root]
    decide
  have secondStep : ¬rootAgain.NearerCopy middle := by
    rw [nearerCopy_iff placed_rootAgain placed_middle]
    decide
  exact ⟨placed_root, placed_middle, placed_rootAgain, whole,
    whole.le_trans firstStep secondStep (by decide +kernel) (by decide +kernel)⟩

/-- The root comes before its copy and is the same, so that more than one of three holds; it does
not come at or after the copy, which comes before it or is the same; by way of the root there is a
step from the copy to the vertex between, which comes before the copy; and that vertex tells the
two from each other. -/
theorem root_and_copy_disagree :
    ¬OneOf (root.lt? rootAgain = some true) (root.same rootAgain = true)
      (root.gt? rootAgain = some true) ∧
    ¬(root.ge? rootAgain = some true ↔ rootAgain.le? root = some true) ∧
    ¬(rootAgain.le? root = some true → root.le? middle = some true →
      rootAgain.le? middle = some true) ∧
    ¬(root.same rootAgain = true → root.Alike rootAgain middle) := by
  have nearer : root.NearerCopy rootAgain := by
    rw [nearerCopy_iff placed_root placed_rootAgain]
    decide
  refine ⟨fun one => ?_, fun mirrored => ?_, by decide +kernel, fun alike => ?_⟩
  · exact (oneOf_iff placed_root placed_rootAgain).mp one nearer
  · exact (ge?_iff placed_root placed_rootAgain).mp mirrored nearer
  · have told : root.lt? middle ≠ rootAgain.lt? middle := by decide +kernel
    exact told (alike nearer.1).lt.1

end Vertex

end TaskGraph
