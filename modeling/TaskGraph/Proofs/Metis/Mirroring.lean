/-
Module: TaskGraph.Proofs.Metis.Mirroring
Purpose: What a graph file depends on: the numbers that are asked for, and the places that the edges
  between different vertices join, in the order of the edges and whatever their direction.
Main exports:
  Metis.AgreeingVertices, Metis.AgreeingEdges, Metis.MirroredVertices, Metis.MirroredLinks,
  Metis.Mirrors, Metis.incident_mirrors, Metis.toOption_print_eq, Metis.Mirrors.render_iff
-/
import TaskGraph.Proofs.Metis.RoundTrip

namespace TaskGraph

namespace Metis

/-! ### Graphs that mirror each other -/

/-- Two vertices have the same attributes, as far as these are asked for. -/
structure AgreeingVertices (request : Request) (v w : Vertex) : Prop where
  size : request.vertexSizes.isTrue = true → v.size = w.size
  weights : request.vertexWeights.isTrue = true → v.weights = w.weights

theorem AgreeingVertices.refl (request : Request) (v : Vertex) : AgreeingVertices request v v where
  size _ := rfl
  weights _ := rfl

/-- Two edges have the same first label, or both have none, if labels of edges are asked for. -/
def AgreeingEdges (request : Request) (e e' : Edge) : Prop :=
  request.edgeWeights.isTrue = true → e.weights.head? = e'.weights.head?

/-- Both ends of an edge have a text. -/
def HasName (e : Edge) : Prop :=
  e.src.HasText ∧ e.dest.HasText

/-- Two vertices agree, and if attributes are asked for, both can be named, or none of them can. -/
structure MirroredVertices (request : Request) (v w : Vertex) : Prop
    extends AgreeingVertices request v w where
  named : request.attributes.isTrue = true → (v.name.HasText ↔ w.name.HasText)

/-- Two links join the same places, in one direction or the other, and agree.  If attributes are
asked for, both can be named, or none of them can. -/
structure MirroredLinks (request : Request) (l l' : Link) : Prop where
  ends : l.source = l'.source ∧ l.target = l'.target ∨ l.source = l'.target ∧ l.target = l'.source
  agree : AgreeingEdges request l.edge l'.edge
  named : request.attributes.isTrue = true → (HasName l.edge ↔ HasName l'.edge)

/-- Two graphs have the same attributes that are asked for at the same places, and join the same
places in the same order. -/
structure Mirrors (request : Request) (g h : Graph) : Prop where
  vertices : List.Forall₂ (MirroredVertices request) g.vertices h.vertices
  links : List.Forall₂ (MirroredLinks request) (properLinks g) (properLinks h)

/-! ### Names

Where an attribute is asked for, its vertex or edge is named first.  The name itself has no part in
the number. -/

theorem toOption_named_eq {α : Type} {name name' : Except Error Text}
    (named : (∃ s, name = .ok s) ↔ ∃ s, name' = .ok s) {next next' : Text → Except Error α}
    (same : ∀ s t, (next s).toOption = (next' t).toOption) :
    (name >>= next).toOption = (name' >>= next').toOption := by
  cases first : name with
  | ok s =>
      obtain ⟨t, second⟩ := named.mp ⟨s, first⟩
      rw [second]
      exact same s t
  | error e =>
      cases second : name' with
      | ok t =>
          obtain ⟨s, written⟩ := named.mpr ⟨t, second⟩
          cases first.symm.trans written
      | error e' => rfl

theorem exists_asName_iff {e : Edge} : (∃ name, e.asName = .ok name) ↔ HasName e := by
  simp only [Edge.asName, bind_eq_ok]
  constructor
  · intro named
    obtain ⟨_, src, isSrc, dest, isDest, -⟩ := named
    exact ⟨⟨src, isSrc⟩, ⟨dest, isDest⟩⟩
  · intro named
    obtain ⟨⟨src, isSrc⟩, ⟨dest, isDest⟩⟩ := named
    exact ⟨_, src, isSrc, dest, isDest, rfl⟩

section Attributes

variable {request : Request}

theorem attributes_of_sizes (asked : request.vertexSizes.isTrue = true) :
    request.attributes.isTrue = true := by
  rw [Request.attributes, if_pos asked, asked]

theorem attributes_of_weights (asked : request.vertexWeights.isTrue = true) :
    request.attributes.isTrue = true := by
  rw [Request.attributes]
  split
  · assumption
  · simp only [asked]

theorem attributes_of_edgeWeights (asked : request.edgeWeights.isTrue = true) :
    request.attributes.isTrue = true := by
  rw [Request.attributes]
  split
  · assumption
  · split <;> assumption

end Attributes

/-! ### Numbers -/

/-- What is measured has no part in the number, only in the error if there is none. -/
theorem toOption_weightToken_eq (measure other : Measure) (label : Value) :
    (weightToken measure label).toOption = (weightToken other label).toOption := by
  rw [weightToken, weightToken, toOption_bind, toOption_bind]
  refine Option.bind_congr fun text _ => ?_
  by_cases numeral : Text.isNumeral (Text.strip text.toList) = true
  · simp only [numeral, if_true]
  · simp only [numeral]
    rfl

section Columns

variable {request : Request} {columns : Columns} (asked : request.columns = .ok columns)

include asked

theorem flags_of_columns : columns.sizes = request.vertexSizes.isTrue ∧
    columns.weights = (if request.vertexWeights.isTrue then some request.ncon else none) ∧
    columns.edgeWeights = request.edgeWeights.isTrue := by
  obtain ⟨header, -, ⟨⟩⟩ := bind_eq_ok.mp asked
  exact ⟨rfl, rfl, rfl⟩

section Vertices

variable {v w : Vertex} (mirrored : MirroredVertices request v w)

include mirrored

theorem toOption_sizeTokens_eq :
    (sizeTokens columns v).toOption = (sizeTokens columns w).toOption := by
  rw [sizeTokens, sizeTokens, (flags_of_columns asked).1]
  split
  · rename_i sized
    refine toOption_named_eq (mirrored.named (attributes_of_sizes sized)) fun s t => ?_
    rw [mirrored.size sized, toOption_bind, toOption_bind,
      toOption_weightToken_eq (.vertexSize s) (.vertexSize t)]
  · rfl

theorem toOption_weightTokens_eq (memory : Nat) :
    (weightTokens memory columns v).toOption = (weightTokens memory columns w).toOption := by
  rw [weightTokens, weightTokens, (flags_of_columns asked).2.1]
  by_cases weighted : request.vertexWeights.isTrue = true
  · have sameName := mirrored.named (attributes_of_weights weighted)
    simp only [weighted, if_true]
    have padded : (paddedWeights memory request.ncon v).toOption =
        (paddedWeights memory request.ncon w).toOption := by
      rw [paddedWeights, paddedWeights, mirrored.weights weighted, toOption_bind, toOption_bind]
      refine Option.bind_congr fun labels _ => ?_
      split
      · exact toOption_named_eq sameName fun _ _ => rfl
      · rfl
    rw [toOption_bind, toOption_bind, padded]
    refine Option.bind_congr fun labels _ => ?_
    exact toOption_mapM_eq (List.forall₂_same.mpr fun label _ =>
      toOption_named_eq sameName fun _ _ => toOption_weightToken_eq _ _ label)
  · simp only [weighted]
    rfl

end Vertices

theorem toOption_neighborTokens_eq {e e' : Edge} (agree : AgreeingEdges request e e')
    (named : request.attributes.isTrue = true → (HasName e ↔ HasName e')) (other : Nat) :
    (neighborTokens columns other e).toOption = (neighborTokens columns other e').toOption := by
  rw [neighborTokens, neighborTokens, toOption_bind, toOption_bind, (flags_of_columns asked).2.2]
  refine Option.bind_congr fun index _ => ?_
  split
  · rename_i weighted
    have sameName := named (attributes_of_edgeWeights weighted)
    rw [← exists_asName_iff, ← exists_asName_iff] at sameName
    rw [edgeLabel, edgeLabel, agree weighted]
    refine toOption_named_eq sameName fun s t => ?_
    rw [toOption_bind, toOption_bind, toOption_weightToken_eq (.edgeWeight s) (.edgeWeight t)]
  · rfl

end Columns

/-! ### Lines -/

/-- A link has the same other end in both directions. -/
theorem otherEnd?_eq {request : Request} {l l' : Link} (mirrored : MirroredLinks request l l')
    (place : Nat) : otherEnd? place l = otherEnd? place l' := by
  rcases mirrored.ends with ⟨source, target⟩ | ⟨source, target⟩
  · rw [otherEnd?, otherEnd?, source, target]
  · rw [otherEnd?, otherEnd?, ← source, ← target]
    by_cases starts : l.source = place
    · by_cases ends : l.target = place
      · simp [starts, ends]
      · simp [starts, ends]
    · simp [starts]

/-- A place has the same neighbors, by edges that agree, in the same order. -/
theorem incident_mirrors {request : Request} {g h : Graph} (mirrors : Mirrors request g h)
    (place : Nat) :
    List.Forall₂ (fun x y => x.1 = y.1 ∧ AgreeingEdges request x.2 y.2 ∧
        (request.attributes.isTrue = true → (HasName x.2 ↔ HasName y.2)))
      (incident (properLinks g) place) (incident (properLinks h) place) := by
  refine List.rel_filterMap ?_ mirrors.links
  intro l l' mirrored
  dsimp only
  rw [otherEnd?_eq mirrored place]
  cases otherEnd? place l' with
  | none => exact .none
  | some other => exact .some ⟨rfl, mirrored.agree, mirrored.named⟩

section Printing

variable {request : Request} {columns : Columns} (asked : request.columns = .ok columns)
  {g h : Graph} (mirrors : Mirrors request g h) (memory : Nat)

include asked mirrors

theorem toOption_vertexTokens_eq {v w : Vertex} (mirrored : MirroredVertices request v w)
    (place : Nat) :
    (vertexTokens memory columns (properLinks g) v place).toOption =
      (vertexTokens memory columns (properLinks h) w place).toOption := by
  simp only [vertexTokens, toOption_bind, toOption_sizeTokens_eq asked mirrored,
    toOption_weightTokens_eq asked mirrored]
  refine Option.bind_congr fun size _ => Option.bind_congr fun weights _ =>
    congrArg (Option.bind · _) ?_
  refine toOption_mapM_eq ((incident_mirrors mirrors place).imp ?_)
  rintro ⟨other, e⟩ ⟨_, e'⟩ ⟨⟨⟩, agree, named⟩
  exact toOption_neighborTokens_eq asked agree named other

/-- Graphs that mirror each other are printed as one file, or cannot be printed. -/
theorem toOption_print_eq :
    (print memory g columns).toOption = (print memory h columns).toOption := by
  have vertexCount : g.vertexCount = h.vertexCount := by
    rw [← Graph.length_vertices, ← Graph.length_vertices]
    exact mirrors.vertices.length_eq
  have header : headerTokens g columns = headerTokens h columns := by
    rw [headerTokens, headerTokens, vertexCount, mirrors.links.length_eq]
  have tokens : (tokenLines memory g columns).toOption =
      (tokenLines memory h columns).toOption := by
    simp only [tokenLines, toOption_bind, header]
    refine Option.bind_congr fun first _ => congrArg (Option.bind · _) ?_
    refine toOption_mapM_eq ((forall₂_zipIdx mirrors.vertices 0).imp ?_)
    rintro ⟨v, place⟩ ⟨w, _⟩ ⟨mirrored, ⟨⟩⟩
    exact toOption_vertexTokens_eq asked mirrors memory mirrored place
  rw [print, print, toOption_map, toOption_map, tokens]

end Printing

/-- Graphs that mirror each other have one graph file, or none of them has one. -/
theorem Mirrors.render_iff {request : Request} {g h : Graph} (mirrors : Mirrors request g h)
    {memory : Nat} {text : List Char} :
    (render memory g request).outcome = .ok text ↔
      (render memory h request).outcome = .ok text := by
  rw [outcome_render, outcome_render, bind_eq_ok, bind_eq_ok]
  refine exists_congr fun columns => and_congr_right fun asked => ?_
  rw [← toOption_eq_some, ← toOption_eq_some, toOption_print_eq asked mirrors]

end Metis

end TaskGraph
