/-
Module: TaskGraph.Proofs.Metis.Retouching
Purpose: Changes of a graph that its graph file does not show: other names, edges the other way
  round, edges from a vertex to itself, and attributes that are not asked for.
Main exports:
  Metis.Retouch, Metis.Retouch.exists_mirror, Metis.render_iff_of_retouched
-/
import TaskGraph.Proofs.Graph.Rebuilding
import TaskGraph.Proofs.Metis.Mirroring

namespace TaskGraph

/-- An edge the other way round. -/
def Edge.reversed (e : Edge) : Edge :=
  { e with src := e.dest, dest := e.src }

/-- An edge between other names. -/
def Edge.renamed (rename : Value → Value) (e : Edge) : Edge :=
  { e with src := rename e.src, dest := rename e.dest }

/-- An edge fits vertices that it joins if its labels are texts. -/
theorem Edge.Textual.fits {e : Edge} (textual : e.Textual) {vertices : List Vertex}
    (src : ∃ v ∈ vertices, v.name.same e.src = true)
    (dest : ∃ v ∈ vertices, v.name.same e.dest = true) : e.Fits vertices := by
  refine ⟨src, dest, fun weight listed => ?_⟩
  obtain ⟨labels, weights⟩ := textual
  rw [weights] at listed
  obtain ⟨label, -, rfl⟩ := List.mem_map.mp listed
  exact ⟨label, rfl⟩

namespace Graph.Parts

/-- A name is that of a vertex, or stands at an end of an edge. -/
def Mentions (p : Parts) (name : Value) : Prop :=
  (∃ v ∈ p.vertices, v.name = name) ∨ ∃ e ∈ p.edges, e.src = name ∨ e.dest = name

/-- The parts with other names for the vertices, also at the ends of the edges. -/
def renamed (p : Parts) (rename : Value → Value) : Parts :=
  { p with
    vertices := p.vertices.map fun v => { v with name := rename v.name }
    edges := p.edges.map (·.renamed rename) }

/-- Parts are those of a graph: they fit, and labels of edges are texts. -/
structure Whole (p : Parts) : Prop where
  fit : p.Fit
  textual : ∀ e ∈ p.edges, e.Textual

theorem Whole.exists_graph {p : Parts} (whole : p.Whole) :
    ∃ g, p.build = .ok g ∧ g.Canonical ∧ g.parts = p := by
  obtain ⟨g, built⟩ := exists_build_iff.mpr whole.fit
  obtain ⟨canonical, made⟩ := build_eq_ok built
  have edges : p.edges.map Edge.plain = p.edges.map id :=
    List.map_congr_left fun e member => (whole.textual e member).plain_eq
  refine ⟨g, built, canonical, ?_⟩
  rw [made, edges, List.map_id]

namespace Whole

variable {p : Parts} (whole : p.Whole)

include whole

theorem renamed {rename : Value → Value}
    (keys : ∀ v ∈ p.vertices, (rename v.name).isKey = true)
    (injective : ∀ a b, p.Mentions a → p.Mentions b →
      ((rename a).same (rename b) = true ↔ a.same b = true)) : (p.renamed rename).Whole where
  fit :=
    { keys := List.forall_mem_map.mpr keys
      different := by
        refine List.pairwise_map.mpr (whole.fit.different.imp_of_mem ?_)
        intro v w first second different
        rw [Bool.eq_false_iff] at different ⊢
        exact fun same => different ((injective _ _ (.inl ⟨v, first, rfl⟩)
          (.inl ⟨w, second, rfl⟩)).mp same)
      edges := by
        refine List.forall_mem_map.mpr fun e inside => ?_
        obtain ⟨⟨v, source, starts⟩, ⟨w, target, ends⟩, texts⟩ := whole.fit.edges e inside
        refine ⟨⟨_, List.mem_map_of_mem source, ?_⟩, ⟨_, List.mem_map_of_mem target, ?_⟩, texts⟩
        · exact (injective _ _ (.inl ⟨v, source, rfl⟩) (.inr ⟨e, inside, .inl rfl⟩)).mpr starts
        · exact (injective _ _ (.inl ⟨w, target, rfl⟩) (.inr ⟨e, inside, .inr rfl⟩)).mpr ends }
  textual := List.forall_mem_map.mpr whole.textual

/-- Other edges make a graph where each of them fits the vertices and has texts for labels. -/
theorem withEdges {edges : List Edge}
    (each : ∀ e ∈ edges, e.Fits p.vertices ∧ e.Textual) : Parts.Whole { p with edges } where
  fit := ⟨whole.fit.keys, whole.fit.different, fun e member => (each e member).1⟩
  textual e member := (each e member).2

/-- Edges make a graph that come one by one from others, and that fit and have texts for labels
where these do. -/
theorem withRelatedEdges {edges : List Edge} {Related : Edge → Edge → Prop}
    (related : List.Forall₂ Related p.edges edges)
    (each : ∀ e e', Related e e' → e.Fits p.vertices → e.Textual →
      e'.Fits p.vertices ∧ e'.Textual) : Parts.Whole { p with edges } := by
  have known : ∀ e ∈ p.edges, e.Fits p.vertices ∧ e.Textual := fun e member =>
    ⟨whole.fit.edges e member, whole.textual e member⟩
  have both : List.Forall₂ (fun e e' => Related e e' ∧ e'.Fits p.vertices ∧ e'.Textual)
      p.edges edges := by
    refine ((List.forall₂_and_left _ _).mpr ⟨known, related⟩).imp ?_
    rintro e e' ⟨⟨fits, textual⟩, same⟩
    exact ⟨same, each e e' same fits textual⟩
  exact whole.withEdges (forall₂_and_right.mp both).2

theorem withVertices {vertices : List Vertex}
    (named : vertices.map (·.name) = p.vertices.map (·.name)) :
    Parts.Whole { p with vertices } := by
  have known : ∀ name ∈ p.vertices.map (·.name), ∃ w ∈ vertices, w.name = name := by
    intro name member
    exact List.mem_map.mp (named ▸ member)
  have still : ∀ name, (∃ v ∈ p.vertices, v.name.same name = true) →
      ∃ w ∈ vertices, w.name.same name = true := by
    rintro name ⟨v, member, same⟩
    obtain ⟨w, inside, wNamed⟩ := known v.name (List.mem_map_of_mem member)
    exact ⟨w, inside, wNamed ▸ same⟩
  have different : (p.vertices.map (·.name)).Pairwise fun a b => a.same b = false :=
    List.pairwise_map.mpr whole.fit.different
  rw [← named] at different
  refine ⟨⟨fun w member => ?_, List.pairwise_map.mp different, fun e member => ?_⟩, whole.textual⟩
  · have inside : w.name ∈ p.vertices.map (·.name) := named ▸ List.mem_map_of_mem member
    obtain ⟨v, found, same⟩ := List.mem_map.mp inside
    rw [← same]
    exact whole.fit.keys v found
  · obtain ⟨starts, ends, texts⟩ := whole.fit.edges e member
    exact ⟨still _ starts, still _ ends, texts⟩

end Whole

end Graph.Parts

namespace Metis

open TaskGraph.Graph

/-- A change of the parts of a graph that a graph file does not show. -/
inductive Retouch (request : Request) : Parts → Parts → Prop
  /-- The vertices get other names, different ones where they were different.  If attributes are
  asked for, a name without a text (a number too long to be written) stays one. -/
  | rename {p : Parts} (rename : Value → Value)
      (keys : ∀ v ∈ p.vertices, (rename v.name).isKey = true)
      (injective : ∀ a b, p.Mentions a → p.Mentions b →
        ((rename a).same (rename b) = true ↔ a.same b = true))
      (texts : request.attributes.isTrue = true → ∀ a, p.Mentions a →
        ((rename a).HasText ↔ a.HasText)) :
      Retouch request p (p.renamed rename)
  /-- Some of the edges are turned round. -/
  | reverse {p : Parts} {edges : List Edge}
      (turned : List.Forall₂ (fun e e' => e' = e ∨ e' = e.reversed) p.edges edges) :
      Retouch request p { p with edges }
  /-- An edge from a vertex to itself, with any labels, is put among the edges. -/
  | insertLoop {p : Parts} {before after : List Edge} {e : Edge}
      (split : p.edges = before ++ after) (fits : e.Fits p.vertices) (textual : e.Textual)
      (loop : e.src.same e.dest = true) :
      Retouch request p { p with edges := before ++ e :: after }
  /-- An edge from a vertex to itself is taken out. -/
  | deleteLoop {p : Parts} {before after : List Edge} {e : Edge}
      (split : p.edges = before ++ e :: after) (loop : e.src.same e.dest = true) :
      Retouch request p { p with edges := before ++ after }
  /-- The attributes of vertices change that are not asked for. -/
  | vertices {p : Parts} {vertices : List Vertex}
      (named : vertices.map (·.name) = p.vertices.map (·.name))
      (agree : List.Forall₂ (AgreeingVertices request) p.vertices vertices) :
      Retouch request p { p with vertices }
  /-- The labels of edges change that are not asked for, or that are not the first ones. -/
  | labels {p : Parts} {edges : List Edge}
      (agree : List.Forall₂ (fun e e' => e'.src = e.src ∧ e'.dest = e.dest ∧ e'.Textual ∧
        AgreeingEdges request e e') p.edges edges) :
      Retouch request p { p with edges }
  /-- The graph gets another name and other metadata. -/
  | title {p : Parts} (name : Value) (metadata : Value.Entries) :
      Retouch request p { p with name, metadata }

/-! ### Changed parts are those of a graph -/

/-- A change of the parts of a graph makes the parts of a graph. -/
theorem Retouch.whole {request : Request} {p q : Parts} (retouch : Retouch request p q)
    (whole : p.Whole) : q.Whole := by
  have known : ∀ e ∈ p.edges, e.Fits p.vertices ∧ e.Textual := fun e member =>
    ⟨whole.fit.edges e member, whole.textual e member⟩
  cases retouch with
  | rename rename keys injective texts => exact whole.renamed keys injective
  | reverse turned =>
      refine whole.withRelatedEdges turned fun e e' related fits textual => ?_
      rcases related with rfl | rfl
      · exact ⟨fits, textual⟩
      · exact ⟨⟨fits.dest, fits.src, fits.texts⟩, textual⟩
  | insertLoop split fits textual loop =>
      rw [split, List.forall_mem_append] at known
      exact whole.withEdges (List.forall_mem_append.mpr
        ⟨known.1, List.forall_mem_cons.mpr ⟨⟨fits, textual⟩, known.2⟩⟩)
  | deleteLoop split loop =>
      rw [split, List.forall_mem_append, List.forall_mem_cons] at known
      exact whole.withEdges (List.forall_mem_append.mpr ⟨known.1, known.2.2⟩)
  | vertices named agree => exact whole.withVertices named
  | labels agree =>
      refine whole.withRelatedEdges agree fun e e' related fits _ => ?_
      obtain ⟨src, dest, textual, -⟩ := related
      exact ⟨textual.fits (src ▸ fits.src) (dest ▸ fits.dest), textual⟩
  | title name metadata =>
      exact ⟨⟨whole.fit.keys, whole.fit.different, whole.fit.edges⟩, whole.textual⟩

/-! ### Parts that mirror each other -/

/-- An edge joins the new names of what another one joins, in one direction or the other. -/
structure MirroredEdges (request : Request) (rename : Value → Value) (e e' : Edge) : Prop where
  ends : e'.src = rename e.src ∧ e'.dest = rename e.dest ∨
    e'.src = rename e.dest ∧ e'.dest = rename e.src
  agree : AgreeingEdges request e e'

/-- Parts have the vertices of others under new names, and between different vertices their
edges. -/
structure MirroredParts (request : Request) (rename : Value → Value) (p q : Parts) : Prop where
  same : ∀ a b, p.Mentions a → p.Mentions b → a.same b = true → (rename a).same (rename b) = true
  texts : request.attributes.isTrue = true → ∀ a, p.Mentions a → ((rename a).HasText ↔ a.HasText)
  names : q.vertices.map (·.name) = p.vertices.map fun v => rename v.name
  vertices : List.Forall₂ (AgreeingVertices request) p.vertices q.vertices
  edges : List.Forall₂ (MirroredEdges request rename) (p.edges.filter isProper)
    (q.edges.filter isProper)

/-- Edges mirror others of the same vertices. -/
theorem mirrored_edges {request : Request} {p : Parts} {edges : List Edge}
    (mirrored : List.Forall₂ (MirroredEdges request id) (p.edges.filter isProper)
      (edges.filter isProper)) : MirroredParts request id p { p with edges } where
  same _ _ _ _ same := same
  texts _ _ _ := Iff.rfl
  names := rfl
  vertices := List.forall₂_same.mpr fun v _ => .refl request v
  edges := mirrored

/-- The same edges mirror each other. -/
theorem mirrored_same (request : Request) (edges : List Edge) :
    List.Forall₂ (MirroredEdges request id) edges edges :=
  List.forall₂_same.mpr fun _ _ => ⟨.inl ⟨rfl, rfl⟩, fun _ => rfl⟩

/-- Edges that mirror others and are proper where these are do so after improper ones are left
out. -/
theorem mirrored_filter {request : Request} {rename : Value → Value} {edges others : List Edge}
    (mirrored : List.Forall₂ (fun e e' => MirroredEdges request rename e e' ∧
      isProper e = isProper e') edges others) :
    List.Forall₂ (MirroredEdges request rename) (edges.filter isProper)
      (others.filter isProper) := by
  refine (List.rel_filter ?_ mirrored).imp fun _ _ both => both.1
  intro e e' both
  show isProper e = true ↔ isProper e' = true
  rw [both.2]

theorem filter_isProper_of_loop {before after : List Edge} {e : Edge}
    (loop : e.src.same e.dest = true) :
    (before ++ e :: after).filter isProper = (before ++ after).filter isProper := by
  have improper : ¬isProper e = true := by simp [isProper, loop]
  rw [List.filter_append, List.filter_cons_of_neg improper, List.filter_append]

/-- An edge of a graph joins different vertices in both directions, or one with itself. -/
theorem isProper_reversed {p : Parts} (whole : p.Whole) {e : Edge} (member : e ∈ p.edges) :
    isProper e = isProper e.reversed := by
  obtain ⟨⟨v, source, starts⟩, ⟨w, target, ends⟩, -⟩ := whole.fit.edges e member
  obtain ⟨k, vKey⟩ := Option.isSome_iff_exists.mp (whole.fit.keys v source)
  obtain ⟨l, wKey⟩ := Option.isSome_iff_exists.mp (whole.fit.keys w target)
  have srcKey := Value.key?_eq_of_same vKey starts
  have destKey := Value.key?_eq_of_same wKey ends
  rw [isProper, isProper, Bool.not_inj_iff, Bool.eq_iff_iff,
    Value.same_iff_of_key? srcKey destKey]
  exact eq_comm.trans (Value.same_iff_of_key? destKey srcKey).symm

/-- Changed parts mirror those that they are made from. -/
theorem Retouch.exists_mirrored {request : Request} {p q : Parts} (retouch : Retouch request p q)
    (whole : p.Whole) : ∃ rename, MirroredParts request rename p q := by
  -- Only the first of the changes gives new names.
  cases retouch with
  | rename rename keys injective texts =>
      refine ⟨rename, fun a b first second => (injective a b first second).mpr, texts, ?_, ?_, ?_⟩
      · rw [Parts.renamed, List.map_map]
        rfl
      · rw [Parts.renamed, List.forall₂_map_right_iff, List.forall₂_same]
        exact fun _ _ => ⟨fun _ => rfl, fun _ => rfl⟩
      · refine mirrored_filter ?_
        rw [Parts.renamed, List.forall₂_map_right_iff, List.forall₂_same]
        refine fun e member => ⟨⟨.inl ⟨rfl, rfl⟩, fun _ => rfl⟩, ?_⟩
        rw [isProper, isProper, Bool.not_inj_iff, Bool.eq_iff_iff]
        exact (injective _ _ (.inr ⟨e, member, .inl rfl⟩) (.inr ⟨e, member, .inr rfl⟩)).symm
  | reverse turned =>
      refine ⟨id, mirrored_edges (mirrored_filter ?_)⟩
      refine ((List.forall₂_and_left _ _).mpr ⟨fun e => isProper_reversed whole, turned⟩).imp ?_
      rintro e _ ⟨proper, rfl | rfl⟩
      · exact ⟨⟨.inl ⟨rfl, rfl⟩, fun _ => rfl⟩, rfl⟩
      · exact ⟨⟨.inr ⟨rfl, rfl⟩, fun _ => rfl⟩, proper⟩
  | insertLoop split fits textual loop =>
      refine ⟨id, mirrored_edges ?_⟩
      rw [split, filter_isProper_of_loop loop]
      exact mirrored_same request _
  | deleteLoop split loop =>
      refine ⟨id, mirrored_edges ?_⟩
      rw [split, filter_isProper_of_loop loop]
      exact mirrored_same request _
  | vertices named agree =>
      exact ⟨id, fun _ _ _ _ same => same, fun _ _ _ => Iff.rfl, named, agree,
        mirrored_same request _⟩
  | labels agree =>
      refine ⟨id, mirrored_edges (mirrored_filter (agree.imp fun e e' related => ?_))⟩
      obtain ⟨src, dest, -, agreeing⟩ := related
      refine ⟨⟨.inl ⟨src, dest⟩, agreeing⟩, ?_⟩
      rw [isProper, isProper, src, dest]
  | title name metadata =>
      exact ⟨id, fun _ _ _ _ same => same, fun _ _ _ => Iff.rfl, rfl,
        List.forall₂_same.mpr fun v _ => .refl request v, mirrored_same request _⟩

/-! ### Places -/

/-- The links between different vertices are those of the proper edges. -/
theorem properLinks_eq {g : Graph} (sound : g.Sound) :
    properLinks g = (g.edgeList.filter isProper).map g.linkOf := by
  rw [properLinks, sound.links_eq, List.filter_map]
  refine congrArg (List.map g.linkOf) (List.filter_congr fun e member => ?_)
  have inside : g.linkOf e ∈ g.links.toList := by
    rw [sound.links_eq]
    exact List.mem_map_of_mem member
  exact (isProper_eq sound inside).symm

section Places

variable {request : Request} {rename : Value → Value} {g h : Graph} (first : g.Canonical)
  (second : h.Canonical) (mirrored : MirroredParts request rename g.parts h.parts)

include first second mirrored

/-- The new name of a vertex leads to its old place. -/
theorem placeOf_rename {name : Value} (mentioned : g.parts.Mentions name)
    (named : ∃ v ∈ g.vertices, v.name.same name = true) :
    h.placeOf (rename name) = g.placeOf name := by
  obtain ⟨place, found⟩ := first.exists_place_iff.mpr named
  obtain ⟨v, held, same⟩ := first.consistent.place?_eq_ok_iff.mp found
  have renamed : (h.vertices.map (·.name))[place]? = some (rename v.name) := by
    have names : h.vertices.map (·.name) = g.vertices.map fun v => rename v.name := mirrored.names
    rw [names, List.getElem?_map, held]
    rfl
  rw [List.getElem?_map, Option.map_eq_some_iff] at renamed
  obtain ⟨w, wHeld, wNamed⟩ := renamed
  have same := mirrored.same _ _ (.inl ⟨v, List.mem_of_getElem? held, rfl⟩) mentioned same
  rw [← wNamed] at same
  rw [placeOf_eq found, placeOf_eq (second.consistent.place?_eq_ok_iff.mpr ⟨w, wHeld, same⟩)]

omit first second in
theorem vertices_of_parts :
    List.Forall₂ (MirroredVertices request) g.vertices h.vertices := by
  have renamed : List.Forall₂ (fun v w : Vertex => w.name = rename v.name) g.vertices h.vertices :=
    (map_eq_map_iff_forall₂.mp mirrored.names.symm).imp fun _ _ same => same.symm
  have known : ∀ v ∈ g.vertices, request.attributes.isTrue = true →
      ((rename v.name).HasText ↔ v.name.HasText) :=
    fun v member asked => mirrored.texts asked _ (.inl ⟨v, member, rfl⟩)
  refine List.Forall₂.mp ?_ mirrored.vertices ((List.forall₂_and_left _ _).mpr ⟨known, renamed⟩)
  rintro v w agree ⟨texts, named⟩
  exact ⟨agree, fun asked => (named ▸ texts asked).symm⟩

/-- Graphs whose parts mirror each other do so. -/
theorem mirrors_of_parts : Mirrors request g h where
  vertices := vertices_of_parts mirrored
  links := by
    rw [properLinks_eq first.consistent.sound, properLinks_eq second.consistent.sound,
      List.forall₂_map_left_iff, List.forall₂_map_right_iff]
    have placed : ∀ e ∈ g.edgeList.filter isProper,
        (h.placeOf (rename e.src) = g.placeOf e.src ∧
          h.placeOf (rename e.dest) = g.placeOf e.dest) ∧
        (request.attributes.isTrue = true →
          (((rename e.src).HasText ↔ e.src.HasText) ∧
            ((rename e.dest).HasText ↔ e.dest.HasText))) := by
      intro e member
      have inside := (List.mem_filter.mp member).1
      have fits := first.fit_parts.edges e inside
      have src : g.parts.Mentions e.src := .inr ⟨e, inside, .inl rfl⟩
      have dest : g.parts.Mentions e.dest := .inr ⟨e, inside, .inr rfl⟩
      exact ⟨⟨placeOf_rename first second mirrored src fits.src,
          placeOf_rename first second mirrored dest fits.dest⟩,
        fun asked => ⟨mirrored.texts asked _ src, mirrored.texts asked _ dest⟩⟩
    refine ((List.forall₂_and_left _ _).mpr ⟨placed, mirrored.edges⟩).imp ?_
    rintro e e' ⟨⟨⟨source, target⟩, texts⟩, mirroredEdge⟩
    -- The ends of a link that is turned round stand the other way in both parts of its name.
    rcases mirroredEdge.ends with ⟨src, dest⟩ | ⟨src, dest⟩
    · refine ⟨.inl ⟨by rw [linkOf, linkOf, src, source], by rw [linkOf, linkOf, dest, target]⟩,
        mirroredEdge.agree, fun asked => ?_⟩
      obtain ⟨first, second⟩ := texts asked
      rw [linkOf, linkOf, HasName, HasName, src, dest, first, second]
    · refine ⟨.inr ⟨by rw [linkOf, linkOf, dest, source], by rw [linkOf, linkOf, src, target]⟩,
        mirroredEdge.agree, fun asked => ?_⟩
      obtain ⟨first, second⟩ := texts asked
      rw [linkOf, linkOf, HasName, HasName, src, dest, first, second, and_comm]

end Places

/-! ### Graph files -/

/-- What is retouched is a graph again, and mirrors what it was. -/
theorem Retouch.exists_mirror {request : Request} {g : Graph} {q : Parts}
    (retouch : Retouch request g.parts q) (canonical : g.Canonical) :
    ∃ h, q.build = .ok h ∧ h.Canonical ∧ h.parts = q ∧ Mirrors request g h := by
  have whole : g.parts.Whole := ⟨canonical.fit_parts, canonical.textual⟩
  obtain ⟨rename, mirrored⟩ := retouch.exists_mirrored whole
  obtain ⟨h, built, other, made⟩ := (retouch.whole whole).exists_graph
  rw [← made] at mirrored
  exact ⟨h, built, other, made, mirrors_of_parts canonical other mirrored⟩

/-- However often a graph is retouched, it stays a graph, and its graph file stays the same: it has
one after the changes exactly if it had one before, with the same text. -/
theorem render_iff_of_retouched {memory : Nat} {request : Request} {g : Graph} {q : Parts}
    (reached : g.Reachable) (retouched : Relation.ReflTransGen (Retouch request) g.parts q) :
    ∃ h, q.build = .ok h ∧ h.parts = q ∧ ∀ text,
      (render memory g request).outcome = .ok text ↔
        (render memory h request).outcome = .ok text := by
  have whole : ∃ h, q.build = .ok h ∧ h.Canonical ∧ h.parts = q ∧ ∀ text,
      (render memory g request).outcome = .ok text ↔
        (render memory h request).outcome = .ok text := by
    induction retouched with
    | refl =>
        have canonical := reached.canonical
        exact ⟨g, canonical.build_parts, canonical, rfl, fun _ => Iff.rfl⟩
    | tail _ retouch inductionHypothesis =>
        obtain ⟨middle, -, canonical, rfl, earlier⟩ := inductionHypothesis
        obtain ⟨h, built, other, made, mirrors⟩ := retouch.exists_mirror canonical
        exact ⟨h, built, other, made, fun text => (earlier text).trans mirrors.render_iff⟩
  obtain ⟨h, built, -, made, same⟩ := whole
  exact ⟨h, built, made, same⟩

/-- Other names for the vertices of the pair. -/
def pairNames (name : Value) : Value :=
  if name.plain = "a" then .text "x" else .text "y"

/-- The pair with other names and a title, without its loop, with its first edge the other way
round, and with one more label. -/
def retouchedPair : Parts where
  name := .text "pair"
  metadata := [(.text "checked", .bool true)]
  vertices := [{ name := .text "x" }, { name := .text "y", distance := .int 1 }]
  edges :=
    [{ src := .text "y", dest := .text "x", weights := [.text " 3", .text "late"] },
     { src := .text "y", dest := .text "x" }]

theorem parts_pairGraph : pairGraph.parts =
    { name := .text ""
      metadata := []
      vertices := [{ name := .text "a" }, { name := .text "b" }]
      edges :=
        [{ src := .text "a", dest := .text "b", weights := [.text " 3"] },
         { src := .text "b", dest := .text "b" }, { src := .text "b", dest := .text "a" }] } := by
  rfl

theorem mem_pairNames {name : Value} (mentioned : pairGraph.parts.Mentions name) :
    name = .text "a" ∨ name = .text "b" := by
  rw [parts_pairGraph] at mentioned
  simp only [Parts.Mentions, List.mem_cons, List.not_mem_nil, or_false] at mentioned
  rcases mentioned with ⟨_, rfl | rfl, rfl⟩ | ⟨_, rfl | rfl | rfl, rfl | rfl⟩
  all_goals simp

theorem retouched_pairGraph : Relation.ReflTransGen
    (Retouch (.ofFormat { edgeWeights := true })) pairGraph.parts retouchedPair := by
  refine .head (.rename pairNames ?_ ?_ ?_) ?_
  · exact fun _ _ => by unfold pairNames; split <;> rfl
  · intro a b first second
    rcases mem_pairNames first with rfl | rfl
    · rcases mem_pairNames second with rfl | rfl
      · decide +kernel
      · decide +kernel
    · rcases mem_pairNames second with rfl | rfl
      · decide +kernel
      · decide +kernel
  · intro _ a mentioned
    have renamed : (pairNames a).HasText := by unfold pairNames; split <;> exact ⟨_, rfl⟩
    have named : a.HasText := by rcases mem_pairNames mentioned with rfl | rfl <;> exact ⟨_, rfl⟩
    exact iff_of_true renamed named
  rw [parts_pairGraph]
  refine .head (.title (.text "pair") [(.text "checked", .bool true)]) ?_
  refine .head (.reverse (.cons (.inr rfl) (.cons (.inl rfl) (.cons (.inl rfl) .nil)))) ?_
  refine .head (.deleteLoop (show _ = [_] ++ _ :: [_] from rfl) (by decide +kernel)) ?_
  refine .head (b := { retouchedPair with
    vertices := [{ name := .text "x" }, { name := .text "y" }] }) (.labels ?_) ?_
  · exact .cons ⟨rfl, rfl, ⟨[" 3", "late"], rfl⟩, fun _ => rfl⟩
      (.cons ⟨rfl, rfl, ⟨[], rfl⟩, fun _ => rfl⟩ .nil)
  · refine .single (.vertices rfl (.cons ?_ (.cons ?_ .nil)))
    · exact ⟨fun _ => rfl, fun _ => rfl⟩
    · exact ⟨fun _ => rfl, fun _ => rfl⟩

theorem render_iff_of_retouched_pairGraph :
    ∃ h, retouchedPair.build = .ok h ∧
      (render 64 h (.ofFormat { edgeWeights := true })).outcome =
        .ok "2 2 001\n2 3 2 1\n1 3 1 1\n".toList := by
  have rendered : (render 64 pairGraph (.ofFormat { edgeWeights := true })).outcome =
      .ok "2 2 001\n2 3 2 1\n1 3 1 1\n".toList :=
    toOption_eq_some.mp (by decide +kernel)
  obtain ⟨h, built, -, same⟩ := render_iff_of_retouched reachable_pairGraph retouched_pairGraph
  exact ⟨h, built, (same _).mp rendered⟩

end Metis

end TaskGraph
