/-
Module: TaskGraph.Proofs.Network.Listing
Purpose: The links of edges listed by source, by target and by key: there is one for each edge, and
  a network to which nodes and then edges are added one after the other lists them so.
Main exports:
  Edge.ends, Edge.entry, Graph.names, listing, listing_perm, Multigraph.foldl_addNode,
  Multigraph.foldl_addLink
-/
import TaskGraph.Network
import TaskGraph.Proofs.Graph.Canonical
import TaskGraph.Proofs.Network.Numbering
import TaskGraph.Proofs.Value.Access

namespace TaskGraph

/-! ### Entries -/

/-- Texts are the labels that they are. -/
theorem Value.labelTexts_map_text (labels : List Text) :
    Value.labelTexts (labels.map .text) = .ok labels := by
  induction labels with
  | nil => rfl
  | cons label rest inductionHypothesis =>
      rw [List.map_cons, Value.labelTexts, inductionHypothesis]
      rfl

theorem Vertex.exists_weightsText {v : Vertex} {labels : List Text}
    (weights : v.weights = .list (labels.map .text)) : ∃ s, v.weightsText = .ok s := by
  have walked : v.weights.walk = .ok (labels.map .text) := by
    rw [weights]
    rfl
  rw [weightsText, walked, ok_bind, Value.labelTexts_map_text]
  split
  · exact ⟨_, rfl⟩
  · exact ⟨_, rfl⟩

namespace Edge

/-- The names at the two ends of an edge. -/
def ends (e : Edge) : Text × Text :=
  (e.src.plain, e.dest.plain)

/-- The link that stands for an edge, with a key among those between its ends. -/
def entry (e : Edge) (key : Nat) : NetworkLink where
  src := e.src
  dest := e.dest
  key
  name := e.name
  weights := e.weightsText.toOption.getD Text.empty

/-- The attributes of the link that stands for an edge. -/
def attributes (e : Edge) : LinkAttributes where
  name := e.name
  weights := e.weightsText.toOption.getD Text.empty

/-- Texts as weights are written. -/
theorem Textual.weightsText_eq {e : Edge} (textual : e.Textual) (key : Nat) :
    e.weightsText = .ok (e.entry key).weights := by
  obtain ⟨labels, weights⟩ := textual
  have written : ∃ s, e.weightsText = .ok s := by
    rw [weightsText, weights]
    split
    · exact ⟨_, rfl⟩
    · exact ⟨_, by rw [Value.labelTexts_map_text]; rfl⟩
  obtain ⟨s, written⟩ := written
  rw [entry, written]
  rfl

theorem Textual.attributesOf_eq {e : Edge} (textual : e.Textual) {s t : Text}
    (src : e.src = .text s) (dest : e.dest = .text t) :
    Network.attributesOf e = .ok e.attributes := by
  have named : e.asName = .ok e.name := by
    rw [asName, name, src, dest]
    rfl
  rw [Network.attributesOf, named, ok_bind, textual.weightsText_eq 0]
  rfl

end Edge

/-- The names of the vertices in their order. -/
def Graph.names (g : Graph) : List Text :=
  g.vertices.map (·.name.plain)

/-! ### Edges by their ends -/

/-- The names of the targets of the edges with a source, in the order of the first edge to each. -/
def targetsOf (edges : List Edge) (source : Text) : List Text :=
  ((edges.filter fun e => e.src.plain = source).map (·.dest.plain)).eraseDups

/-- The edges between two names, in their order. -/
def between (edges : List Edge) (ends : Text × Text) : List Edge :=
  edges.filter fun e => e.ends = ends

/-- The links of the edges between two names: their keys count from zero. -/
def linksOf (edges : List Edge) (ends : Text × Text) : List NetworkLink :=
  (between edges ends).zipIdx.map fun entry => entry.1.entry entry.2

/-- The links of the edges with a source: by target, and then by key. -/
def linksAt (edges : List Edge) (source : Text) : List NetworkLink :=
  (targetsOf edges source).flatMap fun target => linksOf edges (source, target)

/-- The ends of edges: by source in the order of some names, and by target in the order of the
first edge from the source to each. -/
def joined (names : List Text) (edges : List Edge) : List (Text × Text) :=
  names.flatMap fun source => (targetsOf edges source).map fun target => (source, target)

/-- The links of edges: by their ends, and then by key. -/
def listing (names : List Text) (edges : List Edge) : List NetworkLink :=
  (joined names edges).flatMap (linksOf edges)

section Listing

variable {names : List Text} {edges : List Edge}

theorem mem_targetsOf {source target : Text} :
    target ∈ targetsOf edges source ↔ ∃ e ∈ edges, e.ends = (source, target) := by
  simp [targetsOf, Edge.ends, and_assoc]

theorem nodup_targetsOf (edges : List Edge) (source : Text) : (targetsOf edges source).Nodup :=
  nodup_eraseDups _

theorem nodup_joined (different : names.Nodup) : (joined names edges).Nodup := by
  rw [joined, List.nodup_flatMap]
  constructor
  · intro source _
    exact (nodup_targetsOf edges source).map fun a b same => (Prod.ext_iff.mp same).2
  · refine different.imp fun apart pair first second => ?_
    obtain ⟨_, -, rfl⟩ := List.mem_map.mp first
    obtain ⟨_, -, same⟩ := List.mem_map.mp second
    exact apart (Prod.ext_iff.mp same).1.symm

theorem listing_eq_flatMap (names : List Text) (edges : List Edge) :
    listing names edges = names.flatMap (linksAt edges) := by
  rw [listing, joined, List.flatMap_assoc]
  refine List.flatMap_congr fun source _ => ?_
  rw [List.flatMap_map, linksAt]

/-- There is one link for each edge, with the number of edges before it that have the same ends. -/
theorem listing_perm (different : names.Nodup) (covered : ∀ e ∈ edges, e.src.plain ∈ names) :
    (listing names edges).Perm
      ((numbered Edge.ends edges).map fun entry => entry.1.entry entry.2) := by
  have grouped : listing names edges = ((joined names edges).flatMap fun ends =>
      (numbered Edge.ends edges).filter fun entry => entry.1.ends = ends).map
        fun entry => entry.1.entry entry.2 := by
    rw [listing, List.map_flatMap]
    refine List.flatMap_congr fun ends _ => ?_
    rw [filter_numbered, linksOf, between]
  rw [grouped]
  refine (perm_flatMap_filter (fun entry : Edge × Nat => entry.1.ends) (nodup_joined different)
    fun entry member => ?_).map _
  have found := (mem_numbered_iff Edge.ends).mp member
  have inside := (List.mem_filter.mp (List.mem_of_getElem? found)).1
  refine List.mem_flatMap.mpr ⟨entry.1.src.plain, covered _ inside, ?_⟩
  exact List.mem_map.mpr ⟨entry.1.dest.plain, mem_targetsOf.mpr ⟨_, inside, rfl⟩, rfl⟩

end Listing

/-! ### Adding to a network -/

section Alter

variable {β : Type}

/-- A new name comes last. -/
theorem alter_of_forall_not {name : Value} (change : Option β → β) {entries : List (Value × β)}
    (isNew : ∀ entry ∈ entries, ¬entry.1.same name = true) :
    alter name change entries = entries ++ [(name, change none)] := by
  induction entries with
  | nil => rfl
  | cons entry rest inductionHypothesis =>
      obtain ⟨other, later⟩ := List.forall_mem_cons.mp isNew
      rw [alter, if_neg other, inductionHypothesis later]
      rfl

variable {keys : List Text} {key : Text} (change : Option β → β) (under : Text → β)

theorem alter_of_not_mem (isNew : key ∉ keys) :
    alter (.text key) change (keys.map fun k => (Value.text k, under k)) =
      (keys.map fun k => (Value.text k, under k)) ++ [(.text key, change none)] := by
  refine alter_of_forall_not change (List.forall_mem_map.mpr fun k member same => isNew ?_)
  rw [Value.text_same_iff, Value.text.injEq] at same
  exact same ▸ member

/-- A known name stays where it is. -/
theorem alter_of_mem (different : keys.Nodup) (known : key ∈ keys) :
    alter (.text key) change (keys.map fun k => (Value.text k, under k)) =
      keys.map fun k => (Value.text k, if k = key then change (some (under k)) else under k) := by
  induction keys with
  | nil => cases known
  | cons k rest inductionHypothesis =>
      obtain ⟨isNew, others⟩ := List.nodup_cons.mp different
      rw [List.map_cons, List.map_cons, alter]
      by_cases here : k = key
      · subst here
        have untouched : ∀ k' ∈ rest, (Value.text k', under k') =
            (Value.text k', if k' = k then change (some (under k')) else under k') := by
          intro k' member
          have apart : k' ≠ k := fun same => isNew (same ▸ member)
          rw [if_neg apart]
        rw [if_pos (Value.text_same_iff.mpr rfl), if_pos rfl, List.map_congr_left untouched]
      · have later := (List.mem_cons.mp known).resolve_left (Ne.symm here)
        have other : ¬(Value.text k).same (.text key) = true := fun same =>
          here (Value.text.inj (Value.text_same_iff.mp same)).symm
        rw [if_neg other, if_neg here, inductionHypothesis others later]

end Alter

namespace Multigraph

/-- The attributes of the links between two names, under their keys. -/
def keyed (edges : List Edge) (ends : Text × Text) : List (Nat × LinkAttributes) :=
  (between edges ends).zipIdx.map fun entry => (entry.2, entry.1.attributes)

/-- The links that leave a source, by target. -/
def rowOf (edges : List Edge) (source : Text) : LinkRow :=
  (targetsOf edges source).map fun target => (Value.text target, keyed edges (source, target))

/-- Edges put into groups by source and target. -/
def grouped (names : List Text) (edges : List Edge) : List (Value × LinkRow) :=
  names.map fun source => (Value.text source, rowOf edges source)

/-- Groups of edges are listed as their links. -/
theorem links_grouped (nodes : List (Value × NetworkNode)) (names : List Text)
    {edges : List Edge} (texts : ∀ e ∈ edges, ∃ s t : Text, e.src = .text s ∧ e.dest = .text t) :
    links { nodes, rows := grouped names edges } = listing names edges := by
  rw [links, grouped, List.flatMap_map, listing_eq_flatMap]
  refine List.flatMap_congr fun source _ => ?_
  dsimp only
  rw [rowOf, List.flatMap_map, linksAt]
  refine List.flatMap_congr fun target _ => ?_
  dsimp only
  rw [keyed, linksOf, List.map_map]
  refine List.map_congr_left fun entry member => ?_
  have among := List.fst_mem_of_mem_zipIdx member
  obtain ⟨inside, here⟩ := List.mem_filter.mp among
  obtain ⟨s, t, src, dest⟩ := texts entry.1 inside
  rw [decide_eq_true_eq, Edge.ends, src, dest] at here
  obtain ⟨rfl, rfl⟩ := Prod.mk.inj here
  simp only [Function.comp_def, Edge.entry, Edge.attributes, src, dest, Value.plain_text]

section AddEdge

variable (edges : List Edge) (e : Edge)

theorem keyed_append (ends : Text × Text) :
    keyed (edges ++ [e]) ends =
      if e.ends = ends then putLink e.attributes (some (keyed edges ends))
      else keyed edges ends := by
  rw [keyed, between, List.filter_append]
  split
  · rename_i same
    rw [List.filter_cons_of_pos (by simpa using same), List.filter_nil, List.zipIdx_append,
      List.map_append]
    simp [keyed, between, putLink]
  · rename_i other
    rw [List.filter_cons_of_neg (by simpa using other), List.filter_nil, List.append_nil]
    rfl

theorem targetsOf_append_of_ne {source : Text} (other : e.src.plain ≠ source) :
    targetsOf (edges ++ [e]) source = targetsOf edges source := by
  rw [targetsOf, List.filter_append, List.filter_cons_of_neg (by simpa using other),
    List.filter_nil, List.append_nil]
  rfl

theorem targetsOf_append_self :
    targetsOf (edges ++ [e]) e.src.plain =
      if e.dest.plain ∈ targetsOf edges e.src.plain then targetsOf edges e.src.plain
      else targetsOf edges e.src.plain ++ [e.dest.plain] := by
  rw [targetsOf, List.filter_append, List.filter_cons_of_pos (by simp), List.filter_nil,
    List.map_append, List.map_singleton, eraseDups_append_singleton]
  simp only [targetsOf, List.mem_eraseDups]

theorem keyed_of_not_mem {source target : Text} (noEdge : target ∉ targetsOf edges source) :
    keyed edges (source, target) = [] := by
  have none : between edges (source, target) = [] := by
    rw [between, List.filter_eq_nil_iff]
    intro e member same
    exact noEdge (mem_targetsOf.mpr ⟨e, member, by simpa using same⟩)
  rw [keyed, none]
  rfl

/-- The row of a source has one more link after an edge, at its target or at the end. -/
theorem alter_row :
    alter (.text e.dest.plain) (putLink e.attributes) (rowOf edges e.src.plain) =
      rowOf (edges ++ [e]) e.src.plain := by
  have changed (target : Text) : keyed (edges ++ [e]) (e.src.plain, target) =
      if target = e.dest.plain then
        putLink e.attributes (some (keyed edges (e.src.plain, target)))
      else keyed edges (e.src.plain, target) := by
    rw [keyed_append]
    simp [Edge.ends, eq_comm]
  rw [rowOf, rowOf, targetsOf_append_self]
  by_cases known : e.dest.plain ∈ targetsOf edges e.src.plain
  · rw [alter_of_mem _ _ (nodup_targetsOf _ _) known, if_pos known]
    exact List.map_congr_left fun target _ => by rw [changed]
  · rw [alter_of_not_mem _ _ known, if_neg known, List.map_append, List.map_singleton, changed,
      if_pos rfl, keyed_of_not_mem edges known]
    congr 1
    refine List.map_congr_left fun target member => ?_
    have apart : target ≠ e.dest.plain := fun same => known (same ▸ member)
    rw [changed, if_neg apart]

/-- One more edge keeps the groups. -/
theorem addLink_grouped {nodes : List (Value × NetworkNode)} {names : List Text} {s t : Text}
    (different : names.Nodup) (src : e.src = .text s) (dest : e.dest = .text t)
    (known : s ∈ names) :
    addLink { nodes, rows := grouped names edges } e.src e.dest e.attributes =
      { nodes, rows := grouped names (edges ++ [e]) } := by
  have row := alter_row edges e
  rw [src, dest, Value.plain_text, Value.plain_text] at row
  rw [addLink, grouped, src, dest, alter_of_mem _ _ different known]
  refine congrArg (Multigraph.mk nodes) (List.map_congr_left fun source _ => ?_)
  by_cases here : source = s
  · subst here
    rw [if_pos rfl, Option.getD_some, row]
  · have other : e.src.plain ≠ source := by
      rw [src, Value.plain_text]
      exact Ne.symm here
    rw [if_neg here, rowOf, rowOf, targetsOf_append_of_ne edges e other]
    refine congrArg _ (List.map_congr_left fun target _ => ?_)
    rw [keyed_append, if_neg fun same => other (Prod.ext_iff.mp same).1]

end AddEdge

/-- Nodes that are added have no links. -/
theorem foldl_addNode {names : List Text} (different : names.Nodup)
    {made : List NetworkNode} (named : made.map (·.name) = names.map .text) :
    made.foldl addNode {} =
      { nodes := made.map fun node => (node.name, node), rows := grouped names [] } := by
  induction made using List.reverseRecOn generalizing names with
  | nil =>
      rw [List.map_nil, eq_comm, List.map_eq_nil_iff] at named
      rw [named]
      rfl
  | append_singleton earlier node inductionHypothesis =>
      rw [List.map_append, eq_comm, List.map_eq_append_iff] at named
      obtain ⟨first, last, rfl, firstNamed, lastNamed⟩ := named
      obtain ⟨name, rfl, isName⟩ := List.map_eq_singleton_iff.mp lastNamed
      replace isName : node.name = .text name := isName.symm
      obtain ⟨before, -, apart⟩ := List.nodup_append.mp different
      have isNew : name ∉ first := fun member => apart name member name (by simp) rfl
      have nodeNew : ∀ entry ∈ earlier.map fun node => (node.name, node),
          ¬entry.1.same node.name = true := by
        refine List.forall_mem_map.mpr fun other member same => isNew ?_
        have known : other.name ∈ first.map Value.text := firstNamed ▸ List.mem_map_of_mem member
        obtain ⟨s, inside, otherName⟩ := List.mem_map.mp known
        dsimp only at same
        rw [← otherName, isName, Value.text_same_iff, Value.text.injEq] at same
        exact same ▸ inside
      have row : alter node.name (·.getD []) (grouped first []) = grouped (first ++ [name]) [] := by
        rw [isName, grouped, alter_of_not_mem _ _ isNew, grouped, List.map_append]
        rfl
      rw [List.foldl_append, inductionHypothesis before firstNamed.symm, List.foldl_cons,
        List.foldl_nil, addNode, alter_of_forall_not _ nodeNew, row, List.map_append]
      rfl

/-- Edges that are added are put into groups: the groups of the edges so far are the invariant. -/
theorem foldl_addLink {nodes : List (Value × NetworkNode)} {names : List Text}
    (different : names.Nodup) {edges : List Edge}
    (texts : ∀ e ∈ edges, ∃ s t : Text, e.src = .text s ∧ e.dest = .text t ∧ s ∈ names) :
    edges.foldl (fun m e => addLink m e.src e.dest e.attributes)
        { nodes, rows := grouped names [] } =
      { nodes, rows := grouped names edges } := by
  induction edges using List.reverseRecOn with
  | nil => rfl
  | append_singleton earlier e inductionHypothesis =>
      rw [List.forall_mem_append, List.forall_mem_singleton] at texts
      obtain ⟨before, s, t, src, dest, known⟩ := texts
      rw [List.foldl_append, inductionHypothesis before, List.foldl_cons, List.foldl_nil,
        addLink_grouped earlier e different src dest known]

end Multigraph

end TaskGraph
