/-
Module: TaskGraph.Proofs.Graph.Adjacency
Purpose: The links that a graph keeps at its nodes are those of the sequence of all links, so what
  is asked of a vertex by its name is read off the list of all edges.
Main exports:
  Value.standFor_distinct, Graph.Consistent, Graph.Reachable.consistent,
  Graph.Consistent.place?_eq_ok_iff, Graph.Consistent.outgoing_eq_ok,
  Graph.Consistent.incoming_eq_ok, Graph.Consistent.neighbors_eq_ok
-/
import TaskGraph.Proofs.Graph.Reachable

namespace TaskGraph

/-- What is the same as a key is a key, and an equal one. -/
theorem Value.key?_eq_of_same {a b : Value} {k : Key} (keyed : a.key? = some k)
    (same : a.same b = true) : b.key? = some k := by
  have isKey : ∃ l, b.key? = some l := by
    cases b with
    | null | bool | int | float | text | bytes | date | moment => exact ⟨_, rfl⟩
    | list | tuple | set | map | web | link =>
        cases a with
        | null | bool | int | float | text | bytes | date | moment =>
            simp [Value.same, key?] at same
        | list | tuple | set | map | web | link => cases keyed
  obtain ⟨l, found⟩ := isKey
  rw [found, (same_iff_of_key? keyed found).mp same]

/-- Keys that are the same as one are the same as each other. -/
theorem Value.same_trans_of_key? {a b c : Value} {k : Key} (keyed : a.key? = some k)
    (first : a.same b = true) (second : a.same c = true) : b.same c = true :=
  (same_iff_of_key? (key?_eq_of_same keyed first) (key?_eq_of_same keyed second)).mpr rfl

theorem Value.same_self_of_isKey {a : Value} (isKey : a.isKey = true) : a.same a = true := by
  obtain ⟨k, keyed⟩ := Option.isSome_iff_exists.mp isKey
  exact (same_iff_of_key? keyed keyed).mpr rfl

/-- Some of the values stand for all: no two of them are the same, and each value is the same as
one of them. -/
structure Value.StandFor (chosen values : List Value) : Prop where
  inside : chosen ⊆ values
  different : chosen.Pairwise fun a b => a.same b = false
  reached : ∀ other, (∃ x ∈ chosen, x.same other = true) ↔ ∃ x ∈ values, x.same other = true

namespace Value.StandFor

variable {chosen values : List Value} {x : Value}

/-- A value that is the same as one of those that stand for all need not be chosen. -/
theorem append_known (stand : StandFor chosen values) (isKey : x.isKey = true)
    (known : chosen.any x.same = true) : StandFor chosen (values ++ [x]) where
  inside := List.subset_append_of_subset_left _ stand.inside
  different := stand.different
  reached other := by
    rw [stand.reached other]
    constructor
    · intro found
      obtain ⟨z, member, same⟩ := found
      exact ⟨z, List.mem_append_left _ member, same⟩
    · intro found
      obtain ⟨k, keyed⟩ := Option.isSome_iff_exists.mp isKey
      obtain ⟨y, seen, ySame⟩ := List.any_eq_true.mp known
      obtain ⟨z, member, zSame⟩ := found
      rcases List.mem_append.mp member with earlier | last
      · exact ⟨z, earlier, zSame⟩
      · rw [List.mem_singleton.mp last] at zSame
        exact ⟨y, stand.inside seen, same_trans_of_key? keyed ySame zSame⟩

/-- A value that is the same as none of those that stand for the others is chosen. -/
theorem append_new (stand : StandFor chosen values) (keyed : ∀ y ∈ values, y.isKey = true)
    (isNew : ¬chosen.any x.same = true) : StandFor (chosen ++ [x]) (values ++ [x]) where
  inside := List.append_subset.mpr
    ⟨List.subset_append_of_subset_left _ stand.inside, List.subset_append_right _ _⟩
  different := by
    rw [List.pairwise_append]
    refine ⟨stand.different, List.pairwise_singleton _ _, fun y seen z last => ?_⟩
    rw [List.mem_singleton.mp last, Bool.eq_false_iff]
    intro same
    have isKey := keyed y (stand.inside seen)
    obtain ⟨k, yKey⟩ := Option.isSome_iff_exists.mp isKey
    exact isNew (List.any_eq_true.mpr
      ⟨y, seen, same_trans_of_key? yKey same (same_self_of_isKey isKey)⟩)
  reached other := by
    simp only [List.mem_append, or_and_right, exists_or, stand.reached other]

end Value.StandFor

theorem Value.distinct_append_singleton (values : List Value) (x : Value) :
    distinct (values ++ [x]) =
      if (distinct values).any x.same then distinct values else distinct values ++ [x] := by
  simp [distinct, List.foldl_append]

/-- The first of keys that are the same stand for all of them. -/
theorem Value.standFor_distinct {values : List Value} (keyed : ∀ x ∈ values, x.isKey = true) :
    StandFor (distinct values) values := by
  induction values using List.reverseRecOn with
  | nil => exact ⟨List.Subset.refl _, List.Pairwise.nil, fun _ => Iff.rfl⟩
  | append_singleton earlier x inductionHypothesis =>
      rw [List.forall_mem_append, List.forall_mem_singleton] at keyed
      obtain ⟨earlierKeys, isKey⟩ := keyed
      have stand := inductionHypothesis earlierKeys
      rw [distinct_append_singleton]
      split
      · exact stand.append_known isKey ‹_›
      · exact stand.append_new earlierKeys ‹_›

/-- Items that are sorted by number are as many as there were. -/
theorem sum_length_filter {α : Type} {xs : List α} {number : α → Nat} {n : Nat}
    (within : ∀ x ∈ xs, number x < n) :
    ((List.range n).map fun i => (xs.filter (number · == i)).length).sum = xs.length := by
  have counted : ∀ i, (xs.filter (number · == i)).length = (xs.map number).count i := by
    intro i
    rw [List.count, List.countP_map, List.countP_eq_length_filter]
    rfl
  have total := Multiset.sum_count_eq_card (s := Finset.range n) (m := (xs.map number : List Nat))
    (by simpa using within)
  simp only [counted]
  rw [← List.sum_toFinset _ List.nodup_range]
  simpa [List.toFinset_range] using total

/-- A node has the links that start and that end at its place, in the order of all links, and its
vertex still has the name under which it was added. -/
structure Node.Lists (node : Node) (links : List Link) (place : Nat) : Prop where
  label : node.label = node.vertex.name
  outgoing : node.outgoing.toList = links.filter (·.source == place)
  incoming : node.incoming.toList = links.filter (·.target == place)

/-- An edge leads from one name to another, where edges are followed in a direction. -/
def Edge.Leads (e : Edge) (direction : Graph.Direction) (name other : Value) : Prop :=
  direction ≠ .inward ∧ e.src.same name = true ∧ e.dest.same other = true ∨
    direction ≠ .outward ∧ e.dest.same name = true ∧ e.src.same other = true

namespace Graph

/-- Names lead to their places, and each node lists the links at its place. -/
structure Consistent (g : Graph) : Prop where
  sound : g.Sound
  node : ∀ place (node : Node), g.nodes[place]? = some node → node.Lists g.links.toList place

/-- A new link is put at the nodes at its two ends. -/
theorem getElem?_nodes_join (g : Graph) (source target : Nat) (edge : Edge) (place : Nat) :
    (g.join source target edge).nodes[place]? = g.nodes[place]?.map fun node =>
      { node with
        outgoing :=
          if source = place then node.outgoing.push { edge, source, target } else node.outgoing
        incoming :=
          if target = place then node.incoming.push { edge, source, target }
          else node.incoming } := by
  simp only [join, Array.getElem?_modify]
  cases g.nodes[place]? with
  | none => simp
  | some node =>
      by_cases starts : source = place
      · by_cases ends : target = place
        · simp [starts, ends]
        · simp [starts, ends]
      · by_cases ends : target = place
        · simp [starts, ends]
        · simp [starts, ends]

/-- No link starts or ends at the place that the next vertex will get. -/
theorem Sound.filter_next {g : Graph} (sound : g.Sound) :
    g.links.toList.filter (·.source == g.nodes.size) = [] ∧
      g.links.toList.filter (·.target == g.nodes.size) = [] := by
  simp only [List.filter_eq_nil_iff, beq_iff_eq]
  constructor
  · intro l member same
    have within := lt_vertexCount (sound.link l member).1
    rw [same] at within
    exact Nat.lt_irrefl _ within
  · intro l member same
    have within := lt_vertexCount (sound.link l member).2
    rw [same] at within
    exact Nat.lt_irrefl _ within

namespace Consistent

variable {g : Graph}

theorem empty (name : Value) (metadata : Value.Entries) : Consistent { name, metadata } where
  sound := .empty name metadata
  node place node found := by simp at found

theorem push (consistent : Consistent g) {v : Vertex} {key : Key} (keyed : v.name.key? = some key)
    (isNew : g.register.find? key = none) : Consistent (g.push v key isNew) where
  sound := consistent.sound.push keyed isNew
  node place node found := by
    simp only [Graph.push, Array.getElem?_push] at found
    split at found
    · rename_i last
      cases found
      obtain ⟨starting, ending⟩ := consistent.sound.filter_next
      subst last
      exact ⟨rfl, starting.symm, ending.symm⟩
    · exact consistent.node place node found

theorem join (consistent : Consistent g) {source target : Nat} {edge : Edge}
    (sourceFound : g.place? edge.src = .ok (some source))
    (targetFound : g.place? edge.dest = .ok (some target)) :
    Consistent (g.join source target edge) where
  sound := consistent.sound.join sourceFound targetFound
  node place node found := by
    rw [getElem?_nodes_join] at found
    obtain ⟨before, held, ⟨⟩⟩ := Option.map_eq_some_iff.mp found
    obtain ⟨label, outgoing, incoming⟩ := consistent.node place before held
    rw [links_join, Array.toList_push]
    refine ⟨label, ?_, ?_⟩
    · by_cases starts : source = place
      · simp [starts, outgoing]
      · simp [starts, outgoing]
    · by_cases ends : target = place
      · simp [ends, incoming]
      · simp [ends, incoming]

theorem replaceVertex (consistent : Consistent g) {place : Nat} {v changed : Vertex}
    (held : g.vertices[place]? = some v) (named : changed.name = v.name) :
    Consistent (g.replaceVertex place changed) where
  sound := consistent.sound.replaceVertex held named
  node other node found := by
    simp only [Graph.replaceVertex, Array.getElem?_modify] at found
    split at found
    · rename_i here
      subst here
      obtain ⟨before, beforeHeld, ⟨⟩⟩ := Option.map_eq_some_iff.mp found
      obtain ⟨label, outgoing, incoming⟩ := consistent.node place before beforeHeld
      have same : before.vertex = v := by
        simp only [vertices, List.getElem?_map, Array.getElem?_toList, beforeHeld] at held
        exact Option.some.inj held
      exact ⟨by rw [label, same, named], outgoing, incoming⟩
    · exact consistent.node other node found

theorem invariant : Invariant Consistent where
  empty := empty
  push consistent keyed isNew := consistent.push keyed isNew
  join consistent sourceFound targetFound _ := consistent.join sourceFound targetFound
  replaceVertex consistent held named := consistent.replaceVertex held named

end Consistent

/-- In every graph that can be made each node lists the links at its place. -/
theorem Reachable.consistent {g : Graph} (reached : Reachable g) : Consistent g :=
  Consistent.invariant.of_reachable reached

/-! ### Names -/

namespace Consistent

variable {g : Graph} (consistent : Consistent g)

include consistent

theorem labels_eq : g.labels = g.vertices.map (·.name) := by
  rw [labels, vertices, List.map_map]
  refine List.map_congr_left fun node member => ?_
  obtain ⟨place, held⟩ := List.getElem?_of_mem member
  exact (consistent.node place node (by simpa using held)).label

theorem pairwise_names : g.vertices.Pairwise fun v w => v.name.same w.name = false := by
  rw [List.pairwise_iff_getElem]
  intro i j iWithin jWithin before
  have first := consistent.sound.vertex i _ (List.getElem?_eq_getElem iWithin)
  have second := consistent.sound.vertex j _ (List.getElem?_eq_getElem jWithin)
  rw [Bool.eq_false_iff, ne_eq, same_iff_place_eq first second]
  exact Nat.ne_of_lt before

/-- A name leads to the place of the vertex that has it. -/
theorem place?_eq_ok_iff {name : Value} {place : Nat} :
    g.place? name = .ok (some place) ↔
      ∃ v, g.vertices[place]? = some v ∧ v.name.same name = true := by
  constructor
  · intro found
    have within : place < g.vertices.length := by
      rw [length_vertices]
      exact lt_vertexCount found
    have held := List.getElem?_eq_getElem within
    exact ⟨_, held, (same_iff_place_eq (consistent.sound.vertex place _ held) found).mpr rfl⟩
  · intro named
    obtain ⟨v, held, same⟩ := named
    obtain ⟨key, vKey, found⟩ := place?_eq_ok.mp (consistent.sound.vertex place v held)
    exact place?_eq_ok.mpr ⟨key, Value.key?_eq_of_same vKey same, found⟩

theorem exists_vertex {name : Value} {place : Nat} (found : g.place? name = .ok (some place)) :
    ∃ v ∈ g.vertices, v.name.same name = true := by
  obtain ⟨v, held, same⟩ := consistent.place?_eq_ok_iff.mp found
  exact ⟨v, List.mem_of_getElem? held, same⟩

end Consistent

/-! ### What is asked by name -/

/-- What is asked at one end of the links is read off the names at that end of the edges. -/
theorem filter_edgeList_of_found {g : Graph} {named : Edge → Value} {placed : Link → Nat}
    (leads : ∀ l ∈ g.links.toList, g.place? (named l.edge) = .ok (some (placed l)))
    {name : Value} {place : Nat} (found : g.place? name = .ok (some place)) :
    g.edgeList.filter (fun e => (named e).same name) =
      (g.links.toList.filter (placed · == place)).map (·.edge) := by
  rw [edgeList, List.filter_map]
  refine congrArg (List.map Link.edge) (List.filter_congr fun l member => ?_)
  rw [Function.comp, Bool.eq_iff_iff, beq_iff_eq]
  exact same_iff_place_eq (leads l member) found

/-- A name that is not found is not at an end of an edge. -/
theorem filter_edgeList_of_absent {g : Graph} {named : Edge → Value} {placed : Link → Nat}
    (leads : ∀ l ∈ g.links.toList, g.place? (named l.edge) = .ok (some (placed l)))
    {name : Value} (absent : g.place? name = .ok none) :
    g.edgeList.filter (fun e => (named e).same name) = [] := by
  rw [List.filter_eq_nil_iff]
  intro e member same
  obtain ⟨l, inside, rfl⟩ := List.mem_map.mp member
  obtain ⟨k, endKey, held⟩ := place?_eq_ok.mp (leads l inside)
  obtain ⟨key, keyed, missing⟩ := place?_eq_ok.mp absent
  rw [(Value.same_iff_of_key? endKey keyed).mp same, missing] at held
  cases held

/-- The node of a vertex that is found. -/
theorem exists_node {g : Graph} {name : Value} {place : Nat}
    (found : g.place? name = .ok (some place)) :
    ∃ node, g.nodes[place]? = some node ∧ g.node? name = .ok (some node) := by
  have within : place < g.nodes.size := lt_vertexCount found
  refine ⟨g.nodes[place], Array.getElem?_eq_getElem within, ?_⟩
  rw [node?, found]
  simp [Except.map, within]

/-- The edges that the node of a vertex lists at one of their ends are those of all edges with its
name at that end; none if there is no such vertex. -/
theorem listed_eq_ok {g : Graph} {named : Edge → Value} {placed : Link → Nat}
    {listed : Node → Array Link}
    (leads : ∀ l ∈ g.links.toList, g.place? (named l.edge) = .ok (some (placed l)))
    (agrees : ∀ place node, g.nodes[place]? = some node →
      (listed node).toList = g.links.toList.filter (placed · == place))
    {name : Value} {key : Key} (keyed : name.key? = some key) :
    ((g.node? name).map fun node =>
        (node.map fun node => (listed node).toList.map (·.edge)).getD []) =
      .ok (g.edgeList.filter fun e => (named e).same name) := by
  have looked : g.place? name = .ok (g.register.find? key) := place?_eq_ok.mpr ⟨key, keyed, rfl⟩
  cases found : g.register.find? key with
  | none =>
      rw [found] at looked
      rw [filter_edgeList_of_absent leads looked, node?, looked]
      rfl
  | some place =>
      rw [found] at looked
      obtain ⟨node, held, answered⟩ := exists_node looked
      rw [filter_edgeList_of_found leads looked, answered, ← agrees place node held]
      rfl

namespace Consistent

variable {g : Graph} (consistent : Consistent g) {name : Value} {key : Key}
  (keyed : name.key? = some key)

include consistent

include keyed in
/-- The edges that leave a vertex are those of all edges with its name as their source. -/
theorem outgoing_eq_ok : g.outgoing name = .ok (g.edgeList.filter (·.src.same name)) :=
  listed_eq_ok (fun l member => (consistent.sound.link l member).1)
    (fun place node held => (consistent.node place node held).outgoing) keyed

include keyed in
/-- The edges that enter a vertex are those of all edges with its name as their target. -/
theorem incoming_eq_ok : g.incoming name = .ok (g.edgeList.filter (·.dest.same name)) :=
  listed_eq_ok (fun l member => (consistent.sound.link l member).2)
    (fun place node held => (consistent.node place node held).incoming) keyed

include keyed in
theorem edgesBetween_eq_ok (dest : Value) :
    g.edgesBetween name dest =
      .ok (g.edgeList.filter fun e => e.src.same name && e.dest.equal dest) := by
  rw [edgesBetween, consistent.outgoing_eq_ok keyed, Except.map, List.filter_filter]
  simp only [Bool.and_comm]

/-- The ends of edges are keys. -/
theorem isKey_of_mem_edgeList {e : Edge} (member : e ∈ g.edgeList) :
    e.src.isKey = true ∧ e.dest.isKey = true := by
  obtain ⟨l, inside, rfl⟩ := List.mem_map.mp member
  obtain ⟨source, target⟩ := consistent.sound.link l inside
  obtain ⟨k, sourceKey, -⟩ := place?_eq_ok.mp source
  obtain ⟨m, targetKey, -⟩ := place?_eq_ok.mp target
  exact ⟨Option.isSome_iff_exists.mpr ⟨k, sourceKey⟩, Option.isSome_iff_exists.mpr ⟨m, targetKey⟩⟩

include keyed in
/-- The neighbors of a name are told from the other ends of the edges at it. -/
theorem exists_ends (direction : Direction) :
    ∃ ends, g.neighbors name direction = .ok (Value.distinct ends) ∧
      (∀ x ∈ ends, x.isKey = true) ∧
      ∀ other, (∃ x ∈ ends, x.same other = true) ↔
        ∃ e ∈ g.edgeList, e.Leads direction name other := by
  let targets := (g.edgeList.filter (·.src.same name)).map (·.dest)
  let sources := (g.edgeList.filter (·.dest.same name)).map (·.src)
  have targetKeys : ∀ x ∈ targets, x.isKey = true := by
    intro x member
    obtain ⟨e, inside, rfl⟩ := List.mem_map.mp member
    exact (consistent.isKey_of_mem_edgeList (List.mem_filter.mp inside).1).2
  have sourceKeys : ∀ x ∈ sources, x.isKey = true := by
    intro x member
    obtain ⟨e, inside, rfl⟩ := List.mem_map.mp member
    exact (consistent.isKey_of_mem_edgeList (List.mem_filter.mp inside).1).1
  have targetEnds (other : Value) : (∃ x ∈ targets, x.same other = true) ↔
      ∃ e ∈ g.edgeList, e.src.same name = true ∧ e.dest.same other = true := by
    simp [targets, and_assoc]
  have sourceEnds (other : Value) : (∃ x ∈ sources, x.same other = true) ↔
      ∃ e ∈ g.edgeList, e.dest.same name = true ∧ e.src.same other = true := by
    simp [sources, and_assoc]
  rw [neighbors, consistent.outgoing_eq_ok keyed, consistent.incoming_eq_ok keyed, ok_bind, ok_bind]
  cases direction with
  | outward =>
      refine ⟨targets, rfl, targetKeys, fun other => ?_⟩
      rw [targetEnds]
      simp [Edge.Leads]
  | inward =>
      refine ⟨sources, rfl, sourceKeys, fun other => ?_⟩
      rw [sourceEnds]
      simp [Edge.Leads]
  | both =>
      refine ⟨targets ++ sources, rfl, ?_, fun other => ?_⟩
      · exact List.forall_mem_append.mpr ⟨targetKeys, sourceKeys⟩
      · simp only [List.mem_append, or_and_right, exists_or, targetEnds, sourceEnds]
        simp [Edge.Leads, and_or_left, exists_or]

include keyed in
/-- The neighbors of a vertex are the other ends of the edges at its name, each of them once. -/
theorem neighbors_eq_ok (direction : Direction) :
    ∃ found, g.neighbors name direction = .ok found ∧
      found.Pairwise (fun a b => a.same b = false) ∧
      ∀ other, (∃ x ∈ found, x.same other = true) ↔
        ∃ e ∈ g.edgeList, e.Leads direction name other := by
  obtain ⟨ends, asked, keys, led⟩ := consistent.exists_ends keyed direction
  have stand := Value.standFor_distinct keys
  exact ⟨_, asked, stand.different, fun other => (stand.reached other).trans (led other)⟩

/-! ### Counting -/

/-- What is asked at one end of the edges, vertex by vertex, are all edges. -/
theorem sum_length_filter_edgeList {named : Edge → Value} {placed : Link → Nat}
    (leads : ∀ l ∈ g.links.toList, g.place? (named l.edge) = .ok (some (placed l))) :
    (g.vertices.map fun v => (g.edgeList.filter fun e => (named e).same v.name).length).sum =
      g.edgeCount := by
  have each : ∀ entry ∈ g.vertices.zipIdx,
      (g.edgeList.filter fun e => (named e).same entry.1.name).length =
        (g.links.toList.filter (placed · == entry.2)).length := by
    intro entry member
    have held := consistent.sound.vertex _ _ (List.mem_zipIdx_iff_getElem?.mp member)
    rw [filter_edgeList_of_found leads held, List.length_map]
  have places : g.vertices.zipIdx.map (·.2) = List.range g.vertexCount := by
    rw [List.zipIdx_map_snd, length_vertices, List.range_eq_range']
  calc (g.vertices.map fun v => (g.edgeList.filter fun e => (named e).same v.name).length).sum
      = (g.vertices.zipIdx.map fun entry =>
          (g.edgeList.filter fun e => (named e).same entry.1.name).length).sum := by
        rw [← List.zipIdx_map_fst 0 g.vertices, List.map_map]
        simp only [List.zipIdx_map_fst]
        rfl
    _ = (g.vertices.zipIdx.map fun entry =>
          (g.links.toList.filter (placed · == entry.2)).length).sum := by
        rw [List.map_congr_left each]
    _ = ((List.range g.vertexCount).map fun place =>
          (g.links.toList.filter (placed · == place)).length).sum := by
        rw [← places, List.map_map]
        rfl
    _ = g.edgeCount := sum_length_filter fun l member => lt_vertexCount (leads l member)

end Consistent

end Graph

end TaskGraph
