/-
Module: TaskGraph.Proofs.Export.Naming
Purpose: The names of edges as exports write them: escapes keep names apart, every export has the
  names of the graph, and the names of an expansion tell the ends of edges unless these overlap.
Main exports:
  GraphMl.escapeText_inj, Json.writtenText_inj, Graph.NamesExported, edge_names_of_expand,
  edges_share_name
-/
import TaskGraph.GraphMl
import TaskGraph.Proofs.Expansion.EdgeNames
import TaskGraph.Proofs.Graph.Reading
import TaskGraph.Proofs.Json.RoundTrip

namespace TaskGraph

/-! ### Escapes -/

/-- Items of which each is told by what is written from it on are told by all that is written. -/
theorem eq_of_flatMap_eq {α β : Type} {write : α → List β} (written : ∀ a, write a ≠ [])
    (told : ∀ a b rest others, write a ++ rest = write b ++ others → a = b) {xs ys : List α}
    (same : xs.flatMap write = ys.flatMap write) : xs = ys := by
  induction xs generalizing ys with
  | nil =>
      cases ys with
      | nil => rfl
      | cons y others =>
          rw [List.flatMap_nil, List.flatMap_cons] at same
          exact absurd (List.append_eq_nil_iff.mp same.symm).1 (written y)
  | cons x rest inductionHypothesis =>
      cases ys with
      | nil =>
          rw [List.flatMap_nil, List.flatMap_cons] at same
          exact absurd (List.append_eq_nil_iff.mp same).1 (written x)
      | cons y others =>
          rw [List.flatMap_cons, List.flatMap_cons] at same
          obtain rfl := told x y _ _ same
          rw [inductionHypothesis (List.append_cancel_left same)]

namespace GraphMl

/-- A symbol of a text. -/
def textSymbol : Symbol → List Char
  | .char c => textChar c
  | .half offset => numbered offset

theorem escapeText_eq (s : Text) : escapeText s = String.ofList (s.toList.flatMap textSymbol) := rfl

/-- A character stands for itself, but three of them are written by name. -/
theorem textChar_cases (c : Char) :
    (c ≠ '&' ∧ textChar c = [c]) ∨ (c = '&' ∧ textChar c = ['&', 'a', 'm', 'p', ';']) ∨
      (c = '<' ∧ textChar c = ['&', 'l', 't', ';']) ∨
      (c = '>' ∧ textChar c = ['&', 'g', 't', ';']) := by
  unfold textChar
  split
  · exact .inr (.inl ⟨rfl, rfl⟩)
  · exact .inr (.inr (.inl ⟨rfl, rfl⟩))
  · exact .inr (.inr (.inr ⟨rfl, rfl⟩))
  · rename_i other _ _
    exact .inl ⟨other, rfl⟩

theorem numbered_eq (offset : Fin 0x800) :
    numbered offset = '&' :: '#' :: (Text.digitsOf (Symbol.half offset).code ++ [';']) := by
  rw [numbered, String.toList_append, String.toList_append, List.append_assoc]
  rfl

theorem semicolon_not_mem_digitsOf (n : Nat) : ';' ∉ Text.digitsOf n :=
  fun member => absurd (Text.isPlainDigit_of_mem_digitsOf member) (by decide)

/-- A number ends at the first semicolon. -/
theorem numbered_told {a b : Fin 0x800} {rest others : List Char}
    (same : numbered a ++ rest = numbered b ++ others) : a = b := by
  simp only [numbered_eq, List.cons_append, List.append_assoc, List.nil_append,
    List.cons.injEq, true_and] at same
  rcases append_cons_eq_append_cons_iff.mp same with
    ⟨digits, -⟩ | ⟨between, digits, -⟩ | ⟨between, digits, -⟩
  · have codes := digitsOf_inj digits
    rw [Symbol.code, Symbol.code] at codes
    exact Fin.ext (by omega)
  · exact absurd (by rw [digits]; simp) (semicolon_not_mem_digitsOf (Symbol.half b).code)
  · exact absurd (by rw [digits]; simp) (semicolon_not_mem_digitsOf (Symbol.half a).code)

theorem textChar_ne_numbered {c : Char} {offset : Fin 0x800} {rest others : List Char} :
    textChar c ++ rest ≠ numbered offset ++ others := by
  intro same
  rw [numbered_eq] at same
  rcases textChar_cases c with ⟨other, written⟩ | ⟨-, written⟩ | ⟨-, written⟩ | ⟨-, written⟩
  all_goals grind

theorem textChar_told {c d : Char} {rest others : List Char}
    (same : textChar c ++ rest = textChar d ++ others) : c = d := by
  rcases textChar_cases c with ⟨other, written⟩ | ⟨rfl, written⟩ | ⟨rfl, written⟩ | ⟨rfl, written⟩
  all_goals
    rcases textChar_cases d with ⟨_, also⟩ | ⟨rfl, also⟩ | ⟨rfl, also⟩ | ⟨rfl, also⟩
    all_goals grind

/-- Texts are written alike only if they are the same. -/
theorem escapeText_inj {a b : Text} : escapeText a = escapeText b ↔ a = b := by
  constructor
  · intro same
    rw [escapeText_eq, escapeText_eq, String.ofList_inj] at same
    refine Text.toList_inj.mp (eq_of_flatMap_eq (fun s => ?_) (fun s u rest others same => ?_) same)
    · cases s with
      | char c =>
          rcases textChar_cases c with ⟨-, w⟩ | ⟨-, w⟩ | ⟨-, w⟩ | ⟨-, w⟩
          all_goals simp [textSymbol, w]
      | half offset => simp [textSymbol, numbered_eq]
    · cases s with
      | char c =>
          cases u with
          | char d => rw [textChar_told same]
          | half offset => exact absurd same textChar_ne_numbered
      | half offset =>
          cases u with
          | char d => exact absurd same.symm textChar_ne_numbered
          | half other => rw [numbered_told same]
  · exact fun same => by rw [same]

end GraphMl

/-- Texts in which no two halves make a character are written alike only if they are the same. -/
theorem Json.writtenText_inj {a b : Text} (aWhole : a.Whole) (bWhole : b.Whole) :
    writtenText a = writtenText b ↔ a = b := by
  constructor
  · intro same
    have reads := readsAs_text aWhole 0 _ [] le_rfl delimited_nil
    rw [same, readsAs_text bWhole 0 _ [] le_rfl delimited_nil] at reads
    cases reads
    rfl
  · exact fun same => by rw [same]

/-! ### Names in exports -/

namespace Graph

/-- Exports have the edges of a graph with their names: the stored form, from which the JSON text is
made, in their order, and the network, from which the GraphML document is made, by source and
target. -/
structure NamesExported (g : Graph) : Prop where
  stored : ∃ data items, g.toValue = .ok data ∧ data.itemsUnder? "edges" = some items ∧
    items.map (fun item => (item.part? "src", item.part? "dest", item.part? "name")) =
      g.edgeList.map fun e => (some e.src, some e.dest, some (.text e.name))
  network : ∃ network, Network.ofGraph g = .ok network ∧
    (network.links.map fun link => (link.src, link.dest, link.name)).Perm
      (g.edgeList.map fun e => (e.src, e.dest, e.name)) ∧
    ∀ link ∈ network.links, ∃ weights,
      GraphMl.linkData link = .ok [⟨⟨.edge, "name", "string"⟩, link.name⟩, weights]

/-- A graph whose labels are texts is exported with the names of its edges. -/
theorem Lettered.namesExported {g : Graph} (lettered : g.Lettered) (consistent : g.Consistent)
    (textual : ∀ e ∈ g.edgeList, e.Textual) : g.NamesExported where
  stored := by
    have listed : g.Listed := fun v member => by
      obtain ⟨labels, weights⟩ := lettered.weights v member
      exact ⟨_, weights⟩
    refine ⟨g.stored, _, listed.toValue_eq, g.itemsUnder?_edges_stored, ?_⟩
    rw [List.map_map]
    refine List.map_congr_left fun e _ => ?_
    simp [Edge.toValue, Value.part?, Value.reveal]
  network := by
    obtain ⟨network, made, -, -, links⟩ := Network.exists_ofGraph consistent lettered textual
    have perm := listing_perm (nodup_names consistent lettered)
      fun e => plain_mem_names consistent lettered (e := e)
    refine ⟨network, made, ?_, fun link _ => ⟨_, rfl⟩⟩
    have records : (numbered Edge.ends g.edgeList).map
        ((fun link : NetworkLink => (link.src, link.dest, link.name)) ∘
          fun entry => entry.1.entry entry.2) =
        g.edgeList.map fun e => (e.src, e.dest, e.name) := by
      rw [← map_fst_numbered Edge.ends g.edgeList, List.map_map, map_fst_numbered]
      rfl
    rw [links, ← records, ← List.map_map]
    exact perm.map _

end Graph

open Expansion

/-- In what an expansion returns, two edges have one name exactly if they are parallel or their ends
overlap, and then they do leave different instances; where no component has an arrow in its name,
only parallel edges have one name.  These names are what exports write, in ways that keep different
names apart. -/
theorem edge_names_of_expand {t : Topology} {key : Option Value} {labels : Labels} {g : Graph}
    (built : (expand t key labels).outcome = .ok g) :
    (∀ e ∈ g.edgeList, ∀ f ∈ g.edgeList,
      (e.name = f.name ↔ (e.src = f.src ∧ e.dest = f.dest) ∨
        Overlap t (e.src, e.dest) (f.src, f.dest) ∨ Overlap t (f.src, f.dest) (e.src, e.dest)) ∧
      (Overlap t (e.src, e.dest) (f.src, f.dest) → e.src ≠ f.src) ∧
      (GraphMl.escapeText e.name = GraphMl.escapeText f.name ↔ e.name = f.name) ∧
      (e.name.Whole → f.name.Whole →
        (Json.writtenText e.name = Json.writtenText f.name ↔ e.name = f.name))) ∧
    ((∀ s : Text, .text s ∈ t.componentNames → .char '>' ∉ s.toList) →
      ∀ e ∈ g.edgeList, ∀ f ∈ g.edgeList,
        (e.name = f.name ↔ e.src = f.src ∧ e.dest = f.dest)) ∧
    g.NamesExported := by
  refine ⟨fun e first f second => ⟨name_eq_name_iff built first second, (·.src_ne),
    GraphMl.escapeText_inj, Json.writtenText_inj⟩, fun arrowless e first f second => ?_, ?_⟩
  · rw [name_eq_name_iff built first second]
    simp only [not_overlap_of_arrowless arrowless, or_false]
  · obtain ⟨lettered, textual⟩ := lettered_of_expand built
    exact lettered.namesExported (names_of_expand built).2.1 textual

/-- Two pairs of components, the names of which make one line of three instances. -/
def relays : Topology where
  spouts :=
    [{ name := .text "a", config := [.entry (.text defaultParallelismKey) (.text "2")] },
     { name := .text "a-2>b", config := [.entry (.text defaultParallelismKey) (.text "3")] }]
  bolts :=
    [{ name := .text "b-3>d"
       config := [.entry (.text defaultParallelismKey) (.text "1")]
       inputs := [{ component := .text "a" }] },
     { name := .text "d"
       config := [.entry (.text defaultParallelismKey) (.text "1")]
       inputs := [{ component := .text "a-2>b" }] }]

/-- The instances of the components of the relays. -/
def relaySizes (c : Component) : Nat :=
  if c.name.plain = "a" then 2 else if c.name.plain = "a-2>b" then 3 else 1

/-- The last instances of the sources send to the bolts along edges of one name. -/
theorem edge_names_of_expand_relays :
    ∃ g, (expand relays none).outcome = .ok g ∧ g.NamesExported ∧
      ∃ e ∈ g.edgeList, ∃ f ∈ g.edgeList, e.src = .text "a-2" ∧ f.src = .text "a-2>b-3" ∧
        Overlap relays (e.src, e.dest) (f.src, f.dest) ∧ e.name = f.name := by
  obtain ⟨g, built, edges⟩ := exists_expand_edges (t := relays) relaySizes rfl rfl
    (by decide +kernel) (by decide +kernel)
  obtain ⟨names, -, exported⟩ := edge_names_of_expand built
  obtain ⟨e, first, eSrc, eDest⟩ := edges ("a-2", "b-3>d-1") (by decide +kernel)
  obtain ⟨f, second, fSrc, fDest⟩ := edges ("a-2>b-3", "d-1") (by decide +kernel)
  have overlap : Overlap relays (e.src, e.dest) (f.src, f.dest) := by
    have declared : ∀ s ∈ (["a", "b-3>d", "a-2>b", "d"] : List Text),
        .text s ∈ relays.componentNames := by
      simp [relays, Topology.componentNames, Topology.components, Component.name]
    have instances := (overlap_iff (i := 2) (k := 3) (j := 1) (l := 1) declared).mpr
      ⟨"b", by decide +kernel, by decide +kernel, rfl⟩
    have written : (instanceName (.text "a") 2, instanceName (.text "b-3>d") 1,
        instanceName (.text "a-2>b") 3, instanceName (.text "d") 1) =
          (("a-2", "b-3>d-1", "a-2>b-3", "d-1") : Text × Text × Text × Text) := by
      decide +kernel
    simp only [Prod.mk.injEq] at written
    rw [eSrc, eDest, fSrc, fDest]
    rwa [written.1, written.2.1, written.2.2.1, written.2.2.2] at instances
  exact ⟨g, built, exported, e, first, f, second, eSrc, fSrc, overlap,
    ((names e first f second).1).mpr (.inr (.inl overlap))⟩

/-- Two bolts that send to each other, with the name of an edge to one of them as the name of the
other. -/
def pingPong : Topology where
  bolts :=
    [{ name := .text "a"
       config := [.entry (.text defaultParallelismKey) (.text "1")]
       inputs := [{ component := .text "a-1>a" }] },
     { name := .text "a-1>a"
       config := [.entry (.text defaultParallelismKey) (.text "1")]
       inputs := [{ component := .text "a" }] }]

/-- The two halves of a character, as a text in which they are not joined. -/
def smileHalves : Text := ⟨[.ofCode 0xd83d, .ofCode 0xde00]⟩

/-- A character and its halves as the names of two spouts that send to one bolt. -/
def smiles : Topology where
  spouts :=
    [{ name := .text "😀", config := [.entry (.text defaultParallelismKey) (.text "1")] },
     { name := .text smileHalves, config := [.entry (.text defaultParallelismKey) (.text "1")] }]
  bolts :=
    [{ name := .text "b"
       config := [.entry (.text defaultParallelismKey) (.text "1")]
       inputs := [{ component := .text "😀" }, { component := .text smileHalves }] }]

/-- Edges of one name may go between different instances, and JSON may write different names of
edges alike. -/
theorem edges_share_name :
    (∃ g, (expand pingPong none).outcome = .ok g ∧ ∃ e ∈ g.edgeList, ∃ f ∈ g.edgeList,
      e.name = f.name ∧ ¬ (e.src = f.src ∧ e.dest = f.dest)) ∧
    ∃ g, (expand smiles none).outcome = .ok g ∧ ∃ e ∈ g.edgeList, ∃ f ∈ g.edgeList,
      e.name ≠ f.name ∧ Json.writtenText e.name = Json.writtenText f.name := by
  constructor
  · obtain ⟨g, built, edges⟩ := exists_expand_edges (t := pingPong) (fun _ => 1) rfl rfl
      (by decide +kernel) (by decide +kernel)
    obtain ⟨e, first, eSrc, eDest⟩ := edges ("a-1", "a-1>a-1") (by decide +kernel)
    obtain ⟨f, second, fSrc, fDest⟩ := edges ("a-1>a-1", "a-1") (by decide +kernel)
    refine ⟨g, built, e, first, f, second, ?_, fun same => ?_⟩
    · rw [Edge.name_eq, Edge.name_eq, eSrc, eDest, fSrc, fDest]
      decide +kernel
    · rw [eSrc, fSrc] at same
      exact absurd (Value.text.inj same.1) (by decide +kernel)
  · obtain ⟨g, built, edges⟩ := exists_expand_edges (t := smiles) (fun _ => 1) rfl rfl
      (by decide +kernel) (by decide +kernel)
    obtain ⟨e, first, eSrc, eDest⟩ := edges ("😀-1", "b-1") (by decide +kernel)
    obtain ⟨f, second, fSrc, fDest⟩ := edges (smileHalves ++ "-1", "b-1") (by decide +kernel)
    refine ⟨g, built, e, first, f, second, ?_⟩
    rw [Edge.name_eq, Edge.name_eq, eSrc, eDest, fSrc, fDest]
    decide +kernel

end TaskGraph
