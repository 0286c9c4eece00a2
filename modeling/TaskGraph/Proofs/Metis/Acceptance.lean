/-
Module: TaskGraph.Proofs.Metis.Acceptance
Purpose: The reader of graph files accepts exactly the texts of the grammar, with the contents
  that the grammar gives them, and all other texts are faults of the file.
Main exports:
  Metis.parse_eq_ok, Metis.parse_refuses, Metis.parse_accepts_exactly
-/
import TaskGraph.Proofs.Metis.Agreement

namespace TaskGraph.Metis

/-! ### Blank lines at the end -/

theorem dropBlankLines_append {blank : List (List Symbol)}
    (empty : ∀ line ∈ blank, ∀ s ∈ line, s.is Text.isBlank = true) (rest : List (List Symbol)) :
    dropBlankLines blank.length (blank ++ rest) = rest := by
  induction blank with
  | nil => simp [dropBlankLines]
  | cons line others inductionHypothesis =>
      have stripped := (Text.strip_eq_nil_iff line).mpr (empty line (by simp))
      simp only [List.length_cons, List.cons_append, dropBlankLines, stripped, List.isEmpty_nil,
        if_true]
      exact inductionHypothesis fun other member => empty other (by simp [member])

/-- Only blank lines are dropped. -/
theorem exists_dropped (extra : Nat) (lines : List (List Symbol)) :
    ∃ blank, lines = blank ++ dropBlankLines extra lines ∧
      ∀ line ∈ blank, ∀ s ∈ line, s.is Text.isBlank = true := by
  induction extra generalizing lines with
  | zero => exact ⟨[], by simp [dropBlankLines], by simp⟩
  | succ extra inductionHypothesis =>
      cases lines with
      | nil => exact ⟨[], by simp [dropBlankLines], by simp⟩
      | cons line rest =>
          simp only [dropBlankLines]
          split
          · rename_i stripped
            obtain ⟨blank, restEq, empty⟩ := inductionHypothesis rest
            refine ⟨line :: blank, by rw [List.cons_append, ← restEq], fun other member => ?_⟩
            rcases List.mem_cons.mp member with rfl | later
            · exact (Text.strip_eq_nil_iff other).mp (List.isEmpty_iff.mp stripped)
            · exact empty other later
          · exact ⟨[], by simp, by simp⟩

/-- As many lines as there are vertices are left if and only if the body starts with them and
goes on with blank lines. -/
theorem vertexLines_eq_iff {vertexCount : Nat} {body lines : List (List Symbol)}
    (complete : lines.length = vertexCount) :
    vertexLines vertexCount body = lines ↔
      ∃ blank, body = lines ++ blank ∧
        ∀ line ∈ blank, ∀ s ∈ line, s.is Text.isBlank = true := by
  constructor
  · intro same
    subst same
    obtain ⟨blank, bodyEq, empty⟩ :=
      exists_dropped (body.length - vertexCount) body.reverse
    refine ⟨blank.reverse, ?_, fun line member => empty line (List.mem_reverse.mp member)⟩
    rw [vertexLines, ← List.reverse_append, ← bodyEq, List.reverse_reverse]
  · intro split
    rcases split with ⟨blank, rfl, empty⟩
    have extra : (lines ++ blank).length - vertexCount = blank.reverse.length := by
      rw [List.length_append, List.length_reverse]
      omega
    rw [vertexLines, extra, List.reverse_append, dropBlankLines_append, List.reverse_reverse]
    exact fun line member => empty line (List.mem_reverse.mp member)

theorem mem_of_mem_vertexLines {vertexCount : Nat} {body : List (List Symbol)}
    {line : List Symbol} (member : line ∈ vertexLines vertexCount body) : line ∈ body := by
  obtain ⟨blank, bodyEq, -⟩ := exists_dropped (body.length - vertexCount) body.reverse
  rw [← List.mem_reverse, bodyEq]
  exact List.mem_append_right _ (List.mem_reverse.mp member)

/-! ### All vertex lines -/

/-- The lines of the vertices are read one by one; their numbers serve messages only. -/
theorem mapM_vertexLine_eq_ok {lines : List (List Symbol)} {vertices : List VertexLine}
    (plain : ∀ line ∈ lines, PlainNumbers line) (format : Format) (vertexCount : Nat) :
    (lines.zipIdx.mapM fun (line, i) => vertexLine format vertexCount (i + 1) line) =
        .ok vertices ↔
      List.Forall₂ (fun line vertex => WritesAll line (VertexLine.numbers format vertex))
          lines vertices ∧
        ∀ vertex ∈ vertices, vertex.Fits format ∧
          ∀ neighbor ∈ vertex.neighbors, 1 ≤ neighbor ∧ neighbor ≤ vertexCount := by
  rw [← forall₂_and_right, ← List.zipIdx_map_fst 0 lines, List.forall₂_map_left_iff,
    List.zipIdx_map_fst]
  exact mapM_eq_ok_iff_of_mem fun entry member vertex =>
    vertexLine_eq_ok (plain entry.1 (List.fst_mem_of_mem_zipIdx member)) format vertexCount _
      vertex

/-! ### Files -/

theorem PlainNumbers.contentLine {text line : List Symbol} (plain : PlainNumbers text)
    (member : line ∈ contentLines text) : PlainNumbers line :=
  plain.line (List.mem_filter.mp member).1

/-- Outside the numbers of its vertices a file has no pairs. -/
theorem multiplicity_eq_zero {summary : Summary}
    (complete : summary.vertices.length = summary.vertexCount)
    (inRange : ∀ vertex ∈ summary.vertices, ∀ neighbor ∈ vertex.neighbors,
      1 ≤ neighbor ∧ neighbor ≤ summary.vertexCount)
    {u v : Nat} (outside : ¬ (1 ≤ u ∧ u ≤ summary.vertexCount) ∨
      ¬ (1 ≤ v ∧ v ≤ summary.vertexCount)) :
    summary.multiplicity u v = 0 := by
  cases u with
  | zero => rfl
  | succ i =>
      rw [Summary.multiplicity_succ]
      cases found : summary.vertices[i]? with
      | none => rfl
      | some vertex =>
          obtain ⟨within, -⟩ := List.getElem?_eq_some_iff.mp found
          have member := List.mem_of_getElem? found
          simp only [Option.map_some, Option.getD_some, List.count_eq_zero]
          intro listed
          have bounds := inRange vertex member v listed
          omega

namespace IsGraphFile

variable {text : List Symbol} {summary : Summary}

theorem length_vertices (file : IsGraphFile text summary) :
    summary.vertices.length = summary.vertexCount := by
  obtain ⟨first, body, blank, -, -, complete, written, -⟩ := file.layout
  rw [← complete, written.length_eq]

/-- The vertices agree also on pairs that the reader never looks at. -/
theorem checkAgreement (file : IsGraphFile text summary) : checkAgreement summary = .ok () := by
  refine (checkAgreement_eq_ok summary).mpr ⟨file.entries, file.loopless, fun u v => ?_⟩
  by_cases inside : (1 ≤ u ∧ u ≤ summary.vertexCount) ∧ 1 ≤ v ∧ v ≤ summary.vertexCount
  · exact file.symmetric u v inside.1.1 inside.1.2 inside.2.1 inside.2.2
  · rw [multiplicity_eq_zero file.length_vertices file.inRange (not_and_or.mp inside),
      multiplicity_eq_zero file.length_vertices file.inRange (not_and_or.mp inside).symm]

end IsGraphFile

/-- What the reader has found when it returns. -/
theorem parse_eq_ok_iff_steps {text first : List Symbol} {body : List (List Symbol)}
    (content : contentLines text = first :: body) (summary : Summary) :
    parse text = .ok summary ↔
      header first = .ok (summary.vertexCount, summary.edgeCount, summary.format) ∧
        (vertexLines summary.vertexCount body).length = summary.vertexCount ∧
        ((vertexLines summary.vertexCount body).zipIdx.mapM fun (line, i) =>
          vertexLine summary.format summary.vertexCount (i + 1) line) = .ok summary.vertices ∧
        checkAgreement summary = .ok () := by
  unfold parse
  rw [contentLines] at content
  simp only [content, bind_eq_ok, Prod.exists]
  constructor
  · intro steps
    rcases steps with ⟨vertexCount, edgeCount, format, head, run⟩
    split at run
    · cases run
    · rename_i complete
      simp only [bind_eq_ok] at run
      obtain ⟨vertices, lines, _, agree, ⟨⟩⟩ := run
      exact ⟨head, not_not.mp complete, lines, agree⟩
  · intro steps
    rcases steps with ⟨head, complete, lines, agree⟩
    refine ⟨_, _, _, head, ?_⟩
    rw [if_neg (not_not.mpr complete)]
    simp only [bind_eq_ok]
    exact ⟨_, lines, (), agree, rfl⟩

/-- The reader returns the contents that the grammar gives a text. -/
theorem parse_eq_ok {text : List Symbol} (plain : PlainNumbers text) (summary : Summary) :
    parse text = .ok summary ↔ IsGraphFile text summary := by
  have plainLine : ∀ line ∈ contentLines text, PlainNumbers line :=
    fun line member => plain.contentLine member
  cases content : contentLines text with
  | nil =>
      constructor
      · intro returned
        unfold parse at returned
        rw [contentLines] at content
        rw [content] at returned
        cases returned
      · intro file
        rcases file with ⟨⟨first, body, blank, other, -⟩, -⟩
        rw [content] at other
        cases other
  | cons first rest =>
      rw [content] at plainLine
      have plainHead : PlainNumbers first := plainLine first (by simp)
      rw [parse_eq_ok_iff_steps content, header_eq_ok plainHead]
      constructor
      · intro steps
        rcases steps with ⟨head, complete, lines, agree⟩
        obtain ⟨blank, restEq, empty⟩ := (vertexLines_eq_iff complete).mp rfl
        rw [mapM_vertexLine_eq_ok] at lines
        · obtain ⟨written, each⟩ := lines
          obtain ⟨entries, loopless, symmetric⟩ := (checkAgreement_eq_ok summary).mp agree
          exact
            { layout := ⟨first, _, blank, by rw [content, ← restEq], head, complete, written, empty⟩
              fits := fun vertex member => (each vertex member).1
              inRange := fun vertex member => (each vertex member).2
              loopless
              symmetric := fun u v _ _ _ _ => symmetric u v
              entries }
        · intro line member
          exact plainLine line (by rw [restEq]; simp [member])
      · intro file
        obtain ⟨_, lines, blank, other, head, complete, written, empty⟩ := file.layout
        rw [content] at other
        cases other
        have kept := (vertexLines_eq_iff complete).mpr ⟨blank, rfl, empty⟩
        refine ⟨head, by rw [kept, complete], ?_, file.checkAgreement⟩
        rw [kept, mapM_vertexLine_eq_ok fun line member => plainLine line (by simp [member])]
        exact ⟨written, fun vertex member => ⟨file.fits vertex member, file.inRange vertex member⟩⟩

/-- Whatever else is wrong with a text is a fault of the file. -/
theorem parse_refuses {text : List Symbol} (plain : PlainNumbers text) : Refuses (parse text) := by
  have plainLine : ∀ line ∈ contentLines text, PlainNumbers line :=
    fun line member => plain.contentLine member
  unfold parse
  rw [← contentLines]
  cases content : contentLines text with
  | nil => exact .refuse _
  | cons first rest =>
      rw [content] at plainLine
      refine .bind (header_refuses (plainLine first (by simp))) fun (n, m, format) _ => ?_
      simp only
      split
      · exact .bind (.refuse _) fun _ failed => (nomatch failed)
      · refine .bind (.mapM fun entry member => ?_) fun vertices _ =>
          .bind (checkAgreement_refuses _) fun _ _ => .ok _
        exact vertexLine_refuses format n _ (plainLine _ (List.mem_cons_of_mem _
          (mem_of_mem_vertexLines (List.fst_mem_of_mem_zipIdx member))))

/-- The reader returns the contents of a graph file, whose edges are as many as the vertex lines
list from a lower number to a higher one, and every other text is a fault of the file. -/
theorem parse_accepts_exactly {text : List Symbol} (plain : PlainNumbers text) :
    (∀ summary, parse text = .ok summary ↔ IsGraphFile text summary) ∧
      (∀ summary, IsGraphFile text summary → summary.edgeCount =
        ∑ u ∈ Finset.Icc 1 summary.vertexCount, ∑ v ∈ Finset.Ioc u summary.vertexCount,
          summary.multiplicity u v) ∧
      ((¬ ∃ summary, IsGraphFile text summary) →
        ∃ fault, parse text = .error (.graphFile fault)) := by
  refine ⟨parse_eq_ok plain, fun summary file => ?_, fun other => ?_⟩
  · exact edgeCount_eq_sum file.length_vertices file.inRange file.checkAgreement
  · cases parsed : parse text with
    | ok summary => exact absurd ⟨summary, (parse_eq_ok plain summary).mp parsed⟩ other
    | error fault =>
        obtain ⟨reason, rfl⟩ := parse_refuses plain fault parsed
        exact ⟨reason, rfl⟩

/-- Two vertices with one weight each, and an edge with a weight between them. -/
theorem parse_accepts_exactly_pair :
    PlainNumbers (Text.symbols "2 1 11\n7 2 9\n3 1 9\n".toList) ∧
      IsGraphFile (Text.symbols "2 1 11\n7 2 9\n3 1 9\n".toList)
        { vertexCount := 2
          edgeCount := 1
          format := { vertexWeights := true, edgeWeights := true }
          vertices :=
            [{ weights := [7], neighbors := [2], edgeWeights := [9] },
              { weights := [3], neighbors := [1], edgeWeights := [9] }] } :=
  ⟨by decide, ((parse_accepts_exactly (by decide)).1 _).mp rfl⟩

end TaskGraph.Metis
