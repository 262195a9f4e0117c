import Flowchart.Proofs.Document.Content
import Flowchart.Proofs.Text.Lines

/-!
# What is known of a document that was read

Every node and every edge of a document that was read comes from one line of
the text below its header (`exists_bodyLine_of_mem_nodes`,
`exists_bodyLine_of_mem_edges`). And the document hangs together (`coherent_parse`): no two nodes share an id, both
ends of every edge are nodes, and the edges are numbered from zero.
-/

namespace Flowchart

open Text Statement

variable {n : Node} {e : Edge} {c : Connection} {raw line : List Char} {t : String}

/-! ## One line -/

/-- The edge statement that makes this connection. -/
def Connection.statement (c : Connection) : EdgeStatement :=
  ⟨c.source.toList, c.target.toList, c.label.map String.toList⟩

theorem statement_connection (e : EdgeStatement) (style : LineStyle) :
    (e.connection style).statement = e := by
  simp [Connection.statement, EdgeStatement.connection]

/-- What is known of a connection that was read from a line: its parts come
from the line, and its label names no arrow of a style before its own. -/
structure Connection.ReadFrom (c : Connection) (line : List Char) : Prop where
  statement : c.statement.ReadFrom line
  keepsStyle : ∀ label ∈ c.statement.label, ∀ r ∈ c.style.earlier, ¬ r.arrow <:+: label

/-- What was read from a piece of a text was read from the text. -/
theorem Connection.ReadFrom.mono {piece : List Char} (h : c.ReadFrom piece) (hp : piece <:+: line) :
    c.ReadFrom line where
  statement := {
    h.statement with
    source_isInfix := h.statement.source_isInfix.trans hp
    target_isInfix := h.statement.target_isInfix.trans hp
    label_isInfix := fun label hl => (h.statement.label_isInfix label hl).trans hp }
  keepsStyle := h.keepsStyle

namespace Content

/-- **A connection comes from its line.** -/
theorem readFrom_of_connection (h : (ofLine raw).connection = some c) : c.ReadFrom raw := by
  refine Connection.ReadFrom.mono ?_ (trim_isInfix raw)
  unfold ofLine at h
  split at h
  · exact absurd h (by simp)
  · rw [ofStatement] at h
    split at h
    · rename_i style hstyle
      obtain ⟨⟨e, rest⟩, he, rfl⟩ := Option.map_eq_some_iff.mp h
      have hread := readFrom_of_edge? he
      refine ⟨by rwa [statement_connection], fun label hl r hr harrow => ?_⟩
      rw [statement_connection] at hl
      exact (ofLine?_eq_some_iff.mp hstyle).2 r hr (harrow.trans (hread.label_isInfix label hl))
    · exact absurd h (by simp)

/-- A definition stands inside an edge line or makes up a line of its own. -/
theorem of_mem_definitions (h : n ∈ (ofLine raw).definitions) :
    n ∈ definitionsIn (trim raw) ∨ ∃ rest, Statement.node? (trim raw) = some (n, rest) := by
  unfold ofLine at h
  split at h
  · exact absurd h List.not_mem_nil
  · rw [ofStatement] at h
    split at h
    · exact Or.inl h
    · obtain ⟨⟨m, rest⟩, hm, rfl⟩ := Option.map_eq_some_iff.mp (Option.mem_toList.mp h)
      exact Or.inr ⟨rest, hm⟩

/-- A definition comes from its line. -/
theorem readFrom_of_mem_definitions (h : n ∈ (ofLine raw).definitions) : n.ReadFrom raw := by
  refine Node.ReadFrom.mono ?_ (trim_isInfix raw)
  rcases of_mem_definitions h with h | ⟨rest, h⟩
  · exact readFrom_of_mem_definitionsIn h
  · exact readFrom_of_node? h

/-- **Every node that a line names comes from it.** -/
theorem readFrom_of_mem_nodes (h : n ∈ (ofLine raw).nodes) : n.ReadFrom raw := by
  rcases List.mem_append.mp h with h | h
  · exact readFrom_of_mem_definitions h
  · obtain ⟨c, hc, hn⟩ := List.mem_flatMap.mp h
    have hread := (readFrom_of_connection (Option.mem_toList.mp hc)).statement
    have hsource := readFrom_implied hread.source_isIdentifier hread.source_isInfix
    have htarget := readFrom_implied hread.target_isIdentifier hread.target_isInfix
    simp only [Connection.statement, String.ofList_toList] at hsource htarget
    simp only [Connection.ends, List.mem_cons, List.not_mem_nil, or_false] at hn
    rcases hn with rfl | rfl
    · exact hsource
    · exact htarget

/-- And so does its id. -/
theorem id_isInfix_of_mem_nodes (h : n ∈ (ofLine raw).nodes) : n.id.toList <:+: raw := by
  have hlabel := (readFrom_of_mem_nodes h).label_isInfix
  rcases List.mem_append.mp h with h | h
  · refine List.IsInfix.trans ?_ (trim_isInfix raw)
    rcases of_mem_definitions h with h | ⟨rest, h⟩
    · exact id_isInfix_of_mem_definitionsIn h
    · exact (id_isPrefix_of_node? h).isInfix
  · -- an implied node shows its id
    obtain ⟨c, -, hn⟩ := List.mem_flatMap.mp h
    simp only [Connection.ends, List.mem_cons, List.not_mem_nil, or_false] at hn
    rcases hn with rfl | rfl
    · exact hlabel
    · exact hlabel

/-- White space around a line says nothing. -/
theorem ofLine_trim (raw : List Char) : ofLine (trim raw) = ofLine raw := by
  rw [ofLine, ofLine, trim_trim]

end Content

/-! ## The whole document -/

/-- A document that hangs together. -/
structure Document.Coherent (d : Document) : Prop where
  nodup_ids : (idsOf d.nodes).Nodup
  ends_known : ∀ e ∈ d.edges, e.source ∈ idsOf d.nodes ∧ e.target ∈ idsOf d.nodes
  numbered : d.edges = (d.edges.map Edge.connection).mapIdx fun i c => c.edge i

namespace Document

theorem parse_eq {header : List Char} {body : List (List Char)}
    (h : splitLines t.toList = header :: body) : parse t =
      { direction := (Direction.ofHeader? (trim header)).getD .topDown
        nodes := fresh [] (body.flatMap fun raw => (Content.ofLine raw).nodes)
        edges := (body.filterMap fun raw => (Content.ofLine raw).connection).mapIdx
          fun i c => c.edge i } := by
  rw [parse, h, ofLines_eq]

/-- There is a first line. -/
theorem exists_header (t : String) : ∃ header body, splitLines t.toList = header :: body :=
  List.exists_cons_of_ne_nil (splitLines_ne_nil _)

/-- **Every node was read from a line of the text**, and not from its header. -/
theorem exists_bodyLine_of_mem_nodes (h : n ∈ (parse t).nodes) :
    ∃ line ∈ (splitLines t.toList).tail, n ∈ (Content.ofLine line).nodes := by
  obtain ⟨header, body, hlines⟩ := exists_header t
  rw [parse_eq hlines] at h
  rw [hlines, List.tail_cons]
  exact List.mem_flatMap.mp (mem_of_mem_fresh h)

/-- **And so was every edge.** -/
theorem exists_bodyLine_of_mem_edges (h : e ∈ (parse t).edges) :
    ∃ line ∈ (splitLines t.toList).tail, (Content.ofLine line).connection = some e.connection := by
  obtain ⟨header, body, hlines⟩ := exists_header t
  rw [parse_eq hlines] at h
  rw [hlines, List.tail_cons]
  obtain ⟨i, hi, rfl⟩ := List.mem_mapIdx.mp h
  exact List.mem_filterMap.mp (List.getElem_mem hi)

theorem exists_line_of_mem_nodes (h : n ∈ (parse t).nodes) :
    ∃ line ∈ splitLines t.toList, n ∈ (Content.ofLine line).nodes := by
  obtain ⟨line, hline, hn⟩ := exists_bodyLine_of_mem_nodes h
  exact ⟨line, List.mem_of_mem_tail hline, hn⟩

theorem exists_line_of_mem_edges (h : e ∈ (parse t).edges) :
    ∃ line ∈ splitLines t.toList, (Content.ofLine line).connection = some e.connection := by
  obtain ⟨line, hline, hc⟩ := exists_bodyLine_of_mem_edges h
  exact ⟨line, List.mem_of_mem_tail hline, hc⟩

/-- Taking the numbers off gives back what was numbered. -/
theorem map_connection_mapIdx (cs : List Connection) :
    (cs.mapIdx fun i c => c.edge i).map Edge.connection = cs := by
  refine List.ext_getElem (by simp) fun i h₁ h₂ => ?_
  simp

/-- **A document that was read hangs together.** -/
theorem coherent_parse (t : String) : (parse t).Coherent := by
  obtain ⟨header, body, hlines⟩ := exists_header t
  rw [parse_eq hlines]
  refine ⟨nodup_idsOf_fresh _ _, fun e he => ?_, by rw [map_connection_mapIdx]⟩
  obtain ⟨i, hi, rfl⟩ := List.mem_mapIdx.mp he
  obtain ⟨raw, hraw, hc⟩ := List.mem_filterMap.mp (List.getElem_mem hi)
  generalize (body.filterMap fun raw => (Content.ofLine raw).connection)[i] = c at hc ⊢
  -- the ends of a connection are among the nodes that its line names
  have hends : ∀ n ∈ c.ends, n.id ∈ idsOf (body.flatMap fun raw => (Content.ofLine raw).nodes) := by
    intro n hn
    refine id_mem_idsOf (List.mem_flatMap.mpr ⟨raw, hraw, List.mem_append_right _ ?_⟩)
    exact List.mem_flatMap.mpr ⟨c, Option.mem_toList.mpr hc, hn⟩
  constructor
  · exact mem_idsOf_fresh.mpr ⟨hends (.implied c.source) (by simp [Connection.ends]), by simp⟩
  · exact mem_idsOf_fresh.mpr ⟨hends (.implied c.target) (by simp [Connection.ends]), by simp⟩

end Document

end Flowchart
