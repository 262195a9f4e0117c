import Flowchart.Proofs.Document.Written

/-!
# The invariant of documents that were read

What holds of the document of every text, however its lines mix definitions
of their own, definitions inside edge lines, ends that nothing defines, and
lines that fit nothing: ids are distinct identifiers, edges end at nodes of
the document and are numbered through, labels fit on a line, and no text is
made up (`invariant_parse`). Each id and each label is a piece of one
statement, that is, of a line below the header without the white space around
it.
-/

namespace Flowchart

open Text Statement

variable {n : Node} {e : Edge} {t : String}

/-- The lines below the header, each without the white space around it. -/
def statementsOf (t : String) : List (List Char) :=
  (splitLines t.toList).tail.map trim

theorem mem_statementsOf {line : List Char} :
    line ∈ statementsOf t ↔ ∃ raw ∈ (splitLines t.toList).tail, trim raw = line :=
  List.mem_map

namespace Document

/-- **The representation invariant** of a document that was read from a text. -/
structure Invariant (d : Document) (t : String) : Prop where
  /-- No two nodes share an id. -/
  nodup_ids : (idsOf d.nodes).Nodup
  /-- Every id is a word of identifier characters. -/
  isIdentifier : ∀ n ∈ d.nodes, IsIdentifier n.id.toList
  /-- Both ends of every edge are nodes. -/
  ends_known : ∀ e ∈ d.edges, e.source ∈ idsOf d.nodes ∧ e.target ∈ idsOf d.nodes
  /-- The edges are numbered from zero. -/
  id_edge : ∀ (i : Nat) (h : i < d.edges.length), d.edges[i].id = "e" ++ toString i
  /-- No label of a node breaks a line. -/
  node_oneLine : ∀ n ∈ d.nodes, '\n' ∉ n.label.toList
  /-- No label of an edge breaks a line or holds a bar. -/
  edge_oneLine : ∀ e ∈ d.edges, ∀ label ∈ e.label, '\n' ∉ label.toList ∧ '|' ∉ label.toList
  /-- The id and the label of a node are pieces of one statement. -/
  node_from : ∀ n ∈ d.nodes, ∃ line ∈ statementsOf t,
    n.id.toList <:+: line ∧ n.label.toList <:+: line
  /-- So are the ends and the label of an edge. -/
  edge_from : ∀ e ∈ d.edges, ∃ line ∈ statementsOf t,
    e.source.toList <:+: line ∧ e.target.toList <:+: line ∧
      ∀ label ∈ e.label, label.toList <:+: line

/-- The text of a node stands in one statement. -/
theorem exists_statement_of_mem_nodes (h : n ∈ (parse t).nodes) : ∃ line ∈ statementsOf t,
    n.id.toList <:+: line ∧ n.label.toList <:+: line := by
  obtain ⟨raw, hraw, hn⟩ := exists_bodyLine_of_mem_nodes h
  -- a line says the same without the white space around it
  rw [← Content.ofLine_trim] at hn
  exact ⟨trim raw, mem_statementsOf.mpr ⟨raw, hraw, rfl⟩, Content.id_isInfix_of_mem_nodes hn,
    (Content.readFrom_of_mem_nodes hn).label_isInfix⟩

/-- So does the text of an edge. -/
theorem exists_statement_of_mem_edges (h : e ∈ (parse t).edges) : ∃ line ∈ statementsOf t,
    e.source.toList <:+: line ∧ e.target.toList <:+: line ∧
      ∀ label ∈ e.label, label.toList <:+: line := by
  obtain ⟨raw, hraw, hc⟩ := exists_bodyLine_of_mem_edges h
  rw [← Content.ofLine_trim] at hc
  have hread := (Content.readFrom_of_connection hc).statement
  refine ⟨trim raw, mem_statementsOf.mpr ⟨raw, hraw, rfl⟩, hread.source_isInfix,
    hread.target_isInfix, fun label hl => ?_⟩
  exact hread.label_isInfix _ (Connection.mem_label_statement.mpr ⟨label, hl, rfl⟩)

/-- What hangs together is numbered from zero. -/
theorem Coherent.id_edge {d : Document} (h : d.Coherent) (i : Nat) (hi : i < d.edges.length) :
    d.edges[i].id = "e" ++ toString i := by
  have hget : d.edges[i]? = some d.edges[i] := List.getElem?_eq_getElem hi
  generalize d.edges[i] = e at hget ⊢
  rw [h.numbered, List.getElem?_mapIdx] at hget
  obtain ⟨c, -, hc⟩ := Option.map_eq_some_iff.mp hget
  rw [← hc]
  rfl

/-- **Every document that was read satisfies the invariant.** -/
theorem invariant_parse (t : String) : (parse t).Invariant t where
  nodup_ids := (coherent_parse t).nodup_ids
  isIdentifier := fun _ hn => (lined_of_mem_parse hn).isIdentifier
  ends_known := (coherent_parse t).ends_known
  id_edge := (coherent_parse t).id_edge
  node_oneLine := fun _ hn => (lined_of_mem_parse hn).oneLine
  edge_oneLine := fun _ he label hl =>
    have hw := writable_of_mem_parse he
    ⟨hw.oneLine label hl, hw.bar_notMem_label label hl⟩
  node_from := fun _ hn => exists_statement_of_mem_nodes hn
  edge_from := fun _ he => exists_statement_of_mem_edges he

end Document

end Flowchart
