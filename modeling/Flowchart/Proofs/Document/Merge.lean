import Flowchart.Proofs.Document.Invariant

/-!
# Reading is a merge

The document of two bodies below one header is the document of the first with
that of the second merged into it (`parse_append`). Merging keeps all that
stands in the first: the nodes of the second are added where their ids are
new, and its edges are numbered on. It does not matter which body defines a
node and which only mentions it, for the comparison is made on the nodes that
each body ends up with.
-/

namespace Flowchart.Document

open Text

variable {d d' : Document}

/-- One document merged into another. The first keeps its direction, its
nodes and its edges; nodes of the second are added if their ids are new, and
its edges under the numbers that follow. -/
def merge (d d' : Document) : Document where
  direction := d.direction
  nodes := d.nodes ++ d'.nodes.filter (·.id ∉ idsOf d.nodes)
  edges := d.edges ++ d'.edges.mapIdx fun i e => { e with id := "e" ++ toString (d.edges.length + i) }

/-- **Merging takes nothing away and moves nothing.** -/
theorem isPrefix_merge (d d' : Document) :
    d.nodes <+: (d.merge d').nodes ∧ d.edges <+: (d.merge d').edges :=
  ⟨List.prefix_append _ _, List.prefix_append _ _⟩

/-- **Lines are merged.** The document of the lines of two bodies is that of
the first merged with that of the second. -/
theorem ofLines_append (header : List Char) (first second : List (List Char)) :
    ofLines (header :: (first ++ second)) =
      (ofLines (header :: first)).merge (ofLines (header :: second)) := by
  simp only [ofLines_eq, merge, List.flatMap_append, List.filterMap_append, List.mapIdx_append,
    fresh_append, List.nil_append, List.length_mapIdx]
  -- the nodes agree by the law of fresh nodes, the edges number by number
  congr 1
  · rw [fresh_eq_filter (idsOf _)]
  · congr 1
    refine List.ext_getElem (by simp) fun i h₁ h₂ => ?_
    simp [Connection.edge, Nat.add_comm]

/-- The lines of a body below a header. -/
theorem parse_header_append {header : String} (h : '\n' ∉ header.toList) (body : String) :
    parse (header ++ "\n" ++ body) = ofLines (header.toList :: splitLines body.toList) := by
  have htext : (header ++ "\n" ++ body).toList = header.toList ++ '\n' :: body.toList := by
    simp
  rw [parse, htext, splitLines_append h]

/-- The direction is that of the header alone. -/
theorem direction_parse_header_append {header : String} (h : '\n' ∉ header.toList)
    (body : String) :
    (parse (header ++ "\n" ++ body)).direction = (parse header).direction := by
  rw [parse_header_append h, parse, splitLines_eq_singleton h, ofLines_eq, ofLines_eq]

/-- **Reading is a merge of what stands above and below.** -/
theorem parse_append (header first second : String) (h : '\n' ∉ header.toList) :
    let whole := parse (header ++ "\n" ++ first ++ "\n" ++ second)
    let above := parse (header ++ "\n" ++ first)
    whole = above.merge (parse (header ++ "\n" ++ second)) ∧
      whole.direction = (parse header).direction ∧
      above.nodes <+: whole.nodes ∧ above.edges <+: whole.edges := by
  intro whole above
  have hwhole : whole = above.merge (parse (header ++ "\n" ++ second)) := by
    have hbody : header ++ "\n" ++ first ++ "\n" ++ second =
        header ++ "\n" ++ (first ++ "\n" ++ second) := by
      simp only [String.append_assoc]
    have hlines : splitLines (first ++ "\n" ++ second).toList =
        splitLines first.toList ++ splitLines second.toList := by
      rw [← splitLines_append_lineFeed]
      simp
    show parse (header ++ "\n" ++ first ++ "\n" ++ second) = _
    rw [hbody, parse_header_append h, hlines, ofLines_append, ← parse_header_append h,
      ← parse_header_append h]
  have hdirection : above.direction = (parse header).direction :=
    direction_parse_header_append h first
  rw [hwhole]
  exact ⟨rfl, hdirection, isPrefix_merge _ _⟩

/-- A body with a failed edge line, ends that nothing defines here, and a
carriage return at its end. -/
def upperBody : String :=
  "  A[a] --> B\r\n  x[lost] -->\n  C --> D\r"

/-- A body that defines what the other one mentions and mentions what it
defines. -/
def lowerBody : String :=
  "\n  B[b] -.-> A{again}\n%% note --> y\n  D(d)\n  E ==>|go| C\n"

theorem parse_append_bodies : '\n' ∉ "graph LR\r".toList ∧
    let whole := parse ("graph LR\r" ++ "\n" ++ upperBody ++ "\n" ++ lowerBody)
    let above := parse ("graph LR\r" ++ "\n" ++ upperBody)
    whole = above.merge (parse ("graph LR\r" ++ "\n" ++ lowerBody)) ∧
      whole.direction = (parse "graph LR\r").direction ∧
      above.nodes <+: whole.nodes ∧ above.edges <+: whole.edges := by
  have hline : '\n' ∉ "graph LR\r".toList := by decide
  exact ⟨hline, parse_append "graph LR\r" upperBody lowerBody hline⟩

end Flowchart.Document
