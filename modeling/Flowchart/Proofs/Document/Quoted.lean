import Flowchart.Proofs.Document.Written
import Flowchart.Proofs.Statement.Quoted

/-!
# Reading a quoted label

A node whose label stands in quotation marks is read back whole, whatever the
label holds: arrows in it make its line the line of an edge, but the definition
takes up the line to its end, so no edge is left to be read. The exception is an
earlier shape that closes early in the label (`parse_quotedText_iff`). Then that
shape is read, and what is left of the label is read as the rest of the line,
an edge included (`parse_quotedText_cutShort`).
-/

namespace Flowchart

open Document Statement Text

variable {n : Node}

/-- The line of a node with its label in quotation marks. -/
def Node.quotedLine (n : Node) : List Char :=
  n.id.toList ++ n.shape.wrap (inQuotes n.label.toList)

/-- A text of two lines, the second of which defines a node with a quoted label. -/
def Node.quotedText (n : Node) : String :=
  "flowchart TD\n" ++ String.ofList n.quotedLine

/-- The definition on the line is read with whatever shape is read behind the
identifier. -/
theorem Node.node?_quotedLine (h : n.Lined) {l : ShapedLabel} {rest : List Char}
    (hl : shapedLabel? (n.shape.wrap (inQuotes n.label.toList)) = some (l, rest)) :
    Statement.node? n.quotedLine = some (⟨n.id, String.ofList l.label, l.shape⟩, rest) := by
  rw [Node.quotedLine, node?_append_wrap h.isIdentifier hl, String.ofList_toList]

theorem Content.ofLine_quotedLine (h : n.Lined) :
    ofLine n.quotedLine = ofStatement n.quotedLine :=
  ofLine_flush h.isIdentifier (getLast?_wrap n.shape _ _)

theorem Node.lineFeed_notMem_quotedLine (h : n.Lined) : '\n' ∉ n.quotedLine := by
  have hid : '\n' ∉ n.id.toList := h.isIdentifier.mark_notMem (by decide)
  have hlabel : '\n' ∉ inQuotes n.label.toList := by simp [inQuotes, h.oneLine]
  simp [Node.quotedLine, hid, Shape.lineFeed_notMem_wrap hlabel]

/-- The document of the text is what its second line says. -/
theorem parse_quotedText_eq (h : n.Lined) : parse n.quotedText =
    { nodes := fresh [] (Content.ofLine n.quotedLine).nodes
      edges := (Content.ofLine n.quotedLine).connection.toList.map (·.edge 0) } := by
  have hlines : splitLines n.quotedText.toList = ["flowchart TD".toList, n.quotedLine] := by
    have htext : n.quotedText.toList = "flowchart TD".toList ++ '\n' :: n.quotedLine := by
      simp [Node.quotedText]
    rw [htext, splitLines_append (by decide),
      splitLines_eq_singleton (Node.lineFeed_notMem_quotedLine h)]
  have hheader : Direction.ofHeader? (trim "flowchart TD".toList) = some .topDown := by
    decide +kernel
  rw [parse_eq hlines, hheader]
  cases hc : (Content.ofLine n.quotedLine).connection <;> simp [hc]

/-- **A quoted label may hold anything but a quotation mark**: the text defines
the node and nothing else, exactly if no earlier shape closes early in the
label. -/
theorem parse_quotedText_iff (h : n.Lined) (hq : '"' ∉ n.label.toList) :
    parse n.quotedText = { nodes := [n] } ↔ ¬ n.shape.ClosesEarly n.label.toList := by
  rw [← shapedLabel?_quoted_iff hq]
  constructor
  · intro hparse
    -- some shape is read, and the first node tells which
    have hsome : (shapedLabel? (n.shape.wrap (inQuotes n.label.toList))).isSome := by
      rw [Option.isSome_iff_ne_none, Ne, shapedLabel?_eq_none_iff]
      intro hnone
      simpa [hnone] using labelOf?_quoted (s := n.shape) hq
    obtain ⟨⟨l, rest⟩, hl⟩ := Option.isSome_iff_exists.mp hsome
    obtain ⟨more, hmore⟩ := Content.nodes_ofStatement_of_node? (Node.node?_quotedLine h hl)
    have hfirst : (⟨n.id, String.ofList l.label, l.shape⟩ : Node) = n := by
      have hnodes := congrArg (·.nodes.head?) hparse
      simpa [parse_quotedText_eq h, Content.ofLine_quotedLine h, hmore, fresh] using hnodes
    obtain rfl : l = ⟨n.shape, n.label.toList⟩ := by
      rw [← hfirst, String.toList_ofList]
    have hread := (shapedLabel?_eq_some_iff.mp hl).1
    rw [labelOf?_quoted hq] at hread
    obtain ⟨-, rfl⟩ := Prod.mk.inj (Option.some.inj hread)
    exact hl
  · intro hl
    have hnode : Statement.node? n.quotedLine = some (n, []) := by
      rw [Node.node?_quotedLine h hl, String.ofList_toList]
    rw [parse_quotedText_eq h, Content.ofLine_quotedLine h, Content.ofStatement_of_node? hnode]
    simp [Content.nodes, fresh]

/-- A trapezoid whose label holds arrows, bars, brackets of every kind and its
own closing mark. That of a parallelogram stands in it too, but behind an arrow. -/
def Node.crammed : Node :=
  ⟨"n_1", "\\\\] | A[a] --> B(b/]) ==> {{c}}", .trapezoid⟩

theorem parse_quotedText_iff_crammed : Node.crammed.Lined ∧ '"' ∉ Node.crammed.label.toList ∧
    (parse Node.crammed.quotedText = { nodes := [Node.crammed] } ↔
      ¬ Node.crammed.shape.ClosesEarly Node.crammed.label.toList) ∧
    parse Node.crammed.quotedText = { nodes := [Node.crammed] } := by
  have hlined : Node.crammed.Lined := ⟨by decide +kernel, by decide⟩
  have hquote : '"' ∉ Node.crammed.label.toList := by decide
  exact ⟨hlined, hquote, parse_quotedText_iff hlined hquote,
    (parse_quotedText_iff hlined hquote).mpr (by decide)⟩

/-- A trapezoid whose label closes a parallelogram early, in front of an arrow. -/
def Node.cutShort : Node :=
  ⟨"A", "in/] --> out", .trapezoid⟩

/-- **Then the label is cut**: the quotation mark at its front becomes part of
it, the shape is another, and what follows is read as an edge to a node that
nobody defined. -/
theorem parse_quotedText_cutShort :
    Node.cutShort.Lined ∧ '"' ∉ Node.cutShort.label.toList ∧
      parse Node.cutShort.quotedText =
        { nodes := [⟨"A", "\"in", .parallelogram⟩, .implied "out"]
          edges := [⟨"e0", "A", "out", none, .solid⟩] } ∧
      parse Node.cutShort.quotedText ≠ { nodes := [Node.cutShort] } := by
  have hread : parse Node.cutShort.quotedText =
      { nodes := [⟨"A", "\"in", .parallelogram⟩, .implied "out"]
        edges := [⟨"e0", "A", "out", none, .solid⟩] } := by
    decide +kernel
  refine ⟨⟨by decide +kernel, by decide⟩, by decide, hread, ?_⟩
  rw [hread]
  decide

end Flowchart
