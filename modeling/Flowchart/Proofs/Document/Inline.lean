import Flowchart.Proofs.Document.Written

/-!
# Definitions on the line of an edge

A shape may stand on the line of an edge or on a line of its own before it: the
document is the same (`parse_inline`). Either way the lines name the definitions,
the source first, then the two ends, and state the one edge; and a document is
settled by what its lines name and state, in their order (`parse_between_congr`).
The gaps of the line make no difference.
-/

namespace Flowchart

open Document Statement Text

/-! ## The lines of the definitions -/

namespace Statement

/-- The line that defines the node of an end. Without a shape there is none. -/
def Endpoint.definitionLine? (e : Endpoint) : Option (List Char) :=
  e.shaped.map fun _ => e.written

/-- The lines that define the nodes of the ends, the source first. -/
def ShapedEdge.definitionLines (e : ShapedEdge) : List (List Char) :=
  e.source.definitionLine?.toList ++ e.target.definitionLine?.toList

theorem ShapedEdge.Writable.lineFeed_notMem_definitionLines {e : ShapedEdge} {style : LineStyle}
    (h : e.Writable style) : ∀ line ∈ e.definitionLines, '\n' ∉ line := by
  intro line hline
  simp only [definitionLines, Endpoint.definitionLine?, List.mem_append, Option.mem_toList,
    Option.map_eq_some_iff] at hline
  rcases hline with ⟨l, -, rfl⟩ | ⟨l, -, rfl⟩
  · exact h.lineFeed_notMem_source
  · exact h.lineFeed_notMem_target

end Statement

namespace Content

variable {e : Endpoint} {l : ShapedLabel}

/-- The line of a definition is read as it stands. -/
theorem ofLine_endpoint (h : e.Plain) : ofLine e.written = ofStatement e.written := by
  refine ofLine_flush h.isIdentifier fun c hc => ?_
  obtain ⟨d, hd, hkind⟩ := h.getLast?_written
  obtain rfl := Option.some.inj (hc.symm.trans hd)
  rcases hkind with hchar | hbracket
  · exact isBlank_of_isIdentifierChar hchar
  · exact isBlank_of_bracket c hbracket

/-- **The line of a definition says the node that the end defines.** -/
theorem ofLine_definitionLine {line : List Char} (h : e.Plain) (hl : line ∈ e.definitionLine?) :
    ofLine line = { definitions := e.definition?.toList } := by
  obtain ⟨l, hshaped, rfl⟩ := Option.map_eq_some_iff.mp hl
  have hn : e.definition? = some ⟨String.ofList e.id, String.ofList l.label, l.shape⟩ := by
    rw [Endpoint.definition?, hshaped]
    rfl
  rw [ofLine_endpoint h,
    ofStatement_of_node? (node?_of_shapedEndpoint? (shapedEndpoint?_written h) hn), hn]
  rfl

/-- The lines of the definitions name what the ends define. -/
theorem nodes_definitionLine? (h : e.Plain) :
    e.definitionLine?.toList.flatMap (fun line => (ofLine line).nodes) = e.definition?.toList := by
  cases hl : e.definitionLine? with
  | none =>
    have hnone : e.definition? = none := by
      simpa [Endpoint.definition?, Endpoint.definitionLine?] using hl
    rw [hnone]
    rfl
  | some line => simp [ofLine_definitionLine h hl, nodes]

/-- And state no edge. -/
theorem connection_definitionLine? (h : e.Plain) :
    e.definitionLine?.toList.filterMap (fun line => (ofLine line).connection) = [] := by
  refine List.filterMap_eq_nil_iff.mpr fun line hline => ?_
  rw [ofLine_definitionLine h (Option.mem_toList.mp hline)]

/-- **What the lines of the definitions say together**: what the statement
defines, and no edge. -/
theorem nodes_definitionLines {e : ShapedEdge} (h : e.Plain) :
    e.definitionLines.flatMap (fun line => (ofLine line).nodes) = e.definitions := by
  rw [ShapedEdge.definitionLines, List.flatMap_append, nodes_definitionLine? h.source,
    nodes_definitionLine? h.target, ShapedEdge.definitions]

theorem connection_definitionLines {e : ShapedEdge} (h : e.Plain) :
    e.definitionLines.filterMap (fun line => (ofLine line).connection) = [] := by
  rw [ShapedEdge.definitionLines, List.filterMap_append, connection_definitionLine? h.source,
    connection_definitionLine? h.target, List.append_nil]

end Content

/-! ## Between two texts -/

/-- A text of which some lines are given, with what stands above and below. -/
def between (above : String) (lines : List (List Char)) (below : String) : String :=
  String.ofList (joinLines (above.toList :: (lines ++ [below.toList])))

variable {lines lines' : List (List Char)}

theorem splitLines_between (above below : String) (h : ∀ line ∈ lines, '\n' ∉ line) :
    splitLines (between above lines below).toList =
      splitLines above.toList ++ (lines ++ splitLines below.toList) := by
  have hlines : lines.flatMap splitLines = lines := by
    have hself : ∀ line ∈ lines, splitLines line = [line] :=
      fun line hline => splitLines_eq_singleton (h line hline)
    rw [List.flatMap_congr hself]
    simp
  rw [between, String.toList_ofList, splitLines_joinLines_eq_flatMap (List.cons_ne_nil _ _),
    List.flatMap_cons, List.flatMap_append, hlines]
  simp

/-- **Lines that name the same nodes and state the same edges** can stand for each
other anywhere below the header. -/
theorem parse_between_congr (above below : String) (h : ∀ line ∈ lines, '\n' ∉ line)
    (h' : ∀ line ∈ lines', '\n' ∉ line)
    (hn : (lines.flatMap fun line => (Content.ofLine line).nodes) =
      lines'.flatMap fun line => (Content.ofLine line).nodes)
    (hc : (lines.filterMap fun line => (Content.ofLine line).connection) =
      lines'.filterMap fun line => (Content.ofLine line).connection) :
    parse (between above lines below) = parse (between above lines' below) := by
  obtain ⟨header, body, habove⟩ := exists_header above
  have hsplit := splitLines_between above below h
  have hsplit' := splitLines_between above below h'
  rw [habove, List.cons_append] at hsplit hsplit'
  rw [parse_eq hsplit, parse_eq hsplit']
  simp only [List.flatMap_append, List.filterMap_append, hn, hc]

/-- **Definitions on the line of an edge mean the same as separate ones.** The
shapes at the ends of an edge may be taken off and put on lines of their own in
front of it, the source first; and the gaps may be chosen anew. -/
theorem parse_inline (above below : String) {e : ShapedEdge} {style : LineStyle}
    (h : e.Writable style) (g g' : Spacing) :
    parse (between above [e.written style g] below) =
      parse (between above (e.definitionLines ++ [e.statement.bare.written style g']) below) := by
  have hnone : ∀ c ∈ ([] : List Char), isBlank c = true := by simp
  have hwritten : Content.ofLine (e.written style g) =
      { definitions := e.definitions, connection := some (e.statement.connection style) } :=
    Content.ofLine_written h g hnone
  have hbare : Content.ofLine (e.statement.bare.written style g') =
      { definitions := [], connection := some (e.statement.connection style) } :=
    Content.ofLine_written h.bare g' hnone
  refine parse_between_congr above below ?_ ?_ ?_ ?_
  · intro line hline
    obtain rfl := List.mem_singleton.mp hline
    exact h.lineFeed_notMem_written g
  · intro line hline
    rcases List.mem_append.mp hline with hdefinition | hedge
    · exact h.lineFeed_notMem_definitionLines line hdefinition
    · obtain rfl := List.mem_singleton.mp hedge
      exact h.bare.lineFeed_notMem_written g'
  · -- the definitions come first and then the ends, on one line or on several
    rw [List.flatMap_append, List.flatMap_singleton, List.flatMap_singleton, hwritten, hbare,
      Content.nodes_definitionLines h.toPlain]
    simp [Content.nodes]
  · rw [List.filterMap_append, Content.connection_definitionLines h.toPlain]
    simp [hwritten, hbare]

/-- An edge from a node to itself that defines it twice, with what is hard about
it: labels of brackets, bars and quotation marks that hold their own closing
marks, and the arrow of a later style in the label of the edge. -/
def Statement.knot : ShapedEdge where
  source := ⟨"n_1".toList, some ⟨.trapezoid, "\\\\] |[(a\"".toList⟩⟩
  target := ⟨"n_1".toList, some ⟨.asymmetric, "{{b}}]".toList⟩⟩
  label := some "c[d] ==> \"".toList

/-- Tabs and spaces in front of the arrow and the target, none in front of the
label. -/
def Statement.unevenSpacing : Spacing where
  beforeArrow := ⟨['\t', ' '], by simp [isGap]⟩
  beforeLabel := .none
  beforeTarget := ⟨['\t'], by simp [isGap]⟩

theorem parse_inline_knot : knot.Writable .dotted ∧
    parse (between "graph LR\n m --> n_1" [knot.written .dotted unevenSpacing] "n_1(c)\n") =
      parse (between "graph LR\n m --> n_1" (knot.definitionLines ++
        [knot.statement.bare.written .dotted ⟨.none, .space, .space⟩]) "n_1(c)\n") := by
  have hid : IsIdentifier "n_1".toList := by decide +kernel
  have hclose : ¬ ['/', ']'] <:+: "\\\\] |[(a\"".toList := by
    rw [← occurs_iff_isInfix]
    decide
  have hkeeps : ¬ LineStyle.solid.arrow <:+: "c[d] ==> \"".toList := by
    rw [← occurs_iff_isInfix]
    decide
  have hwritable : knot.Writable .dotted := {
    source := ⟨hid, by rintro l ⟨⟩; exact ⟨by decide, by decide, hclose⟩⟩
    target := ⟨hid, by rintro l ⟨⟩; exact ⟨by decide, by decide, trivial⟩⟩
    bar_notMem_label := by rintro label ⟨⟩; decide
    keepsStyle := by
      rintro label ⟨⟩ r hr
      obtain rfl : r = .solid := List.mem_singleton.mp hr
      exact hkeeps
    oneLine := by decide }
  exact ⟨hwritable, parse_inline "graph LR\n m --> n_1" "n_1(c)\n" hwritable unevenSpacing
    ⟨.none, .space, .space⟩⟩

end Flowchart
