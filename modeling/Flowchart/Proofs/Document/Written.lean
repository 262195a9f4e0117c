import Flowchart.Document.Render
import Flowchart.Proofs.Document.Normal
import Flowchart.Proofs.Statement.Inline

/-!
# Reading a written document

A written document is read line by line. The line of a node says that node,
as its label is read back (`Node.reread`); the line of an edge says the
connection and defines nothing. So what is read is the document with its
nodes reread and put into normal form (`parse_render_eq`): each id at its first
node, the ends that no node has behind them, and the edges numbered.
-/

namespace Flowchart

open Text Statement

variable {n : Node} {e : Edge} {d : Document}

/-- A node whose line is one line and begins with its id. -/
structure Node.Lined (n : Node) : Prop where
  isIdentifier : IsIdentifier n.id.toList
  oneLine : '\n' ∉ n.label.toList

/-- A node whose line is not taken for that of an edge. -/
structure Node.Writable (n : Node) : Prop extends n.Lined where
  arrowFree : ArrowFree n.label.toList

/-- An edge whose line says what the edge is: its ends are identifiers, and
its label holds no bar, no line feed, and no arrow of a style that is looked
for before its own. -/
structure Edge.Writable (e : Edge) : Prop where
  source_isIdentifier : IsIdentifier e.source.toList
  target_isIdentifier : IsIdentifier e.target.toList
  bar_notMem_label : ∀ label ∈ e.label, '|' ∉ label.toList
  oneLine : ∀ label ∈ e.label, '\n' ∉ label.toList
  keepsStyle : ∀ label ∈ e.label, ∀ r ∈ e.style.earlier, ¬ r.arrow <:+: label.toList

theorem Connection.mem_label_statement {c : Connection} {label : List Char} :
    label ∈ c.statement.label ↔ ∃ l ∈ c.label, l.toList = label := by
  simp [Connection.statement]

theorem Edge.Writable.statement (h : e.Writable) : e.connection.statement.Writable where
  source_isIdentifier := h.source_isIdentifier
  target_isIdentifier := h.target_isIdentifier
  bar_notMem_label := by
    intro label hl
    obtain ⟨l, hm, rfl⟩ := Connection.mem_label_statement.mp hl
    exact h.bar_notMem_label l hm

/-- The node as its label is read back from between its marks. -/
def Node.reread (n : Node) : Node :=
  match shapedLabel? (n.shape.wrap n.label.toList) with
  | some (l, _) => ⟨n.id, String.ofList l.label, l.shape⟩
  | none => n

@[simp] theorem Node.id_reread (n : Node) : n.reread.id = n.id := by
  unfold Node.reread
  split <;> rfl

/-! ## The line of a node -/

/-- The spaces in front of a line are white space. -/
theorem isBlank_of_mem_indent : ∀ c ∈ [' ', ' '], isBlank c = true := by
  have hspace : isBlank ' ' = true := by decide
  simp [hspace]

/-- A line that begins with an identifier is not silent. -/
theorem isSilent_append {word : List Char} (hw : IsIdentifier word) (rest : List Char) :
    Document.isSilent (word ++ rest) = false := by
  obtain ⟨hne, hall⟩ := hw
  cases word with
  | nil => exact absurd rfl hne
  | cons c word =>
    have hc : c ≠ '%' := ne_of_mem_marks (by decide) (hall c List.mem_cons_self)
    simp [Document.isSilent, List.isPrefixOf, Ne.symm hc]

theorem isBlank_of_bracket : ∀ c ∈ [')', ']', '}'], isBlank c = false := by
  have hall : [')', ']', '}'].all (fun c => !isBlank c) = true := by decide
  simpa using hall

theorem getLast?_wrap (s : Shape) (front label : List Char) :
    ∀ c, (front ++ s.wrap label).getLast? = some c → isBlank c = false := by
  intro c hc
  obtain ⟨d, hd, hlast⟩ := getLast?_append_closer (front ++ (s.opener ++ label)) s
  rw [List.append_assoc, ← Shape.wrap] at hlast
  obtain rfl := Option.some.inj (hc.symm.trans hlast)
  exact isBlank_of_bracket c hd

/-- A line is read from its identifier on, if it begins with one behind white
space and ends with none, -/
theorem Content.ofLine_indented {blanks word rest : List Char}
    (hb : ∀ c ∈ blanks, isBlank c = true) (hw : IsIdentifier word)
    (hl : ∀ c, (word ++ rest).getLast? = some c → isBlank c = false) :
    ofLine (blanks ++ (word ++ rest)) = ofStatement (word ++ rest) := by
  rw [ofLine, trim_blanks_append hb hw hl, isSilent_append hw, if_neg (by simp)]

/-- or without white space in front. -/
theorem Content.ofLine_flush {word rest : List Char} (hw : IsIdentifier word)
    (hl : ∀ c, (word ++ rest).getLast? = some c → isBlank c = false) :
    ofLine (word ++ rest) = ofStatement (word ++ rest) := by
  have hnone : ∀ c ∈ ([] : List Char), isBlank c = true := by simp
  exact ofLine_indented hnone hw hl

theorem Node.line_eq (n : Node) :
    n.line = [' ', ' '] ++ (n.id.toList ++ n.shape.wrap n.label.toList) :=
  List.append_assoc ..

/-- The arrows on the line of a node are those in its label. -/
theorem Node.arrowFree_written_iff (h : IsIdentifier n.id.toList) :
    ArrowFree (n.id.toList ++ n.shape.wrap n.label.toList) ↔ ArrowFree n.label.toList := by
  rw [arrowFree_append_iff h, Shape.arrowFree_wrap_iff]

/-- A node without arrows is read back with some shape, its own if no other. -/
theorem Node.exists_shapedLabel? (ha : ArrowFree n.label.toList) :
    ∃ l rest, shapedLabel? (n.shape.wrap n.label.toList) = some (l, rest) ∧
      n.reread = ⟨n.id, String.ofList l.label, l.shape⟩ := by
  have hsome : (shapedLabel? (n.shape.wrap n.label.toList)).isSome := by
    refine isSome_shapedLabel?_of_fits (s := n.shape) ?_
    rw [cutAtArrow_of_arrowFree (Shape.arrowFree_wrap_iff.mpr ha)]
    exact n.shape.fits_wrap _
  obtain ⟨⟨l, rest⟩, hl⟩ := Option.isSome_iff_exists.mp hsome
  refine ⟨l, rest, hl, ?_⟩
  rw [Node.reread, hl]

/-- **The line of a node says the node**, as its label is read back. -/
theorem Content.ofLine_node (h : n.Writable) :
    Content.ofLine n.line = { definitions := [n.reread] } := by
  have harrow : ArrowFree (n.id.toList ++ n.shape.wrap n.label.toList) :=
    (Node.arrowFree_written_iff h.isIdentifier).mpr h.arrowFree
  obtain ⟨l, rest, hl, hreread⟩ := Node.exists_shapedLabel? h.arrowFree
  have hnode : Statement.node? (n.id.toList ++ n.shape.wrap n.label.toList) =
      some (n.reread, rest) := by
    rw [node?_append_wrap h.isIdentifier hl, hreread, String.ofList_toList]
  rw [n.line_eq, ofLine_indented isBlank_of_mem_indent h.isIdentifier (getLast?_wrap n.shape _ _),
    ofStatement, ofLine?_eq_none_iff.mpr harrow]
  simp [hnode]

/-! ## The line of an edge -/

theorem Edge.line_eq (e : Edge) :
    e.line = [' ', ' '] ++ e.connection.statement.written e.style := by
  unfold Edge.line Edge.link
  cases he : e.label with
  | none => simp [EdgeStatement.written, Edge.connection, Connection.statement, bars, he]
  | some label => simp [EdgeStatement.written, Edge.connection, Connection.statement, bars, he]

theorem connection_statement (c : Connection) (style : LineStyle) :
    c.statement.connection style = { c with style := style } := by
  simp [Connection.statement, EdgeStatement.connection, Function.comp_def]

/-- Nothing is trimmed from the end of a written statement. -/
theorem Statement.ShapedEdge.getLast?_written {e : ShapedEdge} (h : e.Plain) (style : LineStyle)
    (g : Spacing) : ∀ c, (e.written style g).getLast? = some c → isBlank c = false := by
  intro c hc
  obtain ⟨d, hd, hkind⟩ := h.target.getLast?_written
  have hlast : (e.written style g).getLast? = some d := by
    simp [ShapedEdge.written, List.getLast?_append, hd]
  obtain rfl := Option.some.inj (hc.symm.trans hlast)
  rcases hkind with hchar | hbracket
  · exact isBlank_of_isIdentifierChar hchar
  · exact isBlank_of_bracket c hbracket

/-- **A written statement says its definitions and its connection**, with white
space in front of it or without. -/
theorem Content.ofLine_written {e : ShapedEdge} {style : LineStyle} (h : e.Writable style)
    (g : Spacing) {blanks : List Char} (hb : ∀ c ∈ blanks, isBlank c = true) :
    ofLine (blanks ++ e.written style g) =
      { definitions := e.definitions, connection := some (e.statement.connection style) } := by
  have hline : ofLine (blanks ++ e.written style g) = ofStatement (e.written style g) := by
    obtain ⟨rest, hrest⟩ : ∃ rest, e.written style g = e.source.id ++ rest :=
      ⟨_, by rw [ShapedEdge.written, Endpoint.written, List.append_assoc]⟩
    have hlast := ShapedEdge.getLast?_written h.toPlain style g
    rw [hrest] at hlast ⊢
    exact ofLine_indented hb h.source.isIdentifier hlast
  rw [hline, ofStatement, h.ofLine?_written, ShapedEdge.definitionsIn_written h.toPlain,
    ShapedEdge.edge?_written h.toPlain]
  rfl

/-- The edge as a statement with bare ends can be written. -/
theorem Edge.Writable.bare (h : e.Writable) : e.connection.statement.bare.Writable e.style where
  toPlain := h.statement.plain_bare
  keepsStyle := by
    intro label hl
    obtain ⟨l, hm, rfl⟩ := Connection.mem_label_statement.mp hl
    exact h.keepsStyle l hm
  oneLine := by
    intro label hl
    have hlabel : label ∈ e.connection.statement.label := by
      simpa [ShapedEdge.labels, EdgeStatement.bare] using hl
    obtain ⟨l, hm, rfl⟩ := Connection.mem_label_statement.mp hlabel
    exact h.oneLine l hm

/-- **The line of an edge says the connection** and defines nothing. -/
theorem Content.ofLine_edge (h : e.Writable) :
    Content.ofLine e.line = { connection := some e.connection } := by
  rw [Edge.line_eq, EdgeStatement.written_eq, Content.ofLine_written h.bare _ isBlank_of_mem_indent,
    EdgeStatement.statement_bare, connection_statement]
  rfl

/-! ## The lines of a document -/

/-- The header names its direction. -/
theorem Direction.ofHeader?_header (dir : Direction) : ofHeader? (trim dir.header) = some dir := by
  cases dir <;> decide +kernel

/-- A line of a document is its header, the line of a node or that of an edge. -/
theorem Document.mem_lines {line : List Char} : line ∈ d.lines ↔ line = d.direction.header ∨
    (∃ n ∈ d.nodes, n.line = line) ∨ ∃ e ∈ d.edges, e.line = line := by
  rw [lines, List.mem_cons, List.mem_append, List.mem_map, List.mem_map]

theorem Node.lineFeed_notMem_line (h : n.Lined) : '\n' ∉ n.line := by
  have hid : '\n' ∉ n.id.toList := h.isIdentifier.mark_notMem (by decide)
  simp [n.line_eq, hid, Shape.lineFeed_notMem_wrap h.oneLine]

theorem Edge.lineFeed_notMem_line (h : e.Writable) : '\n' ∉ e.line := by
  rw [Edge.line_eq, EdgeStatement.written_eq]
  simp [h.bare.lineFeed_notMem_written]

/-! ## What was read can be written -/

namespace Document

variable {t : String}

theorem lined_of_mem_parse (h : n ∈ (parse t).nodes) : n.Lined := by
  obtain ⟨line, hline, hn⟩ := exists_line_of_mem_nodes h
  have hread := Content.readFrom_of_mem_nodes hn
  have hfeed : '\n' ∉ line := lineFeed_notMem_of_mem_splitLines hline
  exact ⟨hread.isIdentifier, fun hm => hfeed (hread.label_isInfix.subset hm)⟩

/-- **Every edge that was read can be written.** -/
theorem writable_of_mem_parse (h : e ∈ (parse t).edges) : e.Writable := by
  obtain ⟨line, hline, hc⟩ := exists_line_of_mem_edges h
  have hread := Content.readFrom_of_connection hc
  have hfeed : '\n' ∉ line := lineFeed_notMem_of_mem_splitLines hline
  have hlabel : ∀ label ∈ e.label, label.toList ∈ e.connection.statement.label :=
    fun label hl => Connection.mem_label_statement.mpr ⟨label, hl, rfl⟩
  exact {
    source_isIdentifier := hread.statement.source_isIdentifier
    target_isIdentifier := hread.statement.target_isIdentifier
    bar_notMem_label := fun label hl => hread.statement.bar_notMem_label _ (hlabel label hl)
    oneLine := fun label hl hm =>
      hfeed ((hread.statement.label_isInfix _ (hlabel label hl)).subset hm)
    keepsStyle := fun label hl => hread.keepsStyle _ (hlabel label hl) }

end Document

/-! ## Reading a written document -/

namespace Document

/-- **Reading finds the lines that were written.** -/
theorem splitLines_render (hn : ∀ n ∈ d.nodes, n.Lined) (he : ∀ e ∈ d.edges, e.Writable) :
    splitLines d.render.toList = d.lines := by
  rw [render, String.toList_ofList]
  refine splitLines_joinLines (List.cons_ne_nil _ _) fun line hline => ?_
  rcases mem_lines.mp hline with rfl | ⟨n, hm, rfl⟩ | ⟨e, hm, rfl⟩
  · cases d.direction <;> decide
  · exact Node.lineFeed_notMem_line (hn n hm)
  · exact Edge.lineFeed_notMem_line (he e hm)

/-- **A written document is read back in normal form**, with its labels as
they are read back from between their marks. -/
theorem parse_render_eq (hn : ∀ n ∈ d.nodes, n.Writable) (he : ∀ e ∈ d.edges, e.Writable) :
    parse d.render = normal { d with nodes := d.nodes.map Node.reread } := by
  have hlines : splitLines d.render.toList =
      d.direction.header :: (d.nodes.map Node.line ++ d.edges.map Edge.line) :=
    splitLines_render (fun n hm => (hn n hm).toLined) he
  -- a node line brings its node and no edge, an edge line its ends and its edge
  have hnodes : ((d.nodes.map Node.line ++ d.edges.map Edge.line).flatMap fun raw =>
      (Content.ofLine raw).nodes) = d.nodes.map Node.reread ++ d.mentions.map Node.implied := by
    rw [List.flatMap_append, List.flatMap_map, List.flatMap_map, mentions, List.map_flatMap,
      List.map_eq_flatMap]
    refine congrArg₂ (· ++ ·) (List.flatMap_congr fun n hm => ?_)
      (List.flatMap_congr fun e hm => ?_)
    · rw [Content.ofLine_node (hn n hm)]
      rfl
    · rw [Content.ofLine_edge (he e hm)]
      rfl
  have hedges : ((d.nodes.map Node.line ++ d.edges.map Edge.line).filterMap fun raw =>
      (Content.ofLine raw).connection) = d.edges.map Edge.connection := by
    rw [List.filterMap_append, List.filterMap_map, List.filterMap_map]
    have hnone : d.nodes.filterMap ((fun raw => (Content.ofLine raw).connection) ∘ Node.line) =
        [] := by
      refine List.filterMap_eq_nil_iff.mpr fun n hm => ?_
      rw [Function.comp_apply, Content.ofLine_node (hn n hm)]
    have hsome : d.edges.filterMap ((fun raw => (Content.ofLine raw).connection) ∘ Edge.line) =
        d.edges.map Edge.connection := by
      rw [← List.filterMap_eq_map]
      refine List.filterMap_congr fun e hm => ?_
      rw [Function.comp_apply, Content.ofLine_edge (he e hm)]
      rfl
    rw [hnone, hsome, List.nil_append]
  rw [parse_eq hlines, hnodes, hedges, normal_eq, Direction.ofHeader?_header]
  rfl

/-- A document that hangs together keeps all but the labels and shapes. -/
theorem parse_render_of_coherent (h : d.Coherent) (hn : ∀ n ∈ d.nodes, n.Writable)
    (he : ∀ e ∈ d.edges, e.Writable) :
    parse d.render = { d with nodes := d.nodes.map Node.reread } := by
  rw [parse_render_eq hn he]
  exact normal_of_coherent (h.map_nodes Node.id_reread)

end Document

end Flowchart
