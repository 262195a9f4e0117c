import Flowchart.Proofs.Document.Written
import Mathlib.Data.List.Infix

/-!
# Round trips

Reading undoes writing for plain documents, up to normal form
(`Document.parse_render`). Plain is what the notation asks of a label that
is written without quotation marks: no arrow, no line feed, no quotation mark
at its front, and no character at its front that would turn the opening mark
into a longer one.

Writing undoes reading as far as reading is certain of what it saw. A text
without quotation marks keeps its whole document when it is formatted
(`parse_format`), and any text keeps its direction, its node ids and its
edges as long as no label hides an arrow (`format_keeps_graph`).
-/

namespace Flowchart

open Document Statement Text

variable {n : Node} {e : Edge} {d : Document} {t : String}

/-! ## Plain documents -/

instance (s : Shape) (label : List Char) : Decidable (s.Admits label) := by
  unfold Shape.Admits
  cases s <;> infer_instance

/-- A node that is read back as it was written. -/
structure Node.Plain (n : Node) : Prop extends n.Writable where
  unquoted : n.label.toList.head? ≠ some '"'
  admitted : n.shape.Admits n.label.toList

/-- A document of plain nodes and writable edges. Its ids may repeat, and its
edges may end where there is no node. -/
structure Document.Plain (d : Document) : Prop where
  nodes : ∀ n ∈ d.nodes, n.Plain
  edges : ∀ e ∈ d.edges, e.Writable

instance (n : Node) : Decidable n.Plain :=
  decidable_of_iff (IsIdentifier n.id.toList ∧ '\n' ∉ n.label.toList ∧ ArrowFree n.label.toList ∧
      n.label.toList.head? ≠ some '"' ∧ n.shape.Admits n.label.toList)
    ⟨fun ⟨hi, hl, ha, hu, hs⟩ => ⟨⟨⟨hi, hl⟩, ha⟩, hu, hs⟩,
      fun h => ⟨h.isIdentifier, h.oneLine, h.arrowFree, h.unquoted, h.admitted⟩⟩

instance (e : Edge) : Decidable e.Writable :=
  decidable_of_iff (IsIdentifier e.source.toList ∧ IsIdentifier e.target.toList ∧
      (∀ label ∈ e.label, '|' ∉ label.toList) ∧ (∀ label ∈ e.label, '\n' ∉ label.toList) ∧
      ∀ label ∈ e.label, ∀ r ∈ e.style.earlier, ¬ r.arrow <:+: label.toList)
    ⟨fun ⟨hs, ht, hb, hl, hk⟩ => ⟨hs, ht, hb, hl, hk⟩,
      fun h => ⟨h.source_isIdentifier, h.target_isIdentifier, h.bar_notMem_label, h.oneLine,
        h.keepsStyle⟩⟩

instance (d : Document) : Decidable d.Plain :=
  decidable_of_iff ((∀ n ∈ d.nodes, n.Plain) ∧ ∀ e ∈ d.edges, e.Writable)
    ⟨fun ⟨hn, he⟩ => ⟨hn, he⟩, fun h => ⟨h.nodes, h.edges⟩⟩

/-- What is read back from between the marks is what was put there. -/
theorem Node.reread_eq_self
    (h : shapedLabel? (n.shape.wrap n.label.toList) = some (⟨n.shape, n.label.toList⟩, [])) :
    n.reread = n := by
  rw [Node.reread, h]
  simp

theorem Node.Plain.reread_eq_self (h : n.Plain) : n.reread = n :=
  Node.reread_eq_self <| shapedLabel?_wrap h.arrowFree (Shape.not_unquotes_of_head? h.unquoted)
    fun _ hr => Shape.not_fits_of_admits h.admitted hr

theorem Node.map_reread {ns : List Node} (h : ∀ n ∈ ns, n.reread = n) :
    ns.map Node.reread = ns := by
  rw [List.map_congr_left h, List.map_id']

/-- **Reading undoes writing.** A plain document is read back in normal form:
the first node of each id, an implied node for each end without one, and the
edges numbered anew. -/
theorem Document.parse_render (h : d.Plain) : parse d.render = d.normal := by
  have hself : d.nodes.map Node.reread = d.nodes :=
    Node.map_reread fun n hn => (h.nodes n hn).reread_eq_self
  rw [parse_render_eq (fun n hn => (h.nodes n hn).toWritable) h.edges, hself]

/-- A plain document with what is hard about it: an id defined twice, ends
without a node, an empty label, labels made of brackets and of their own
marks, edge labels with arrows, and edges out of number. -/
def Document.tangled : Document where
  direction := .rightLeft
  nodes :=
    [⟨"a", "))((", .round⟩, ⟨"b_1", "", .doubleCircle⟩, ⟨"a", "again", .rectangle⟩,
      ⟨"c", "/]\\\\]", .parallelogram⟩, ⟨"d", "[x](y)", .trapezoidAlt⟩,
      ⟨"e", "a\"b\"", .asymmetric⟩]
  edges :=
    [⟨"e7", "z", "a", some "x ==> y", .solid⟩, ⟨"e7", "b_1", "z", some "", .thick⟩,
      ⟨"", "y", "y", none, .dotted⟩, ⟨"", "c", "d", some "say \"-.->\"", .dotted⟩]

theorem Document.parse_render_tangled : tangled.Plain ∧ parse tangled.render = tangled.normal :=
  ⟨by decide +kernel, parse_render (by decide +kernel)⟩

example : idsOf Document.tangled.normal.nodes = ["a", "b_1", "c", "d", "e", "z", "y"] := by
  decide

/-! ## Formatting -/

/-- **Formatting writes the lines of the document.** What was read can be
written, so cutting the text again finds the lines. -/
theorem splitLines_format (t : String) : splitLines (format t).toList = (parse t).lines :=
  splitLines_render (fun _ hn => lined_of_mem_parse hn) fun _ he => writable_of_mem_parse he

/-- **What formatting does to a document** whose labels hide no arrow: each
label is read back from between its marks, and nothing else changes. -/
theorem parse_format_eq (h : ∀ n ∈ (parse t).nodes, ArrowFree n.label.toList) :
    parse (format t) =
      { parse t with nodes := (parse t).nodes.map Node.reread } :=
  parse_render_of_coherent (coherent_parse t)
    (fun n hn => ⟨lined_of_mem_parse hn, h n hn⟩)
    fun _ he => writable_of_mem_parse he

/-- **Formatting keeps the graph.** If no label hides an arrow, the direction,
the ids of the nodes and the edges stay as they are; only the labels and
shapes may be read differently. -/
theorem format_keeps_graph (h : ∀ n ∈ (parse t).nodes, ArrowFree n.label.toList) :
    (parse (format t)).direction = (parse t).direction ∧
      idsOf (parse (format t)).nodes = idsOf (parse t).nodes ∧
      (parse (format t)).edges = (parse t).edges := by
  have hids : ∀ ns : List Node, idsOf (ns.map Node.reread) = idsOf ns := by
    intro ns
    simp [idsOf, Function.comp_def]
  rw [parse_format_eq h]
  exact ⟨rfl, hids _, rfl⟩

/-- A text whose labels are read differently the second time: three of them
lose their shape or their quotation marks. -/
def quotedText : String :=
  "flowchart LR\n  A[\"(x)\"] -->|\"a --> b\"| B[\"\"y\"\"]\n  C(\"[z]\") ==> B\n  A -.-> D[\"w\"]"

theorem format_keeps_graph_quotedText :
    (∀ n ∈ (parse quotedText).nodes, ArrowFree n.label.toList) ∧
      (parse (format quotedText)).direction = (parse quotedText).direction ∧
      idsOf (parse (format quotedText)).nodes = idsOf (parse quotedText).nodes ∧
      (parse (format quotedText)).edges = (parse quotedText).edges := by
  have harrow : ∀ n ∈ (parse quotedText).nodes, ArrowFree n.label.toList := by
    decide +kernel
  exact ⟨harrow, format_keeps_graph harrow⟩

/-- Without quotation marks in the text every label is read back as it was. -/
theorem reread_of_mem_parse (h : '"' ∉ t.toList) (hn : n ∈ (parse t).nodes) :
    ArrowFree n.label.toList ∧ n.reread = n := by
  obtain ⟨line, hline, hmem⟩ := exists_line_of_mem_nodes hn
  have hquote : '"' ∉ line := fun hq => h ((isInfix_of_mem_splitLines hline).subset hq)
  obtain ⟨harrow, hback⟩ := (Content.readFrom_of_mem_nodes hmem).readsBack hquote
  exact ⟨harrow, Node.reread_eq_self hback⟩

/-- **Formatting keeps the document** of a text without quotation marks, so
formatting again changes nothing. -/
theorem parse_format (h : '"' ∉ t.toList) :
    parse (format t) = parse t ∧ format (format t) = format t := by
  have hsame : parse (format t) = parse t := by
    rw [parse_format_eq fun n hn => (reread_of_mem_parse h hn).1,
      Node.map_reread fun n hn => (reread_of_mem_parse h hn).2]
  exact ⟨hsame, congrArg render hsame⟩

/-- A text without quotation marks that is far from canonical form. -/
def scrawl : String :=
  "graph LR\n%% note\nA[(x) y] --> B((b))) rest\n\tC[/t\\\\] -.-> D{{h}}\n" ++
    "E>f]\nE[again] ==>|--> go| A\n  F(]g)h) i"

theorem parse_format_scrawl : '"' ∉ scrawl.toList ∧
    parse (format scrawl) = parse scrawl ∧
      format (format scrawl) = format scrawl := by
  have hquote : '"' ∉ scrawl.toList := by decide +kernel
  exact ⟨hquote, parse_format hquote⟩

end Flowchart
