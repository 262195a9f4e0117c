import Flowchart.Proofs.RoundTrip

/-!
# When formatting again changes nothing

Labels are written as they stand, so a label that came out of quotation marks
may be read differently the second time. Formatting is idempotent on a text
exactly if every label of its document is settled (`format_format_iff`):
it hides no arrow, and the first shape that fits the written label closes at
its end and leaves its quotation marks alone. A settled label may still
change its shape, but it is written with the same characters.

For the harder direction a label with an arrow has to be ruled out. It was
quoted, so the line that it is written on holds no quotation mark, and from
such a line no label with an arrow can be read again.
-/

namespace Flowchart

open Document Statement Text

variable {n m : Node} {e : Edge} {d : Document} {t : String}

/-- The shape stands around the whole text, and no quotation marks are taken
off inside. -/
def Shape.Keeps (s : Shape) (text : List Char) : Prop :=
  ∃ raw, text = s.wrap raw ∧ ¬ s.Unquotes raw

/-- A node whose written label is read back as it was written: it hides no
arrow, and the first shape that fits keeps it. -/
structure Node.Settled (n : Node) : Prop where
  arrowFree : ArrowFree n.label.toList
  kept : ∃ s : Shape, s.Keeps (n.shape.wrap n.label.toList) ∧
    ∀ r ∈ s.earlier, ¬ r.Fits (n.shape.wrap n.label.toList)

/-- **Plain nodes are settled.** -/
theorem Node.Plain.settled (h : n.Plain) : n.Settled where
  arrowFree := h.arrowFree
  kept := ⟨n.shape, ⟨_, rfl, Shape.not_unquotes_of_head? h.unquoted⟩,
    fun _ hr => Shape.not_fits_of_admits h.admitted hr⟩

/-! ## The line of a node -/

theorem Node.arrowFree_line (h : IsIdentifier n.id.toList) (ha : ArrowFree n.label.toList) :
    ArrowFree n.line := by
  rw [n.line_eq, arrowFree_append_left_iff (by simp)]
  exact (Node.arrowFree_written_iff h).mpr ha

/-- The marks bring no quotation mark, so one on the line is in the label. -/
theorem Node.quote_mem_label (h : n.Lined) (hq : '"' ∈ n.line) : '"' ∈ n.label.toList := by
  have hid : '"' ∉ n.id.toList := h.isIdentifier.mark_notMem (by decide)
  have hopen := n.shape.quote_notMem_opener
  have hclose := n.shape.quote_notMem_closer
  simpa [n.line_eq, Shape.wrap, hid, hopen, hclose] using hq

/-- The line of a node says what stands behind its id. -/
theorem Node.wrap_eq_of_line_eq (hn : n.Lined) (hm : m.Lined) (h : n.line = m.line) :
    n.shape.wrap n.label.toList = m.shape.wrap m.label.toList := by
  rw [n.line_eq, m.line_eq] at h
  exact (identifier_append_inj hn.isIdentifier hm.isIdentifier (head?_wrap _ _) (head?_wrap _ _)
    (List.append_cancel_left h)).2

/-- It is not the line of an edge: a mark follows the id, and not a space. -/
theorem Node.line_ne_line_edge (hn : n.Lined) (he : e.Writable) : n.line ≠ e.line := by
  intro h
  rw [n.line_eq, e.line_eq] at h
  have hrest := (identifier_append_inj hn.isIdentifier he.source_isIdentifier (head?_wrap _ _)
    (head?_space _) (List.append_cancel_left h)).2
  obtain ⟨c, hc, hmark⟩ := n.shape.head?_opener
  have hspace : c = ' ' := by
    have hhead := congrArg List.head? hrest
    rw [Shape.wrap, List.append_assoc, List.head?_append, hc] at hhead
    exact Option.some.inj hhead
  subst hspace
  exact absurd hmark (by decide)

theorem Node.line_ne_header (n : Node) (dir : Direction) : n.line ≠ dir.header := by
  intro h
  have hspace : n.line.head? = some ' ' := rfl
  have hletter : dir.header.head? = some 'f' := by cases dir <;> decide
  rw [h, hletter] at hspace
  exact absurd hspace (by decide)

/-- **A settled node is written as before once it has been reread**, and no
other node without arrows is. -/
theorem Node.settled_iff (ha : ArrowFree n.label.toList) :
    n.Settled ↔ n.reread.line = n.line := by
  have harrow : ArrowFree (n.shape.wrap n.label.toList) := Shape.arrowFree_wrap_iff.mpr ha
  obtain ⟨l, rest, hl, hreread⟩ := n.exists_shapedLabel? ha
  have hfirst := shapedLabel?_eq_some_iff.mp hl
  have hline : n.reread.line = n.line ↔
      l.shape.wrap l.label = n.shape.wrap n.label.toList := by
    rw [n.line_eq, hreread, Node.line_eq, String.toList_ofList]
    simp only [List.append_cancel_left_eq]
  have hfits : ∀ r : Shape, labelOf? r (n.shape.wrap n.label.toList) = none ↔
      ¬ r.Fits (n.shape.wrap n.label.toList) := by
    intro r
    rw [← isSome_labelOf?_iff harrow, Option.not_isSome_iff_eq_none]
  rw [hline, wrap_eq_iff_of_labelOf? harrow hfirst.1]
  constructor
  · rintro ⟨-, s, ⟨raw, hraw, hu⟩, hs⟩
    -- the first shape that fits is the one that is read
    have hread : shapedLabel? (n.shape.wrap n.label.toList) = some (⟨s, raw⟩, []) := by
      rw [hraw] at harrow hs ⊢
      exact shapedLabel?_wrap (Shape.arrowFree_wrap_iff.mp harrow) hu hs
    rw [hl] at hread
    obtain ⟨rfl, -⟩ := Prod.mk.inj (Option.some.inj hread)
    exact ⟨raw, hraw, hu⟩
  · intro hkeeps
    exact ⟨ha, l.shape, hkeeps, fun r hr => (hfits r).mp (hfirst.2 r hr)⟩

/-! ## Labels with arrows -/

/-- From the line of a node that was read no label with an arrow is read. It
would have been quoted, and a label with a quotation mark has no arrow. -/
theorem Node.arrowFree_of_readFrom_line (hn : n ∈ (parse t).nodes) (hm : m.ReadFrom n.line) :
    ArrowFree m.label.toList := by
  have hlined := lined_of_mem_parse hn
  obtain ⟨source, -, hsource⟩ := exists_line_of_mem_nodes hn
  have hread := Content.readFrom_of_mem_nodes hsource
  refine Decidable.byContradiction fun ha => ?_
  have hquote : '"' ∈ n.label.toList := n.quote_mem_label hlined (hm.quoted ha).2
  have harrow : ArrowFree n.line :=
    n.arrowFree_line hlined.isIdentifier (hread.arrowFree_of_quote hquote)
  exact ha (harrow.of_piece hm.label_isInfix)

/-- **No label of a formatted text hides an arrow.** -/
theorem arrowFree_of_mem_parse_format (h : m ∈ (parse (format t)).nodes) :
    ArrowFree m.label.toList := by
  obtain ⟨line, hline, hm⟩ := exists_line_of_mem_nodes h
  have hread := Content.readFrom_of_mem_nodes hm
  rw [splitLines_format] at hline
  rcases mem_lines.mp hline with rfl | ⟨n, hn, rfl⟩ | ⟨e, he, rfl⟩
  · have hheader : ArrowFree (parse t).direction.header := by
      cases (parse t).direction <;> decide
    exact hheader.of_piece hread.label_isInfix
  · exact Node.arrowFree_of_readFrom_line hn hread
  · -- an edge line names its ends and nothing else, whatever its label holds
    have hwritable := writable_of_mem_parse he
    rw [Content.ofLine_edge hwritable] at hm
    have hends : m = .implied e.source ∨ m = .implied e.target := by
      simpa [Content.nodes, Connection.ends, Edge.connection] using hm
    rcases hends with rfl | rfl
    · exact arrowFree_of_isIdentifier hwritable.source_isIdentifier
    · exact arrowFree_of_isIdentifier hwritable.target_isIdentifier

/-! ## Formatting twice -/

/-- A node whose line is written again hides no arrow. -/
theorem Node.arrowFree_of_line_mem (hn : n.Lined)
    (h : n.line ∈ (parse (format t)).lines) : ArrowFree n.label.toList := by
  rcases mem_lines.mp h with hheader | ⟨m, hm, hline⟩ | ⟨e, he, hline⟩
  · exact absurd hheader (n.line_ne_header _)
  · have hwrap := Node.wrap_eq_of_line_eq (lined_of_mem_parse hm) hn hline
    rw [← Shape.arrowFree_wrap_iff, ← hwrap, Shape.arrowFree_wrap_iff]
    exact arrowFree_of_mem_parse_format hm
  · exact absurd hline.symm (Node.line_ne_line_edge hn (writable_of_mem_parse he))

/-- **Formatting again changes nothing exactly if every node is settled.** -/
theorem format_format_iff (t : String) :
    format (format t) = format t ↔ ∀ n ∈ (parse t).nodes, n.Settled := by
  constructor
  · intro hfix n hn
    have hlines : (parse (format t)).lines = (parse t).lines := by
      rw [← splitLines_format, hfix, splitLines_format]
    -- every line is written again, so no label can have hidden an arrow
    have harrow : ∀ n ∈ (parse t).nodes, ArrowFree n.label.toList := by
      intro n hn
      have hmem : n.line ∈ (parse (format t)).lines := by
        rw [hlines]
        exact mem_lines.mpr (Or.inr (Or.inl ⟨n, hn, rfl⟩))
      exact Node.arrowFree_of_line_mem (lined_of_mem_parse hn) hmem
    rw [parse_format_eq harrow, lines, lines, List.map_map] at hlines
    have hsame := List.append_cancel_right (List.cons.inj hlines).2
    exact (Node.settled_iff (harrow n hn)).mpr (List.map_inj_left.mp hsame n hn)
  · intro hsettled
    have hsame : (parse t).nodes.map (Node.line ∘ Node.reread) =
        (parse t).nodes.map Node.line :=
      List.map_congr_left fun n hn => (Node.settled_iff (hsettled n hn).arrowFree).mp (hsettled n hn)
    have hparse := parse_format_eq fun n hn => (hsettled n hn).arrowFree
    rw [format, hparse, render, lines, List.map_map, hsame]
    rfl

/-- A text whose only node is lost when it is formatted twice: without its
quotation marks the label turns the line into that of an edge. -/
def hiddenArrow : String :=
  "flowchart TD\n  A[\"x --> y\"]"

theorem format_not_idempotent : ¬ ∀ t, format (format t) = format t := by
  intro h
  have honce : format hiddenArrow = "flowchart TD\n  A[x --> y]" := by decide +kernel
  have htwice : format (format hiddenArrow) = "flowchart TD" := by decide +kernel
  have hsame := h hiddenArrow
  rw [htwice, honce] at hsame
  exact absurd hsame (by decide)

end Flowchart
