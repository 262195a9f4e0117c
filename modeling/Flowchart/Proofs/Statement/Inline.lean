import Flowchart.Proofs.Statement.Endpoint

/-!
# Writing a statement with its shapes

A statement may be written with any gap, or none, in front of its arrow, its
label and its target, and with the shapes at its ends in place. It is read back
whole, shapes and all (`shapedEdge?_written`), and keeps its style unless its
label names an earlier one (`ShapedEdge.Writable.ofLine?_written`).

What makes this work is that a label is read up to the next arrow. In front of a
gap and an arrow, or a gap and nothing, the label is what stands before its
closing mark, and an earlier shape finds no more there than it finds behind the
label alone (`shapedLabel?_wrap_append`).
-/

namespace Flowchart.Statement

open Text

variable {text beyond : List Char} {l : ShapedLabel} {style : LineStyle}

/-! ## What is written -/

/-- A run of spaces and tabs. It may be empty. -/
structure Gap where
  run : List Char
  isGap_of_mem : ∀ c ∈ run, isGap c = true

/-- The gaps of a statement. -/
structure Spacing where
  beforeArrow : Gap
  beforeLabel : Gap
  beforeTarget : Gap

/-- An end as it is written: its identifier, and directly behind it its shape. -/
def Endpoint.written (e : Endpoint) : List Char :=
  e.id ++ (e.shaped.map fun l => l.shape.wrap l.label).getD []

/-- A label between bars behind a gap, if there is one. -/
def gapBars (g : Gap) : Option (List Char) → List Char
  | some label => g.run ++ bars (some label)
  | none => []

/-- The statement as it is written with the given gaps. -/
def ShapedEdge.written (e : ShapedEdge) (style : LineStyle) (g : Spacing) : List Char :=
  e.source.written ++ (g.beforeArrow.run ++ (style.arrow ++
    (gapBars g.beforeLabel e.label ++ (g.beforeTarget.run ++ e.target.written))))

/-- All labels of a statement: those of the shapes and that of the edge. -/
def ShapedEdge.labels (e : ShapedEdge) : List (List Char) :=
  e.source.shaped.toList.map (·.label) ++ e.target.shaped.toList.map (·.label) ++ e.label.toList

/-- A label that is read back from between the marks of its shape when it is
written without quotation marks. -/
structure ShapedLabel.Plain (l : ShapedLabel) : Prop where
  arrowFree : ArrowFree l.label
  unquoted : l.label.head? ≠ some '"'
  admitted : l.shape.Admits l.label

/-- An end that is read back: it has an identifier, and a plain label if any. -/
structure Endpoint.Plain (e : Endpoint) : Prop where
  isIdentifier : IsIdentifier e.id
  plain : ∀ l ∈ e.shaped, l.Plain

/-- A statement that is read back: so are its ends, and its label holds no bar. -/
structure ShapedEdge.Plain (e : ShapedEdge) : Prop where
  source : e.source.Plain
  target : e.target.Plain
  bar_notMem_label : ∀ label ∈ e.label, '|' ∉ label

/-- A statement that is read back from its line in the given style. Its labels
are on one line, and that of the edge holds no arrow of an earlier style. -/
structure ShapedEdge.Writable (e : ShapedEdge) (style : LineStyle) : Prop extends e.Plain where
  keepsStyle : ∀ label ∈ e.label, ∀ r ∈ style.earlier, ¬ r.arrow <:+: label
  oneLine : ∀ label ∈ e.labels, '\n' ∉ label

/-! ## Gaps -/

namespace Gap

theorem eq_of_mem (g : Gap) {c : Char} (hc : c ∈ g.run) : c = ' ' ∨ c = '\t' := by
  have hgap : isGap c = true := g.isGap_of_mem c hc
  simpa [isGap] using hgap

theorem notMem_arrow (g : Gap) {c : Char} (hc : c ∈ g.run) (s : LineStyle) : c ∉ s.arrow := by
  rcases g.eq_of_mem hc with rfl | rfl <;> cases s <;> decide

theorem notMem_closer (g : Gap) {c : Char} (hc : c ∈ g.run) (s : Shape) : c ∉ s.closer := by
  rcases g.eq_of_mem hc with rfl | rfl <;> cases s <;> decide

/-- No space at all. -/
def none : Gap := ⟨[], by simp⟩

/-- A single space. -/
def space : Gap := ⟨[' '], by simp [isGap]⟩

/-- A gap in front of what is no gap is skipped, and no more. -/
theorem skipGap_append (g : Gap) (h : ∀ c, text.head? = some c → isGap c = false) :
    skipGap (g.run ++ text) = text := by
  rw [skipGap, List.dropWhile_append_of_pos g.isGap_of_mem]
  exact dropWhile_eq_self_of_head? h

/-- A gap brings no arrow with it. -/
theorem arrow_infix_append_iff (g : Gap) {s : LineStyle} :
    s.arrow <:+: g.run ++ text ↔ s.arrow <:+: text := by
  constructor
  · intro h
    refine infix_of_infix_append_left h fun c hc he => ?_
    exact g.notMem_arrow hc s (List.mem_of_mem_head? he)
  · exact List.infix_append_of_infix_right

/-- A gap does not lead on with an arrow, unless what follows it does. -/
theorem head?_append_notMem_arrow (g : Gap) {s : LineStyle}
    (h : ∀ c, text.head? = some c → c ∉ s.arrow) :
    ∀ c, (g.run ++ text).head? = some c → c ∉ s.arrow := by
  intro c hc
  rw [List.head?_append, Option.or_eq_some_iff] at hc
  rcases hc with hgap | ⟨-, htext⟩
  · exact g.notMem_arrow (List.mem_of_mem_head? hgap) s
  · exact h c htext

end Gap

/-! ## A label in front of a gap -/

/-- Nothing more is written, or an arrow is. -/
def ArrowOrEnd (beyond : List Char) : Prop :=
  beyond = [] ∨ startsWithArrow beyond = true

theorem ArrowOrEnd.cutAtArrow_eq (h : ArrowOrEnd beyond) : cutAtArrow beyond = ([], beyond) := by
  rcases h with rfl | h
  · rfl
  · exact cutAtArrow_of_startsWithArrow h

/-- The characters of an identifier stand in no arrow. -/
theorem notMem_arrow_of_isIdentifierChar {c : Char} (hc : isIdentifierChar c = true)
    (s : LineStyle) : c ∉ s.arrow :=
  fun hin => ne_of_mem_marks (mem_marks_of_mem_arrow s c hin).1 hc rfl

/-- The label, its closing mark and the gap behind it are cut off together. -/
theorem ShapedLabel.Plain.cutAtArrow_append (h : l.Plain) (g : Gap) (hb : ArrowOrEnd beyond) :
    cutAtArrow (l.label ++ l.shape.closer ++ g.run ++ beyond) =
      (l.label ++ l.shape.closer ++ g.run, beyond) := by
  have hgap : ∀ c ∈ g.run, c ≠ '-' ∧ c ≠ '=' := by
    intro c hc
    rcases g.eq_of_mem hc with rfl | rfl <;> decide
  rw [List.append_assoc, cutAtArrow_closer_append h.arrowFree, cutAtArrow_append_left hgap,
    hb.cutAtArrow_eq, List.append_nil, List.append_assoc]

/-- No quotation mark stands in front of a plain label. -/
theorem ShapedLabel.Plain.quotedLabel?_append (h : l.Plain) (r : Shape) (more : List Char) :
    quotedLabel? r (l.label ++ l.shape.closer ++ more) = none := by
  rw [← Option.not_isSome_iff_eq_none, Option.isSome_iff_exists]
  rintro ⟨⟨inner, rest⟩, hread⟩
  have hhead := congrArg List.head? (quotedLabel?_eq_some_iff.mp hread).1
  obtain ⟨c, hc⟩ := Option.isSome_iff_exists.mp (List.isSome_head?.mpr l.shape.closer_ne_nil)
  rw [List.append_assoc, List.head?_append, List.head?_append, hc, Option.some_or] at hhead
  rcases Option.or_eq_some_iff.mp hhead with hlabel | ⟨-, hclose⟩
  · exact h.unquoted hlabel
  · exact l.shape.head?_closer (hc.trans hclose)

/-- **What a shape finds** behind the opening mark of a plain label: what stands
before the last of its closing marks in front of the next arrow. -/
theorem labelOf?_wrap_append (h : l.Plain) {r : Shape} (ho : r.opener = l.shape.opener) (g : Gap)
    (hb : ArrowOrEnd beyond) :
    labelOf? r (l.shape.wrap l.label ++ (g.run ++ beyond)) =
      (splitLast? r.closer (l.label ++ l.shape.closer ++ g.run)).map fun cut =>
        (unquote cut.1, cut.2 ++ beyond) := by
  have htext : l.shape.wrap l.label ++ (g.run ++ beyond) =
      r.opener ++ (l.label ++ l.shape.closer ++ g.run ++ beyond) := by
    simp [Shape.wrap, ho]
  have hquoted : quotedLabel? r (l.label ++ l.shape.closer ++ g.run ++ beyond) = none := by
    rw [List.append_assoc]
    exact h.quotedLabel?_append r _
  rw [htext, labelOf?_opener_append, hquoted, plainLabel?_eq_map, h.cutAtArrow_append g hb]
  rfl

/-- **A plain label is read back in front of a gap**, if an arrow follows or
nothing does. The gap stays. -/
theorem shapedLabel?_wrap_append (h : l.Plain) (g : Gap) (hb : ArrowOrEnd beyond) :
    shapedLabel? (l.shape.wrap l.label ++ (g.run ++ beyond)) = some (l, g.run ++ beyond) := by
  have hgap : ∀ r : Shape, ∀ c ∈ g.run, r.closer.getLast? ≠ some c :=
    fun r c hc he => g.notMem_closer hc r (List.mem_of_getLast? he)
  refine shapedLabel?_eq_some_iff.mpr ⟨?_, fun r hr => ?_⟩
  · have hunquote : unquote l.label = l.label := by
      refine unquote_eq_self fun inner he => h.unquoted ?_
      rw [he]
      rfl
    rw [labelOf?_wrap_append h rfl g hb, List.append_assoc,
      splitLast?_append l.shape.closer_ne_nil (hgap l.shape)]
    simp [hunquote]
  · -- an earlier shape would need the opening mark, and then its closing mark
    by_cases ho : r.opener = l.shape.opener
    · rw [labelOf?_wrap_append h ho g hb, Option.map_eq_none_iff, splitLast?_eq_none_iff]
      intro hin
      exact Shape.not_closer_infix_of_admits h.admitted hr ho
        (infix_of_infix_append_right hin (hgap r))
    · rw [← Option.not_isSome_iff_eq_none, Option.isSome_iff_exists]
      rintro ⟨⟨label, rest⟩, hread⟩
      obtain ⟨body, hbody, -⟩ := fits_of_labelOf? hread
      exact ho (Shape.opener_eq_of_admits h.admitted hr ⟨body, hbody.symm⟩)

/-! ## An end in front of a gap -/

variable {e : Endpoint}

/-- What may follow an end begins with a space, a tab or an arrow, if anything
follows. -/
theorem mem_of_head?_gap_append (g : Gap) (hb : ArrowOrEnd beyond) :
    ∀ c, (g.run ++ beyond).head? = some c → c ∈ [' ', '\t', '-', '='] := by
  intro c hc
  rw [List.head?_append, Option.or_eq_some_iff] at hc
  rcases hc with hgap | ⟨-, hbeyond⟩
  · rcases g.eq_of_mem (List.mem_of_mem_head? hgap) with rfl | rfl <;> decide
  · rcases hb with rfl | harrow
    · exact absurd hbeyond (by simp)
    · obtain ⟨s, more, rfl⟩ := startsWithArrow_iff.mp harrow
      rw [List.head?_append, Option.or_of_isSome (List.isSome_head?.mpr s.arrow_ne_nil)] at hbeyond
      rcases s.head?_arrow with hs | hs
      · obtain rfl := Option.some.inj (hbeyond.symm.trans hs)
        decide
      · obtain rfl := Option.some.inj (hbeyond.symm.trans hs)
        decide

/-- **An end is read back in front of a gap**, with its shape or without. -/
theorem shapedEndpoint?_append (h : e.Plain) (g : Gap) (hb : ArrowOrEnd beyond) :
    shapedEndpoint? (e.written ++ (g.run ++ beyond)) = some (e, g.run ++ beyond) := by
  have hnext := mem_of_head?_gap_append g hb
  obtain ⟨id, shaped⟩ := e
  cases shaped with
  | none =>
    have hid : identifier? (id ++ (g.run ++ beyond)) = some (id, g.run ++ beyond) := by
      refine identifier?_eq_some_iff.mpr ⟨rfl, h.isIdentifier, fun c hc => ?_⟩
      have hmarks : ∀ d ∈ [' ', '\t', '-', '='], d ∈ marks := by simp [marks]
      exact isIdentifierChar_of_mem_marks c (hmarks c (hnext c hc))
    have hl : shapedLabel? (g.run ++ beyond) = none := by
      refine shapedLabel?_eq_none_of_head? fun c hc he => ?_
      have hapart : ∀ d ∈ ['(', '[', '{', '>'], d ∉ [' ', '\t', '-', '='] := by simp
      exact hapart c hc (hnext c he)
    simp [shapedEndpoint?, Endpoint.written, hid, hl]
  | some l =>
    have hl := shapedLabel?_wrap_append (h.plain l rfl) g hb
    have hid : identifier? (id ++ (l.shape.wrap l.label ++ (g.run ++ beyond))) =
        some (id, l.shape.wrap l.label ++ (g.run ++ beyond)) := by
      refine identifier?_eq_some_iff.mpr ⟨rfl, h.isIdentifier, fun c hc => ?_⟩
      have hwrap : l.shape.wrap l.label ≠ [] := by simp [Shape.wrap, l.shape.opener_ne_nil]
      rw [List.head?_append, Option.or_of_isSome (List.isSome_head?.mpr hwrap)] at hc
      exact head?_wrap l.shape l.label c hc
    simp [shapedEndpoint?, Endpoint.written, hid, hl]

/-- And where it stands alone. -/
theorem shapedEndpoint?_written (h : e.Plain) : shapedEndpoint? e.written = some (e, []) := by
  have hend := shapedEndpoint?_append h Gap.none (Or.inl rfl)
  rwa [List.append_nil, Gap.none, List.append_nil] at hend

namespace Endpoint

/-- The first character of an end belongs to its identifier. -/
theorem Plain.head?_written (h : e.Plain) :
    ∀ c, e.written.head? = some c → isIdentifierChar c = true := by
  intro c hc
  obtain ⟨d, hd, hchar⟩ := h.isIdentifier.head?
  rw [written, List.head?_append, hd, Option.some_or] at hc
  obtain rfl := Option.some.inj hc
  exact hchar

/-- The last character of an end belongs to its identifier or is a bracket. -/
theorem Plain.getLast?_written (h : e.Plain) : ∃ c, e.written.getLast? = some c ∧
    (isIdentifierChar c = true ∨ c ∈ [')', ']', '}']) := by
  obtain ⟨id, shaped⟩ := e
  cases shaped with
  | none =>
    obtain ⟨c, hc, hchar⟩ := h.isIdentifier.getLast?
    exact ⟨c, by simpa [written] using hc, Or.inl hchar⟩
  | some l =>
    obtain ⟨c, hc, hlast⟩ := getLast?_append_closer (id ++ (l.shape.opener ++ l.label)) l.shape
    exact ⟨c, by simpa [written, Shape.wrap] using hlast, Or.inr hc⟩

/-- An end is on one line if its label is. -/
theorem Plain.lineFeed_notMem_written (h : e.Plain) (hl : ∀ l ∈ e.shaped, '\n' ∉ l.label) :
    '\n' ∉ e.written := by
  have hid : '\n' ∉ e.id := h.isIdentifier.mark_notMem (by decide)
  obtain ⟨id, shaped⟩ := e
  cases shaped with
  | none => simpa [written] using hid
  | some l => simpa [written, Shape.lineFeed_notMem_wrap (hl l rfl)] using hid

/-- An end holds no arrow. -/
theorem Plain.arrowFree_written (h : e.Plain) : ArrowFree e.written := by
  obtain ⟨id, shaped⟩ := e
  rw [written, arrowFree_append_iff h.isIdentifier]
  cases shaped with
  | none => exact fun s hs => s.arrow_ne_nil (List.infix_nil.mp hs)
  | some l => exact Shape.arrowFree_wrap_iff.mpr (h.plain l rfl).arrowFree

/-- And none reaches across its last character. -/
theorem Plain.arrow_infix_append_iff (h : e.Plain) {s : LineStyle} :
    s.arrow <:+: e.written ++ beyond ↔ s.arrow <:+: beyond := by
  rw [infix_append_iff_of_getLast?, or_iff_right (h.arrowFree_written s)]
  intro c hc
  obtain ⟨d, hd, hkind⟩ := h.getLast?_written
  obtain rfl := Option.some.inj (hc.symm.trans hd)
  rcases hkind with hchar | hbracket
  · exact notMem_arrow_of_isIdentifierChar hchar s
  · exact notMem_arrow_of_bracket hbracket s

end Endpoint

/-! ## The whole statement -/

namespace ShapedEdge

variable {e : ShapedEdge}

/-- The label between its bars is read, and the gap behind it stays. -/
theorem edgeLabel_gapBars (h : e.Plain) (g g' : Gap) :
    edgeLabel (gapBars g e.label ++ (g'.run ++ e.target.written)) =
      (e.label, g'.run ++ e.target.written) := by
  cases he : e.label with
  | none =>
    have hgap : ∀ c, e.target.written.head? = some c → isGap c = false :=
      fun c hc => isGap_of_isIdentifierChar (h.target.head?_written c hc)
    rw [gapBars, List.nil_append, edgeLabel, g'.skipGap_append hgap]
    split
    · rename_i inner hin
      have hbar : isIdentifierChar '|' = true := h.target.head?_written '|' (by rw [hin]; rfl)
      exact absurd rfl (ne_of_mem_marks (by decide) hbar)
    · rfl
  | some label =>
    have hcut : splitAt? '|' (label ++ '|' :: (g'.run ++ e.target.written)) =
        some (label, g'.run ++ e.target.written) :=
      splitAt?_eq_some_iff.mpr ⟨rfl, h.bar_notMem_label label he⟩
    have hskip : skipGap (g.run ++ '|' :: (label ++ '|' :: (g'.run ++ e.target.written))) =
        '|' :: (label ++ '|' :: (g'.run ++ e.target.written)) :=
      g.skipGap_append fun c hc => by
        obtain rfl := Option.some.inj hc
        decide
    have htext : gapBars g (some label) ++ (g'.run ++ e.target.written) =
        g.run ++ '|' :: (label ++ '|' :: (g'.run ++ e.target.written)) := by
      simp [gapBars, bars]
    rw [htext, edgeLabel, hskip]
    simp [hcut]

/-- **A written statement is read back whole**, whatever the gaps. -/
theorem shapedEdge?_written (h : e.Plain) (style : LineStyle) (g : Spacing) :
    shapedEdge? (e.written style g) = some (e, []) := by
  have hsource : shapedEndpoint? (e.written style g) = some (e.source, g.beforeArrow.run ++
      (style.arrow ++ (gapBars g.beforeLabel e.label ++ (g.beforeTarget.run ++ e.target.written)))) :=
    shapedEndpoint?_append h.source g.beforeArrow
      (Or.inr (startsWithArrow_iff.mpr ⟨style, List.prefix_append _ _⟩))
  have hgap : ∀ c, e.target.written.head? = some c → isGap c = false :=
    fun c hc => isGap_of_isIdentifierChar (h.target.head?_written c hc)
  simp [shapedEdge?, hsource, g.beforeArrow.skipGap_append (isGap_arrow_append style _),
    afterArrow?_arrow_append, edgeLabel_gapBars h, g.beforeTarget.skipGap_append hgap,
    shapedEndpoint?_written h.target]

/-- So is the statement without its shapes. -/
theorem edge?_written (h : e.Plain) (style : LineStyle) (g : Spacing) :
    edge? (e.written style g) = some (e.statement, []) := by
  rw [edge?_eq_map, shapedEdge?_written h]
  rfl

/-- **A written statement defines what its ends define.** -/
theorem definitionsIn_written (h : e.Plain) (style : LineStyle) (g : Spacing) :
    definitionsIn (e.written style g) = e.definitions := by
  rw [definitionsIn_of_shapedEdge? (shapedEdge?_written h style g), definitionsIn, definitionsFrom,
    List.append_nil]

/-- **The arrows of a written statement** are its own and those in its label. -/
theorem arrow_infix_written_iff (h : e.Plain) (g : Spacing) {r : LineStyle} :
    r.arrow <:+: e.written style g ↔ r = style ∨ ∃ label ∈ e.label, r.arrow <:+: label := by
  have htarget : ¬ r.arrow <:+: e.target.written := h.target.arrowFree_written r
  have hseam : ∀ c, (gapBars g.beforeLabel e.label ++
      (g.beforeTarget.run ++ e.target.written)).head? = some c → c ∉ r.arrow := by
    cases e.label with
    | none =>
      refine g.beforeTarget.head?_append_notMem_arrow fun c hc => ?_
      exact notMem_arrow_of_isIdentifierChar (h.target.head?_written c hc) r
    | some label =>
      rw [gapBars, List.append_assoc]
      refine g.beforeLabel.head?_append_notMem_arrow fun c hc => ?_
      obtain rfl : '|' = c := Option.some.inj hc
      cases r <;> decide
  rw [written, h.source.arrow_infix_append_iff, g.beforeArrow.arrow_infix_append_iff,
    infix_append_iff_of_head? hseam, LineStyle.arrow_infix_arrow_iff]
  refine or_congr_right ?_
  cases he : e.label with
  | none => simp [gapBars, g.beforeTarget.arrow_infix_append_iff, htarget]
  | some label =>
    have hbar : '|' ∉ r.arrow := by cases r <;> decide
    have hbars : gapBars g.beforeLabel (some label) ++ (g.beforeTarget.run ++ e.target.written) =
        g.beforeLabel.run ++ ([] ++ '|' :: (label ++ '|' ::
          (g.beforeTarget.run ++ e.target.written))) := by simp [gapBars, bars]
    have hnil : ¬ r.arrow <:+: [] := fun hn => r.arrow_ne_nil (List.infix_nil.mp hn)
    rw [hbars, g.beforeLabel.arrow_infix_append_iff, infix_append_cons_iff hbar,
      infix_append_cons_iff hbar, g.beforeTarget.arrow_infix_append_iff]
    simp [htarget, hnil]

namespace Writable

/-- **A written statement keeps its style.** -/
theorem ofLine?_written (h : e.Writable style) (g : Spacing) :
    LineStyle.ofLine? (e.written style g) = some style := by
  refine ofLine?_eq_some_iff.mpr
    ⟨(arrow_infix_written_iff h.toPlain g).mpr (Or.inl rfl), fun r hr hin => ?_⟩
  rcases (arrow_infix_written_iff h.toPlain g).mp hin with rfl | ⟨label, hm, hlabel⟩
  · revert hr
    cases r <;> decide
  · exact h.keepsStyle label hm r hr hlabel

theorem lineFeed_notMem_source (h : e.Writable style) : '\n' ∉ e.source.written :=
  h.source.lineFeed_notMem_written fun l hl => h.oneLine l.label (by
    simp [labels, Option.mem_def.mp hl])

theorem lineFeed_notMem_target (h : e.Writable style) : '\n' ∉ e.target.written :=
  h.target.lineFeed_notMem_written fun l hl => h.oneLine l.label (by
    simp [labels, Option.mem_def.mp hl])

/-- It takes one line. -/
theorem lineFeed_notMem_written (h : e.Writable style) (g : Spacing) :
    '\n' ∉ e.written style g := by
  have hgap : ∀ gap : Gap, '\n' ∉ gap.run := by
    intro gap hm
    rcases gap.eq_of_mem hm with hc | hc <;> exact absurd hc (by decide)
  have harrow : '\n' ∉ style.arrow := by cases style <;> decide
  have hbars : '\n' ∉ gapBars g.beforeLabel e.label := by
    cases he : e.label with
    | none => simp [gapBars]
    | some label =>
      have hlabel : '\n' ∉ label := h.oneLine label (by simp [labels, he])
      simp [gapBars, bars, hgap, hlabel]
  simp [written, h.lineFeed_notMem_source, h.lineFeed_notMem_target, hgap, harrow, hbars]

end Writable

end ShapedEdge

/-! ## Bare ends -/

/-- The statement with no shape at either end. -/
def EdgeStatement.bare (e : EdgeStatement) : ShapedEdge :=
  ⟨⟨e.source, none⟩, ⟨e.target, none⟩, e.label⟩

@[simp] theorem EdgeStatement.statement_bare (e : EdgeStatement) : e.bare.statement = e := rfl

theorem EdgeStatement.Writable.plain_bare {e : EdgeStatement} (h : e.Writable) : e.bare.Plain where
  source := ⟨h.source_isIdentifier, by simp [EdgeStatement.bare]⟩
  target := ⟨h.target_isIdentifier, by simp [EdgeStatement.bare]⟩
  bar_notMem_label := h.bar_notMem_label

/-- Single spaces are one way to write it. -/
theorem EdgeStatement.written_eq (e : EdgeStatement) (style : LineStyle) :
    e.written style = e.bare.written style ⟨.space, .none, .space⟩ := by
  cases he : e.label <;>
    simp [EdgeStatement.written, ShapedEdge.written, Endpoint.written, gapBars, bare, bars,
      Gap.space, Gap.none, he]

/-- Without its shapes a statement can be written in the same style. -/
theorem ShapedEdge.Writable.bare {e : ShapedEdge} (h : e.Writable style) :
    e.statement.bare.Writable style where
  source := ⟨h.source.isIdentifier, by simp [EdgeStatement.bare]⟩
  target := ⟨h.target.isIdentifier, by simp [EdgeStatement.bare]⟩
  bar_notMem_label := h.bar_notMem_label
  keepsStyle := h.keepsStyle
  oneLine := by
    intro label hl
    have hlabel : label ∈ e.label.toList := by
      simpa [labels, EdgeStatement.bare, statement] using hl
    exact h.oneLine label (List.mem_append_right _ hlabel)

end Flowchart.Statement
