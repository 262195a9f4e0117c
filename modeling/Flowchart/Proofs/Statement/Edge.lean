import Flowchart.Proofs.Statement.Node

/-!
# Edge statements

The parts of an edge statement that is read are identifiers and a label
without bars, all pieces of the line (`readFrom_of_edge?`). In the other
direction a statement is written out with single spaces; what ends its parts
when it is read again are its spaces, its arrow and its bars.
-/

namespace Flowchart.Statement

open Text

variable {text rest id word : List Char} {e : EdgeStatement}

/-! ## What is read -/

/-- What is known of an edge statement that was read from a line. -/
structure EdgeStatement.ReadFrom (e : EdgeStatement) (line : List Char) : Prop where
  source_isIdentifier : IsIdentifier e.source
  target_isIdentifier : IsIdentifier e.target
  source_isInfix : e.source <:+: line
  target_isInfix : e.target <:+: line
  label_isInfix : ∀ label ∈ e.label, label <:+: line
  bar_notMem_label : ∀ label ∈ e.label, '|' ∉ label

/-- An endpoint is an identifier at the front of the text. -/
theorem endpoint?_eq_some (h : endpoint? text = some (id, rest)) :
    IsIdentifier id ∧ id <+: text ∧ rest <:+ text := by
  simp only [endpoint?, Option.bind_eq_bind, Option.bind_eq_some_iff, Prod.exists] at h
  obtain ⟨id', inner, hid, h⟩ := h
  obtain ⟨rfl, hword, -⟩ := identifier?_eq_some_iff.mp hid
  split at h
  · rename_i l beyond hl
    obtain ⟨rfl, rfl⟩ := Prod.mk.inj (Option.some.inj h)
    exact ⟨hword, List.prefix_append _ _,
      (suffix_of_shapedLabel? hl).trans (List.suffix_append _ _)⟩
  · obtain ⟨rfl, rfl⟩ := Prod.mk.inj (Option.some.inj h)
    exact ⟨hword, List.prefix_append _ _, List.suffix_append _ _⟩

theorem suffix_of_afterArrow? (h : afterArrow? text = some rest) : rest <:+ text := by
  obtain ⟨s, _, hs⟩ := List.exists_of_findSome?_eq_some h
  rw [strip?_eq_some_iff.mp hs]
  exact List.suffix_append _ _

theorem skipGap_suffix (text : List Char) : skipGap text <:+ text :=
  List.dropWhile_suffix _

/-- A label between bars is a piece of the text and holds no bar. -/
theorem edgeLabel_spec (text : List Char) : (edgeLabel text).2 <:+ text ∧
    ∀ label ∈ (edgeLabel text).1, label <:+: text ∧ '|' ∉ label := by
  unfold edgeLabel
  split
  · rename_i inner hgap
    split
    · rename_i label rest hcut
      obtain ⟨rfl, hbar⟩ := splitAt?_eq_some_iff.mp hcut
      have hsuffix : '|' :: (label ++ '|' :: rest) <:+ text := hgap ▸ skipGap_suffix text
      refine ⟨List.IsSuffix.trans ⟨'|' :: label ++ ['|'], by simp⟩ hsuffix, ?_⟩
      rintro l ⟨⟩
      exact ⟨List.IsInfix.trans ⟨['|'], '|' :: rest, by simp⟩ hsuffix.isInfix, hbar⟩
    · exact ⟨List.suffix_rfl, by simp⟩
  · exact ⟨List.suffix_rfl, by simp⟩

/-- **The parts of an edge statement come from its line.** -/
theorem readFrom_of_edge? (h : edge? text = some (e, rest)) : e.ReadFrom text := by
  simp only [edge?, Option.bind_eq_bind, Option.bind_eq_some_iff, Prod.exists, Option.pure_def,
    Option.some.injEq, Prod.mk.injEq] at h
  obtain ⟨source, rest₁, hsource, rest₂, harrow, target, rest₃, htarget, rfl, -⟩ := h
  obtain ⟨hs, hsi, hr₁⟩ := endpoint?_eq_some hsource
  obtain ⟨ht, hti, -⟩ := endpoint?_eq_some htarget
  obtain ⟨hlr, hl⟩ := edgeLabel_spec rest₂
  have hr₂ : rest₂ <:+ text :=
    (suffix_of_afterArrow? harrow).trans ((skipGap_suffix rest₁).trans hr₁)
  exact {
    source_isIdentifier := hs
    target_isIdentifier := ht
    source_isInfix := hsi.isInfix
    target_isInfix := hti.isInfix.trans ((skipGap_suffix _).trans (hlr.trans hr₂)).isInfix
    label_isInfix := fun label hm => (hl label hm).1.trans hr₂.isInfix
    bar_notMem_label := fun label hm => (hl label hm).2 }

/-! ## What is written -/

/-- A label between bars, if there is one. -/
def bars : Option (List Char) → List Char
  | some label => '|' :: label ++ ['|']
  | none => []

/-- An edge statement as it is written, with single spaces. -/
def EdgeStatement.written (e : EdgeStatement) (style : LineStyle) : List Char :=
  e.source ++ ' ' :: (style.arrow ++ (bars e.label ++ ' ' :: e.target))

/-- An edge statement that can be written: its ends are identifiers, and its
label holds no bar. -/
structure EdgeStatement.Writable (e : EdgeStatement) : Prop where
  source_isIdentifier : IsIdentifier e.source
  target_isIdentifier : IsIdentifier e.target
  bar_notMem_label : ∀ label ∈ e.label, '|' ∉ label

variable {style : LineStyle}

/-- A character of an identifier is no gap. -/
theorem isGap_of_isIdentifierChar {c : Char} (h : isIdentifierChar c = true) : isGap c = false := by
  have hspace : c ≠ ' ' := ne_of_mem_marks (by decide) h
  have htab : c ≠ '\t' := ne_of_mem_marks (by decide) h
  simp [isGap, hspace, htab]

/-- Arrows are made of marks of the notation, none of which is a bar. -/
theorem mem_marks_of_mem_arrow (s : LineStyle) : ∀ c ∈ s.arrow, c ∈ marks ∧ c ≠ '|' := by
  cases s <;> simp [LineStyle.arrow, marks]

/-- An arrow is taken off the front of any text. -/
theorem afterArrow?_arrow_append (style : LineStyle) (rest : List Char) :
    afterArrow? (style.arrow ++ rest) = some rest := by
  cases style <;> simp [afterArrow?, LineStyle.all, LineStyle.arrow, strip?]

theorem isGap_arrow_append (style : LineStyle) (rest : List Char) :
    ∀ c, (style.arrow ++ rest).head? = some c → isGap c = false := by
  cases style <;> rintro c ⟨⟩ <;> decide

/-- A space ends an identifier. -/
theorem head?_space (text : List Char) :
    ∀ c, (' ' :: text).head? = some c → isIdentifierChar c = false := by
  rintro c ⟨⟩
  exact isIdentifierChar_of_mem_marks ' ' (by decide)

end Flowchart.Statement
