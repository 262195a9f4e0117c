import Flowchart.Proofs.Statement.Cursor
import Flowchart.Proofs.Statement.Quoted

/-!
# What reading a label uses up

A text is read as a shape if it begins with the opening mark, a raw text and the
closing mark. Either the raw text is the label in quotation marks, or it holds no
arrow, and the closing mark does not come again before the next one. `Reading` says
so, without a search.

A reading in quotation marks is unique, and of the others one is longest. A shape is
read in quotation marks if it can be, and else in the longest way
(`labelOf?_eq_some_iff`); and it is read at all if there is a reading
(`labelOf?_eq_none_iff`). So the search through the shapes answers with the first
that has a reading, and it fails only if none has one; a cursor is moved over what
was read, or not at all (`shapedLabel?_reading`).
-/

namespace Flowchart.Statement

open Text

variable {s r : Shape} {text raw label rest body : List Char} {l : ShapedLabel}

/-! ## Readings -/

/-- The raw text is the label in quotation marks, and there are none in the label. -/
def IsQuoted (raw label : List Char) : Prop :=
  raw = inQuotes label ∧ '"' ∉ label

/-- A raw text without arrows, up to a closing mark that does not come again before the
next arrow. The label is the raw text without the quotation marks around it, if there
are any. -/
structure IsPlain (s : Shape) (raw label rest : List Char) : Prop where
  arrowFree : ArrowFree raw
  label_eq : raw = inQuotes label ∨ label = raw ∧ ∀ inner, raw ≠ inQuotes inner
  last : ¬ s.closer <:+: (cutAtArrow rest).1

/-- **A reading of a shape** at the front of a text: its marks with a raw text between
them, which is the label in quotation marks or is plain, and the rest of the text. -/
structure Reading (s : Shape) (text raw label rest : List Char) : Prop where
  text_eq : text = s.opener ++ raw ++ s.closer ++ rest
  quoted_or_plain : IsQuoted raw label ∨ IsPlain s raw label rest

/-- **The reading that is taken**: one in quotation marks if there is one, and else one
that reaches as far as a raw text without arrows can. -/
structure Taken (s : Shape) (text raw label rest : List Char) : Prop extends
    Reading s text raw label rest where
  quoted_first : ∀ raw' label' rest', Reading s text raw' label' rest' →
    IsQuoted raw' label' → IsQuoted raw label
  longest : ¬ IsQuoted raw label → ∀ raw' rest', text = s.opener ++ raw' ++ s.closer ++ rest' →
    ArrowFree raw' → raw'.length ≤ raw.length

/-- The longest plain reading behind the opening mark. -/
structure LongestPlain (s : Shape) (body raw label rest : List Char) : Prop extends
    IsPlain s raw label rest where
  body_eq : body = raw ++ s.closer ++ rest
  longest : ∀ raw' rest', body = raw' ++ s.closer ++ rest' → ArrowFree raw' →
    raw'.length ≤ raw.length

theorem unquote_eq_iff :
    unquote raw = label ↔ raw = inQuotes label ∨ label = raw ∧ ∀ inner, raw ≠ inQuotes inner := by
  by_cases h : ∃ inner, raw = inQuotes inner
  · obtain ⟨inner, rfl⟩ := h
    have hinner : unquote (inQuotes inner) = inner := unquote_quoted inner
    rw [hinner]
    constructor
    · rintro rfl
      exact Or.inl rfl
    · rintro (h | ⟨-, h⟩)
      · simpa [inQuotes] using h
      · exact absurd rfl (h inner)
  · have hnone : ∀ inner, raw ≠ inQuotes inner := fun inner he => h ⟨inner, he⟩
    rw [unquote_eq_self hnone]
    constructor
    · exact fun he => Or.inr ⟨he.symm, hnone⟩
    · exact fun he => (he.resolve_left (hnone label)).1.symm

/-! ## One shape -/

/-- Behind the opening mark a label in quotation marks is read if it stands there. -/
theorem quotedLabel?_eq_some_iff_inQuotes : quotedLabel? s body = some (label, rest) ↔
    body = inQuotes label ++ s.closer ++ rest ∧ '"' ∉ label := by
  rw [quotedLabel?_eq_some_iff]
  simp [inQuotes]

/-- A raw text with its closing mark in front of the next arrow is read somehow. -/
theorem plainLabel?_ne_none (ha : ArrowFree raw) :
    plainLabel? s (raw ++ s.closer ++ rest) ≠ none := by
  intro hnone
  refine plainLabel?_eq_none_iff.mp hnone ?_
  rw [cutAtArrow_closer_append ha]
  exact ⟨raw, (cutAtArrow rest).1, rfl⟩

/-- What is read plain is a plain reading, and as long as one can be. -/
theorem exists_longestPlain (h : plainLabel? s body = some (label, rest)) :
    ∃ raw, LongestPlain s body raw label rest := by
  obtain ⟨raw, after, hcut, hlabel, -, hbody⟩ := plainLabel?_eq_some h
  have ha : ArrowFree raw := (arrowFree_cutAtArrow body).of_piece <| by
    rw [splitLast?_eq_some hcut, List.append_assoc]
    exact List.infix_append_left
  -- the window of the body is the raw text, its closing mark and the window of the rest
  have hafter : (cutAtArrow rest).1 = after := by
    have hwindow := splitLast?_eq_some hcut
    rw [hbody, cutAtArrow_closer_append ha] at hwindow
    exact List.append_cancel_left hwindow
  refine ⟨raw, ⟨ha, unquote_eq_iff.mp hlabel.symm, ?_⟩, hbody, fun raw' rest' he ha' => ?_⟩
  · rw [hafter]
    exact not_infix_of_splitLast? s.closer_ne_nil hcut
  · rw [he, cutAtArrow_closer_append ha'] at hcut
    exact length_le_of_splitLast? s.closer_ne_nil hcut

/-- Of two longest readings neither is longer, so they are one. -/
theorem LongestPlain.eq {raw' label' rest' : List Char} (h : LongestPlain s body raw label rest)
    (h' : LongestPlain s body raw' label' rest') : label = label' ∧ rest = rest' := by
  have hlength : raw.length = raw'.length :=
    Nat.le_antisymm (h'.longest raw rest h.body_eq h.arrowFree)
      (h.longest raw' rest' h'.body_eq h'.arrowFree)
  have he := h.body_eq.symm.trans h'.body_eq
  rw [List.append_assoc, List.append_assoc] at he
  obtain ⟨rfl, hrest⟩ := List.append_inj he hlength
  refine ⟨?_, List.append_cancel_left hrest⟩
  rw [← unquote_eq_iff.mpr h.label_eq, unquote_eq_iff.mpr h'.label_eq]

/-- **The longest plain reading** is the one that is read. -/
theorem plainLabel?_eq_some_iff :
    plainLabel? s body = some (label, rest) ↔ ∃ raw, LongestPlain s body raw label rest := by
  constructor
  · exact exists_longestPlain
  · rintro ⟨raw, h⟩
    have hsome : plainLabel? s body ≠ none := by
      rw [h.body_eq]
      exact plainLabel?_ne_none h.arrowFree
    obtain ⟨⟨label', rest'⟩, hread⟩ := Option.ne_none_iff_exists'.mp hsome
    obtain ⟨raw', h'⟩ := exists_longestPlain hread
    obtain ⟨rfl, rfl⟩ := h.eq h'
    exact hread

/-- What stands behind the opening mark. -/
theorem opener_append (s : Shape) (raw rest : List Char) :
    s.opener ++ raw ++ s.closer ++ rest = s.opener ++ (raw ++ s.closer ++ rest) := by
  simp

theorem Reading.body_eq (h : Reading s (s.opener ++ body) raw label rest) :
    body = raw ++ s.closer ++ rest :=
  List.append_cancel_left (h.text_eq.trans (opener_append s raw rest))

/-- Where nothing in quotation marks is read, there is no such reading. -/
theorem not_isQuoted_of_quotedLabel? (hnone : quotedLabel? s body = none)
    (h : Reading s (s.opener ++ body) raw label rest) : ¬ IsQuoted raw label := by
  rintro ⟨rfl, hquote⟩
  rw [quotedLabel?_eq_some_iff_inQuotes.mpr ⟨h.body_eq, hquote⟩] at hnone
  cases hnone

/-- **What is read of one shape** is the reading that is taken. -/
theorem labelOf?_eq_some_iff :
    labelOf? s text = some (label, rest) ↔ ∃ raw, Taken s text raw label rest := by
  constructor
  · intro h
    obtain ⟨body, rfl, -⟩ := fits_of_labelOf? h
    rcases labelOf?_opener_append_eq_some_iff.mp h with hquoted | ⟨hnone, hplain⟩
    · obtain ⟨rfl, hquote⟩ := quotedLabel?_eq_some_iff_inQuotes.mp hquoted
      have hself : IsQuoted (inQuotes label) label := ⟨rfl, hquote⟩
      exact ⟨inQuotes label, ⟨(opener_append s _ rest).symm, Or.inl hself⟩,
        fun _ _ _ _ _ => hself, fun hnot => absurd hself hnot⟩
    · obtain ⟨raw, hplain⟩ := plainLabel?_eq_some_iff.mp hplain
      refine ⟨raw, ⟨by rw [hplain.body_eq, opener_append], Or.inr hplain.toIsPlain⟩,
        fun _ _ _ h hquoted => ?_, fun _ raw' rest' he => ?_⟩
      · exact absurd hquoted (not_isQuoted_of_quotedLabel? hnone h)
      · rw [opener_append] at he
        exact hplain.longest raw' rest' (List.append_cancel_left he)
  · rintro ⟨raw, h⟩
    obtain rfl : text = s.opener ++ (raw ++ s.closer ++ rest) :=
      h.text_eq.trans (opener_append s raw rest)
    rw [labelOf?_opener_append_eq_some_iff]
    by_cases hquoted : IsQuoted raw label
    · exact Or.inl (quotedLabel?_eq_some_iff_inQuotes.mpr ⟨by rw [hquoted.1], hquoted.2⟩)
    · have hplain := h.quoted_or_plain.resolve_left hquoted
      refine Or.inr ⟨?_, plainLabel?_eq_some_iff.mpr ⟨raw, hplain, rfl, fun raw' rest' he => ?_⟩⟩
      · rw [Option.eq_none_iff_forall_ne_some]
        rintro ⟨label', rest'⟩ hread
        obtain ⟨he, hquote⟩ := quotedLabel?_eq_some_iff_inQuotes.mp hread
        have hself : IsQuoted (inQuotes label') label' := ⟨rfl, hquote⟩
        refine hquoted (h.quoted_first _ label' rest' ⟨?_, Or.inl hself⟩ hself)
        rw [he, opener_append]
      · refine h.longest hquoted raw' rest' ?_
        rw [he, opener_append]

/-- **One shape is read if there is a reading of it.** -/
theorem labelOf?_eq_none_iff :
    labelOf? s text = none ↔ ∀ raw label rest, ¬ Reading s text raw label rest := by
  constructor
  · intro hnone raw label rest h
    obtain rfl : text = s.opener ++ (raw ++ s.closer ++ rest) :=
      h.text_eq.trans (opener_append s raw rest)
    rw [labelOf?_opener_append, Option.orElse_eq_orElse, Option.orElse_eq_or,
      Option.or_eq_none_iff] at hnone
    rcases h.quoted_or_plain with hquoted | hplain
    · exact not_isQuoted_of_quotedLabel? hnone.1 h hquoted
    · exact plainLabel?_ne_none hplain.arrowFree hnone.2
  · intro hnone
    rw [Option.eq_none_iff_forall_ne_some]
    rintro ⟨label, rest⟩ hread
    obtain ⟨raw, h⟩ := labelOf?_eq_some_iff.mp hread
    exact hnone raw label rest h.toReading

/-! ## The first shape with a reading -/

/-- **What reading a shape uses up.** The shape that is read is the first of which
there is a reading at the front of the text, and of its readings it is the one in
quotation marks or the longest. Nothing is read only if there is no reading of any
shape. A cursor is moved over what is read, to the rest of the text, and stays where
it was if nothing is. -/
theorem shapedLabel?_reading (text : List Char) :
    (∀ l rest, shapedLabel? text = some (l, rest) ↔
      (∃ raw, Taken l.shape text raw l.label rest) ∧
        ∀ r ∈ l.shape.earlier, ∀ raw label rest, ¬ Reading r text raw label rest) ∧
      (shapedLabel? text = none ↔ ∀ s raw label rest, ¬ Reading s text raw label rest) ∧
      Cursor.shapedLabel text =
        (shapedLabel? text).elim (none, text) fun found => (some found.1, found.2) := by
  refine ⟨fun l rest => ?_, ?_, Cursor.shapedLabel_eq text⟩
  · rw [shapedLabel?_eq_some_iff, labelOf?_eq_some_iff]
    simp only [labelOf?_eq_none_iff]
  · rw [shapedLabel?_eq_none_iff]
    simp only [labelOf?_eq_none_iff]

example : shapedLabel? "(((a)))) ==> b))) --> (".toList =
    some (⟨.doubleCircle, "a)".toList⟩, " ==> b))) --> (".toList) := by decide +kernel

end Flowchart.Statement
