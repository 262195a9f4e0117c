import Flowchart.Proofs.Statement.Node

/-!
# Labels in quotation marks

A label in quotation marks may hold brackets, bars and arrows, and is read whole
from between its marks, as long as no earlier shape is read there first. Each
shape is tried in both its forms before the next one, so an earlier shape with the
same opening mark takes the text if its closing mark stands in the label before
the first arrow, quotation mark and all. That is what `Shape.ClosesEarly` says,
and nothing else can happen (`shapedLabel?_quoted_iff`).
-/

namespace Flowchart

open Text Statement

namespace Shape

variable {s r : Shape} {label : List Char}

/-- Another shape with the same opening mark is tried before this one, and is
closed inside the label before its first arrow. -/
def ClosesEarly (s : Shape) (label : List Char) : Prop :=
  match s with
  | .trapezoid => ['/', ']'] <:+: (cutAtArrow label).1
  | .trapezoidAlt => ['\\', '\\', ']'] <:+: (cutAtArrow label).1
  | _ => False

instance (s : Shape) (label : List Char) : Decidable (s.ClosesEarly label) :=
  match s with
  | .trapezoid | .trapezoidAlt => decidable_of_iff _ occurs_iff_isInfix
  | .rectangle | .rhombus | .round | .stadium | .cylinder | .circle | .asymmetric | .hexagon
  | .parallelogram | .parallelogramAlt | .doubleCircle => isFalse id

/-- An earlier shape never has the shorter opening mark. -/
theorem opener_eq_of_isPrefix (s : Shape) :
    ∀ r ∈ s.earlier, r.opener <+: s.opener → r.opener = s.opener := by
  cases s <;> decide

/-- The two shapes that have an earlier one with the same opening mark. -/
theorem closesEarly_iff : s.ClosesEarly label ↔
    ∃ r ∈ s.earlier, r.opener = s.opener ∧ r.closer <:+: (cutAtArrow label).1 := by
  constructor
  · intro h
    cases s with
    | trapezoid => exact ⟨.parallelogram, by decide, rfl, h⟩
    | trapezoidAlt => exact ⟨.parallelogramAlt, by decide, rfl, h⟩
    | _ => exact h.elim
  · rintro ⟨r, hr, ho, hin⟩
    have htwin := mem_twins s r hr ho
    simp only [List.mem_cons, Prod.mk.injEq, List.not_mem_nil, or_false] at htwin
    rcases htwin with ⟨rfl, rfl⟩ | ⟨rfl, rfl⟩
    · exact hin
    · exact hin

/-- Neither closing mark of two shapes with the same opening mark holds the
other. -/
theorem not_closer_infix_of_twin (hr : r ∈ s.earlier) (ho : r.opener = s.opener) :
    ¬ r.closer <:+: s.closer := by
  have htwin := mem_twins s r hr ho
  simp only [List.mem_cons, Prod.mk.injEq, List.not_mem_nil, or_false] at htwin
  rw [← occurs_iff_isInfix]
  rcases htwin with ⟨rfl, rfl⟩ | ⟨rfl, rfl⟩ <;> decide

end Shape

namespace Statement

variable {s r : Shape} {label rest : List Char}

/-- No arrow holds a quotation mark. -/
theorem quote_notMem_arrow (s : LineStyle) : '"' ∉ s.arrow := by
  cases s <;> decide

/-- The label between its quotation marks. -/
def inQuotes (label : List Char) : List Char :=
  '"' :: label ++ ['"']

/-- A quoted label is read from between the marks of its shape. -/
theorem labelOf?_quoted (hq : '"' ∉ label) :
    labelOf? s (s.wrap (inQuotes label)) = some (label, []) := by
  have hread : quotedLabel? s (inQuotes label ++ s.closer) = some (label, []) :=
    quotedLabel?_eq_some_iff.mpr ⟨by simp [inQuotes], hq⟩
  rw [Shape.wrap, List.append_assoc, labelOf?_opener_append, hread]
  rfl

/-- Before the first arrow the closing mark of an earlier shape stands in the
label or nowhere. -/
theorem closer_infix_cutAtArrow_quoted (hr : r ∈ s.earlier) (ho : r.opener = s.opener) :
    r.closer <:+: (cutAtArrow (inQuotes label ++ s.closer)).1 ↔
      r.closer <:+: (cutAtArrow label).1 := by
  have hfront : inQuotes label ++ s.closer = ['"'] ++ (label ++ '"' :: s.closer) := by
    simp [inQuotes]
  have hskip : ∀ text, r.closer <:+: ['"'] ++ text ↔ r.closer <:+: text := fun text =>
    ⟨fun h => infix_of_infix_cons h r.head?_closer, List.infix_cons⟩
  rw [hfront, cutAtArrow_append_left (by simp), hskip]
  by_cases ha : ArrowFree label
  · have hself : cutAtArrow s.closer = (s.closer, []) :=
      cutAtArrow_of_arrowFree (by cases s <;> decide)
    rw [cutAtArrow_append_cons quote_notMem_arrow ha, cutAtArrow_of_arrowFree ha, hself,
      infix_append_cons_iff r.quote_notMem_closer]
    exact or_iff_left (Shape.not_closer_infix_of_twin hr ho)
  · rw [cutAtArrow_append_cons_of_not quote_notMem_arrow ha]

/-- **What an earlier shape makes of it.** It is read only if it has the same
opening mark and is closed in the label before the first arrow. -/
theorem isSome_labelOf?_quoted_iff (hq : '"' ∉ label) (hr : r ∈ s.earlier) :
    (labelOf? r (s.wrap (inQuotes label))).isSome ↔
      r.opener = s.opener ∧ r.closer <:+: (cutAtArrow label).1 := by
  have hwrap : s.wrap (inQuotes label) = s.opener ++ (inQuotes label ++ s.closer) :=
    List.append_assoc ..
  by_cases ho : r.opener = s.opener
  · -- the quoted form fails at the closing mark, the plain form looks for it
    have hquoted : quotedLabel? r (inQuotes label ++ s.closer) = none := by
      have hcut : splitAt? '"' (label ++ '"' :: s.closer) = some (label, s.closer) :=
        splitAt?_eq_some_iff.mpr ⟨rfl, hq⟩
      have hstrip : strip? r.closer s.closer = none := by
        rw [Option.eq_none_iff_forall_ne_some]
        intro rest hrest
        refine Shape.not_closer_infix_of_twin hr ho ?_
        rw [strip?_eq_some_iff.mp hrest]
        exact List.infix_append_left
      simp [inQuotes, quotedLabel?, hcut, hstrip]
    have hplain : labelOf? r (s.wrap (inQuotes label)) = plainLabel? r (inQuotes label ++ s.closer) := by
      rw [hwrap, ← ho, labelOf?_opener_append, hquoted]
      rfl
    rw [hplain, ← closer_infix_cutAtArrow_quoted hr ho, Option.isSome_iff_ne_none, Ne,
      plainLabel?_eq_none_iff, Classical.not_not]
    simp [ho]
  · have hnone : ¬ (labelOf? r (s.wrap (inQuotes label))).isSome := by
      rw [Option.isSome_iff_exists]
      rintro ⟨⟨l, rest⟩, h⟩
      obtain ⟨body, hbody, -⟩ := fits_of_labelOf? h
      have hopen : r.opener <+: s.opener ++ (inQuotes label ++ s.closer) := by
        rw [← hwrap, hbody]
        exact List.prefix_append _ _
      refine ho (Shape.opener_eq_of_isPrefix s r hr (prefix_of_prefix_append hopen ?_))
      rintro c ⟨⟩
      exact r.quote_notMem_opener
    simp [hnone, ho]

/-- **A quoted label is read whole, with its shape,** exactly if no earlier
shape closes early in it. -/
theorem shapedLabel?_quoted_iff (hq : '"' ∉ label) :
    shapedLabel? (s.wrap (inQuotes label)) = some (⟨s, label⟩, []) ↔ ¬ s.ClosesEarly label := by
  rw [shapedLabel?_eq_some_iff, Shape.closesEarly_iff]
  simp only [labelOf?_quoted hq, true_and, not_exists, not_and, ← Option.not_isSome_iff_eq_none]
  refine forall₂_congr fun r hr => ?_
  rw [isSome_labelOf?_quoted_iff hq hr, not_and]

end Statement

end Flowchart
