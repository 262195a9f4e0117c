import Flowchart.Statement.Edge
import Flowchart.Proofs.FirstMatch
import Flowchart.Proofs.Text.Infix

/-!
# Arrows in a text

A text is `ArrowFree` if no arrow of any style occurs in it. A line is an
edge line exactly if it is not (`ofLine?_eq_none_iff`), and the style of an
edge line is settled by the arrows on it, the earlier styles first
(`ofLine?_eq_some_iff`).

`cutAtArrow` splits at the first arrow. What it leaves in front is free of
arrows, and characters that no arrow begins with can be put before the text
without moving the cut (`cutAtArrow_append_left`), which is how the window of a
label relates to the window of its whole statement. Behind a character that is
in no arrow the cut is looked for anew, unless it has been found already
(`cutAtArrow_append_cons`, `cutAtArrow_append_cons_of_not`).
-/

namespace Flowchart

open Text

namespace LineStyle

/-- The styles that are looked for before this one. -/
def earlier (s : LineStyle) : List LineStyle :=
  preceding s all

/-- Every arrow begins with a dash or an equals sign. -/
theorem head?_arrow (s : LineStyle) : s.arrow.head? = some '-' ∨ s.arrow.head? = some '=' := by
  cases s <;> decide

/-- Every arrow ends with a point to the right. -/
theorem getLast?_arrow (s : LineStyle) : s.arrow.getLast? = some '>' := by
  cases s <;> decide

/-- No arrow is part of another. -/
theorem arrow_infix_arrow_iff {r s : LineStyle} : r.arrow <:+: s.arrow ↔ r = s := by
  rw [← occurs_iff_isInfix]
  cases r <;> cases s <;> decide

end LineStyle

namespace Statement

variable {text before after line : List Char}

/-- No arrow of any style occurs in the text. -/
def ArrowFree (text : List Char) : Prop :=
  ∀ s : LineStyle, ¬ s.arrow <:+: text

instance (text : List Char) : Decidable (ArrowFree text) :=
  decidable_of_iff (∀ s ∈ LineStyle.all, occurs s.arrow text = false) <| by
    simp only [ArrowFree, ← occurs_iff_isInfix, Bool.not_eq_true]
    exact ⟨fun h s => h s s.mem_all, fun h s _ => h s⟩

theorem ArrowFree.of_piece {piece : List Char} (h : ArrowFree text) (hp : piece <:+: text) :
    ArrowFree piece :=
  fun s hs => h s (hs.trans hp)

/-- Characters that no arrow begins with bring no arrow in front of a text. -/
theorem arrowFree_append_left_iff (hb : ∀ c ∈ before, c ≠ '-' ∧ c ≠ '=') :
    ArrowFree (before ++ text) ↔ ArrowFree text := by
  constructor
  · exact fun h => h.of_piece List.infix_append_right
  · intro h s hs
    refine h s (infix_of_infix_append_left hs fun c hc he => ?_)
    obtain ⟨hdash, hequals⟩ := hb c hc
    rcases s.head?_arrow with ha | ha
    · exact hdash (Option.some.inj (he.symm.trans ha))
    · exact hequals (Option.some.inj (he.symm.trans ha))

/-- And characters that no arrow ends with bring none behind it. -/
theorem arrowFree_append_right_iff (ha : ∀ c ∈ after, c ≠ '>') :
    ArrowFree (text ++ after) ↔ ArrowFree text := by
  constructor
  · exact fun h => h.of_piece List.infix_append_left
  · intro h s hs
    refine h s (infix_of_infix_append_right hs fun c hc he => ?_)
    exact ha c hc (Option.some.inj (he.symm.trans s.getLast?_arrow))

/-! ## The style of a line -/

/-- **A line is no edge line exactly if it is free of arrows.** -/
theorem ofLine?_eq_none_iff : LineStyle.ofLine? line = none ↔ ArrowFree line := by
  rw [LineStyle.ofLine?, List.find?_eq_none]
  simp only [Bool.not_eq_true, ArrowFree, ← occurs_iff_isInfix]
  exact ⟨fun h s => h s s.mem_all, fun h s _ => h s⟩

/-- **The style of an edge line** is that of an arrow on it, and no arrow of
an earlier style is on it. -/
theorem ofLine?_eq_some_iff {s : LineStyle} :
    LineStyle.ofLine? line = some s ↔
      s.arrow <:+: line ∧ ∀ r ∈ s.earlier, ¬ r.arrow <:+: line := by
  rw [LineStyle.ofLine?, find?_eq_some_iff_preceding]
  simp only [s.mem_all, true_and, ← Bool.not_eq_true, occurs_iff_isInfix]
  rfl

/-! ## The cut at the first arrow -/

theorem startsWithArrow_iff : startsWithArrow text = true ↔ ∃ s : LineStyle, s.arrow <+: text := by
  simp only [startsWithArrow, List.any_eq_true, List.isPrefixOf_iff_prefix]
  exact ⟨fun ⟨s, _, h⟩ => ⟨s, h⟩, fun ⟨s, h⟩ => ⟨s, s.mem_all, h⟩⟩

/-- A text without arrows is not cut. -/
theorem cutAtArrow_of_arrowFree (h : ArrowFree text) : cutAtArrow text = (text, []) := by
  induction text with
  | nil => rfl
  | cons c rest ih =>
    have hstart : ¬ startsWithArrow (c :: rest) = true := by
      rw [startsWithArrow_iff]
      rintro ⟨s, hs⟩
      exact h s hs.isInfix
    have hrest : ArrowFree rest := h.of_piece (List.suffix_cons c rest).isInfix
    rw [cutAtArrow, if_neg hstart, ih hrest]

/-- **What stands before the cut is free of arrows.** -/
theorem arrowFree_cutAtArrow (text : List Char) : ArrowFree (cutAtArrow text).1 := by
  induction text with
  | nil => exact fun s hs => s.arrow_ne_nil (List.infix_nil.mp hs)
  | cons c rest ih =>
    rw [cutAtArrow]
    split
    · exact fun s hs => s.arrow_ne_nil (List.infix_nil.mp hs)
    · rename_i hstart
      intro s hs
      rcases List.infix_cons_iff.mp hs with hp | hi
      · have hwhole : c :: (cutAtArrow rest).1 <+: c :: rest :=
          List.cons_prefix_cons.mpr ⟨rfl, (cutAtArrow rest).2, cutAtArrow_append rest⟩
        exact hstart (startsWithArrow_iff.mpr ⟨s, hp.trans hwhole⟩)
      · exact ih s hi

/-- **The cut does not move** when characters that no arrow begins with are
put in front. -/
theorem cutAtArrow_append_left (hb : ∀ c ∈ before, c ≠ '-' ∧ c ≠ '=') :
    cutAtArrow (before ++ text) = (before ++ (cutAtArrow text).1, (cutAtArrow text).2) := by
  induction before with
  | nil => rfl
  | cons b before ih =>
    have hstart : ¬ startsWithArrow (b :: (before ++ text)) = true := by
      rw [startsWithArrow_iff]
      rintro ⟨s, r, hr⟩
      obtain ⟨hdash, hequals⟩ := hb b List.mem_cons_self
      -- an arrow here would begin with `b`
      have hhead : s.arrow.head? = some b := by
        have := congrArg List.head? hr
        rwa [List.head?_append, List.head?_cons, Option.or_of_isSome] at this
        exact List.isSome_head?.mpr s.arrow_ne_nil
      rcases s.head?_arrow with ha | ha
      · exact hdash (Option.some.inj (hhead.symm.trans ha))
      · exact hequals (Option.some.inj (hhead.symm.trans ha))
    rw [List.cons_append, cutAtArrow, if_neg hstart, ih fun c hc => hb c (List.mem_cons_of_mem _ hc)]
    rfl

/-- An arrow does not reach across a character that is in none. -/
theorem startsWithArrow_append_cons {c : Char} (hc : ∀ s : LineStyle, c ∉ s.arrow) :
    startsWithArrow (before ++ c :: after) = startsWithArrow before := by
  rw [Bool.eq_iff_iff, startsWithArrow_iff, startsWithArrow_iff]
  constructor
  · rintro ⟨s, hs⟩
    refine ⟨s, prefix_of_prefix_append hs fun d hd => ?_⟩
    obtain rfl := Option.some.inj hd
    exact hc s
  · rintro ⟨s, hs⟩
    exact ⟨s, hs.trans (List.prefix_append _ _)⟩

theorem arrowFree_cons_iff {c : Char} :
    ArrowFree (c :: text) ↔ startsWithArrow (c :: text) = false ∧ ArrowFree text := by
  rw [← Bool.not_eq_true, startsWithArrow_iff]
  simp only [ArrowFree, List.infix_cons_iff, not_or, not_exists, forall_and]

/-- **The cut lies behind a text without arrows**, if a character that is in no
arrow follows it. -/
theorem cutAtArrow_append_cons {c : Char} (hc : ∀ s : LineStyle, c ∉ s.arrow)
    (hb : ArrowFree before) : cutAtArrow (before ++ c :: after) =
      (before ++ c :: (cutAtArrow after).1, (cutAtArrow after).2) := by
  induction before with
  | nil =>
    have hstart : startsWithArrow ([] ++ c :: after) = false := by
      rw [startsWithArrow_append_cons hc]
      decide
    rw [List.nil_append] at hstart ⊢
    rw [cutAtArrow, hstart, if_neg (by simp)]
    rfl
  | cons b before ih =>
    obtain ⟨hstart, hrest⟩ := arrowFree_cons_iff.mp hb
    have hwhole : startsWithArrow (b :: (before ++ c :: after)) = false := by
      rw [← hstart, ← List.cons_append, startsWithArrow_append_cons hc]
    rw [List.cons_append, cutAtArrow, hwhole, if_neg (by simp), ih hrest]
    rfl

/-- **And inside a text with arrows** the cut lies where it lies in that text. -/
theorem cutAtArrow_append_cons_of_not {c : Char} (hc : ∀ s : LineStyle, c ∉ s.arrow)
    (hb : ¬ ArrowFree before) :
    (cutAtArrow (before ++ c :: after)).1 = (cutAtArrow before).1 := by
  induction before with
  | nil => exact absurd (fun s hs => s.arrow_ne_nil (List.infix_nil.mp hs)) hb
  | cons b before ih =>
    have hwhole : startsWithArrow (b :: (before ++ c :: after)) = startsWithArrow (b :: before) := by
      rw [← List.cons_append, startsWithArrow_append_cons hc]
    rw [List.cons_append, cutAtArrow, cutAtArrow, hwhole]
    split
    · rfl
    · rename_i hstart
      rw [ih fun hrest => hb (arrowFree_cons_iff.mpr ⟨by simpa using hstart, hrest⟩)]

/-- A text without arrows whose last character is in none is not cut, whatever
follows it. -/
theorem cutAtArrow_append_of_getLast? (hb : ArrowFree before)
    (hl : ∀ c, before.getLast? = some c → ∀ s : LineStyle, c ∉ s.arrow) :
    cutAtArrow (before ++ after) = (before ++ (cutAtArrow after).1, (cutAtArrow after).2) := by
  rcases List.eq_nil_or_concat before with rfl | ⟨front, c, rfl⟩
  · rfl
  · rw [List.concat_eq_append] at hb hl ⊢
    have hfront : ArrowFree front := hb.of_piece List.infix_append_left
    have hcut : cutAtArrow (front ++ c :: after) =
        (front ++ c :: (cutAtArrow after).1, (cutAtArrow after).2) :=
      cutAtArrow_append_cons (hl c (by simp)) hfront
    simpa using hcut

/-- A text that begins with an arrow is cut at its front. -/
theorem cutAtArrow_of_startsWithArrow (h : startsWithArrow text = true) :
    cutAtArrow text = ([], text) := by
  cases text with
  | nil => rfl
  | cons c rest => rw [cutAtArrow, if_pos h]

end Statement

end Flowchart
