import Flowchart.Text.Search

/-!
# Occurrences across a seam

Where two pieces of text meet, a pattern may occur that neither piece holds.
The lemmas here rule that out from a single character: one the pattern does
not begin with, one it does not end with, or one it does not hold at all.
They are read at the marks of the notation, which is how a written line is
known to hold no arrow but those that were put into it.

A text is cut at the last occurrence of a pattern. No occurrence has more text before
it (`length_le_of_splitLast?`), even where occurrences overlap.
-/

namespace Flowchart.Text

variable {pattern text before after : List Char} {c : Char}

/-- A character that the pattern does not begin with can be dropped from the
front. -/
theorem infix_of_infix_cons (h : pattern <:+: c :: text) (hc : pattern.head? ≠ some c) :
    pattern <:+: text := by
  rcases List.infix_cons_iff.mp h with hp | hi
  · cases pattern with
    | nil => exact List.nil_infix
    | cons p pattern =>
      obtain ⟨rfl, -⟩ := List.cons_prefix_cons.mp hp
      exact absurd rfl hc
  · exact hi

/-- So can a whole run of such characters. -/
theorem infix_of_infix_append_left (h : pattern <:+: before ++ text)
    (hb : ∀ c ∈ before, pattern.head? ≠ some c) : pattern <:+: text := by
  induction before with
  | nil => exact h
  | cons b before ih =>
    have hrest : pattern <:+: before ++ text :=
      infix_of_infix_cons h (hb b List.mem_cons_self)
    exact ih hrest fun c hc => hb c (List.mem_cons_of_mem _ hc)

/-- And a run of characters that the pattern does not end with can be dropped
from the back. -/
theorem infix_of_infix_append_right (h : pattern <:+: text ++ after)
    (ha : ∀ c ∈ after, pattern.getLast? ≠ some c) : pattern <:+: text := by
  rw [← List.reverse_infix, List.reverse_append] at h
  rw [← List.reverse_infix]
  refine infix_of_infix_append_left h fun c hc => ?_
  rw [List.head?_reverse]
  exact ha c (List.mem_reverse.mp hc)

/-- **A pattern does not reach across a character it does not hold**: it
occurs on one side or on the other. -/
theorem infix_append_cons_iff (hc : c ∉ pattern) :
    pattern <:+: before ++ c :: after ↔ pattern <:+: before ∨ pattern <:+: after := by
  constructor
  · intro h
    rcases List.infix_append_iff.mp h with hb | ha | ⟨l₁, l₂, rfl, hl₁, hl₂⟩
    · exact Or.inl hb
    · refine Or.inr (infix_of_infix_cons ha fun he => hc ?_)
      exact List.mem_of_mem_head? he
    · -- what reaches across the seam holds the character there
      cases l₂ with
      | nil => exact Or.inl (by simpa using hl₁.isInfix)
      | cons x l₂ =>
        obtain ⟨rfl, -⟩ := List.cons_prefix_cons.mp hl₂
        exact absurd (by simp) hc
  · rintro (h | h)
    · exact List.infix_append_of_infix_left h
    · exact List.infix_append_of_infix_right (List.infix_cons h)

/-- A pattern with a character that the text does not hold is not in it. -/
theorem not_infix_of_mem_of_notMem (hp : c ∈ pattern) (ht : c ∉ text) : ¬ pattern <:+: text :=
  fun h => ht (h.subset hp)

/-- A prefix of two texts that does not hold the first character of the second
is a prefix of the first. -/
theorem prefix_of_prefix_append (h : pattern <+: text ++ after)
    (hp : ∀ c, after.head? = some c → c ∉ pattern) : pattern <+: text := by
  rcases List.prefix_or_prefix_of_prefix h (List.prefix_append text after) with ht | ⟨rest, rfl⟩
  · exact ht
  · rw [List.prefix_append_right_inj] at h
    cases rest with
    | nil => simp
    | cons c rest =>
      obtain ⟨more, rfl⟩ := h
      exact absurd (by simp) (hp c rfl)

/-- A pattern does not reach across the end of a text whose last character it
does not hold. -/
theorem infix_append_iff_of_getLast? (h : ∀ c, text.getLast? = some c → c ∉ pattern) :
    pattern <:+: text ++ after ↔ pattern <:+: text ∨ pattern <:+: after := by
  constructor
  · intro hin
    rcases List.eq_nil_or_concat text with rfl | ⟨front, c, rfl⟩
    · exact Or.inr hin
    · have hc : c ∉ pattern := h c (by simp)
      rw [List.concat_eq_append, List.append_assoc] at hin
      rcases (infix_append_cons_iff hc).mp hin with hf | ha
      · exact Or.inl (hf.trans ⟨[], [c], by simp⟩)
      · exact Or.inr ha
  · rintro (hin | hin)
    · exact List.infix_append_of_infix_left hin
    · exact List.infix_append_of_infix_right hin

/-- Nor across the front of one whose first character it does not hold. -/
theorem infix_append_iff_of_head? (h : ∀ c, after.head? = some c → c ∉ pattern) :
    pattern <:+: text ++ after ↔ pattern <:+: text ∨ pattern <:+: after := by
  rw [← List.reverse_infix, List.reverse_append, infix_append_iff_of_getLast?, or_comm,
    List.reverse_infix, List.reverse_infix]
  intro c hc
  rw [List.getLast?_reverse] at hc
  rw [List.mem_reverse]
  exact h c hc

/-- **The last occurrence** of a pattern is found in front of a text none of
whose characters it ends with. -/
theorem splitLast?_append (hp : pattern ≠ []) (ha : ∀ c ∈ after, pattern.getLast? ≠ some c)
    (before : List Char) : splitLast? pattern (before ++ (pattern ++ after)) =
      some (before, after) := by
  induction before with
  | nil =>
    cases pattern with
    | nil => exact absurd rfl hp
    | cons p pattern =>
      have hshort : splitLast? (p :: pattern) (pattern ++ after) = none := by
        refine splitLast?_eq_none_iff.mpr fun h => ?_
        have := (infix_of_infix_append_right h ha).length_le
        simp only [List.length_cons] at this
        omega
      have hstrip : strip? (p :: pattern) (p :: (pattern ++ after)) = some after :=
        strip?_append (p :: pattern) after
      simp [splitLast?, hshort, hstrip]
  | cons b before ih => simp [splitLast?, ih]

/-- **No occurrence has more text before it** than the one that was cut out. -/
theorem length_le_of_splitLast? (hp : pattern ≠ []) {b a : List Char}
    (h : splitLast? pattern (b ++ pattern ++ a) = some (before, after)) :
    b.length ≤ before.length := by
  obtain ⟨p, pattern, rfl⟩ := List.exists_cons_of_ne_nil hp
  refine Nat.le_of_not_lt fun hlt => ?_
  have heq : b ++ (p :: pattern ++ a) = before ++ p :: (pattern ++ after) := by
    simpa using splitLast?_eq_some h
  -- the occurrence behind `b` would begin behind the first character of the one cut out
  rcases List.append_eq_append_iff.mp heq with ⟨c, rfl, -⟩ | ⟨c, rfl, hc⟩
  · rw [List.length_append] at hlt
    omega
  · cases c with
    | nil => simp at hlt
    | cons d c =>
      obtain ⟨-, hrest⟩ := List.cons.inj hc
      refine splitLast?_after h ?_
      rw [hrest]
      exact ⟨c, a, by simp⟩

/-- So none lies behind it. -/
theorem not_infix_of_splitLast? (hp : pattern ≠ [])
    (h : splitLast? pattern text = some (before, after)) : ¬ pattern <:+: after := by
  rintro ⟨b, a, rfl⟩
  have htext : text = (before ++ pattern ++ b) ++ pattern ++ a := by
    rw [splitLast?_eq_some h]
    simp
  rw [htext] at h
  have hle := length_le_of_splitLast? hp h
  have hpos := List.length_pos_iff.mpr hp
  simp only [List.length_append] at hle
  omega

/-- A text that ends in the pattern is cut right before it. -/
theorem splitLast?_append_self (hp : pattern ≠ []) (before : List Char) :
    splitLast? pattern (before ++ pattern) = some (before, []) := by
  have hcut : splitLast? pattern (before ++ (pattern ++ [])) = some (before, []) :=
    splitLast?_append hp (by simp) before
  rwa [List.append_nil] at hcut

end Flowchart.Text
