import Flowchart.Text.Lines

/-!
# The lines of a text

A line holds no line feed and is a piece of its text. A line feed between two
texts keeps their lines apart (`splitLines_append_lineFeed`), and so joined texts
have their lines one after the other (`splitLines_joinLines_eq_flatMap`).
-/

namespace Flowchart.Text

variable {text line : List Char} {lines : List (List Char)}

theorem lineFeed_notMem_of_mem_splitLines (h : line ∈ splitLines text) : '\n' ∉ line := by
  induction text generalizing line with
  | nil =>
    obtain rfl := List.mem_singleton.mp h
    exact List.not_mem_nil
  | cons c rest ih =>
    cases hs : splitLines rest with
    | nil => exact absurd hs (splitLines_ne_nil rest)
    | cons first more =>
      rw [hs] at ih
      have hfirst : '\n' ∉ first := ih List.mem_cons_self
      by_cases hc : c = '\n'
      · subst hc
        rw [splitLines_line_feed, hs] at h
        rcases List.mem_cons.mp h with rfl | h
        · exact List.not_mem_nil
        · exact ih h
      · simp only [splitLines, hs, hc, if_false] at h
        rcases List.mem_cons.mp h with rfl | h
        · simp [hfirst, Ne.symm hc]
        · exact ih (List.mem_cons_of_mem _ h)

/-- **The lines of two texts with a line feed between them** are the lines of
the one and then those of the other. -/
theorem splitLines_append_lineFeed (before after : List Char) :
    splitLines (before ++ '\n' :: after) = splitLines before ++ splitLines after := by
  induction before with
  | nil => exact splitLines_line_feed after
  | cons c before ih =>
    cases hs : splitLines before with
    | nil => exact absurd hs (splitLines_ne_nil before)
    | cons first more =>
      rw [hs] at ih
      by_cases hc : c = '\n'
      · subst hc
        rw [List.cons_append, splitLines_line_feed, splitLines_line_feed, ih, hs]
        rfl
      · simp [splitLines, ih, hs, hc]

/-- The same for any number of texts. -/
theorem splitLines_joinLines_eq_flatMap {texts : List (List Char)} (h : texts ≠ []) :
    splitLines (joinLines texts) = texts.flatMap splitLines := by
  induction texts with
  | nil => exact absurd rfl h
  | cons first texts ih =>
    cases texts with
    | nil => simp [joinLines]
    | cons next texts =>
      rw [joinLines, splitLines_append_lineFeed, ih (List.cons_ne_nil _ _)]
      rfl

theorem isInfix_joinLines (h : line ∈ lines) : line <:+: joinLines lines := by
  induction lines with
  | nil => exact absurd h List.not_mem_nil
  | cons first lines ih =>
    cases lines with
    | nil =>
      obtain rfl := List.mem_singleton.mp h
      exact List.infix_rfl
    | cons next lines =>
      rw [joinLines]
      rcases List.mem_cons.mp h with rfl | h
      · exact List.infix_append_left
      · exact List.infix_append_of_infix_right (List.infix_cons (ih h))

theorem isInfix_of_mem_splitLines (h : line ∈ splitLines text) : line <:+: text := by
  have := isInfix_joinLines h
  rwa [joinLines_splitLines] at this

end Flowchart.Text
