import Flowchart.Text.Blank

/-!
# Lines

A text is cut into lines at its line feeds and put together again from
lines. The two undo each other: `joinLines_splitLines` for every text,
`splitLines_joinLines` for lines that hold no line feed. A carriage return
before a line feed is white space at the end of the line.
-/

namespace Flowchart.Text

/-- The pieces of a text between its line feeds; there is always one. -/
def splitLines : List Char → List (List Char)
  | [] => [[]]
  | c :: rest =>
    match splitLines rest with
    | [] => [[c]]
    | line :: lines => if c = '\n' then [] :: line :: lines else (c :: line) :: lines

/-- The lines with a line feed between each two. -/
def joinLines : List (List Char) → List Char
  | [] => []
  | [line] => line
  | line :: next :: lines => line ++ '\n' :: joinLines (next :: lines)

theorem splitLines_ne_nil (text : List Char) : splitLines text ≠ [] := by
  cases text with
  | nil => simp [splitLines]
  | cons c rest =>
    simp only [splitLines]
    split
    · simp
    · split <;> simp

theorem splitLines_line_feed (rest : List Char) :
    splitLines ('\n' :: rest) = [] :: splitLines rest := by
  simp only [splitLines]
  split
  · rename_i h; exact absurd h (splitLines_ne_nil rest)
  · rename_i h; simp [h]

/-- Joining puts back what cutting took apart. -/
theorem joinLines_splitLines (text : List Char) : joinLines (splitLines text) = text := by
  induction text with
  | nil => rfl
  | cons c rest ih =>
    cases hs : splitLines rest with
    | nil => exact absurd hs (splitLines_ne_nil rest)
    | cons line lines =>
      rw [hs] at ih
      by_cases hc : c = '\n'
      · subst hc; simp [splitLines_line_feed, hs, joinLines, ih]
      · simp only [splitLines, hs, hc, if_false]
        cases lines with
        | nil => simpa [joinLines] using ih
        | cons next lines => simpa [joinLines] using ih

theorem splitLines_eq_singleton {line : List Char} (h : '\n' ∉ line) :
    splitLines line = [line] := by
  induction line with
  | nil => rfl
  | cons c rest ih =>
    simp only [List.mem_cons, not_or] at h
    simp [splitLines, ih h.2, Ne.symm h.1]

/-- A first line without line feed is split off whole. -/
theorem splitLines_append {line : List Char} (h : '\n' ∉ line) (rest : List Char) :
    splitLines (line ++ '\n' :: rest) = line :: splitLines rest := by
  induction line with
  | nil => exact splitLines_line_feed rest
  | cons c line ih =>
    simp only [List.mem_cons, not_or] at h
    simp [splitLines, ih h.2, Ne.symm h.1]

/-- Cutting finds the lines that were joined. -/
theorem splitLines_joinLines {lines : List (List Char)} (hne : lines ≠ [])
    (h : ∀ line ∈ lines, '\n' ∉ line) : splitLines (joinLines lines) = lines := by
  induction lines with
  | nil => exact absurd rfl hne
  | cons line lines ih =>
    cases lines with
    | nil => exact splitLines_eq_singleton (h line (by simp))
    | cons next lines =>
      rw [joinLines, splitLines_append (h line (by simp)), ih (by simp)]
      exact fun l hl => h l (List.mem_cons_of_mem _ hl)

end Flowchart.Text
