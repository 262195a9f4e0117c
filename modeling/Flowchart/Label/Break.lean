/-!
# Line breaks in labels

A label is shown on several lines if it holds break tags: `<br>`, in either
case, with spaces and then a slash allowed before the closing bracket. The
lines are what stands between the tags.
-/

namespace Flowchart.Label

/-- The text behind a break tag at its front. -/
def breakTag? : List Char → Option (List Char)
  | '<' :: b :: r :: text =>
    if (b = 'b' || b = 'B') && (r = 'r' || r = 'R') then
      match text.dropWhile (· = ' ') with
      | '/' :: '>' :: rest => some rest
      | '>' :: rest => some rest
      | _ => none
    else none
  | _ => none

theorem length_lt_of_breakTag? {text rest : List Char} (h : breakTag? text = some rest) :
    rest.length < text.length := by
  unfold breakTag? at h
  split at h
  · rename_i b r text
    split at h
    · have := (List.dropWhile_sublist (· = ' ') (l := text)).length_le
      split at h
      all_goals simp_all
      all_goals omega
    · simp at h
  · simp at h

/-- The lines of a label: there is always one. -/
def splitBreaks (label : List Char) : List (List Char) :=
  match label with
  | [] => [[]]
  | c :: tail =>
    match _tag : breakTag? (c :: tail) with
    | some rest => [] :: splitBreaks rest
    | none =>
      match splitBreaks tail with
      | [] => [[c]]
      | line :: lines => (c :: line) :: lines
termination_by label.length
decreasing_by
  · exact length_lt_of_breakTag? _tag
  · simp

theorem splitBreaks_ne_nil (label : List Char) : splitBreaks label ≠ [] := by
  cases label with
  | nil => simp [splitBreaks]
  | cons c tail =>
    rw [splitBreaks]
    split
    · simp
    · split <;> simp

end Flowchart.Label
