import Flowchart.Text.Blank
import Mathlib.Data.List.TakeWhile

/-!
# White space around a line

Trimming takes nothing from a text that neither begins nor ends with white
space, takes off what white space is put in front, and never does more than
cut at the two ends. What it leaves is trimmed already (`trim_trim`).
-/

namespace Flowchart.Text

variable {text blanks : List Char}

theorem dropWhile_eq_self_of_head? {p : Char → Bool} (h : ∀ c, text.head? = some c → p c = false) :
    text.dropWhile p = text := by
  cases text with
  | nil => rfl
  | cons c rest => simp [h c rfl]

theorem of_head?_dropWhile {p : Char → Bool} {c : Char} (h : (text.dropWhile p).head? = some c) :
    p c = false := by
  have := List.head?_dropWhile_not p text
  rw [h] at this
  simpa using this

/-- White space in front of a line is taken off, and no more than that if
the line begins and ends with other characters. -/
theorem trim_append (hb : ∀ c ∈ blanks, isBlank c = true)
    (hf : ∀ c, text.head? = some c → isBlank c = false)
    (hl : ∀ c, text.getLast? = some c → isBlank c = false) : trim (blanks ++ text) = text := by
  have hstart : trimStart (blanks ++ text) = text := by
    rw [trimStart, List.dropWhile_append_of_pos hb, dropWhile_eq_self_of_head? hf]
  rw [trim, hstart, trimEnd, dropWhile_eq_self_of_head?, List.reverse_reverse]
  intro c hc
  exact hl c (by rwa [List.head?_reverse] at hc)

/-- White space in front of a text does not count, -/
theorem trim_append_left (hb : ∀ c ∈ blanks, isBlank c = true) (text : List Char) :
    trim (blanks ++ text) = trim text := by
  rw [trim, trimStart, List.dropWhile_append_of_pos hb]
  rfl

/-- and neither does white space behind it. -/
theorem trim_append_right (hb : ∀ c ∈ blanks, isBlank c = true) (text : List Char) :
    trim (text ++ blanks) = trim text := by
  have hend : ∀ front, trimEnd (front ++ blanks) = trimEnd front := by
    intro front
    rw [trimEnd, List.reverse_append, List.dropWhile_append_of_pos]
    · rfl
    · exact fun c hc => hb c (List.mem_reverse.mp hc)
  rw [trim, trimStart, List.dropWhile_append]
  split
  · -- nothing but white space: all of it is taken off from the front
    rename_i hblank
    rw [trim, trimStart, List.isEmpty_iff.mp hblank, List.dropWhile_eq_nil_iff.mpr hb]
  · exact hend _

/-- At the end no more is taken off than stands behind the last character that is
not white space. -/
theorem trimEnd_append {front : List Char} (hf : ∀ c, front.getLast? = some c → isBlank c = false)
    (rest : List Char) : trimEnd (front ++ rest) = front ++ trimEnd rest := by
  have hstop : front.reverse.dropWhile isBlank = front.reverse := by
    refine dropWhile_eq_self_of_head? fun c hc => hf c ?_
    rwa [List.head?_reverse] at hc
  rw [trimEnd, List.reverse_append, List.dropWhile_append, hstop]
  split
  · rename_i hblank
    rw [trimEnd, List.isEmpty_iff.mp hblank, List.reverse_reverse, List.reverse_nil, List.append_nil]
  · rw [List.reverse_append, List.reverse_reverse]
    rfl

theorem trimEnd_isPrefix (text : List Char) : trimEnd text <+: text := by
  rw [← List.reverse_suffix, trimEnd, List.reverse_reverse]
  exact List.dropWhile_suffix _

/-- A trimmed line is a piece of the line. -/
theorem trim_isInfix (text : List Char) : trim text <:+: text :=
  (trimEnd_isPrefix _).isInfix.trans (List.dropWhile_suffix _).isInfix

/-- **Trimming again changes nothing**: a trimmed line neither begins nor ends
with white space. -/
theorem trim_trim (text : List Char) : trim (trim text) = trim text := by
  have hfirst : ∀ c, (trim text).head? = some c → isBlank c = false := by
    intro c hc
    obtain ⟨rest, hrest⟩ := trimEnd_isPrefix (trimStart text)
    have hstart : (trimStart text).head? = some c := by
      rw [← hrest, List.head?_append]
      exact Option.or_eq_some_iff.mpr (Or.inl hc)
    exact of_head?_dropWhile hstart
  have hlast : ∀ c, (trim text).getLast? = some c → isBlank c = false := by
    intro c hc
    rw [trim, trimEnd, List.getLast?_reverse] at hc
    exact of_head?_dropWhile hc
  have hnone : ∀ c ∈ ([] : List Char), isBlank c = true := by simp
  exact trim_append hnone hfirst hlast

end Flowchart.Text
