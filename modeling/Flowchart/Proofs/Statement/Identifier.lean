import Flowchart.Statement.Node
import Flowchart.Proofs.Text.Trim

/-!
# Identifiers

What is used of the table of letters and numbers is only what it leaves out:
no white space (`isBlank_of_isIdentifierChar`) and none of the characters of
the notation (`ne_of_mem_marks`). So an identifier ends where a mark begins,
and is read back in front of every text that begins otherwise
(`identifier?_eq_some_iff`).
-/

namespace Flowchart.Statement

open Text

variable {c : Char} {id text rest : List Char}

/-- A word of an identifier: not empty, and made of identifier characters. -/
def IsIdentifier (word : List Char) : Prop :=
  word ≠ [] ∧ ∀ c ∈ word, isIdentifierChar c = true

instance (word : List Char) : Decidable (IsIdentifier word) :=
  decidable_of_iff (word ≠ [] ∧ word.all isIdentifierChar = true) <| by
    rw [IsIdentifier, List.all_eq_true]

/-- The characters of the notation: brackets, arrows, bars, quotation marks,
the comment mark, and the spaces and line feeds between statements. -/
def marks : List Char :=
  ['(', ')', '[', ']', '{', '}', '/', '\\', '>', '-', '=', '.', '|', '"', '%', ' ', '\t', '\n']

/-- No code point of a blank is that of a letter, a number or the underscore. -/
theorem blankRanges_apart : ∀ r ∈ blankRanges, ∀ n ∈ List.range' r.1 (r.2 + 1 - r.1),
    alphanumericRanges.covers n = false ∧ n ≠ '_'.toNat := by
  decide +kernel

/-- **An identifier holds no white space.** -/
theorem isBlank_of_isIdentifierChar (h : isIdentifierChar c = true) : isBlank c = false := by
  rw [← Bool.not_eq_true]
  intro hb
  obtain ⟨r, hr, hlow, hhigh⟩ := CodeRanges.exists_of_covers hb
  obtain ⟨hletter, hunder⟩ := blankRanges_apart r hr c.toNat
    (List.mem_range'_1.mpr ⟨hlow, by omega⟩)
  simp only [isIdentifierChar, Bool.or_eq_true, beq_iff_eq] at h
  rcases h with h | rfl
  · exact absurd h (by rw [isAlphanumeric, CodeRanges.holds, hletter]; decide)
  · exact hunder rfl

theorem isIdentifierChar_of_mem_marks : ∀ c ∈ marks, isIdentifierChar c = false := by
  have hall : marks.all (fun c => !isIdentifierChar c) = true := by decide +kernel
  simpa using hall

/-- **And no mark of the notation.** -/
theorem ne_of_mem_marks {mark : Char} (hm : mark ∈ marks) (h : isIdentifierChar c = true) :
    c ≠ mark := by
  rintro rfl
  rw [isIdentifierChar_of_mem_marks c hm] at h
  exact absurd h (by decide)

namespace IsIdentifier

theorem mark_notMem {mark : Char} (h : IsIdentifier id) (hm : mark ∈ marks) : mark ∉ id :=
  fun hc => ne_of_mem_marks hm (h.2 mark hc) rfl

/-- An identifier begins with one of its characters. -/
theorem head? (h : IsIdentifier id) : ∃ c, id.head? = some c ∧ isIdentifierChar c = true := by
  cases id with
  | nil => exact absurd rfl h.1
  | cons c word => exact ⟨c, rfl, h.2 c List.mem_cons_self⟩

/-- And ends with one. -/
theorem getLast? (h : IsIdentifier id) :
    ∃ c, id.getLast? = some c ∧ isIdentifierChar c = true :=
  ⟨id.getLast h.1, List.getLast?_eq_some_getLast h.1, h.2 _ (List.getLast_mem h.1)⟩

end IsIdentifier

/-- From a line that begins with an identifier only the white space in front is
trimmed, unless there is some at its end. -/
theorem trim_blanks_append {blanks : List Char} (hb : ∀ c ∈ blanks, isBlank c = true)
    (h : IsIdentifier id) (hl : ∀ c, (id ++ rest).getLast? = some c → isBlank c = false) :
    trim (blanks ++ (id ++ rest)) = id ++ rest := by
  refine trim_append hb (fun c hc => ?_) hl
  obtain ⟨d, hd, hchar⟩ := h.head?
  rw [List.head?_append, hd, Option.some_or] at hc
  obtain rfl := Option.some.inj hc
  exact isBlank_of_isIdentifierChar hchar

/-- **Maximal munch.** An identifier is read off the front of a text if it
stands there and the next character cannot belong to it. -/
theorem identifier?_eq_some_iff :
    identifier? text = some (id, rest) ↔ text = id ++ rest ∧ IsIdentifier id ∧
      ∀ c, rest.head? = some c → isIdentifierChar c = false := by
  constructor
  · intro h
    obtain ⟨ht, hne, hall⟩ := identifier?_eq_some h
    refine ⟨ht, ⟨hne, hall⟩, fun c hc => ?_⟩
    unfold identifier? at h
    split at h
    · exact absurd h (by simp)
    · obtain ⟨-, rfl⟩ := Prod.mk.inj (Option.some.inj h)
      exact of_head?_dropWhile hc
  · rintro ⟨rfl, ⟨hne, hall⟩, hr⟩
    have htake : rest.takeWhile isIdentifierChar = [] := by
      cases rest with
      | nil => rfl
      | cons c rest => simp [hr c rfl]
    have hdrop : rest.dropWhile isIdentifierChar = rest := dropWhile_eq_self_of_head? hr
    cases id with
    | nil => exact absurd rfl hne
    | cons c word =>
      rw [identifier?, List.takeWhile_append_of_pos hall, List.dropWhile_append_of_pos hall,
        htake, hdrop, List.append_nil]

/-- So two splits of one text at the end of an identifier are the same. -/
theorem identifier_append_inj {id' rest' : List Char} (h : IsIdentifier id) (h' : IsIdentifier id')
    (hr : ∀ c, rest.head? = some c → isIdentifierChar c = false)
    (hr' : ∀ c, rest'.head? = some c → isIdentifierChar c = false)
    (he : id ++ rest = id' ++ rest') : id = id' ∧ rest = rest' := by
  have hread := identifier?_eq_some_iff.mpr ⟨rfl, h, hr⟩
  rw [he, identifier?_eq_some_iff.mpr ⟨rfl, h', hr'⟩] at hread
  obtain ⟨hid, hrest⟩ := Prod.mk.inj (Option.some.inj hread)
  exact ⟨hid.symm, hrest.symm⟩

end Flowchart.Statement
