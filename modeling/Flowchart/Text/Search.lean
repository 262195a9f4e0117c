/-!
# Searching in text

Texts are lists of characters here. A pattern can be taken off the front,
looked for anywhere, and cut at its last occurrence. The lemmas say where
each answer lies in the text: `splitLast?_eq_some` that the cut loses
nothing, `splitLast?_after` that the pattern does not occur again behind it.
-/

namespace Flowchart.Text

/-- Whether the pattern occurs in the text. -/
def occurs (pattern : List Char) : List Char → Bool
  | [] => pattern.isEmpty
  | c :: rest => pattern.isPrefixOf (c :: rest) || occurs pattern rest

/-- What follows the pattern, if the text begins with it. -/
def strip? (pattern text : List Char) : Option (List Char) :=
  match pattern, text with
  | [], text => some text
  | _ :: _, [] => none
  | p :: pattern, c :: rest => if p = c then strip? pattern rest else none

/-- The text before and after the last occurrence of the pattern. -/
def splitLast? (pattern : List Char) : List Char → Option (List Char × List Char)
  | [] => (strip? pattern []).map ([], ·)
  | c :: rest =>
    match splitLast? pattern rest with
    | some (before, after) => some (c :: before, after)
    | none => (strip? pattern (c :: rest)).map ([], ·)

/-- The text before and after the first occurrence of a character. -/
def splitAt? (mark : Char) : List Char → Option (List Char × List Char)
  | [] => none
  | c :: rest =>
    if c = mark then some ([], rest)
    else (splitAt? mark rest).map fun cut => (c :: cut.1, cut.2)

theorem strip?_eq_some_iff {pattern text rest : List Char} :
    strip? pattern text = some rest ↔ text = pattern ++ rest := by
  induction pattern generalizing text with
  | nil => simp [strip?, eq_comm]
  | cons p pattern ih =>
    cases text with
    | nil => simp [strip?]
    | cons c text =>
      by_cases h : p = c
      · subst h; simp [strip?, ih]
      · simp [strip?, h, Ne.symm h]

theorem strip?_append (pattern rest : List Char) :
    strip? pattern (pattern ++ rest) = some rest :=
  strip?_eq_some_iff.mpr rfl

theorem occurs_iff_isInfix {pattern text : List Char} :
    occurs pattern text = true ↔ pattern <:+: text := by
  induction text with
  | nil => simp [occurs]
  | cons c rest ih => simp [occurs, ih, List.infix_cons_iff]

theorem splitLast?_eq_some {pattern text before after : List Char}
    (h : splitLast? pattern text = some (before, after)) : text = before ++ pattern ++ after := by
  induction text generalizing before with
  | nil =>
    obtain ⟨r, hr, he⟩ := Option.map_eq_some_iff.mp h
    obtain ⟨rfl, rfl⟩ := Prod.mk.inj he
    simpa using strip?_eq_some_iff.mp hr
  | cons c rest ih =>
    simp only [splitLast?] at h
    split at h
    · rename_i b a hb
      obtain ⟨rfl, rfl⟩ := Prod.mk.inj (Option.some.inj h)
      simp [ih hb]
    · obtain ⟨r, hr, he⟩ := Option.map_eq_some_iff.mp h
      obtain ⟨rfl, rfl⟩ := Prod.mk.inj he
      simpa using strip?_eq_some_iff.mp hr

/-- Nothing to cut means that the pattern does not occur. -/
theorem splitLast?_eq_none_iff {pattern text : List Char} :
    splitLast? pattern text = none ↔ ¬ pattern <:+: text := by
  induction text with
  | nil =>
    cases pattern with
    | nil => simp [splitLast?, strip?]
    | cons p pattern => simp [splitLast?, strip?]
  | cons c rest ih =>
    rw [List.infix_cons_iff]
    cases hs : splitLast? pattern rest with
    | some cut =>
      have : pattern <:+: rest := by
        refine Decidable.byContradiction fun hn => ?_
        simp [ih.mpr hn] at hs
      simp [splitLast?, hs, this]
    | none =>
      have hn := ih.mp hs
      cases hp : strip? pattern (c :: rest) with
      | none =>
        have : ¬ pattern <+: c :: rest := by
          rintro ⟨r, hr⟩
          simp [strip?_eq_some_iff.mpr hr.symm] at hp
        simp [splitLast?, hs, hp, this, hn]
      | some r =>
        have : pattern <+: c :: rest := ⟨r, (strip?_eq_some_iff.mp hp).symm⟩
        simp [splitLast?, hs, hp, this]

/-- **The cut is at the last occurrence**: the pattern does not occur in the
text behind the first character of the occurrence that was cut out. -/
theorem splitLast?_after {p : Char} {pattern text before after : List Char}
    (h : splitLast? (p :: pattern) text = some (before, after)) :
    ¬ (p :: pattern) <:+: pattern ++ after := by
  induction text generalizing before with
  | nil => simp [splitLast?, strip?] at h
  | cons c rest ih =>
    simp only [splitLast?] at h
    split at h
    · rename_i b a hb
      obtain ⟨rfl, rfl⟩ := Prod.mk.inj (Option.some.inj h)
      exact ih hb
    · rename_i hn
      obtain ⟨r, hr, he⟩ := Option.map_eq_some_iff.mp h
      obtain ⟨rfl, rfl⟩ := Prod.mk.inj he
      have hr := strip?_eq_some_iff.mp hr
      simp only [List.cons_append, List.cons.injEq] at hr
      exact hr.2 ▸ splitLast?_eq_none_iff.mp hn

theorem splitAt?_eq_some_iff {mark : Char} {text before after : List Char} :
    splitAt? mark text = some (before, after) ↔
      text = before ++ mark :: after ∧ mark ∉ before := by
  induction text generalizing before with
  | nil => simp [splitAt?]
  | cons c rest ih =>
    by_cases hc : c = mark
    · subst hc
      cases before with
      | nil => simp [splitAt?, eq_comm]
      | cons b before =>
        simp only [splitAt?, if_true, Option.some.injEq, Prod.mk.injEq, List.cons_append,
          List.cons.injEq, List.mem_cons, not_or]
        constructor
        · rintro ⟨h, _⟩; cases h
        · rintro ⟨⟨rfl, _⟩, h, _⟩; exact absurd rfl h
    · cases before with
      | nil => simp [splitAt?, hc]
      | cons b before =>
        simp only [splitAt?, hc, if_false, Option.map_eq_some_iff, Prod.exists, Prod.mk.injEq,
          List.cons_append, List.cons.injEq, List.mem_cons, not_or]
        constructor
        · rintro ⟨x, y, hxy, ⟨rfl, rfl⟩, rfl⟩
          obtain ⟨h1, h2⟩ := ih.mp hxy
          exact ⟨⟨rfl, h1⟩, fun e => hc e.symm, h2⟩
        · rintro ⟨⟨rfl, h1⟩, _, h2⟩
          exact ⟨before, after, ih.mpr ⟨h1, h2⟩, ⟨rfl, rfl⟩, rfl⟩

end Flowchart.Text
