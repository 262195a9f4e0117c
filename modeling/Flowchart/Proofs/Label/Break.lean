import Flowchart.Label.Break
import Flowchart.Proofs.Text.Infix

/-!
# The lines of a label

What a break tag is, and what it means that lines with break tags between them make
up a label, is said here without a search (`IsBreakTag`, `Broken`). A tag has its
opening bracket in front and nowhere else. So no tag reaches from a line into the tag
behind it, and the first tag of a label is where the search stops
(`splitBreaks_append`). Lines without tags are found again for that reason, which makes
the lines of a label unique (`LinesOf.splitBreaks_eq`); that the search does find such
lines follows its recursion (`linesOf_splitBreaks`).
-/

namespace Flowchart.Label

open Text

variable {label line tag text rest : List Char} {lines lines' : List (List Char)} {c : Char}

/-! ## Break tags -/

/-- A break tag: `<br`, in either case, spaces, a slash or none, and `>`. -/
inductive IsBreakTag : List Char → Prop
  | intro (b r : Char) (spaces : Nat) (slash : List Char) (hb : b = 'b' ∨ b = 'B')
      (hr : r = 'r' ∨ r = 'R') (hslash : slash = [] ∨ slash = ['/']) :
      IsBreakTag ('<' :: b :: r :: (List.replicate spaces ' ' ++ slash ++ ['>']))

/-- The text has a break tag in it. -/
def HoldsTag (text : List Char) : Prop :=
  ∃ tag, IsBreakTag tag ∧ tag <:+: text

/-- A tag begins with its bracket and has no other one. -/
theorem IsBreakTag.exists_cons (h : IsBreakTag tag) : ∃ inner, tag = '<' :: inner ∧ '<' ∉ inner := by
  obtain ⟨b, r, spaces, slash, hb, hr, hslash⟩ := h
  refine ⟨_, rfl, ?_⟩
  rcases hb with rfl | rfl <;> rcases hr with rfl | rfl <;> rcases hslash with rfl | rfl <;>
    simp [List.mem_replicate]

/-- Behind the spaces of a tag stands what ends it. -/
theorem dropWhile_spaces (spaces : Nat) (hc : c ≠ ' ') (rest : List Char) :
    (List.replicate spaces ' ' ++ c :: rest).dropWhile (· = ' ') = c :: rest := by
  rw [List.dropWhile_append_of_pos (by simp [List.mem_replicate])]
  simp [hc]

/-- The spaces that a text begins with. -/
theorem exists_replicate_append (text : List Char) :
    ∃ spaces, text = List.replicate spaces ' ' ++ text.dropWhile (· = ' ') := by
  refine ⟨(text.takeWhile (· = ' ')).length, ?_⟩
  have hspaces : text.takeWhile (· = ' ') =
      List.replicate (text.takeWhile (· = ' ')).length ' ' :=
    List.eq_replicate_of_mem fun c hc =>
      of_decide_eq_true (List.all_eq_true.mp List.all_takeWhile c hc)
  rw [← hspaces, List.takeWhile_append_dropWhile]

/-- **A tag is recognised by what it is made of.** -/
theorem breakTag?_eq_some_iff :
    breakTag? text = some rest ↔ ∃ tag, IsBreakTag tag ∧ text = tag ++ rest := by
  constructor
  · intro h
    unfold breakTag? at h
    split at h
    · rename_i b r behind
      split at h
      · rename_i hletters
        simp only [Bool.and_eq_true, Bool.or_eq_true, decide_eq_true_eq] at hletters
        obtain ⟨spaces, hspaces⟩ := exists_replicate_append behind
        split at h
        · rename_i hend
          obtain rfl := Option.some.inj h
          refine ⟨_, .intro b r spaces ['/'] hletters.1 hletters.2 (Or.inr rfl), ?_⟩
          rw [hspaces, hend]
          simp
        · rename_i hend
          obtain rfl := Option.some.inj h
          refine ⟨_, .intro b r spaces [] hletters.1 hletters.2 (Or.inl rfl), ?_⟩
          rw [hspaces, hend]
          simp
        · exact absurd h (Option.some_ne_none rest).symm
      · exact absurd h (Option.some_ne_none rest).symm
    · exact absurd h (Option.some_ne_none rest).symm
  · rintro ⟨tag, ⟨b, r, spaces, slash, hb, hr, hslash⟩, rfl⟩
    have hletters : ((b = 'b' || b = 'B') && (r = 'r' || r = 'R')) = true := by
      simp [hb, hr]
    rcases hslash with rfl | rfl
    · have hend := dropWhile_spaces spaces (c := '>') (by decide) rest
      simp [breakTag?, hletters, hend]
    · have hend := dropWhile_spaces spaces (c := '/') (by decide) ('>' :: rest)
      simp [breakTag?, hletters, hend]

theorem breakTag?_append (h : IsBreakTag tag) (rest : List Char) :
    breakTag? (tag ++ rest) = some rest :=
  breakTag?_eq_some_iff.mpr ⟨tag, h, rfl⟩

/-- No tag is recognised where none begins. -/
theorem breakTag?_eq_none_iff :
    breakTag? text = none ↔ ∀ tag, IsBreakTag tag → ¬ tag <+: text := by
  rw [Option.eq_none_iff_forall_ne_some]
  constructor
  · rintro hnone tag htag ⟨rest, rfl⟩
    exact hnone rest (breakTag?_append htag rest)
  · intro hnone rest hsome
    obtain ⟨tag, htag, rfl⟩ := breakTag?_eq_some_iff.mp hsome
    exact hnone tag htag (List.prefix_append tag rest)

theorem not_holdsTag_nil : ¬ HoldsTag [] := by
  rintro ⟨tag, htag, hin⟩
  obtain ⟨inner, rfl, -⟩ := htag.exists_cons
  exact List.cons_ne_nil _ _ (List.infix_nil.mp hin)

/-- A tag in a text begins at its first character or behind it. -/
theorem not_holdsTag_cons_iff :
    ¬ HoldsTag (c :: text) ↔ breakTag? (c :: text) = none ∧ ¬ HoldsTag text := by
  rw [breakTag?_eq_none_iff]
  simp only [HoldsTag, List.infix_cons_iff, not_exists, not_and, not_or]
  constructor
  · exact fun h => ⟨fun tag htag => (h tag htag).1, fun tag htag => (h tag htag).2⟩
  · exact fun h tag htag => ⟨h.1 tag htag, h.2 tag htag⟩

/-- **No tag reaches from a line into the tag behind it.** -/
theorem breakTag?_append_eq_none (hnone : breakTag? (c :: line) = none) (htag : IsBreakTag tag)
    (rest : List Char) : breakTag? (c :: (line ++ (tag ++ rest))) = none := by
  rw [breakTag?_eq_none_iff] at hnone ⊢
  intro other hother hin
  obtain ⟨inner, rfl, hinner⟩ := hother.exists_cons
  obtain ⟨behind, rfl, -⟩ := htag.exists_cons
  obtain ⟨rfl, hinside⟩ := List.cons_prefix_cons.mp hin
  -- the bracket of the tag behind the line is not one of the other tag
  have hline : inner <+: line := by
    refine prefix_of_prefix_append hinside fun d hd => ?_
    obtain rfl : '<' = d := Option.some.inj hd
    exact hinner
  exact hnone _ hother (List.cons_prefix_cons.mpr ⟨rfl, hline⟩)

/-! ## The search -/

theorem splitBreaks_tag (h : IsBreakTag tag) (rest : List Char) :
    splitBreaks (tag ++ rest) = [] :: splitBreaks rest := by
  have htag := breakTag?_append h rest
  obtain ⟨inner, rfl, -⟩ := h.exists_cons
  rw [List.cons_append] at htag ⊢
  rw [splitBreaks]
  split
  · rename_i found hfound
    rw [htag] at hfound
    rw [Option.some.inj hfound]
  · rename_i hfound
    exact absurd (htag.symm.trans hfound) (Option.some_ne_none rest)

/-- A character at which no tag begins belongs to the first line. -/
theorem splitBreaks_cons (h : breakTag? (c :: text) = none)
    (hlines : splitBreaks text = line :: lines) : splitBreaks (c :: text) = (c :: line) :: lines := by
  rw [splitBreaks]
  split
  · rename_i found hfound
    exact absurd (hfound.symm.trans h) (Option.some_ne_none found)
  · rw [hlines]

theorem splitBreaks_eq_singleton (h : ¬ HoldsTag line) : splitBreaks line = [line] := by
  induction line with
  | nil => rw [splitBreaks]
  | cons c line ih =>
    obtain ⟨hnone, hrest⟩ := not_holdsTag_cons_iff.mp h
    exact splitBreaks_cons hnone (ih hrest)

/-- **The first tag ends the first line.** -/
theorem splitBreaks_append (h : ¬ HoldsTag line) (htag : IsBreakTag tag) (rest : List Char) :
    splitBreaks (line ++ (tag ++ rest)) = line :: splitBreaks rest := by
  induction line with
  | nil => exact splitBreaks_tag htag rest
  | cons c line ih =>
    obtain ⟨hnone, hrest⟩ := not_holdsTag_cons_iff.mp h
    exact splitBreaks_cons (breakTag?_append_eq_none hnone htag rest) (ih hrest)

/-! ## The lines -/

/-- The label is made of the lines, with a break tag between each two. -/
inductive Broken : List Char → List (List Char) → Prop
  | last (line : List Char) : Broken line [line]
  | tag (line : List Char) {tag rest : List Char} {lines : List (List Char)}
      (htag : IsBreakTag tag) (hrest : Broken rest lines) :
      Broken (line ++ (tag ++ rest)) (line :: lines)

/-- The lines that the break tags of the label leave. -/
structure LinesOf (label : List Char) (lines : List (List Char)) : Prop where
  broken : Broken label lines
  tagFree : ∀ line ∈ lines, ¬ HoldsTag line

/-- A character more makes the first line longer. -/
theorem Broken.cons (h : Broken text (line :: lines)) (c : Char) :
    Broken (c :: text) ((c :: line) :: lines) := by
  cases h with
  | last => exact .last _
  | tag line htag hrest => exact .tag (c :: line) htag hrest

/-- The first line stands at the front of the label. -/
theorem Broken.isPrefix (h : Broken text (line :: lines)) : line <+: text := by
  cases h with
  | last => exact List.prefix_rfl
  | tag line htag hrest => exact List.prefix_append _ _

/-- A tag between two labels puts their lines one after the other. -/
theorem Broken.append (h : Broken text lines) (htag : IsBreakTag tag) (hrest : Broken rest lines') :
    Broken (text ++ (tag ++ rest)) (lines ++ lines') := by
  induction h with
  | last line => exact .tag line htag hrest
  | tag line htag' _ ih =>
    rw [List.append_assoc, List.append_assoc]
    exact .tag line htag' ih

theorem LinesOf.append (h : LinesOf text lines) (htag : IsBreakTag tag)
    (hrest : LinesOf rest lines') : LinesOf (text ++ (tag ++ rest)) (lines ++ lines') where
  broken := h.broken.append htag hrest.broken
  tagFree := fun line hline =>
    (List.mem_append.mp hline).elim (h.tagFree line) (hrest.tagFree line)

/-- **Lines without tags are found again**, so a label has no other lines than these. -/
theorem LinesOf.splitBreaks_eq (h : LinesOf label lines) : splitBreaks label = lines := by
  obtain ⟨hbroken, htagFree⟩ := h
  induction hbroken with
  | last line => exact splitBreaks_eq_singleton (htagFree line List.mem_cons_self)
  | tag line htag _ ih =>
    rw [splitBreaks_append (htagFree line List.mem_cons_self) htag,
      ih fun l hl => htagFree l (List.mem_cons_of_mem line hl)]

/-- **What the search finds are lines of the label.** -/
theorem linesOf_splitBreaks (label : List Char) : LinesOf label (splitBreaks label) := by
  fun_induction splitBreaks label with
  | case1 =>
    refine ⟨.last [], fun line hline => ?_⟩
    rw [List.mem_singleton.mp hline]
    exact not_holdsTag_nil
  | case2 c text rest hfound ih =>
    obtain ⟨tag, htag, htext⟩ := breakTag?_eq_some_iff.mp hfound
    rw [htext]
    refine ⟨.tag [] htag ih.broken, fun line hline => ?_⟩
    rcases List.mem_cons.mp hline with rfl | hrest
    · exact not_holdsTag_nil
    · exact ih.tagFree line hrest
  | case3 c text hnone hempty ih => exact absurd hempty (splitBreaks_ne_nil text)
  | case4 c text hnone line lines hlines ih =>
    rw [hlines] at ih
    refine ⟨ih.broken.cons c, fun l hl => ?_⟩
    rcases List.mem_cons.mp hl with rfl | hrest
    · -- a tag at the front of the line would be one at the front of the label
      refine not_holdsTag_cons_iff.mpr ⟨?_, ih.tagFree line List.mem_cons_self⟩
      rw [breakTag?_eq_none_iff] at hnone ⊢
      intro tag htag hfront
      have hline : c :: line <+: c :: text :=
        List.cons_prefix_cons.mpr ⟨rfl, ih.broken.isPrefix⟩
      exact hnone tag htag (hfront.trans hline)
    · exact ih.tagFree l (List.mem_cons_of_mem line hrest)

/-- **The lines of a label are what stands between its break tags.** There is one way
to cut a label at break tags so that none is left in a line, and it is what the search
finds. A tag between two labels therefore puts their lines one after the other. -/
theorem splitBreaks_eq_iff (label : List Char) :
    (∀ lines, splitBreaks label = lines ↔ LinesOf label lines) ∧
      ∀ after, splitBreaks (label ++ "<br>".toList ++ after) =
        splitBreaks label ++ splitBreaks after := by
  refine ⟨fun lines => ⟨?_, LinesOf.splitBreaks_eq⟩, fun after => ?_⟩
  · rintro rfl
    exact linesOf_splitBreaks label
  · have htag : IsBreakTag "<br>".toList := .intro 'b' 'r' 0 [] (Or.inl rfl) (Or.inl rfl) (Or.inl rfl)
    rw [List.append_assoc]
    exact ((linesOf_splitBreaks label).append htag (linesOf_splitBreaks after)).splitBreaks_eq

example : splitBreaks "<b<br>é<bR  /><bread><br / ><Br>".toList =
    ["<b".toList, "é".toList, "<bread><br / >".toList, []] := by cbv

end Flowchart.Label
