import Flowchart.Proofs.Statement.Label

/-!
# Reading with a cursor

The readers of this library take a text and hand back what stands behind that which
they read. A reader can also move a cursor over one text: it takes one mark after the
other off the front, and where it finds that it cannot go on, it has moved already. So
whoever tries several readings has to put the cursor back in between
(`Cursor.orElse`).

The label of a shape is read in this way here, part by part. Each part reads what its
counterpart reads, and where that fails it fails too, but it may stand further on then
(`Cursor.Follows`). The search through the shapes puts the cursor back after every
shape that does not fit. So it moves it over a label or not at all
(`Cursor.shapedLabel_eq`).
-/

namespace Flowchart.Statement

open Text

variable {α β : Type}

/-- A reader with a cursor. From the text behind the cursor it tells what it reads, if
anything, and the text behind the cursor then. Where it reads nothing, it may have
moved the cursor all the same. -/
def Cursor (α : Type) : Type :=
  List Char → Option α × List Char

namespace Cursor

instance : Monad Cursor where
  pure a := fun text => (some a, text)
  bind p f := fun text =>
    match p text with
    | (some a, rest) => f a rest
    | (none, rest) => (none, rest)

/-- Reads nothing and stays. -/
def fail : Cursor α :=
  fun text => (none, text)

/-- The first reader, or else the second from where the first began. -/
def orElse (p q : Cursor α) : Cursor α := fun text =>
  match p text with
  | (some a, rest) => (some a, rest)
  | (none, _) => q text

/-- Moves over a mark, if it stands at the cursor. -/
def mark (pattern : List Char) : Cursor Unit := fun text =>
  match strip? pattern text with
  | some rest => (some (), rest)
  | none => (none, text)

/-- Moves to the next such character, or to the end of the text. -/
def upTo (c : Char) : Cursor (List Char) := fun text =>
  (some (text.takeWhile (· != c)), text.dropWhile (· != c))

/-- Moves to the last closing mark before the next arrow, if there is one. -/
def upToLast (closer : List Char) : Cursor (List Char) := fun text =>
  match splitLast? closer (cutAtArrow text).1 with
  | some (raw, after) => (some raw, closer ++ after ++ (cutAtArrow text).2)
  | none => (none, text)

/-- A label in quotation marks, with the closing mark directly behind it. -/
def quotedLabel (s : Shape) : Cursor (List Char) := do
  mark ['"']
  let label ← upTo '"'
  mark ['"']
  mark s.closer
  return label

/-- A label that reaches to the last closing mark before the next arrow. -/
def plainLabel (s : Shape) : Cursor (List Char) := do
  let raw ← upToLast s.closer
  mark s.closer
  return unquote raw

/-- A label between the marks of one given shape. -/
def labelOf (s : Shape) : Cursor (List Char) := do
  mark s.opener
  orElse (quotedLabel s) (plainLabel s)

/-- A label between the marks of the first of the shapes that fit. -/
def shapedAmong : List Shape → Cursor ShapedLabel
  | [] => fail
  | s :: shapes => orElse (do return ⟨s, ← labelOf s⟩) (shapedAmong shapes)

/-- A label between the marks of the first shape in reading order that fits. -/
def shapedLabel : Cursor ShapedLabel :=
  shapedAmong Shape.readingOrder

/-! ## The parts -/

variable {p q : Cursor α} {k : α → Cursor β} {text rest label raw closer : List Char} {a b : α}

theorem bind_eq_some_iff {b : β} : (p >>= k) text = (some b, rest) ↔
    ∃ a mid, p text = (some a, mid) ∧ k a mid = (some b, rest) := by
  have hbind : (p >>= k) text = match p text with
    | (some a, mid) => k a mid
    | (none, mid) => (none, mid) := rfl
  rw [hbind]
  rcases p text with ⟨_ | a, mid⟩
  · simp
  · constructor
    · exact fun h => ⟨a, mid, rfl, h⟩
    · rintro ⟨a, mid, ⟨⟩, h⟩
      exact h

theorem pure_eq_some_iff : (pure a : Cursor α) text = (some b, rest) ↔ a = b ∧ text = rest := by
  have hpure : (pure a : Cursor α) text = (some a, text) := rfl
  rw [hpure, Prod.mk.injEq, Option.some.injEq]

theorem orElse_eq_some_iff : orElse p q text = (some a, rest) ↔
    p text = (some a, rest) ∨ (p text).1 = none ∧ q text = (some a, rest) := by
  rw [orElse]
  rcases p text with ⟨_ | a, mid⟩
  · simp
  · simp

theorem mark_eq_some_iff {pattern : List Char} {u : Unit} :
    mark pattern text = (some u, rest) ↔ text = pattern ++ rest := by
  rw [mark, ← strip?_eq_some_iff]
  cases strip? pattern text with
  | none => simp
  | some rest => simp

/-- Where the character comes at all, the text is cut at its first occurrence. -/
theorem upTo_eq_some_iff {c : Char} : upTo c text = (some label, c :: rest) ↔
    text = label ++ c :: rest ∧ c ∉ label := by
  rw [upTo, Prod.mk.injEq, Option.some.injEq]
  constructor
  · rintro ⟨rfl, hrest⟩
    refine ⟨by rw [← hrest, List.takeWhile_append_dropWhile], fun hc => ?_⟩
    simpa using List.all_eq_true.mp List.all_takeWhile c hc
  · rintro ⟨rfl, hc⟩
    have hlabel : ∀ d ∈ label, (d != c) = true := by
      intro d hd
      rw [bne_iff_ne]
      rintro rfl
      exact hc hd
    rw [List.takeWhile_append_of_pos hlabel, List.dropWhile_append_of_pos hlabel]
    simp

theorem upToLast_eq_some_iff : upToLast closer text = (some raw, rest) ↔
    ∃ after, splitLast? closer (cutAtArrow text).1 = some (raw, after) ∧
      rest = closer ++ after ++ (cutAtArrow text).2 := by
  rw [upToLast]
  cases splitLast? closer (cutAtArrow text).1 with
  | none => simp
  | some cut =>
    obtain ⟨raw, after⟩ := cut
    simp only [Prod.mk.injEq, Option.some.injEq]
    constructor
    · rintro ⟨rfl, rfl⟩
      exact ⟨after, ⟨rfl, rfl⟩, rfl⟩
    · rintro ⟨after, ⟨rfl, rfl⟩, rfl⟩
      exact ⟨rfl, rfl⟩

/-! ## Labels -/

/-- The reader reads what the function reads, and nothing else. -/
def Follows (p : Cursor α) (f : List Char → Option (α × List Char)) : Prop :=
  ∀ text a rest, p text = (some a, rest) ↔ f text = some (a, rest)

/-- So it fails where the function fails. -/
theorem Follows.fst_eq_none_iff {f : List Char → Option (α × List Char)} (h : Follows p f) :
    (p text).1 = none ↔ f text = none := by
  constructor
  · intro hnone
    rw [Option.eq_none_iff_forall_ne_some]
    rintro ⟨a, rest⟩ hf
    rw [(h text a rest).mpr hf] at hnone
    cases hnone
  · intro hf
    rw [Option.eq_none_iff_forall_ne_some]
    intro a ha
    have hread : p text = (some a, (p text).2) := Prod.ext ha rfl
    rw [(h text a _).mp hread] at hf
    cases hf

/-- The first of two readings is read, or the second from the same place. -/
theorem Follows.orElse_eq {f : List Char → Option (α × List Char)} (h : Follows p f) :
    orElse p q text = (f text).elim (q text) fun found => (some found.1, found.2) := by
  rw [orElse]
  cases hf : f text with
  | some found =>
    obtain ⟨a, rest⟩ := found
    rw [(h text a rest).mpr hf]
    rfl
  | none =>
    rcases hp : p text with ⟨_ | a, rest⟩
    · rfl
    · rw [(h text a rest).mp hp] at hf
      cases hf

theorem follows_quotedLabel (s : Shape) : Follows (quotedLabel s) (quotedLabel? s) := by
  intro text label rest
  rw [quotedLabel?_eq_some_iff]
  simp only [quotedLabel, bind_eq_some_iff, mark_eq_some_iff, pure_eq_some_iff]
  constructor
  · rintro ⟨_, inner, rfl, label, _, hcut, _, _, rfl, _, _, rfl, rfl, rfl⟩
    obtain ⟨rfl, hquote⟩ := upTo_eq_some_iff.mp hcut
    exact ⟨by simp, hquote⟩
  · rintro ⟨rfl, hquote⟩
    have hcut : upTo '"' (label ++ '"' :: (s.closer ++ rest)) =
        (some label, '"' :: (s.closer ++ rest)) := upTo_eq_some_iff.mpr ⟨rfl, hquote⟩
    exact ⟨(), _, by simp, label, _, hcut, (), _, rfl, (), rest, rfl, rfl, rfl⟩

theorem follows_plainLabel (s : Shape) : Follows (plainLabel s) (plainLabel? s) := by
  intro text label rest
  rw [plainLabel?_eq_map]
  simp only [plainLabel, bind_eq_some_iff, mark_eq_some_iff, pure_eq_some_iff,
    upToLast_eq_some_iff, Option.map_eq_some_iff, Prod.exists, Prod.mk.injEq]
  constructor
  · rintro ⟨raw, _, ⟨after, hcut, rfl⟩, _, beyond, hmark, rfl, rfl⟩
    rw [List.append_assoc, List.append_cancel_left_eq] at hmark
    exact ⟨raw, after, hcut, rfl, hmark⟩
  · rintro ⟨raw, after, hcut, rfl, rfl⟩
    exact ⟨raw, _, ⟨after, hcut, rfl⟩, (), _, by rw [List.append_assoc], rfl, rfl⟩

/-- **The label of one shape** is read as from the text. -/
theorem follows_labelOf (s : Shape) : Follows (labelOf s) (labelOf? s) := by
  intro text label rest
  simp only [labelOf, bind_eq_some_iff, mark_eq_some_iff, orElse_eq_some_iff,
    (follows_quotedLabel s).fst_eq_none_iff, follows_quotedLabel s _ _ _,
    follows_plainLabel s _ _ _]
  constructor
  · rintro ⟨_, body, rfl, h⟩
    exact labelOf?_opener_append_eq_some_iff.mpr h
  · intro h
    obtain ⟨body, rfl, -⟩ := fits_of_labelOf? h
    exact ⟨(), body, rfl, labelOf?_opener_append_eq_some_iff.mp h⟩

/-- And with the shape it is the label of. -/
theorem follows_shaped (s : Shape) : Follows (do return (⟨s, ← labelOf s⟩ : ShapedLabel))
    fun text => (labelOf? s text).map fun found => (⟨s, found.1⟩, found.2) := by
  intro text l rest
  simp only [bind_eq_some_iff, pure_eq_some_iff, follows_labelOf s _ _ _,
    Option.map_eq_some_iff, Prod.exists, Prod.mk.injEq]

/-! ## The search through the shapes -/

/-- Shapes that do not fit leave the cursor where it was, however far their marks were
found. -/
theorem shapedAmong_eq (shapes : List Shape) (text : List Char) : shapedAmong shapes text =
    (shapes.findSome? fun s => (labelOf? s text).map fun found => (⟨s, found.1⟩, found.2)).elim
      (none, text) fun found => (some found.1, found.2) := by
  induction shapes with
  | nil => rfl
  | cons s shapes ih =>
    rw [shapedAmong, (follows_shaped s).orElse_eq, List.findSome?_cons, ih]
    cases labelOf? s text with
    | some found => rfl
    | none => rfl

/-- **The cursor is moved over a label or not at all.** What is read with it is what is
read from the text. -/
theorem shapedLabel_eq (text : List Char) : shapedLabel text =
    (shapedLabel? text).elim (none, text) fun found => (some found.1, found.2) :=
  shapedAmong_eq Shape.readingOrder text

-- a circle is given up behind its opening mark, but the search goes back
example : labelOf .circle "((x)".toList = (none, "x)".toList) ∧
    shapedLabel "((x".toList = (none, "((x".toList) := by decide +kernel

end Cursor

end Flowchart.Statement
