import Flowchart.Document.Marks
import Flowchart.Text.Search

/-!
# Labels in the marks of a shape

A shape is read together with the label between its marks. A label in
quotation marks reaches to the next quotation mark and may hold anything
else. Any other label reaches to the **last** closing mark before the next
arrow, so it may hold every bracket, the shape's own included; one pair of
quotation marks around it is taken off.

`shapedLabel?` tries the shapes in reading order and answers with the first
that fits. Whatever it answers, the text begins with the opening mark and
the rest that is handed back is a proper end of the text
(`length_lt_of_shapedLabel?`).
-/

namespace Flowchart.Statement

open Text

/-- A shape and the label read between its marks. -/
structure ShapedLabel where
  shape : Shape
  label : List Char
  deriving DecidableEq

/-- Whether the text begins with an arrow of some line style. -/
def startsWithArrow (text : List Char) : Bool :=
  LineStyle.all.any fun s => s.arrow.isPrefixOf text

/-- The text before its first arrow, and the text from that arrow on. -/
def cutAtArrow : List Char → List Char × List Char
  | [] => ([], [])
  | c :: rest =>
    if startsWithArrow (c :: rest) then ([], c :: rest)
    else (c :: (cutAtArrow rest).1, (cutAtArrow rest).2)

/-- The text without one pair of quotation marks around it. A single
quotation mark is no pair. -/
def unquote (text : List Char) : List Char :=
  match text with
  | '"' :: inner => if inner.getLast? = some '"' then inner.dropLast else text
  | _ => text

/-- A label in quotation marks, with the closing mark directly behind it. -/
def quotedLabel? (s : Shape) : List Char → Option (List Char × List Char)
  | '"' :: text => do
    let (label, rest) ← splitAt? '"' text
    let rest ← strip? s.closer rest
    return (label, rest)
  | _ => none

/-- A label that reaches to the last closing mark before the next arrow. -/
def plainLabel? (s : Shape) (text : List Char) : Option (List Char × List Char) := do
  let (window, beyond) := cutAtArrow text
  let (label, rest) ← splitLast? s.closer window
  return (unquote label, rest ++ beyond)

/-- A label between the marks of one given shape: quoted if that fits, plain
otherwise. -/
def labelOf? (s : Shape) (text : List Char) : Option (List Char × List Char) := do
  let inner ← strip? s.opener text
  quotedLabel? s inner <|> plainLabel? s inner

/-- The first shape in reading order whose marks fit, with its label and the
rest of the text. -/
def shapedLabel? (text : List Char) : Option (ShapedLabel × List Char) :=
  Shape.readingOrder.findSome? fun s =>
    (labelOf? s text).map fun (label, rest) => (⟨s, label⟩, rest)

theorem cutAtArrow_append (text : List Char) :
    (cutAtArrow text).1 ++ (cutAtArrow text).2 = text := by
  induction text with
  | nil => rfl
  | cons c rest ih =>
    simp only [cutAtArrow]
    split
    · rfl
    · simp [ih]

/-- A quoted label is read off the front of the text. -/
theorem quotedLabel?_eq_some {s : Shape} {text label rest : List Char}
    (h : quotedLabel? s text = some (label, rest)) :
    text = '"' :: label ++ '"' :: s.closer ++ rest ∧ '"' ∉ label := by
  unfold quotedLabel? at h
  split at h
  · rename_i inner
    simp only [Option.bind_eq_bind, Option.bind_eq_some_iff, Option.pure_def, Option.some.injEq,
      Prod.exists, Prod.mk.injEq] at h
    obtain ⟨q, r, hq, r', hr', rfl, rfl⟩ := h
    obtain ⟨rfl, hn⟩ := splitAt?_eq_some_iff.mp hq
    rw [strip?_eq_some_iff.mp hr']
    exact ⟨by simp, hn⟩
  · simp at h

/-- A plain label is what stands before the last closing mark, once unquoted. -/
theorem plainLabel?_eq_some {s : Shape} {text label rest : List Char}
    (h : plainLabel? s text = some (label, rest)) :
    ∃ raw after, splitLast? s.closer (cutAtArrow text).1 = some (raw, after) ∧
      label = unquote raw ∧ rest = after ++ (cutAtArrow text).2 ∧
      text = raw ++ s.closer ++ rest := by
  simp only [plainLabel?, Option.bind_eq_bind, Option.bind_eq_some_iff, Option.pure_def,
    Option.some.injEq, Prod.exists, Prod.mk.injEq] at h
  obtain ⟨raw, after, hc, rfl, rfl⟩ := h
  refine ⟨raw, after, hc, rfl, rfl, ?_⟩
  rw [← List.append_assoc, ← splitLast?_eq_some hc, cutAtArrow_append]

/-- What `labelOf?` reads is the opening mark, the raw label and the closing
mark. -/
theorem labelOf?_eq_some {s : Shape} {text label rest : List Char}
    (h : labelOf? s text = some (label, rest)) :
    ∃ raw, text = s.opener ++ raw ++ s.closer ++ rest := by
  simp only [labelOf?, Option.bind_eq_bind, Option.bind_eq_some_iff] at h
  obtain ⟨inner, hi, h⟩ := h
  rw [strip?_eq_some_iff.mp hi]
  cases hq : quotedLabel? s inner with
  | some p =>
    obtain ⟨l, r⟩ := p
    obtain ⟨rfl, rfl⟩ : l = label ∧ r = rest := by simpa [hq] using h
    exact ⟨'"' :: l ++ ['"'], by rw [(quotedLabel?_eq_some hq).1]; simp⟩
  | none =>
    obtain ⟨raw, _, _, _, _, ht⟩ := plainLabel?_eq_some (by simpa [hq] using h)
    exact ⟨raw, by rw [ht]; simp⟩

/-- Reading a shape uses up at least its opening mark. -/
theorem length_lt_of_shapedLabel? {text rest : List Char} {l : ShapedLabel}
    (h : shapedLabel? text = some (l, rest)) : rest.length < text.length := by
  obtain ⟨s, _, hs⟩ := List.exists_of_findSome?_eq_some h
  obtain ⟨⟨label, r⟩, hl, he⟩ := Option.map_eq_some_iff.mp hs
  obtain ⟨raw, ht⟩ := labelOf?_eq_some hl
  obtain ⟨_, rfl⟩ := Prod.mk.inj he
  have := List.length_pos_iff.mpr s.opener_ne_nil
  simp only [ht, List.length_append]
  omega

end Flowchart.Statement
