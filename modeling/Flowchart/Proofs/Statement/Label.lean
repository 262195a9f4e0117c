import Flowchart.Proofs.Statement.Arrow

/-!
# Reading a label back

A shape *fits* a text that begins with its opening mark and holds its closing
mark somewhere behind it. On a text without arrows that is all there is to a
match (`isSome_labelOf?_iff`), so the shape that is read is the first that
fits. A label between its own marks is read back whole (`labelOf?_wrap`)
unless quotation marks at its front are taken off, which `Shape.Unquotes`
describes; then what is read is shorter (`length_lt_of_unquotes`).

Whatever follows it, a raw text without arrows lies in front of the next arrow
together with its closing mark (`cutAtArrow_closer_append`).

Fitting is kept when text is added behind (`Shape.Fits.append`). So a label
that was read out of a longer statement without quotation marks is read
alike when it stands alone (`shapedLabel?_wrap_of_read`): an earlier shape
that fits the label and its marks would have fitted the statement too.
-/

namespace Flowchart

open Text Statement

namespace Shape

variable {s : Shape} {label raw text : List Char}

/-- The shapes that are tried before this one. -/
def earlier (s : Shape) : List Shape :=
  preceding s readingOrder

/-- The text begins with the opening mark and holds the closing mark behind it. -/
def Fits (s : Shape) (text : List Char) : Prop :=
  ∃ body, text = s.opener ++ body ∧ s.closer <:+: body

instance (s : Shape) (text : List Char) : Decidable (s.Fits text) :=
  decidable_of_iff ((strip? s.opener text).any (occurs s.closer) = true) <| by
    simp [Fits, Option.any_eq_true, strip?_eq_some_iff, occurs_iff_isInfix]

/-- Quotation marks are taken off the raw label: one stands at its front, and
another directly before a closing mark, either as the next quotation mark or
at the very end. -/
def Unquotes (s : Shape) (raw : List Char) : Prop :=
  ∃ inner after, raw ++ s.closer = '"' :: inner ++ '"' :: s.closer ++ after ∧
    ('"' ∉ inner ∨ after = [])

theorem opener_marks (s : Shape) : ∀ c ∈ s.opener, c ≠ '-' ∧ c ≠ '=' := by
  cases s <;> simp [opener]

theorem closer_marks (s : Shape) : ∀ c ∈ s.closer, c ≠ '>' := by
  cases s <;> simp [closer]

/-- Marks are marks of the notation, so they never belong to an identifier. -/
theorem head?_opener (s : Shape) : ∃ c, s.opener.head? = some c ∧
    c ∈ ['(', '[', '{', '>'] := by
  cases s <;> exact ⟨_, rfl, by decide⟩

theorem head?_closer (s : Shape) : s.closer.head? ≠ some '"' := by
  cases s <;> decide

theorem quote_notMem_opener (s : Shape) : '"' ∉ s.opener := by
  cases s <;> decide

theorem quote_notMem_closer (s : Shape) : '"' ∉ s.closer := by
  cases s <;> decide

/-- The marks of a shape are on one line. -/
theorem lineFeed_notMem_wrap (h : '\n' ∉ label) : '\n' ∉ s.wrap label := by
  have hopen : '\n' ∉ s.opener := by cases s <;> decide
  have hclose : '\n' ∉ s.closer := by cases s <;> decide
  simp [wrap, hopen, hclose, h]

/-- Fitting is kept when text is added behind. -/
theorem Fits.append (h : s.Fits text) (after : List Char) : s.Fits (text ++ after) := by
  obtain ⟨body, rfl, hb⟩ := h
  exact ⟨body ++ after, List.append_assoc .., List.infix_append_of_infix_left hb⟩

/-- A shape fits what it wraps. -/
theorem fits_wrap (s : Shape) (label : List Char) : s.Fits (s.wrap label) :=
  ⟨label ++ s.closer, List.append_assoc .., List.infix_append_right⟩

/-- The marks of a shape bring no arrow with them. -/
theorem arrowFree_wrap_iff : ArrowFree (s.wrap label) ↔ ArrowFree label := by
  rw [wrap, List.append_assoc, arrowFree_append_left_iff s.opener_marks,
    arrowFree_append_right_iff s.closer_marks]

/-- A label that does not begin with a quotation mark keeps those it has. -/
theorem not_unquotes_of_head? (h : raw.head? ≠ some '"') : ¬ s.Unquotes raw := by
  rintro ⟨inner, after, he, -⟩
  have hhead := congrArg List.head? he
  cases raw with
  | nil => exact s.head?_closer (by simpa using hhead)
  | cons c raw => exact h (by simpa using hhead)

/-- The labels that may stand between the marks of a shape without another
shape being read there: an opening mark must not be taken for a longer one,
nor the marks of a trapezoid be closed as a parallelogram. -/
def Admits (s : Shape) (label : List Char) : Prop :=
  match s with
  | .circle => ¬ ['('] <+: label
  | .round => ¬ ['('] <+: label ∧ ¬ ['['] <+: label
  | .rhombus => ¬ ['{'] <+: label
  | .rectangle => ¬ ['('] <+: label ∧ ¬ ['/'] <+: label ∧ ¬ ['\\', '\\'] <+: label
  | .trapezoid => ¬ ['/', ']'] <:+: label
  | .trapezoidAlt => ¬ ['\\', '\\', ']'] <:+: label
  | _ => True

/-- The pairs of a shape and an earlier one whose opening marks can stand at
the front of one text. -/
def rivals : List (Shape × Shape) :=
  [(.circle, .doubleCircle), (.round, .doubleCircle), (.round, .circle), (.round, .stadium),
    (.rhombus, .hexagon), (.trapezoid, .parallelogram), (.trapezoidAlt, .parallelogramAlt),
    (.rectangle, .cylinder), (.rectangle, .parallelogram), (.rectangle, .trapezoid),
    (.rectangle, .parallelogramAlt), (.rectangle, .trapezoidAlt)]

theorem mem_rivals (s : Shape) : ∀ r ∈ s.earlier,
    (r.opener <+: s.opener ∨ s.opener <+: r.opener) → (s, r) ∈ rivals := by
  cases s <;> decide

/-- Rivals with the same opening mark are told apart by the closing mark. -/
theorem mem_twins (s : Shape) : ∀ r ∈ s.earlier, r.opener = s.opener →
    (s, r) ∈ [(.trapezoid, .parallelogram), (.trapezoidAlt, .parallelogramAlt)] := by
  cases s <;> decide

/-- What a longer opening mark adds to the shape's own must come from the
label, if the closing mark cannot supply it. -/
theorem mark_isPrefix_of_opener {r : Shape} {more : List Char} (mark : List Char)
    (ho : r.opener = s.opener ++ mark) (hm : ∀ c, s.closer.head? = some c → c ∉ mark)
    (h : r.opener <+: s.wrap label ++ more) : mark <+: label := by
  rw [wrap, ho, List.append_assoc, List.append_assoc, List.prefix_append_right_inj] at h
  refine prefix_of_prefix_append h fun c hc => hm c ?_
  rwa [List.head?_append, Option.or_of_isSome (List.isSome_head?.mpr s.closer_ne_nil)] at hc

/-- **A label that the shape admits lends no opening mark to an earlier shape**:
one whose opening mark stands in front has the same. -/
theorem opener_eq_of_admits (ha : s.Admits label) {r : Shape} (hr : r ∈ s.earlier)
    {more : List Char} (h : r.opener <+: s.wrap label ++ more) : r.opener = s.opener := by
  have hself : s.opener <+: s.wrap label ++ more :=
    ⟨label ++ s.closer ++ more, by rw [wrap]; simp⟩
  have hrival := mem_rivals s r hr (List.prefix_or_prefix_of_prefix h hself)
  simp only [rivals, List.mem_cons, Prod.mk.injEq, List.not_mem_nil, or_false] at hrival
  rcases hrival with ⟨rfl, rfl⟩ | ⟨rfl, rfl⟩ | ⟨rfl, rfl⟩ | ⟨rfl, rfl⟩ | ⟨rfl, rfl⟩ | ⟨rfl, rfl⟩ |
    ⟨rfl, rfl⟩ | ⟨rfl, rfl⟩ | ⟨rfl, rfl⟩ | ⟨rfl, rfl⟩ | ⟨rfl, rfl⟩ | ⟨rfl, rfl⟩
  · exact absurd (mark_isPrefix_of_opener ['('] rfl (by simp [closer]) h) ha
  · have htwo := mark_isPrefix_of_opener ['(', '('] rfl (by simp [closer]) h
    exact absurd ((List.prefix_append ['('] ['(']).trans htwo) ha.1
  · exact absurd (mark_isPrefix_of_opener ['('] rfl (by simp [closer]) h) ha.1
  · exact absurd (mark_isPrefix_of_opener ['['] rfl (by simp [closer]) h) ha.2
  · exact absurd (mark_isPrefix_of_opener ['{'] rfl (by simp [closer]) h) ha
  · rfl
  · rfl
  · exact absurd (mark_isPrefix_of_opener ['('] rfl (by simp [closer]) h) ha.1
  · exact absurd (mark_isPrefix_of_opener ['/'] rfl (by simp [closer]) h) ha.2.1
  · exact absurd (mark_isPrefix_of_opener ['/'] rfl (by simp [closer]) h) ha.2.1
  · exact absurd (mark_isPrefix_of_opener ['\\', '\\'] rfl (by simp [closer]) h) ha.2.2
  · exact absurd (mark_isPrefix_of_opener ['\\', '\\'] rfl (by simp [closer]) h) ha.2.2

/-- Nor does it close an earlier shape with the same opening mark. -/
theorem not_closer_infix_of_admits (ha : s.Admits label) {r : Shape} (hr : r ∈ s.earlier)
    (ho : r.opener = s.opener) : ¬ r.closer <:+: label ++ s.closer := by
  intro h
  have htwin := mem_twins s r hr ho
  simp only [List.mem_cons, Prod.mk.injEq, List.not_mem_nil, or_false] at htwin
  -- the character before the bracket tells the two closing marks apart
  rcases htwin with ⟨rfl, rfl⟩ | ⟨rfl, rfl⟩
  · have hclose : Shape.parallelogram.closer <:+: label ++ '\\' :: ['\\', ']'] := h
    rcases (infix_append_cons_iff (by decide)).mp hclose with hl | hc
    · exact ha hl
    · exact absurd (occurs_iff_isInfix.mpr hc) (by decide)
  · have hclose : Shape.parallelogramAlt.closer <:+: label ++ '/' :: [']'] := h
    rcases (infix_append_cons_iff (by decide)).mp hclose with hl | hc
    · exact ha hl
    · exact absurd (occurs_iff_isInfix.mpr hc) (by decide)

/-- **A shape that admits the label comes first**: no earlier one fits. -/
theorem not_fits_of_admits (ha : s.Admits label) {r : Shape} (hr : r ∈ s.earlier) :
    ¬ r.Fits (s.wrap label) := by
  rintro ⟨body, he, hclose⟩
  have hopen : r.opener <+: s.wrap label ++ [] := ⟨body, by rw [List.append_nil, he]⟩
  have ho : r.opener = s.opener := opener_eq_of_admits ha hr hopen
  rw [wrap, ho, List.append_assoc] at he
  rw [← List.append_cancel_left he] at hclose
  exact not_closer_infix_of_admits ha hr ho hclose

end Shape

namespace Statement

variable {s : Shape} {text label raw rest : List Char} {l : ShapedLabel}

/-! ## Quotation marks -/

/-- One pair of quotation marks is taken off. -/
theorem unquote_quoted (inner : List Char) : unquote ('"' :: inner ++ ['"']) = inner := by
  simp [unquote]

/-- Nothing is taken off a text that is not in quotation marks. -/
theorem unquote_eq_self (h : ∀ inner, raw ≠ '"' :: inner ++ ['"']) : unquote raw = raw := by
  unfold unquote
  split
  · rename_i inner
    split
    · rename_i hlast
      obtain ⟨front, rfl⟩ := List.getLast?_eq_some_iff.mp hlast
      exact absurd rfl (h front)
    · rfl
  · rfl

/-- What is left of the text is a piece of it. -/
theorem unquote_isInfix (raw : List Char) : unquote raw <:+: raw := by
  by_cases h : ∃ inner, raw = '"' :: inner ++ ['"']
  · obtain ⟨inner, rfl⟩ := h
    rw [unquote_quoted]
    exact ⟨['"'], ['"'], rfl⟩
  · simp [unquote_eq_self fun inner he => h ⟨inner, he⟩]

/-- **A quoted label** is what stands between the quotation mark at the front
and the next one, with the closing mark right behind it. -/
theorem quotedLabel?_eq_some_iff : quotedLabel? s text = some (label, rest) ↔
    text = '"' :: label ++ '"' :: s.closer ++ rest ∧ '"' ∉ label := by
  constructor
  · exact quotedLabel?_eq_some
  · rintro ⟨rfl, hq⟩
    have hcut : splitAt? '"' (label ++ '"' :: (s.closer ++ rest)) =
        some (label, s.closer ++ rest) :=
      splitAt?_eq_some_iff.mpr ⟨rfl, hq⟩
    simp [quotedLabel?, hcut, strip?_append]

/-! ## One shape -/

theorem labelOf?_opener_append (s : Shape) (body : List Char) :
    labelOf? s (s.opener ++ body) = (quotedLabel? s body <|> plainLabel? s body) := by
  simp [labelOf?, strip?_append]

/-- Behind the opening mark a label is quoted, or else plain. -/
theorem labelOf?_opener_append_eq_some_iff {body : List Char} :
    labelOf? s (s.opener ++ body) = some (label, rest) ↔
      quotedLabel? s body = some (label, rest) ∨
        quotedLabel? s body = none ∧ plainLabel? s body = some (label, rest) := by
  rw [labelOf?_opener_append, Option.orElse_eq_orElse, Option.orElse_eq_or,
    Option.or_eq_some_iff]

/-- The last character of the marks around a label is a bracket. -/
theorem getLast?_append_closer (text : List Char) (s : Shape) :
    ∃ c ∈ [')', ']', '}'], (text ++ s.closer).getLast? = some c := by
  rw [List.getLast?_append]
  cases s <;> exact ⟨_, by decide, rfl⟩

/-- Brackets stand in no arrow. -/
theorem notMem_arrow_of_bracket {c : Char} (hc : c ∈ [')', ']', '}']) (s : LineStyle) :
    c ∉ s.arrow := by
  simp only [List.mem_cons, List.not_mem_nil, or_false] at hc
  rcases hc with rfl | rfl | rfl <;> cases s <;> decide

/-- **A raw text without arrows lies before the cut, and its closing mark too.** -/
theorem cutAtArrow_closer_append (ha : ArrowFree raw) :
    cutAtArrow (raw ++ s.closer ++ rest) =
      (raw ++ s.closer ++ (cutAtArrow rest).1, (cutAtArrow rest).2) := by
  refine cutAtArrow_append_of_getLast? ((arrowFree_append_right_iff s.closer_marks).mpr ha) ?_
  intro c hc
  obtain ⟨d, hd, he⟩ := getLast?_append_closer raw s
  obtain rfl := Option.some.inj (hc.symm.trans he)
  exact notMem_arrow_of_bracket hd

/-- A plain label is what stands before the last closing mark of the window. -/
theorem plainLabel?_eq_map : plainLabel? s text =
    (splitLast? s.closer (cutAtArrow text).1).map fun cut =>
      (unquote cut.1, cut.2 ++ (cutAtArrow text).2) := by
  cases h : splitLast? s.closer (cutAtArrow text).1 with
  | none => simp [plainLabel?, h]
  | some cut => simp [plainLabel?, h]

/-- It is read exactly if the closing mark stands before the next arrow. -/
theorem plainLabel?_eq_none_iff :
    plainLabel? s text = none ↔ ¬ s.closer <:+: (cutAtArrow text).1 := by
  rw [plainLabel?_eq_map, Option.map_eq_none_iff, splitLast?_eq_none_iff]

/-- What is read fits. -/
theorem fits_of_labelOf? (h : labelOf? s text = some (label, rest)) : s.Fits text := by
  obtain ⟨raw, rfl⟩ := labelOf?_eq_some h
  exact (s.fits_wrap raw).append rest

/-- **What fits before the next arrow is read.** -/
theorem isSome_labelOf?_of_fits (h : s.Fits (cutAtArrow text).1) : (labelOf? s text).isSome := by
  obtain ⟨body, hbody, hclose⟩ := h
  have htext : text = s.opener ++ (body ++ (cutAtArrow text).2) := by
    rw [← List.append_assoc, ← hbody, cutAtArrow_append]
  -- the opening mark does not move the cut, so the body keeps its window
  have hwindow : (cutAtArrow (body ++ (cutAtArrow text).2)).1 = body := by
    have hcut := congrArg (fun t => (cutAtArrow t).1) htext
    simp only [cutAtArrow_append_left s.opener_marks, hbody] at hcut
    exact (List.append_cancel_left hcut).symm
  rw [htext, labelOf?_opener_append]
  have hplain : plainLabel? s (body ++ (cutAtArrow text).2) ≠ none :=
    fun hnone => plainLabel?_eq_none_iff.mp hnone (by rwa [hwindow])
  cases hq : quotedLabel? s (body ++ (cutAtArrow text).2) with
  | some q => rfl
  | none => simpa [Option.isSome_iff_ne_none] using hplain

/-- **On a text without arrows, to match is to fit.** -/
theorem isSome_labelOf?_iff (ha : ArrowFree text) : (labelOf? s text).isSome ↔ s.Fits text := by
  constructor
  · intro h
    obtain ⟨⟨label, rest⟩, h⟩ := Option.isSome_iff_exists.mp h
    exact fits_of_labelOf? h
  · intro h
    refine isSome_labelOf?_of_fits ?_
    rwa [cutAtArrow_of_arrowFree ha]

/-- **A label is read back whole** from between its marks, if it holds no
arrow and no quotation marks are taken off. -/
theorem labelOf?_wrap (ha : ArrowFree raw) (hu : ¬ s.Unquotes raw) :
    labelOf? s (s.wrap raw) = some (raw, []) := by
  have hbody : cutAtArrow (raw ++ s.closer) = (raw ++ s.closer, []) :=
    cutAtArrow_of_arrowFree ((arrowFree_append_right_iff s.closer_marks).mpr ha)
  have hquoted : quotedLabel? s (raw ++ s.closer) = none := by
    rw [← Option.not_isSome_iff_eq_none, Option.isSome_iff_exists]
    rintro ⟨⟨inner, after⟩, hq⟩
    obtain ⟨he, hinner⟩ := quotedLabel?_eq_some_iff.mp hq
    exact hu ⟨inner, after, he, Or.inl hinner⟩
  have hunquote : unquote raw = raw := by
    refine unquote_eq_self fun inner he => hu ⟨inner, [], ?_, Or.inr rfl⟩
    simp [he]
  rw [Shape.wrap, List.append_assoc, labelOf?_opener_append, hquoted]
  simp [plainLabel?, hbody, splitLast?_append_self s.closer_ne_nil, hunquote]

/-- Where quotation marks are taken off, the label that is read is shorter. -/
theorem length_lt_of_unquotes (ha : ArrowFree raw) (hu : s.Unquotes raw)
    (h : labelOf? s (s.wrap raw) = some (label, rest)) : label.length < raw.length := by
  have hbody : cutAtArrow (raw ++ s.closer) = (raw ++ s.closer, []) :=
    cutAtArrow_of_arrowFree ((arrowFree_append_right_iff s.closer_marks).mpr ha)
  rw [Shape.wrap, List.append_assoc, labelOf?_opener_append_eq_some_iff] at h
  rcases h with hquoted | ⟨hnone, hplain⟩
  · have := congrArg List.length (quotedLabel?_eq_some_iff.mp hquoted).1
    simp only [List.length_append, List.length_cons] at this
    omega
  · obtain ⟨inner, after, he, hcase⟩ := hu
    -- the first form would have been read as a quoted label
    obtain rfl : after = [] := by
      rcases hcase with hinner | hafter
      · rw [quotedLabel?_eq_some_iff.mpr ⟨he, hinner⟩] at hnone
        exact absurd hnone (by simp)
      · exact hafter
    have hraw : raw = '"' :: inner ++ ['"'] :=
      List.append_cancel_right (show raw ++ s.closer = ('"' :: inner ++ ['"']) ++ s.closer by
        simpa using he)
    have hlabel : unquote raw = label := by
      simpa [plainLabel?, hbody, splitLast?_append_self s.closer_ne_nil] using
        congrArg (Option.map Prod.fst) hplain
    rw [← hlabel, hraw, unquote_quoted]
    simp only [List.length_append, List.length_cons]
    omega

/-- **The marks around a label are closed at the end of the text** and
nothing is taken off exactly if writing gives the text back. -/
theorem wrap_eq_iff_of_labelOf? (ha : ArrowFree text) (h : labelOf? s text = some (label, rest)) :
    s.wrap label = text ↔ ∃ raw, text = s.wrap raw ∧ ¬ s.Unquotes raw := by
  constructor
  · rintro rfl
    refine ⟨label, rfl, fun hu => ?_⟩
    have := length_lt_of_unquotes (Shape.arrowFree_wrap_iff.mp ha) hu h
    omega
  · rintro ⟨raw, rfl, hu⟩
    rw [labelOf?_wrap (Shape.arrowFree_wrap_iff.mp ha) hu] at h
    obtain ⟨rfl, -⟩ := Prod.mk.inj (Option.some.inj h)
    rfl

/-- **What a label was read from.** Either it stood between quotation marks
and holds none, or it is the text before the last closing mark of the
window, with one pair of quotation marks taken off. -/
theorem labelOf?_cases (h : labelOf? s text = some (label, rest)) :
    (text = s.opener ++ '"' :: label ++ '"' :: s.closer ++ rest ∧ '"' ∉ label) ∨
    ∃ raw after, (cutAtArrow text).1 = s.wrap raw ++ after ∧ label = unquote raw ∧
      rest = after ++ (cutAtArrow text).2 := by
  obtain ⟨body, rfl, -⟩ := fits_of_labelOf? h
  rcases labelOf?_opener_append_eq_some_iff.mp h with hquoted | ⟨-, hplain⟩
  · obtain ⟨rfl, hinner⟩ := quotedLabel?_eq_some_iff.mp hquoted
    exact Or.inl ⟨by simp, hinner⟩
  · obtain ⟨raw, after, hcut, hlabel, hrest, -⟩ := plainLabel?_eq_some hplain
    refine Or.inr ⟨raw, after, ?_, hlabel, ?_⟩
    · rw [cutAtArrow_append_left s.opener_marks, splitLast?_eq_some hcut]
      simp [Shape.wrap]
    · rw [cutAtArrow_append_left s.opener_marks]
      exact hrest

/-- A label is a piece of the text it was read from. -/
theorem label_infix_of_labelOf? (h : labelOf? s text = some (label, rest)) : label <:+: text := by
  rcases labelOf?_cases h with ⟨rfl, -⟩ | ⟨raw, after, hcut, rfl, -⟩
  · exact ⟨s.opener ++ ['"'], '"' :: s.closer ++ rest, by simp⟩
  · have hraw : raw <:+: (cutAtArrow text).1 :=
      ⟨s.opener, s.closer ++ after, by rw [hcut, Shape.wrap]; simp⟩
    have hwindow : (cutAtArrow text).1 <+: text := ⟨_, cutAtArrow_append text⟩
    exact (unquote_isInfix raw).trans (hraw.trans hwindow.isInfix)

/-- **A label with an arrow was quoted**: it holds no quotation mark, and the
text does. -/
theorem quoted_of_not_arrowFree (h : labelOf? s text = some (label, rest))
    (ha : ¬ ArrowFree label) : '"' ∉ label ∧ '"' ∈ text := by
  rcases labelOf?_cases h with ⟨rfl, hq⟩ | ⟨raw, after, hcut, rfl, -⟩
  · exact ⟨hq, by simp⟩
  · have hraw : raw <:+: (cutAtArrow text).1 :=
      ⟨s.opener, s.closer ++ after, by rw [hcut, Shape.wrap]; simp⟩
    exact absurd ((arrowFree_cutAtArrow text).of_piece ((unquote_isInfix raw).trans hraw)) ha

/-! ## The first shape that matches -/

/-- **The shape that is read** matches, and no earlier one does. -/
theorem shapedLabel?_eq_some_iff : shapedLabel? text = some (l, rest) ↔
    labelOf? l.shape text = some (l.label, rest) ∧
      ∀ r ∈ l.shape.earlier, labelOf? r text = none := by
  rw [shapedLabel?, findSome?_eq_some_iff_preceding]
  simp only [Option.map_eq_some_iff, Option.map_eq_none_iff, Prod.mk.injEq, Prod.exists]
  constructor
  · rintro ⟨s, -, ⟨label, rest, hs, rfl, rfl⟩, hr⟩
    exact ⟨hs, hr⟩
  · rintro ⟨hs, hr⟩
    exact ⟨l.shape, l.shape.mem_readingOrder, ⟨l.label, rest, hs, rfl, rfl⟩, hr⟩

/-- What is left behind a label is the end of the text. -/
theorem suffix_of_shapedLabel? (h : shapedLabel? text = some (l, rest)) :
    rest <:+ text := by
  obtain ⟨raw, rfl⟩ := labelOf?_eq_some (shapedLabel?_eq_some_iff.mp h).1
  exact List.suffix_append _ _

/-- Nothing is read only if no shape matches. -/
theorem shapedLabel?_eq_none_iff :
    shapedLabel? text = none ↔ ∀ s : Shape, labelOf? s text = none := by
  rw [shapedLabel?, List.findSome?_eq_none_iff]
  simp only [Option.map_eq_none_iff]
  exact ⟨fun h s => h s s.mem_readingOrder, fun h s _ => h s⟩

/-- A text that begins with no opening mark has no label at its front. -/
theorem shapedLabel?_eq_none_of_head? (h : ∀ c ∈ ['(', '[', '{', '>'], text.head? ≠ some c) :
    shapedLabel? text = none := by
  refine shapedLabel?_eq_none_iff.mpr fun s => ?_
  rw [← Option.not_isSome_iff_eq_none, Option.isSome_iff_exists]
  rintro ⟨⟨label, rest⟩, hs⟩
  obtain ⟨body, rfl, -⟩ := fits_of_labelOf? hs
  obtain ⟨c, hc, hmem⟩ := s.head?_opener
  exact h c hmem (by rw [List.head?_append, hc, Option.some_or])

/-- **Some shape is read** wherever one fits before the next arrow. -/
theorem isSome_shapedLabel?_of_fits (h : s.Fits (cutAtArrow text).1) :
    (shapedLabel? text).isSome := by
  rw [Option.isSome_iff_ne_none, Ne, shapedLabel?_eq_none_iff]
  intro hnone
  have := isSome_labelOf?_of_fits h
  rw [hnone s] at this
  exact absurd this (by simp)

/-- **A wrapped label is read back**, shape and all, if it holds no arrow, no
quotation marks are taken off, and no earlier shape fits. -/
theorem shapedLabel?_wrap (ha : ArrowFree raw) (hu : ¬ s.Unquotes raw)
    (he : ∀ r ∈ s.earlier, ¬ r.Fits (s.wrap raw)) :
    shapedLabel? (s.wrap raw) = some (⟨s, raw⟩, []) := by
  refine shapedLabel?_eq_some_iff.mpr ⟨labelOf?_wrap ha hu, fun r hr => ?_⟩
  rw [← Option.not_isSome_iff_eq_none, isSome_labelOf?_iff (Shape.arrowFree_wrap_iff.mpr ha)]
  exact he r hr

/-- **What was read out of a text without quotation marks is read back alone.**
The window of the text begins with the label and its marks, so a shape that
fits these fits the window. -/
theorem shapedLabel?_wrap_of_read (hq : '"' ∉ text) (h : shapedLabel? text = some (l, rest)) :
    ArrowFree l.label ∧ shapedLabel? (l.shape.wrap l.label) = some (l, []) := by
  obtain ⟨hl, hearlier⟩ := shapedLabel?_eq_some_iff.mp h
  rcases labelOf?_cases hl with ⟨htext, -⟩ | ⟨raw, after, hcut, hlabel, -⟩
  · exact absurd (by rw [htext]; simp) hq
  have hraw : raw <:+: (cutAtArrow text).1 :=
    ⟨l.shape.opener, l.shape.closer ++ after, by rw [hcut, Shape.wrap]; simp⟩
  have hwindow : (cutAtArrow text).1 <+: text := ⟨_, cutAtArrow_append text⟩
  have hqraw : '"' ∉ raw := fun hm => hq ((hraw.trans hwindow.isInfix).subset hm)
  obtain rfl : raw = l.label := by
    rw [hlabel, unquote_eq_self]
    rintro inner rfl
    exact hqraw (by simp)
  have ha : ArrowFree l.label := (arrowFree_cutAtArrow text).of_piece hraw
  refine ⟨ha, shapedLabel?_wrap ha ?_ fun r hr hfits => ?_⟩
  · exact Shape.not_unquotes_of_head? fun hhead => hqraw (List.mem_of_mem_head? hhead)
  · -- what fits the label and its marks would have fitted the window
    have hsome := isSome_labelOf?_of_fits (hcut ▸ hfits.append after)
    rw [hearlier r hr] at hsome
    exact absurd hsome (by simp)

end Statement

end Flowchart
