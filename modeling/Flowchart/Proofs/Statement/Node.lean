import Flowchart.Proofs.Statement.Identifier
import Flowchart.Proofs.Statement.Label

/-!
# Definitions on their own and inside a line

A definition is an identifier and a label, and both are pieces of the text.
Every definition found inside a line was read where it stands
(`exists_of_mem_definitionsFrom`), so what holds of a definition that is read
holds of all that are found.

The scanner finds a definition at the front (`definitionsFrom_node`) and passes
over a word that is none, over marks, and over text between bars;
`definitionsFrom_word`, `definitionsFrom_marks` and `definitionsFrom_bars` say
so, one for each.
-/

namespace Flowchart

open Text Statement

/-- What is known of a node that was read from a text: its id is an
identifier, its label a piece of the text; a label with an arrow was quoted;
and out of a text without quotation marks nothing is read that would not be
read again from the label and its marks. -/
structure Node.ReadFrom (n : Node) (text : List Char) : Prop where
  isIdentifier : IsIdentifier n.id.toList
  label_isInfix : n.label.toList <:+: text
  quoted : ¬ ArrowFree n.label.toList → '"' ∉ n.label.toList ∧ '"' ∈ text
  readsBack : '"' ∉ text → ArrowFree n.label.toList ∧
    shapedLabel? (n.shape.wrap n.label.toList) = some (⟨n.shape, n.label.toList⟩, [])

/-- What was read from a piece of a text was read from the text. -/
theorem Node.ReadFrom.mono {n : Node} {piece text : List Char} (h : n.ReadFrom piece)
    (hp : piece <:+: text) : n.ReadFrom text where
  isIdentifier := h.isIdentifier
  label_isInfix := h.label_isInfix.trans hp
  quoted := fun ha => ⟨(h.quoted ha).1, hp.subset (h.quoted ha).2⟩
  readsBack := fun hq => h.readsBack fun hin => hq (hp.subset hin)

/-- A label with a quotation mark hides no arrow: it was not quoted. -/
theorem Node.ReadFrom.arrowFree_of_quote {n : Node} {text : List Char} (h : n.ReadFrom text)
    (hq : '"' ∈ n.label.toList) : ArrowFree n.label.toList :=
  Decidable.byContradiction fun ha => (h.quoted ha).1 hq

namespace Statement

variable {text rest word : List Char} {n : Node} {atWord : Bool} {c : Char}

/-! ## One definition -/

theorem node?_eq_some_iff : node? text = some (n, rest) ↔
    ∃ id inner l, identifier? text = some (id, inner) ∧ shapedLabel? inner = some (l, rest) ∧
      n = ⟨String.ofList id, String.ofList l.label, l.shape⟩ := by
  simp only [node?, Option.bind_eq_bind, Option.bind_eq_some_iff, Option.pure_def,
    Option.some.injEq, Prod.exists, Prod.mk.injEq]
  constructor
  · rintro ⟨id, inner, hid, l, r, hl, rfl, rfl⟩
    exact ⟨id, inner, l, hid, hl, rfl⟩
  · rintro ⟨id, inner, l, hid, hl, rfl⟩
    exact ⟨id, inner, hid, l, rest, hl, rfl, rfl⟩

/-- Nothing is defined where no label follows the identifier. -/
theorem node?_append_eq_none (hw : IsIdentifier word)
    (hr : ∀ c, rest.head? = some c → isIdentifierChar c = false) (hl : shapedLabel? rest = none) :
    node? (word ++ rest) = none := by
  have hid : identifier? (word ++ rest) = some (word, rest) :=
    identifier?_eq_some_iff.mpr ⟨rfl, hw, hr⟩
  simp [node?, hid, hl]

/-- The opening mark of a shape ends an identifier. -/
theorem head?_wrap (s : Shape) (label : List Char) :
    ∀ c, (s.wrap label).head? = some c → isIdentifierChar c = false := by
  intro c hc
  obtain ⟨d, hd, hmem⟩ := s.head?_opener
  rw [Shape.wrap, List.append_assoc, List.head?_append, hd, Option.some_or] at hc
  obtain rfl := Option.some.inj hc
  have hmarks : ∀ d ∈ ['(', '[', '{', '>'], d ∈ marks := by simp [marks]
  exact isIdentifierChar_of_mem_marks d (hmarks d hmem)

/-- An identifier and a label that is read behind it are a definition. -/
theorem node?_append_wrap {id label : List Char} {s : Shape} {l : ShapedLabel}
    (hid : IsIdentifier id) (hl : shapedLabel? (s.wrap label) = some (l, rest)) :
    node? (id ++ s.wrap label) = some (⟨String.ofList id, String.ofList l.label, l.shape⟩, rest) :=
  node?_eq_some_iff.mpr
    ⟨id, s.wrap label, l, identifier?_eq_some_iff.mpr ⟨rfl, hid, head?_wrap s label⟩, hl, rfl⟩

/-- **A definition is read from its text.** -/
theorem readFrom_of_node? (h : node? text = some (n, rest)) : n.ReadFrom text := by
  obtain ⟨id, inner, l, hid, hl, rfl⟩ := node?_eq_some_iff.mp h
  obtain ⟨rfl, hword, -⟩ := identifier?_eq_some_iff.mp hid
  have hlabel := (shapedLabel?_eq_some_iff.mp hl).1
  exact {
    isIdentifier := by rwa [String.toList_ofList]
    label_isInfix := by
      rw [String.toList_ofList]
      exact List.infix_append_of_infix_right (label_infix_of_labelOf? hlabel)
    quoted := by
      intro ha
      rw [String.toList_ofList] at ha ⊢
      obtain ⟨hq, hin⟩ := quoted_of_not_arrowFree hlabel ha
      exact ⟨hq, List.mem_append_right id hin⟩
    readsBack := by
      intro hq
      rw [String.toList_ofList]
      exact shapedLabel?_wrap_of_read (fun hin => hq (List.mem_append_right id hin)) hl }

/-- Its id stands at the front of the text. -/
theorem id_isPrefix_of_node? (h : node? text = some (n, rest)) : n.id.toList <+: text := by
  obtain ⟨id, inner, l, hid, -, rfl⟩ := node?_eq_some_iff.mp h
  obtain ⟨rfl, -, -⟩ := identifier?_eq_some_iff.mp hid
  rw [String.toList_ofList]
  exact List.prefix_append id inner

/-- An identifier holds no arrow. -/
theorem arrowFree_of_isIdentifier (h : IsIdentifier word) : ArrowFree word := by
  have hpoint : '>' ∉ word := h.mark_notMem (by decide)
  exact fun s => not_infix_of_mem_of_notMem (List.mem_of_getLast? s.getLast?_arrow) hpoint

/-- And brings none in front of a text. -/
theorem arrowFree_append_iff (h : IsIdentifier word) :
    ArrowFree (word ++ text) ↔ ArrowFree text := by
  refine arrowFree_append_left_iff fun c hc => ?_
  have hchar := h.2 c hc
  exact ⟨ne_of_mem_marks (by decide) hchar, ne_of_mem_marks (by decide) hchar⟩

/-- **An implied node** reads back, whatever the identifier. -/
theorem readFrom_implied (hw : IsIdentifier word) (hp : word <:+: text) :
    (Node.implied (String.ofList word)).ReadFrom text := by
  have harrow := arrowFree_of_isIdentifier hw
  obtain ⟨c, hc, hchar⟩ := hw.head?
  have hhead : ∀ mark ∈ marks, word.head? ≠ some mark := by
    intro mark hm he
    rw [hc] at he
    exact ne_of_mem_marks hm hchar (Option.some.inj he)
  have hfront : ∀ mark ∈ marks, ∀ more : List Char, ¬ mark :: more <+: word := by
    rintro mark hm more ⟨after, he⟩
    exact hhead mark hm (by rw [← he]; rfl)
  have hadmits : Shape.rectangle.Admits word :=
    ⟨hfront '(' (by decide) [], hfront '/' (by decide) [], hfront '\\' (by decide) ['\\']⟩
  exact {
    isIdentifier := by rwa [Node.implied, String.toList_ofList]
    label_isInfix := by rwa [Node.implied, String.toList_ofList]
    quoted := by
      rw [Node.implied, String.toList_ofList]
      exact fun ha => absurd harrow ha
    readsBack := by
      intro _
      rw [Node.implied, String.toList_ofList]
      exact ⟨harrow, shapedLabel?_wrap harrow
        (Shape.not_unquotes_of_head? (hhead '"' (by decide)))
        fun r hr => Shape.not_fits_of_admits hadmits hr⟩ }

/-- What is left behind a definition is the end of the text. -/
theorem suffix_of_node? (h : node? text = some (n, rest)) : rest <:+ text := by
  obtain ⟨id, inner, l, hid, hl, -⟩ := node?_eq_some_iff.mp h
  obtain ⟨rfl, -, -⟩ := identifier?_eq_some_iff.mp hid
  exact (suffix_of_shapedLabel? hl).trans (List.suffix_append id inner)

/-! ## The definitions inside a line -/

theorem afterBars?_eq_some_iff : afterBars? text = some rest ↔
    ∃ label, text = '|' :: label ++ '|' :: rest ∧ '|' ∉ label := by
  constructor
  · intro h
    unfold afterBars? at h
    split at h
    · obtain ⟨⟨label, after⟩, hs, rfl⟩ := Option.map_eq_some_iff.mp h
      obtain ⟨rfl, hbar⟩ := splitAt?_eq_some_iff.mp hs
      exact ⟨label, rfl, hbar⟩
    · exact absurd h (by simp)
  · rintro ⟨label, rfl, hbar⟩
    have hcut : splitAt? '|' (label ++ '|' :: rest) = some (label, rest) :=
      splitAt?_eq_some_iff.mpr ⟨rfl, hbar⟩
    simp [afterBars?, hcut]

/-- A definition that is found was read from the place where it stands. -/
theorem exists_of_mem_definitionsFrom (h : n ∈ definitionsFrom atWord text) :
    ∃ piece rest, piece <:+ text ∧ node? piece = some (n, rest) := by
  fun_induction definitionsFrom atWord text with
  | case1 => exact absurd h List.not_mem_nil
  | case2 atWord c tail m rest hfound ih =>
    rcases List.mem_cons.mp h with rfl | h
    · split at hfound
      · exact ⟨c :: tail, rest, List.suffix_rfl, hfound⟩
      · exact absurd hfound (by simp)
    · obtain ⟨piece, r, hpiece, hr⟩ := ih h
      split at hfound
      · exact ⟨piece, r, hpiece.trans (suffix_of_node? hfound), hr⟩
      · exact absurd hfound (by simp)
  | case3 atWord c tail _ rest hbars ih =>
    obtain ⟨piece, r, hpiece, hr⟩ := ih h
    obtain ⟨label, he, -⟩ := afterBars?_eq_some_iff.mp hbars
    refine ⟨piece, r, hpiece.trans ?_, hr⟩
    exact ⟨'|' :: label ++ ['|'], by rw [he]; simp⟩
  | case4 atWord c tail _ _ ih =>
    obtain ⟨piece, r, hpiece, hr⟩ := ih h
    exact ⟨piece, r, hpiece.trans (List.suffix_cons c tail), hr⟩

/-- **So is a definition inside a line.** -/
theorem readFrom_of_mem_definitionsIn (h : n ∈ definitionsIn text) : n.ReadFrom text := by
  obtain ⟨piece, rest, hpiece, hn⟩ := exists_of_mem_definitionsFrom h
  exact (readFrom_of_node? hn).mono hpiece.isInfix

/-- And its id is a piece of the line. -/
theorem id_isInfix_of_mem_definitionsIn (h : n ∈ definitionsIn text) : n.id.toList <:+: text := by
  obtain ⟨piece, rest, hpiece, hn⟩ := exists_of_mem_definitionsFrom h
  exact (id_isPrefix_of_node? hn).isInfix.trans hpiece.isInfix

/-- A bar is the only character that text between bars begins with. -/
theorem afterBars?_cons_of_ne (h : c ≠ '|') (text : List Char) : afterBars? (c :: text) = none := by
  simp [afterBars?, h]

/-- One step of the scanner. -/
theorem definitionsFrom_cons (atWord : Bool) (c : Char) (tail : List Char) :
    definitionsFrom atWord (c :: tail) =
      match if atWord && isIdentifierChar c then node? (c :: tail) else none with
      | some (n, rest) => n :: definitionsFrom true rest
      | none =>
        match afterBars? (c :: tail) with
        | some rest => definitionsFrom true rest
        | none => definitionsFrom (!isIdentifierChar c) tail := by
  rw [definitionsFrom]
  split
  · rename_i hfound
    rw [hfound]
  · rename_i hfound
    rw [hfound]
    split
    · rename_i hbars
      rw [hbars]
    · rename_i hbars
      rw [hbars]

/-- **A definition at the front is found**, and the scanner goes on behind it. -/
theorem definitionsFrom_node (h : node? text = some (n, rest)) :
    definitionsFrom true text = n :: definitionsFrom true rest := by
  obtain ⟨id, inner, l, hid, -, -⟩ := node?_eq_some_iff.mp h
  obtain ⟨rfl, hword, -⟩ := identifier?_eq_some_iff.mp hid
  obtain ⟨c, hc, hchar⟩ := hword.head?
  obtain ⟨word, rfl⟩ := List.head?_eq_some_iff.mp hc
  rw [List.cons_append] at h ⊢
  rw [definitionsFrom_cons, hchar, Bool.and_true, if_pos rfl, h]

/-- In front of a character that belongs to no word it does not matter whether
a word may start. -/
theorem definitionsFrom_false (h : ∀ c, text.head? = some c → isIdentifierChar c = false) :
    definitionsFrom false text = definitionsFrom true text := by
  cases text with
  | nil => rw [definitionsFrom, definitionsFrom]
  | cons c text => simp [definitionsFrom_cons, h c rfl]

/-- Where neither a definition nor a bar stands, one character is passed over. -/
theorem definitionsFrom_skip
    (hn : atWord = true → isIdentifierChar c = true → node? (c :: text) = none) (hbar : c ≠ '|') :
    definitionsFrom atWord (c :: text) = definitionsFrom (!isIdentifierChar c) text := by
  have hfound : (if atWord && isIdentifierChar c then node? (c :: text) else none) = none := by
    simpa using hn
  rw [definitionsFrom_cons, hfound, afterBars?_cons_of_ne hbar]

/-- White space and marks other than a bar end the word before them. -/
theorem definitionsFrom_mark (hc : isIdentifierChar c = false) (hbar : c ≠ '|')
    (text : List Char) : definitionsFrom atWord (c :: text) = definitionsFrom true text := by
  have hn : atWord = true → isIdentifierChar c = true → node? (c :: text) = none := by
    intro _ hchar
    rw [hc] at hchar
    exact absurd hchar (by simp)
  rw [definitionsFrom_skip hn hbar, hc, Bool.not_false]

/-- A run of such characters is passed over. -/
theorem definitionsFrom_marks {run : List Char}
    (h : ∀ c ∈ run, isIdentifierChar c = false ∧ c ≠ '|') (text : List Char) :
    definitionsFrom true (run ++ text) = definitionsFrom true text := by
  induction run with
  | nil => rfl
  | cons c run ih =>
    obtain ⟨hc, hbar⟩ := h c List.mem_cons_self
    rw [List.cons_append, definitionsFrom_mark hc hbar]
    exact ih fun d hd => h d (List.mem_cons_of_mem _ hd)

/-- Text between bars is passed over. -/
theorem definitionsFrom_bars {label : List Char} (h : '|' ∉ label) (text : List Char) :
    definitionsFrom atWord ('|' :: label ++ '|' :: text) = definitionsFrom true text := by
  have hbars : afterBars? ('|' :: label ++ '|' :: text) = some text :=
    afterBars?_eq_some_iff.mpr ⟨label, rfl, h⟩
  have hchar : isIdentifierChar '|' = false := by decide
  rw [List.cons_append] at hbars ⊢
  rw [definitionsFrom_cons, hchar, Bool.and_false, if_neg (by simp), hbars]

/-- Within a word no definition begins. -/
theorem definitionsFrom_inside (h : ∀ c ∈ word, isIdentifierChar c = true) (text : List Char) :
    definitionsFrom false (word ++ text) = definitionsFrom false text := by
  induction word with
  | nil => rfl
  | cons c word ih =>
    have hc : isIdentifierChar c = true := h c List.mem_cons_self
    have hbar : c ≠ '|' := ne_of_mem_marks (by decide) hc
    rw [List.cons_append, definitionsFrom_skip (by simp) hbar, hc, Bool.not_true]
    exact ih fun d hd => h d (List.mem_cons_of_mem _ hd)

/-- **A word that defines nothing is passed over whole.** -/
theorem definitionsFrom_word (hw : IsIdentifier word) (hn : node? (word ++ text) = none) :
    definitionsFrom true (word ++ text) = definitionsFrom false text := by
  obtain ⟨hne, hall⟩ := hw
  cases word with
  | nil => exact absurd rfl hne
  | cons c word =>
    have hc : isIdentifierChar c = true := hall c List.mem_cons_self
    have hbar : c ≠ '|' := ne_of_mem_marks (by decide) hc
    rw [List.cons_append] at hn ⊢
    rw [definitionsFrom_skip (fun _ _ => hn) hbar, hc, Bool.not_true]
    exact definitionsFrom_inside (fun d hd => hall d (List.mem_cons_of_mem _ hd)) text

end Statement

end Flowchart
