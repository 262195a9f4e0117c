import Flowchart.Json.Record
import Flowchart.Proofs.Json.Reader

/-!
# Reading back what was written

A reader *reads* a value as something if it finds just that in front of any
text, however the value was set out (`Reads`). Each kind of reader has its law: a
list is read if its items are (`reads_list`), and a record is read from an object
if its members can be filled in one by one (`reads_record`). `Fills` follows the
members of the object and says what the record comes to: each is known and new,
its value is read, and at the end none that is required is missing.

Both run by rounds, and the text is long enough for all that they need.
-/

namespace Flowchart.Json

variable {α β : Type} {reader : Reader α} {value : Value} {style : Style} {depth : Nat}
  {blanks rest : List Char}

/-! ## What it is to read a value -/

/-- A style that sets the parts of a value apart with white space only. -/
structure Style.Lawful (s : Style) : Prop where
  newLine : ∀ depth, AllSpace (s.newLine depth)
  colon : ∃ blanks, s.colon = ':' :: blanks ∧ AllSpace blanks

theorem Style.lawful_pretty : Style.pretty.Lawful where
  newLine depth := by
    intro c hc
    rcases List.mem_cons.mp hc with rfl | hc
    · decide
    · obtain rfl := List.eq_of_mem_replicate hc
      decide
  colon := ⟨[' '], rfl, by simp [AllSpace, isSpace]⟩

/-- A value whose text ends by itself. That of a number might go on. -/
def Value.Delimited : Value → Prop
  | .number _ => False
  | _ => True

/-- Its text begins with a quotation mark or an opening bracket. -/
theorem Value.Delimited.exists_cons (h : value.Delimited) (style : Style) (depth : Nat) :
    ∃ c ∈ ['"', '[', '{'], ∃ more, write style depth value = c :: more := by
  cases value with
  | text s => exact ⟨'"', by decide, _, by rw [write, quote]; rfl⟩
  | number x => exact h.elim
  | list items =>
    refine ⟨'[', by decide, ?_⟩
    cases items <;> simp [write]
  | object members =>
    refine ⟨'{', by decide, ?_⟩
    cases members <;> simp [write]

theorem isSpace_of_mem_delimiters : ∀ c ∈ ['"', '[', '{'], isSpace c = false := by
  simp [isSpace]

/-- **The reader reads the value**, whatever the style and the depth at which it
was written, behind any white space and in front of any text. -/
structure Reads (reader : Reader α) (value : Value) (a : α) : Prop where
  delimited : value.Delimited
  eq_ok : ∀ style : Style, style.Lawful → ∀ depth blanks, AllSpace blanks → ∀ rest,
    reader (blanks ++ (write style depth value ++ rest)) = .ok (a, rest)

/-! ## Texts and words -/

theorem reads_text (s : String) : Reads readText (.text s) s where
  delimited := trivial
  eq_ok style _ depth blanks hb rest := by
    rw [write, quote_append, readText, skipSpace_append_cons hb (by decide)]
    simp [string_escape, bind, Except.bind, pure, Except.pure]

/-- A word is read as what it stands for. -/
theorem reads_word {vocabulary : List (String × α)} {word : String} {a : α}
    (h : ∀ rest, lookUp vocabulary word.toList rest = .ok a) :
    Reads (readWord vocabulary) (.text word) a where
  delimited := trivial
  eq_ok style _ depth blanks hb rest := by
    rw [write, quote_append, readWord, skipSpace_append_cons hb (by decide)]
    simp [string_escape, h, bind, Except.bind, pure, Except.pure]

/-- Where a value is optional, one that is given is read as itself. -/
theorem reads_option {a : α} (h : Reads reader value a) :
    Reads (readOption reader) value (some a) where
  delimited := h.delimited
  eq_ok style hs depth blanks hb rest := by
    obtain ⟨c, hc, more, hwrite⟩ := h.delimited.exists_cons style depth
    have hspace : isSpace c = false := isSpace_of_mem_delimiters c hc
    have hnull : c ≠ 'n' := by rintro rfl; exact absurd hc (by decide)
    have hread := h.eq_ok style hs depth [] allSpace_nil rest
    rw [List.nil_append, hwrite, List.cons_append] at hread
    rw [hwrite, List.cons_append, readOption, skipSpace_append_cons hb hspace]
    simp [hread, hnull, bind, Except.bind, pure, Except.pure]

/-! ## Lists -/

/-- Pieces of text, each behind a gap and all but the first behind a comma. -/
def separated (piece : β → List Char) (gap : List Char) (first : Bool) : List β → List Char
  | [] => []
  | b :: bs => separator first ++ (gap ++ (piece b ++ separated piece gap false bs))

theorem separated_cons_append (piece : β → List Char) (gap : List Char) (first : Bool) (b : β)
    (bs : List β) (rest : List Char) : separated piece gap first (b :: bs) ++ rest =
      separator first ++ (gap ++ (piece b ++ (separated piece gap false bs ++ rest))) := by
  simp [separated]

/-- The commas alone are as many as the pieces, but for the first. -/
theorem length_le_separated (piece : β → List Char) (gap : List Char) (first : Bool)
    (bs : List β) : bs.length ≤ (separated piece gap first bs).length + 1 := by
  have hcommas : ∀ bs, bs.length ≤ (separated piece gap false bs).length := by
    intro bs
    induction bs with
    | nil => exact Nat.zero_le _
    | cons b bs ih =>
      have hcomma : (separator false).length = 1 := rfl
      simp only [separated, List.length_cons, List.length_append, hcomma]
      omega
  cases bs with
  | nil => exact Nat.zero_le _
  | cons b bs =>
    have hbs := hcommas bs
    simp only [separated, List.length_cons, List.length_append]
    omega

theorem writeItems_eq (style : Style) (depth : Nat) (items : List Value) :
    writeItems style depth items =
      separated (write style depth) (style.newLine depth) false items := by
  induction items with
  | nil => rw [writeItems, separated]
  | cons item items ih =>
    rw [writeItems, separated, ih]
    simp [separator]

/-- The text of a list: its items between brackets. -/
theorem exists_write_list (hs : style.Lawful) (depth : Nat) (items : List Value) :
    ∃ blanks, AllSpace blanks ∧ write style depth (.list items) =
      '[' :: (separated (write style (depth + 1)) (style.newLine (depth + 1)) true items ++
        (blanks ++ [']'])) := by
  cases items with
  | nil => exact ⟨[], allSpace_nil, by rw [write]; rfl⟩
  | cons item items =>
    refine ⟨style.newLine depth, hs.newLine depth, ?_⟩
    rw [write, separated, writeItems_eq]
    simp [separator]

/-- The next item of a list begins where it was written. -/
theorem nextItem_write (hs : style.Lawful) (hd : value.Delimited) (first : Bool) :
    nextItem first (separator first ++ (style.newLine depth ++ (write style depth value ++ rest))) =
      .ok (some (write style depth value ++ rest)) := by
  obtain ⟨c, hc, more, hwrite⟩ := hd.exists_cons style depth
  have hclose : c ≠ ']' := by rintro rfl; exact absurd hc (by decide)
  rw [hwrite, List.cons_append]
  exact nextItem_separator first (hs.newLine depth) (isSpace_of_mem_delimiters c hc) hclose _

/-- **The items are read** one after the other, up to the closing bracket. -/
theorem readItems_separated (hs : style.Lawful) {toValue : α → Value} {as : List α}
    (h : ∀ a ∈ as, Reads reader (toValue a) a) (hb : AllSpace blanks) {rounds : Nat}
    (hr : as.length < rounds) (first : Bool) :
    readItems reader rounds first
        (separated (write style depth) (style.newLine depth) first (as.map toValue) ++
          (blanks ++ ']' :: rest)) =
      .ok (as, rest) := by
  induction as generalizing rounds first with
  | nil =>
    cases rounds with
    | zero => exact absurd hr (by omega)
    | succ rounds =>
      rw [readItems, List.map_nil, separated, List.nil_append, nextItem_close first hb]
      simp [endOfList_close hb, bind, Except.bind, pure, Except.pure]
  | cons a as ih =>
    cases rounds with
    | zero => exact absurd hr (by omega)
    | succ rounds =>
      have hread := h a List.mem_cons_self
      have hmore := ih (fun b hb => h b (List.mem_cons_of_mem a hb))
        (show as.length < rounds by simpa using hr) false
      have hvalue := hread.eq_ok style hs depth [] allSpace_nil
        (separated (write style depth) (style.newLine depth) false (as.map toValue) ++
          (blanks ++ ']' :: rest))
      rw [List.nil_append] at hvalue
      rw [List.map_cons, separated_cons_append, readItems, nextItem_write hs hread.delimited]
      simp only [bind, Except.bind, hvalue, hmore]
      rfl

/-- **A list is read** if its items are. -/
theorem reads_list {toValue : α → Value} {as : List α}
    (h : ∀ a ∈ as, Reads reader (toValue a) a) :
    Reads (readList reader) (.list (as.map toValue)) as where
  delimited := trivial
  eq_ok style hs depth blanks hb rest := by
    obtain ⟨closing, hclosing, hwrite⟩ := exists_write_list hs depth (as.map toValue)
    have hlength : as.length < (separated (write style (depth + 1)) (style.newLine (depth + 1)) true
        (as.map toValue) ++ (closing ++ ']' :: rest)).length + 1 := by
      have := length_le_separated (write style (depth + 1)) (style.newLine (depth + 1)) true
        (as.map toValue)
      simp only [List.length_map, List.length_append, List.length_cons] at this ⊢
      omega
    rw [hwrite, readList, List.cons_append, skipSpace_append_cons hb (by decide)]
    simpa using readItems_separated hs h hclosing hlength true

/-! ## Records -/

theorem writeMembers_eq (style : Style) (depth : Nat) (members : List (String × Value)) :
    writeMembers style depth members =
      separated (writeMember style depth) (style.newLine depth) false members := by
  induction members with
  | nil => rw [writeMembers, separated]
  | cons member members ih =>
    rw [writeMembers, separated, ih]
    simp [separator]

/-- The text of an object: its members between braces. -/
theorem exists_write_object (hs : style.Lawful) (depth : Nat) (members : List (String × Value)) :
    ∃ blanks, AllSpace blanks ∧ write style depth (.object members) =
      '{' :: (separated (writeMember style (depth + 1)) (style.newLine (depth + 1)) true members ++
        (blanks ++ ['}'])) := by
  cases members with
  | nil => exact ⟨[], allSpace_nil, by rw [write]; rfl⟩
  | cons member members =>
    refine ⟨style.newLine depth, hs.newLine depth, ?_⟩
    rw [write, separated, writeMembers_eq]
    simp [separator]

theorem writeMember_append (name : String) (value : Value) (rest : List Char) :
    writeMember style depth (name, value) ++ rest =
      quote name.toList ++ (style.colon ++ (write style depth value ++ rest)) := by
  simp [writeMember]

/-- The value of a member is read if its reader reads it. -/
theorem reads_member {b : β} {reader : Reader β} (name : String) (required : Bool)
    (store : β → α → α) (h : Reads reader value b) :
    Reads (Member.of name required reader store).read value (store b) where
  delimited := h.delimited
  eq_ok style hs depth blanks hb rest := by
    simp [Member.of, h.eq_ok style hs depth blanks hb rest, bind, Except.bind, pure, Except.pure]

/-- **The members of an object fill in a record**, from what it is when some are
given to what it comes to. -/
inductive Fills (s : Schema α) : List String → α → List (String × Value) → α → Prop
  /-- No required member is missing. -/
  | done {given : List String} {a : α} :
      (∀ m ∈ s.members, m.required = true → m.name ∈ given) → Fills s given a [] a
  /-- The record has the member, it is new, and its value is read. -/
  | member {given : List String} {a b : α} {m : Member α} {value : Value} {update : α → α}
      {members : List (String × Value)} :
      m ∈ s.members → m.name ∉ given → Reads m.read value update →
      Fills s (m.name :: given) (update a) members b →
      Fills s given a ((m.name, value) :: members) b

variable {s : Schema α}

/-- A member is found by its name, if no other has the same. -/
theorem find?_name (hn : (s.members.map (·.name)).Nodup) {m : Member α} (hm : m ∈ s.members) :
    (s.members.find? fun m' => m'.name.toList == m.name.toList) = some m := by
  obtain ⟨before, after, hsplit⟩ := List.append_of_mem hm
  rw [hsplit, List.map_append, List.map_cons, List.nodup_append] at hn
  refine List.find?_eq_some_iff_append.mpr ⟨by simp, before, after, hsplit, fun m' hm' => ?_⟩
  have hname : m'.name ≠ m.name := hn.2.2 _ (List.mem_map_of_mem hm') _ List.mem_cons_self
  simpa [String.toList_inj] using hname

/-- Behind the closing brace the text goes on. -/
theorem behindBrace_close (hb : AllSpace blanks) (rest : List Char) :
    behindBrace (blanks ++ '}' :: rest) = rest := by
  rw [behindBrace, skipSpace_append_cons hb (by decide)]
  rfl

/-- The text behind the name of a member, up to its value. -/
theorem exists_colon_style (hs : style.Lawful) :
    ∃ blanks, AllSpace blanks ∧ ∀ rest, colon (style.colon ++ rest) = .ok (blanks ++ rest) := by
  obtain ⟨blanks, hcolon, hb⟩ := hs.colon
  refine ⟨blanks, hb, fun rest => ?_⟩
  have hskip : skipSpace (':' :: (blanks ++ rest)) = ':' :: (blanks ++ rest) :=
    skipSpace_append_cons allSpace_nil (by decide) _
  rw [hcolon, List.cons_append, colon, hskip]
  rfl

/-- **The members are read** one after the other, up to the closing brace. -/
theorem readByName_separated (hs : style.Lawful) (hn : (s.members.map (·.name)).Nodup)
    {given : List String} {a b : α} {members : List (String × Value)}
    (h : Fills s given a members b) (hb : AllSpace blanks) {rounds : Nat}
    (hr : members.length < rounds) :
    readByName s rounds given a
        (separated (writeMember style depth) (style.newLine depth) given.isEmpty members ++
          (blanks ++ '}' :: rest)) =
      .ok (b, rest) := by
  induction h generalizing rounds with
  | @done given a hgiven =>
    cases rounds with
    | zero => exact absurd hr (by omega)
    | succ rounds =>
      have hmissing : (s.members.find? fun m => m.required && !given.contains m.name) = none := by
        rw [List.find?_eq_none]
        intro m hm
        simpa using hgiven m hm
      rw [readByName, separated, List.nil_append, nextName_close given.isEmpty hb]
      simp only [bind, Except.bind, behindBrace_close hb, hmissing]
      rfl
  | @member given a b m value update members hm hnew hread h ih =>
    cases rounds with
    | zero => exact absurd hr (by omega)
    | succ rounds =>
      have hmore := ih (show members.length < rounds by simpa using hr)
      obtain ⟨gap, hgap, hcolon⟩ := exists_colon_style hs
      have hvalue := hread.eq_ok style hs depth gap hgap
        (separated (writeMember style depth) (style.newLine depth) false members ++
          (blanks ++ '}' :: rest))
      rw [separated_cons_append, writeMember_append, readByName,
        nextName_separator given.isEmpty (hs.newLine depth)]
      simp only [bind, Except.bind, find?_name hn hm, hcolon, hvalue]
      rw [if_neg (by simpa using hnew)]
      exact hmore

/-- **A record is read** from an object whose members fill it in. -/
theorem reads_record (hn : (s.members.map (·.name)).Nodup) {a : α}
    {members : List (String × Value)} (h : Fills s [] s.blank members a) :
    Reads (readRecord s) (.object members) a where
  delimited := trivial
  eq_ok style hs depth blanks hb rest := by
    obtain ⟨closing, hclosing, hwrite⟩ := exists_write_object hs depth members
    have hlength : members.length < (separated (writeMember style (depth + 1))
        (style.newLine (depth + 1)) true members ++ (closing ++ '}' :: rest)).length + 1 := by
      have := length_le_separated (writeMember style (depth + 1)) (style.newLine (depth + 1)) true
        members
      simp only [List.length_append, List.length_cons]
      omega
    rw [hwrite, readRecord, List.cons_append, skipSpace_append_cons hb (by decide)]
    simpa using readByName_separated hs hn h hclosing hlength

/-! ## Whole texts -/

/-- **A written value is read back**, with white space behind it or without. -/
theorem readAll_render {a : α} (h : Reads reader value a) (hs : style.Lawful)
    (hb : AllSpace blanks) :
    readAll reader (render style value ++ String.ofList blanks) = .ok a := by
  have hread := h.eq_ok style hs 0 [] allSpace_nil blanks
  have htext : (render style value ++ String.ofList blanks).toList = write style 0 value ++ blanks := by
    simp [render]
  rw [List.nil_append] at hread
  simp only [readAll, htext, bind, Except.bind, hread, skipSpace_eq_nil hb]
  rfl

end Flowchart.Json
