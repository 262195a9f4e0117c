import Flowchart.Json.Reader

/-!
# Reading back the parts of JSON

A text is read back from its JSON string, whatever characters it is made of
(`string_escape`): each is written as itself or as an escape that stands for it
(`escape_cases`). White space is passed over in front of every part, so what
separates the items of a list and the members of an object may be set off by any
of it.
-/

namespace Flowchart.Json

variable {blanks text rest : List Char} {c : Char}

/-! ## White space -/

/-- A run of JSON white space. It may be empty. -/
def AllSpace (blanks : List Char) : Prop :=
  ∀ c ∈ blanks, isSpace c = true

theorem allSpace_nil : AllSpace [] := by
  simp [AllSpace]

/-- White space is passed over, up to the first other character. -/
theorem skipSpace_append_cons (h : AllSpace blanks) (hc : isSpace c = false) (rest : List Char) :
    skipSpace (blanks ++ c :: rest) = c :: rest := by
  rw [skipSpace, List.dropWhile_append_of_pos h, List.dropWhile_cons_of_neg (by simp [hc])]

theorem skipSpace_eq_nil (h : AllSpace blanks) : skipSpace blanks = [] := by
  have hall : (blanks ++ []).dropWhile isSpace = [] := List.dropWhile_append_of_pos h
  rwa [List.append_nil] at hall

/-! ## Strings -/

/-- A digit is read as what it was written for. -/
theorem hexValue?_hexDigit : ∀ n < 16, hexValue? (hexDigit n) = some n := by
  decide

/-- Two digits behind two zeros spell a number that fits into them. -/
theorem hexUnit_hexDigit {n : Nat} (h : n < 256) (rest : List Char) :
    hexUnit ('0' :: '0' :: hexDigit (n / 16) :: hexDigit (n % 16) :: rest) = .ok (n, rest) := by
  have hzero : hexValue? '0' = some 0 := hexValue?_hexDigit 0 (by omega)
  have hhigh : hexValue? (hexDigit (n / 16)) = some (n / 16) := hexValue?_hexDigit _ (by omega)
  have hlow : hexValue? (hexDigit (n % 16)) = some (n % 16) := hexValue?_hexDigit _ (by omega)
  have hvalue : hexValue4? '0' '0' (hexDigit (n / 16)) (hexDigit (n % 16)) = some n := by
    have hsum : n / 16 * 16 + n % 16 = n := by omega
    simp [hexValue4?, hzero, hhigh, hlow, hsum]
  rw [hexUnit, hvalue]

/-- So a control character is read back from its code. -/
theorem hexChar_hexDigit (h : c.toNat < 0x20) (rest : List Char) :
    hexChar ('0' :: '0' :: hexDigit (c.toNat / 16) :: hexDigit (c.toNat % 16) :: rest) =
      .ok (c, rest) := by
  have hlow : isLowSurrogate c.toNat = false := by
    simp [isLowSurrogate]
    omega
  have hhigh : isHighSurrogate c.toNat = false := by
    simp [isHighSurrogate]
    omega
  rw [hexChar, hexUnit_hexDigit (by omega)]
  simp [bind, Except.bind, pure, Except.pure, hlow, hhigh, Char.ofNat_toNat]

/-- **A character is written as itself or as an escape that is read as it.** -/
theorem escape_cases (c : Char) :
    (escape c = [c] ∧ c ≠ '"' ∧ c ≠ '\\' ∧ ¬ c.toNat < 0x20) ∨
      ∃ code, escape c = '\\' :: code ∧ ∀ rest, escapedChar (code ++ rest) = .ok (c, rest) := by
  unfold escape
  split
  · exact Or.inr ⟨['"'], rfl, fun _ => rfl⟩
  · exact Or.inr ⟨['\\'], rfl, fun _ => rfl⟩
  · exact Or.inr ⟨['n'], rfl, fun _ => rfl⟩
  · exact Or.inr ⟨['r'], rfl, fun _ => rfl⟩
  · exact Or.inr ⟨['t'], rfl, fun _ => rfl⟩
  · exact Or.inr ⟨['b'], rfl, fun _ => rfl⟩
  · exact Or.inr ⟨['f'], rfl, fun _ => rfl⟩
  · split
    · rename_i hcontrol
      exact Or.inr ⟨_, rfl, hexChar_hexDigit hcontrol⟩
    · rename_i hquote hbackslash _ _ _ _ _ hplain
      exact Or.inl ⟨rfl, hquote, hbackslash, hplain⟩

/-- One character of a string. -/
theorem string_escape_append (c : Char) {read : List Char} (h : string text = .ok (read, rest)) :
    string (escape c ++ text) = .ok (c :: read, rest) := by
  rcases escape_cases c with ⟨he, hquote, hbackslash, hplain⟩ | ⟨code, he, hcode⟩
  · rw [he, List.singleton_append, string, if_neg hquote, if_neg hbackslash, if_neg hplain, h]
    rfl
  · rw [he, List.cons_append, string, if_neg (by decide), if_pos rfl]
    split
    · rename_i e beyond hescape
      obtain ⟨rfl, rfl⟩ := Prod.mk.inj (Except.ok.inj ((hcode text).symm.trans hescape))
      rw [h]
      rfl
    · rename_i f hescape
      rw [hcode] at hescape
      exact absurd hescape (by simp)

/-- **A text is read back from its JSON string.** -/
theorem string_escape (text rest : List Char) :
    string (text.flatMap escape ++ '"' :: rest) = .ok (text, rest) := by
  induction text with
  | nil => rw [List.flatMap_nil, List.nil_append, string, if_pos rfl]
  | cons c text ih =>
    rw [List.flatMap_cons, List.append_assoc]
    exact string_escape_append c ih

theorem quote_append (text rest : List Char) :
    quote text ++ rest = '"' :: (text.flatMap escape ++ '"' :: rest) := by
  simp [quote]

/-! ## Lists and objects -/

/-- What stands in front of an item or a member: a comma, unless it is the first. -/
def separator (first : Bool) : List Char :=
  if first then [] else [',']

/-- The next item begins at its first character, which is no white space and does
not close the list. -/
theorem nextItem_separator (first : Bool) (h : AllSpace blanks) (hc : isSpace c = false)
    (hclose : c ≠ ']') (rest : List Char) :
    nextItem first (separator first ++ (blanks ++ c :: rest)) = .ok (some (c :: rest)) := by
  cases first with
  | true =>
    rw [nextItem, separator, if_pos rfl, List.nil_append, skipSpace_append_cons h hc]
    by_cases hcomma : c = ','
    · subst hcomma
      rfl
    · simp
  | false =>
    have hskip : skipSpace (',' :: (blanks ++ c :: rest)) = ',' :: (blanks ++ c :: rest) :=
      skipSpace_append_cons allSpace_nil (by decide) _
    rw [nextItem, separator, if_neg (by decide), List.singleton_append, hskip]
    simp [skipSpace_append_cons h hc, hclose]

/-- There is no next item in front of the closing bracket, -/
theorem nextItem_close (first : Bool) (h : AllSpace blanks) (rest : List Char) :
    nextItem first (blanks ++ ']' :: rest) = .ok none := by
  rw [nextItem, skipSpace_append_cons h (by decide)]
  rfl

/-- and the list ends there. -/
theorem endOfList_close (h : AllSpace blanks) (rest : List Char) :
    endOfList (blanks ++ ']' :: rest) = .ok rest := by
  rw [endOfList, skipSpace_append_cons h (by decide)]
  rfl

/-- The name of the next member is read back. -/
theorem nextName_separator (first : Bool) (h : AllSpace blanks) (name rest : List Char) :
    nextName first (separator first ++ (blanks ++ (quote name ++ rest))) =
      .ok (some (name, rest)) := by
  rw [quote_append]
  have hquote : isSpace '"' = false := by decide
  cases first with
  | true =>
    rw [nextName, separator, if_pos rfl, List.nil_append, skipSpace_append_cons h hquote]
    simp [string_escape, Except.map]
  | false =>
    have hskip : ∀ more, skipSpace (',' :: more) = ',' :: more :=
      skipSpace_append_cons allSpace_nil (by decide)
    rw [nextName, separator, if_neg (by decide), List.singleton_append, hskip]
    simp [skipSpace_append_cons h hquote, string_escape, Except.map]

theorem nextName_close (first : Bool) (h : AllSpace blanks) (rest : List Char) :
    nextName first (blanks ++ '}' :: rest) = .ok none := by
  rw [nextName, skipSpace_append_cons h (by decide)]
  rfl

end Flowchart.Json
