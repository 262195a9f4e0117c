import Flowchart.Json.Fault

/-!
# Reading the parts of JSON

Reading goes from left to right and stops at the first fault. A `Reader`
takes the unread text and answers with what it has read and the text behind
it.

This module holds what all readers share: white space, the words `null`,
`true` and `false`, and strings with their escapes. `string` starts behind
the opening quotation mark. A character beyond the basic plane may be
escaped as a pair of surrogates; a surrogate without its partner is a fault.
-/

namespace Flowchart.Json

/-- A way of reading values: from the unread text to a value and the text
behind it, or to a fault. -/
abbrev Reader (α : Type) := List Char → Except Fault (α × List Char)

/-- The fault at the front of the unread text. -/
def faultAt {α : Type} (cause : Cause) (unread : List Char) : Except Fault α :=
  .error ⟨cause, unread, 0⟩

/-- The fault in the next byte of the unread text. -/
def faultIn {α : Type} (cause : Cause) (unread : List Char) : Except Fault α :=
  .error ⟨cause, unread, 1⟩

/-- JSON white space. -/
def isSpace (c : Char) : Bool :=
  c == ' ' || c == '\n' || c == '\t' || c == '\r'

/-- The text without the white space at its front. -/
def skipSpace (input : List Char) : List Char :=
  input.dropWhile isSpace

/-- The text behind the given letters. -/
def expectLetters : List Char → List Char → Except Fault (List Char)
  | [], input => .ok input
  | _ :: _, [] => faultAt .endInValue []
  | letter :: letters, c :: input =>
    if c = letter then expectLetters letters input else faultIn .expectedWord (c :: input)

/-- The value of a hexadecimal digit. -/
def hexValue? (c : Char) : Option Nat :=
  if c.isDigit then some (c.toNat - '0'.toNat)
  else if 'a' ≤ c ∧ c ≤ 'f' then some (c.toNat - 'a'.toNat + 10)
  else if 'A' ≤ c ∧ c ≤ 'F' then some (c.toNat - 'A'.toNat + 10)
  else none

/-- The value of four hexadecimal digits. -/
def hexValue4? (a b c d : Char) : Option Nat := do
  return (((← hexValue? a) * 16 + (← hexValue? b)) * 16 + (← hexValue? c)) * 16 +
    (← hexValue? d)

/-- The four bytes at the front of the text as a hexadecimal number. -/
def hexUnit (input : List Char) : Except Fault (Nat × List Char) :=
  match input with
  | a :: b :: c :: d :: rest =>
    match hexValue4? a b c d with
    | some unit => .ok (unit, rest)
    | none => .error ⟨.badEscape, input, 4⟩
  | _ =>
    if input.foldr (fun c bytes => c.utf8Size + bytes) 0 < 4 then faultAt .endInText []
    else .error ⟨.badEscape, input, 4⟩

/-- Whether a unit is the first of a surrogate pair. -/
def isHighSurrogate (unit : Nat) : Bool := 0xD800 ≤ unit && unit ≤ 0xDBFF

/-- Whether a unit is the second of a surrogate pair. -/
def isLowSurrogate (unit : Nat) : Bool := 0xDC00 ≤ unit && unit ≤ 0xDFFF

/-- The character of a surrogate pair. -/
def pairChar (high low : Nat) : Char :=
  Char.ofNat ((high - 0xD800) * 0x400 + (low - 0xDC00) + 0x10000)

/-- The character escaped by hexadecimal digits, behind the letter `u`. -/
def hexChar (input : List Char) : Except Fault (Char × List Char) := do
  let (unit, rest) ← hexUnit input
  if isLowSurrogate unit then faultAt .loneSurrogate rest
  else if isHighSurrogate unit then
    match rest with
    | [] => faultAt .endInText []
    | '\\' :: 'u' :: rest => do
      let (low, rest) ← hexUnit rest
      if isLowSurrogate low then return (pairChar unit low, rest)
      else faultAt .loneSurrogate rest
    | ['\\'] => faultAt .endInText []
    | '\\' :: rest => faultIn .unpairedSurrogate rest
    | rest => faultIn .unpairedSurrogate rest
  else return (Char.ofNat unit, rest)

/-- The character that a letter stands for behind a backslash. -/
def escaped? (c : Char) : Option Char :=
  match c with
  | '"' => some '"'
  | '\\' => some '\\'
  | '/' => some '/'
  | 'b' => some '\x08'
  | 'f' => some '\x0c'
  | 'n' => some '\n'
  | 'r' => some '\r'
  | 't' => some '\t'
  | _ => none

/-- An escaped character, behind the backslash. -/
def escapedChar (input : List Char) : Except Fault (Char × List Char) :=
  match input with
  | [] => faultAt .endInText []
  | 'u' :: rest => hexChar rest
  | c :: rest =>
    match escaped? c with
    | some e => .ok (e, rest)
    | none => faultIn .badEscape input

theorem length_lt_of_hexUnit {input rest : List Char} {unit : Nat}
    (h : hexUnit input = .ok (unit, rest)) : rest.length < input.length := by
  unfold hexUnit at h
  split at h
  · split at h
    · obtain ⟨_, rfl⟩ := Prod.mk.inj (Except.ok.inj h)
      simp only [List.length_cons]; omega
    · simp at h
  · split at h <;> simp [faultAt] at h

theorem length_lt_of_hexChar {input rest : List Char} {c : Char}
    (h : hexChar input = .ok (c, rest)) : rest.length < input.length := by
  unfold hexChar at h
  cases hu : hexUnit input with
  | error f => simp [hu, bind, Except.bind] at h
  | ok p =>
    obtain ⟨unit, r⟩ := p
    have hr := length_lt_of_hexUnit hu
    simp only [hu, bind, Except.bind, pure, Except.pure, faultAt, faultIn] at h
    split at h
    · simp at h
    · split at h
      · split at h
        · simp at h
        · rename_i r'
          cases hl : hexUnit r' with
          | error f => simp [hl] at h
          | ok p =>
            obtain ⟨low, r''⟩ := p
            have hr' := length_lt_of_hexUnit hl
            simp only [hl] at h
            split at h
            · obtain ⟨_, rfl⟩ := Prod.mk.inj (Except.ok.inj h)
              simp only [List.length_cons] at hr
              omega
            · simp at h
        all_goals simp at h
      · obtain ⟨_, rfl⟩ := Prod.mk.inj (Except.ok.inj h)
        exact hr

/-- Reading an escape uses up text. -/
theorem length_lt_of_escapedChar {input rest : List Char} {c : Char}
    (h : escapedChar input = .ok (c, rest)) : rest.length < input.length := by
  unfold escapedChar at h
  split at h
  · simp [faultAt] at h
  · have := length_lt_of_hexChar h
    simp only [List.length_cons]; omega
  · split at h
    · obtain ⟨_, rfl⟩ := Prod.mk.inj (Except.ok.inj h)
      simp
    · simp [faultIn] at h

/-- The text of a string, behind the opening quotation mark. -/
def string (input : List Char) : Except Fault (List Char × List Char) :=
  match input with
  | [] => faultAt .endInText []
  | c :: rest =>
    if c = '"' then .ok ([], rest)
    else if c = '\\' then
      match _escape : escapedChar rest with
      | .ok (e, beyond) => do
        let (read, rest) ← string beyond
        return (e :: read, rest)
      | .error f => .error f
    else if c.toNat < 0x20 then faultIn .controlCharacter input
    else do
      let (read, rest) ← string rest
      return (c :: read, rest)
termination_by input.length
decreasing_by
  · have := length_lt_of_escapedChar _escape
    simp only [List.length_cons]; omega
  · simp

/-- The items of a list or the members of an object are separated by commas.
In front of an item: whether there is one, and if so the text from it on.
At the end the closing bracket is still unread. -/
def nextItem (first : Bool) (input : List Char) : Except Fault (Option (List Char)) :=
  match skipSpace input with
  | [] => faultAt .endInList []
  | ']' :: _ => .ok none
  | ',' :: rest =>
    if first then .ok (some (',' :: rest))
    else
      match skipSpace rest with
      | [] => faultAt .endInValue []
      | ']' :: beyond => faultIn .trailingComma (']' :: beyond)
      | beyond => .ok (some beyond)
  | c :: rest =>
    if first then .ok (some (c :: rest)) else faultIn .expectedCommaOrBracket (c :: rest)

/-- The text behind the end of a list that has all its items. -/
def endOfList (input : List Char) : Except Fault (List Char) :=
  match skipSpace input with
  | [] => faultAt .endInList []
  | ']' :: rest => .ok rest
  | ',' :: rest =>
    match skipSpace rest with
    | ']' :: beyond => faultIn .trailingComma (']' :: beyond)
    | beyond => faultIn .trailingCharacters beyond
  | other => faultIn .trailingCharacters other

/-- The name of the next member of an object, if there is one, and the text
behind it. At the end the closing brace is still unread. -/
def nextName (first : Bool) (input : List Char) :
    Except Fault (Option (List Char × List Char)) :=
  match skipSpace input with
  | [] => faultAt .endInObject []
  | '}' :: _ => .ok none
  | '"' :: rest =>
    if first then (string rest).map some
    else faultIn .expectedCommaOrBrace ('"' :: rest)
  | ',' :: rest =>
    if first then faultIn .nameNotText (',' :: rest)
    else
      match skipSpace rest with
      | [] => faultAt .endInValue []
      | '"' :: beyond => (string beyond).map some
      | '}' :: beyond => faultIn .trailingComma ('}' :: beyond)
      | beyond => faultIn .nameNotText beyond
  | other => faultIn (if first then .nameNotText else .expectedCommaOrBrace) other

/-- The text behind the colon that follows a name. -/
def colon (input : List Char) : Except Fault (List Char) :=
  match skipSpace input with
  | [] => faultAt .endInObject []
  | ':' :: rest => .ok rest
  | other => faultIn .expectedColon other

end Flowchart.Json
