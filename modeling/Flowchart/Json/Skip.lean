import Flowchart.Json.Reader

/-!
# Passing over JSON values

The value of a member that means nothing here is passed over, but it has to
be well formed. However deep it is, the lists and objects that are open
around the reader are kept in a list of frames: `closeFrames` leaves those
that end behind a value, and `skipFrames` goes on to the next value inside
those that stay open.

Numbers are passed over by their digits alone, so none is out of range here,
and escapes of lone surrogates do not matter either.
-/

namespace Flowchart.Json

/-- A list or an object that is open. -/
inductive Frame where
  | list
  | object
  deriving DecidableEq

namespace Frame

/-- What opens with a bracket. -/
def opening? (c : Char) : Option Frame :=
  if c = '[' then some list else if c = '{' then some object else none

/-- The bracket that closes a frame. -/
def closer : Frame → Char
  | list => ']'
  | object => '}'

/-- What is wrong if the text ends inside the frame. -/
def atEnd : Frame → Cause
  | list => .endInList
  | object => .endInObject

/-- What is wrong if neither a comma nor the closing bracket follows. -/
def expectedComma : Frame → Cause
  | list => .expectedCommaOrBracket
  | object => .expectedCommaOrBrace

end Frame

/-- Passes over an escape, behind the backslash. -/
def skipEscape (input : List Char) : Except Fault (List Char) :=
  match input with
  | [] => faultAt .endInText []
  | 'u' :: rest => (hexUnit rest).map (·.2)
  | c :: rest => if (escaped? c).isSome then .ok rest else faultIn .badEscape input

theorem length_lt_of_skipEscape {input rest : List Char} (h : skipEscape input = .ok rest) :
    rest.length < input.length := by
  unfold skipEscape at h
  split at h
  · simp [faultAt] at h
  · rename_i tail
    cases hu : hexUnit tail with
    | error f => simp [hu, Except.map] at h
    | ok p =>
      obtain ⟨unit, r⟩ := p
      have := length_lt_of_hexUnit hu
      simp only [hu, Except.map, Except.ok.injEq] at h
      subst h
      simp only [List.length_cons]; omega
  · split at h
    · rw [← Except.ok.inj h]; simp
    · simp [faultIn] at h

/-- Passes over a string, behind the opening quotation mark. -/
def skipString (input : List Char) : Except Fault (List Char) :=
  match input with
  | [] => faultAt .endInText []
  | c :: rest =>
    if c = '"' then .ok rest
    else if c = '\\' then
      match _escape : skipEscape rest with
      | .ok beyond => skipString beyond
      | .error f => .error f
    else if c.toNat < 0x20 then faultAt .controlCharacter input
    else skipString rest
termination_by input.length
decreasing_by
  · have := length_lt_of_skipEscape _escape
    simp only [List.length_cons]; omega
  · simp

/-- Passes over an exponent, behind the letter that announces it. -/
def skipExponent (input : List Char) : Except Fault (List Char) :=
  let input := match input with
    | '+' :: rest => rest
    | '-' :: rest => rest
    | other => other
  if input.head?.any Char.isDigit then .ok (input.dropWhile Char.isDigit)
  else faultIn .badNumber input

/-- Passes over an exponent if there is one. -/
def skipScale (input : List Char) : Except Fault (List Char) :=
  match input with
  | 'e' :: rest => skipExponent rest
  | 'E' :: rest => skipExponent rest
  | rest => .ok rest

/-- Passes over a number, behind its sign. -/
def skipNumber (input : List Char) : Except Fault (List Char) :=
  match input with
  | [] => faultAt .badNumber []
  | c :: tail =>
    if !c.isDigit then faultIn .badNumber input
    else if c = '0' && tail.head?.any Char.isDigit then faultIn .badNumber tail
    else
      match input.dropWhile Char.isDigit with
      | '.' :: rest =>
        if rest.head?.any Char.isDigit then skipScale (rest.dropWhile Char.isDigit)
        else faultIn .badNumber rest
      | rest => skipScale rest

/-- Passes over a value that is neither a list nor an object. -/
def skipScalar (input : List Char) : Except Fault (List Char) :=
  match input with
  | 'n' :: rest => expectLetters ['u', 'l', 'l'] rest
  | 't' :: rest => expectLetters ['r', 'u', 'e'] rest
  | 'f' :: rest => expectLetters ['a', 'l', 's', 'e'] rest
  | '-' :: rest => skipNumber rest
  | '"' :: rest => skipString rest
  | c :: rest => if c.isDigit then skipNumber (c :: rest) else faultIn .expectedValue (c :: rest)
  | [] => faultAt .endInValue []

/-- Passes over what stands before the value of an item: in an object its
name and the colon. -/
def skipName (frame : Frame) (input : List Char) : Except Fault (List Char) :=
  match frame with
  | .list => .ok input
  | .object =>
    match skipSpace input with
    | [] => faultAt .endInObject []
    | '"' :: rest => do colon (← skipString rest)
    | other => faultIn .nameNotText other

/-- Behind a value: leaves the frames that end there. If one stays open, the
comma in it is passed over. -/
def closeFrames : List Frame → List Char → Except Fault (List Frame × List Char)
  | [], input => .ok ([], input)
  | frame :: frames, input =>
    match skipSpace input with
    | [] => faultAt frame.atEnd []
    | c :: rest =>
      if c = ',' then .ok (frame :: frames, rest)
      else if c = frame.closer then closeFrames frames rest
      else faultIn frame.expectedComma (c :: rest)

/-- Passes over the rest of a value inside some frames, in front of a value.
Every round passes over at least one character. -/
def skipFrames (rounds : Nat) (frames : List Frame) (input : List Char) :
    Except Fault (List Char) :=
  match rounds with
  | 0 => faultAt .endInValue input
  | rounds + 1 => do
    let (frames, rest) ←
      match skipSpace input with
      | [] => faultAt .endInValue []
      | c :: rest =>
        match Frame.opening? c with
        | none => do closeFrames frames (← skipScalar (c :: rest))
        | some frame =>
          match skipSpace rest with
          | [] => faultAt frame.atEnd []
          | d :: beyond =>
            if d = frame.closer then closeFrames frames beyond
            else .ok (frame :: frames, d :: beyond)
    match frames with
    | [] => return rest
    | frame :: _ => skipFrames rounds frames (← skipName frame rest)

/-- Passes over a value of any kind. -/
def skipValue (input : List Char) : Except Fault (List Char) :=
  skipFrames (input.length + 1) [] input

end Flowchart.Json
