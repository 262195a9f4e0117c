import Flowchart.Json.Value
import Flowchart.Text.Quoted

/-!
# What is wrong with a JSON text

A reader stops at the first thing that is wrong and reports a `Fault`: the
cause, and the place, given by the text still unread. From the whole text
the place is counted as a line and a column. Columns count bytes.

`Cause.message` holds the wording of every cause.
-/

namespace Flowchart.Json

/-- A value found where another kind of value is expected. -/
inductive Found where
  | null
  | truth (value : Bool)
  | whole (value : Int)
  | real (value : Float)
  | text (value : List Char)
  | list
  | object

/-- Why a text cannot be read. -/
inductive Cause where
  | endInList
  | endInObject
  | endInText
  | endInValue
  | expectedColon
  | expectedCommaOrBracket
  | expectedCommaOrBrace
  | expectedWord
  | expectedValue
  | badEscape
  | badNumber
  | numberOutOfRange
  | controlCharacter
  | nameNotText
  | loneSurrogate
  | unpairedSurrogate
  | trailingComma
  | trailingCharacters
  /-- A value of another kind than the one described. -/
  | wrongKind (found : Found) (expected : String)
  /-- A word that is not in the vocabulary. -/
  | unknownWord (word : List Char) (vocabulary : List String)
  | missingMember (name : String)
  | repeatedMember (name : String)
  /-- A list of so few items where a record of so many members is expected. -/
  | tooShort (items : Nat) (record : String) (members : Nat)

/-- A cause, and the place at which it arose: so many bytes into the text
that was still unread. -/
structure Fault where
  cause : Cause
  unread : List Char
  past : Nat := 0

/-- A place in a text: the number of its line, from one, and the number of
bytes before it on the line. -/
structure Place where
  line : Nat := 1
  column : Nat := 0
  deriving DecidableEq

namespace Place

/-- The place behind a character. -/
def behind (p : Place) (c : Char) : Place :=
  if c = '\n' then ⟨p.line + 1, 0⟩ else ⟨p.line, p.column + c.utf8Size⟩

/-- The place so many bytes further on in a text. -/
def advance (p : Place) : Nat → List Char → Place
  | _, [] => p
  | bytes, c :: text =>
    if c.utf8Size ≤ bytes then advance (p.behind c) (bytes - c.utf8Size) text
    else ⟨p.line, p.column + bytes⟩

end Place

/-- The place of a fault in the whole text. -/
def Fault.place (f : Fault) (text : List Char) : Place :=
  let read := text.take (text.length - f.unread.length)
  (read.foldl Place.behind {}).advance f.past f.unread

namespace Found

/-- The value in words. -/
def describe : Found → List Char
  | .null => "null".toList
  | .truth value => "boolean `".toList ++ (toString value).toList ++ ['`']
  | .whole value => "integer `".toList ++ (toString value).toList ++ ['`']
  | .real value => "floating point `".toList ++ double value ++ ['`']
  | .text value => "string ".toList ++ Text.quoted value
  | .list => "sequence".toList
  | .object => "map".toList

end Found

namespace Cause

/-- The words of a vocabulary, each between backquotes. -/
def listed (vocabulary : List String) : List Char :=
  [',', ' '].intercalate (vocabulary.map fun word => '`' :: word.toList ++ ['`'])

/-- The cause in words. -/
def message : Cause → List Char
  | endInList => "EOF while parsing a list".toList
  | endInObject => "EOF while parsing an object".toList
  | endInText => "EOF while parsing a string".toList
  | endInValue => "EOF while parsing a value".toList
  | expectedColon => "expected `:`".toList
  | expectedCommaOrBracket => "expected `,` or `]`".toList
  | expectedCommaOrBrace => "expected `,` or `\x7d`".toList
  | expectedWord => "expected ident".toList
  | expectedValue => "expected value".toList
  | badEscape => "invalid escape".toList
  | badNumber => "invalid number".toList
  | numberOutOfRange => "number out of range".toList
  | controlCharacter =>
    "control character (\\u0000-\\u001F) found while parsing a string".toList
  | nameNotText => "key must be a string".toList
  | loneSurrogate => "lone leading surrogate in hex escape".toList
  | unpairedSurrogate => "unexpected end of hex escape".toList
  | trailingComma => "trailing comma".toList
  | trailingCharacters => "trailing characters".toList
  | wrongKind found expected =>
    "invalid type: ".toList ++ found.describe ++ ", expected ".toList ++ expected.toList
  | unknownWord word vocabulary =>
    "unknown variant `".toList ++ word ++ "`, expected one of ".toList ++ listed vocabulary
  | missingMember name => "missing field `".toList ++ name.toList ++ ['`']
  | repeatedMember name => "duplicate field `".toList ++ name.toList ++ ['`']
  | tooShort items record members =>
    "invalid length ".toList ++ Nat.toDigits 10 items ++ ", expected ".toList ++
      record.toList ++ " with ".toList ++ Nat.toDigits 10 members ++ " elements".toList

end Cause

/-- What is wrong with a text, and where. -/
structure Error where
  cause : Cause
  place : Place

/-- The fault as it is reported about the whole text. -/
def Fault.within (f : Fault) (text : List Char) : Error :=
  ⟨f.cause, f.place text⟩

/-- The report in words. -/
def Error.message (e : Error) : List Char :=
  e.cause.message ++ " at line ".toList ++ Nat.toDigits 10 e.place.line ++
    " column ".toList ++ Nat.toDigits 10 e.place.column

end Flowchart.Json
