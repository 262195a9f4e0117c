import Flowchart.Json.Number
import Flowchart.Json.Skip

/-!
# Reading typed values

Texts, numbers, lists, optional values and words of a vocabulary are read as
what the reader expects; anything else is reported with what was expected.

A record is read from an object, whose members may come in any order, or
from a list that holds the members in the order of the record. A member that
is not required keeps its default when it is missing. In an object no member
may come twice, and members that the record does not know are passed over.
A missing or repeated member is reported at the end of the object or at the
repetition, once its name has been read.
-/

namespace Flowchart.Json

/-- The fault of finding a value that is not of the expected kind. -/
def wrongKind {α : Type} (expected : String) (input : List Char) : Except Fault α :=
  let found (f : Found) (rest : List Char) : Except Fault α :=
    faultAt (.wrongKind f expected) rest
  match input with
  | [] => faultAt .expectedValue []
  | 'n' :: rest => do found .null (← expectLetters ['u', 'l', 'l'] rest)
  | 't' :: rest => do found (.truth true) (← expectLetters ['r', 'u', 'e'] rest)
  | 'f' :: rest => do found (.truth false) (← expectLetters ['a', 'l', 's', 'e'] rest)
  | '-' :: rest => do
    let (n, rest) ← number true rest
    found n.found rest
  | '"' :: rest => do
    let (s, rest) ← string rest
    found (.text s) rest
  | '[' :: _ => found .list input
  | '{' :: _ => found .object input
  | c :: _ =>
    if c.isDigit then do
      let (n, rest) ← number false input
      found n.found rest
    else faultIn .expectedValue input

/-- Reads a string. -/
def readText : Reader String := fun input =>
  match skipSpace input with
  | [] => faultAt .endInValue []
  | '"' :: rest => do
    let (s, rest) ← string rest
    return (String.ofList s, rest)
  | other => wrongKind "a string" other

/-- Reads a number as a double. -/
def readDouble : Reader Float := fun input =>
  match skipSpace input with
  | [] => faultAt .endInValue []
  | '-' :: rest => do
    let (n, rest) ← number true rest
    return (n.toDouble, rest)
  | c :: rest =>
    if c.isDigit then do
      let (n, rest) ← number false (c :: rest)
      return (n.toDouble, rest)
    else wrongKind "f64" (c :: rest)

/-- Reads `null` as nothing, and anything else with the given reader. -/
def readOption {α : Type} (reader : Reader α) : Reader (Option α) := fun input =>
  match skipSpace input with
  | 'n' :: rest => do return (none, ← expectLetters ['u', 'l', 'l'] rest)
  | other => do
    let (a, rest) ← reader other
    return (some a, rest)

/-- The member of a vocabulary that a word stands for, in front of the text
behind the word. -/
def lookUp {α : Type} (vocabulary : List (String × α)) (word : List Char) (rest : List Char) :
    Except Fault α :=
  match vocabulary.find? fun entry => entry.1.toList == word with
  | some (_, a) => .ok a
  | none => faultAt (.unknownWord word (vocabulary.map (·.1))) rest

/-- Reads `null` where nothing else may stand. -/
def readNull (input : List Char) : Except Fault (List Char) :=
  match skipSpace input with
  | [] => faultAt .endInValue []
  | 'n' :: rest => expectLetters ['u', 'l', 'l'] rest
  | other => wrongKind "unit" other

/-- Reads a word of a vocabulary: a string, or an object whose only member
has the word as its name and `null` as its value. -/
def readWord {α : Type} (vocabulary : List (String × α)) : Reader α := fun input =>
  match skipSpace input with
  | [] => faultAt .endInValue []
  | '"' :: rest => do
    let (word, rest) ← string rest
    return (← lookUp vocabulary word rest, rest)
  | '{' :: rest =>
    match skipSpace rest with
    | [] => faultAt .endInValue []
    | '"' :: rest => do
      let (word, rest) ← string rest
      let a ← lookUp vocabulary word rest
      match skipSpace (← readNull (← colon rest)) with
      | [] => faultAt .endInObject []
      | '}' :: rest => return (a, rest)
      | other => faultAt .expectedValue other
    | other => wrongKind "variant identifier" other
  | other => faultIn .expectedValue other

/-- Reads the items of a list up to its end. Every round reads an item. -/
def readItems {α : Type} (reader : Reader α) (rounds : Nat) (first : Bool) :
    Reader (List α) := fun input =>
  match rounds with
  | 0 => faultAt .endInList input
  | rounds + 1 => do
    match ← nextItem first input with
    | none => return ([], ← endOfList input)
    | some input => do
      let (a, rest) ← reader input
      let (as, rest) ← readItems reader rounds false rest
      return (a :: as, rest)

/-- Reads a list. -/
def readList {α : Type} (reader : Reader α) : Reader (List α) := fun input =>
  match skipSpace input with
  | [] => faultAt .endInValue []
  | '[' :: rest => readItems reader (rest.length + 1) true rest
  | other => wrongKind "a sequence" other

/-- A member of a record: its name, whether it has to be given, and how its
value changes a record that holds the default. -/
structure Member (α : Type) where
  name : String
  required : Bool
  read : Reader (α → α)

/-- The member whose value is read by a reader and stored by a function. -/
def Member.of {α β : Type} (name : String) (required : Bool) (reader : Reader β)
    (store : β → α → α) : Member α where
  name := name
  required := required
  read input := do
    let (b, rest) ← reader input
    return (store b, rest)

/-- A kind of record: what it is called in reports, its members, and the
record of which no member has been given. -/
structure Schema (α : Type) where
  title : String
  members : List (Member α)
  blank : α

/-- Reads the members of a record from the items of a list, to its end. -/
def readInOrder {α : Type} (s : Schema α) (value : α) (first : Bool) :
    List (Member α) → Reader α
  | [], input => do return (value, ← endOfList input)
  | m :: members, input => do
    match ← nextItem first input with
    | some input => do
      let (update, rest) ← m.read input
      readInOrder s (update value) false members rest
    | none =>
      if m.required then
        let items := s.members.length - (members.length + 1)
        faultAt (.tooShort items s.title s.members.length) (← endOfList input)
      else readInOrder s value first members input

/-- The text behind the end of an object, if it ends there, and without
white space in any case. -/
def behindBrace (input : List Char) : List Char :=
  match skipSpace input with
  | '}' :: rest => rest
  | other => other

/-- Reads the members of a record from those of an object, to its end. Every
round reads a member. -/
def readByName {α : Type} (s : Schema α) (rounds : Nat) (given : List String) (value : α) :
    Reader α := fun input =>
  match rounds with
  | 0 => faultAt .endInObject input
  | rounds + 1 => do
    match ← nextName given.isEmpty input with
    | none =>
      let rest := behindBrace input
      match s.members.find? fun m => m.required && !given.contains m.name with
      | some m => faultAt (.missingMember m.name) rest
      | none => return (value, rest)
    | some (name, rest) =>
      match s.members.find? fun m => m.name.toList == name with
      | none => do
        let rest ← skipValue (← colon rest)
        readByName s rounds (String.ofList name :: given) value rest
      | some m =>
        if given.contains m.name then faultAt (.repeatedMember m.name) (behindBrace rest)
        else do
          let (update, rest) ← m.read (← colon rest)
          readByName s rounds (m.name :: given) (update value) rest

/-- **Reads a record** from an object or from a list. -/
def readRecord {α : Type} (s : Schema α) : Reader α := fun input =>
  match skipSpace input with
  | [] => faultAt .endInValue []
  | '[' :: rest => readInOrder s s.blank true s.members rest
  | '{' :: rest => readByName s (rest.length + 1) [] s.blank rest
  | other => wrongKind s.title other

/-- **Reads a whole text**, behind which only white space may follow. -/
def readAll {α : Type} (reader : Reader α) (text : String) : Except Error α :=
  let input := text.toList
  let reading := do
    let (a, rest) ← reader input
    match skipSpace rest with
    | [] => return a
    | other => faultIn .trailingCharacters other
  reading.mapError fun f => f.within input

end Flowchart.Json
