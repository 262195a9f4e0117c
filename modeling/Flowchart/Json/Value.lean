import Flowchart.Double.Shortest

/-!
# Writing JSON

The JSON values that diagrams are exchanged as, and their text. Members of
an object keep their order. There are two styles: a pretty one with a line
for each item, indented by two spaces a level, and a compact one without any
white space. An empty list or object is written without a line break in both.

Numbers are doubles. They are written with the fewest digits that read back,
positionally from `1e-5` on and below `1e16` and with an exponent otherwise.
What is not a finite number is written as `null`.
-/

namespace Flowchart.Json

/-- A JSON value, as far as diagrams need them. -/
inductive Value where
  | text (value : String)
  | number (value : Float)
  | list (items : List Value)
  | object (members : List (String × Value))

/-- The digit of a number below sixteen. -/
def hexDigit (n : Nat) : Char :=
  if n < 10 then Char.ofNat ('0'.toNat + n) else Char.ofNat ('a'.toNat + (n - 10))

/-- A character as it is written inside a JSON string. -/
def escape (c : Char) : List Char :=
  match c with
  | '"' => ['\\', '"']
  | '\\' => ['\\', '\\']
  | '\n' => ['\\', 'n']
  | '\r' => ['\\', 'r']
  | '\t' => ['\\', 't']
  | '\x08' => ['\\', 'b']
  | '\x0c' => ['\\', 'f']
  | c =>
    if c.toNat < 0x20 then
      ['\\', 'u', '0', '0', hexDigit (c.toNat / 16), hexDigit (c.toNat % 16)]
    else [c]

/-- A text as a JSON string. -/
def quote (text : List Char) : List Char :=
  '"' :: text.flatMap escape ++ ['"']

/-- A decimal number written positionally. The exponent is that of the first
digit. -/
def positional (digits : List Char) (exponent : Int) : List Char :=
  let zeros (n : Nat) := List.replicate n '0'
  match exponent with
  | .negSucc below => '0' :: '.' :: zeros below ++ digits
  | .ofNat e =>
    if digits.length ≤ e + 1 then digits ++ zeros (e + 1 - digits.length) ++ ['.', '0']
    else digits.take (e + 1) ++ '.' :: digits.drop (e + 1)

/-- A decimal number written with an exponent, which always has a sign. -/
def exponential (digits : List Char) (exponent : Int) : List Char :=
  let sign := if exponent < 0 then '-' else '+'
  let point := if digits.length = 1 then [] else ['.']
  digits.take 1 ++ point ++ digits.drop 1 ++ 'e' :: sign :: Nat.toDigits 10 exponent.natAbs

/-- A decimal number, positionally if its exponent is small. -/
def decimal (d : Double.Decimal) : List Char :=
  let digits := Nat.toDigits 10 d.digits
  let exponent := d.exponent + digits.length - 1
  if -5 ≤ exponent && exponent < 16 then positional digits exponent
  else exponential digits exponent

/-- The text of a finite double. -/
def finite (x : Float) : List Char :=
  let bits := x.toBits.toNat
  let sign := if bits < Nat.pow 2 63 then [] else ['-']
  let bits := bits % Nat.pow 2 63
  sign ++ if bits = 0 then ['0', '.', '0'] else decimal (Double.shortest bits)

/-- The text of a double. -/
def double (x : Float) : List Char :=
  if x.toBits.toNat % Nat.pow 2 63 < Double.infinityBits then finite x else "null".toList

/-- How the parts of a value are set apart. -/
structure Style where
  /-- What begins a new line, at a given depth. -/
  newLine : Nat → List Char
  /-- What follows the name of a member. -/
  colon : List Char

/-- A line for each item, indented by two spaces a level. -/
def Style.pretty : Style where
  newLine depth := '\n' :: List.replicate (2 * depth) ' '
  colon := [':', ' ']

/-- No white space at all. -/
def Style.compact : Style where
  newLine _ := []
  colon := [':']

mutual

/-- The text of a value that starts at a given depth. -/
def write (style : Style) (depth : Nat) : Value → List Char
  | .text value => quote value.toList
  | .number value => double value
  | .list [] => ['[', ']']
  | .list (item :: items) =>
    '[' :: style.newLine (depth + 1) ++ write style (depth + 1) item ++
      writeItems style (depth + 1) items ++ style.newLine depth ++ [']']
  | .object [] => ['{', '}']
  | .object (member :: members) =>
    '{' :: style.newLine (depth + 1) ++ writeMember style (depth + 1) member ++
      writeMembers style (depth + 1) members ++ style.newLine depth ++ ['}']

/-- The text of the items after the first. -/
def writeItems (style : Style) (depth : Nat) : List Value → List Char
  | [] => []
  | item :: items =>
    ',' :: style.newLine depth ++ write style depth item ++ writeItems style depth items

/-- The text of a member: its name and its value. -/
def writeMember (style : Style) (depth : Nat) : String × Value → List Char
  | (name, value) => quote name.toList ++ style.colon ++ write style depth value

/-- The text of the members after the first. -/
def writeMembers (style : Style) (depth : Nat) : List (String × Value) → List Char
  | [] => []
  | member :: members =>
    ',' :: style.newLine depth ++ writeMember style depth member ++
      writeMembers style depth members

end

/-- **The text of a value** in a style. -/
def render (style : Style) (value : Value) : String :=
  String.ofList (write style 0 value)

end Flowchart.Json
