import Flowchart.Text.CodeRange

/-!
# White space

The white space that surrounds a line and carries no meaning is the Unicode
property White_Space. Within a statement only spaces and tabs may separate
the parts; they are the `isGap` characters.
-/

namespace Flowchart.Text

/-- The code points of Unicode White_Space. -/
def blankRanges : CodeRanges :=
  [(0x9, 0xD), (0x20, 0x20), (0x85, 0x85), (0xA0, 0xA0), (0x1680, 0x1680), (0x2000, 0x200A),
    (0x2028, 0x2029), (0x202F, 0x202F), (0x205F, 0x205F), (0x3000, 0x3000)]

/-- White space, as it may surround a line. -/
def isBlank (c : Char) : Bool :=
  blankRanges.holds c

/-- A space or a tab, as it may stand between the parts of a statement. -/
def isGap (c : Char) : Bool :=
  c == ' ' || c == '\t'

/-- The text without the white space at its start. -/
def trimStart (text : List Char) : List Char :=
  text.dropWhile isBlank

/-- The text without the white space at its end. -/
def trimEnd (text : List Char) : List Char :=
  (text.reverse.dropWhile isBlank).reverse

/-- The text without the white space around it. -/
def trim (text : List Char) : List Char :=
  trimEnd (trimStart text)

end Flowchart.Text
