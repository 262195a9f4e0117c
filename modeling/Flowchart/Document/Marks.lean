import Flowchart.Document

/-!
# Brackets and arrows

The marks of the notation: each shape has an opening and a closing bracket,
each line style an arrow. Reading and writing both take the marks from here,
so that what is written is spelled as it is read.

Some openings begin like others, so the order in which shapes are tried
matters: `Shape.readingOrder` puts a longer opening before every shorter one
that it starts with.
-/

namespace Flowchart

namespace Shape

/-- The mark before a label of this shape. -/
def opener : Shape → List Char
  | .doubleCircle => ['(', '(', '(']
  | .circle => ['(', '(']
  | .stadium => ['(', '[']
  | .round => ['(']
  | .hexagon => ['{', '{']
  | .rhombus => ['{']
  | .cylinder => ['[', '(']
  | .parallelogram => ['[', '/']
  | .trapezoid => ['[', '/']
  | .parallelogramAlt => ['[', '\\', '\\']
  | .trapezoidAlt => ['[', '\\', '\\']
  | .rectangle => ['[']
  | .asymmetric => ['>']

/-- The mark after a label of this shape. -/
def closer : Shape → List Char
  | .doubleCircle => [')', ')', ')']
  | .circle => [')', ')']
  | .stadium => [']', ')']
  | .round => [')']
  | .hexagon => ['}', '}']
  | .rhombus => ['}']
  | .cylinder => [')', ']']
  | .parallelogram => ['/', ']']
  | .trapezoid => ['\\', '\\', ']']
  | .parallelogramAlt => ['\\', '\\', ']']
  | .trapezoidAlt => ['/', ']']
  | .rectangle => [']']
  | .asymmetric => [']']

/-- The order in which shapes are tried when a label is read. -/
def readingOrder : List Shape :=
  [.doubleCircle, .circle, .stadium, .round, .hexagon, .rhombus, .cylinder, .parallelogram,
    .trapezoid, .parallelogramAlt, .trapezoidAlt, .rectangle, .asymmetric]

/-- A label between the marks of a shape, as it stands: nothing in it is
escaped. -/
def wrap (s : Shape) (label : List Char) : List Char :=
  s.opener ++ label ++ s.closer

/-- Every shape is tried. -/
theorem mem_readingOrder (s : Shape) : s ∈ readingOrder := by
  cases s <;> decide

/-- No shape is tried twice. -/
theorem nodup_readingOrder : readingOrder.Nodup := by decide

/-- **Longer openings come first**: a shape whose opening properly extends
that of another is tried before it. -/
theorem readingOrder_pairwise :
    readingOrder.Pairwise fun early late =>
      early.opener <+: late.opener → early.opener = late.opener := by
  decide

theorem opener_ne_nil (s : Shape) : s.opener ≠ [] := by
  cases s <;> decide

theorem closer_ne_nil (s : Shape) : s.closer ≠ [] := by
  cases s <;> decide

end Shape

namespace LineStyle

/-- The arrow of this line style. -/
def arrow : LineStyle → List Char
  | .solid => ['-', '-', '>']
  | .dotted => ['-', '.', '-', '>']
  | .thick => ['=', '=', '>']

theorem mem_all (s : LineStyle) : s ∈ all := by
  cases s <;> decide

theorem arrow_ne_nil (s : LineStyle) : s.arrow ≠ [] := by
  cases s <;> decide

end LineStyle

end Flowchart
