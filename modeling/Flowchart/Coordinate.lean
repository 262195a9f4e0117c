/-!
# The arithmetic of coordinates

Positions and sizes are computed with a handful of operations, gathered in
`Coordinate`. Programs compute with double precision numbers. Since the
layout asks for nothing but these operations, it can just as well be read
over exact numbers.

The smaller and the larger of two doubles leave out what is not a number:
they answer with the other one. Of two zeros they answer with the first.
-/

namespace Flowchart

/-- Numbers that positions and sizes are computed with. -/
class Coordinate (α : Type) extends Add α, Sub α, Mul α where
  /-- The origin. -/
  zero : α
  /-- A whole number. -/
  ofNat : Nat → α
  /-- One half of a number. -/
  half : α → α
  /-- The smaller of two numbers. -/
  lower : α → α → α
  /-- The larger of two numbers. -/
  upper : α → α → α

/-- The smaller of two doubles, or the one that is a number. -/
def lowerDouble (a b : Float) : Float :=
  if b < a || a.isNaN then b else a

/-- The larger of two doubles, or the one that is a number. -/
def upperDouble (a b : Float) : Float :=
  if a < b || a.isNaN then b else a

instance : Coordinate Float where
  zero := 0.0
  ofNat := Float.ofNat
  half a := a / 2.0
  lower := lowerDouble
  upper := upperDouble

end Flowchart
