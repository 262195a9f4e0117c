import Flowchart.Coordinate
import Flowchart.Document
import Flowchart.Graph.Component

/-!
# Boxes, links and placements

What a layout starts from and what it results in. A box is a node reduced to
its id and its size, a link an edge reduced to its ends, and a placement
says where a box goes. Boxes may carry a position that they have already;
the layout does not look at it.
-/

namespace Flowchart

/-- A node that is to be placed. -/
structure Box (α : Type) where
  id : String
  width : α
  height : α
  x : Option α := none
  y : Option α := none

/-- An edge between boxes. -/
structure Link where
  id : String
  source : String
  target : String
  deriving DecidableEq

/-- The place that a box has been given. -/
structure Placement (α : Type) where
  id : String
  x : α
  y : α

/-- What can be chosen about a layout. -/
structure LayoutOptions (α : Type) where
  direction : Direction := .topDown
  /-- The gap between neighbours in a rank. -/
  nodeGap : α
  /-- The distance between ranks, which is also the gap between components. -/
  rankGap : α
  grouping : Grouping := .forward

/-- The options that hold unless others are chosen. -/
def LayoutOptions.standard : LayoutOptions Float where
  nodeGap := 50.0
  rankGap := 100.0

end Flowchart
