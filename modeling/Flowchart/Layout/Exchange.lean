import Flowchart.Json.Record
import Flowchart.Layout

/-!
# Boxes, links and placements as JSON

What goes into a layout and comes out of it, as it is exchanged. The
position of a box is left out where it has none.
-/

namespace Flowchart

open Json

namespace Box

/-- A box as a JSON value. -/
def toJson (b : Box Float) : Value :=
  let position (name : String) (at? : Option Float) : List (String × Value) :=
    match at? with
    | some p => [(name, .number p)]
    | none => []
  .object <| [("id", .text b.id), ("width", .number b.width), ("height", .number b.height)] ++
    position "x" b.x ++ position "y" b.y

/-- How a box is read. -/
def schema : Schema (Box Float) where
  title := "struct GraphNode"
  members := [
    .of "id" true readText fun id b => { b with id },
    .of "width" true readDouble fun width b => { b with width },
    .of "height" true readDouble fun height b => { b with height },
    .of "x" false (readOption readDouble) fun x b => { b with x },
    .of "y" false (readOption readDouble) fun y b => { b with y }]
  blank := { id := "", width := 0.0, height := 0.0 }

end Box

namespace Link

/-- A link as a JSON value. -/
def toJson (l : Link) : Value :=
  .object [("id", .text l.id), ("source", .text l.source), ("target", .text l.target)]

/-- How a link is read. -/
def schema : Schema Link where
  title := "struct GraphEdge"
  members := [
    .of "id" true readText fun id l => { l with id },
    .of "source" true readText fun source l => { l with source },
    .of "target" true readText fun target l => { l with target }]
  blank := { id := "", source := "", target := "" }

end Link

namespace Placement

/-- A placement as a JSON value. -/
def toJson (p : Placement Float) : Value :=
  .object [("id", .text p.id), ("x", .number p.x), ("y", .number p.y)]

/-- How a placement is read. -/
def schema : Schema (Placement Float) where
  title := "struct LayoutNode"
  members := [
    .of "id" true readText fun id p => { p with id },
    .of "x" true readDouble fun x p => { p with x },
    .of "y" true readDouble fun y p => { p with y }]
  blank := { id := "", x := 0.0, y := 0.0 }

end Placement

/-- A whole layout as a JSON value. -/
def layoutJson (placements : List (Placement Float)) : Value :=
  .list (placements.map Placement.toJson)

end Flowchart
