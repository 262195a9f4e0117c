import Flowchart.Label.Break
import Flowchart.Layout.Place
import Flowchart.Text.Width

/-!
# Sizes of nodes

A node is as large as its label needs in its shape. The widest line of the
label gives the width and the number of lines the height, with padding
around both; slanted, pointed and circular outlines need more room than a
rectangle does. The boxes of a document are its nodes with these sizes, and
its layout is that of its boxes.
-/

namespace Flowchart

open Text Label

/-- The measures that sizes are computed from. -/
structure Metrics where
  charWidth : Float := 8.0
  lineHeight : Float := 20.0
  paddingX : Float := 16.0
  paddingY : Float := 10.0
  minWidth : Float := 40.0

/-- The number of columns of the widest line of a label. -/
def labelWidth (label : List Char) : Nat :=
  (splitBreaks label).foldl (fun widest line => max widest (displayWidth line)) 0

namespace Shape

/-- The size of an outline that holds a text block of the given size,
padding included. -/
def around (s : Shape) (m : Metrics) (width height : Float) : Float × Float :=
  match s with
  | .rectangle | .round | .stadium | .cylinder => (width, height)
  | .circle =>
    let side := upperDouble width height
    (side, side)
  | .doubleCircle =>
    let side := upperDouble width height + m.paddingY
    (side, side)
  | .rhombus => (width + height, height + height / 2.0)
  | .hexagon | .parallelogram | .parallelogramAlt | .trapezoid | .trapezoidAlt =>
    (width + height / 2.0, height)
  | .asymmetric => (width + height / 4.0, height)

end Shape

namespace Node

/-- The width and height of a node. -/
def size (n : Node) (m : Metrics) : Float × Float :=
  let label := n.label.toList
  let textWidth := Float.ofNat (labelWidth label) * m.charWidth
  let textHeight := Float.ofNat (splitBreaks label).length * m.lineHeight
  n.shape.around m (upperDouble (textWidth + 2.0 * m.paddingX) m.minWidth)
    (textHeight + 2.0 * m.paddingY)

/-- The box that a node fills. -/
def box (n : Node) (m : Metrics) : Box Float :=
  { id := n.id, width := (n.size m).1, height := (n.size m).2 }

end Node

namespace Edge

/-- The link that an edge makes between boxes. -/
def toLink (e : Edge) : Link :=
  ⟨e.id, e.source, e.target⟩

end Edge

namespace Document

/-- The boxes of a document, in node order. -/
def boxes (d : Document) (m : Metrics) : List (Box Float) :=
  d.nodes.map fun n => n.box m

/-- The links of a document, in edge order. -/
def links (d : Document) : List Link :=
  d.edges.map Edge.toLink

/-- **The layout of a document.** The direction is that of the options. -/
def layout (d : Document) (o : LayoutOptions Float) (m : Metrics) : List (Placement Float) :=
  Flowchart.layout o (d.boxes m) d.links

end Document

end Flowchart
