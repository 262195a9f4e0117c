import Flowchart.Layout
import Flowchart.Graph.Rank

/-!
# Placing boxes

A diagram has two axes. The ranks of a component follow one another along
the rank axis, and the boxes of one rank stand side by side along the node
axis; the direction says which of them is horizontal and which way the ranks
go.

Within a rank the boxes are lined up from zero, each beginning a gap behind
the end of the one before, and are then moved so that the first and the last
position lie evenly around zero. Components stand side by side as well: each
is moved along the node axis by what the earlier ones take up. Placements
come component by component, and rank by rank within a component.
-/

namespace Flowchart

variable {α : Type} [Coordinate α]

open Coordinate

/-- The size of a box along the node axis. -/
def Box.extent (b : Box α) (d : Direction) : α :=
  if d.isHorizontal then b.height else b.width

/-- The placement with the given coordinates along the node axis and along
the rank axis. -/
def Placement.along (d : Direction) (id : String) (node rank : α) : Placement α :=
  if d.isHorizontal then ⟨id, rank, node⟩ else ⟨id, node, rank⟩

/-- Boxes lined up from a starting point, each with its position. -/
def lineUp (gap : α) (extent : String → α) (start : α) : List String → List (String × α)
  | [] => []
  | id :: rest => (id, start) :: lineUp gap extent (start + (extent id + gap)) rest

/-- The middle between the smallest and the largest of some positions. -/
def middle : List α → α
  | [] => zero
  | p :: rest => half (rest.foldl lower p + rest.foldl upper p)

/-- The coordinate of a rank along the rank axis. -/
def rankPosition (o : LayoutOptions α) (rank : Nat) : α :=
  let distance := ofNat rank * o.rankGap
  if o.direction.isReversed then zero - distance else distance

/-- The placements of the boxes of one rank. -/
def placeRank (o : LayoutOptions α) (extent : String → α) (offset : α) (rank : Nat)
    (ids : List String) : List (Placement α) :=
  let lined := lineUp o.nodeGap extent zero ids
  let centre := middle (lined.map (·.2))
  lined.map fun (id, position) =>
    .along o.direction id (position - centre + offset) (rankPosition o rank)

/-- The placements of one component, moved by an offset along the node axis. -/
def placeComponent (o : LayoutOptions α) (g : Graph String) (extent : String → α) (offset : α)
    (component : List String) : List (Placement α) :=
  (g.ranked component).flatMap fun (rank, ids) => placeRank o extent offset rank ids

/-- The largest size along the node axis in a component, at least zero. -/
def widest (extent : String → α) (component : List String) : α :=
  (component.map extent).foldl upper zero

/-- The placements of several components, the first at an offset and each
later one behind those before it. -/
def placeComponents (o : LayoutOptions α) (g : Graph String) (extent : String → α) (offset : α) :
    List (List String) → List (Placement α)
  | [] => []
  | component :: rest =>
    placeComponent o g extent offset component ++
      placeComponents o g extent (offset + (widest extent component + o.rankGap)) rest

/-- The size along the node axis of the first box with a given id. -/
def extentIn (boxes : List (Box α)) (d : Direction) (id : String) : α :=
  match boxes.find? fun b => b.id == id with
  | some b => b.extent d
  | none => zero

/-- **The layout** of some boxes with links between them. Of boxes with the
same id only the first counts, and links with an unknown end do not count. -/
def layout (o : LayoutOptions α) (boxes : List (Box α)) (links : List Link) :
    List (Placement α) :=
  let g := Graph.between (boxes.map (·.id)) (links.map fun l => (l.source, l.target))
  placeComponents o g (extentIn boxes o.direction) zero (g.components o.grouping)

end Flowchart
