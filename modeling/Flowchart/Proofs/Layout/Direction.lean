import Flowchart.Proofs.Layout.Place

/-!
# The four directions

A direction decides which coordinate is counted along which axis, and whether the
ranks run backwards; and it decides which side of a box counts. Where two
directions count the same sides, a layout in the one is therefore the layout in
the other, placement by placement (`layout_map`): against its axis a rank is as far
on the other side of the start, and boxes that lie on their sides are placed in
rows as they are in columns when they stand (`layout_directions`).
-/

namespace Flowchart

open Flowchart.Graph Coordinate

variable {α : Type} [Coordinate α] {o : LayoutOptions α} {d d' : Direction}
variable {f : Placement α → Placement α} {boxes boxes' : List (Box α)}

/-- The box lying on its side. -/
def Box.turned (b : Box α) : Box α :=
  { b with width := b.height, height := b.width }

/-- The placement with its coordinates exchanged. -/
def Placement.turned (p : Placement α) : Placement α :=
  { p with x := p.y, y := p.x }

/-! ## Placing in another direction -/

section Placing

variable (h : ∀ id node r,
  Placement.along d' id node (rankPosition { o with direction := d' } r) =
    f (Placement.along d id node (rankPosition { o with direction := d } r)))

include h

theorem placeRank_map (extent : String → α) (offset : α) (r : Nat) (ids : List String) :
    placeRank { o with direction := d' } extent offset r ids =
      (placeRank { o with direction := d } extent offset r ids).map f := by
  rw [placeRank, placeRank, List.map_map]
  exact List.map_congr_left fun e _ => h ..

theorem placeComponent_map (g : Graph String) (extent : String → α) (offset : α)
    (c : List String) : placeComponent { o with direction := d' } g extent offset c =
      (placeComponent { o with direction := d } g extent offset c).map f := by
  rw [placeComponent, placeComponent, List.map_flatMap]
  exact List.flatMap_congr fun e _ => placeRank_map h ..

theorem placeComponents_map (g : Graph String) (extent : String → α) (offset : α)
    (cs : List (List String)) : placeComponents { o with direction := d' } g extent offset cs =
      (placeComponents { o with direction := d } g extent offset cs).map f := by
  induction cs generalizing offset with
  | nil => rfl
  | cons c cs ih =>
    rw [placeComponents, placeComponents, List.map_append, placeComponent_map h, ih]

/-- **A layout in another direction** is the same layout, if what counts of the boxes
is the same. -/
theorem layout_map (hids : boxes'.map (·.id) = boxes.map (·.id))
    (hextent : ∀ id, extentIn boxes' d' id = extentIn boxes d id) (links : List Link) :
    layout { o with direction := d' } boxes' links =
      (layout { o with direction := d } boxes links).map f := by
  have hdiagram : diagram boxes' links = diagram boxes links := by
    rw [diagram, diagram, hids]
  rw [layout_eq, layout_eq, hdiagram, funext hextent]
  exact placeComponents_map h ..

end Placing

/-- What is the height of a box is the width of the box on its side. -/
theorem extentIn_turned (boxes : List (Box α)) (id : String) :
    extentIn (boxes.map Box.turned) .topDown id = extentIn boxes .leftRight id := by
  have hid : (fun b : Box α => b.id == id) ∘ Box.turned = fun b => b.id == id := rfl
  rw [extentIn, extentIn, List.find?_map, hid]
  cases boxes.find? fun b => b.id == id <;> rfl

/-- **The four directions are one layout.** From bottom to top and from right to left
it is mirrored at the start of the ranks. From left to right it is the layout from
top to bottom of the boxes on their sides, with the coordinates exchanged. -/
theorem layout_directions (o : LayoutOptions α) (boxes : List (Box α)) (links : List Link) :
    layout { o with direction := .bottomTop } boxes links =
        (layout { o with direction := .topDown } boxes links).map
          (fun p => { p with y := zero - p.y }) ∧
      layout { o with direction := .rightLeft } boxes links =
        (layout { o with direction := .leftRight } boxes links).map
          (fun p => { p with x := zero - p.x }) ∧
      layout { o with direction := .leftRight } boxes links =
        (layout { o with direction := .topDown } (boxes.map Box.turned) links).map
          Placement.turned := by
  refine ⟨layout_map ?_ rfl ?_ links, layout_map ?_ rfl ?_ links, layout_map ?_ ?_ ?_ links⟩
  -- against the axis
  · exact fun _ _ _ => rfl
  · exact fun _ => rfl
  · exact fun _ _ _ => rfl
  · exact fun _ => rfl
  -- along the other axis
  · exact fun _ _ _ => rfl
  · rw [List.map_map]
    rfl
  · exact fun id => (extentIn_turned boxes id).symm

end Flowchart
