import Flowchart.Proofs.Graph.Parallel
import Flowchart.Proofs.Layout.Place

/-!
# What a layout ignores

A layout is made from the graph of a diagram and from the size of the first box
with each id (`layout_congr`). Boxes that repeat an id are in neither
(`layout_firstBoxes`), nor is the place at which a box is so far or the id of a
link (`layout_of_seen`), and links with an unknown end are not in the graph
(`layout_knownLinks`). Links that repeat the ends of an earlier one are, but as
parallel arrows they change neither components nor ranks (`layout_firstLinks`).
-/

namespace Flowchart

open Flowchart.Graph Coordinate

variable {α : Type} [Coordinate α] {o : LayoutOptions α} {boxes boxes' : List (Box α)}
variable {links links' : List Link} {d : Direction}

/-- Layouts are told by the graph and by the sizes. -/
theorem layout_congr (hdiagram : diagram boxes' links' = diagram boxes links)
    (hextent : ∀ id, extentIn boxes' o.direction id = extentIn boxes o.direction id) :
    layout o boxes' links' = layout o boxes links := by
  rw [layout_eq, layout_eq, hdiagram, funext hextent]

/-! ## Places and ids of links -/

/-- What there is to see of a box: its id and its size. -/
def Box.seen (b : Box α) : String × α × α := (b.id, b.width, b.height)

/-- What there is to see of a link: its ends. -/
def Link.ends (l : Link) : String × String := (l.source, l.target)

theorem extentIn_of_seen (h : boxes'.map Box.seen = boxes.map Box.seen) (id : String) :
    extentIn boxes' d id = extentIn boxes d id := by
  have hfound : ∀ boxes : List (Box α), extentIn boxes d id =
      match (boxes.map Box.seen).find? (·.1 == id) with
      | some (_, width, height) => if d.isHorizontal then height else width
      | none => zero := by
    intro boxes
    have hseen : (fun s : String × α × α => s.1 == id) ∘ Box.seen = fun b => b.id == id := rfl
    rw [extentIn, List.find?_map, hseen]
    cases boxes.find? fun b => b.id == id <;> rfl
  rw [hfound, hfound, h]

omit [Coordinate α] in
theorem diagram_of_seen (hboxes : boxes'.map Box.seen = boxes.map Box.seen)
    (hlinks : links'.map Link.ends = links.map Link.ends) :
    diagram boxes' links' = diagram boxes links := by
  have hids : boxes'.map (·.id) = boxes.map (·.id) := by
    have hfirst := congrArg (List.map Prod.fst) hboxes
    rwa [List.map_map, List.map_map] at hfirst
  exact congrArg₂ between hids hlinks

/-- Changes to single members do not show where none of them does. -/
theorem map_mapIdx_eq {β γ : Type} {f : β → γ} {change : Nat → β → β}
    (h : ∀ i b, f (change i b) = f b) (l : List β) : (l.mapIdx change).map f = l.map f := by
  refine List.ext_getElem (by simp) fun i _ _ => ?_
  simp [h]

/-- **Only ids, sizes and ends are seen.** -/
theorem layout_of_seen (hboxes : boxes'.map Box.seen = boxes.map Box.seen)
    (hlinks : links'.map Link.ends = links.map Link.ends) :
    layout o boxes' links' = layout o boxes links :=
  layout_congr (diagram_of_seen hboxes hlinks) (extentIn_of_seen hboxes)

/-! ## Repeated boxes and unknown ends -/

/-- A key that comes up again adds nothing. -/
theorem between_distinct (keys : List String) (ends : List (String × String)) :
    between (distinct keys) ends = between keys ends := by
  simp only [between, distinct_distinct, mem_distinct]

/-- **Of boxes with the same id only the first counts.** -/
theorem layout_firstBoxes (o : LayoutOptions α) (boxes : List (Box α)) (links : List Link) :
    layout o (firstsBy (·.id) boxes) links = layout o boxes links := by
  refine layout_congr ?_ fun id => ?_
  · rw [diagram, map_firstsBy, between_distinct]
    rfl
  · rw [extentIn, find?_firstsBy]
    rfl

/-- The links that join two of the boxes. -/
def knownLinks (boxes : List (Box α)) (links : List Link) : List Link :=
  links.filter fun l => l.source ∈ boxes.map (·.id) ∧ l.target ∈ boxes.map (·.id)

/-- **Links with an unknown end do not count.** -/
theorem layout_knownLinks (o : LayoutOptions α) (boxes : List (Box α)) (links : List Link) :
    layout o boxes (knownLinks boxes links) = layout o boxes links := by
  refine layout_congr ?_ fun _ => rfl
  rw [diagram, diagram, between, between, knownLinks, List.filter_map, List.filter_map,
    List.filter_filter]
  simp [Function.comp_def]

/-! ## Repeated links -/

omit [Coordinate α] in
/-- Where links repeat, arrows do. -/
theorem parallelTo_firstLinks (boxes : List (Box α)) (links : List Link) :
    (diagram boxes (firstsBy Link.ends links)).ParallelTo (diagram boxes links) where
  vertices_eq := rfl
  arrows_eq := by
    show distinct (((firstsBy Link.ends links).map Link.ends).filter _) =
      distinct ((links.map Link.ends).filter _)
    rw [map_firstsBy, distinct_filter, distinct_filter, distinct_distinct]

/-- **Of links with the same ends only the first counts.** -/
theorem layout_firstLinks (o : LayoutOptions α) (boxes : List (Box α)) (links : List Link) :
    layout o boxes (firstsBy Link.ends links) = layout o boxes links := by
  have hparallel := parallelTo_firstLinks boxes links
  rw [layout_eq, layout_eq, hparallel.components_eq (proper_diagram boxes links)]
  exact placeComponents_congr (fun c _ => hparallel.ranked_eq c) fun _ _ _ _ => rfl

/-- **What a layout ignores**: boxes whose id has come before, the places at which
boxes are so far, the ids of links, links with an unknown end, and links whose
ends an earlier link has joined. -/
theorem layout_ignores (o : LayoutOptions α) (boxes : List (Box α)) (links : List Link)
    (xs ys : Nat → Option α) (ids : Nat → String) :
    layout o (firstsBy (·.id) boxes) links = layout o boxes links ∧
      layout o (boxes.mapIdx fun i b => { b with x := xs i, y := ys i }) links =
        layout o boxes links ∧
      layout o boxes (links.mapIdx fun i l => { l with id := ids i }) = layout o boxes links ∧
      layout o boxes (knownLinks boxes links) = layout o boxes links ∧
      layout o boxes (firstsBy Link.ends links) = layout o boxes links := by
  refine ⟨layout_firstBoxes o boxes links, layout_of_seen ?_ rfl, layout_of_seen rfl ?_,
    layout_knownLinks o boxes links, layout_firstLinks o boxes links⟩
  · refine map_mapIdx_eq ?_ boxes
    exact fun _ _ => rfl
  · refine map_mapIdx_eq ?_ links
    exact fun _ _ => rfl

end Flowchart
