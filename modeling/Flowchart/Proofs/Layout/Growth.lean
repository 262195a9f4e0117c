import Flowchart.Proofs.Graph.Distinct
import Flowchart.Proofs.Graph.Growth
import Flowchart.Proofs.Layout.Place

/-!
# Layouts of diagrams that grow

Boxes that are appended to a diagram, with links that leave them, move nothing:
along outgoing arrows the layout of the larger diagram begins with that of the
smaller one (`layout_append`). The graph has grown behind its old vertices
(`grownBy_diagram`), so their components come first and with the same ranks, and
their boxes have kept their sizes.
-/

namespace Flowchart

open Flowchart.Graph Coordinate

/-! ## Interleaved lists -/

/-- The third list is made of the first two, each in its order. -/
inductive Interleaved {β : Type} : List β → List β → List β → Prop
  | nil : Interleaved [] [] []
  | left {l m whole : List β} (a : β) :
    Interleaved l m whole → Interleaved (a :: l) m (a :: whole)
  | right {l m whole : List β} (a : β) :
    Interleaved l m whole → Interleaved l (a :: m) (a :: whole)

/-- Where the second list is left out, the first remains. -/
theorem Interleaved.filter_eq {β : Type} {l m whole : List β} {p : β → Bool}
    (h : Interleaved l m whole) (hm : ∀ b ∈ m, p b = false) : whole.filter p = l.filter p := by
  induction h with
  | nil => rfl
  | left a _ ih => rw [List.filter_cons, List.filter_cons, ih hm]
  | right a _ ih =>
    rw [List.forall_mem_cons] at hm
    rw [List.filter_cons_of_neg (by simp [hm.1]), ih hm.2]

/-! ## The graph of a diagram that grows -/

variable {α : Type} {boxes added : List (Box α)} {links further whole : List Link}

/-- Links from appended boxes, and no link from an old box to one of these. -/
structure LinkedBehind (boxes added : List (Box α)) (links further : List Link) : Prop where
  /-- No appended box has the id of an old one. -/
  new_ids : ∀ b ∈ added, b.id ∉ boxes.map (·.id)
  /-- No old link from an old box ends at an appended one. -/
  old_links : ∀ l ∈ links, l.source ∈ boxes.map (·.id) → l.target ∉ added.map (·.id)
  /-- New links leave appended boxes. -/
  new_links : ∀ l ∈ further, l.source ∈ added.map (·.id)

/-- The links that leave a known box, as far as they end at one. -/
theorem targets_diagram {v : String} (hv : v ∈ boxes.map (·.id)) :
    (diagram boxes links).targets v =
      (links.filter fun l => l.source = v ∧ l.target ∈ boxes.map (·.id)).map (·.target) := by
  rw [targets, diagram, between, List.filter_filter, List.filter_map, List.map_map]
  refine congrArg (List.map _) (List.filter_congr fun l _ => Bool.eq_iff_iff.mpr ?_)
  simp only [Function.comp_apply, Bool.and_eq_true, decide_eq_true_eq]
  exact ⟨fun h => ⟨h.1, h.2.2⟩, fun h => ⟨h.1, h.1 ▸ hv, h.2⟩⟩

/-- **The graph of the diagram has grown.** -/
theorem grownBy_diagram (h : LinkedBehind boxes added links further)
    (hwhole : Interleaved links further whole) : (diagram boxes links).GrownBy
      (diagram (boxes ++ added) whole) (distinct (added.map (·.id))) where
  vertices_eq := by
    have hnew : ∀ v ∈ distinct (added.map (·.id)), v ∉ boxes.map (·.id) := by
      intro v hv
      obtain ⟨b, hb, rfl⟩ := List.mem_map.mp (mem_distinct.mp hv)
      exact h.new_ids b hb
    show distinct ((boxes ++ added).map (·.id)) = distinct (boxes.map (·.id)) ++ _
    rw [List.map_append, distinct_append,
      List.filter_eq_self.mpr fun v hv => decide_eq_true (hnew v hv)]
  targets_eq := fun v hv => by
    have hold : v ∈ boxes.map (·.id) := mem_distinct.mp hv
    have hmem : v ∈ (boxes ++ added).map (·.id) := by
      rw [List.map_append]
      exact List.mem_append_left _ hold
    rw [targets_diagram hmem, targets_diagram hold, hwhole.filter_eq fun l hl => ?_]
    · -- an old link from an old box does not end at a new one
      refine congrArg _ (List.filter_congr fun l hl => decide_eq_decide.mpr ?_)
      refine and_congr_right fun hsource => ?_
      have htarget := h.old_links l hl (hsource ▸ hold)
      rw [List.map_append, List.mem_append, or_iff_left htarget]
    · obtain ⟨b, hb, hid⟩ := List.mem_map.mp (h.new_links l hl)
      have hsource : l.source ≠ v := by
        rintro rfl
        exact h.new_ids b hb (hid ▸ hold)
      simp [hsource]

/-- Old boxes keep their sizes. -/
theorem extentIn_append (added : List (Box α)) [Coordinate α] (d : Direction) {id : String}
    (hid : id ∈ boxes.map (·.id)) : extentIn (boxes ++ added) d id = extentIn boxes d id := by
  obtain ⟨b, hb, rfl⟩ := List.mem_map.mp hid
  have hfound : (boxes.find? fun a => a.id == b.id).isSome := by
    rw [List.find?_isSome]
    exact ⟨b, hb, beq_self_eq_true _⟩
  rw [extentIn, extentIn, List.find?_append, Option.or_of_isSome hfound]

/-- **Appending moves nothing.** Along outgoing arrows the layout of a diagram
with further boxes, and with links from these wherever they stand among the
others, begins with the layout of the diagram. -/
theorem layout_append [Coordinate α] (o : LayoutOptions α) (boxes added : List (Box α))
    (links further whole : List Link) (hforward : o.grouping = .forward)
    (hlinked : LinkedBehind boxes added links further)
    (hwhole : Interleaved links further whole) :
    layout o boxes links <+: layout o (boxes ++ added) whole := by
  have hg := proper_diagram boxes links
  have hg' := proper_diagram (boxes ++ added) whole
  have hgrown := grownBy_diagram hlinked hwhole
  obtain ⟨cs, hcs⟩ := hgrown.components_eq hg hg'
  have hsame : placeComponents o (diagram (boxes ++ added) whole)
        (extentIn (boxes ++ added) o.direction) zero ((diagram boxes links).components .forward) =
      layout o boxes links := by
    rw [layout_eq, hforward]
    refine placeComponents_congr (fun c hc => hgrown.ranked_eq hg hg' hc) fun c hc id hid => ?_
    exact extentIn_append added _ (mem_distinct.mp (mem_fresh_of_mem_component hc hid))
  rw [layout_eq o (boxes ++ added) whole, hforward, hcs, placeComponents_append, hsame]
  exact List.prefix_append _ _

/-- What is appended to the scattered boxes: links lead back to them, into the
cycle and to a box that no link has entered so far. -/
def appended : List (Box Float) :=
  ["Y", "W"].map fun id => { id, width := 60.0, height := 20.0 }

/-- Links from the appended boxes, one of them to nowhere. -/
def backLinks : List Link :=
  [⟨"7", "Y", "D"⟩, ⟨"8", "W", "A"⟩, ⟨"9", "Y", "Q"⟩]

/-- The links of the scattered boxes with these among them. -/
def mixedLinks : List Link :=
  [⟨"7", "Y", "D"⟩, ⟨"1", "A", "B"⟩, ⟨"2", "A", "C"⟩, ⟨"8", "W", "A"⟩, ⟨"3", "X", "X"⟩,
    ⟨"4", "B", "A"⟩, ⟨"5", "Z", "B"⟩, ⟨"6", "D", "X"⟩, ⟨"9", "Y", "Q"⟩]

theorem layout_append_scattered :
    LayoutOptions.standard.grouping = .forward ∧
    LinkedBehind scattered appended scatteredLinks backLinks ∧
    Interleaved scatteredLinks backLinks mixedLinks ∧
    layout .standard scattered scatteredLinks <+:
      layout .standard (scattered ++ appended) mixedLinks := by
  have hlinked : LinkedBehind scattered appended scatteredLinks backLinks :=
    ⟨by decide, by decide, by decide⟩
  have hmixed : Interleaved scatteredLinks backLinks mixedLinks :=
    .right _ <| .left _ <| .left _ <| .right _ <| .left _ <| .left _ <| .left _ <| .left _ <|
      .right _ .nil
  exact ⟨rfl, hlinked, hmixed, layout_append .standard scattered appended scatteredLinks backLinks
    mixedLinks rfl hlinked hmixed⟩

end Flowchart
