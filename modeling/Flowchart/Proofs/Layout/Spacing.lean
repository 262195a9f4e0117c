import Flowchart.Proofs.Layout.Row
import Mathlib.Data.List.Chain

/-!
# Rows and the room between them

Read over the rational numbers, the boxes of a rank are lined up with a fixed gap
between neighbours (`isChain_placeRank`) and evenly around the offset of their
component (`centred_placeRank`), whatever the sizes and the gap; where none of
these is negative no two of them overlap (`pairwise_of_isChain`). The offset is
the room that the earlier components take up, for each its widest box and a gap
(`offsetAfter_eq`). A layout holds the ranks of a component as such rows
(`layout_rows`).
-/

namespace Flowchart

open Flowchart.Graph Coordinate

variable {gap start offset : ℚ} {extent : String → ℚ} {ids c : List String} {id : String}
variable {o : LayoutOptions ℚ} {r : Nat} {d : Direction} {row : List (Placement ℚ)}

/-! ## Room between groups -/

theorem widest_eq_foldr (extent : String → ℚ) (c : List String) :
    widest extent c = (c.map extent).foldr max 0 :=
  List.foldl_eq_foldr (f := max)

theorem widest_nonneg (extent : String → ℚ) (c : List String) : 0 ≤ widest extent c := by
  rw [widest_eq_foldr]
  induction c with
  | nil => exact le_refl 0
  | cons id c ih => exact le_max_of_le_right ih

theorem extent_le_widest (hid : id ∈ c) : extent id ≤ widest extent c := by
  rw [widest_eq_foldr]
  exact List.le_max_of_le' 0 (List.mem_map_of_mem hid) (le_refl _)

/-- The largest size along the node axis in a component. -/
def largest (extent : String → ℚ) (c : List String) : ℚ :=
  (c.map extent).max?.getD 0

/-- No room is taken back where all sizes are negative. -/
theorem widest_eq_max (extent : String → ℚ) (c : List String) :
    widest extent c = max 0 (largest extent c) := by
  cases c with
  | nil => exact (max_self 0).symm
  | cons id c =>
    have hlargest : largest extent (id :: c) = (c.map extent).foldl max (extent id) := by
      rw [largest, List.map_cons, List.max?_cons', Option.getD_some]
    have hfold : (c.map extent).foldl max (max 0 (extent id)) =
        max 0 ((c.map extent).foldl max (extent id)) := List.foldl_assoc
    rw [hlargest, ← hfold]
    rfl

/-- The room that is left for some groups: for each its widest box and a gap. -/
def room (o : LayoutOptions ℚ) (extent : String → ℚ) (cs : List (List String)) : ℚ :=
  (cs.map fun c => widest extent c + o.rankGap).sum

theorem room_eq (o : LayoutOptions ℚ) (extent : String → ℚ) (cs : List (List String)) :
    room o extent cs = (cs.map fun c => max 0 (largest extent c) + o.rankGap).sum := by
  simp only [room, widest_eq_max]

theorem room_cons (o : LayoutOptions ℚ) (extent : String → ℚ) (c : List String)
    (cs : List (List String)) :
    room o extent (c :: cs) = widest extent c + o.rankGap + room o extent cs := by
  rw [room, List.map_cons, List.sum_cons]
  rfl

theorem room_append (o : LayoutOptions ℚ) (extent : String → ℚ) (bs cs : List (List String)) :
    room o extent (bs ++ cs) = room o extent bs + room o extent cs := by
  rw [room, List.map_append, List.sum_append]
  rfl

theorem room_nonneg (hrank : 0 ≤ o.rankGap) (extent : String → ℚ) (cs : List (List String)) :
    0 ≤ room o extent cs := by
  induction cs with
  | nil => exact le_refl 0
  | cons c cs ih =>
    rw [room_cons]
    have hwidest := widest_nonneg extent c
    linarith

/-- **Groups are moved by the room** of those before them. -/
theorem offsetAfter_eq (o : LayoutOptions ℚ) (extent : String → ℚ) (offset : ℚ)
    (cs : List (List String)) :
    offsetAfter o extent offset cs = offset + room o extent cs := by
  induction cs generalizing offset with
  | nil => exact (add_zero offset).symm
  | cons c cs ih =>
    rw [room_cons, ← add_assoc]
    exact ih _

/-! ## Rows -/

/-- Neighbours are lined up a gap apart. -/
theorem isChain_lineUp (gap : ℚ) (extent : String → ℚ) (start : ℚ) (ids : List String) :
    (lineUp gap extent start ids).IsChain fun e f => f.2 - e.2 = extent e.1 + gap := by
  induction ids generalizing start with
  | nil => exact .nil
  | cons id ids ih =>
    cases ids with
    | nil => exact .singleton _
    | cons next ids =>
      rw [lineUp_cons]
      exact List.isChain_cons_cons.mpr ⟨add_sub_cancel_left .., ih _⟩

/-- **Neighbours in a rank are placed a gap apart.** -/
theorem isChain_placeRank (o : LayoutOptions ℚ) (extent : String → ℚ) (offset : ℚ) (r : Nat)
    (ids : List String) : (placeRank o extent offset r ids).IsChain fun p q =>
      q.nodeAxis o.direction - p.nodeAxis o.direction = extent p.id + o.nodeGap := by
  refine (List.isChain_map _).mpr ((isChain_lineUp ..).imp fun e f hstep => ?_)
  rw [Placement.nodeAxis_along, Placement.nodeAxis_along, Placement.id_along, ← hstep]
  ring

/-- The middle lies evenly between the outermost positions. -/
theorem exists_outermost {positions : List ℚ} (hne : positions ≠ []) :
    ∃ lo ∈ positions, ∃ hi ∈ positions, (∀ p ∈ positions, lo ≤ p ∧ p ≤ hi) ∧
      lo + hi = 2 * middle positions := by
  obtain ⟨lo, hmin⟩ := Option.isSome_iff_exists.mp (List.isSome_min?_of_ne_nil hne)
  obtain ⟨hi, hmax⟩ := Option.isSome_iff_exists.mp (List.isSome_max?_of_ne_nil hne)
  obtain ⟨hlo, hlower⟩ := List.min?_eq_some_iff.mp hmin
  obtain ⟨hhi, hupper⟩ := List.max?_eq_some_iff.mp hmax
  have hbounds : ∀ p ∈ positions, lo ≤ p ∧ p ≤ hi := fun p hp => ⟨hlower p hp, hupper p hp⟩
  refine ⟨lo, hlo, hi, hhi, hbounds, ?_⟩
  rw [middle_eq hlo hhi hbounds]
  ring

/-- The outermost boxes of a row lie evenly around a place on the node axis. -/
def Centred (d : Direction) (row : List (Placement ℚ)) (offset : ℚ) : Prop :=
  ∃ p ∈ row, ∃ q ∈ row,
    (∀ b ∈ row, p.nodeAxis d ≤ b.nodeAxis d ∧ b.nodeAxis d ≤ q.nodeAxis d) ∧
      p.nodeAxis d + q.nodeAxis d = 2 * offset

/-- **A rank lies evenly around its offset.** -/
theorem centred_placeRank (o : LayoutOptions ℚ) (extent : String → ℚ) (offset : ℚ) (r : Nat)
    (hids : ids ≠ []) : Centred o.direction (placeRank o extent offset r ids) offset := by
  have hne : (lineUp o.nodeGap extent zero ids).map (·.2) ≠ [] := by
    rw [← List.length_pos_iff, List.length_map, ← List.length_map Prod.fst, map_fst_lineUp]
    exact List.length_pos_iff.mpr hids
  obtain ⟨lo, hlo, hi, hhi, hbounds, hmiddle⟩ := exists_outermost hne
  obtain ⟨e, he, rfl⟩ := List.mem_map.mp hlo
  obtain ⟨f, hf, rfl⟩ := List.mem_map.mp hhi
  refine ⟨_, List.mem_map_of_mem he, _, List.mem_map_of_mem hf, fun b hb => ?_, ?_⟩
  · obtain ⟨a, ha, rfl⟩ := List.mem_map.mp hb
    obtain ⟨hlower, hupper⟩ := hbounds a.2 (List.mem_map_of_mem ha)
    simp only [Placement.nodeAxis_along]
    constructor <;> linarith
  · simp only [Placement.nodeAxis_along]
    linarith

/-- The first of two boxes ends where the second begins, or earlier. -/
def EndsBefore (d : Direction) (extent : String → ℚ) (p q : Placement ℚ) : Prop :=
  p.nodeAxis d + extent p.id ≤ q.nodeAxis d

theorem EndsBefore.trans (hextent : ∀ id, 0 ≤ extent id) {p q b : Placement ℚ}
    (hpq : EndsBefore d extent p q) (hqb : EndsBefore d extent q b) : EndsBefore d extent p b := by
  have hq := hextent q.id
  unfold EndsBefore at hpq hqb ⊢
  linarith

/-- **Where nothing is negative no two boxes overlap**, as neighbours do not. -/
theorem pairwise_of_isChain (hextent : ∀ id, 0 ≤ extent id) (hgap : 0 ≤ gap)
    (h : row.IsChain fun p q => q.nodeAxis d - p.nodeAxis d = extent p.id + gap) :
    row.Pairwise (EndsBefore d extent) := by
  have htrans : Trans (EndsBefore d extent) (EndsBefore d extent) (EndsBefore d extent) :=
    ⟨EndsBefore.trans hextent⟩
  refine (h.imp fun p q hstep => ?_).pairwise
  unfold EndsBefore
  linarith

/-! ## The rows of a layout -/

variable {boxes : List (Box ℚ)} {links : List Link} {before after : List (List String)}

theorem extentIn_nonneg (hsizes : ∀ b ∈ boxes, 0 ≤ b.width ∧ 0 ≤ b.height) (d : Direction)
    (id : String) : 0 ≤ extentIn boxes d id := by
  unfold extentIn
  split
  case h_1 b hfound =>
    obtain ⟨hwidth, hheight⟩ := hsizes b (List.mem_of_find?_eq_some hfound)
    unfold Box.extent
    split
    · exact hheight
    · exact hwidth
  case h_2 => exact le_refl 0

/-- The boxes that a layout holds of one rank of a component. -/
def rankRow (o : LayoutOptions ℚ) (boxes : List (Box ℚ)) (links : List Link) (c : List String)
    (r : Nat) : List (Placement ℚ) :=
  (layout o boxes links).filter fun p =>
    p.id ∈ c ∧ (diagram boxes links).rank o.grouping p.id = r

/-- **A layout holds one rank** behind the room of the earlier components. -/
theorem rankRow_eq (hcs : (diagram boxes links).components o.grouping = before ++ c :: after)
    (r : Nat) : rankRow o boxes links c r = placeRank o (extentIn boxes o.direction)
      (room o (extentIn boxes o.direction) before) r ((diagram boxes links).row c r) := by
  have hc : c ∈ (diagram boxes links).components o.grouping := hcs ▸ List.mem_append_cons_self
  have hoffset : offsetAfter o (extentIn boxes o.direction) zero before =
      room o (extentIn boxes o.direction) before := by
    rw [offsetAfter_eq]
    exact zero_add _
  rw [← hoffset, ← filter_layout hcs r]
  exact List.filter_congr fun p _ =>
    decide_eq_decide.mpr (mem_row_iff_rank (proper_diagram boxes links) hc).symm

/-- **The spacing of a layout.** The boxes of one rank of a component stand in its
order, each a gap behind the end of the one before, and evenly around the room of
the earlier components. With sizes and gaps that are not negative none overlaps
another. -/
theorem layout_rows (o : LayoutOptions ℚ) (boxes : List (Box ℚ)) (links : List Link)
    (before after : List (List String)) (c : List String)
    (hcs : (diagram boxes links).components o.grouping = before ++ c :: after) (r : Nat) :
    let extent := extentIn boxes o.direction
    let row := rankRow o boxes links c r
    row.map (·.id) = c.filter (fun v => (diagram boxes links).rank o.grouping v = r) ∧
      row.IsChain (fun p q =>
        q.nodeAxis o.direction - p.nodeAxis o.direction = extent p.id + o.nodeGap) ∧
      (row ≠ [] → Centred o.direction row
        (before.map fun b => max 0 (largest extent b) + o.rankGap).sum) ∧
      ((∀ b ∈ boxes, 0 ≤ b.width ∧ 0 ≤ b.height) → 0 ≤ o.nodeGap →
        row.Pairwise (EndsBefore o.direction extent)) := by
  intro extent row
  have hrow : row = placeRank o extent (room o extent before) r ((diagram boxes links).row c r) :=
    rankRow_eq hcs r
  have hids : row.map (·.id) = (diagram boxes links).row c r := by
    rw [hrow, ids_placeRank]
  have hchain : row.IsChain fun p q =>
      q.nodeAxis o.direction - p.nodeAxis o.direction = extent p.id + o.nodeGap := by
    rw [hrow]
    exact isChain_placeRank ..
  refine ⟨?_, hchain, fun hne => ?_, fun hsizes hgap => ?_⟩
  · rw [hids]
    exact row_eq_filter_rank (proper_diagram boxes links) (hcs ▸ List.mem_append_cons_self) r
  · rw [← room_eq, hrow]
    refine centred_placeRank o extent _ r fun hnil => hne ?_
    rw [← List.map_eq_nil_iff, hids, hnil]
  · exact pairwise_of_isChain (extentIn_nonneg hsizes o.direction) hgap hchain

/-- Boxes of different sizes. -/
def uneven : List (Box ℚ) :=
  [("A", 30), ("B", 80), ("C", 100), ("D", 20), ("E", 60), ("F", 40)].map
    fun (id, width) => { id, width, height := 10 }

/-- A chain next to a fan. -/
def unevenLinks : List Link :=
  [⟨"1", "A", "B"⟩, ⟨"2", "C", "D"⟩, ⟨"3", "C", "E"⟩, ⟨"4", "C", "F"⟩]

/-- Small gaps. -/
def narrow : LayoutOptions ℚ where
  nodeGap := 10
  rankGap := 20

/-- The ends of the fan stand evenly around the room of the chain, a box of 80 and a
gap of 20. -/
theorem layout_rows_uneven :
    (diagram uneven unevenLinks).components narrow.grouping =
      [["A", "B"], ["C", "D", "E", "F"]] ∧
    rankRow narrow uneven unevenLinks ["C", "D", "E", "F"] 1 =
      [⟨"D", 50, 20⟩, ⟨"E", 80, 20⟩, ⟨"F", 150, 20⟩] ∧
    Centred .topDown (rankRow narrow uneven unevenLinks ["C", "D", "E", "F"] 1) 100 ∧
    (rankRow narrow uneven unevenLinks ["C", "D", "E", "F"] 1).Pairwise
      (EndsBefore .topDown (extentIn uneven .topDown)) := by
  -- the searches end by a measure, so they are opened by their equations; what is
  -- made of their answers is computed
  have harrows : (diagram uneven unevenLinks).arrows =
      [("A", "B"), ("C", "D"), ("C", "E"), ("C", "F")] := by decide
  have hcs : (diagram uneven unevenLinks).components narrow.grouping =
      [["A", "B"]] ++ ["C", "D", "E", "F"] :: [] := by
    have hvertices : (diagram uneven unevenLinks).vertices = ["A", "B", "C", "D", "E", "F"] := by
      decide
    have hgrouping : narrow.grouping = .forward := rfl
    simp [components, componentsOf, explore, neighbours, targets, hgrouping, hvertices, harrows]
  have htable : (diagram uneven unevenLinks).rankTable ["C", "D", "E", "F"] =
      [("C", 0), ("D", 1), ("E", 1), ("F", 1)] := by
    simp [rankTable, spread, roots, without, discovered, distinct, targets, sources, harrows]
  have hids : (diagram uneven unevenLinks).row ["C", "D", "E", "F"] 1 = ["D", "E", "F"] := by
    rw [Graph.row, htable]
    decide
  have hroom : ([["A", "B"]].map fun b =>
      max 0 (largest (extentIn uneven narrow.direction) b) + narrow.rankGap).sum = 100 := by
    decide +kernel
  have hrow : rankRow narrow uneven unevenLinks ["C", "D", "E", "F"] 1 =
      [⟨"D", 50, 20⟩, ⟨"E", 80, 20⟩, ⟨"F", 150, 20⟩] := by
    rw [rankRow_eq hcs, hids, room_eq, hroom]
    with_unfolding_all rfl
  obtain ⟨-, -, hcentred, hapart⟩ := layout_rows narrow uneven unevenLinks [["A", "B"]] []
    ["C", "D", "E", "F"] hcs 1
  refine ⟨hcs, hrow, ?_, hapart (by decide) (by decide)⟩
  rw [← hroom]
  exact hcentred (by simp [hrow])

end Flowchart
