import Flowchart.Proofs.Layout.Spacing

/-!
# Which groups stand apart

The groups of a diagram follow one another along the node axis, but the offset
of the next only leaves room for the widest box of a group, not for its widest
rank (`offsetAfter_eq`). What a layout holds of a group at one place along the
rank axis is one rank around the offset of the group (`rowAt_rankPosition`). Two
such ranks are therefore apart if half of either and the last box of the
first fit between the offsets, and only then; ranks of a single box always do
(`layout_apart_iff`).
-/

namespace Flowchart

open Flowchart.Graph

variable {o : LayoutOptions ℚ} {extent : String → ℚ} {offset offset' x : ℚ} {r r' : Nat}
variable {ids ids' : List String} {boxes : List (Box ℚ)} {links : List Link}
variable {before rest : List (List String)} {c d : List String} {id : String}

/-- The boxes in front end where those in the back begin, or earlier. -/
def Apart (d : Direction) (extent : String → ℚ) (front back : List (Placement ℚ)) : Prop :=
  ∀ p ∈ front, ∀ q ∈ back, p.nodeAxis d + extent p.id ≤ q.nodeAxis d

theorem getLast?_ids_placeRank (o : LayoutOptions ℚ) (extent : String → ℚ) (offset : ℚ) (r : Nat)
    (ids : List String) :
    ids.getLast? = (placeRank o extent offset r ids).getLast?.map (·.id) := by
  rw [← List.getLast?_map, ids_placeRank]

/-- Half of either row and the last box of the one in front fit into some room. -/
def Fits (gap : ℚ) (extent : String → ℚ) (front back : List (Placement ℚ)) (room : ℚ) : Prop :=
  ∀ last ∈ front.getLast?, back ≠ [] →
    rowSpan gap extent (front.map (·.id)) / 2 + extent last.id +
      rowSpan gap extent (back.map (·.id)) / 2 ≤ room

/-- **Two ranks are apart** if they fit between their offsets, and only then. -/
theorem apart_placeRank_iff (hgap : 0 ≤ o.nodeGap) (hextent : ∀ id, 0 ≤ extent id) :
    Apart o.direction extent (placeRank o extent offset r ids)
        (placeRank o extent offset' r' ids') ↔
      Fits o.nodeGap extent (placeRank o extent offset r ids)
        (placeRank o extent offset' r' ids') (offset' - offset) := by
  have hids := getLast?_ids_placeRank o extent offset r ids
  have hids' := getLast?_ids_placeRank o extent offset' r' ids'
  rw [Fits, ids_placeRank, ids_placeRank]
  constructor
  · intro hapart last hlast hne
    rw [Option.mem_def.mp hlast, Option.map_some] at hids
    have hne' : ids' ≠ [] := by
      rintro rfl
      exact hne rfl
    obtain ⟨p, hp, hpid, hpaxis⟩ := exists_last_placeRank hgap hextent hids
    obtain ⟨q, hq, hqaxis⟩ := exists_first_placeRank hgap hextent hne'
    have hpq := hapart p hp q hq
    rw [hpaxis, hqaxis, hpid] at hpq
    linarith
  · intro hfits p hp q hq
    have hlast := List.getLast?_eq_some_getLast (List.ne_nil_of_mem hp)
    rw [hlast, Option.map_some] at hids
    rw [List.getLast?_eq_some_getLast (List.ne_nil_of_mem hq), Option.map_some] at hids'
    have hend := (bounds_placeRank hgap hextent hids hp).2
    have hbegin := (bounds_placeRank hgap hextent hids' hq).1
    have hroom := hfits _ hlast (List.ne_nil_of_mem hq)
    linarith

/-- A row of a single box does not span anything. -/
theorem rowSpan_eq_zero {gap : ℚ} (h : ids.length ≤ 1) : rowSpan gap extent ids = 0 := by
  have hnil : ids.dropLast = [] := by
    rw [← List.length_eq_zero_iff, List.length_dropLast]
    omega
  rw [rowSpan, hnil]
  rfl

/-- Single boxes fit if the one in front does. -/
theorem fits_of_length_le_one {gap room : ℚ} {front back : List (Placement ℚ)}
    (hfront : front.length ≤ 1) (hback : back.length ≤ 1)
    (hroom : ∀ p ∈ front, extent p.id ≤ room) : Fits gap extent front back room := by
  intro last hlast _
  have hlast := hroom last (List.mem_of_getLast? hlast)
  rw [rowSpan_eq_zero (by rwa [List.length_map]), rowSpan_eq_zero (by rwa [List.length_map])]
  linarith

/-! ## One rank of a layout -/

/-- The boxes of a group that a layout puts at one place along the rank axis. -/
def rowAt (o : LayoutOptions ℚ) (boxes : List (Box ℚ)) (links : List Link) (c : List String)
    (x : ℚ) : List (Placement ℚ) :=
  (layout o boxes links).filter fun p => p.id ∈ c ∧ p.rankAxis o.direction = x

/-- No two ranks are at the same place. -/
theorem rankPosition_injective (hrank : 0 < o.rankGap) :
    Function.Injective (rankPosition o) := by
  intro r r' h
  have hdistance : (r : ℚ) * o.rankGap = r' * o.rankGap := by
    unfold rankPosition at h
    split at h
    · exact sub_right_inj.mp h
    · exact h
  exact Nat.cast_injective (mul_right_cancel₀ hrank.ne' hdistance)

/-- **A layout holds one rank** of a component at one place. -/
theorem rowAt_rankPosition (hrank : 0 < o.rankGap)
    (hcs : (diagram boxes links).components o.grouping = before ++ c :: rest) (r : Nat) :
    rowAt o boxes links c (rankPosition o r) = placeRank o (extentIn boxes o.direction)
      (offsetAfter o (extentIn boxes o.direction) 0 before) r ((diagram boxes links).row c r) := by
  refine (List.filter_congr fun p hp => decide_eq_decide.mpr ?_).trans (filter_layout hcs r)
  have haxis : p.rankAxis o.direction =
      rankPosition o ((diagram boxes links).rank o.grouping p.id) :=
    (arranged_layout o boxes links).rankAxis_eq p hp
  rw [haxis, (rankPosition_injective hrank).eq_iff]
  exact (mem_row_iff_rank (proper_diagram boxes links) (hcs ▸ List.mem_append_cons_self)).symm

/-- And nothing elsewhere. -/
theorem rowAt_eq_nil (hx : ∀ r, rankPosition o r ≠ x) : rowAt o boxes links c x = [] := by
  refine List.filter_eq_nil_iff.mpr fun p hp => ?_
  rw [layout_eq] at hp
  obtain ⟨b, -, -, haxis⟩ := rankAxis_of_mem_placeComponents hp
  have hother := hx (rankIn ((diagram boxes links).rankTable b) p.id)
  rw [← haxis] at hother
  simp [hother]

/-! ## Groups side by side -/

/-- **What keeps two groups apart.** The boxes that the later of two groups has
at one place along the rank axis begin behind the ends of those of the earlier
one if and only if the two rows fit into the room from the one group to the
other. Rows of a single box do. -/
theorem layout_apart_iff (o : LayoutOptions ℚ) (boxes : List (Box ℚ)) (links : List Link)
    (hsizes : ∀ b ∈ boxes, 0 ≤ b.width ∧ 0 ≤ b.height) (hgap : 0 ≤ o.nodeGap)
    (hrank : 0 < o.rankGap) (before between after : List (List String)) (c d : List String)
    (hcs : (diagram boxes links).components o.grouping = before ++ c :: (between ++ d :: after))
    (x : ℚ) :
    let extent := extentIn boxes o.direction
    let front := rowAt o boxes links c x
    let back := rowAt o boxes links d x
    (Apart o.direction extent front back ↔
        Fits o.nodeGap extent front back (room o extent (c :: between))) ∧
      (front.length ≤ 1 → back.length ≤ 1 → Apart o.direction extent front back) := by
  intro extent front back
  have hextent : ∀ id, 0 ≤ extent id := extentIn_nonneg hsizes o.direction
  have hiff : Apart o.direction extent front back ↔
      Fits o.nodeGap extent front back (room o extent (c :: between)) := by
    by_cases hx : ∃ r, rankPosition o r = x
    · obtain ⟨r, rfl⟩ := hx
      have hcs' : (diagram boxes links).components o.grouping =
          (before ++ c :: between) ++ d :: after := by
        rw [hcs, List.append_assoc, List.cons_append]
      have hfront : front = _ := rowAt_rankPosition hrank hcs r
      have hback : back = _ := rowAt_rankPosition hrank hcs' r
      have hroom : offsetAfter o extent 0 (before ++ c :: between) -
          offsetAfter o extent 0 before = room o extent (c :: between) := by
        rw [offsetAfter_eq, offsetAfter_eq, room_append]
        ring
      rw [hfront, hback, apart_placeRank_iff hgap hextent, hroom]
    · -- where no rank is, there is nothing to keep apart
      have hfront : front = [] := rowAt_eq_nil (not_exists.mp hx)
      rw [hfront]
      exact iff_of_true (fun p hp => absurd hp List.not_mem_nil) (fun p hp => absurd hp (by simp))
  refine ⟨hiff, fun hsingle hsingle' => hiff.mpr (fits_of_length_le_one hsingle hsingle' ?_)⟩
  intro p hp
  have hmem : p.id ∈ c := (of_decide_eq_true (List.mem_filter.mp hp).2).1
  have hwidest : extent p.id ≤ widest extent c := extent_le_widest hmem
  have hbetween := room_nonneg hrank.le extent between
  rw [room_cons]
  linarith

/-- Gaps as they are unless others are chosen. -/
def evenly : LayoutOptions ℚ where
  nodeGap := 50
  rankGap := 100

/-- Boxes of one size. -/
def tiles : List (Box ℚ) :=
  ["A", "B", "C", "D", "E", "F"].map fun id => { id, width := 100, height := 40 }

/-- A fan of three next to a chain. -/
def fanLinks : List Link :=
  [⟨"1", "A", "B"⟩, ⟨"2", "A", "C"⟩, ⟨"3", "A", "D"⟩, ⟨"4", "E", "F"⟩]

theorem arrows_fan : (diagram tiles fanLinks).arrows =
    [("A", "B"), ("A", "C"), ("A", "D"), ("E", "F")] := by decide

theorem components_fan :
    (diagram tiles fanLinks).components evenly.grouping = [["A", "B", "C", "D"], ["E", "F"]] := by
  have hvertices : (diagram tiles fanLinks).vertices = ["A", "B", "C", "D", "E", "F"] := by decide
  have hgrouping : evenly.grouping = .forward := rfl
  simp [components, componentsOf, explore, neighbours, targets, hgrouping, hvertices, arrows_fan]

/-- The last box of the fan ends at 250, but the chain begins at 200. -/
theorem layout_fan : layout evenly tiles fanLinks = [⟨"A", 0, 0⟩, ⟨"B", -150, 100⟩,
    ⟨"C", 0, 100⟩, ⟨"D", 150, 100⟩, ⟨"E", 200, 0⟩, ⟨"F", 200, 100⟩] := by
  have hfan : (diagram tiles fanLinks).rankTable ["A", "B", "C", "D"] =
      [("A", 0), ("B", 1), ("C", 1), ("D", 1)] := by
    simp [rankTable, spread, roots, without, discovered, distinct, targets, sources, arrows_fan]
  have hchain : (diagram tiles fanLinks).rankTable ["E", "F"] = [("E", 0), ("F", 1)] := by
    simp [rankTable, spread, roots, without, discovered, distinct, targets, sources, arrows_fan]
  simp only [layout_eq, components_fan, placeComponents, placeComponent, ranked, hfan, hchain]
  with_unfolding_all rfl

/-- The fan and the chain are apart where they begin, but behind that the fan is
wider than the room that is left for it. -/
theorem layout_apart_iff_fan :
    (∀ b ∈ tiles, 0 ≤ b.width ∧ 0 ≤ b.height) ∧ 0 ≤ evenly.nodeGap ∧ 0 < evenly.rankGap ∧
    (diagram tiles fanLinks).components evenly.grouping = [["A", "B", "C", "D"], ["E", "F"]] ∧
    Apart .topDown (extentIn tiles .topDown) (rowAt evenly tiles fanLinks ["A", "B", "C", "D"] 0)
      (rowAt evenly tiles fanLinks ["E", "F"] 0) ∧
    ¬ Apart .topDown (extentIn tiles .topDown)
      (rowAt evenly tiles fanLinks ["A", "B", "C", "D"] 100)
      (rowAt evenly tiles fanLinks ["E", "F"] 100) := by
  have hsizes : ∀ b ∈ tiles, 0 ≤ b.width ∧ 0 ≤ b.height := by decide
  have happly := layout_apart_iff evenly tiles fanLinks hsizes (by decide) (by decide) [] [] []
    ["A", "B", "C", "D"] ["E", "F"] components_fan
  refine ⟨hsizes, by decide, by decide, components_fan, (happly 0).2 ?_ ?_, fun hapart => ?_⟩
  · have hfan : rowAt evenly tiles fanLinks ["A", "B", "C", "D"] 0 = [⟨"A", 0, 0⟩] := by
      rw [rowAt, layout_fan]
      with_unfolding_all rfl
    rw [hfan, List.length_singleton]
  · have hchain : rowAt evenly tiles fanLinks ["E", "F"] 0 = [⟨"E", 200, 0⟩] := by
      rw [rowAt, layout_fan]
      with_unfolding_all rfl
    rw [hchain, List.length_singleton]
  · have hfan : rowAt evenly tiles fanLinks ["A", "B", "C", "D"] 100 =
        [⟨"B", -150, 100⟩, ⟨"C", 0, 100⟩, ⟨"D", 150, 100⟩] := by
      rw [rowAt, layout_fan]
      with_unfolding_all rfl
    have hchain : rowAt evenly tiles fanLinks ["E", "F"] 100 = [⟨"F", 200, 100⟩] := by
      rw [rowAt, layout_fan]
      with_unfolding_all rfl
    have hroom := (happly 100).1.mp hapart ⟨"D", 150, 100⟩ (by rw [hfan]; rfl) (by simp [hchain])
    simp only [hfan, hchain] at hroom
    exact absurd hroom (by decide +kernel)

/-- Groups overlap where a rank is wider than the widest box and the gap behind
it. -/
theorem layout_overlaps : ¬ ∀ (o : LayoutOptions ℚ) (boxes : List (Box ℚ)) (links : List Link),
    (∀ b ∈ boxes, 0 ≤ b.width ∧ 0 ≤ b.height) → 0 ≤ o.nodeGap → 0 < o.rankGap →
    ∀ before between after c d,
      (diagram boxes links).components o.grouping = before ++ c :: (between ++ d :: after) →
    ∀ p ∈ layout o boxes links, ∀ q ∈ layout o boxes links, p.id ∈ c → q.id ∈ d →
      p.rankAxis o.direction = q.rankAxis o.direction →
      p.nodeAxis o.direction + extentIn boxes o.direction p.id ≤ q.nodeAxis o.direction := by
  intro h
  have hend : (150 : ℚ) + 100 ≤ 200 := by
    refine h evenly tiles fanLinks (by decide) (by decide) (by decide) [] [] [] _ _
      components_fan ⟨"D", 150, 100⟩ ?_ ⟨"F", 200, 100⟩ ?_ (by decide) (by decide) rfl
    · rw [layout_fan]
      simp
    · rw [layout_fan]
      simp
  norm_num at hend

end Flowchart
