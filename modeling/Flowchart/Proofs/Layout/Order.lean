import Flowchart.Layout.Place
import Flowchart.Proofs.Graph.Grouping

/-!
# The order of a layout and its rank axis

A layout places every id once, group by group in the order of their leaders,
and inside a group rank by rank; along the rank axis a box is as many gaps away
from the start as its rank says (`Arranged`, `arranged_layout`). What groups and
ranks are is told by the graph alone. Along outgoing arrows a group is what one
vertex was the first to reach, and ranks are distances from it
(`layout_forward`); in both directions it is what is joined, and ranks are
distances from the vertices that no arrow enters (`layout_undirected`).
-/

namespace Flowchart

open Flowchart.Graph Coordinate

variable {α : Type} [Coordinate α]
variable {o : LayoutOptions α} {g : Graph String} {extent : String → α} {offset : α}
variable {c : List String} {cs : List (List String)} {p : Placement α} {d : Direction}

/-- The graph of some boxes with links between them. -/
def diagram (boxes : List (Box α)) (links : List Link) : Graph String :=
  .between (boxes.map (·.id)) (links.map fun l => (l.source, l.target))

omit [Coordinate α] in
theorem proper_diagram (boxes : List (Box α)) (links : List Link) :
    (diagram boxes links).Proper :=
  proper_between _ _

theorem layout_eq (o : LayoutOptions α) (boxes : List (Box α)) (links : List Link) :
    layout o boxes links = placeComponents o (diagram boxes links)
      (extentIn boxes o.direction) zero ((diagram boxes links).components o.grouping) := rfl

namespace Placement

/-- The coordinate along the axis on which the boxes of a rank stand side by
side. -/
def nodeAxis (d : Direction) (p : Placement α) : α :=
  if d.isHorizontal then p.y else p.x

/-- The coordinate along the axis on which the ranks follow one another. -/
def rankAxis (d : Direction) (p : Placement α) : α :=
  if d.isHorizontal then p.x else p.y

omit [Coordinate α] in
@[simp]
theorem id_along (d : Direction) (id : String) (node rank : α) :
    (along d id node rank).id = id := by
  unfold along
  split <;> rfl

omit [Coordinate α] in
@[simp]
theorem nodeAxis_along (d : Direction) (id : String) (node rank : α) :
    (along d id node rank).nodeAxis d = node := by
  unfold along nodeAxis
  split <;> rfl

omit [Coordinate α] in
@[simp]
theorem rankAxis_along (d : Direction) (id : String) (node rank : α) :
    (along d id node rank).rankAxis d = rank := by
  unfold along rankAxis
  split <;> rfl

end Placement

/-! ## Which ids are placed -/

theorem map_fst_lineUp (gap : α) (extent : String → α) (start : α) (ids : List String) :
    (lineUp gap extent start ids).map Prod.fst = ids := by
  induction ids generalizing start with
  | nil => rfl
  | cons id ids ih => rw [lineUp, List.map_cons, ih]

theorem ids_placeRank (o : LayoutOptions α) (extent : String → α) (offset : α) (r : Nat)
    (ids : List String) : (placeRank o extent offset r ids).map (·.id) = ids := by
  conv_rhs => rw [← map_fst_lineUp o.nodeGap extent zero ids]
  rw [placeRank, List.map_map]
  exact List.map_congr_left fun e _ => Placement.id_along ..

theorem ids_placeComponent (o : LayoutOptions α) (g : Graph String) (extent : String → α)
    (offset : α) (c : List String) :
    (placeComponent o g extent offset c).map (·.id) = (g.ranked c).flatMap Prod.snd := by
  rw [placeComponent, List.map_flatMap]
  exact List.flatMap_congr fun e _ => ids_placeRank ..

theorem ids_placeComponents (o : LayoutOptions α) (g : Graph String) (extent : String → α)
    (offset : α) (cs : List (List String)) : (placeComponents o g extent offset cs).map (·.id) =
      cs.flatMap fun c => (g.ranked c).flatMap Prod.snd := by
  induction cs generalizing offset with
  | nil => rfl
  | cons c cs ih =>
    rw [placeComponents, List.map_append, ids_placeComponent, ih, List.flatMap_cons]

/-! ## Components side by side -/

/-- The offset behind some components, the first of which is at the given
offset. -/
def offsetAfter (o : LayoutOptions α) (extent : String → α) (offset : α)
    (cs : List (List String)) : α :=
  cs.foldl (fun offset c => offset + (widest extent c + o.rankGap)) offset

/-- **Components are placed one behind the other.** -/
theorem placeComponents_append (o : LayoutOptions α) (g : Graph String) (extent : String → α)
    (offset : α) (cs ds : List (List String)) : placeComponents o g extent offset (cs ++ ds) =
      placeComponents o g extent offset cs ++
        placeComponents o g extent (offsetAfter o extent offset cs) ds := by
  induction cs generalizing offset with
  | nil => rfl
  | cons c cs ih =>
    rw [List.cons_append, placeComponents, placeComponents, ih, List.append_assoc]
    rfl

/-! ## Where they are placed along the rank axis -/

theorem rankAxis_of_mem_placeRank {r : Nat} {ids : List String}
    (hp : p ∈ placeRank o extent offset r ids) :
    p.id ∈ ids ∧ p.rankAxis o.direction = rankPosition o r := by
  refine ⟨?_, ?_⟩
  · rw [← ids_placeRank o extent offset r ids]
    exact List.mem_map_of_mem hp
  · obtain ⟨e, -, rfl⟩ := List.mem_map.mp hp
    exact Placement.rankAxis_along ..

theorem rankAxis_of_mem_placeComponent (hp : p ∈ placeComponent o g extent offset c) :
    p.id ∈ c ∧ p.rankAxis o.direction = rankPosition o (rankIn (g.rankTable c) p.id) := by
  obtain ⟨e, he, hp⟩ := List.mem_flatMap.mp hp
  obtain ⟨hid, haxis⟩ := rankAxis_of_mem_placeRank hp
  obtain ⟨top, hranked, -⟩ := exists_ranked_eq g c
  rw [hranked] at he
  obtain ⟨r, -, rfl⟩ := List.mem_map.mp he
  obtain ⟨hmem, hrank⟩ := mem_row.mp hid
  exact ⟨hmem, hrank ▸ haxis⟩

theorem rankAxis_of_mem_placeComponents (hp : p ∈ placeComponents o g extent offset cs) :
    ∃ c ∈ cs, p.id ∈ c ∧
      p.rankAxis o.direction = rankPosition o (rankIn (g.rankTable c) p.id) := by
  induction cs generalizing offset with
  | nil => exact absurd hp List.not_mem_nil
  | cons c cs ih =>
    rcases List.mem_append.mp hp with hfirst | hlater
    · exact ⟨c, List.mem_cons_self, rankAxis_of_mem_placeComponent hfirst⟩
    · obtain ⟨d, hd, h⟩ := ih hlater
      exact ⟨d, List.mem_cons_of_mem c hd, h⟩

/-! ## The arrangement -/

/-- Placements in the order of their groups, each group in the order of its
ranks, and as far along the rank axis as these say. Groups are told apart and
ordered by the ids that lead them. -/
structure Arranged (o : LayoutOptions α) (ids : List String) (leader : String → String)
    (rank : String → Nat) (placements : List (Placement α)) : Prop where
  /-- Every id is placed once. -/
  perm : (placements.map (·.id)).Perm ids
  /-- A group comes before those with later leaders, and in it the lower ranks
  before the higher. -/
  ordered : placements.Pairwise fun p q =>
    ids.idxOf (leader p.id) < ids.idxOf (leader q.id) ∨
      leader p.id = leader q.id ∧ rank p.id ≤ rank q.id
  /-- Ranks are a fixed distance apart, and run backwards if the direction
  does. -/
  rankAxis_eq : ∀ p ∈ placements, p.rankAxis o.direction =
    if o.direction.isReversed then zero - ofNat (rank p.id) * o.rankGap
    else ofNat (rank p.id) * o.rankGap

/-- A layout places the ids component by component and rank by rank. -/
theorem ids_layout (o : LayoutOptions α) (boxes : List (Box α)) (links : List Link) :
    let g := diagram boxes links
    (layout o boxes links).map (·.id) =
      (g.components o.grouping).flatMap fun c => (g.ranked c).flatMap Prod.snd := by
  rw [layout_eq, ids_placeComponents]

/-- **A layout is arranged** by the groups and ranks of its graph. -/
theorem arranged_layout (o : LayoutOptions α) (boxes : List (Box α)) (links : List Link) :
    let g := diagram boxes links
    Arranged o g.vertices (g.leader o.grouping) (g.rank o.grouping) (layout o boxes links) := by
  intro g
  have hg : g.Proper := proper_diagram boxes links
  have hids := ids_layout o boxes links
  constructor
  · rw [hids]
    exact flatMap_ranked_perm hg o.grouping
  · have hordered := pairwise_flatMap_ranked hg o.grouping
    rwa [← hids, List.pairwise_map] at hordered
  · intro p hp
    rw [layout_eq] at hp
    obtain ⟨c, hc, hpc, haxis⟩ := rankAxis_of_mem_placeComponents hp
    rw [haxis, rank_eq hg hc hpc]
    rfl

/-- **The layout along outgoing arrows.** The groups are led by the first ids
that reach their boxes, and the ranks are distances from these in the whole
graph. -/
theorem layout_forward (o : LayoutOptions α) (boxes : List (Box α)) (links : List Link)
    (hforward : o.grouping = .forward) :
    let g := diagram boxes links
    ∃ leader rank, (∀ v ∈ g.vertices, foremost g.Reaches g.vertices v = some (leader v) ∧
        IsLeast {n | Steps g.Arrow n (leader v) v} (rank v)) ∧
      Arranged o g.vertices leader rank (layout o boxes links) := by
  intro g
  have hg : g.Proper := proper_diagram boxes links
  refine ⟨g.leader .forward, g.rank .forward, fun v hv => ?_, ?_⟩
  · rw [← leads_forward]
    exact ⟨foremost_leader hg .forward hv, isLeast_rank_forward hg hv⟩
  · rw [← hforward]
    exact arranged_layout o boxes links

/-- Boxes in an order that is not that of the links, one of them repeated. -/
def scattered : List (Box Float) :=
  ["C", "A", "B", "A", "X", "D"].map fun id => { id, width := 80.0, height := 40.0 }

/-- A cycle that leads to what stands before it, a box linked with itself that
something leads to, and a link from nowhere. -/
def scatteredLinks : List Link :=
  [⟨"1", "A", "B"⟩, ⟨"2", "A", "C"⟩, ⟨"3", "X", "X"⟩, ⟨"4", "B", "A"⟩, ⟨"5", "Z", "B"⟩,
    ⟨"6", "D", "X"⟩]

theorem layout_forward_scattered :
    LayoutOptions.standard.grouping = .forward ∧
    (diagram scattered scatteredLinks).vertices = ["C", "A", "B", "X", "D"] ∧
    let g := diagram scattered scatteredLinks
    ∃ leader rank, (∀ v ∈ g.vertices, foremost g.Reaches g.vertices v = some (leader v) ∧
        IsLeast {n | Steps g.Arrow n (leader v) v} (rank v)) ∧
      Arranged .standard g.vertices leader rank (layout .standard scattered scatteredLinks) :=
  ⟨rfl, by decide, layout_forward .standard scattered scatteredLinks rfl⟩

/-- **The layout in both directions.** The groups are what is joined, led by
their first ids, and the ranks are distances from the boxes of a group that no
link enters, or from its leader if a link enters each. A box to which no way
leads from these has rank 0. -/
theorem layout_undirected (o : LayoutOptions α) (boxes : List (Box α)) (links : List Link)
    (hundirected : o.grouping = .undirected) :
    let g := diagram boxes links
    ∃ leader rank, (∀ v ∈ g.vertices, foremost g.Joined g.vertices v = some (leader v) ∧
        g.IsRank (g.seeds (leader v)) v (rank v)) ∧
      Arranged o g.vertices leader rank (layout o boxes links) := by
  intro g
  have hg : g.Proper := proper_diagram boxes links
  refine ⟨g.leader .undirected, g.rank .undirected, fun v hv => ?_, ?_⟩
  · rw [← leads_undirected]
    exact ⟨foremost_leader hg .undirected hv, isRank_rank_undirected hg hv⟩
  · rw [← hundirected]
    exact arranged_layout o boxes links

/-- The options for groups in both directions. -/
def LayoutOptions.joined : LayoutOptions Float :=
  { LayoutOptions.standard with grouping := .undirected }

theorem layout_undirected_scattered :
    LayoutOptions.joined.grouping = .undirected ∧
    (diagram scattered scatteredLinks).vertices = ["C", "A", "B", "X", "D"] ∧
    let g := diagram scattered scatteredLinks
    ∃ leader rank, (∀ v ∈ g.vertices, foremost g.Joined g.vertices v = some (leader v) ∧
        g.IsRank (g.seeds (leader v)) v (rank v)) ∧
      Arranged .joined g.vertices leader rank (layout .joined scattered scatteredLinks) :=
  ⟨rfl, by decide, layout_undirected .joined scattered scatteredLinks rfl⟩

end Flowchart
