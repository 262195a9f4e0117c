import Flowchart.Proofs.Layout.Order

/-!
# What placing depends on

A component is placed by its ranks and by the sizes of its boxes; nothing else of
the graph and of the boxes is looked at (`placeComponents_congr`). What a layout
holds of one rank of a component is that rank placed at the offset behind the
earlier components (`filter_layout`).
-/

namespace Flowchart

open Flowchart.Graph Coordinate

variable {α : Type} [Coordinate α] {o : LayoutOptions α} {g g' : Graph String}
variable {boxes : List (Box α)} {links : List Link} {extent extent' : String → α} {offset : α}
variable {c ids : List String} {cs before rest : List (List String)}

/-! ## Placements that do not move -/

theorem lineUp_congr {gap start : α} (h : ∀ id ∈ ids, extent' id = extent id) :
    lineUp gap extent' start ids = lineUp gap extent start ids := by
  induction ids generalizing start with
  | nil => rfl
  | cons id ids ih =>
    rw [List.forall_mem_cons] at h
    rw [lineUp, lineUp, h.1, ih h.2]

/-- A component is placed by its ranks and by the sizes of its boxes. -/
theorem placeComponent_congr (hranked : g'.ranked c = g.ranked c)
    (hextent : ∀ id ∈ c, extent' id = extent id) :
    placeComponent o g' extent' offset c = placeComponent o g extent offset c := by
  obtain ⟨top, hrows, -⟩ := exists_ranked_eq g c
  rw [placeComponent, placeComponent, hranked]
  refine List.flatMap_congr fun e he => ?_
  rw [hrows] at he
  obtain ⟨r, -, rfl⟩ := List.mem_map.mp he
  simp only [placeRank, lineUp_congr fun id hid => hextent id (mem_row.mp hid).1]

/-- Several components are placed as before if each is. -/
theorem placeComponents_congr (hranked : ∀ c ∈ cs, g'.ranked c = g.ranked c)
    (hextent : ∀ c ∈ cs, ∀ id ∈ c, extent' id = extent id) :
    placeComponents o g' extent' offset cs = placeComponents o g extent offset cs := by
  induction cs generalizing offset with
  | nil => rfl
  | cons c cs ih =>
    rw [List.forall_mem_cons] at hranked hextent
    have hwidest : widest extent' c = widest extent c := by
      rw [widest, widest, List.map_congr_left hextent.1]
    rw [placeComponents, placeComponents, placeComponent_congr hranked.1 hextent.1, hwidest,
      ih hranked.2 hextent.2]

/-! ## One rank of a layout -/

/-- All but one of the lists that are put together are empty. -/
theorem flatMap_eq_of_forall_ne {β γ : Type} {l : List β} {f : β → List γ} {b : β}
    (hl : l.Nodup) (hb : b ∉ l → f b = []) (h : ∀ a, a ≠ b → f a = []) : l.flatMap f = f b := by
  by_cases hmem : b ∈ l
  · obtain ⟨front, back, rfl⟩ := List.append_of_mem hmem
    obtain ⟨-, hback, hdisjoint⟩ := List.nodup_append'.mp hl
    have hfront : front.flatMap f = [] := List.flatMap_eq_nil_iff.mpr fun a ha =>
      h a fun he => hdisjoint ha (he ▸ List.mem_cons_self)
    have hrest : back.flatMap f = [] := List.flatMap_eq_nil_iff.mpr fun a ha =>
      h a fun he => (List.nodup_cons.mp hback).1 (he ▸ ha)
    rw [List.flatMap_append, List.flatMap_cons, hfront, hrest, List.nil_append, List.append_nil]
  · rw [hb hmem]
    exact List.flatMap_eq_nil_iff.mpr fun a ha => h a fun he => hmem (he ▸ ha)

/-- Of a component the boxes of one rank are that rank. -/
theorem filter_placeComponent (o : LayoutOptions α) (g : Graph String) (extent : String → α)
    (offset : α) (c : List String) (r : Nat) :
    (placeComponent o g extent offset c).filter (·.id ∈ g.row c r) =
      placeRank o extent offset r (g.row c r) := by
  have hdrop : ∀ r', r' ≠ r →
      (placeRank o extent offset r' (g.row c r')).filter (·.id ∈ g.row c r) = [] := by
    refine fun r' hne => List.filter_eq_nil_iff.mpr fun p hp hrow => hne ?_
    have hid := mem_row.mp (rankAxis_of_mem_placeRank hp).1
    exact hid.2.symm.trans (mem_row.mp (of_decide_eq_true hrow)).2
  have hkeep : (placeRank o extent offset r (g.row c r)).filter (·.id ∈ g.row c r) =
      placeRank o extent offset r (g.row c r) :=
    List.filter_eq_self.mpr fun p hp => decide_eq_true (rankAxis_of_mem_placeRank hp).1
  obtain ⟨top, hranked, htop⟩ := exists_ranked_eq g c
  rw [placeComponent, hranked, List.flatMap_map, List.filter_flatMap,
    flatMap_eq_of_forall_ne List.nodup_range (fun hr => ?_) hdrop, hkeep]
  -- a rank above the highest has no boxes
  have hrow : g.row c r = [] := by
    refine List.filter_eq_nil_iff.mpr fun v hv hvr => hr (List.mem_range.mpr ?_)
    have hv := htop v hv
    have hvr := of_decide_eq_true hvr
    omega
  rw [hrow]
  rfl

/-- Of components without a vertex of the given one no box is kept. -/
theorem filter_placeComponents_eq_nil (h : ∀ b ∈ cs, b.Disjoint c) (r : Nat) :
    (placeComponents o g extent offset cs).filter (·.id ∈ g.row c r) = [] := by
  refine List.filter_eq_nil_iff.mpr fun p hp hrow => ?_
  obtain ⟨b, hb, hpb, -⟩ := rankAxis_of_mem_placeComponents hp
  exact h b hb hpb (mem_row.mp (of_decide_eq_true hrow)).1

/-- **What a layout holds of one rank.** -/
theorem filter_layout (hcs : (diagram boxes links).components o.grouping = before ++ c :: rest)
    (r : Nat) : (layout o boxes links).filter (·.id ∈ (diagram boxes links).row c r) =
      placeRank o (extentIn boxes o.direction)
        (offsetAfter o (extentIn boxes o.direction) zero before) r
        ((diagram boxes links).row c r) := by
  have hdisjoint : ((diagram boxes links).components o.grouping).Pairwise List.Disjoint :=
    disjoint_componentsOf (proper_diagram boxes links).nodup
  rw [hcs, List.pairwise_append, List.pairwise_cons] at hdisjoint
  obtain ⟨-, ⟨hrest, -⟩, hbefore⟩ := hdisjoint
  rw [layout_eq, hcs, placeComponents_append, placeComponents, List.filter_append,
    List.filter_append, filter_placeComponent,
    filter_placeComponents_eq_nil fun b hb => hbefore b hb c List.mem_cons_self,
    filter_placeComponents_eq_nil fun b hb => (hrest b hb).symm, List.nil_append, List.append_nil]

end Flowchart
